import Mathlib.Data.List.Chain
import ModemScript.Proofs.Beside
import ModemScript.Proofs.Hearing

/-!
# The turns of a line

A device is told when its line is opened and closed, and can keep an account of it. A device
that keeps none, or is not even told, can be made to (`Device.logged`), and so can the ports of a
machine (`SerialPorts.logged`): the account is put beside the state, which goes on as before. So
whatever devices a program talks to, their lines can be taken to have turns, and what is said of
the turns is said of the program.

A station opens its line again if it is asked to while the line is open, and a simulated device
is told twice. As long as nobody asks for that, each of its actions keeps the turns in order: a
line that is closed may be opened, one that is open may be closed, and an exchange is no turn at
all. A serial port that cannot be made ready has had two turns when its line has had none.
-/

namespace ModemScript

variable {σ : Type}

/-! ## Turns that alternate -/

inductive Turn where
  | opened
  | closed
  deriving DecidableEq, Repr

/-- Openings and closings in turn, beginning with an opening, and whether the line is open
after them. -/
inductive Alternates : List Turn → Bool → Prop
  | nil : Alternates [] false
  | opened {turns : List Turn} : Alternates turns false → Alternates (turns ++ [.opened]) true
  | closed {turns : List Turn} : Alternates turns true → Alternates (turns ++ [.closed]) false

namespace Alternates

variable {turns : List Turn} {isOpen : Bool}

end Alternates

/-! ## Devices that keep an account -/

/-- A device's state and what has become of its line so far. -/
structure Logged (σ : Type) where
  state : σ
  turns : List Turn

def Logged.part : Part (Logged σ) σ where
  get := Logged.state
  put x state := ⟨state, x.turns⟩
  get_put _ _ := rfl
  put_put _ _ _ := rfl

namespace Device

/-- What a device answers to an opening. One that is not told has nothing against it. -/
def answerOpening (d : Device σ) (settings : Settings) (clock : Nat) (state : σ) :
    Except String Unit × σ :=
  match d.onOpen with
  | none => (.ok (), state)
  | some hook => hook settings clock state

def afterClosing (d : Device σ) (clock : Nat) (state : σ) : σ :=
  match d.onClose with
  | none => state
  | some hook => hook clock state

/-- The device, made to keep an account of its line. An opening that it refuses is none. -/
def logged (d : Device σ) : Device (Logged σ) where
  onOpen := some fun settings clock x =>
    match d.answerOpening settings clock x.state with
    | (.ok (), state) => (.ok (), ⟨state, x.turns ++ [.opened]⟩)
    | (.error message, state) => (.error message, ⟨state, x.turns⟩)
  onClose := some fun clock x => ⟨d.afterClosing clock x.state, x.turns ++ [.closed]⟩
  write bytes clock x :=
    let (result, state) := d.write bytes clock x.state
    (result, ⟨state, x.turns⟩)
  read most clock x :=
    let (bytes, state) := d.read most clock x.state
    (bytes, ⟨state, x.turns⟩)
  available clock x :=
    let (waiting, state) := d.available clock x.state
    (waiting, ⟨state, x.turns⟩)

end Device

namespace SerialPorts

/-- The ports, made to keep an account of which was opened and closed. -/
def logged (p : SerialPorts σ) : SerialPorts (Logged σ) :=
  { p.along Logged.part with
    openPort := fun options clock x =>
      match p.openPort options clock x.state with
      | ⟨.ok (), took, state⟩ => ⟨.ok (), took, ⟨state, x.turns ++ [.opened]⟩⟩
      | ⟨.error cause, took, state⟩ => ⟨.error cause, took, ⟨state, x.turns⟩⟩
    closePort := fun clock x => ⟨p.closePort clock x.state, x.turns ++ [.closed]⟩ }

theorem flush_logged (p : SerialPorts σ) (x : Logged σ) :
    Lifts Logged.part x (Timed.ask p.logged.wire.flush) (Timed.ask p.wire.flush) :=
  lifts_ask Logged.part x p.wire.flush

theorem prepare_logged (p : SerialPorts σ) (dsrDtr : Bool) (x : Logged σ) :
    Lifts Logged.part x (p.logged.prepare dsrDtr) (p.prepare dsrDtr) := by
  have hready := lifts_ask Logged.part x fun clock state =>
    (p.raiseReady clock state).mapError (LinkError.failed .ready)
  cases dsrDtr with
  | false => exact (lifts_pure Logged.part x ()).bind fun _ => p.flush_logged x
  | true => exact hready.bind fun _ => p.flush_logged x

/-- A port that is opened and ready has had one turn more, and one that is not is closed. -/
theorem connect_logged (p : SerialPorts σ) (options : PortOptions) (dsrDtr : Bool) (clock : Nat)
    (state : σ) {turns : List Turn} (hturns : Alternates turns false) :
    match p.connect options dsrDtr ⟨clock, state⟩ with
    | .ok () t => p.logged.connect options dsrDtr ⟨clock, ⟨state, turns⟩⟩ =
        .ok () ⟨t.clock, ⟨t.state, turns ++ [.opened]⟩⟩
    | .error cause t => ∃ turns', Alternates turns' false ∧
        p.logged.connect options dsrDtr ⟨clock, ⟨state, turns⟩⟩ =
          .error cause ⟨t.clock, ⟨t.state, turns'⟩⟩ := by
  have hopen : p.logged.openPort options clock ⟨state, turns⟩ =
      match p.openPort options clock state with
      | ⟨.ok (), took, state⟩ => ⟨.ok (), took, ⟨state, turns ++ [.opened]⟩⟩
      | ⟨.error cause, took, state⟩ => ⟨.error cause, took, ⟨state, turns⟩⟩ := rfl
  unfold connect Timed.ask
  simp only [hopen]
  obtain ⟨_ | _, took, after⟩ := p.openPort options clock state
  · exact ⟨turns, hturns, rfl⟩
  · have hready := p.prepare_logged dsrDtr ⟨after, turns ++ [.opened]⟩ ⟨clock + took, after⟩
    simp only [Reaction.mapError_ok, Timed.resume_ok, Part.timed, Logged.part] at hready ⊢
    rw [hready]
    cases p.prepare dsrDtr ⟨clock + took, after⟩ with
    | ok _ t => rfl
    | error cause t => exact ⟨_, hturns.opened.closed, rfl⟩

end SerialPorts

/-- The ports of a machine, and an account of what has become of them, which is nothing yet. -/
def Logged.ports (ports : SerialPorts σ × σ) : SerialPorts (Logged σ) × Logged σ :=
  (ports.1.logged, ⟨ports.2, []⟩)

/-! ## Stations with such devices -/

/-- What is done here and there gives the same, and leaves states that are so related. -/
inductive Agree {ε α S T : Type} (R : S → T → Prop) :
    EStateM.Result ε S α → EStateM.Result ε T α → Prop
  | ok {a : α} {s : S} {t : T} : R s t → Agree R (.ok a s) (.ok a t)
  | error {e : ε} {s : S} {t : T} : R s t → Agree R (.error e s) (.error e t)

theorem Agree.cases {ε α S T : Type} {R : S → T → Prop} {r : EStateM.Result ε S α}
    {r' : EStateM.Result ε T α} (h : Agree R r r') :
    (∃ a s t, r = .ok a s ∧ r' = .ok a t ∧ R s t) ∨
      ∃ e s t, r = .error e s ∧ r' = .error e t ∧ R s t := by
  cases h with
  | ok h => exact .inl ⟨_, _, _, rfl, rfl, h⟩
  | error h => exact .inr ⟨_, _, _, rfl, rfl, h⟩

theorem Agree.exists_of_ok {ε α S T : Type} {R : S → T → Prop} {r : EStateM.Result ε S α} {a : α}
    {t : T} (h : Agree R r (.ok a t)) : ∃ s, r = .ok a s ∧ R s t := by
  cases h with
  | ok h => exact ⟨_, rfl, h⟩

theorem Agree.exists_of_error {ε α S T : Type} {R : S → T → Prop} {r : EStateM.Result ε S α}
    {e : ε} {t : T} (h : Agree R r (.error e t)) : ∃ s, r = .error e s ∧ R s t := by
  cases h with
  | error h => exact ⟨_, rfl, h⟩

theorem Agree.ite {ε α S T : Type} {R : S → T → Prop} {p q : Bool}
    {a b : EStateM.Result ε S α} {a' b' : EStateM.Result ε T α} (hpq : p = q)
    (ha : Agree R a a') (hb : Agree R b b') :
    Agree R (if p then a else b) (if q then a' else b') := by
  subst hpq
  cases p with
  | true => exact ha
  | false => exact hb

namespace Channel

/-- What has become of a line of which an account is kept. -/
def turns : Channel (Logged σ) → List Turn
  | .serial line => line.elim [] (·.state.turns)
  | .simulated _ x _ => x.turns

/-- The two lines are the same but for the account that is kept of one of them, which says
whether it is open. -/
inductive Logs : Channel (Logged σ) → Channel σ → Prop
  | portless : Logs (.serial none) (.serial none)
  | serial (p : SerialPorts σ) (state : σ) {turns : List Turn} {isOpen : Bool} :
      Alternates turns isOpen →
      Logs (.serial (some ⟨p.logged, ⟨state, turns⟩, isOpen⟩)) (.serial (some ⟨p, state, isOpen⟩))
  | simulated (d : Device σ) (state : σ) {turns : List Turn} {isOpen : Bool} :
      Alternates turns isOpen →
      Logs (.simulated d.logged ⟨state, turns⟩ isOpen) (.simulated d state isOpen)

variable {line : Channel (Logged σ)} {line' : Channel σ}

theorem logs_serialTo (ports : Option (SerialPorts σ × σ)) :
    (serialTo (ports.map Logged.ports)).Logs (serialTo ports) := by
  cases ports with
  | none => exact .portless
  | some ports => exact .serial ports.1 ports.2 .nil

theorem Logs.isOpen_eq (h : line.Logs line') : line.isOpen = line'.isOpen := by
  cases h <;> rfl

theorem Logs.state?_eq (h : line.Logs line') : line.state?.map Logged.state = line'.state? := by
  cases h <;> rfl

theorem Logs.change (h : line.Logs line') (f : σ → σ) :
    (line.change fun x => ⟨f x.state, x.turns⟩).Logs (line'.change f) := by
  cases h with
  | portless => exact .portless
  | serial p state hturns => exact .serial p (f state) hturns
  | simulated d state hturns => exact .simulated d (f state) hturns

/-- What goes over the line goes over the same wire, and is no turn of it. -/
theorem Logs.wire?_cases (h : line.Logs line') :
    (line.wire? = none ∧ line'.wire? = none) ∨
      ∃ w state turns, line.wire? = some (w.along Logged.part, ⟨state, turns⟩) ∧
        line'.wire? = some (w, state) ∧
        ∀ after, (line.change fun _ => ⟨after, turns⟩).Logs (line'.change fun _ => after) := by
  cases h with
  | portless => exact .inl ⟨rfl, rfl⟩
  | @serial p state turns isOpen hturns =>
      cases isOpen with
      | false => exact .inl ⟨rfl, rfl⟩
      | true => exact .inr ⟨p.wire, state, turns, rfl, rfl, fun after => .serial p after hturns⟩
  | @simulated d state turns isOpen hturns =>
      cases isOpen with
      | false => exact .inl ⟨rfl, rfl⟩
      | true => exact .inr ⟨d.wire, state, turns, rfl, rfl, fun after => .simulated d after hturns⟩

end Channel

namespace Station

/-- The stations have the same settings, clocks and lines, and one of them keeps an account of
its line. A line that is open has a name, so that nothing keeps it from being closed. What
the stations have recorded may differ, since one of the devices is told more. -/
inductive Logs : Station (Logged σ) → Station σ → Prop
  | mk {settings : Settings} {channel : Channel (Logged σ)} {channel' : Channel σ}
      (line : channel.Logs channel')
      (named : channel'.isOpen = true → settings.device.isSome = true)
      (clock : Nat) (events events' : List Event) :
      Logs ⟨settings, channel, clock, events⟩ ⟨settings, channel', clock, events'⟩

variable {s : Station σ} {t : Station (Logged σ)}

theorem Logs.settings_eq (h : t.Logs s) : t.settings = s.settings := by
  cases h
  rfl

theorem Logs.named (h : t.Logs s) (hopen : s.isOpen = true) :
    s.settings.device.isSome = true := by
  cases h with
  | mk line named clock events events' => exact named hopen

theorem Logs.channel (h : t.Logs s) : t.channel.Logs s.channel := by
  cases h with
  | mk line named clock events events' => exact line

theorem Logs.isOpen_eq (h : t.Logs s) : t.isOpen = s.isOpen := h.channel.isOpen_eq

theorem Logs.replace (h : t.Logs s) (settings : Settings) {line : Channel (Logged σ)}
    {line' : Channel σ} (hline : line.Logs line') (hclosed : line'.isOpen = false) :
    Logs { t with settings := settings, channel := line }
      { s with settings := settings, channel := line' } := by
  cases h with
  | mk _ named clock events events' =>
      refine .mk hline (fun hopen => ?_) clock events events'
      rw [hclosed] at hopen
      cases hopen

theorem Logs.sleep (h : t.Logs s) (milliseconds : Nat) :
    (t.sleep milliseconds).Logs (s.sleep milliseconds) := by
  cases h with
  | mk line named clock events events' => exact .mk line named _ events events'

theorem Logs.record (h : t.Logs s) (e : Event) : (t.record e).Logs (s.record e) := by
  cases h with
  | mk line named clock events events' => exact .mk line named clock _ _

theorem Logs.configure (h : t.Logs s) {f : Settings → Settings}
    (hf : s.settings.device.isSome = true → (f s.settings).device.isSome = true) :
    (t.configure f).Logs (s.configure f) := by
  cases h with
  | mk line named clock events events' =>
      exact .mk line (fun hopen => hf (named hopen)) clock events events'

/-- Opening needs the name of a device and a speed. -/
theorem target?_cases (settings : Settings) :
    (∀ {τ : Type} (channel : Channel τ) (clock : Nat) (events : List Event),
      (⟨settings, channel, clock, events⟩ : Station τ).target? = none) ∨
      ∃ device baudRate, settings.device = some device ∧ settings.baudRate = some baudRate := by
  cases hdevice : settings.device with
  | none =>
      refine .inl fun channel clock events => ?_
      simp only [target?, hdevice]
      rfl
  | some device =>
      cases hrate : settings.baudRate with
      | none =>
          refine .inl fun channel clock events => ?_
          simp only [target?, hdevice, hrate]
          rfl
      | some baudRate => exact .inr ⟨device, baudRate, rfl, rfl⟩

theorem exists_openLine_eq (d : Device σ) {settings : Settings} {device : String} {baudRate : Nat}
    (hdevice : settings.device = some device) (hrate : settings.baudRate = some baudRate)
    (serialError : String → SerialError) (state : σ) (wasOpen : Bool) (clock : Nat)
    (events : List Event) :
    ∃ events', Station.openLine serialError ⟨settings, .simulated d state wasOpen, clock, events⟩ =
      match d.answerOpening settings clock state with
      | (.ok (), state) => .ok () ⟨settings, .simulated d state true, clock, events'⟩
      | (.error message, state) =>
        .error (.refused message) ⟨settings, .simulated d state wasOpen, clock, events'⟩ := by
  unfold Station.openLine Device.answerOpening
  simp only [target?, hdevice, hrate]
  cases d.onOpen with
  | none => exact ⟨events, rfl⟩
  | some hook => exact ⟨_, rfl⟩

theorem exists_openSerial_eq (l : SerialLine σ) {settings : Settings} {device : String}
    {baudRate : Nat} (hdevice : settings.device = some device)
    (hrate : settings.baudRate = some baudRate) (serialError : String → SerialError) (clock : Nat)
    (events : List Event) :
    ∃ events', Station.openLine serialError ⟨settings, .serial (some l), clock, events⟩ =
      match l.openAnew ⟨device, baudRate, settings.rtsCts, settings.timeout⟩ settings.dsrDtr
          clock with
      | .ok () t => .ok () ⟨settings, .serial (some t.state), t.clock, events'⟩
      | .error cause t => .error cause ⟨settings, .serial (some t.state), t.clock, events'⟩ := by
  unfold Station.openLine
  simp only [target?, hdevice, hrate]
  cases l.isOpen <;> exact ⟨_, rfl⟩

theorem exists_closeLine_eq (d : Device σ) (settings : Settings) (state : σ) (clock : Nat)
    (events : List Event) :
    ∃ events', Station.closeLine ⟨settings, .simulated d state true, clock, events⟩ =
      .ok () ⟨settings, .simulated d (d.afterClosing clock state) false, clock, events'⟩ := by
  unfold Station.closeLine Device.afterClosing
  simp only
  cases d.onClose with
  | none => exact ⟨events, rfl⟩
  | some hook => exact ⟨_, rfl⟩

theorem Logs.moment_eq (h : t.Logs s) : t.moment.part Logged.part = s.moment := by
  cases h with
  | mk line named clock events events' => exact congrArg (Moment.mk clock) line.state?_eq

theorem Logs.undergo (h : t.Logs s) (milliseconds : Nat) (f : σ → σ) :
    (t.undergo milliseconds fun x => ⟨f x.state, x.turns⟩).Logs (s.undergo milliseconds f) := by
  cases h with
  | mk line named clock events events' =>
      refine .mk (line.change f) (fun hopen => named ?_) _ events events'
      rwa [Channel.isOpen_change] at hopen

/-- A serial line that is closed may be opened, and has had a turn if it is open then. -/
theorem agree_openAnew (p : SerialPorts σ) (options : PortOptions) (dsrDtr : Bool) (clock : Nat)
    (state : σ) {turns : List Turn} (hturns : Alternates turns false) :
    Agree (fun t t' => t.clock = t'.clock ∧
        Channel.Logs (.serial (some t.state)) (.serial (some t'.state)))
      (SerialLine.openAnew options dsrDtr clock ⟨p.logged, ⟨state, turns⟩, false⟩)
      (SerialLine.openAnew options dsrDtr clock ⟨p, state, false⟩) := by
  have hconnect := p.connect_logged options dsrDtr clock state hturns
  unfold SerialLine.openAnew
  simp only [SerialLine.release, Bool.false_eq_true, if_false]
  cases hc : p.connect options dsrDtr ⟨clock, state⟩ with
  | error cause t =>
      rw [hc] at hconnect
      obtain ⟨turns', hturns', hlogged⟩ := hconnect
      rw [hlogged]
      exact .error ⟨rfl, .serial p t.state hturns'⟩
  | ok _ t =>
      rw [hc] at hconnect
      have hflush := p.flush_logged ⟨t.state, turns ++ [.opened]⟩ t
      simp only [Part.timed, Logged.part] at hflush
      simp only [hconnect, hflush]
      cases Timed.ask p.wire.flush t with
      | ok _ t' => exact .ok ⟨rfl, .serial p t'.state hturns.opened⟩
      | error cause t' => exact .error ⟨rfl, .serial p t'.state hturns.opened⟩

/-- A line that is closed may be opened. -/
theorem Logs.openLine (h : t.Logs s) (hclosed : s.isOpen = false)
    (serialError : String → SerialError) :
    Agree Logs (Station.openLine serialError t) (Station.openLine serialError s) := by
  obtain @⟨settings, _, _, line, named, clock, events, events'⟩ := h
  cases line with
  | portless => exact .error (.mk .portless named clock events events')
  | @serial p state turns isOpen hturns =>
      obtain rfl : isOpen = false := hclosed
      rcases target?_cases settings with hnone | ⟨device, baudRate, hdevice, hrate⟩
      · -- without a name and a speed no port is asked for
        unfold Station.openLine
        simp only [hnone]
        exact .error (.mk (.serial p state hturns) nofun clock events events')
      · obtain ⟨told, ht⟩ := exists_openSerial_eq ⟨p.logged, ⟨state, turns⟩, false⟩ hdevice hrate
          serialError clock events
        obtain ⟨told', hs⟩ := exists_openSerial_eq ⟨p, state, false⟩ hdevice hrate serialError
          clock events'
        have named' : settings.device.isSome = true := by rw [hdevice]; rfl
        rw [ht, hs]
        rcases (agree_openAnew p ⟨device, baudRate, settings.rtsCts, settings.timeout⟩
            settings.dsrDtr clock state hturns).cases with
          ⟨_, x, x', hx, hx', hclock, hline⟩ | ⟨cause, x, x', hx, hx', hclock, hline⟩
        · simp only [hx, hx', hclock]
          exact .ok (.mk hline (fun _ => named') x'.clock told told')
        · simp only [hx, hx', hclock]
          exact .error (.mk hline (fun _ => named') x'.clock told told')
  | @simulated d state turns isOpen hturns =>
      obtain rfl : isOpen = false := hclosed
      rcases target?_cases settings with hnone | ⟨device, baudRate, hdevice, hrate⟩
      · -- without a name and a speed the device is not even told
        unfold Station.openLine
        simp only [hnone]
        exact .error (.mk (.simulated d state hturns) nofun clock events events')
      · obtain ⟨told, ht⟩ := exists_openLine_eq d.logged hdevice hrate serialError
          ⟨state, turns⟩ false clock events
        obtain ⟨told', hs⟩ := exists_openLine_eq d hdevice hrate serialError state false
          clock events'
        have hanswer : d.logged.answerOpening settings clock ⟨state, turns⟩ =
            match d.answerOpening settings clock state with
            | (.ok (), state) => (.ok (), ⟨state, turns ++ [.opened]⟩)
            | (.error message, state) => (.error message, ⟨state, turns⟩) := rfl
        have named' : settings.device.isSome = true := by rw [hdevice]; rfl
        rw [ht, hs, hanswer]
        obtain ⟨_ | _, after⟩ := d.answerOpening settings clock state
        · exact .error (.mk (.simulated d after hturns) nofun clock told told')
        · exact .ok (.mk (.simulated d after hturns.opened) (fun _ => named') clock told told')

/-- A line that is open may be closed. -/
theorem Logs.closeLine (h : t.Logs s) (hopen : s.isOpen = true) :
    ∃ t' s', Station.closeLine t = .ok () t' ∧ Station.closeLine s = .ok () s' ∧ t'.Logs s' ∧
      s'.isOpen = false := by
  obtain @⟨settings, _, _, line, named, clock, events, events'⟩ := h
  cases line with
  | portless => cases hopen
  | @serial p state turns isOpen hturns =>
      obtain rfl : isOpen = true := hopen
      exact ⟨_, _, rfl, rfl, .mk (.serial p _ hturns.closed) nofun clock _ _, rfl⟩
  | @simulated d state turns isOpen hturns =>
      obtain rfl : isOpen = true := hopen
      obtain ⟨told, ht⟩ := exists_closeLine_eq d.logged settings ⟨state, turns⟩ clock events
      obtain ⟨told', hs⟩ := exists_closeLine_eq d settings state clock events'
      exact ⟨_, _, ht, hs, .mk (.simulated d _ hturns.closed) nofun clock told told', rfl⟩

theorem Logs.exchange (h : t.Logs s) (text : String) (timeout : Option Nat) :
    Agree Logs (Station.exchange text timeout t) (Station.exchange text timeout s) := by
  obtain @⟨settings, _, _, line, named, clock, events, events'⟩ := h
  rcases line.wire?_cases with ⟨ht, hs⟩ | ⟨w, state, turns, ht, hs, hchange⟩
  · unfold Station.exchange
    simp only [ht, hs]
    exact .error (.mk line named clock events events')
  · have hlift : ∀ payload wait window,
        (w.along Logged.part).exchange payload wait window ⟨clock, ⟨state, turns⟩⟩ =
          mapState (Logged.part.timed ⟨state, turns⟩)
            (w.exchange payload wait window ⟨clock, state⟩) :=
      fun payload wait window => w.exchange_along Logged.part ⟨state, turns⟩ payload wait window
        ⟨clock, state⟩
    rw [exchange_of_wire? ht, exchange_of_wire? hs, hlift]
    rcases w.exchange _ _ _ _ with ⟨reply, after⟩ | ⟨cause, after⟩
    · exact .ok (.mk (hchange after.state) (by rwa [Channel.isOpen_change]) after.clock _ _)
    · exact .error (.mk (hchange after.state) (by rwa [Channel.isOpen_change]) after.clock _ _)

end Station

/-! ## Lines that are left open -/

end ModemScript
