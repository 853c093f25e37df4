import ModemScript.Proofs.Steps
import ModemScript.Proofs.Turns

/-!
# Lines are opened and closed in turn

An engine opens and closes its line in many places: when it is asked to, at both ends of a run,
when it turns to another device, and for four of the directives, which may come in the middle
of a run and may fail to open what they have closed. Each of these places looks at the line
before it does anything. So each of them keeps the line in order, and it is enough to go
through them once.

They are gone through with two engines at the same time. One acts on a device as it is, the
other on the same device with an account of its line. That they stay alike (`Engine.Logs`) says
both that keeping the account changes nothing and that the account is in order. A program may
connect an engine to one line after the other; a line that it gives up is not heard of again, so
its account is as it was left.
-/

namespace ModemScript

variable {σ ω α : Type}

/-- The host, which takes no notice of the account. -/
def Host.logged (h : Host σ ω) : Host (Logged σ) ω := h.along Logged.part

namespace Engine

/-- The engines are the same but for their stations, and one keeps an account of its line. -/
structure Logs (f : Engine (Logged σ) ω) (e : Engine σ ω) : Prop where
  session : f.session = e.session
  station : f.station.Logs e.station
  schedule : f.schedule = e.schedule
  abortOnFailure : f.abortOnFailure = e.abortOnFailure
  position : f.position = e.position
  host : f.host = e.host

variable {e : Engine σ ω} {f : Engine (Logged σ) ω}

theorem logs_after {r : EStateM.Result Failure (Engine (Logged σ) ω) α}
    {r' : EStateM.Result Failure (Engine σ ω) α} (h : Agree Logs r r') :
    (after r).Logs (after r') := by
  cases h with
  | ok h => exact h
  | error h => exact h

namespace Logs

theorem withSession (h : f.Logs e) (session : Session) :
    Logs { f with session := session } { e with session := session } :=
  { h with session := rfl }

theorem withStation (h : f.Logs e) {t : Station (Logged σ)} {s : Station σ} (hs : t.Logs s) :
    Logs { f with station := t } { e with station := s } :=
  { h with station := hs }

theorem withHost (h : f.Logs e) (host : ω) :
    Logs { f with host := host } { e with host := host } :=
  { h with host := rfl }

theorem plan (h : f.Logs e) (schedule : List Scheduled) :
    (f.plan schedule).Logs (e.plan schedule) :=
  { h with schedule := rfl }

theorem record (h : f.Logs e) (event : Event) : (f.record event).Logs (e.record event) :=
  h.withStation (h.station.record event)

theorem configure (h : f.Logs e) {g : Settings → Settings}
    (hg : ∀ s : Settings, s.device.isSome = true → (g s).device.isSome = true) :
    (f.configure g).Logs (e.configure g) :=
  h.withStation (h.station.configure (hg _))

theorem onStation {act' : Station.Action (Logged σ) α} {act : Station.Action σ α}
    (h : f.Logs e) (ha : Agree Station.Logs (act' f.station) (act e.station)) :
    Agree Logs (onStation act' f) (onStation act e) := by
  unfold Engine.onStation
  obtain ⟨a, t, s, ht, hs, hlogs⟩ | ⟨cause, t, s, ht, hs, hlogs⟩ := ha.cases
  · rw [ht, hs]
    exact .ok (h.withStation hlogs)
  · rw [ht, hs]
    exact .error (h.withStation hlogs)

/-! ## The device -/

theorem openLine (h : f.Logs e) (hclosed : e.station.isOpen = false) (host : Host σ ω) :
    Agree Logs (openLine host.logged f) (openLine host e) := by
  have herror : (fun path => host.logged.serialError path f.station.moment f.host) =
      fun path => host.serialError path e.station.moment e.host := by
    funext path
    show host.serialError path (f.station.moment.part Logged.part) f.host = _
    rw [h.station.moment_eq, h.host]
  unfold Engine.openLine
  rw [herror]
  exact h.onStation (h.station.openLine hclosed _)

/-- Closing a line that is open never fails. -/
theorem ensureClosed (h : f.Logs e) :
    ∃ f' e', ensureClosed f = .ok () f' ∧ ensureClosed e = .ok () e' ∧ f'.Logs e' ∧
      e'.station.isOpen = false := by
  unfold Engine.ensureClosed
  rw [h.station.isOpen_eq]
  cases hopen : e.station.isOpen with
  | false => exact ⟨f, e, rfl, rfl, h, hopen⟩
  | true =>
      obtain ⟨t, s, ht, hs, hlogs, hclosed⟩ := h.station.closeLine hopen
      simp only [Engine.onStation, ht, hs, if_pos]
      exact ⟨_, _, rfl, rfl, h.withStation hlogs, hclosed⟩

theorem reopen (h : f.Logs e) (host : Host σ ω) :
    Agree Logs (reopen host.logged f) (reopen host e) := by
  obtain ⟨f', e', hf, he, hlogs, hclosed⟩ := h.ensureClosed
  unfold Engine.reopen
  rw [hf, he]
  simp only [hlogs.station.settings_eq]
  split
  · exact hlogs.openLine hclosed host
  · exact .ok hlogs

theorem withDevice {act' : Action (Logged σ) ω α} {act : Action σ ω α} (h : f.Logs e)
    (ha : Agree Logs (act' f) (act e)) : Agree Logs (withDevice act' f) (withDevice act e) := by
  unfold Engine.withDevice
  rw [h.station.settings_eq]
  split
  · exact ha
  · exact .error h

theorem openDevice (h : f.Logs e) (host : Host σ ω) :
    Agree Logs (openDevice host.logged f) (openDevice host e) := by
  refine h.withDevice ?_
  rw [h.station.isOpen_eq]
  cases hopen : e.station.isOpen with
  | false => exact h.openLine hopen host
  | true => exact .ok h

theorem closeDevice (h : f.Logs e) : Agree Logs (closeDevice f) (closeDevice e) := by
  obtain ⟨f', e', hf, he, hlogs, -⟩ := h.ensureClosed
  refine h.withDevice ?_
  rw [hf, he]
  exact .ok hlogs

/-- The line that is given up is closed. -/
theorem replaceLine (h : f.Logs e) (settings : Settings) {line : Channel (Logged σ)}
    {line' : Channel σ} (hline : line.Logs line') (hclosed : line'.isOpen = false) :
    ∃ former f' former' e', replaceLine settings line f = .ok former f' ∧
      replaceLine settings line' e = .ok former' e' ∧ former.Logs former' ∧
      former'.isOpen = false ∧ f'.Logs e' := by
  obtain ⟨f', e', hf, he, hlogs, hformer⟩ := h.ensureClosed
  unfold Engine.replaceLine
  rw [hf, he]
  exact ⟨_, _, _, _, rfl, rfl, hlogs.station.channel, hformer,
    hlogs.withStation (hlogs.station.replace settings hline hclosed)⟩

/-! ## Directives -/

theorem assign (h : f.Logs e) (key value : String) :
    (f.assign key value).Logs (e.assign key value) := by
  unfold Engine.assign
  rw [h.session]
  exact (h.withSession _).record _

/-- What the host does it does here and there. -/
theorem hostDoes (h : f.Logs e) (deed : Moment σ → ω → Effect σ ω α) :
    ∃ a f' e', (f.hostDoes fun m host => (deed (m.part Logged.part) host).along Logged.part) =
        (a, f') ∧ e.hostDoes deed = (a, e') ∧ f'.Logs e' := by
  let effect := deed e.station.moment e.host
  have heffect : deed (f.station.moment.part Logged.part) f.host = effect := by
    rw [h.station.moment_eq, h.host]
  refine ⟨effect.result,
    { f with
      station := f.station.undergo effect.took fun x => ⟨effect.device x.state, x.turns⟩
      host := effect.host }, _, ?_, rfl, (h.withStation (h.station.undergo _ _)).withHost _⟩
  simp only [Engine.hostDoes, heffect]
  rfl

theorem print (h : f.Logs e) (host : Host σ ω) (text : String) :
    (f.print host.logged text).Logs (e.print host text) := by
  obtain ⟨_, f', e', hf, he, hlogs⟩ := (h.record (.printed text)).hostDoes (host.print text)
  have hf' : (f.record (.printed text)).hostDoes (host.logged.print text) = (_, f') := hf
  rw [Engine.print, Engine.print, hf', he]
  exact hlogs

theorem runShell (h : f.Logs e) (host : Host σ ω) (commandLine : String) :
    Agree Logs (runShell host.logged commandLine f) (runShell host commandLine e) := by
  obtain ⟨run, f', e', hf, he, hlogs⟩ := h.hostDoes (host.shell commandLine)
  have hf' : f.hostDoes (host.logged.shell commandLine) = (run, f') := hf
  unfold Engine.runShell
  rw [hf', he]
  cases run with
  | error cause => exact .error hlogs
  | ok run => exact .ite rfl (.ok (hlogs.record _)) (.error (hlogs.record _))

theorem writeFile (h : f.Logs e) (host : Host σ ω) (path content : String) :
    Agree Logs (writeFile host.logged path content f) (writeFile host path content e) := by
  obtain ⟨result, f', e', hf, he, hlogs⟩ := h.hostDoes (host.writeFile path content)
  have hf' : f.hostDoes (host.logged.writeFile path content) = (result, f') := hf
  unfold Engine.writeFile
  rw [hf', he]
  cases result with
  | error cause => exact .error hlogs
  | ok _ => exact .ok (hlogs.record _)

theorem apply (h : f.Logs e) (host : Host σ ω) (d : Directive) :
    Agree Logs (apply host.logged d f) (apply host d e) := by
  cases d with
  -- four directives close the line and open it again, and none takes the name of the device away
  | device path => exact (h.configure fun _ _ => rfl).reopen host
  | baudRate rate =>
      exact (h.configure (g := fun s => { s with baudRate := some rate }) fun _ hs => hs).reopen
        host
  | rtsCts on =>
      exact (h.configure (g := fun s => { s with rtsCts := on }) fun _ hs => hs).reopen host
  | dsrDtr on =>
      exact (h.configure (g := fun s => { s with dsrDtr := on }) fun _ hs => hs).reopen host
  | timeout seconds => exact .ok (h.configure fun _ hs => hs)
  | lineBreak terminator => exact .ok (h.configure fun _ hs => hs)
  | abortOnFailure on => exact .ok { h with abortOnFailure := rfl }
  | set key value => exact .ok (h.assign key value)
  | environment name =>
      have hvalue : host.logged.environment name f.station.moment f.host =
          host.environment name e.station.moment e.host := by
        show host.environment name (f.station.moment.part Logged.part) f.host = _
        rw [h.station.moment_eq, h.host]
      simp only [Engine.apply, hvalue]
      cases host.environment name e.station.moment e.host with
      | error cause => exact .error h
      | ok value => exact .ok (h.assign name value)
  | print text =>
      simp only [Engine.apply, h.session]
      exact .ok (h.print host _)
  | exec commandLine =>
      simp only [Engine.apply, h.session]
      exact h.runShell host _
  | write path content =>
      simp only [Engine.apply, h.session]
      exact h.writeFile host path _

theorem applyDue (h : f.Logs e) (host : Host σ ω) (due : List Scheduled) :
    Agree Logs (applyDue host.logged due f) (applyDue host due e) := by
  induction due generalizing f e with
  | nil => exact .ok h
  | cons x rest ih =>
      unfold Engine.applyDue
      obtain ⟨_, f', e', hf, he, hlogs⟩ | ⟨cause, f', e', hf, he, hlogs⟩ :=
        (h.apply host x.directive).cases
      · rw [hf, he]
        exact ih hlogs
      · rw [hf, he]
        exact .ite hlogs.abortOnFailure
          (.error { hlogs with schedule := congrArg (rest ++ ·) hlogs.schedule }) (ih hlogs)

/-! ## Commands -/

theorem send (h : f.Logs e) (host : Host σ ω) (c : Command) :
    Agree Logs (send host.logged c f) (send host c e) := by
  have hdelay := h.withStation (h.station.sleep c.request.delay)
  unfold Engine.send
  obtain ⟨reply, f', e', hf, he, hlogs⟩ | ⟨cause, f', e', hf, he, hlogs⟩ :=
    (hdelay.onStation (hdelay.station.exchange c.text c.request.timeout)).cases
  · rw [hf, he]
    simp only [hlogs.session]
    exact .ok (hlogs.withSession _)
  · rw [hf, he]
    exact .error hlogs

theorem isLost_eq (h : f.Logs e) (c : Command) : f.isLost c = e.isLost c := by
  rw [isLost, isLost, h.session]

theorem sendNext (h : f.Logs e) (host : Host σ ω) :
    Agree Logs (sendNext host.logged f) (sendNext host e) := by
  unfold Engine.sendNext
  rw [h.session]
  cases e.session.next? with
  | none => exact .ok h
  | some next =>
      obtain ⟨c, session⟩ := next
      simp only
      obtain ⟨response, f', e', hf, he, hlogs⟩ | ⟨cause, f', e', hf, he, hlogs⟩ :=
        ((h.withSession session).send host c).cases
      · rw [hf, he]
        refine .ite (by rw [hlogs.isLost_eq, hlogs.abortOnFailure]) (.error hlogs) ?_
        refine .ite (by rw [hlogs.session]) (.ok hlogs) ?_
        exact .ok { hlogs with position := congrArg (· + 1) hlogs.position }
      · rw [hf, he]
        exact .error hlogs

theorem step (h : f.Logs e) (host : Host σ ω) : Agree Logs (step host.logged f) (step host e) := by
  have hdue : f.due = e.due := by rw [due, h.schedule, h.position]; rfl
  have hlater : f.later = e.later := by rw [later, h.schedule, h.position]; rfl
  rw [step_eq, step_eq, hdue, hlater]
  have happly : Agree Logs (Engine.applyDue host.logged e.due { f with schedule := e.later })
      (Engine.applyDue host e.due { e with schedule := e.later }) :=
    (h.plan e.later).applyDue host e.due
  obtain ⟨_, f', e', hf, he, hlogs⟩ | ⟨cause, f', e', hf, he, hlogs⟩ := happly.cases
  · rw [hf, he]
    exact hlogs.sendNext host
  · rw [hf, he]
    exact .error hlogs

theorem perform (h : f.Logs e) (host : Host σ ω) (line : String) :
    Agree Logs (perform host.logged line f) (perform host line e) := by
  unfold Engine.perform
  rw [show host.logged.dialect = host.dialect from rfl]
  split
  · exact .error h
  · next d _ =>
      obtain ⟨_, f', e', hf, he, hlogs⟩ | ⟨cause, f', e', hf, he, hlogs⟩ := (h.apply host d).cases
      · rw [hf, he]
        exact .ok hlogs
      · rw [hf, he]
        exact .error hlogs
  · next c _ =>
      refine h.withDevice ?_
      simp only [h.session]
      cases (e.session.clear.add c).next? with
      | none => exact .ok (h.withSession _)
      | some next =>
          obtain ⟨c, session⟩ := next
          simp only
          obtain ⟨response, f', e', hf, he, hlogs⟩ | ⟨cause, f', e', hf, he, hlogs⟩ :=
            ((h.withSession session).send host c).cases
          · rw [hf, he]
            exact .ite (by rw [hlogs.isLost_eq, hlogs.abortOnFailure]) (.error hlogs) (.ok hlogs)
          · rw [hf, he]
            exact .error hlogs

/-! ## Whole runs -/

/-- The induction follows the run on the device as it is. -/
theorem drain (h : f.Logs e) (host : Host σ ω) :
    (drain host.logged f).1 = (drain host e).1 ∧ (drain host.logged f).2.Logs (drain host e).2 := by
  fun_induction Engine.drain host e generalizing f with
  | case1 e r e' he outcome e'' hrest ih =>
      obtain ⟨f', hf, hlogs⟩ := (he ▸ h.step host).exists_of_ok
      obtain ⟨houtcome, hlater⟩ := ih hlogs
      rw [hrest] at houtcome hlater
      rw [drain_eq host.logged f, hf]
      refine ⟨?_, hlater⟩
      show ({ (Engine.drain host.logged f').1 with
        responses := r :: (Engine.drain host.logged f').1.responses } : Outcome) = _
      rw [houtcome]
  | case2 e e' he =>
      obtain ⟨f', hf, hlogs⟩ := (he ▸ h.step host).exists_of_ok
      rw [drain_eq host.logged f, hf]
      exact ⟨rfl, hlogs⟩
  | case3 e cause e' he =>
      obtain ⟨f', hf, hlogs⟩ := (he ▸ h.step host).exists_of_error
      rw [drain_eq host.logged f, hf]
      exact ⟨rfl, hlogs⟩

theorem run (h : f.Logs e) (host : Host σ ω) :
    Agree Logs (run host.logged f) (run host e) := by
  unfold Engine.run
  obtain ⟨_, f', e', hf, he, hlogs⟩ | ⟨cause, f', e', hf, he, hlogs⟩ := (h.openDevice host).cases
  · obtain ⟨houtcome, hdrained⟩ := hlogs.drain host
    rw [hf, he]
    simp only [houtcome]
    obtain ⟨_, f'', e'', hf', he', hlogs'⟩ | ⟨cause, f'', e'', hf', he', hlogs'⟩ :=
      hdrained.closeDevice.cases
    · rw [hf', he']
      cases (Engine.drain host e').1.failure with
      | none => exact .ok hlogs'
      | some cause => exact .error hlogs'
    · rw [hf', he']
      cases (Engine.drain host e').1.failure with
      | none => exact .error hlogs'
      | some cause => exact .error hlogs'
  · rw [hf, he]
    exact .error hlogs

end Logs

theorem isOpen_serialTo (ports : Option (SerialPorts σ × σ)) :
    (Channel.serialTo ports).isOpen = false := by
  cases ports <;> rfl

end Engine

/-! ## Programs -/

/-- What a program can ask of an engine. Between two calls it can let time pass. -/
inductive Call (σ : Type) where
  | connectSerial (settings : Settings) (ports : Option (SerialPorts σ × σ))
  | connectSimulated (settings : Settings) (device : Device σ) (state : σ)
  | loadScript (script : Script)
  | openDevice
  | closeDevice
  | run
  | step
  | perform (line : String)
  | wait (milliseconds : Nat)

/-- The call with a device that keeps an account of its line. -/
def Call.logged : Call σ → Call (Logged σ)
  | connectSerial settings ports => connectSerial settings (ports.map Logged.ports)
  | connectSimulated settings device state => connectSimulated settings device.logged ⟨state, []⟩
  | loadScript script => loadScript script
  | openDevice => openDevice
  | closeDevice => closeDevice
  | run => run
  | step => step
  | perform line => perform line
  | wait milliseconds => wait milliseconds

/-- An engine, and the lines that it has given up, as they were left. -/
structure History (σ ω : Type) where
  engine : Engine σ ω
  former : List (Channel σ)

namespace History

def new (abortOnFailure : Bool) (host : ω) (ports : Option (SerialPorts σ × σ)) : History σ ω :=
  ⟨.new abortOnFailure host ports, []⟩

/-- All lines that there have been. -/
def lines (x : History σ ω) : List (Channel σ) := x.former ++ [x.engine.station.channel]

/-- The engine is connected to another line, and has given up the one before unless that could not
be closed. -/
def connect (settings : Settings) (line : Channel σ) (x : History σ ω) : History σ ω where
  engine := Engine.after (Engine.connect settings line x.engine)
  former :=
    match Engine.replaceLine settings line x.engine with
    | .ok former _ => x.former ++ [former]
    | .error _ _ => x.former

/-- What comes of a call, whether or not it fails. -/
def call (h : Host σ ω) (x : History σ ω) : Call σ → History σ ω
  | .connectSerial settings ports => x.connect settings (.serialTo ports)
  | .connectSimulated settings device state => x.connect settings (.simulated device state false)
  | .loadScript script => { x with engine := x.engine.loadScript script }
  | .openDevice => { x with engine := Engine.after (Engine.openDevice h x.engine) }
  | .closeDevice => { x with engine := Engine.after (Engine.closeDevice x.engine) }
  | .run => { x with engine := Engine.after (Engine.run h x.engine) }
  | .step => { x with engine := Engine.after (Engine.step h x.engine) }
  | .perform line => { x with engine := Engine.after (Engine.perform h line x.engine) }
  | .wait milliseconds =>
    { x with engine := { x.engine with station := x.engine.station.sleep milliseconds } }

/-- The histories are the same but for the accounts that are kept in one of them, and no line
was given up while it was open. -/
structure Logs (y : History (Logged σ) ω) (x : History σ ω) : Prop where
  engine : y.engine.Logs x.engine
  former : List.Forall₂ Channel.Logs y.former x.former
  closed : ∀ line ∈ x.former, line.isOpen = false

namespace Logs

variable {x : History σ ω} {y : History (Logged σ) ω}

theorem withEngine (h : y.Logs x) {f : Engine (Logged σ) ω} {e : Engine σ ω} (he : f.Logs e) :
    Logs { y with engine := f } { x with engine := e } :=
  { h with engine := he }

theorem connect (h : y.Logs x) (settings : Settings) {line : Channel (Logged σ)}
    {line' : Channel σ} (hline : line.Logs line') (hclosed : line'.isOpen = false) :
    (y.connect settings line).Logs (x.connect settings line') := by
  obtain ⟨former, f', former', e', hf, he, hformer, hformerClosed, hlogs⟩ :=
    h.engine.replaceLine settings hline hclosed
  unfold History.connect Engine.connect
  rw [hf, he]
  refine ⟨hlogs, List.rel_append h.former (.cons hformer .nil), fun line hmem => ?_⟩
  rcases List.mem_append.1 hmem with hmem | hmem
  · exact h.closed line hmem
  · rw [List.mem_singleton.1 hmem]
    exact hformerClosed

theorem call (h : y.Logs x) (host : Host σ ω) (c : Call σ) :
    (y.call host.logged c.logged).Logs (x.call host c) := by
  cases c with
  | connectSerial settings ports =>
      exact h.connect settings (Channel.logs_serialTo ports) (Engine.isOpen_serialTo ports)
  | connectSimulated settings device state =>
      exact h.connect settings (.simulated device state .nil) rfl
  | loadScript script =>
      exact h.withEngine { h.engine with session := rfl, schedule := rfl, position := rfl }
  | openDevice => exact h.withEngine (Engine.logs_after (h.engine.openDevice host))
  | closeDevice => exact h.withEngine (Engine.logs_after h.engine.closeDevice)
  | run => exact h.withEngine (Engine.logs_after (h.engine.run host))
  | step => exact h.withEngine (Engine.logs_after (h.engine.step host))
  | perform line => exact h.withEngine (Engine.logs_after (h.engine.perform host line))
  | wait milliseconds =>
      exact h.withEngine (h.engine.withStation (h.engine.station.sleep milliseconds))

theorem calls (h : y.Logs x) (host : Host σ ω) (cs : List (Call σ)) :
    ((cs.map Call.logged).foldl (History.call host.logged) y).Logs
      (cs.foldl (History.call host) x) := by
  induction cs generalizing x y with
  | nil => exact h
  | cons c cs ih => exact ih (h.call host c)

theorem lines (h : y.Logs x) : List.Forall₂ Channel.Logs y.lines x.lines :=
  List.rel_append h.former (.cons h.engine.station.channel .nil)

end Logs

-- a port that goes away between its two flushes is left open by the run that has opened it
example :
    let port : SerialPorts Nat :=
      { openPort := fun _ _ n => ⟨.ok (), 0, n⟩, closePort := fun _ n => n
        raiseReady := fun _ n => ⟨.ok (), 0, n⟩
        flush := fun _ n => ⟨if n = 0 then .ok () else .error "gone", 0, n + 1⟩
        write := fun _ _ _ n => ⟨.ok (), 0, n⟩, read := fun _ _ n => ⟨.ok [], 0, n⟩
        available := fun _ n => ⟨.ok 0, 0, n⟩ }
    let e : Engine Nat Unit :=
      { session := .empty
        station := .new (.new (some "v") (some 9600)) (.serial (some ⟨port, 0, false⟩))
        schedule := [], abortOnFailure := true, position := 0, host := () }
    (Engine.after (Engine.run .bare e)).station.isOpen = true := by
  decide +kernel

end History

end ModemScript
