import ModemScript.Proofs.Steps

/-!
# What is put on record

Whatever an engine does, it only adds to the record of its station. Two kinds of actions are
told apart here by what they add. Directives, and opening and closing the line, send nothing,
and but for the settings that a directive makes before anything else they leave the settings as
they are (`Station.Keeps`). An exchange over an open line sends one text, with the terminator
that is set at that moment, and sets nothing.

Each action is gone through once, and all of them whether or not they fail, since a run may go on
after a failure.
-/

namespace ModemScript

variable {σ ω α : Type}

/-- The state that an action leaves, whether or not it failed. -/
def leftBy {ε s : Type} : EStateM.Result ε s α → s
  | .ok _ x => x
  | .error _ x => x

@[simp] theorem leftBy_mapState {ε s t : Type} (f : s → t) (r : EStateM.Result ε s α) :
    leftBy (mapState f r) = f (leftBy r) := by
  cases r <;> rfl

def Event.sent? : Event → Option String
  | sent text => some text
  | _ => none

/-- The terminator that is set after a directive, if it was `t` before. -/
def Directive.terminator : Directive → Terminator → Terminator
  | lineBreak t, _ => t
  | _, t => t

/-- The settings after a directive, if they were `s` before. It makes them even if it fails to
open a device with them. -/
def Directive.settings : Directive → Settings → Settings
  | device path, s => { s with device := some path }
  | baudRate rate, s => { s with baudRate := some rate }
  | rtsCts on, s => { s with rtsCts := on }
  | dsrDtr on, s => { s with dsrDtr := on }
  | timeout seconds, s => s.withTimeout seconds
  | lineBreak t, s => { s with terminator := t }
  | _, s => s

theorem Directive.terminator_settings (d : Directive) (s : Settings) :
    (d.settings s).terminator = d.terminator s.terminator := by
  cases d <;> rfl

/-! ## Stations -/

namespace Station

/-- The texts that were given to the device, with their terminators. -/
def sent (s : Station σ) : List String := s.events.filterMap Event.sent?

/-- Nothing that has been added to the record of `s` was sent, and the settings are the same. -/
structure Keeps (s s' : Station σ) : Prop where
  events : s.events <+: s'.events
  sent : s'.sent = s.sent
  settings : s'.settings = s.settings

/-- What has been added to the record of `s` was not sent, and then the terminator is `t`. -/
structure Quiet (t : Terminator) (s s' : Station σ) : Prop where
  events : s.events <+: s'.events
  sent : s'.sent = s.sent
  terminator : s'.settings.terminator = t

variable {s s' s'' : Station σ}

theorem keeps_refl (s : Station σ) : s.Keeps s := ⟨List.prefix_refl _, rfl, rfl⟩

theorem Keeps.trans (h : s.Keeps s') (h' : s'.Keeps s'') : s.Keeps s'' :=
  ⟨h.events.trans h'.events, h'.sent.trans h.sent, h'.settings.trans h.settings⟩

theorem Keeps.record (h : s.Keeps s') {e : Event} (he : e.sent? = none) :
    s.Keeps (s'.record e) := by
  refine ⟨h.events.trans (List.prefix_append _ _), ?_, h.settings⟩
  show (s'.events ++ [e]).filterMap Event.sent? = _
  rw [List.filterMap_append, List.filterMap_cons_none he]
  exact (List.append_nil _).trans h.sent

/-- Neither the time nor what is at the other end is on record. -/
theorem Keeps.moved (h : s.Keeps s') (channel : Channel σ) (clock : Nat) :
    s.Keeps { s' with channel := channel, clock := clock } :=
  ⟨h.events, h.sent, h.settings⟩

theorem keeps_openLine (serialError : String → SerialError) (s : Station σ) :
    s.Keeps (leftBy (openLine serialError s)) := by
  unfold openLine
  split
  · exact s.keeps_refl
  · next line _ =>
    split
    · exact s.keeps_refl
    · have hclosed : s.Keeps (if line.isOpen then s.record .closed else s) := by
        split
        · exact s.keeps_refl.record rfl
        · exact s.keeps_refl
      dsimp only
      split
      · exact (hclosed.record rfl).moved _ _
      · exact (hclosed.record rfl).moved _ _
  · split
    · exact s.keeps_refl
    · split
      · exact s.keeps_refl.moved _ _
      · dsimp only
        split
        · exact (s.keeps_refl.record rfl).moved _ _
        · exact (s.keeps_refl.record rfl).moved _ _

theorem keeps_closeLine (s : Station σ) : s.Keeps (leftBy (closeLine s)) := by
  unfold closeLine
  split
  · split
    · exact (s.keeps_refl.record rfl).moved _ _
    · exact s.keeps_refl
  · split
    · exact s.keeps_refl.moved _ _
    · exact (s.keeps_refl.record rfl).moved _ _
  · exact s.keeps_refl

/-- An exchange over a line that is closed does nothing. Over an open one the text is put on
record first, and then the time and what is at the other end may change, but no more. -/
theorem exchange_leaves (text : String) (timeout : Option Nat) (s : Station σ) :
    (s.isOpen = false ∧ exchange text timeout s = .error .closed s) ∨
      s.isOpen = true ∧ ∃ t : Timed σ, leftBy (exchange text timeout s) =
        (s.record (.sent (text ++ s.settings.terminator.text))).resume t := by
  cases hwire : s.channel.wire? with
  | none =>
      have hopen : s.isOpen = false := by
        rw [isOpen, ← Channel.isSome_wire?, hwire]
        rfl
      exact .inl ⟨hopen, exchange_of_closed hopen text timeout⟩
  | some found =>
      have hopen : s.isOpen = true := by
        rw [isOpen, ← Channel.isSome_wire?, hwire]
        rfl
      obtain ⟨wire, state⟩ := found
      refine .inr ⟨hopen, ?_⟩
      rw [exchange_of_wire? hwire]
      split <;> exact ⟨_, rfl⟩

/-- An exchange that fails may still have sent the text; one that is answered has. -/
theorem exchange_cases (text : String) (timeout : Option Nat) (s : Station σ) :
    (∃ cause s', exchange text timeout s = .error cause s' ∧ s.events <+: s'.events) ∨
      ∃ reply s', exchange text timeout s = .ok reply s' ∧ s'.settings = s.settings ∧
        s'.events = s.events ++ [.sent (text ++ s.settings.terminator.text)] := by
  obtain ⟨-, hclosed⟩ | ⟨-, t, hleft⟩ := exchange_leaves text timeout s
  · exact .inl ⟨_, _, hclosed, List.prefix_refl _⟩
  · cases hexchange : exchange text timeout s with
    | error cause s' =>
        rw [hexchange, leftBy] at hleft
        subst hleft
        exact .inl ⟨_, _, rfl, List.prefix_append _ _⟩
    | ok reply s' =>
        rw [hexchange, leftBy] at hleft
        subst hleft
        exact .inr ⟨_, _, rfl, rfl, rfl⟩

/-- A text is sent if the line is open, whatever becomes of it. -/
theorem sent_exchange (text : String) (timeout : Option Nat) (s : Station σ) :
    (leftBy (exchange text timeout s)).sent =
      s.sent ++ if s.isOpen then [text ++ s.settings.terminator.text] else [] := by
  obtain ⟨hopen, hclosed⟩ | ⟨hopen, t, hleft⟩ := exchange_leaves text timeout s
  · rw [hclosed, hopen]
    exact (List.append_nil _).symm
  · rw [hleft, hopen]
    exact List.filterMap_append

@[simp] theorem settings_exchange (text : String) (timeout : Option Nat) (s : Station σ) :
    (leftBy (exchange text timeout s)).settings = s.settings := by
  obtain ⟨-, hclosed⟩ | ⟨-, t, hleft⟩ := exchange_leaves text timeout s
  · rw [hclosed]
    rfl
  · rw [hleft]
    rfl

/-- A line that is used stays open. -/
theorem isOpen_exchange (text : String) (timeout : Option Nat) (s : Station σ) :
    (leftBy (exchange text timeout s)).isOpen = s.isOpen := by
  obtain ⟨-, hclosed⟩ | ⟨-, t, hleft⟩ := exchange_leaves text timeout s
  · rw [hclosed]
    rfl
  · rw [hleft]
    exact s.channel.isOpen_change fun _ => t.state

end Station

/-! ## Engines -/

namespace Engine

variable (e : Engine σ ω)

theorem station_onStation (act : Station.Action σ α) :
    (leftBy (onStation act e)).station = leftBy (act e.station) := by
  unfold onStation
  cases act e.station <;> rfl

theorem keeps_openLine (h : Host σ ω) : e.station.Keeps (leftBy (openLine h e)).station := by
  unfold openLine
  rw [station_onStation]
  exact e.station.keeps_openLine _

theorem keeps_ensureClosed : e.station.Keeps (leftBy (ensureClosed e)).station := by
  unfold ensureClosed
  split
  · rw [station_onStation]
    exact e.station.keeps_closeLine
  · exact e.station.keeps_refl

theorem keeps_reopen (h : Host σ ω) : e.station.Keeps (leftBy (reopen h e)).station := by
  have hclose := e.keeps_ensureClosed
  unfold reopen
  cases hclosed : ensureClosed e with
  | error f e' =>
      rw [hclosed] at hclose
      exact hclose
  | ok _ e' =>
      rw [hclosed] at hclose
      simp only
      split
      · exact hclose.trans (e'.keeps_openLine h)
      · exact hclose

theorem keeps_openDevice (h : Host σ ω) :
    e.station.Keeps (leftBy (openDevice h e)).station := by
  unfold openDevice withDevice
  simp only
  split
  · split
    · exact e.station.keeps_refl
    · exact e.keeps_openLine h
  · exact e.station.keeps_refl

theorem keeps_closeDevice : e.station.Keeps (leftBy (closeDevice e)).station := by
  unfold closeDevice withDevice
  split
  · exact e.keeps_ensureClosed
  · exact e.station.keeps_refl

/-- What a host does is on no record of the station. -/
theorem keeps_hostDoes (deed : Moment σ → ω → Effect σ ω α) :
    e.station.Keeps (e.hostDoes deed).2.station :=
  e.station.keeps_refl.moved _ _

theorem keeps_runShell (h : Host σ ω) (commandLine : String) :
    e.station.Keeps (leftBy (runShell h commandLine e)).station := by
  have hdone := e.keeps_hostDoes (h.shell commandLine)
  unfold runShell
  dsimp only
  split
  · exact hdone
  · split
    · exact hdone.record rfl
    · exact hdone.record rfl

theorem keeps_writeFile (h : Host σ ω) (path content : String) :
    e.station.Keeps (leftBy (writeFile h path content e)).station := by
  have hdone := e.keeps_hostDoes (h.writeFile path content)
  unfold writeFile
  dsimp only
  split
  · exact hdone
  · exact hdone.record rfl

/-- A directive sends nothing, and makes its settings before it does anything else. -/
theorem keeps_apply (h : Host σ ω) (d : Directive) :
    (e.station.configure d.settings).Keeps (leftBy (apply h d e)).station := by
  cases d with
  | device path => exact (e.configure (Directive.device path).settings).keeps_reopen h
  | baudRate rate => exact (e.configure (Directive.baudRate rate).settings).keeps_reopen h
  | rtsCts on => exact (e.configure (Directive.rtsCts on).settings).keeps_reopen h
  | dsrDtr on => exact (e.configure (Directive.dsrDtr on).settings).keeps_reopen h
  | timeout | lineBreak | abortOnFailure => exact Station.keeps_refl _
  | set key value => exact e.station.keeps_refl.record rfl
  | environment name =>
      simp only [apply]
      split
      · exact e.station.keeps_refl
      · exact e.station.keeps_refl.record rfl
  | print text =>
      let shown := Event.printed (e.session.store.substitute text ++ "\n")
      exact (e.station.keeps_refl.record (e := shown) rfl).trans ((e.record shown).keeps_hostDoes _)
  | exec commandLine => exact e.keeps_runShell h (e.session.store.substitute commandLine)
  | write path content => exact e.keeps_writeFile h path (e.session.store.substitute content)

theorem settings_apply (h : Host σ ω) (d : Directive) :
    (leftBy (apply h d e)).station.settings = d.settings e.station.settings :=
  (e.keeps_apply h d).settings

end Engine

/-! ## Worlds -/

namespace World

variable (h : Host σ ω) (w : World σ ω)

theorem quiet_apply (d : Directive) :
    w.station.Quiet (d.terminator w.station.settings.terminator)
      (leftBy (act (Engine.apply h d) w)).station := by
  rw [act, leftBy_mapState]
  have hkeeps := w.engine.keeps_apply h d
  exact ⟨hkeeps.events, hkeeps.sent,
    (congrArg Settings.terminator hkeeps.settings).trans (d.terminator_settings _)⟩

theorem events_ask (r : Request) :
    w.station.events <+: (leftBy (ask h r w)).station.events := by
  obtain ⟨cause, s, hs, hevents⟩ | ⟨reply, s, hs, -, hevents⟩ :=
    Station.exchange_cases (w.store.substitute r.text) r.timeout (w.station.sleep r.delay)
  · simp only [ask, tell, hs]
    exact hevents
  · simp only [ask, tell, hs]
    exact ⟨_, hevents.symm⟩

/-- A request that is answered was sent as it stands in the response, which says whether the
reply was as expected. -/
theorem sent_of_ask_ok {r : Request} {v : Verdict} {w' : World σ ω}
    (hask : ask h r w = .ok v w') :
    v.response.command = w.store.substitute r.text ∧
      v.failed = Session.fails h.dialect r v.response.lines ∧
      w'.station.settings = w.station.settings ∧
      w'.station.sent =
        w.station.sent ++ [v.response.command ++ w.station.settings.terminator.text] := by
  obtain ⟨cause, s, hs, -⟩ | ⟨reply, s, hs, hsettings, hevents⟩ :=
    Station.exchange_cases (w.store.substitute r.text) r.timeout (w.station.sleep r.delay)
  · simp only [ask, tell, hs] at hask
    cases hask
  · simp only [ask, tell, hs] at hask
    cases hask
    rw [Request.command_judge, Request.failed_judge, Request.lines_judge]
    refine ⟨rfl, rfl, hsettings, ?_⟩
    show s.events.filterMap Event.sent? = _
    rw [hevents, List.filterMap_append]
    rfl

end World

end ModemScript
