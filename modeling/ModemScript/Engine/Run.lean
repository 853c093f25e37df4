import ModemScript.Engine

/-!
# Whole runs

A run opens the device, takes steps until no command is left or one fails, and
closes the device in either case. It always ends: directives do not touch the
commands, and each reply that is judged leaves fewer that can follow
(`Session.remaining`), whatever fallbacks it calls for.
-/

namespace ModemScript.Engine

variable {σ ω : Type}

/-- The engine that an action leaves, whether or not it failed. -/
def after {ε α : Type} : EStateM.Result ε (Engine σ ω) α → Engine σ ω
  | .ok _ e => e
  | .error _ e => e

/-- What directives leave as it is: the commands and the cursor. -/
def agenda (e : Engine σ ω) : List Command × Nat := (e.session.commands, e.session.cursor)

theorem remaining_eq_of_agenda {e e' : Engine σ ω} (h : e'.agenda = e.agenda) :
    e'.session.remaining = e.session.remaining := by
  simp only [agenda, Prod.mk.injEq] at h
  rw [Session.remaining, Session.remaining, h.1, h.2]

theorem session_onStation {α : Type} (act : Station.Action σ α) (e : Engine σ ω) :
    (after (onStation act e)).session = e.session := by
  unfold onStation
  split <;> rfl

theorem session_ensureClosed (e : Engine σ ω) : (after (ensureClosed e)).session = e.session := by
  unfold ensureClosed
  split
  · exact session_onStation _ e
  · rfl

theorem session_reopen (h : Host σ ω) (e : Engine σ ω) :
    (after (reopen h e)).session = e.session := by
  have hc := session_ensureClosed e
  unfold reopen
  split
  · next heq => rw [heq] at hc; exact hc
  · next heq =>
    rw [heq] at hc
    split
    · exact (session_onStation _ _).trans hc
    · exact hc

theorem agenda_apply (h : Host σ ω) (d : Directive) (e : Engine σ ω) :
    (after (apply h d e)).agenda = e.agenda := by
  cases d with
  | device | baudRate | rtsCts | dsrDtr =>
    exact congrArg (fun s : Session => (s.commands, s.cursor)) (session_reopen h _)
  | timeout | lineBreak | abortOnFailure | set | print => rfl
  | environment name =>
    simp only [apply]
    split <;> rfl
  | exec commandLine =>
    simp only [apply, runShell, hostDoes]
    split
    · rfl
    · split <;> rfl
  | write path content =>
    simp only [apply, writeFile, hostDoes]
    split <;> rfl

theorem agenda_applyDue (h : Host σ ω) (due : List Scheduled) (e : Engine σ ω) :
    (after (applyDue h due e)).agenda = e.agenda := by
  induction due generalizing e with
  | nil => rfl
  | cons x rest ih =>
    have ha := agenda_apply h x.directive e
    simp only [applyDue]
    split
    · next heq => rw [heq] at ha; exact (ih _).trans ha
    · next heq =>
      rw [heq] at ha
      split
      · exact ha
      · exact (ih _).trans ha

theorem remaining_send_lt {h : Host σ ω} {c : Command} {e e' : Engine σ ω} {r : Response}
    (hc : e.session.current? = some c) (hs : send h c e = .ok r e') :
    e'.session.remaining < e.session.remaining := by
  have hk := session_onStation (Station.exchange c.text c.request.timeout)
    { e with station := e.station.sleep c.request.delay }
  unfold send at hs
  split at hs
  · cases hs
  · next heq =>
    rw [heq] at hk
    cases hs
    simp only [after] at hk
    rw [hk]
    exact Session.remaining_validate_lt hc

theorem remaining_sendNext_lt {h : Host σ ω} {e e' : Engine σ ω} {r : Response}
    (hs : sendNext h e = .ok (some r) e') : e'.session.remaining < e.session.remaining := by
  unfold sendNext at hs
  split at hs
  · cases hs
  · next c session hn =>
    split at hs
    · cases hs
    · next response e₁ heq =>
      have := remaining_send_lt (e := { e with session := session })
        (Session.current?_next? hn) heq
      rw [← Session.remaining_next? hn]
      split at hs
      · cases hs
      · split at hs <;> cases hs <;> exact this

/-- Each step that yields a response brings the end of a run nearer. -/
theorem remaining_step_lt {h : Host σ ω} {e e' : Engine σ ω} {r : Response}
    (hs : step h e = .ok (some r) e') : e'.session.remaining < e.session.remaining := by
  unfold step at hs
  simp only at hs
  split at hs
  · cases hs
  · next heq =>
    have ha := congrArg after heq ▸ agenda_applyDue h _ _
    exact remaining_eq_of_agenda ha ▸ remaining_sendNext_lt hs

/-- What a run comes to: the responses in the order of sending, and what ended it early, if
something did. -/
structure Outcome where
  responses : List Response
  failure : Option Failure
  deriving DecidableEq, Repr

/-- Steps until no command is left or one fails. -/
def drain (h : Host σ ω) (e : Engine σ ω) : Outcome × Engine σ ω :=
  match _ : step h e with
  | .ok (some r) e =>
    let (outcome, e) := drain h e
    ({ outcome with responses := r :: outcome.responses }, e)
  | .ok none e => (⟨[], none⟩, e)
  | .error f e => (⟨[], some f⟩, e)
termination_by e.session.remaining
decreasing_by exact remaining_step_lt ‹_›

/-- Opens the device, takes all steps, and closes the device. A step that failed counts
before a device that could not be closed. -/
def run (h : Host σ ω) : Action σ ω (List Response) := fun e =>
  match openDevice h e with
  | .error f e => .error f e
  | .ok () e =>
    let (outcome, e) := drain h e
    match closeDevice e, outcome.failure with
    | .ok () e, none => .ok outcome.responses e
    | .ok () e, some f => .error f e
    | .error f e, none => .error f e
    | .error _ e, some f => .error f e

end ModemScript.Engine
