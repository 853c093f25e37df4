import ModemScript.Proofs.Queue
import ModemScript.Proofs.World

/-!
# What a step does

A step carries out the directives that are due and then sends the next command.
Both parts are taken apart here. A due directive at the head of the schedule can
be carried out first and the step taken afterwards, because directives do not
touch the schedule and the position that decide which others are due. Sending
the next command is a matter of the world (`World.ask`) and of the queue that
the session is: the command at the head of what is pending is handed out, sent,
judged and done.
-/

namespace ModemScript

variable {σ ω : Type}

namespace World

/-- Waits out the delay of a request, sends it as it stands, and judges the reply. -/
def tell (h : Host σ ω) (r : Request) : Action σ ω Verdict := fun w =>
  match Station.exchange r.text r.timeout (w.station.sleep r.delay) with
  | .error cause s => .error (.transport cause) { w with station := s }
  | .ok reply s =>
    let v := r.judge h.dialect w.store reply.lines reply.elapsed
    .ok v { w with station := s, store := v.store }

/-- Sends a request with the values of the variables in place of its references. -/
def ask (h : Host σ ω) (r : Request) : Action σ ω Verdict := fun w =>
  tell h { r with text := w.store.substitute r.text } w

theorem exists_transport_of_ask {h : Host σ ω} {r : Request} {w w' : World σ ω} {f : Failure}
    (ha : ask h r w = .error f w') : ∃ cause, f = .transport cause := by
  unfold ask tell at ha
  split at ha
  · next cause s _ =>
      cases ha
      exact ⟨cause, rfl⟩
  · cases ha

end World

namespace Engine

theorem drain_eq (h : Host σ ω) (e : Engine σ ω) :
    drain h e =
      match step h e with
      | .ok (some r) e =>
        ({ (drain h e).1 with responses := r :: (drain h e).1.responses }, (drain h e).2)
      | .ok none e => (⟨[], none⟩, e)
      | .error f e => (⟨[], some f⟩, e) := by
  rw [drain]
  split
  · next heq => rw [heq]
  · next heq => rw [heq]
  · next heq => rw [heq]

/-- What a run comes to after its steps: the device is closed, and a step that failed counts
before a device that could not be closed. -/
def finish (p : Outcome × Engine σ ω) : EStateM.Result Failure (Engine σ ω) (List Response) :=
  match closeDevice p.2, p.1.failure with
  | .ok () e, none => .ok p.1.responses e
  | .ok () e, some f => .error f e
  | .error f e, none => .error f e
  | .error _ e, some f => .error f e

theorem run_eq_finish (h : Host σ ω) (e : Engine σ ω) :
    run h e =
      match openDevice h e with
      | .error f e => .error f e
      | .ok () e => finish (drain h e) := by
  unfold run
  cases openDevice h e <;> rfl

theorem after_finish (p : Outcome × Engine σ ω) : after (finish p) = after (closeDevice p.2) := by
  unfold finish
  cases closeDevice p.2 <;> cases p.1.failure <;> rfl

theorem drain_congr {h : Host σ ω} {e e' : Engine σ ω} (hs : step h e = step h e') :
    drain h e = drain h e' := by
  rw [drain_eq h e, drain_eq h e', hs]

/-! ## Directives that are due -/

/-- The scheduled directives that the next step carries out. -/
def due (e : Engine σ ω) : List Scheduled := e.schedule.filter fun x => x.index == e.position

def later (e : Engine σ ω) : List Scheduled :=
  e.schedule.filter fun x => !(x.index == e.position)

theorem step_eq (h : Host σ ω) (e : Engine σ ω) :
    step h e =
      match applyDue h e.due { e with schedule := e.later } with
      | .error f e => .error f e
      | .ok () e => sendNext h e := by
  unfold step
  rw [List.partition_eq_filter_filter]
  rfl

theorem applyDue_cons (h : Host σ ω) (x : Scheduled) (rest : List Scheduled) (e : Engine σ ω) :
    applyDue h (x :: rest) e =
      match World.act (apply h x.directive) e.world with
      | .ok () w => applyDue h rest (e.withWorld w)
      | .error cause w =>
        if w.abortOnFailure then
          .error (.directive x.directive cause)
            { e.withWorld w with schedule := rest ++ e.schedule }
        else applyDue h rest (e.withWorld w) := by
  simp only [applyDue]
  rw [actsOnWorld_apply h x.directive e]
  cases World.act (apply h x.directive) e.world <;> rfl

theorem due_cons {e : Engine σ ω} {x : Scheduled} {rest : List Scheduled}
    (hs : e.schedule = x :: rest) (hx : x.index = e.position) :
    e.due = x :: (e.plan rest).due := by
  rw [due, hs]
  exact List.filter_cons_of_pos (by rw [hx]; exact beq_self_eq_true _)

theorem later_cons {e : Engine σ ω} {x : Scheduled} {rest : List Scheduled}
    (hs : e.schedule = x :: rest) (hx : x.index = e.position) :
    e.later = (e.plan rest).later := by
  rw [later, hs]
  exact List.filter_cons_of_neg (by rw [hx, beq_self_eq_true]; decide)

theorem due_eq_nil {e : Engine σ ω} (hd : ∀ x ∈ e.schedule, x.index ≠ e.position) :
    e.due = [] := by
  refine List.filter_eq_nil_iff.2 fun x hx => ?_
  rw [beq_iff_eq]
  exact hd x hx

theorem later_eq_self {e : Engine σ ω} (hd : ∀ x ∈ e.schedule, x.index ≠ e.position) :
    e.later = e.schedule := by
  refine List.filter_eq_self.2 fun x hx => ?_
  rw [beq_false_of_ne (hd x hx)]
  rfl

/-- The first scheduled directive, if it is due, comes before all else that the step does. -/
theorem step_cons_due {h : Host σ ω} {e : Engine σ ω} {x : Scheduled} {rest : List Scheduled}
    (hs : e.schedule = x :: rest) (hx : x.index = e.position) :
    step h e =
      match World.act (apply h x.directive) e.world with
      | .ok () w => step h ((e.plan rest).withWorld w)
      | .error cause w =>
        if w.abortOnFailure then
          .error (.directive x.directive cause)
            ((e.plan ((e.plan rest).due ++ (e.plan rest).later)).withWorld w)
        else step h ((e.plan rest).withWorld w) := by
  rw [step_eq, due_cons hs hx, later_cons hs hx, applyDue_cons]
  show (match (match World.act (apply h x.directive) e.world with
    | .ok () w => applyDue h (e.plan rest).due ((e.plan (e.plan rest).later).withWorld w)
    | .error cause w => _) with
    | .error f e => EStateM.Result.error f e
    | .ok () e => sendNext h e) = _
  cases World.act (apply h x.directive) e.world with
  | ok _ w =>
      simp only
      rw [step_eq]
      rfl
  | error cause w =>
      by_cases ha : w.abortOnFailure = true
      · simp only [if_pos ha]
        rfl
      · simp only [if_neg ha]
        rw [step_eq]
        rfl

theorem step_eq_sendNext {h : Host σ ω} {e : Engine σ ω}
    (hd : ∀ x ∈ e.schedule, x.index ≠ e.position) : step h e = sendNext h e := by
  rw [step_eq, due_eq_nil hd, later_eq_self hd]
  rfl

/-! ## The next command -/

/-- In another world the session is the queue with the variables of that world. -/
theorem session_withWorld {e : Engine σ ω} {q : Queue} (hs : e.session = q.session)
    (w : World σ ω) : (e.withWorld w).session = ({ q with store := w.store } : Queue).session := by
  rw [withWorld, hs]
  rfl

theorem sendNext_of_pending_nil {h : Host σ ω} {e : Engine σ ω} {q : Queue}
    (hs : e.session = q.session) (hp : q.pending = []) : sendNext h e = .ok none e := by
  rw [sendNext, hs, Queue.next?_session_nil hp]

/-- The head of the queue is sent. If it is answered, it is done. -/
theorem send_eq_tell {h : Host σ ω} {e : Engine σ ω} {q : Queue} {c : Command}
    {rest : List Command} (hs : e.session = q.session) (hp : q.pending = c :: rest) :
    send h c e =
      match World.tell h c.request e.world with
      | .error f w => .error f (e.withWorld w)
      | .ok v w =>
        .ok v.response ({ e with session := (q.settle c rest v).session }.withWorld w) := by
  simp only [send, onStation, World.tell, Command.text, world]
  cases Station.exchange c.request.text c.request.timeout (e.station.sleep c.request.delay) with
  | error cause s => rfl
  | ok reply s =>
      simp only [hs, Queue.validate_session_cons hp]
      rfl

/-- The head of the queue is asked. If it cannot be sent, only its text has changed. If it is
answered, it is done, and the position moves on unless a fallback takes its place. -/
theorem sendNext_of_pending_cons {h : Host σ ω} {e : Engine σ ω} {q : Queue} {c : Command}
    {rest : List Command} (hs : e.session = q.session) (hp : q.pending = c :: rest) :
    let asked := c.withText (q.store.substitute c.text)
    sendNext h e =
      match World.ask h c.request e.world with
      | .error f w =>
        .error f ({ e with
          session := ({ q with pending := asked :: rest } : Queue).session }.withWorld w)
      | .ok v w =>
        let e' := { e with session := (q.settle asked rest v).session }.withWorld w
        let moved := { e' with position := e.position + 1 }
        if v.failed then
          match c.fallbacks with
          | [] =>
            if w.abortOnFailure then .error (badResponse v.response) e'
            else .ok (some v.response) moved
          | _ :: _ => .ok (some v.response) e'
        else .ok (some v.response) moved := by
  intro asked
  have hstore : e.world.store = q.store := by
    show e.session.store = q.store
    rw [hs]
    rfl
  let q' : Queue := { q with pending := asked :: rest }
  have hn : e.session.next? = some (asked, q'.session) := by
    rw [hs]
    exact Queue.next?_session_cons hp
  have hw : ({ e with session := q'.session } : Engine σ ω).world = e.world := by
    rw [world, world, hs]
    rfl
  have hask : World.ask h c.request e.world = World.tell h asked.request e.world := by
    rw [World.ask, hstore]
    rfl
  rw [sendNext, hn, hask]
  simp only
  rw [send_eq_tell (q := q') rfl (show q'.pending = asked :: rest from rfl), hw]
  cases World.tell h asked.request e.world with
  | error f w => rfl
  | ok v w =>
      simp only
      show (if (v.failed && c.fallbacks.isEmpty) && w.abortOnFailure then
          EStateM.Result.error (badResponse v.response) _
        else if v.failed && !c.fallbacks.isEmpty then .ok (some v.response) _
        else .ok (some v.response) _) = _
      cases v.failed with
      | false => rfl
      | true => cases c.fallbacks <;> rfl

end Engine

end ModemScript
