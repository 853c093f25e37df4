import ModemScript.Modem
import ModemScript.Proofs.Reading
import ModemScript.Proofs.Steps

/-!
# A script means what its lines say, one after another

An engine never sees the lines of a script in their order. Reading a script
splits them into commands and a schedule of directives with indexes; the session
walks the commands with a cursor that counts fallbacks, and the engine compares
the indexes with a position that does not. Here is the other reading, the one an
author has in mind: take the lines in order, carry out a directive when it is
reached, send a command and then its fallbacks as long as replies fail, and stop
where a failure is to stop a run. It has no cursor, no schedule and no position.

The two agree in everything that can be seen: the responses or the failure, and
the world that is left, which holds the variables, the host, the device, the
clock and all events. What carries the induction over the lines is one sentence
about the engine: the lines that are left, read with as many commands before
them as the position says, are the pending commands and the schedule.
-/

namespace ModemScript

variable {σ ω : Type}

/-! ## The interpreter -/

namespace World

/-- The outcome of one part of a run and then, unless it failed, of what comes after. -/
def andThen (p : Engine.Outcome × World σ ω) (k : World σ ω → Engine.Outcome × World σ ω) :
    Engine.Outcome × World σ ω :=
  match p.1.failure with
  | some _ => p
  | none => (⟨p.1.responses ++ (k p.2).1.responses, (k p.2).1.failure⟩, (k p.2).2)

/-- Sends a request, and as long as the replies fail its fallbacks, at once and in order. A
failure that nothing can follow ends the run if failures do at that moment, as does a
request that cannot be sent. -/
def converse (h : Host σ ω) (r : Request) : List Request → World σ ω → Engine.Outcome × World σ ω
  | fallbacks, w =>
    match ask h r w with
    | .error f w => (⟨[], some f⟩, w)
    | .ok v w =>
      if v.failed then
        match fallbacks with
        | [] =>
          if w.abortOnFailure then (⟨[], some (Engine.badResponse v.response)⟩, w)
          else (⟨[v.response], none⟩, w)
        | r :: rest => andThen (⟨[v.response], none⟩, w) (converse h r rest)
      else (⟨[v.response], none⟩, w)

/-- Takes lines in order, the first of which has the number `number`. -/
def walk (h : Host σ ω) (number : Nat) :
    List (List Char) → World σ ω → Engine.Outcome × World σ ω
  | [], w => (⟨[], none⟩, w)
  | l :: ls, w =>
    if Line.isSilent l then walk h (number + 1) ls w
    else
      match Line.parse h.dialect l with
      | .error cause => (⟨[], some (.malformed ⟨number, cause, String.ofList l⟩)⟩, w)
      | .ok (.directive d) =>
        match act (Engine.apply h d) w with
        | .ok () w => walk h (number + 1) ls w
        | .error cause w =>
          if w.abortOnFailure then (⟨[], some (.directive d cause)⟩, w)
          else walk h (number + 1) ls w
      | .ok (.command c) => andThen (converse h c.request c.fallbacks w) (walk h (number + 1) ls)

/-- Opens the device, takes the lines of a text in order, and closes the device. A line that
failed counts before a device that could not be closed. -/
def interpret (h : Host σ ω) (text : String) : Action σ ω (List Response) := fun w =>
  match act (Engine.openDevice h) w with
  | .error f w => .error f w
  | .ok () w =>
    let (outcome, w) := walk h 1 (Text.lines text.toList) w
    match act Engine.closeDevice w, outcome.failure with
    | .ok () w, none => .ok outcome.responses w
    | .ok () w, some f => .error f w
    | .error f w, none => .error f w
    | .error _ w, some f => .error f w

theorem andThen_andThen (p : Engine.Outcome × World σ ω)
    (k l : World σ ω → Engine.Outcome × World σ ω) :
    andThen (andThen p k) l = andThen p fun w => andThen (k w) l := by
  obtain ⟨⟨rs, failure⟩, w⟩ := p
  cases failure with
  | some f => rfl
  | none =>
      simp only [andThen]
      rcases k w with ⟨⟨rs', _ | f⟩, w'⟩
      · simp only [List.append_assoc]
      · rfl

end World

/-! ## Steps and lines

Directives of the schedule are matched with lines by `step_cons_due`, one by one.
A command and its fallbacks take several steps, during which nothing is due. -/

namespace Engine

/-- What can be seen of a run of steps: its outcome and the world it leaves. -/
def observe (p : Outcome × Engine σ ω) : Outcome × World σ ω := (p.1, p.2.world)

theorem observe_drain_of_error {h : Host σ ω} {e e' : Engine σ ω} {f : Failure}
    (hs : step h e = .error f e') : observe (drain h e) = (⟨[], some f⟩, e'.world) := by
  rw [drain_eq, hs]
  rfl

/-- Where nothing is due, the first pending command is asked. What comes after it is seen from
where the verdict leaves the engine. -/
theorem observe_drain_of_pending_cons {h : Host σ ω} {e : Engine σ ω} {q : Queue} {c : Command}
    {rest : List Command} (hd : ∀ x ∈ e.schedule, x.index ≠ e.position)
    (hs : e.session = q.session) (hp : q.pending = c :: rest) :
    let asked := c.withText (q.store.substitute c.text)
    observe (drain h e) =
      match World.ask h c.request e.world with
      | .error f w => (⟨[], some f⟩, w)
      | .ok v w =>
        let e' := { e with session := (q.settle asked rest v).session }.withWorld w
        let moved := { e' with position := e.position + 1 }
        if v.failed then
          match c.fallbacks with
          | [] =>
            if w.abortOnFailure then (⟨[], some (badResponse v.response)⟩, w)
            else World.andThen (⟨[v.response], none⟩, w) fun _ => observe (drain h moved)
          | _ :: _ => World.andThen (⟨[v.response], none⟩, w) fun _ => observe (drain h e')
        else World.andThen (⟨[v.response], none⟩, w) fun _ => observe (drain h moved) := by
  intro asked
  rw [drain_eq, step_eq_sendNext hd, sendNext_of_pending_cons hs hp]
  cases World.ask h c.request e.world with
  | error f w => rfl
  | ok v w =>
      simp only
      cases v.failed with
      | false => rfl
      | true =>
          cases c.fallbacks with
          | nil => cases w.abortOnFailure <;> rfl
          | cons r fallbacks => rfl

/-- Where nothing is due, the steps begin with a conversation about the first pending command,
its fallbacks included. What comes after it is any `k` that describes the steps from
where the conversation leaves the engine: at the rest of the commands, one position
further, with the same schedule. -/
theorem observe_drain_of_command {h : Host σ ω} {rest : List Command} {schedule : List Scheduled}
    {position : Nat} {k : World σ ω → Outcome × World σ ω}
    (hd : ∀ x ∈ schedule, x.index ≠ position)
    (hk : ∀ (e : Engine σ ω) (q : Queue), e.session = q.session → q.pending = rest →
      e.schedule = schedule → e.position = position + 1 → observe (drain h e) = k e.world)
    (fallbacks : List Request) :
    ∀ (e : Engine σ ω) (q : Queue) (c : Command), c.fallbacks = fallbacks →
      e.session = q.session → q.pending = c :: rest → e.schedule = schedule →
      e.position = position →
      observe (drain h e) = World.andThen (World.converse h c.request fallbacks e.world) k := by
  have hmoved : ∀ {e : Engine σ ω} {q : Queue} (r : Response), e.session = q.session →
      q.pending = rest → e.schedule = schedule → e.position = position + 1 →
      World.andThen (⟨[r], none⟩, e.world) (fun _ => observe (drain h e)) =
        World.andThen (⟨[r], none⟩, e.world) k := by
    intro e q r hs hp hsch hpos
    rw [World.andThen, World.andThen, hk e q hs hp hsch hpos]
  induction fallbacks with
  | nil =>
      rintro e q c hf hs hp rfl rfl
      rw [observe_drain_of_pending_cons hd hs hp, World.converse, hf]
      cases World.ask h c.request e.world with
      | error f w => rfl
      | ok v w =>
          let judged := q.settle (c.withText (q.store.substitute c.text)) rest v
          have hj : judged.pending = rest := Queue.pending_settle_of_nil hf
          have hnext := hmoved (q := { judged with store := w.store })
            (e := { { e with session := judged.session }.withWorld w with
              position := e.position + 1 }) v.response rfl hj rfl rfl
          simp only
          by_cases hv : v.failed = true
          · rw [if_pos hv, if_pos hv]
            by_cases ha : w.abortOnFailure = true
            · rw [if_pos ha, if_pos ha]
              rfl
            · rw [if_neg ha, if_neg ha]
              exact hnext
          · rw [if_neg hv, if_neg hv]
            exact hnext
  | cons r fallbacks ih =>
      rintro e q c hf hs hp rfl rfl
      rw [observe_drain_of_pending_cons hd hs hp, World.converse, hf]
      cases World.ask h c.request e.world with
      | error f w => rfl
      | ok v w =>
          let judged := q.settle (c.withText (q.store.substitute c.text)) rest v
          simp only
          by_cases hv : v.failed = true
          · have hj : judged.pending = .ofRequest r fallbacks :: rest :=
              Queue.pending_settle_of_failed hv hf
            have hfollow := ih ({ e with session := judged.session }.withWorld w)
              { judged with store := w.store } (.ofRequest r fallbacks) rfl rfl hj rfl rfl
            rw [if_pos hv, if_pos hv, World.andThen_andThen, World.andThen, World.andThen, hfollow]
            rfl
          · have hj : judged.pending = rest :=
              Queue.pending_settle_of_not_failed (Bool.eq_false_iff.2 hv)
            rw [if_neg hv, if_neg hv]
            exact hmoved (q := { judged with store := w.store }) v.response rfl hj rfl rfl

end Engine

/-! ## The two readings agree -/

namespace Engine

/-- The steps from a place in the script are what the lines from there on say. The place is
given by the invariant: these lines, with as many commands before them as the position
says, make up the pending commands and the schedule. -/
theorem observe_drain_eq_walk (h : Host σ ω) (ls : List (List Char)) :
    ∀ (number : Nat) (e : Engine σ ω) (q : Queue), e.session = q.session →
      Script.ofLines h.dialect number e.position ls = .ok ⟨q.pending, e.schedule⟩ →
      observe (drain h e) = World.walk h number ls e.world := by
  induction ls with
  | nil =>
      intro number e q hs hls
      injection hls with hls
      injection hls with hp hsch
      have hstep := step_eq_sendNext (h := h) (e := e) (by rw [← hsch]; simp)
      rw [sendNext_of_pending_nil hs hp.symm] at hstep
      rw [drain_eq, hstep]
      rfl
  | cons l ls ih =>
      intro number e q hs hls
      rw [World.walk]
      by_cases hl : Line.isSilent l = true
      · rw [if_pos hl]
        rw [Script.ofLines_cons_of_silent hl] at hls
        exact ih (number + 1) e q hs hls
      · rw [if_neg hl]
        obtain ⟨line, s', hline, hs', hprepend⟩ := Script.exists_of_ofLines_cons hl hls
        rw [hline]
        cases line with
        | directive d =>
            injection hprepend with hp hsch
            have hrest : ∀ w, observe (drain h ((e.plan s'.schedule).withWorld w)) =
                World.walk h (number + 1) ls w := by
              intro w
              refine ih (number + 1) _ { q with store := w.store } ?_ ?_
              · show ({ e.session with store := w.store } : Session) = _
                rw [hs]
                rfl
              · show Script.ofLines h.dialect (number + 1) e.position ls =
                  .ok ⟨q.pending, s'.schedule⟩
                rw [hp]
                exact hs'
            have hstep := step_cons_due (h := h) hsch rfl
            simp only at hstep ⊢
            cases hact : World.act (apply h d) e.world with
            | ok _ w =>
                rw [hact] at hstep
                rw [drain_congr hstep]
                exact hrest w
            | error cause w =>
                simp only [hact] at hstep ⊢
                split at hstep
                · next ha =>
                    rw [if_pos ha]
                    exact observe_drain_of_error hstep
                · next ha =>
                    rw [if_neg ha, drain_congr hstep]
                    exact hrest w
        | command c =>
            injection hprepend with hp hsch
            have hlater : ∀ x ∈ e.schedule, x.index ≠ e.position := by
              intro x hx
              have := Script.le_index_of_ofLines hs' x (hsch ▸ hx)
              simp only [Script.nextIndex] at this
              omega
            refine observe_drain_of_command hlater ?_ c.fallbacks e q c rfl hs hp rfl rfl
            intro e' q' hs'' hp' hsch' hpos'
            refine ih (number + 1) e' q' hs'' ?_
            rw [hpos', hp', hsch', hsch]
            exact hs'

/-- Loading a script and running it does what its lines say, taken one after another: the same
responses or the same failure, and the same world afterwards. -/
theorem run_loadScript_eq_interpret (h : Host σ ω) (e : Engine σ ω) {text : String}
    {script : Script} (hp : Script.parse h.dialect text = .ok script) :
    mapState world (run h (e.loadScript script)) =
      World.interpret h text { e.world with store := .empty } := by
  have hopen := actsOnWorld_openDevice h (e.loadScript script)
  have hloaded : (e.loadScript script).world = { e.world with store := .empty } := rfl
  rw [run, World.interpret, hopen, hloaded]
  cases World.act (openDevice h) { e.world with store := .empty } with
  | error f w => rfl
  | ok _ w =>
      let loaded := (e.loadScript script).withWorld w
      have hdrain : observe (drain h loaded) = World.walk h 1 (Text.lines text.toList) w :=
        observe_drain_eq_walk h (Text.lines text.toList) 1 loaded
          ⟨[], script.commands, w.store, false⟩ rfl hp
      have hclose := actsOnWorld_closeDevice.world_eq (drain h loaded).2
      simp only [mapState, ← hdrain, observe, ← hclose]
      cases closeDevice (drain h loaded).2 <;> cases (drain h loaded).1.failure <;> rfl

/-- A script with a variable, a fallback that refers to it, and a directive behind the last
command, on a modem whose first reply is not as expected. -/
theorem run_loadScript_eq_interpret_fallback :
    let h : Host Modem.State Unit := .bare
    let modem : Modem :=
      ⟨[[⟨0, Utf8.encode "SIM PIN\r\n"⟩], [⟨5, Utf8.encode "OK\r\n"⟩]], [], none, none, false, [],
        [], none, true⟩
    let e : Engine Modem.State Unit :=
      { session := .empty, station := .new (.new (some "v") (some 9600)) modem.channel
        schedule := [], abortOnFailure := true, position := 0, host := () }
    let text :=
      "SET PIN=1\nAT+CPIN?;;READY;;10;;1;;;;AT+CPIN=${PIN};;OK\n# then\nAOF false\n"
    let script : Script :=
      ⟨[⟨⟨"AT+CPIN?", some "READY", some 1, 10, none⟩,
          [⟨"AT+CPIN=${PIN}", some "OK", some 1, 10, none⟩], none⟩],
        [⟨.set "PIN" "1", 0⟩, ⟨.abortOnFailure false, 1⟩]⟩
    Script.parse h.dialect text = .ok script ∧
      mapState world (run h (e.loadScript script)) =
        World.interpret h text { e.world with store := .empty } := by
  intro h modem e text script
  have hp : Script.parse h.dialect text = .ok script :=
    eq_ok_of_toOption_eq_some (by decide +kernel)
  exact ⟨hp, run_loadScript_eq_interpret h e hp⟩

end Engine

end ModemScript
