import ModemScript.Proofs.Queue

/-!
# A rewound session

A session is started over by moving its cursor back, and nothing else. So it is not the session
that was loaded: a command keeps the text that it was handed out with, and a fallback that took the
place of a command stays where it was put in.

What it is instead can be said without the first pass. It answers as a session does into which
the commands were loaded that the pass has handed out, with their texts, and behind them those
that it has not reached. The two differ in the responses that commands keep, and no
operation looks at those (`Alike`). Where the pass replaced no reference and put in no
fallback, what it has handed out is what was loaded, and only then does starting over lead back to
the start.
-/

namespace ModemScript

namespace Command

def unsent (c : Command) : Command := { c with response := none }

theorem request_eq_of_unsent {c c' : Command} (h : c.unsent = c'.unsent) :
    c.request = c'.request := (congrArg request h : c.unsent.request = c'.unsent.request)

theorem fallbacks_eq_of_unsent {c c' : Command} (h : c.unsent = c'.unsent) :
    c.fallbacks = c'.fallbacks :=
  (congrArg fallbacks h : c.unsent.fallbacks = c'.unsent.fallbacks)

end Command

namespace Answer

/-- The answer without the response of the command that is handed out. -/
def unsent : Answer → Answer
  | .handed c => .handed (c.map Command.unsent)
  | a => a

def handed? : Answer → Option Command
  | .handed c => c
  | _ => none

end Answer

/-- A pass through a session: a command is handed out and the reply to it is judged, once for
each reply. -/
def Operation.pass : List (List String × Int) → List Operation
  | [] => []
  | (lines, elapsed) :: replies => .next :: .validate lines elapsed :: pass replies

namespace Queue

variable {d : Dialect}

/-! ## Responses that commands keep -/

/-- The queues differ in nothing but the responses of their commands. -/
structure Alike (q q' : Queue) : Prop where
  done : q.done.map Command.unsent = q'.done.map Command.unsent
  pending : q.pending.map Command.unsent = q'.pending.map Command.unsent
  store : q.store = q'.store
  failed : q.failed = q'.failed

namespace Alike

variable {q q' : Queue}

theorem add (h : Alike q q') (c : Command) : Alike (q.add c) (q'.add c) := by
  refine ⟨h.done, ?_, h.store, h.failed⟩
  show (q.pending ++ [c]).map _ = (q'.pending ++ [c]).map _
  rw [List.map_append, List.map_append, h.pending]

/-- What is pending in two such queues begins with the same command, responses apart. -/
theorem exists_pending {c : Command} {rest : List Command} (h : Alike q q')
    (hp : q.pending = c :: rest) :
    ∃ c' rest', q'.pending = c' :: rest' ∧ c.request = c'.request ∧ c.fallbacks = c'.fallbacks ∧
      rest.map Command.unsent = rest'.map Command.unsent := by
  have hpending := h.pending
  rw [hp, List.map_cons] at hpending
  obtain ⟨c', rest', hp', hc, hrest⟩ := List.map_eq_cons_iff.1 hpending.symm
  exact ⟨c', rest', hp', Command.request_eq_of_unsent hc.symm,
    Command.fallbacks_eq_of_unsent hc.symm, hrest.symm⟩

theorem pending_nil (h : Alike q q') (hp : q.pending = []) : q'.pending = [] := by
  have hpending := h.pending
  rw [hp] at hpending
  exact List.map_eq_nil_iff.1 hpending.symm

theorem next (h : Alike q q') :
    q.next.1.unsent = q'.next.1.unsent ∧ Alike q.next.2 q'.next.2 := by
  unfold Queue.next
  cases hp : q.pending with
  | nil =>
      rw [h.pending_nil hp]
      exact ⟨rfl, h⟩
  | cons c rest =>
      obtain ⟨c', rest', hp', hrequest, hfallbacks, hrest⟩ := h.exists_pending hp
      have hasked : (c.withText (q.store.substitute c.text)).unsent =
          (c'.withText (q'.store.substitute c'.text)).unsent := by
        simp only [Command.unsent, Command.withText, Command.text, hrequest, hfallbacks, h.store]
      rw [hp']
      refine ⟨?_, h.done, ?_, h.store, h.failed⟩
      · exact congrArg (fun c => Answer.handed (some c)) hasked
      · rw [List.map_cons, List.map_cons, hasked, hrest]

theorem settle (h : Alike q q') {c c' : Command} {rest rest' : List Command} (v : Verdict)
    (hrequest : c.request = c'.request) (hfallbacks : c.fallbacks = c'.fallbacks)
    (hrest : rest.map Command.unsent = rest'.map Command.unsent) :
    Alike (q.settle c rest v) (q'.settle c' rest' v) := by
  have hunsent : ({ c with response := some v.response } : Command).unsent =
      ({ c' with response := some v.response } : Command).unsent := by
    simp only [Command.unsent, hrequest, hfallbacks]
  have hfallback : c.fallback? = c'.fallback? := by
    rw [Command.fallback?, Command.fallback?, hfallbacks]
  refine ⟨?_, ?_, rfl, rfl⟩
  · show (q.done ++ [_]).map _ = (q'.done ++ [_]).map _
    rw [List.map_append, List.map_append, h.done, List.map_singleton, List.map_singleton, hunsent]
  · show (_ ++ rest).map _ = (_ ++ rest').map _
    rw [List.map_append, List.map_append, hfallback, hrest]

theorem validate (h : Alike q q') (lines : List String) (elapsed : Int) :
    (q.validate d lines elapsed).1 = (q'.validate d lines elapsed).1 ∧
      Alike (q.validate d lines elapsed).2 (q'.validate d lines elapsed).2 := by
  unfold Queue.validate
  cases hp : q.pending with
  | nil =>
      rw [h.pending_nil hp]
      exact ⟨rfl, h⟩
  | cons c rest =>
      obtain ⟨c', rest', hp', hrequest, hfallbacks, hrest⟩ := h.exists_pending hp
      rw [hp']
      have hjudge : c.request.judge d q.store lines elapsed =
          c'.request.judge d q'.store lines elapsed := by rw [hrequest, h.store]
      show Answer.judged (c.request.judge d q.store lines elapsed).response = _ ∧
        Alike (q.settle c rest (c.request.judge d q.store lines elapsed)) _
      rw [hjudge]
      exact ⟨rfl, h.settle _ hrequest hfallbacks hrest⟩

theorem rewind (h : Alike q q') : Alike q.rewind q'.rewind := by
  refine ⟨rfl, ?_, h.store, rfl⟩
  show (q.done ++ q.pending).map _ = (q'.done ++ q'.pending).map _
  rw [List.map_append, List.map_append, h.done, h.pending]

/-- No operation tells them apart. -/
theorem perform (h : Alike q q') (o : Operation) :
    (q.perform d o).1.unsent = (q'.perform d o).1.unsent ∧
      Alike (q.perform d o).2 (q'.perform d o).2 := by
  cases o with
  | add c => exact ⟨rfl, h.add c⟩
  | addNew r fallback =>
      simp only [Queue.perform]
      split
      · exact ⟨rfl, h⟩
      · exact ⟨rfl, h.add _⟩
  | next => exact h.next
  | validate lines elapsed =>
      obtain ⟨hanswer, hq⟩ := h.validate lines elapsed
      exact ⟨congrArg Answer.unsent hanswer, hq⟩
  | set key value =>
      refine ⟨rfl, h.done, h.pending, ?_, h.failed⟩
      show q.store.insert key value = q'.store.insert key value
      rw [h.store]
  | clear => exact ⟨rfl, rfl, rfl, h.store, rfl⟩
  | reset => exact ⟨rfl, rfl, rfl, rfl, rfl⟩
  | rewind => exact ⟨rfl, h.rewind⟩

theorem run (os : List Operation) : ∀ {q q' : Queue}, Alike q q' →
    (q.run d os).1.map Answer.unsent = (q'.run d os).1.map Answer.unsent := by
  induction os with
  | nil => exact fun _ => rfl
  | cons o os ih =>
      intro q q' h
      obtain ⟨hanswer, hq⟩ := h.perform (d := d) o
      exact List.cons_eq_cons.2 ⟨hanswer, ih hq⟩

end Alike

/-! ## One pass -/

/-- What commands have become when some of them have been handed out with these texts and have got
these replies: each is followed by its fallback if its reply was not as expected. -/
def walked (d : Dialect) : List (String × List String) → List Command → List Command
  | [], commands => commands
  | _ :: _, [] => []
  | (text, lines) :: steps, c :: commands =>
    c.withText text :: walked d steps
      ((if Session.fails d c.request lines then c.fallback?.toList else []) ++ commands)

/-- Where every text is that of the command and no fallback is called for, nothing changes. -/
theorem walked_eq_self {steps : List (String × List String)} :
    ∀ {commands : List Command},
      (∀ x ∈ commands.zip steps, x.1.text = x.2.1 ∧
        (x.1.fallbacks = [] ∨ Session.fails d x.1.request x.2.2 = false)) →
      walked d steps commands = commands := by
  induction steps with
  | nil => exact fun _ => rfl
  | cons step steps ih =>
      intro commands h
      obtain ⟨text, lines⟩ := step
      cases commands with
      | nil => rfl
      | cons c commands =>
          rw [List.zip_cons_cons, List.forall_mem_cons] at h
          obtain ⟨⟨htext, hreply⟩, hrest⟩ := h
          have hc : c.withText text = c := by
            obtain rfl : c.text = text := htext
            rfl
          have hfallback : (if Session.fails d c.request lines then c.fallback?.toList else []) =
              [] := by
            rcases hreply with hf | hf
            · rw [Command.fallback?, hf]
              exact ite_self []
            · rw [hf]
              rfl
          rw [walked, hc, hfallback, List.nil_append, ih hrest]

/-- What a pass hands out, and the queue after it. -/
def pass (d : Dialect) (replies : List (List String × Int)) (q : Queue) : List Command × Queue :=
  ((q.run d (Operation.pass replies)).1.filterMap Answer.handed?,
    (q.run d (Operation.pass replies)).2)

theorem pass_of_nil {q : Queue} (hp : q.pending = []) (replies : List (List String × Int)) :
    q.pass d replies = ([], q) := by
  induction replies with
  | nil => rfl
  | cons reply replies ih =>
      obtain ⟨lines, elapsed⟩ := reply
      have hnext : q.next = (.handed none, q) := by rw [next, hp]
      have hvalidate : q.validate d lines elapsed =
          (.judged (.new none lines "" elapsed), q) := by rw [validate, hp]
      rw [pass, Operation.pass, run, perform, hnext]
      simp only [run, perform, hvalidate]
      exact ih

theorem pass_of_cons {q : Queue} {c : Command} {rest : List Command}
    (hp : q.pending = c :: rest) (lines : List String) (elapsed : Int)
    (replies : List (List String × Int)) :
    q.pass d ((lines, elapsed) :: replies) =
      let asked := c.withText (q.store.substitute c.text)
      let p := (q.settle asked rest (asked.request.judge d q.store lines elapsed)).pass d replies
      (asked :: p.1, p.2) := by
  rw [pass, Operation.pass, run, perform, next, hp]
  rfl

/-- Behind what was done before, a pass leaves the commands as they have been walked. What it has
handed out stands first. -/
theorem unsent_pass (replies : List (List String × Int)) :
    ∀ {q : Queue},
      let p := q.pass d replies
      let walked := walked d (p.1.zipWith (fun c reply => (c.text, reply.1)) replies) q.pending
      (p.2.done ++ p.2.pending).map Command.unsent = (q.done ++ walked).map Command.unsent ∧
        p.1.map Command.unsent <+: walked.map Command.unsent := by
  induction replies with
  | nil =>
      intro q p walked
      have hwalked : walked = q.pending := by
        show Queue.walked d (List.zipWith _ p.1 []) _ = _
        rw [List.zipWith_nil_right, Queue.walked]
      rw [hwalked]
      exact ⟨rfl, List.nil_prefix⟩
  | cons reply replies ih =>
      intro q
      obtain ⟨lines, elapsed⟩ := reply
      cases hp : q.pending with
      | nil =>
          rw [pass_of_nil hp]
          refine ⟨?_, List.nil_prefix⟩
          show (q.done ++ q.pending).map Command.unsent = (q.done ++ []).map Command.unsent
          rw [hp]
      | cons c rest =>
          let asked := c.withText (q.store.substitute c.text)
          let v := asked.request.judge d q.store lines elapsed
          have hv : v.failed = Session.fails d c.request lines :=
            Request.failed_judge d q.store asked.request lines elapsed
          have hdone : (q.settle asked rest v).done.map Command.unsent =
              q.done.map Command.unsent ++ [asked.unsent] := List.map_append
          have hpending : (q.settle asked rest v).pending =
              (if Session.fails d c.request lines then c.fallback?.toList else []) ++ rest := by
            rw [← hv]
            rfl
          obtain ⟨hall, hasked⟩ := ih (q := q.settle asked rest v)
          rw [pass_of_cons hp]
          simp only [List.zipWith_cons_cons, walked]
          rw [hpending] at hall hasked
          refine ⟨?_, List.cons_prefix_cons.2 ⟨rfl, hasked⟩⟩
          rw [hall, List.map_append, hdone, List.map_append, List.append_assoc]
          rfl

end Queue

/-- A session that has been passed through and started over answers as one into which the commands
were loaded as the pass has walked them: those that it has handed out, with their texts and
with the fallbacks that were called for, and then those that it has not reached. If the pass has
handed out every command as it was loaded and no fallback was called for, these are the
commands of the first session. -/
theorem rewind_answers_as_walked (d : Dialect) (commands : List Command) (store : Store)
    (replies : List (List String × Int)) (more : List Operation) :
    let p := (⟨commands, store, 0, false⟩ : Session).run d (Operation.pass replies)
    let asked := p.1.filterMap Answer.handed?
    let steps := asked.zipWith (fun c reply => (c.text, reply.1)) replies
    let walked := Queue.walked d steps commands
    asked.map Command.unsent <+: walked.map Command.unsent ∧
      (p.2.rewind.run d more).1.map Answer.unsent =
        ((⟨walked, p.2.store, 0, false⟩ : Session).run d more).1.map Answer.unsent ∧
      ((∀ x ∈ commands.zip steps, x.1.text = x.2.1 ∧
          (x.1.fallbacks = [] ∨ Session.fails d x.1.request x.2.2 = false)) →
        (p.2.rewind.run d more).1.map Answer.unsent =
          ((⟨commands, p.2.store, 0, false⟩ : Session).run d more).1.map Answer.unsent) := by
  intro p asked steps walked
  let q : Queue := ⟨[], commands, store, false⟩
  have hp : p = ((q.run d (Operation.pass replies)).1, (q.pass d replies).2.session) :=
    Queue.run_session d (Operation.pass replies) q
  have hasked : (q.pass d replies).1 = asked := by
    show _ = p.1.filterMap _
    rw [hp]
    rfl
  obtain ⟨hwalked, hfirst⟩ := Queue.unsent_pass (d := d) replies (q := q)
  rw [hasked] at hwalked hfirst
  have hanswers : (p.2.rewind.run d more).1.map Answer.unsent =
      ((⟨walked, p.2.store, 0, false⟩ : Session).run d more).1.map Answer.unsent := by
    have halike : Queue.Alike (q.pass d replies).2.rewind ⟨[], walked, p.2.store, false⟩ :=
      ⟨rfl, hwalked, by rw [hp]; rfl, rfl⟩
    have hrewind : p.2.rewind = (q.pass d replies).2.rewind.session := by
      rw [hp]
      rfl
    have hfresh : (⟨walked, p.2.store, 0, false⟩ : Session) =
        (⟨[], walked, p.2.store, false⟩ : Queue).session := rfl
    rw [hrewind, hfresh, Queue.run_session, Queue.run_session]
    exact halike.run more
  refine ⟨hfirst, hanswers, fun h => ?_⟩
  have hself : walked = commands := Queue.walked_eq_self h
  rw [hself] at hanswers
  exact hanswers

/-- A command that has failed and has no fallback is started over as it was loaded. -/
theorem rewind_answers_as_loaded :
    let d : Dialect := .literal
    let commands : List Command :=
      [.ofRequest (.new "AT" (some "OK")) [], .ofRequest (.new "ATI" none) []]
    let p := (⟨commands, .empty, 0, false⟩ : Session).run d (Operation.pass [(["ERROR"], 3)])
    let more := Operation.pass [(["OK"], 0), ([], 0)]
    p.2.failed = true ∧ p.2.commands ≠ commands ∧
      (p.2.rewind.run d more).1.map Answer.unsent =
        ((⟨commands, p.2.store, 0, false⟩ : Session).run d more).1.map Answer.unsent := by
  intro d commands p more
  have h := rewind_answers_as_walked d commands .empty [(["ERROR"], 3)] more
  exact ⟨by decide +kernel, by decide +kernel, h.2.2 (by decide +kernel)⟩

/-- A command that has failed and one that refers to a variable: the second pass hands out the
fallback whatever the reply, and the value that the variable had in the first pass. -/
theorem rewind_answers_not_as_loaded :
    let d : Dialect := .literal
    let check : Command := .ofRequest (.new "AT" (some "OK")) [.new "ATZ" none]
    let count : Command :=
      .ofRequest ((Request.new "ATS${x}" none).withCollectables (some ["S?{x}"])) []
    let s : Session := ⟨[check, count], Store.empty.insert "x" (.int 1), 0, false⟩
    let p := s.run d (Operation.pass [(["ERROR"], 0), ([], 0), (["S2"], 0)])
    let more := Operation.pass [(["OK"], 0), ([], 0), ([], 0)]
    let texts : List Answer → List String := fun answers =>
      (answers.filterMap Answer.handed?).map Command.text
    p.2.store.get? "x" = some (.int 2) ∧
      texts (p.2.rewind.run d more).1 = ["AT", "ATZ", "ATS1"] ∧
      texts ((⟨[check, count], p.2.store, 0, false⟩ : Session).run d more).1 = ["AT", "ATS2"] := by
  decide +kernel

end ModemScript
