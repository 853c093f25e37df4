import ModemScript.Proofs.Queue

/-!
# Commands are walked in the order in which they are given

The queue machine says what each operation does to a session. Here is what
follows for a whole stretch of operations in which the commands are neither
started over nor dropped. Whatever is asked in between, in whatever order, the
commands judged in the stretch and those still pending are the commands that
were pending and the commands that were added, one after another: none is left
out, none comes twice, none comes before its turn. The only additions are
fallbacks, and each of them stands directly behind the command whose reply was
not as expected.

`Unfolds` states this without reference to operations, by recursion on the
number of commands that have been judged; an operation that judges nothing
changes only its base case, and one that judges a command adds one level.
-/

namespace ModemScript

/-- The list `walked` is what `loaded` comes to when its first `n` commands have been judged.
A judged command is the next loaded one with the text that was sent and a response;
if the response shows that the reply was not as expected, its fallback is loaded
before all others. What has not been judged is as it was loaded, except that the
first command may have been handed out and has the text it was handed out with. -/
def Unfolds (d : Dialect) : Nat → List Command → List Command → Prop
  | 0, [], walked => walked = []
  | 0, c :: loaded, walked => ∃ text, walked = c.withText text :: loaded
  | _ + 1, [], _ => False
  | n + 1, c :: loaded, walked => ∃ text response rest,
      walked = { c.withText text with response := some response } :: rest ∧
        Unfolds d n
          ((if Session.fails d c.request response.lines then c.fallback?.toList else [])
            ++ loaded) rest

theorem unfolds_refl (d : Dialect) (loaded : List Command) : Unfolds d 0 loaded loaded := by
  cases loaded with
  | nil => rfl
  | cons c loaded => exact ⟨c.text, rfl⟩

theorem Unfolds.append {d : Dialect} {n : Nat} {loaded walked : List Command}
    (h : Unfolds d n loaded walked) (c : Command) :
    Unfolds d n (loaded ++ [c]) (walked ++ [c]) := by
  induction n generalizing loaded walked with
  | zero =>
      cases loaded with
      | nil =>
          cases h
          exact unfolds_refl d [c]
      | cons x loaded =>
          obtain ⟨text, rfl⟩ := h
          exact ⟨text, rfl⟩
  | succ n ih =>
      cases loaded with
      | nil => exact h.elim
      | cons x loaded =>
          obtain ⟨text, response, rest, rfl, hrest⟩ := h
          have htail := ih hrest
          rw [List.append_assoc] at htail
          exact ⟨text, response, rest ++ [c], rfl, htail⟩

/-- Handing out the first pending command changes its text only. -/
theorem Unfolds.withText {d : Dialect} {loaded judged rest : List Command} {c : Command}
    (h : Unfolds d judged.length loaded (judged ++ c :: rest)) (text : String) :
    Unfolds d judged.length loaded (judged ++ c.withText text :: rest) := by
  induction judged generalizing loaded with
  | nil =>
      cases loaded with
      | nil => cases h
      | cons x loaded =>
          obtain ⟨_, h⟩ := h
          injection h with hc hrest
          subst hc hrest
          exact ⟨text, rfl⟩
  | cons j judged ih =>
      cases loaded with
      | nil => exact h.elim
      | cons x loaded =>
          obtain ⟨text', response, _, h, hrest⟩ := h
          injection h with hj htail
          subst hj htail
          exact ⟨text', response, _, rfl, ih hrest⟩

/-- Judging the first pending command puts its fallback behind it if the reply was not as
expected. -/
theorem Unfolds.judge {d : Dialect} {loaded judged rest : List Command} {c : Command}
    (h : Unfolds d judged.length loaded (judged ++ c :: rest)) (r : Response) :
    Unfolds d (judged.length + 1) loaded
      (judged ++ { c with response := some r } ::
        ((if Session.fails d c.request r.lines then c.fallback?.toList else []) ++ rest)) := by
  induction judged generalizing loaded with
  | nil =>
      cases loaded with
      | nil => cases h
      | cons x loaded =>
          obtain ⟨text, h⟩ := h
          injection h with hc hrest
          subst hc hrest
          exact ⟨text, r, _, rfl, unfolds_refl d _⟩
  | cons j judged ih =>
      cases loaded with
      | nil => exact h.elim
      | cons x loaded =>
          obtain ⟨text, response, _, h, hrest⟩ := h
          injection h with hj htail
          subst hj htail
          exact ⟨text, response, _, rfl, ih hrest⟩

namespace Operation

/-- Whether an operation neither starts the commands over nor drops them. -/
def isCalm : Operation → Bool
  | .clear | .reset | .rewind => false
  | _ => true

/-- The commands that an operation adds. -/
def given : Operation → List Command
  | .add c => [c]
  | .addNew r fallback => if r.text.isEmpty then [] else [.ofParts r fallback]
  | .next | .validate .. | .set .. | .clear | .reset | .rewind => []

end Operation

namespace Queue

/-- Since the commands `start` were done, the queue has been walking the commands `loaded`:
nothing that was done has changed, and what has been judged since then is, with what
is pending, what the loaded commands come to. -/
def Walks (d : Dialect) (start loaded : List Command) (q : Queue) : Prop :=
  ∃ judged, q.done = start ++ judged ∧ Unfolds d judged.length loaded (judged ++ q.pending)

theorem walks_self (d : Dialect) (q : Queue) : Walks d q.done q.pending q :=
  ⟨[], (List.append_nil _).symm, unfolds_refl d q.pending⟩

theorem Walks.add {d : Dialect} {start loaded : List Command} {q : Queue}
    (h : Walks d start loaded q) (c : Command) : Walks d start (loaded ++ [c]) (q.add c) := by
  obtain ⟨judged, hd, hu⟩ := h
  refine ⟨judged, hd, ?_⟩
  show Unfolds d judged.length (loaded ++ [c]) (judged ++ (q.pending ++ [c]))
  rw [← List.append_assoc]
  exact hu.append c

theorem Walks.next {d : Dialect} {start loaded : List Command} {q : Queue}
    (h : Walks d start loaded q) : Walks d start loaded q.next.2 := by
  obtain ⟨judged, hd, hu⟩ := h
  unfold Queue.next
  split
  · exact ⟨judged, hd, hu⟩
  · next c rest hp =>
      rw [hp] at hu
      exact ⟨judged, hd, hu.withText _⟩

theorem Walks.validate {d : Dialect} {start loaded : List Command} {q : Queue}
    (h : Walks d start loaded q) (lines : List String) (elapsed : Int) :
    Walks d start loaded (q.validate d lines elapsed).2 := by
  obtain ⟨judged, hd, hu⟩ := h
  unfold Queue.validate
  split
  · exact ⟨judged, hd, hu⟩
  · next c rest hp =>
      rw [hp] at hu
      let response := (c.request.judge d q.store lines elapsed).response
      have hj := hu.judge response
      rw [Request.lines_judge, ← Request.failed_judge d q.store c.request lines elapsed] at hj
      refine ⟨judged ++ [{ c with response := some response }], ?_, ?_⟩
      · show q.done ++ _ = _
        rw [hd]
        exact List.append_assoc ..
      · rw [List.length_append, List.length_singleton, List.append_assoc]
        exact hj

/-- One operation that is calm goes on with the walk. -/
theorem Walks.perform {d : Dialect} {start loaded : List Command} {q : Queue} {o : Operation}
    (h : Walks d start loaded q) (ho : o.isCalm = true) :
    Walks d start (loaded ++ o.given) (q.perform d o).2 := by
  cases o with
  | add c => exact h.add c
  | addNew r fallback =>
      simp only [Operation.given, Queue.perform]
      split
      · rw [List.append_nil]
        exact h
      · exact h.add _
  | next =>
      rw [Operation.given, List.append_nil]
      exact h.next
  | validate lines elapsed =>
      rw [Operation.given, List.append_nil]
      exact h.validate lines elapsed
  | set key value =>
      rw [Operation.given, List.append_nil]
      exact h
  | clear | reset | rewind => cases ho

theorem Walks.run {d : Dialect} {start loaded : List Command} {q : Queue} {os : List Operation}
    (h : Walks d start loaded q) (ho : ∀ o ∈ os, o.isCalm = true) :
    Walks d start (loaded ++ os.flatMap Operation.given) (q.run d os).2 := by
  induction os generalizing q loaded with
  | nil =>
      rw [List.flatMap_nil, List.append_nil]
      exact h
  | cons o os ih =>
      rw [List.flatMap_cons, ← List.append_assoc]
      exact ih (h.perform (ho o (List.mem_cons_self ..)))
        fun o' ho' => ho o' (List.mem_cons_of_mem _ ho')

end Queue

/-- A session is a queue, whatever is asked of it: it gives the answers of the queue machine
and is at every moment the session that the queue is, with the cursor between what is
done and what is pending. From any such moment on, as long as the commands are
neither started over nor dropped, it walks what is pending and what is added in
this order, with each fallback directly behind the command that failed. -/
theorem session_run_eq_queue_run (d : Dialect) (commands : List Command)
    (before after : List Operation) (hc : ∀ o ∈ after, o.isCalm = true) :
    let s := (Session.ofCommands commands).run d before
    let q := (Queue.ofCommands commands).run d before
    s.1 = q.1 ∧ s.2 = q.2.session ∧ s.2.commands = q.2.done ++ q.2.pending ∧
      s.2.cursor = q.2.done.length ∧ s.2.cursor ≤ s.2.commands.length ∧
      Queue.Walks d q.2.done (q.2.pending ++ after.flatMap Operation.given)
        (q.2.run d after).2 := by
  intro s q
  have hs : s = (q.1, q.2.session) := Queue.run_session d before (Queue.ofCommands commands)
  refine ⟨by rw [hs], by rw [hs], by rw [hs]; rfl, by rw [hs]; rfl, ?_, ?_⟩
  · rw [hs]
    show q.2.done.length ≤ (q.2.done ++ q.2.pending).length
    rw [List.length_append]
    exact Nat.le_add_right _ _
  · exact (Queue.walks_self d q.2).run hc

/-- A command with a fallback that has a fallback of its own fails, is started over, and
fails again: the second time both its fallback of this pass and that of the first
come before the next command. The fallback that has been handed out has got the value of the
variable, and the other one still refers to it. -/
theorem session_run_eq_queue_run_rewind :
    let d : Dialect := .literal
    let pin : Command := .ofRequest (.new "AT+CPIN?" (some "READY"))
      [.new "AT+CPIN=${pin}" (some "OK"), .new "AT+CPIN=2" none]
    let commands := [pin, .ofRequest (.new "AT+CSQ" none) []]
    let before := [Operation.next, .validate ["SIM PIN"] 5, .set "pin" (.int 1), .rewind, .next]
    let after := [Operation.validate ["SIM PIN"] 7, .next, .add pin, .validate [] 9]
    let q := (Queue.ofCommands commands).run d before
    (∀ o ∈ after, o.isCalm = true) ∧
      ((Session.ofCommands commands).run d before).2 = q.2.session ∧
      Queue.Walks d q.2.done (q.2.pending ++ [pin]) (q.2.run d after).2 ∧
      (q.2.run d after).2.done.map Command.text = ["AT+CPIN?", "AT+CPIN=1"] ∧
      (q.2.run d after).2.pending.map Command.text =
        ["AT+CPIN=2", "AT+CPIN=${pin}", "AT+CSQ", "AT+CPIN?"] := by
  intro d pin commands before after q
  have hc : ∀ o ∈ after, o.isCalm = true := by decide
  have h := session_run_eq_queue_run d commands before after hc
  exact ⟨hc, h.2.1, h.2.2.2.2.2, by decide +kernel, by decide +kernel⟩

end ModemScript
