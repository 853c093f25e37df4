import Mathlib.Data.List.InsertIdx
import ModemScript.Proofs.QueueOrder

/-!
# Taking commands out of a session

A session knows its place by a number: the cursor counts the commands that have been judged. A
command that is taken out from behind the cursor's place is simply no longer pending, and nothing
else changes. But when one of those before it is taken out, the cursor stays, and from then on it
counts a command that nobody has judged: the first that is pending, or, if none is, the first that
will be added.

What is pending is said in the way in which it can be seen. A session answers like a fresh one into
which its pending commands were loaded (`AnswersAs`), because what is done is of no account to what
is asked later. That holds of every session whose cursor is within its list, and only taking out a
judged command brings it beyond.
-/

namespace ModemScript

/-! ## What is done is of no account -/

namespace Queue

variable {d : Dialect}

/-- The two queues go on in the same way: the same commands are pending, and the variables are the
same. -/
def Level (q q' : Queue) : Prop := q.pending = q'.pending ∧ q.store = q'.store

theorem Level.next {q q' : Queue} (h : Level q q') :
    q.next.1 = q'.next.1 ∧ Level q.next.2 q'.next.2 := by
  obtain ⟨hp, hs⟩ := h
  unfold Queue.next
  rw [← hp, ← hs]
  cases hc : q.pending with
  | nil => exact ⟨rfl, hp, hs⟩
  | cons c rest => exact ⟨rfl, rfl, rfl⟩

theorem Level.validate {q q' : Queue} (h : Level q q') (lines : List String) (elapsed : Int) :
    (q.validate d lines elapsed).1 = (q'.validate d lines elapsed).1 ∧
      Level (q.validate d lines elapsed).2 (q'.validate d lines elapsed).2 := by
  obtain ⟨hp, hs⟩ := h
  unfold Queue.validate
  rw [← hp, ← hs]
  cases hc : q.pending with
  | nil => exact ⟨rfl, hp, hs⟩
  | cons c rest => exact ⟨rfl, rfl, rfl⟩

theorem Level.add {q q' : Queue} (h : Level q q') (c : Command) : Level (q.add c) (q'.add c) :=
  ⟨congrArg (· ++ [c]) h.1, h.2⟩

theorem Level.perform {q q' : Queue} {o : Operation} (h : Level q q') (ho : o.isCalm = true) :
    (q.perform d o).1 = (q'.perform d o).1 ∧ Level (q.perform d o).2 (q'.perform d o).2 := by
  cases o with
  | add c => exact ⟨rfl, h.add c⟩
  | addNew r fallback =>
      simp only [Queue.perform]
      split
      · exact ⟨rfl, h⟩
      · exact ⟨rfl, h.add _⟩
  | next => exact h.next
  | validate lines elapsed => exact h.validate lines elapsed
  | set key value => exact ⟨rfl, h.1, congrArg (·.insert key value) h.2⟩
  | clear | reset | rewind => cases ho

theorem Level.run (os : List Operation) (ho : ∀ o ∈ os, o.isCalm = true) :
    ∀ {q q' : Queue}, Level q q' → (q.run d os).1 = (q'.run d os).1 := by
  induction os with
  | nil => exact fun _ => rfl
  | cons o os ih =>
      intro q q' h
      obtain ⟨hanswer, hlevel⟩ := h.perform (d := d) (ho o (List.mem_cons_self ..))
      exact List.cons_eq_cons.2
        ⟨hanswer, ih (fun o' ho' => ho o' (List.mem_cons_of_mem _ ho')) hlevel⟩

theorem cursor_le_session (q : Queue) : q.session.cursor ≤ q.session.commands.length := by
  show q.done.length ≤ (q.done ++ q.pending).length
  rw [List.length_append]
  exact Nat.le_add_right _ _

end Queue

/-! ## What is pending in a session -/

/-- What can be asked of a session when commands can be taken out of it. -/
inductive Demand where
  | perform (o : Operation)
  | remove (index : Nat)

namespace Session

variable (d : Dialect)

/-- The commands that have not been judged. -/
def upcoming (s : Session) : List Command := s.commands.drop s.cursor

/-- Whatever is asked, as long as the commands are neither started over nor dropped, the session
answers as a fresh one does that holds these commands. -/
def AnswersAs (s : Session) (commands : List Command) : Prop :=
  ∀ os : List Operation, (∀ o ∈ os, o.isCalm = true) →
    (s.run d os).1 = ((⟨commands, s.store, 0, s.failed⟩ : Session).run d os).1

/-- The session after one demand. -/
def meet (s : Session) : Demand → Session
  | .perform o => (s.perform d o).2
  | .remove index => (s.remove? index).getD s

/-- Whether no demand takes out a command that has been judged. -/
def spares : Session → List Demand → Bool
  | _, [] => true
  | s, .perform o :: demands => spares (s.meet d (.perform o)) demands
  | s, .remove index :: demands =>
    (s.cursor ≤ index || s.commands.length ≤ index) && spares (s.meet d (.remove index)) demands

variable {d} {s : Session} {index : Nat}

/-- A session whose cursor is within its list is a queue. -/
theorem eq_queue_session (h : s.cursor ≤ s.commands.length) :
    s = (⟨s.commands.take s.cursor, s.upcoming, s.store, s.failed⟩ : Queue).session := by
  rw [Queue.session, upcoming, List.take_append_drop, List.length_take, Nat.min_eq_left h]

theorem answersAs_upcoming (h : s.cursor ≤ s.commands.length) : s.AnswersAs d s.upcoming := by
  intro os ho
  let q : Queue := ⟨s.commands.take s.cursor, s.upcoming, s.store, s.failed⟩
  let fresh : Queue := ⟨[], s.upcoming, s.store, s.failed⟩
  have hq : s = q.session := eq_queue_session h
  have hfresh : (⟨s.upcoming, s.store, 0, s.failed⟩ : Session) = fresh.session := rfl
  have hlevel : Queue.Level q fresh := ⟨rfl, rfl⟩
  rw [hfresh, Queue.run_session, ← hlevel.run os ho]
  exact congrArg Prod.fst ((congrArg (·.run d os) hq).trans (Queue.run_session d os q))

theorem remove?_of_lt (h : index < s.commands.length) :
    s.remove? index = some { s with commands := s.commands.eraseIdx index } := if_pos h

theorem remove?_of_le (h : s.commands.length ≤ index) : s.remove? index = none :=
  if_neg (Nat.not_lt.2 h)

theorem cursor_le_eraseIdx (hi : index < s.commands.length) (hc : s.cursor < s.commands.length) :
    s.cursor ≤ (s.commands.eraseIdx index).length := by
  rw [List.length_eraseIdx_of_lt hi]
  omega

/-- The cursor is left within the list by everything but taking out a judged command. -/
theorem cursor_le_meet (h : s.cursor ≤ s.commands.length) (demand : Demand)
    (hspare : s.spares d [demand] = true) :
    (s.meet d demand).cursor ≤ (s.meet d demand).commands.length := by
  cases demand with
  | perform o =>
      show (s.perform d o).2.cursor ≤ (s.perform d o).2.commands.length
      rw [eq_queue_session h, Queue.perform_session]
      exact Queue.cursor_le_session _
  | remove index =>
      rw [meet]
      rcases Nat.lt_or_ge index s.commands.length with hlt | hge
      · have hle : s.cursor ≤ index := by
          simpa [spares, Nat.not_le.2 hlt] using hspare
        rw [remove?_of_lt hlt]
        exact cursor_le_eraseIdx hlt (Nat.lt_of_le_of_lt hle hlt)
      · rw [remove?_of_le hge]
        exact h

theorem cursor_le_foldl_meet (demands : List Demand) :
    ∀ {s : Session}, s.cursor ≤ s.commands.length → s.spares d demands = true →
      (demands.foldl (meet d) s).cursor ≤ (demands.foldl (meet d) s).commands.length := by
  induction demands with
  | nil => exact fun h _ => h
  | cons demand demands ih =>
      intro s h hspare
      have hboth : s.spares d [demand] = true ∧ (s.meet d demand).spares d demands = true := by
        cases demand with
        | perform o => exact ⟨rfl, hspare⟩
        | remove index =>
            rw [spares, Bool.and_eq_true] at hspare
            refine ⟨?_, hspare.2⟩
            rw [spares, hspare.1]
            rfl
      exact ih (cursor_le_meet h demand hboth.1) hboth.2

/-! ## What a removal comes to -/

theorem upcoming_eraseIdx_of_le (h : s.cursor ≤ index) :
    ({ s with commands := s.commands.eraseIdx index } : Session).upcoming =
      s.upcoming.eraseIdx (index - s.cursor) := by
  refine List.ext_getElem? fun j => ?_
  rw [upcoming, upcoming, List.getElem?_drop, List.getElem?_eraseIdx, List.getElem?_eraseIdx,
    List.getElem?_drop, List.getElem?_drop]
  show (if s.cursor + j < index then _ else _) = _
  by_cases hj : s.cursor + j < index
  · rw [if_pos hj, if_pos (by omega)]
  · rw [if_neg hj, if_neg (by omega), Nat.add_assoc]

/-- The cursor stays, and the command at it is now the one that came after it. -/
theorem upcoming_eraseIdx_of_lt (h : index < s.cursor) :
    ({ s with commands := s.commands.eraseIdx index } : Session).upcoming = s.upcoming.tail := by
  refine List.ext_getElem? fun j => ?_
  rw [upcoming, upcoming, List.tail_drop, List.getElem?_drop, List.getElem?_drop]
  show (s.commands.eraseIdx index)[s.cursor + j]? = s.commands[s.cursor + 1 + j]?
  rw [List.getElem?_eraseIdx_of_ge (by omega), Nat.add_right_comm]

theorem add_next?_eq_none (h : s.commands.length < s.cursor) (c : Command) :
    (s.add c).next? = none := by
  have hcurrent : (s.add c).current? = none := by
    refine List.getElem?_eq_none ?_
    show (s.commands ++ [c]).length ≤ s.cursor
    rw [List.length_append, List.length_singleton]
    exact h
  rw [next?, hcurrent]
  rfl

/-- However a session has come about, it answers as one that holds what is pending, unless a judged
command has been taken out of it. Taking out a command that has not been judged takes out that
command and no other, and what is added comes last. Taking out one that has been judged passes over
the first pending command as well and, if there is none, over the first that is added later. -/
theorem answersAs_of_remove? (d : Dialect) (commands : List Command) (demands : List Demand) :
    let s := demands.foldl (meet d) (ofCommands commands)
    ((ofCommands commands).spares d demands = true → s.AnswersAs d s.upcoming) ∧
      ∀ index, index < s.commands.length →
        let s' : Session := { s with commands := s.commands.eraseIdx index }
        s.remove? index = some s' ∧
        (s.cursor ≤ index → s'.AnswersAs d (s.upcoming.eraseIdx (index - s.cursor)) ∧
          s'.commands.take s'.cursor = s.commands.take s.cursor) ∧
        (index < s.cursor → s'.upcoming = s.upcoming.tail ∧
          (s.upcoming ≠ [] → s'.AnswersAs d s.upcoming.tail) ∧
          (s.upcoming = [] → ∀ c, (s'.add c).next? = none)) := by
  intro s
  refine ⟨fun hspare => answersAs_upcoming (cursor_le_foldl_meet demands (Nat.zero_le _) hspare),
    fun index hlt => ?_⟩
  intro s'
  refine ⟨remove?_of_lt hlt, fun hle => ⟨?_, ?_⟩, fun hgt => ⟨?_, fun hne => ?_, fun hnil c => ?_⟩⟩
  · have hcursor : s'.cursor ≤ s'.commands.length :=
      cursor_le_eraseIdx hlt (Nat.lt_of_le_of_lt hle hlt)
    rw [← upcoming_eraseIdx_of_le hle]
    exact answersAs_upcoming hcursor
  · exact List.take_eraseIdx_eq_take_of_le s.commands s.cursor index hle
  · exact upcoming_eraseIdx_of_lt hgt
  · have hpending : s.cursor < s.commands.length :=
      Nat.not_le.1 fun hdone => hne (List.drop_eq_nil_iff.2 hdone)
    have hcursor : s'.cursor ≤ s'.commands.length := cursor_le_eraseIdx hlt hpending
    rw [← upcoming_eraseIdx_of_lt hgt]
    exact answersAs_upcoming hcursor
  · have hdone : s.commands.length ≤ s.cursor := List.drop_eq_nil_iff.1 hnil
    refine add_next?_eq_none ?_ c
    show (s.commands.eraseIdx index).length < s.cursor
    rw [List.length_eraseIdx_of_lt hlt]
    omega

/-- A command fails, and of the three that are then pending the second is taken out. The session
goes on with the fallback and the last one, and then with a command that is added. -/
theorem answersAs_of_remove?_pending :
    let d : Dialect := .literal
    let commands : List Command :=
      [.ofRequest (.new "AT" (some "OK")) [.new "ATZ" none], .ofRequest (.new "ATI" none) [],
        .ofRequest (.new "ATH" none) []]
    let demands : List Demand := [.perform .next, .perform (.validate ["ERROR"] 0)]
    let s := demands.foldl (meet d) (ofCommands commands)
    let added : Command := .ofRequest (.new "ATS0" none) []
    let more : List Operation := [.add added, .next, .validate [] 0, .next, .validate [] 0, .next]
    ∃ s', 2 < s.commands.length ∧ s.remove? 2 = some s' ∧
      s.upcoming.map Command.text = ["ATZ", "ATI", "ATH"] ∧
      (s'.run d more).1 =
        ((⟨s.upcoming.eraseIdx 1, s'.store, 0, s'.failed⟩ : Session).run d more).1 := by
  intro d commands demands s added more
  have hlt : 2 < s.commands.length := by decide +kernel
  obtain ⟨hremove, hpending, -⟩ := (answersAs_of_remove? d commands demands).2 2 hlt
  exact ⟨_, hlt, hremove, by decide +kernel, (hpending (by decide +kernel)).1 more (by decide)⟩

/-- One command of three has been judged and is taken out: the next one is passed over. And when a
single command has been judged and is taken out, one that is added is never handed out. -/
theorem remove?_passes_over :
    let d : Dialect := .literal
    let demands : List Demand := [.perform .next, .perform (.validate [] 0)]
    let load : List String → Session := fun texts =>
      demands.foldl (meet d) (ofCommands (texts.map fun text => .ofRequest (.new text none) []))
    let texts : Option Session → Option (List String) :=
      Option.map fun s => s.upcoming.map Command.text
    let s := load ["AT", "ATI", "ATZ"]
    s.cursor = 1 ∧ texts (some s) = some ["ATI", "ATZ"] ∧ texts (s.remove? 0) = some ["ATZ"] ∧
      (((s.remove? 0).bind next?).map fun x => x.1.text) = some "ATZ" ∧
      (((load ["AT"]).remove? 0).map fun s =>
        ((s.add (.ofRequest (.new "ATI" none) [])).next?.map fun x => x.1.text)) = some none := by
  decide +kernel

end Session

end ModemScript
