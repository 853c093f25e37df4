import Mathlib.Data.List.Chain
import Mathlib.Order.Bounds.Basic
import ModemScript.Modem

/-!
# When bytes arrive, and which of them make up one reply

A device that is read whenever something is there can be described by a
timetable: chunks of bytes, none of them empty, with times that never decrease.
A queue in which a chunk that is not due holds back those behind it is such a
timetable once each time is replaced by the latest time so far (`arrivals`).

Which chunks a patient listener takes for one reply is a matter of the timetable
alone. `hear` computes it from left to right, with the moment at which the
listener will stop if nothing more arrives; `isGreatest_hear` says what it
computes: the longest beginning of the timetable that is complete before the
deadline and has no gap longer than the listener's patience.
-/

namespace ModemScript

abbrev Chunks := List (Nat × List UInt8)

namespace Chunks

def bytes (q : Chunks) : List UInt8 := (q.map Prod.snd).flatten

/-- The bytes that can be read at a time. -/
def released (t : Nat) (q : Chunks) : List UInt8 := (Modem.due t q).1

/-- The chunks with times that count from `start`. -/
def shift (start : Nat) (q : Chunks) : Chunks := q.map fun c => (start + c.1, c.2)

/-- The chunks that are not empty, with the times from `start` on at which they can be read:
none before those in front of it, and none before `latest`. -/
def arrivals (start latest : Nat) : Chunks → Chunks
  | [] => []
  | (time, bytes) :: q =>
    let offset := max latest (time - start)
    if bytes = [] then arrivals start offset q else (offset, bytes) :: arrivals start offset q

/-- From `t` on the times do not decrease, and no chunk is empty. -/
def IsTimetable : Nat → Chunks → Prop
  | _, [] => True
  | t, (time, bytes) :: q => t ≤ time ∧ bytes ≠ [] ∧ IsTimetable time q

theorem IsTimetable.mono {t t' : Nat} {q : Chunks} (h : IsTimetable t q) (ht : t' ≤ t) :
    IsTimetable t' q := by
  cases q with
  | nil => trivial
  | cons c q => exact ⟨Nat.le_trans ht h.1, h.2⟩

theorem isTimetable_arrivals (start latest : Nat) (q : Chunks) :
    IsTimetable latest (arrivals start latest q) := by
  induction q generalizing latest with
  | nil => trivial
  | cons c q ih =>
      obtain ⟨time, bytes⟩ := c
      simp only [arrivals]
      split
      · exact (ih _).mono (Nat.le_max_left ..)
      · next hb => exact ⟨Nat.le_max_left .., hb, ih _⟩

theorem IsTimetable.shift {t : Nat} {q : Chunks} (start : Nat) (h : IsTimetable t q) :
    IsTimetable (start + t) (q.shift start) := by
  induction q generalizing t with
  | nil => trivial
  | cons c q ih => exact ⟨Nat.add_le_add_left h.1 start, h.2.1, ih h.2.2⟩

theorem released_cons_of_le {t time : Nat} (h : time ≤ t) (bytes : List UInt8) (q : Chunks) :
    released t ((time, bytes) :: q) = bytes ++ released t q := by
  simp only [released, Modem.due, if_pos h]

theorem released_cons_of_lt {t time : Nat} (h : t < time) (bytes : List UInt8) (q : Chunks) :
    released t ((time, bytes) :: q) = [] := by
  simp only [released, Modem.due, if_neg (Nat.not_le.2 h)]

theorem IsTimetable.released_eq_nil {t t' : Nat} {q : Chunks} (h : IsTimetable t q)
    (ht : t' < t) : released t' q = [] := by
  cases q with
  | nil => rfl
  | cons c q => exact released_cons_of_lt (Nat.lt_of_lt_of_le ht h.1) ..

theorem IsTimetable.released_ne_nil {t t' time : Nat} {bytes : List UInt8} {q : Chunks}
    (h : IsTimetable t ((time, bytes) :: q)) (ht : time ≤ t') :
    released t' ((time, bytes) :: q) ≠ [] := by
  rw [released_cons_of_le ht]
  exact fun hn => h.2.1 (List.append_eq_nil_iff.1 hn).1

/-- A queue and its timetable release the same bytes from the moment of the start on. -/
theorem released_arrivals {start latest t : Nat} (ht : start + latest ≤ t) (q : Chunks) :
    released t ((arrivals start latest q).shift start) = released t q := by
  induction q generalizing latest with
  | nil => rfl
  | cons c q ih =>
      obtain ⟨time, bytes⟩ := c
      have hrest := (isTimetable_arrivals start (max latest (time - start)) q).shift start
      rcases Nat.lt_or_ge t time with hlt | hle
      · have hoffset : t < start + max latest (time - start) := by omega
        rw [released_cons_of_lt hlt, arrivals]
        split
        · exact hrest.released_eq_nil hoffset
        · exact released_cons_of_lt hoffset ..
      · have hoffset : start + max latest (time - start) ≤ t := by omega
        rw [released_cons_of_le hle, ← ih hoffset, arrivals]
        split
        · next hb => rw [hb, List.nil_append]
        · exact released_cons_of_le hoffset ..

/-- What can be read of a timetable at the moment when it begins is a number of whole chunks,
and the others come later. -/
theorem IsTimetable.exists_append {t : Nat} {q : Chunks} (h : IsTimetable t q) :
    ∃ now later, q = now ++ later ∧ (∀ c ∈ now, c.1 = t) ∧ (now ≠ [] → bytes now ≠ []) ∧
      IsTimetable (t + 1) later ∧
      ∀ t', t ≤ t' → released t' q = bytes now ++ released t' later := by
  induction q with
  | nil => exact ⟨[], [], rfl, by simp, fun hn => absurd rfl hn, trivial, fun _ _ => rfl⟩
  | cons c q ih =>
      obtain ⟨time, bs⟩ := c
      rcases Nat.eq_or_lt_of_le h.1 with rfl | hlt
      · obtain ⟨now, later, rfl, hnow, -, hlater, hr⟩ := ih h.2.2
        refine ⟨(t, bs) :: now, later, rfl, ?_, ?_, hlater, ?_⟩
        · intro c hc
          rcases List.mem_cons.1 hc with rfl | hc
          · rfl
          · exact hnow c hc
        · exact fun _ hn => h.2.1 (List.append_eq_nil_iff.1 hn).1
        · intro t' ht'
          show released t' ((t, bs) :: (now ++ later)) = (bs ++ bytes now) ++ released t' later
          rw [released_cons_of_le ht', hr t' ht', List.append_assoc]
      · exact ⟨[], (time, bs) :: q, rfl, by simp, fun hn => absurd rfl hn, ⟨hlt, h.2⟩,
          fun _ _ => rfl⟩

theorem IsTimetable.eq_cons_or {t : Nat} {q : Chunks} (h : IsTimetable t q) (t' : Nat) :
    (∃ time bytes rest, q = (time, bytes) :: rest ∧ time ≤ t') ∨ IsTimetable (t' + 1) q := by
  cases q with
  | nil => exact .inr trivial
  | cons c q =>
      rcases Nat.lt_or_ge t' c.1 with hlt | hle
      · exact .inr ⟨hlt, h.2⟩
      · exact .inl ⟨c.1, c.2, q, rfl, hle⟩

theorem bytes_append (q q' : Chunks) : bytes (q ++ q') = bytes q ++ bytes q' := by
  rw [bytes, List.map_append, List.flatten_append]
  rfl

theorem bytes_take_shift (start k : Nat) (q : Chunks) :
    bytes ((shift start q).take k) = bytes (q.take k) := by
  rw [bytes, bytes, shift, ← List.map_take, List.map_map]
  rfl

theorem drop_shift (start k : Nat) (q : Chunks) :
    (shift start q).drop k = shift start (q.drop k) := List.map_drop.symm

/-! ## One reply -/

/-- How many chunks are taken for one reply, and when listening stops. It stops at the
deadline or at `stop`, whichever is first, unless a chunk comes by then; after one,
it goes on for the time `patience`. -/
def hear (deadline patience stop : Nat) : Chunks → Nat × Nat
  | [] => (0, stop)
  | (time, _) :: q =>
    if time < deadline ∧ time ≤ stop then
      let (k, finish) := hear deadline patience (min deadline (time + patience)) q
      (k + 1, finish)
    else (0, stop)

/-- Times that are all before the deadline, none of them longer than `patience` after the one
before it. -/
def OneReply (deadline patience : Nat) (times : List Nat) : Prop :=
  (∀ t ∈ times, t < deadline) ∧ times.IsChain fun t t' => t' ≤ t + patience

def times (q : Chunks) (k : Nat) : List Nat := (q.take k).map Prod.fst

@[simp] theorem times_zero (q : Chunks) : q.times 0 = [] := rfl

@[simp] theorem times_cons (time k : Nat) (bytes : List UInt8) (q : Chunks) :
    times ((time, bytes) :: q) (k + 1) = time :: q.times k := rfl

variable {deadline patience stop : Nat}

theorem hear_cons_of_le {time : Nat} (h : time < deadline ∧ time ≤ stop) (bytes : List UInt8)
    (q : Chunks) :
    hear deadline patience stop ((time, bytes) :: q) =
      ((hear deadline patience (min deadline (time + patience)) q).1 + 1,
        (hear deadline patience (min deadline (time + patience)) q).2) := by
  rw [hear, if_pos h]

theorem hear_cons_of_lt {time : Nat} (h : ¬(time < deadline ∧ time ≤ stop))
    (bytes : List UInt8) (q : Chunks) :
    hear deadline patience stop ((time, bytes) :: q) = (0, stop) := by
  rw [hear, if_neg h]

/-- A timetable that begins when listening stops adds nothing. -/
theorem IsTimetable.hear_of_le {t : Nat} {q : Chunks} (h : IsTimetable t q)
    (ht : min deadline (stop + 1) ≤ t) (patience : Nat) :
    hear deadline patience stop q = (0, stop) := by
  cases q with
  | nil => rfl
  | cons c q =>
      have hle := h.1
      exact hear_cons_of_lt (by omega) ..

/-- A chunk that is in time makes it irrelevant how long one would have waited for it. -/
theorem hear_cons_of_due {time : Nat} (htime : time ≤ stop) (hstop : stop ≤ deadline)
    (patience : Nat) (bytes : List UInt8) (q : Chunks) :
    hear deadline patience stop ((time, bytes) :: q) =
      hear deadline patience deadline ((time, bytes) :: q) := by
  rcases Nat.lt_or_ge time deadline with hlt | hge
  · rw [hear_cons_of_le ⟨hlt, htime⟩, hear_cons_of_le ⟨hlt, Nat.le_of_lt hlt⟩]
  · obtain rfl : stop = deadline := by omega
    rfl

/-- Chunks that come at one moment are all taken or none of them is. -/
theorem hear_append {t : Nat} (ht : t < deadline) (later : Chunks) {now : Chunks} :
    ∀ {stop : Nat}, t ≤ stop → now ≠ [] → (∀ c ∈ now, c.1 = t) →
      hear deadline patience stop (now ++ later) =
        (now.length + (hear deadline patience (min deadline (t + patience)) later).1,
          (hear deadline patience (min deadline (t + patience)) later).2) := by
  induction now with
  | nil => intro _ _ hne; exact absurd rfl hne
  | cons c now ih =>
      intro stop hstop _ hnow
      obtain ⟨time, bytes⟩ := c
      obtain rfl : time = t := hnow _ (List.mem_cons_self ..)
      rw [List.cons_append, hear_cons_of_le ⟨ht, hstop⟩]
      rcases eq_or_ne now [] with rfl | hne
      · rw [List.nil_append, List.length_singleton, Nat.add_comm]
      · rw [ih (by omega) hne fun c hc => hnow c (List.mem_cons_of_mem _ hc), List.length_cons]
        refine Prod.ext ?_ rfl
        show now.length + _ + 1 = now.length + 1 + _
        omega

/-- Counting all times from another moment changes nothing but when listening stops. -/
theorem hear_shift (start deadline patience stop : Nat) (q : Chunks) :
    hear (start + deadline) patience (start + stop) (q.shift start) =
      ((hear deadline patience stop q).1, start + (hear deadline patience stop q).2) := by
  induction q generalizing stop with
  | nil => rfl
  | cons c q ih =>
      obtain ⟨time, bytes⟩ := c
      show hear (start + deadline) patience (start + stop)
        ((start + time, bytes) :: shift start q) = _
      by_cases h : time < deadline ∧ time ≤ stop
      · have hmin : min (start + deadline) (start + time + patience) =
            start + min deadline (time + patience) := by omega
        rw [hear_cons_of_le h, hear_cons_of_le (by omega), hmin, ih]
      · rw [hear_cons_of_lt h, hear_cons_of_lt (by omega)]

/-- Listening stops when the patience after the last chunk is over, but not after the
deadline. -/
theorem finish_hear (deadline patience stop : Nat) (q : Chunks) :
    (hear deadline patience stop q).2 =
      (q.times (hear deadline patience stop q).1).getLast?.elim stop
        fun t => min deadline (t + patience) := by
  induction q generalizing stop with
  | nil => rfl
  | cons c q ih =>
      obtain ⟨time, bytes⟩ := c
      by_cases h : time < deadline ∧ time ≤ stop
      · rw [hear_cons_of_le h, ih, times_cons, List.getLast?_cons]
        cases (times q (hear deadline patience (min deadline (time + patience)) q).1).getLast? <;>
          rfl
      · rw [hear_cons_of_lt h]
        rfl

/-- After a chunk at the time `last`, the most chunks are taken that are in time and follow it
without a gap. -/
theorem isGreatest_hear_after (deadline patience last : Nat) (q : Chunks) :
    IsGreatest {k | k ≤ q.length ∧ (∀ t ∈ q.times k, t < deadline) ∧
        (last :: q.times k).IsChain fun t t' => t' ≤ t + patience}
      (hear deadline patience (min deadline (last + patience)) q).1 := by
  induction q generalizing last with
  | nil => exact ⟨⟨Nat.le_refl _, by simp [hear], .singleton _⟩, fun k hk => hk.1⟩
  | cons c q ih =>
      obtain ⟨time, bytes⟩ := c
      by_cases h : time < deadline ∧ time ≤ min deadline (last + patience)
      · rw [hear_cons_of_le h]
        obtain ⟨⟨hlen, htimes, hchain⟩, hmax⟩ := ih time
        refine ⟨⟨Nat.succ_le_succ hlen, ?_, ?_⟩, ?_⟩
        · intro t ht
          rcases List.mem_cons.1 ht with rfl | ht
          · exact h.1
          · exact htimes t ht
        · exact .cons_cons (by omega) hchain
        · rintro (_ | k) ⟨hk, hbefore, hjoin⟩
          · exact Nat.zero_le _
          · refine Nat.succ_le_succ (hmax ⟨Nat.le_of_succ_le_succ hk, ?_, ?_⟩)
            · exact fun t ht => hbefore t (List.mem_cons_of_mem _ ht)
            · exact List.isChain_of_isChain_cons hjoin
      · rw [hear_cons_of_lt h]
        refine ⟨⟨Nat.zero_le _, by simp, .singleton _⟩, ?_⟩
        rintro (_ | k) ⟨-, hbefore, hjoin⟩
        · exact Nat.le_refl _
        · have hlt := hbefore time (List.mem_cons_self ..)
          have hle := hjoin.rel
          exact absurd ⟨hlt, by omega⟩ h

/-- Of a whole timetable the most chunks are taken that are one reply. -/
theorem isGreatest_hear (deadline patience : Nat) (q : Chunks) :
    IsGreatest {k | k ≤ q.length ∧ OneReply deadline patience (q.times k)}
      (hear deadline patience deadline q).1 := by
  cases q with
  | nil => exact ⟨⟨Nat.le_refl _, by simp [hear], .nil⟩, fun k hk => hk.1⟩
  | cons c q =>
      obtain ⟨time, bytes⟩ := c
      by_cases h : time < deadline
      · rw [hear_cons_of_le ⟨h, Nat.le_of_lt h⟩]
        obtain ⟨⟨hlen, htimes, hchain⟩, hmax⟩ := isGreatest_hear_after deadline patience time q
        refine ⟨⟨Nat.succ_le_succ hlen, ?_, hchain⟩, ?_⟩
        · intro t ht
          rcases List.mem_cons.1 ht with rfl | ht
          · exact h
          · exact htimes t ht
        · rintro (_ | k) ⟨hk, hbefore, hjoin⟩
          · exact Nat.zero_le _
          · refine Nat.succ_le_succ (hmax ⟨Nat.le_of_succ_le_succ hk, ?_, hjoin⟩)
            exact fun t ht => hbefore t (List.mem_cons_of_mem _ ht)
      · rw [hear_cons_of_lt fun hn => h hn.1]
        refine ⟨⟨Nat.zero_le _, by simp, .nil⟩, ?_⟩
        rintro (_ | k) ⟨-, hbefore, -⟩
        · exact Nat.le_refl _
        · exact absurd (hbefore time (List.mem_cons_self ..)) h

end Chunks

/-! ## Scripted modems -/

namespace Modem

open Chunks

/-- The bytes that are readable have been there from the beginning. -/
def State.unread (s : State) : Chunks := (0, s.buffer) :: s.queue

/-- Chunks that are due can be taken out of the queue at any time, whatever is put behind them. -/
theorem released_due_append {t t' : Nat} (ht : t ≤ t') (q more : Chunks) :
    (due t q).1 ++ released t' ((due t q).2 ++ more) = released t' (q ++ more) := by
  induction q with
  | nil => rfl
  | cons c q ih =>
      obtain ⟨time, bytes⟩ := c
      rcases Nat.lt_or_ge t time with hlt | hle
      · rw [due, if_neg (Nat.not_le.2 hlt)]
        rfl
      · rw [due, if_pos hle, List.cons_append, released_cons_of_le (Nat.le_trans hle ht), ← ih,
          List.append_assoc]

theorem released_due {t t' : Nat} (ht : t ≤ t') (q : Chunks) :
    (due t q).1 ++ released t' (due t q).2 = released t' q := by
  simpa using released_due_append ht q []

theorem released_unread (t : Nat) (s : State) :
    released t s.unread = s.buffer ++ released t s.queue := released_cons_of_le (Nat.zero_le t) ..

theorem released_unread_release {t t' : Nat} (ht : t ≤ t') (s : State) :
    released t' (s.release t).unread = released t' s.unread := by
  rw [released_unread, released_unread, ← released_due ht s.queue, ← List.append_assoc]
  rfl

end Modem

end ModemScript
