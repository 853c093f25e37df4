import ModemScript.Proofs.Arrivals
import ModemScript.Proofs.Hearing

/-!
# How long a station listens

A station listens in two nested loops with three ways to stop: there is nothing
until the deadline, there is nothing for the window after a read, or the
deadline comes while it waits for more. What they come to does not depend on the
order in which the loops look: of a device that keeps its bytes in one queue, a
station hears the chunks that `Chunks.hear` takes, and stops when it stops.

The proof follows a timetable and not the clock. At every moment the station has
heard all chunks up to a point and the rest is still in the device, so the
invariant is that from now on the device shows what is left of the timetable
(`Device.Shows`); between two chunks the loops only let time pass.
-/

namespace ModemScript

open Chunks

variable {σ : Type} {d : Device σ} {unread : σ → Chunks}

/-- A device that keeps the bytes it sends in one queue, `unread`. It tells how many can be
read, which changes nothing, and a read of all that can be read gives just that. -/
structure Device.Queues (d : Device σ) (unread : σ → Chunks) : Prop where
  available_eq : ∀ t s, (d.available t s).1 = (released t (unread s)).length
  released_available : ∀ t s t', t ≤ t' →
    released t' (unread (d.available t s).2) = released t' (unread s)
  read_eq : ∀ t s, (d.read (released t (unread s)).length t s).1.take
    (released t (unread s)).length = released t (unread s)
  released_read : ∀ t s t', t ≤ t' →
    released t' (unread (d.read (released t (unread s)).length t s).2) =
      (released t' (unread s)).drop (released t (unread s)).length

/-- A device that keeps the bytes it sends in one queue, `unread`. It tells how many can be read,
which changes nothing. -/
structure Device.Tells (d : Device σ) (unread : σ → Chunks) : Prop where
  available_eq : ∀ t s, (d.available t s).1 = (released t (unread s)).length
  released_available : ∀ t s t', t ≤ t' →
    released t' (unread (d.available t s).2) = released t' (unread s)

namespace Device

theorem Queues.tells (hq : d.Queues unread) : d.Tells unread :=
  ⟨hq.available_eq, hq.released_available⟩

/-- From `t` on the bytes that can be read in the state `s` are those of `q`. -/
def Shows (unread : σ → Chunks) (t : Nat) (s : σ) (q : Chunks) : Prop :=
  ∀ t', t ≤ t' → released t' (unread s) = released t' q

theorem Shows.mono {t t' : Nat} {s : σ} {q : Chunks} (h : Shows unread t s q) (ht : t ≤ t') :
    Shows unread t' s q := fun t'' ht'' => h t'' (Nat.le_trans ht ht'')

theorem await_eq (d : Device σ) (quiet t : Nat) (s : σ) :
    d.await quiet t s =
      if 0 < (d.available (t + 1) s).1 then (true, t + 1, (d.available (t + 1) s).2)
      else if quiet ≤ t + 1 then (false, t + 1, (d.available (t + 1) s).2)
      else d.await quiet (t + 1) (d.available (t + 1) s).2 := by
  rw [await]

namespace Tells

variable (hq : d.Tells unread)

include hq

theorem shows_available {t : Nat} {s : σ} {q : Chunks} (h : Shows unread t s q) :
    Shows unread t (d.available t s).2 q :=
  fun t' ht' => (hq.released_available t s t' ht').trans (h t' ht')

theorem waiting_eq {t : Nat} {s : σ} {q : Chunks} (h : Shows unread t s q) :
    (d.available t s).1 = (released t q).length := by
  rw [hq.available_eq, h t (Nat.le_refl t)]

/-- Waiting ends with the first chunk if it comes while there is patience. -/
theorem await_of_due {quiet : Nat} {time : Nat} {bytes : List UInt8} {q : Chunks} (n : Nat) :
    ∀ {t : Nat} {s : σ}, time - t = n → IsTimetable (t + 1) ((time, bytes) :: q) →
      Shows unread (t + 1) s ((time, bytes) :: q) → time ≤ max (t + 1) quiet →
      ∃ s', d.await quiet t s = (true, time, s') ∧ Shows unread time s' ((time, bytes) :: q) := by
  induction n with
  | zero =>
      intro t s hn hq' _ _
      exact absurd hq'.1 (by omega)
  | succ n ih =>
      intro t s hn htable hs hle
      have hafter := hq.shows_available hs
      rw [await_eq, hq.waiting_eq hs]
      rcases Nat.eq_or_lt_of_le htable.1 with rfl | hlt
      · have hpos := List.length_pos_iff.2 (htable.released_ne_nil (Nat.le_refl (t + 1)))
        exact ⟨_, if_pos hpos, hafter⟩
      · rw [released_cons_of_lt hlt, List.length_nil, if_neg (Nat.lt_irrefl 0),
          if_neg (by omega)]
        exact ih (by omega) ⟨hlt, htable.2⟩ (hafter.mono (Nat.le_succ _)) (by omega)

/-- Waiting ends in vain where nothing comes while there is patience. -/
theorem await_of_quiet {quiet : Nat} {q : Chunks} (n : Nat) :
    ∀ {t : Nat} {s : σ}, quiet - t = n → IsTimetable (max (t + 1) quiet + 1) q →
      Shows unread (t + 1) s q →
      ∃ s', d.await quiet t s = (false, max (t + 1) quiet, s') ∧
        Shows unread (max (t + 1) quiet) s' q := by
  induction n with
  | zero =>
      intro t s hn htable hs
      have hmax : max (t + 1) quiet = t + 1 := by omega
      rw [hmax] at htable ⊢
      rw [await_eq, hq.waiting_eq hs, htable.released_eq_nil (Nat.lt_succ_self _)]
      refine ⟨_, ?_, hq.shows_available hs⟩
      rw [List.length_nil, if_neg (Nat.lt_irrefl 0), if_pos (by omega)]
  | succ n ih =>
      intro t s hn htable hs
      have hafter := hq.shows_available hs
      rw [await_eq, hq.waiting_eq hs, htable.released_eq_nil (by omega), List.length_nil,
        if_neg (Nat.lt_irrefl 0)]
      rcases Nat.lt_or_ge (t + 1) quiet with hlt | hge
      · have hmax : max (t + 1) quiet = max (t + 1 + 1) quiet := by omega
        rw [if_neg (Nat.not_le.2 hlt)]
        rw [hmax] at htable ⊢
        exact ih (by omega) htable (hafter.mono (Nat.le_succ _))
      · have hmax : max (t + 1) quiet = t + 1 := by omega
        rw [if_pos hge, hmax]
        exact ⟨_, rfl, hafter⟩

end Tells

/-- Reading all that can be read leaves the chunks that come later. -/
theorem Queues.shows_read (hq : d.Queues unread) {t : Nat} {s : σ} {now later q : Chunks}
    (h : Shows unread t s q)
    (hsplit : ∀ t', t ≤ t' → released t' q = bytes now ++ released t' later)
    (hlater : IsTimetable (t + 1) later) :
    (d.read (bytes now).length t s).1.take (bytes now).length = bytes now ∧
      Shows unread t (d.read (bytes now).length t s).2 later := by
  have hnow : released t (unread s) = bytes now := by
    rw [h t (Nat.le_refl t), hsplit t (Nat.le_refl t),
      hlater.released_eq_nil (Nat.lt_succ_self t), List.append_nil]
  have hread := hq.read_eq t s
  have hrest := hq.released_read t s
  rw [hnow] at hread hrest
  refine ⟨hread, fun t' ht' => ?_⟩
  rw [hrest t' ht', h t' ht', hsplit t' ht', List.drop_left]

/-! ## Listening -/

variable {window deadline clock later : Nat} {s s' after : σ}

theorem listen_of_le (h : deadline ≤ clock) (d : Device σ) (window : Nat) (s : σ) :
    d.listen window deadline clock s = ⟨[], clock, s⟩ := by
  rw [listen, if_neg (Nat.not_lt.2 h)]

theorem listen_of_silence (hclock : clock < deadline)
    (h : d.available clock s = (0, after)) :
    d.listen window deadline clock s = d.listen window deadline (clock + 1) after := by
  rw [listen, if_pos hclock, h]
  exact if_pos rfl

theorem listen_of_more {waiting : Nat} (hclock : clock < deadline)
    (h : d.available clock s = (waiting, after)) (hpos : waiting ≠ 0)
    (hawait : d.await (min (clock + window) deadline) clock (d.read waiting clock after).2 =
      (true, later, s')) :
    d.listen window deadline clock s =
      { d.listen window deadline later s' with
        bytes := (d.read waiting clock after).1.take waiting ++
          (d.listen window deadline later s').bytes } := by
  rw [listen, if_pos hclock, h]
  simp only [if_neg hpos]
  split
  · next heq => rw [hawait] at heq; cases heq; rfl
  · next heq => rw [hawait] at heq; cases heq

theorem listen_of_quiet {waiting : Nat} (hclock : clock < deadline)
    (h : d.available clock s = (waiting, after)) (hpos : waiting ≠ 0)
    (hawait : d.await (min (clock + window) deadline) clock (d.read waiting clock after).2 =
      (false, later, s')) :
    d.listen window deadline clock s =
      ⟨(d.read waiting clock after).1.take waiting, later, s'⟩ := by
  rw [listen, if_pos hclock, h]
  simp only [if_neg hpos]
  split
  · next heq => rw [hawait] at heq; cases heq
  · next heq => rw [hawait] at heq; cases heq; rfl

/-- What a station hears until the deadline is what `hear` takes of the timetable that the
device shows, and the device goes on to show the rest. -/
theorem Queues.listen_eq_hear (hq : d.Queues unread) (window deadline n : Nat) :
    ∀ {clock : Nat} {s : σ} {q : Chunks}, deadline - clock = n → clock ≤ deadline →
      IsTimetable clock q → Shows unread clock s q →
      ∃ k finish s', hear deadline (max 1 window) deadline q = (k, finish) ∧
        d.listen window deadline clock s = ⟨bytes (q.take k), finish, s'⟩ ∧
        Shows unread finish s' (q.drop k) := by
  induction n using Nat.strongRecOn with
  | ind n ih =>
      intro clock s q hn hclock htable hs
      rcases Nat.eq_or_lt_of_le hclock with rfl | hlt
      · refine ⟨0, clock, s, ?_, listen_of_le (Nat.le_refl _) .., hs⟩
        exact htable.hear_of_le (Nat.min_le_left ..) _
      · obtain ⟨now, later, rfl, hnow, hbytes, hlater, hsplit⟩ := htable.exists_append
        have havail : d.available clock s =
            ((bytes now).length, (d.available clock s).2) := by
          refine Prod.ext ?_ rfl
          rw [hq.tells.waiting_eq hs, hsplit clock (Nat.le_refl _),
            hlater.released_eq_nil (Nat.lt_succ_self _), List.append_nil]
        have hafter := hq.tells.shows_available hs
        rcases eq_or_ne now [] with rfl | hne
        · -- Nothing is there yet: a millisecond passes.
          rw [listen_of_silence hlt havail]
          exact ih (deadline - (clock + 1)) (by omega) rfl hlt hlater
            (hafter.mono (Nat.le_succ _))
        · -- Something is there: it is read, and the window begins.
          obtain ⟨hread, hrest⟩ := hq.shows_read hafter hsplit hlater
          have hpos : (bytes now).length ≠ 0 := fun h => hbytes hne (List.length_eq_zero_iff.1 h)
          have hquiet : max (clock + 1) (min (clock + window) deadline) =
              min deadline (clock + max 1 window) := by omega
          rw [hear_append hlt later (Nat.le_of_lt hlt) hne hnow]
          rcases hlater.eq_cons_or (min deadline (clock + max 1 window)) with
            ⟨time, bs, rest, rfl, htime⟩ | hsilence
          · obtain ⟨s₁, hawait, hs₁⟩ :=
              hq.tells.await_of_due _ rfl hlater (hrest.mono (Nat.le_succ _)) (hquiet.symm ▸ htime)
            have hstart := hlater.1
            have hdue : IsTimetable time ((time, bs) :: rest) := ⟨Nat.le_refl _, hlater.2⟩
            obtain ⟨k, finish, s', hhear, hlisten, hs'⟩ :=
              ih (deadline - time) (by omega) rfl (by omega) hdue hs₁
            refine ⟨now.length + k, finish, s', ?_, ?_, ?_⟩
            · rw [hear_cons_of_due htime (Nat.min_le_left ..), hhear]
            · rw [listen_of_more hlt havail hpos hawait, hread, hlisten,
                List.take_length_add_append, bytes_append]
            · rwa [List.drop_length_add_append]
          · obtain ⟨s', hawait, hs'⟩ :=
              hq.tells.await_of_quiet _ rfl (hquiet.symm ▸ hsilence) (hrest.mono (Nat.le_succ _))
            rw [hquiet] at hawait hs'
            refine ⟨now.length, min deadline (clock + max 1 window), s', ?_, ?_, ?_⟩
            · rw [hsilence.hear_of_le (Nat.min_le_right ..), Nat.add_zero]
            · rw [listen_of_quiet hlt havail hpos hawait, hread, List.take_left]
            · rwa [List.drop_left]

end Device

/-! ## Scripted modems -/

namespace Modem

/-- A modem that does not chatter says how many bytes it has. -/
theorem tells_device {m : Modem} (hchatter : m.chatter = none) :
    m.device.Tells State.unread where
  available_eq t s := by
    show (m.chatter.elim (s.release t).buffer.length List.length) = _
    rw [hchatter, released_unread]
    rfl
  released_available t s t' ht := released_unread_release ht s

/-- A modem that gives what it has when it is read keeps its bytes in one queue. -/
theorem queues_device {m : Modem} (hlimit : m.readLimit = none) (hchatter : m.chatter = none) :
    m.device.Queues State.unread where
  available_eq := (tells_device hchatter).available_eq
  released_available := (tells_device hchatter).released_available
  read_eq t s := by
    have hall : (s.release t).buffer = released t s.unread := (released_unread t s).symm
    show (m.read _ t s).1.take _ = _
    simp only [read, hlimit, hchatter, hall, List.take_length]
    split
    · rw [List.take_left]
    · rw [List.take_length]
  released_read t s t' ht := by
    have hall : (s.release t).buffer = released t s.unread := (released_unread t s).symm
    show released t' (m.read _ t s).2.unread = _
    rw [← released_unread_release ht s, released_unread, released_unread t', hall, List.drop_left]
    simp only [read, hlimit, hchatter, hall, List.drop_length, List.nil_append]

end Modem

/-! ## An exchange -/

theorem Nanoseconds.ceilMilliseconds_le_iff {t n : Nat} :
    ceilMilliseconds t ≤ n ↔ t ≤ n * perMillisecond := by
  show (t + 10 ^ 6 - 1) / 10 ^ 6 ≤ n ↔ t ≤ n * 10 ^ 6
  omega

namespace Station

/-- The milliseconds for which a station waits for a reply. -/
def allowed (s : Station σ) (timeout : Option Nat) : Nat :=
  1000 * min (timeout.getD s.settings.timeout) longestWait

/-- The milliseconds of quiet after which a station takes a reply to be over. -/
def patience (s : Station σ) : Nat := max 1 s.settings.window.ceilMilliseconds

/-- The window is rounded up, and to a millisecond at least. -/
theorem isLeast_patience (s : Station σ) :
    IsLeast {n | 1 ≤ n ∧ s.settings.window ≤ n * Nanoseconds.perMillisecond} s.patience := by
  refine ⟨⟨Nat.le_max_left .., Nanoseconds.ceilMilliseconds_le_iff.1 (Nat.le_max_right ..)⟩, ?_⟩
  exact fun n hn => Nat.max_le.2 ⟨hn.1, Nanoseconds.ceilMilliseconds_le_iff.2 hn.2⟩

@[simp] theorem record_settings (s : Station σ) (e : Event) :
    (s.record e).settings = s.settings := rfl

@[simp] theorem record_clock (s : Station σ) (e : Event) : (s.record e).clock = s.clock := rfl

theorem exchange_of_written (s : Station σ) (text : String) (timeout : Option Nat)
    {state written heard : σ} {received : List UInt8} {finish : Nat}
    (hopen : s.channel = .simulated d state true)
    (hwrite : d.write (Utf8.encode (text ++ s.settings.terminator.text)) s.clock state =
      (.ok (), written))
    (hlisten : d.listen s.settings.window.ceilMilliseconds (s.clock + s.allowed timeout) s.clock
      written = ⟨received, finish, heard⟩) :
    s.exchange text timeout =
      .ok ⟨Reply.linesOf received, finish - s.clock⟩
        { s.record (.sent (text ++ s.settings.terminator.text)) with
          channel := .simulated d heard true, clock := finish } := by
  obtain ⟨settings, channel, clock, events⟩ := s
  obtain rfl : channel = .simulated d state true := hopen
  rw [allowed] at hlisten
  rw [exchange_simulated]
  simp only [hwrite, hlisten]
  rfl

/-- An exchange gives the longest beginning of what the device sends, from the writing on, that
is one reply. It lasts until the device has been quiet for long enough after it or until the
time is over, and what is not part of the reply is still unread. -/
theorem exchange_eq_one_reply (hq : d.Queues unread) (s : Station σ) (text : String)
    (timeout : Option Nat) {state written : σ} (hopen : s.channel = .simulated d state true)
    (hwrite : d.write (Utf8.encode (text ++ s.settings.terminator.text)) s.clock state =
      (.ok (), written)) :
    let chunks : Chunks := arrivals s.clock 0 (unread written)
    let allowed := s.allowed timeout
    ∃ k elapsed heard,
      IsGreatest {k | k ≤ chunks.length ∧ OneReply allowed s.patience (chunks.times k)} k ∧
      elapsed = (chunks.times k).getLast?.elim allowed (fun t => min allowed (t + s.patience)) ∧
      s.exchange text timeout =
        .ok ⟨Reply.linesOf (bytes (chunks.take k)), elapsed⟩
          { s.record (.sent (text ++ s.settings.terminator.text)) with
            channel := .simulated d heard true, clock := s.clock + elapsed } ∧
      Device.Shows unread (s.clock + elapsed) heard (shift s.clock (chunks.drop k)) := by
  intro chunks allowed
  have htable := (isTimetable_arrivals s.clock 0 (unread written)).shift s.clock
  have hshows : Device.Shows unread s.clock written (shift s.clock chunks) :=
    fun t ht => (released_arrivals ht _).symm
  obtain ⟨k, finish, heard, hhear, hlisten, hrest⟩ :=
    hq.listen_eq_hear s.settings.window.ceilMilliseconds (s.clock + allowed) _ rfl
      (Nat.le_add_right ..) htable hshows
  rw [hear_shift] at hhear
  obtain ⟨hk, hfinish⟩ := Prod.mk.inj hhear
  subst hk hfinish
  refine ⟨_, _, heard, isGreatest_hear .., finish_hear .., ?_, ?_⟩
  · rw [exchange_of_written s text timeout hopen hwrite hlisten, bytes_take_shift,
      Nat.add_sub_cancel_left]
    rfl
  · rwa [drop_shift] at hrest

/-- What was left unread counts as there at once, an empty chunk does not count, and bytes that
come at the very end of the time allowed are left for the next exchange. -/
theorem exchange_eq_one_reply_deadline :
    let late := [76, 65, 84, 69, 13, 10]
    let m : Modem := ⟨[[⟨0, []⟩, ⟨0, [79, 75, 13, 10]⟩, ⟨1000, late⟩]], [82, 73, 78, 71, 10],
      none, none, true, [], [], none, true⟩
    let s : Station Modem.State :=
      ⟨.new (some "v") (some 9600), .simulated m.device m.start true, 7, []⟩
    let elapsed := min 1000 (0 + s.patience)
    ∃ heard, s.exchange "ATI" (some 1) =
        .ok ⟨["RING", "OK"], elapsed⟩
          { s.record (.sent "ATI\r\n") with
            channel := .simulated m.device heard true, clock := 7 + elapsed } ∧
      Device.Shows Modem.State.unread (7 + elapsed) heard [(1007, late)] := by
  intro late m s elapsed
  let chunks : Chunks := [(0, [82, 73, 78, 71, 10]), (0, [79, 75, 13, 10]), (1000, late)]
  obtain ⟨k, _, heard, hk, rfl, hresult, hrest⟩ :=
    exchange_eq_one_reply (m.queues_device rfl rfl) s "ATI" (some 1) rfl rfl
  have htwo : k = 2 := by
    have htimes : OneReply 1000 s.patience (chunks.times 2) :=
      ⟨by decide, .cons_cons (Nat.zero_le _) (.singleton _)⟩
    have hlow : 2 ≤ k := hk.2 ⟨by decide, htimes⟩
    have hhigh : k ≤ 3 := hk.1.1
    rcases (by omega : k = 2 ∨ k = 3) with h | rfl
    · exact h
    · exact absurd (hk.1.2.1 1000 (by decide)) (by decide)
  subst htwo
  have hlines : Reply.linesOf (bytes (chunks.take 2)) = ["RING", "OK"] := by decide +kernel
  have hsent : "ATI" ++ s.settings.terminator.text = "ATI\r\n" := by decide +kernel
  have hlate : shift 7 (chunks.drop 2) = [(1007, late)] := by decide
  rw [← hlines, ← hsent, ← hlate]
  exact ⟨heard, hresult, hrest⟩

end Station

end ModemScript
