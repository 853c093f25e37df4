import ModemScript.Proofs.Listening

/-!
# A reply in pieces

A device need not give all that it has when it is read. One that gives a few bytes at a time
falls behind: the chunks that are due pile up while it is read, and from the outside only the
moments between two reads look like gaps. Still a station that is patient enough hears the whole
reply, however it was cut.

The argument is about what is left of the reply (`Chunks.remnant`). While a part of what was due
is left, it is there a millisecond later, which is within any patience; when nothing of it is
left, the next chunk is within the station's patience of the one before it. And there is time
enough, because a read takes a millisecond and at least one byte: a timetable whose last chunk
comes as many milliseconds before the deadline as there are bytes stays one (`Flows.remnant`).
-/

namespace ModemScript

namespace Chunks

/-- No chunk comes later than `patience` after the one before it, nor so late that its bytes and
all the others cannot be read one a millisecond before the deadline. -/
structure Flows (patience deadline : Nat) (q : Chunks) : Prop where
  joined : (q.map Prod.fst).IsChain fun t t' => t' ≤ t + patience
  inTime : ∀ c ∈ q, c.1 + (bytes q).length ≤ deadline

/-- What is left of a timetable at `t` if `rest` is left of the bytes that were due. -/
def remnant (t : Nat) (rest : List UInt8) (later : Chunks) : Chunks :=
  if rest = [] then later else (t, rest) :: later

theorem IsTimetable.length_bytes_pos {t : Nat} {c : Nat × List UInt8} {q : Chunks}
    (h : IsTimetable t (c :: q)) : 0 < (bytes (c :: q)).length :=
  List.length_pos_iff.2 fun hnil => h.2.1 (List.append_eq_nil_iff.1 hnil).1

section Remnant

variable {t : Nat} {rest : List UInt8} {now later : Chunks}

theorem bytes_remnant : bytes (remnant t rest later) = rest ++ bytes later := by
  rw [remnant]
  split
  · next h => rw [h, List.nil_append]
  · rfl

theorem released_remnant {t' : Nat} (ht : t ≤ t') :
    released t' (remnant t rest later) = rest ++ released t' later := by
  rw [remnant]
  split
  · next h => rw [h, List.nil_append]
  · exact released_cons_of_le ht ..

theorem IsTimetable.remnant (h : IsTimetable t later) : IsTimetable t (remnant t rest later) := by
  rw [Chunks.remnant]
  split
  · exact h
  · next hrest => exact ⟨Nat.le_refl t, hrest, h⟩

variable {patience deadline : Nat}

/-- Chunks that come at one moment are as good as one chunk. -/
theorem Flows.merge (h : Flows patience deadline (now ++ later)) (hne : now ≠ [])
    (hnow : ∀ c ∈ now, c.1 = t) : Flows patience deadline ((t, bytes now) :: later) := by
  have hbytes : bytes ((t, bytes now) :: later) = bytes (now ++ later) := (bytes_append ..).symm
  refine ⟨?_, fun c hc => ?_⟩
  · obtain ⟨before, c, rfl⟩ := (List.eq_nil_or_concat now).resolve_left hne
    exact h.joined.suffix ⟨before.map Prod.fst, by simp [hnow c (by simp)]⟩
  · rw [hbytes]
    rcases List.mem_cons.1 hc with rfl | hc
    · obtain ⟨c, hc⟩ := List.exists_mem_of_ne_nil now hne
      have hin := h.inTime c (List.mem_append_left _ hc)
      rwa [hnow c hc] at hin
    · exact h.inTime c (List.mem_append_right _ hc)

/-- What is left after a read comes in time again, and begins while there is patience. -/
theorem Flows.remnant {bs : List UInt8} (h : Flows patience deadline ((t, bs) :: later))
    (hpatience : 1 ≤ patience) (hrest : rest.length < bs.length) :
    Flows patience deadline (remnant (t + 1) rest later) ∧
      ∀ c ∈ (Chunks.remnant (t + 1) rest later).head?, c.1 ≤ t + patience := by
  have hread : (bytes (Chunks.remnant (t + 1) rest later)).length + 1 ≤
      (bytes ((t, bs) :: later)).length := by
    rw [bytes_remnant]
    show _ ≤ (bs ++ bytes later).length
    simp only [List.length_append]
    omega
  have hlate : ∀ c ∈ later, c.1 + (bytes (Chunks.remnant (t + 1) rest later)).length ≤ deadline :=
    fun c hc => Nat.le_trans (by omega) (h.inTime c (List.mem_cons_of_mem _ hc))
  have hearly := h.inTime (t, bs) (List.mem_cons_self ..)
  rcases eq_or_ne rest [] with hnil | hnil
  · rw [Chunks.remnant, if_pos hnil] at hlate ⊢
    refine ⟨⟨List.isChain_of_isChain_cons h.joined, hlate⟩, fun c hc => ?_⟩
    exact h.joined.rel_head? (by rw [List.head?_map, hc]; rfl)
  · rw [Chunks.remnant, if_neg hnil] at hlate hread ⊢
    refine ⟨⟨List.IsChain.imp_head (fun hle => ?_) h.joined, fun c hc => ?_⟩, ?_⟩
    · exact Nat.le_trans hle (Nat.add_le_add_right (Nat.le_succ t) patience)
    · rcases List.mem_cons.1 hc with rfl | hc
      · show t + 1 + _ ≤ deadline
        omega
      · exact hlate c hc
    · rintro c ⟨⟩
      exact Nat.add_le_add_left hpatience t

end Remnant

end Chunks

open Chunks

variable {σ : Type} {d : Device σ} {unread : σ → Chunks}

/-- A device that keeps the bytes it sends in one queue, `unread`. Read for all that can be read,
it gives some of it, a byte at least, and keeps the others. -/
structure Device.Drips (d : Device σ) (unread : σ → Chunks) : Prop extends d.Tells unread where
  read_eq : ∀ t s, released t (unread s) ≠ [] → ∃ n,
    0 < n ∧ n ≤ (released t (unread s)).length ∧
    (d.read (released t (unread s)).length t s).1.take (released t (unread s)).length =
      (released t (unread s)).take n ∧
    ∀ t', t ≤ t' → released t' (unread (d.read (released t (unread s)).length t s).2) =
      (released t' (unread s)).drop n

namespace Device

/-- What can be read is given up to some byte, and what is left is there a moment later. -/
theorem Drips.shows_read (hd : d.Drips unread) {t : Nat} {s : σ} {now later q : Chunks}
    (h : Shows unread t s q)
    (hsplit : ∀ t', t ≤ t' → released t' q = bytes now ++ released t' later)
    (hlater : IsTimetable (t + 1) later) (hne : bytes now ≠ []) :
    ∃ read rest, read ++ rest = bytes now ∧ rest.length < (bytes now).length ∧
      (d.read (bytes now).length t s).1.take (bytes now).length = read ∧
      Shows unread (t + 1) (d.read (bytes now).length t s).2 (remnant (t + 1) rest later) := by
  have hnow : released t (unread s) = bytes now := by
    rw [h t (Nat.le_refl t), hsplit t (Nat.le_refl t),
      hlater.released_eq_nil (Nat.lt_succ_self t), List.append_nil]
  obtain ⟨n, hpos, hle, hread, hrest⟩ := hd.read_eq t s (by rwa [hnow])
  rw [hnow] at hle hread hrest
  refine ⟨_, (bytes now).drop n, List.take_append_drop n _, ?_, hread, fun t' ht' => ?_⟩
  · rw [List.length_drop]
    omega
  · have ht : t ≤ t' := Nat.le_of_succ_le ht'
    rw [hrest t' ht, h t' ht, hsplit t' ht, List.drop_append_of_le_length hle,
      released_remnant ht']

/-- A station hears all bytes of a reply that is slow enough to be read and not too slow for its
patience. -/
theorem Drips.listen_eq (hd : d.Drips unread) (window deadline n : Nat) :
    ∀ {clock : Nat} {s : σ} {q : Chunks}, deadline - clock = n → IsTimetable clock q →
      Flows (max 1 window) deadline q → Shows unread clock s q →
      ∃ finish s', d.listen window deadline clock s = ⟨bytes q, finish, s'⟩ ∧
        Shows unread finish s' [] := by
  induction n using Nat.strongRecOn with
  | ind n ih =>
      intro clock s q hn htable hflows hs
      rcases Nat.lt_or_ge clock deadline with hlt | hge
      · obtain ⟨now, later, rfl, hnow, hbytes, hlater, hsplit⟩ := htable.exists_append
        have havail : d.available clock s =
            ((bytes now).length, (d.available clock s).2) := by
          refine Prod.ext ?_ rfl
          rw [hd.waiting_eq hs, hsplit clock (Nat.le_refl _),
            hlater.released_eq_nil (Nat.lt_succ_self _), List.append_nil]
        have hafter := hd.shows_available hs
        rcases eq_or_ne now [] with rfl | hne
        · -- Nothing is there yet: a millisecond passes.
          rw [listen_of_silence hlt havail]
          exact ih (deadline - (clock + 1)) (by omega) rfl hlater hflows
            (hafter.mono (Nat.le_succ _))
        · -- Something is there: a part of it is read, and the window begins.
          obtain ⟨read, rest, hcut, hless, hread, hrest⟩ :=
            hd.shows_read hafter hsplit hlater (hbytes hne)
          have hpos : (bytes now).length ≠ 0 := by omega
          obtain ⟨hleft, hhead⟩ :=
            (hflows.merge hne hnow).remnant (Nat.le_max_left 1 window) hless
          have hall : bytes (now ++ later) = read ++ bytes (remnant (clock + 1) rest later) := by
            rw [bytes_append, bytes_remnant, ← hcut, List.append_assoc]
          have htable' : IsTimetable (clock + 1) (remnant (clock + 1) rest later) :=
            hlater.remnant
          rw [hall]
          generalize remnant (clock + 1) rest later = q at hleft hhead hrest htable'
          cases q with
          | nil =>
              obtain ⟨s', hawait, hs'⟩ :
                  ∃ s', d.await (min (clock + window) deadline) clock _ = (false, _, s') ∧
                    Shows unread _ s' [] :=
                hd.await_of_quiet _ rfl True.intro hrest
              refine ⟨_, s', ?_, hs'⟩
              rw [listen_of_quiet hlt havail hpos hawait, hread]
              exact congrArg (Heard.mk · _ s') (List.append_nil read).symm
          | cons c q =>
              obtain ⟨time, bs⟩ := c
              have hdue : time ≤ clock + max 1 window := hhead (time, bs) rfl
              have hearly : time + _ ≤ deadline := hleft.inTime _ (List.mem_cons_self ..)
              have hstart := htable'.1
              have hsize := htable'.length_bytes_pos
              have htime : time ≤ max (clock + 1) (min (clock + window) deadline) := by omega
              obtain ⟨s₁, hawait, hs₁⟩ := hd.await_of_due _ rfl htable' hrest htime
              have hrestart : IsTimetable time ((time, bs) :: q) := ⟨Nat.le_refl _, htable'.2⟩
              obtain ⟨finish, s', hlisten, hs'⟩ :=
                ih (deadline - time) (by omega) rfl hrestart hleft hs₁
              refine ⟨finish, s', ?_, hs'⟩
              rw [listen_of_more hlt havail hpos hawait, hread, hlisten]
      · cases q with
        | nil => exact ⟨clock, s, listen_of_le hge .., hs⟩
        | cons c q =>
            have hearly := hflows.inTime c (List.mem_cons_self ..)
            have hstart := htable.1
            have hsize := htable.length_bytes_pos
            exact absurd hge (by omega)

end Device

/-! ## Scripted modems -/

namespace Modem

/-- A read takes a beginning of what has been released: no more than is wanted, and at least one
byte if there is one. -/
theorem exists_read_eq {m : Modem} {wanted : Nat} (hlimit : ∀ limit ∈ m.readLimit, 0 < limit)
    (hchatter : m.chatter = none) (hover : m.overreads = false) (hwanted : 0 < wanted)
    (t : Nat) (s : State) :
    ∃ given, 0 < given ∧ given ≤ wanted ∧
      m.read wanted t s =
        ((s.release t).buffer.take given,
          { s.release t with buffer := (s.release t).buffer.drop given }) := by
  cases hread : m.readLimit with
  | none =>
      refine ⟨wanted, hwanted, Nat.le_refl _, ?_⟩
      simp only [read, hread, hchatter, hover, Bool.false_eq_true, if_false]
  | some limit =>
      refine ⟨min limit wanted, Nat.lt_min.2 ⟨hlimit limit hread, hwanted⟩,
        Nat.min_le_right .., ?_⟩
      simp only [read, hread, hchatter, hover, Bool.false_eq_true, if_false]

/-- A modem that gives only so many bytes when it is read still gives all of them in the end. -/
theorem drips_device {m : Modem} (hlimit : ∀ limit ∈ m.readLimit, 0 < limit)
    (hchatter : m.chatter = none) (hover : m.overreads = false) :
    m.device.Drips State.unread where
  toTells := tells_device hchatter
  read_eq t s hne := by
    have hall : (s.release t).buffer = released t s.unread := (released_unread t s).symm
    have hlen := List.length_pos_iff.2 hne
    obtain ⟨given, hpos, hle, hread⟩ := exists_read_eq hlimit hchatter hover hlen t s
    show ∃ n, 0 < n ∧ n ≤ (released t s.unread).length ∧ (m.read _ t s).1.take _ = _ ∧
      ∀ t', t ≤ t' → released t' (m.read _ t s).2.unread = _
    rw [hread]
    refine ⟨given, hpos, hle, ?_, fun t' ht' => ?_⟩
    · rw [hall]
      exact List.take_of_length_le (List.length_take_le' _ _)
    · have hdrop : given ≤ (s.release t).buffer.length := by
        rw [hall]
        exact hle
      rw [← released_unread_release ht' s, released_unread, released_unread t']
      exact (List.drop_append_of_le_length hdrop).symm

end Modem

/-! ## An exchange -/

namespace Chunks

theorem bytes_arrivals (start latest : Nat) (q : Chunks) :
    bytes (arrivals start latest q) = bytes q := by
  induction q generalizing latest with
  | nil => rfl
  | cons c q ih =>
      obtain ⟨time, bs⟩ := c
      show _ = bs ++ bytes q
      rw [arrivals]
      split
      · next h => rw [ih, h, List.nil_append]
      · rw [← ih (max latest (time - start))]
        rfl

theorem bytes_shift (start : Nat) (q : Chunks) : bytes (shift start q) = bytes q := by
  rw [bytes, bytes, shift, List.map_map]
  rfl

theorem Flows.shift {patience deadline : Nat} {q : Chunks} (h : Flows patience deadline q)
    (start : Nat) : Flows patience (start + deadline) (q.shift start) := by
  refine ⟨?_, ?_⟩
  · rw [Chunks.shift, List.map_map, List.isChain_map]
    refine ((List.isChain_map _).1 h.joined).imp fun c c' hle => ?_
    show start + c'.1 ≤ start + c.1 + patience
    omega
  · intro c hc
    obtain ⟨c, hmem, rfl⟩ := List.mem_map.1 hc
    have hle := h.inTime c hmem
    rw [bytes_shift]
    show start + c.1 + _ ≤ _
    omega

end Chunks

namespace Station

/-- The line is open, its device takes `text`, and from then on all that it sends is `sent`, in
chunks of which none comes later after the one before it than the station is patient, nor
later than as many milliseconds before the time is over as there are bytes. -/
structure Receives (s : Station σ) (d : Device σ) (unread : σ → Chunks) (text : String)
    (timeout : Option Nat) (sent : List UInt8) : Prop where
  drips : d.Drips unread
  exists_written : ∃ state written, s.channel = .simulated d state true ∧
    d.write (Utf8.encode (text ++ s.settings.terminator.text)) s.clock state = (.ok (), written) ∧
    bytes (unread written) = sent ∧
    Flows s.patience (s.allowed timeout) (arrivals s.clock 0 (unread written))

/-- A reply that flows is received as a whole, and nothing of it is left for later. -/
theorem Receives.exists_exchange {s : Station σ} {text : String} {timeout : Option Nat}
    {sent : List UInt8} (h : s.Receives d unread text timeout sent) :
    ∃ elapsed after, s.exchange text timeout = .ok ⟨Reply.linesOf sent, elapsed⟩ after ∧
      ∃ heard, after.channel = .simulated d heard true ∧
        Device.Shows unread after.clock heard [] := by
  obtain ⟨state, written, hopen, hwrite, rfl, hflows⟩ := h.exists_written
  have htable := (isTimetable_arrivals s.clock 0 (unread written)).shift s.clock
  have hshows : Device.Shows unread s.clock written
      (shift s.clock (arrivals s.clock 0 (unread written))) :=
    fun t ht => (released_arrivals ht _).symm
  obtain ⟨finish, heard, hlisten, hrest⟩ :=
    h.drips.listen_eq s.settings.window.ceilMilliseconds (s.clock + s.allowed timeout) _ rfl
      htable (hflows.shift s.clock) hshows
  rw [bytes_shift, bytes_arrivals] at hlisten
  exact ⟨_, _, exchange_of_written s text timeout hopen hwrite hlisten, heard, rfl, hrest⟩

/-- How a reply is cut into pieces does not matter, nor how many bytes a read gives: the lines are
those of the whole. -/
theorem exchange_lines_eq {τ : Type} {d' : Device τ} {unread' : τ → Chunks} {s : Station σ}
    {s' : Station τ} {text text' : String} {timeout timeout' : Option Nat} {sent : List UInt8}
    (h : s.Receives d unread text timeout sent) (h' : s'.Receives d' unread' text' timeout' sent) :
    ∃ reply after reply' after', s.exchange text timeout = .ok reply after ∧
      s'.exchange text' timeout' = .ok reply' after' ∧
      reply.lines = Reply.linesOf sent ∧ reply'.lines = reply.lines := by
  obtain ⟨elapsed, after, hreply, -⟩ := h.exists_exchange
  obtain ⟨elapsed', after', hreply', -⟩ := h'.exists_exchange
  exact ⟨_, after, _, after', hreply, hreply', rfl, rfl⟩

/-- Two modems send an accented letter and an acknowledgement. One gives a byte at a time, and its
chunks are cut within the letter and within an ending; the other sends all of it at once. -/
theorem exchange_lines_eq_split_letter :
    let sent : List UInt8 := [195, 169, 13, 10, 79, 75, 13, 10]
    let slow : Modem := ⟨[[⟨3, [195]⟩, ⟨4, [169, 13]⟩, ⟨1, [10, 79, 75, 13, 10]⟩]], [], some 1,
      none, false, [], [], none, true⟩
    let fast : Modem := ⟨[[⟨500, sent⟩]], [], none, none, false, [], [], none, true⟩
    let s : Station Modem.State :=
      ⟨.new (some "v") (some 115200), .simulated slow.device slow.start true, 0, []⟩
    let s' : Station Modem.State :=
      ⟨.new (some "v") (some 9600), .simulated fast.device fast.start true, 70, []⟩
    ∃ reply after reply' after', s.exchange "ATI" (some 2) = .ok reply after ∧
      s'.exchange "AT" (some 1) = .ok reply' after' ∧
      reply.lines = ["é", "OK"] ∧ reply'.lines = reply.lines := by
  intro sent slow fast s s'
  have hslow : s.Receives slow.device Modem.State.unread "ATI" (some 2) sent := by
    refine ⟨slow.drips_device (by decide) rfl rfl, slow.start, _, rfl, rfl, rfl, ?_, by decide⟩
    have hpatience : 1 ≤ s.patience := Nat.le_max_left ..
    exact .cons_cons (Nat.add_le_add_left hpatience 3)
      (.cons_cons (Nat.le_add_right 4 _) (.singleton 4))
  have hfast : s'.Receives fast.device Modem.State.unread "AT" (some 1) sent := by
    refine ⟨fast.drips_device (by decide) rfl rfl, fast.start, _, rfl, rfl, rfl, ?_, by decide⟩
    exact .singleton 500
  have hlines : Reply.linesOf sent = ["é", "OK"] := by decide +kernel
  rw [← hlines]
  exact exchange_lines_eq hslow hfast

end Station

end ModemScript
