import ModemScript.Proofs.Listening
import ModemScript.Proofs.Record
import ModemScript.Proofs.Turns

/-!
# Every byte is heard once

A station reads when it likes: an exchange may end while bytes are waiting, a device may give less
than it has when it is read, and bytes may come between two exchanges, or while the line is closed.
None of this loses a byte. The device keeps what it sends in one queue, a station never reads
without keeping what it is given, and nothing else takes bytes out of the queue.

So the proof has to say of each action only what it takes from the queue (`Chunks.Yields`): most
actions take nothing, a read takes what it gives, and what a device is told may put something
behind. Queues are compared with anything put behind them, since a chunk that is not yet due holds
back what comes later. Then the actions can be put one after the other, those of an exchange and
the uses of a station as well.
-/

namespace ModemScript

/-! ## What is taken from a queue -/

namespace Chunks

/-- From `t` on the queue `q` gives `bs` and then what `q'` gives, whatever is put behind. -/
def Yields (t : Nat) (q : Chunks) (bs : List UInt8) (q' : Chunks) : Prop :=
  ∀ (more : Chunks) (t' : Nat), t ≤ t' → released t' (q ++ more) = bs ++ released t' (q' ++ more)

namespace Yields

variable {t t' : Nat} {q q' q'' : Chunks} {bs bs' : List UInt8}

theorem refl (t : Nat) (q : Chunks) : Yields t q [] q := fun _ _ _ => rfl

theorem trans (h : Yields t q bs q') (h' : Yields t' q' bs' q'') (ht : t ≤ t') :
    Yields t' q (bs ++ bs') q'' := by
  intro more u hu
  rw [h more u (Nat.le_trans ht hu), h' more u hu, List.append_assoc]

theorem append (h : Yields t q bs q') (more : Chunks) : Yields t (q ++ more) bs (q' ++ more) := by
  intro more' u hu
  rw [List.append_assoc, List.append_assoc]
  exact h (more ++ more') u hu

theorem released_eq (h : Yields t q bs q') : released t q = bs ++ released t q' := by
  simpa using h [] t (Nat.le_refl t)

end Yields

end Chunks

open Chunks

/-- What a device is told that may make it send something. -/
inductive Told where
  | opened (settings : Settings)
  | closed
  | sent (bytes : List UInt8)

variable {σ : Type} {d : Device σ} {unread : σ → Chunks} {answer : Told → Nat → σ → Chunks}

/-- A device that keeps what it sends in one queue, `unread`. It puts chunks behind when it is
told something. A read takes bytes from the front, no more than are asked for, and gives them;
nothing else takes any. -/
structure Device.Pours (d : Device σ) (unread : σ → Chunks) (answer : Told → Nat → σ → Chunks) :
    Prop where
  opened : ∀ settings t s,
    Yields t (unread s ++ answer (.opened settings) t s) []
      (unread (d.answerOpening settings t s).2)
  closed : ∀ t s, Yields t (unread s ++ answer .closed t s) [] (unread (d.afterClosing t s))
  write : ∀ bytes t s,
    Yields t (unread s ++ answer (.sent bytes) t s) [] (unread (d.write bytes t s).2)
  available : ∀ t s, Yields t (unread s) [] (unread (d.available t s).2)
  read : ∀ wanted t s,
    Yields t (unread s) (d.read wanted t s).1 (unread (d.read wanted t s).2)
  length_read_le : ∀ wanted t s, (d.read wanted t s).1.length ≤ wanted

/-! ## Listening -/

namespace Device

theorem clock_le_listen (d : Device σ) (window deadline clock : Nat) (s : σ) :
    clock ≤ (d.listen window deadline clock s).clock := by
  fun_induction d.listen window deadline clock s with
  | case1 clock s hclock after h ih => omega
  | case2 clock s hclock waiting after h hpos read after' hread bytes later state' hawait heard ih =>
      have hlater := lt_clock_of_await hawait
      exact Nat.le_trans (Nat.le_of_lt hlater) ih
  | case3 clock s hclock waiting after h hpos read after' hread bytes later state' hawait =>
      exact Nat.le_of_lt (lt_clock_of_await hawait)
  | case4 clock s hclock => exact Nat.le_refl clock

namespace Pours

variable (hp : d.Pours unread answer)

include hp

theorem yields_of_available {t waiting : Nat} {s after : σ}
    (h : d.available t s = (waiting, after)) : Yields t (unread s) [] (unread after) := by
  have hlook := hp.available t s
  rwa [h] at hlook

/-- A read gives no more than is asked for, so nothing of it is dropped. -/
theorem yields_of_read {waiting t : Nat} {s after : σ} {read : List UInt8}
    (h : d.read waiting t s = (read, after)) :
    Yields t (unread s) (read.take waiting) (unread after) := by
  have hyields := hp.read waiting t s
  have hlength := hp.length_read_le waiting t s
  rw [h] at hyields hlength
  rwa [List.take_of_length_le hlength]

/-- Waiting takes nothing, however often it looks. -/
theorem await (quiet clock : Nat) (s : σ) :
    Yields (d.await quiet clock s).2.1 (unread s) [] (unread (d.await quiet clock s).2.2) := by
  fun_induction d.await quiet clock s with
  | case1 clock s now waiting after h hmore => exact hp.yields_of_available h
  | case2 clock s now waiting after h hmore hquiet => exact hp.yields_of_available h
  | case3 clock s now waiting after h hmore hquiet ih =>
      exact (hp.yields_of_available h).trans ih (Nat.le_of_lt (lt_clock_await d quiet now after))

theorem yields_of_await {quiet clock later : Nat} {s after : σ} {more : Bool}
    (h : d.await quiet clock s = (more, later, after)) :
    Yields later (unread s) [] (unread after) := by
  have hwait := hp.await quiet clock s
  rwa [h] at hwait

/-- A device is asked what it has, that is read, and then it is waited for more. -/
theorem yields_of_read_await {waiting quiet clock later : Nat} {s after after' state' : σ}
    {read : List UInt8} {more : Bool} (h : d.available clock s = (waiting, after))
    (hread : d.read waiting clock after = (read, after'))
    (hawait : d.await quiet clock after' = (more, later, state')) :
    Yields later (unread s) (read.take waiting) (unread state') := by
  have hfirst := (hp.yields_of_available h).trans (hp.yields_of_read hread) (Nat.le_refl clock)
  have hlater := lt_clock_of_await hawait
  have hpause := hfirst.trans (hp.yields_of_await hawait) (Nat.le_of_lt hlater)
  rwa [List.append_nil] at hpause

/-- What is heard is what is taken. -/
theorem listen (window deadline clock : Nat) (s : σ) :
    Yields (d.listen window deadline clock s).clock (unread s)
      (d.listen window deadline clock s).bytes
      (unread (d.listen window deadline clock s).state) := by
  fun_induction d.listen window deadline clock s with
  | case1 clock s hclock after h ih =>
      have hle := d.clock_le_listen window deadline (clock + 1) after
      exact (hp.yields_of_available h).trans ih (by omega)
  | case2 clock s hclock waiting after h hpos read after' hread bytes later state' hawait heard ih =>
      exact (hp.yields_of_read_await h hread hawait).trans ih
        (d.clock_le_listen window deadline later state')
  | case3 clock s hclock waiting after h hpos read after' hread bytes later state' hawait =>
      exact hp.yields_of_read_await h hread hawait
  | case4 clock s hclock => exact .refl clock (unread s)

end Pours

end Device

/-! ## Scripted modems -/

namespace Modem

/-- What a modem puts in its queue: the reply to the text, unless it refuses it. -/
def replyTo (m : Modem) : Told → Nat → State → Chunks
  | .sent _, clock, s =>
    match m.writeErrors[s.writes]?.join with
    | some _ => []
    | none => (m.replies[s.writes]?.getD []).map fun c => (clock + c.offset, c.bytes)
  | _, _, _ => []

theorem yields_release (t : Nat) (s : State) : Yields t s.unread [] (s.release t).unread := by
  intro more t' ht
  show released t' ((0, s.buffer) :: (s.queue ++ more)) = released t'
    ((0, s.buffer ++ (due t s.queue).1) :: ((due t s.queue).2 ++ more))
  rw [released_cons_of_le (Nat.zero_le t'), released_cons_of_le (Nat.zero_le t'),
    List.append_assoc, released_due_append ht]

theorem yields_take (t n : Nat) (s : State) :
    Yields t s.unread (s.buffer.take n) { s with buffer := s.buffer.drop n }.unread := by
  intro more t' _
  show released t' ((0, s.buffer) :: (s.queue ++ more)) = s.buffer.take n ++
    released t' ((0, s.buffer.drop n) :: (s.queue ++ more))
  rw [released_cons_of_le (Nat.zero_le t'), released_cons_of_le (Nat.zero_le t'),
    ← List.append_assoc, List.take_append_drop]

/-- A modem pours what it is scripted to reply, however little it gives when it is read. -/
theorem pours_device {m : Modem} (hchatter : m.chatter = none) (hover : m.overreads = false) :
    m.device.Pours State.unread m.replyTo := by
  have hread : ∀ wanted t s, ∃ n, n ≤ wanted ∧ m.read wanted t s =
      ((s.release t).buffer.take n,
        { s.release t with buffer := (s.release t).buffer.drop n }) := by
    intro wanted t s
    simp only [read, hchatter, hover, Bool.false_eq_true, if_false]
    refine ⟨_, ?_, rfl⟩
    split
    · exact Nat.le_refl wanted
    · exact Nat.min_le_right ..
  refine ⟨?_, ?_, ?_, fun t s => yields_release t s, ?_, ?_⟩
  · intro settings t s
    show Yields t (s.unread ++ []) [] (m.device.answerOpening settings t s).2.unread
    unfold Device.answerOpening device
    rw [List.append_nil]
    cases m.hasHooks <;> exact .refl t _
  · intro t s
    show Yields t (s.unread ++ []) [] (m.device.afterClosing t s).unread
    unfold Device.afterClosing device
    rw [List.append_nil]
    cases m.hasHooks <;> exact .refl t _
  · intro bytes t s
    show Yields t (s.unread ++ m.replyTo (.sent bytes) t s) [] (m.write bytes t s).2.unread
    simp only [replyTo, write]
    cases m.writeErrors[s.writes]?.join with
    | none => exact .refl t _
    | some message =>
        rw [List.append_nil]
        exact .refl t _
  · intro wanted t s
    obtain ⟨n, -, heq⟩ := hread wanted t s
    show Yields t s.unread (m.read wanted t s).1 (m.read wanted t s).2.unread
    rw [heq]
    exact (yields_release t s).trans (yields_take t n _) (Nat.le_refl t)
  · intro wanted t s
    obtain ⟨n, hn, heq⟩ := hread wanted t s
    show (m.read wanted t s).1.length ≤ wanted
    rw [heq]
    exact Nat.le_trans (List.length_take_le ..) hn

end Modem

/-! ## Uses of a station -/

namespace Station

/-- What a station is used for. -/
inductive Use where
  | openLine
  | closeLine
  | exchange (text : String) (timeout : Option Nat)
  | wait (milliseconds : Nat)
  | configure (f : Settings → Settings)

/-- The station after a use, whether or not it fails. -/
def use (serialError : String → SerialError) (s : Station σ) : Use → Station σ
  | .openLine => leftBy (openLine serialError s)
  | .closeLine => leftBy (closeLine s)
  | .exchange text timeout => leftBy (exchange text timeout s)
  | .wait milliseconds => s.sleep milliseconds
  | .configure f => s.configure f

/-- What the device is told by a use, if anything. -/
def told? (s : Station σ) : Use → Option Told
  | .openLine => s.target?.map fun _ => .opened s.settings
  | .closeLine => if s.isOpen then some .closed else none
  | .exchange text _ =>
    if s.isOpen then some (.sent (Utf8.encode (text ++ s.settings.terminator.text))) else none
  | .wait _ => none
  | .configure _ => none

/-- What the device puts in its queue when the station is used. -/
def queued (answer : Told → Nat → σ → Chunks) (s : Station σ) (u : Use) : Chunks :=
  match s.channel with
  | .serial _ => []
  | .simulated _ state _ => (s.told? u).elim [] fun x => answer x s.clock state

/-- The bytes that are received for a text. -/
def received (s : Station σ) (text : String) (timeout : Option Nat) : List UInt8 :=
  match s.channel.wire? with
  | none => []
  | some (wire, state) =>
    match wire.exchange (Utf8.encode (text ++ s.settings.terminator.text)) (s.allowed timeout)
        s.settings.window.ceilMilliseconds ⟨s.clock, state⟩ with
    | .ok (bytes, _) _ => bytes
    | .error _ _ => []

/-- The lines that an exchange has returned, and the bytes that it has received. -/
structure Report where
  lines : List String
  bytes : List UInt8

/-- An exchange that fails returns nothing. -/
def report (s : Station σ) : Use → List Report
  | .exchange text timeout =>
    match exchange text timeout s with
    | .ok reply _ => [⟨reply.lines, s.received text timeout⟩]
    | .error _ _ => []
  | _ => []

def Report.allBytes (rs : List Report) : List UInt8 := (rs.map Report.bytes).flatten

theorem Report.allBytes_singleton (r : Report) : allBytes [r] = r.bytes := List.append_nil _

theorem Report.allBytes_append (rs rs' : List Report) :
    allBytes (rs ++ rs') = allBytes rs ++ allBytes rs' := by
  rw [allBytes, List.map_append, List.flatten_append]
  rfl

/-- What becomes of a station that is used: the reports, what its device has put in its queue
meanwhile, and the station that is left. -/
structure Traffic (σ : Type) where
  reports : List Report
  queued : Chunks
  station : Station σ

/-- Uses one after the other. -/
def traffic (serialError : String → SerialError) (answer : Told → Nat → σ → Chunks) :
    List Use → Station σ → Traffic σ
  | [], s => ⟨[], [], s⟩
  | u :: us, s =>
    let x := traffic serialError answer us (s.use serialError u)
    ⟨s.report u ++ x.reports, s.queued answer u ++ x.queued, x.station⟩

variable {state : σ} {isOpen : Bool} {s : Station σ}

/-- A station has a line to the device, and since the clock was `t` and the device's queue was `q`
the bytes `bs` have been taken from it. -/
def Took (d : Device σ) (unread : σ → Chunks) (t : Nat) (q : Chunks) (bs : List UInt8)
    (s : Station σ) : Prop :=
  t ≤ s.clock ∧ ∃ state isOpen, s.channel = .simulated d state isOpen ∧
    Yields s.clock q bs (unread state)

theorem took_refl (unread : σ → Chunks) (hs : s.channel = .simulated d state isOpen) {t : Nat}
    (ht : t ≤ s.clock) : Took d unread t (unread state) [] s :=
  ⟨ht, state, isOpen, hs, .refl _ _⟩

theorem took_openLine (hp : d.Pours unread answer) (serialError : String → SerialError)
    (hs : s.channel = .simulated d state isOpen) :
    Took d unread s.clock (unread state ++ s.queued answer .openLine) []
      (leftBy (openLine serialError s)) := by
  obtain ⟨settings, channel, clock, events⟩ := s
  obtain rfl : channel = .simulated d state isOpen := hs
  rcases target?_cases settings with hnone | ⟨device, baudRate, hdevice, hrate⟩
  · simp only [openLine, queued, told?, hnone, Option.map_none, Option.elim_none, List.append_nil]
    exact took_refl (s := ⟨settings, _, clock, events⟩) unread rfl (Nat.le_refl _)
  · obtain ⟨told, heq⟩ := exists_openLine_eq d hdevice hrate serialError state isOpen clock events
    have hqueued : (⟨settings, .simulated d state isOpen, clock, events⟩ : Station σ).queued
        answer .openLine = answer (.opened settings) clock state := by
      simp only [queued, told?, target?, hdevice, hrate]
      rfl
    have hyields := hp.opened settings clock state
    rw [hqueued, heq]
    generalize d.answerOpening settings clock state = answered at hyields ⊢
    obtain ⟨_ | _, after⟩ := answered
    · exact ⟨Nat.le_refl _, after, isOpen, rfl, hyields⟩
    · exact ⟨Nat.le_refl _, after, true, rfl, hyields⟩

theorem took_closeLine (hp : d.Pours unread answer)
    (hs : s.channel = .simulated d state isOpen) :
    Took d unread s.clock (unread state ++ s.queued answer .closeLine) []
      (leftBy (closeLine s)) := by
  obtain ⟨settings, channel, clock, events⟩ := s
  obtain rfl : channel = .simulated d state isOpen := hs
  cases isOpen with
  | false =>
      show Took d unread clock (unread state ++ []) [] _
      rw [List.append_nil]
      exact took_refl (s := ⟨settings, _, clock, events⟩) unread rfl (Nat.le_refl _)
  | true =>
      obtain ⟨told, heq⟩ := exists_closeLine_eq d settings state clock events
      rw [heq]
      exact ⟨Nat.le_refl _, _, false, rfl, hp.closed clock state⟩

/-- What an exchange receives when the device takes the text. -/
theorem received_eq_listen {d : Device σ} {state after : σ} {text : String}
    (hs : s.channel = .simulated d state true)
    (hw : d.write (Utf8.encode (text ++ s.settings.terminator.text)) s.clock state =
      (.ok (), after)) (timeout : Option Nat) :
    s.received text timeout =
      (d.listen s.settings.window.ceilMilliseconds (s.clock + s.allowed timeout) s.clock
        after).bytes := by
  simp only [received, hs, Channel.wire?, Device.wire_exchange, hw]

/-- An exchange takes what it reports, and one that fails takes nothing. -/
theorem took_exchange (hp : d.Pours unread answer) (text : String) (timeout : Option Nat)
    (hs : s.channel = .simulated d state isOpen) :
    Took d unread s.clock (unread state ++ s.queued answer (.exchange text timeout))
      (Report.allBytes (s.report (.exchange text timeout))) (leftBy (exchange text timeout s)) := by
  obtain ⟨settings, channel, clock, events⟩ := s
  obtain rfl : channel = .simulated d state isOpen := hs
  cases isOpen with
  | false =>
      show Took d unread clock (unread state ++ []) [] _
      rw [List.append_nil]
      exact took_refl (s := ⟨settings, _, clock, events⟩) unread rfl (Nat.le_refl _)
  | true =>
      have heq := exchange_simulated d text timeout settings state clock events
      have hwrite := hp.write (Utf8.encode (text ++ settings.terminator.text)) clock state
      rcases hw : d.write (Utf8.encode (text ++ settings.terminator.text)) clock state with
        ⟨_ | _, after⟩
      · rw [hw] at hwrite
        simp only [hw] at heq
        rw [report, heq]
        exact ⟨Nat.le_refl _, after, true, rfl, hwrite⟩
      · rw [hw] at hwrite
        simp only [hw] at heq
        let window := settings.window.ceilMilliseconds
        let deadline := clock + 1000 * min (timeout.getD settings.timeout) longestWait
        have hreceived := received_eq_listen (s := ⟨settings, .simulated d state true, clock, events⟩)
          rfl hw timeout
        have hle := d.clock_le_listen window deadline clock after
        rw [report, heq]
        simp only [Report.allBytes_singleton]
        rw [hreceived]
        exact ⟨hle, _, true, rfl, hwrite.trans (hp.listen window deadline clock after) hle⟩

/-- A use takes from the queue what it reports, and puts in it what the device answers. -/
theorem took_use (hp : d.Pours unread answer) (serialError : String → SerialError) (u : Use)
    (hs : s.channel = .simulated d state isOpen) :
    Took d unread s.clock (unread state ++ s.queued answer u) (Report.allBytes (s.report u))
      (s.use serialError u) := by
  have hquiet : ∀ {u : Use} {s' : Station σ}, s.told? u = none → s'.channel = s.channel →
      s.clock ≤ s'.clock → Took d unread s.clock (unread state ++ s.queued answer u) [] s' := by
    intro u s' htold hchannel hclock
    have hqueued : s.queued answer u = [] := by
      simp only [queued, hs, htold, Option.elim_none]
    rw [hqueued, List.append_nil]
    exact took_refl unread (hchannel.trans hs) hclock
  cases u with
  | openLine => exact took_openLine hp serialError hs
  | closeLine => exact took_closeLine hp hs
  | exchange text timeout => exact took_exchange hp text timeout hs
  | wait milliseconds => exact hquiet rfl rfl (Nat.le_add_right ..)
  | configure f => exact hquiet rfl rfl (Nat.le_refl _)

theorem took_traffic (hp : d.Pours unread answer) (serialError : String → SerialError)
    (us : List Use) :
    ∀ {s : Station σ} {state : σ} {isOpen : Bool}, s.channel = .simulated d state isOpen →
      let x := s.traffic serialError answer us
      Took d unread s.clock (unread state ++ x.queued) (Report.allBytes x.reports) x.station := by
  induction us with
  | nil =>
      intro s state isOpen hs
      show Took d unread s.clock (unread state ++ []) [] s
      rw [List.append_nil]
      exact took_refl unread hs (Nat.le_refl _)
  | cons u us ih =>
      intro s state isOpen hs
      obtain ⟨hclock, state₁, isOpen₁, hs₁, hyields⟩ := took_use hp serialError u hs
      obtain ⟨hclock', state', isOpen', hs', hyields'⟩ := ih hs₁
      refine ⟨Nat.le_trans hclock hclock', state', isOpen', hs', ?_⟩
      have hall := (hyields.append _).trans hyields' hclock'
      rwa [List.append_assoc, ← Report.allBytes_append] at hall

/-- The lines that are returned are those of the bytes that are received. -/
theorem lines_eq_of_exchange {text : String} {timeout : Option Nat} {reply : Reply}
    {s' : Station σ} (h : s.exchange text timeout = .ok reply s') :
    reply.lines = Reply.linesOf (s.received text timeout) := by
  cases hwire : s.channel.wire? with
  | none =>
      rw [exchange, hwire] at h
      cases h
  | some found =>
      obtain ⟨wire, state⟩ := found
      rw [exchange_of_wire? hwire] at h
      rw [received, hwire]
      simp only [allowed]
      generalize wire.exchange _ _ _ _ = came at h ⊢
      cases came with
      | error cause t => cases h
      | ok found t =>
          cases h
          rfl

theorem lines_of_mem_report {u : Use} {r : Report} (h : r ∈ s.report u) :
    r.lines = Reply.linesOf r.bytes := by
  cases u with
  | exchange text timeout =>
      cases hexchange : s.exchange text timeout with
      | error cause s' =>
          rw [report, hexchange] at h
          cases h
      | ok reply s' =>
          rw [report, hexchange] at h
          obtain rfl := List.mem_singleton.1 h
          exact lines_eq_of_exchange hexchange
  | openLine | closeLine | wait | configure => cases h

theorem lines_of_mem_traffic (serialError : String → SerialError)
    (answer : Told → Nat → σ → Chunks) (us : List Use) :
    ∀ {s : Station σ}, ∀ r ∈ (s.traffic serialError answer us).reports,
      r.lines = Reply.linesOf r.bytes := by
  induction us with
  | nil =>
      intro s r hr
      cases hr
  | cons u us ih =>
      intro s r hr
      rcases List.mem_append.1 hr with hr | hr
      · exact lines_of_mem_report hr
      · exact ih r hr

/-- However a station is used, the lines that its exchanges return are those of the bytes that they
have received; and these bytes, one exchange after the other, followed by what can still be
read, are what the device has released so far, counting what it had in its queue at first. -/
theorem released_eq_received_append_unread (hp : d.Pours unread answer)
    (serialError : String → SerialError) (us : List Use)
    (hs : s.channel = .simulated d state isOpen) :
    let x := s.traffic serialError answer us
    (∀ r ∈ x.reports, r.lines = Reply.linesOf r.bytes) ∧
      ∃ state' isOpen', x.station.channel = .simulated d state' isOpen' ∧
        released x.station.clock (unread state ++ x.queued) =
          (x.reports.map Report.bytes).flatten ++ released x.station.clock (unread state') := by
  intro x
  obtain ⟨-, state', isOpen', hs', hyields⟩ := took_traffic hp serialError us hs
  exact ⟨lines_of_mem_traffic serialError answer us, state', isOpen', hs', hyields.released_eq⟩

/-- A modem that gives two bytes at a read has one waiting already, answers the first text in two
parts, refuses the second, and is closed and opened again before the third. At the end a byte of
its last answer has not been read. -/
theorem released_eq_received_append_unread_refused :
    let m : Modem := ⟨[[⟨0, [79, 75, 13, 10]⟩, ⟨1500, [78, 79]⟩], [], [⟨0, [79, 75]⟩, ⟨9000, [82]⟩]],
      [82], some 2, none, false, [none, some "busy"], [], none, true⟩
    let s : Station Modem.State := .new (.new (some "v") (some 9600)) m.channel
    let us : List Use := [.openLine, .exchange "AT" (some 1), .exchange "ATI" none, .closeLine,
      .wait 600, .openLine, .exchange "ATZ" none, .wait 9000]
    let x := s.traffic (fun _ => .notTerminal) m.replyTo us
    m.device.Pours Modem.State.unread m.replyTo ∧
      s.channel = .simulated m.device m.start false ∧
      x.reports.map Report.lines = [["ROK"], ["NOOK"]] ∧
      (∀ r ∈ x.reports, r.lines = Reply.linesOf r.bytes) ∧
      ∃ state' isOpen', x.station.channel = .simulated m.device state' isOpen' ∧
        released x.station.clock (m.start.unread ++ x.queued) =
          (x.reports.map Report.bytes).flatten ++ released x.station.clock state'.unread := by
  intro m s us x
  have hp : m.device.Pours Modem.State.unread m.replyTo := Modem.pours_device rfl rfl
  have hlines : x.reports.map Report.lines = [["ROK"], ["NOOK"]] := by decide +kernel
  exact ⟨hp, rfl, hlines, released_eq_received_append_unread hp _ us rfl⟩

end Station

end ModemScript
