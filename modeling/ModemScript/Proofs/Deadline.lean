import Mathlib.Order.MinMax
import ModemScript.Proofs.Beside
import ModemScript.Proofs.Listening

/-!
# Every wait ends

Nothing that a device says keeps an exchange going. It may say forever that bytes are waiting, give
none when it is read, or give more than it was asked for: each way through the two loops lets a
millisecond pass, and the inner one is left at the deadline at the latest, since a window never ends
later than that. Both are seen on one turn of a loop, and the bounds on the time and on the number
of calls follow by the recursion of the loops.

What a station does with its device is read off a device that keeps an account of it
(`Device.traced`) and otherwise behaves like the device itself.

Times are added up here as if a clock went on without end. A real one has a last instant, and a sum
that lies behind it counts as something else: as the deadline where it is the end of a window, and
as no time at all where it is the deadline itself. The second never happens, since no timeout counts
for more than thirty years, and the first makes no difference, since such a window would be cut off
at the deadline anyway (`listenBy_eq_listen`).
-/

namespace ModemScript

variable {σ : Type} {d : Device σ}

/-! ## The calls of a device -/

/-- What is asked of a device, and what it answers. -/
inductive DeviceCall where
  | opening
  | closing
  | write (bytes : List UInt8)
  /-- It is asked how many bytes are waiting. -/
  | look (waiting : Nat)
  /-- It is asked for at most so many bytes. -/
  | read (most : Nat) (given : List UInt8)
  deriving DecidableEq, Repr

/-- A device's state and what has been asked of it so far. -/
structure Traced (σ : Type) where
  state : σ
  calls : List DeviceCall

/-- The device, made to keep an account of what is asked of it. -/
def Device.traced (d : Device σ) : Device (Traced σ) where
  onOpen := d.onOpen.map fun hook settings clock x =>
    let (result, state) := hook settings clock x.state
    (result, ⟨state, x.calls ++ [.opening]⟩)
  onClose := d.onClose.map fun hook clock x => ⟨hook clock x.state, x.calls ++ [.closing]⟩
  write bytes clock x :=
    let (result, state) := d.write bytes clock x.state
    (result, ⟨state, x.calls ++ [.write bytes]⟩)
  read most clock x :=
    let (given, state) := d.read most clock x.state
    (given, ⟨state, x.calls ++ [.read most given]⟩)
  available clock x :=
    let (waiting, state) := d.available clock x.state
    (waiting, ⟨state, x.calls ++ [.look waiting]⟩)

def Traced.part : Part (Traced σ) σ where
  get := Traced.state
  put x state := ⟨state, x.calls⟩
  get_put _ _ := rfl
  put_put _ _ _ := rfl

/-- The line, whose device keeps an account if it is a simulated one. -/
def Channel.traced : Channel σ → Channel (Traced σ)
  | .serial line => .serial (line.map fun l => ⟨l.ports.along Traced.part, ⟨l.state, []⟩, l.isOpen⟩)
  | .simulated d state isOpen => .simulated d.traced ⟨state, []⟩ isOpen

/-- The station, whose device keeps an account of what is asked of it from now on. -/
def Station.traced (s : Station σ) : Station (Traced σ) :=
  ⟨s.settings, s.channel.traced, s.clock, s.events⟩

/-- The calls of a station that listens, and the bytes that it keeps. It looks, and where it
reads it has just looked and been told of bytes: it asks for so many, and keeps no more. -/
inductive Listens : List DeviceCall → List UInt8 → Prop
  | nil : Listens [] []
  | look (waiting : Nat) {calls : List DeviceCall} {bytes : List UInt8} : Listens calls bytes →
      Listens (.look waiting :: calls) bytes
  | read {waiting : Nat} (given : List UInt8) {calls : List DeviceCall} {bytes : List UInt8} :
      0 < waiting → Listens calls bytes →
      Listens (.look waiting :: .read waiting given :: calls) (given.take waiting ++ bytes)

theorem Listens.looks {calls : List DeviceCall} {bytes : List UInt8} (h : Listens calls bytes)
    (ns : List Nat) : Listens (ns.map .look ++ calls) bytes := by
  induction ns with
  | nil => exact h
  | cons n ns ih => exact .look n ih

/-! ## Waiting and listening -/

namespace Device

/-- Waiting goes on until there is no more patience, and no longer, but for a millisecond. -/
theorem clock_await_le (d : Device σ) (quiet clock : Nat) (state : σ) :
    (d.await quiet clock state).2.1 ≤ max (clock + 1) quiet := by
  fun_induction d.await quiet clock state with
  | case1 clock state now waiting after h hmore => exact Nat.le_max_left ..
  | case2 clock state now waiting after h hmore hquiet => exact Nat.le_max_left ..
  | case3 clock state now waiting after h hmore hquiet ih => omega

theorem le_deadline_of_await {window deadline clock later : Nat} {state after : σ} {more : Bool}
    (hclock : clock < deadline)
    (h : d.await (min (clock + window) deadline) clock state = (more, later, after)) :
    later ≤ deadline := by
  have hlater := d.clock_await_le (min (clock + window) deadline) clock state
  rw [h] at hlater
  exact Nat.le_trans hlater (Nat.max_le.2 ⟨hclock, Nat.min_le_right ..⟩)

/-- Listening ends at the deadline at the latest. -/
theorem clock_listen_le (d : Device σ) (window deadline clock : Nat) (state : σ) :
    (d.listen window deadline clock state).clock ≤ max clock deadline := by
  fun_induction d.listen window deadline clock state with
  | case1 clock state hclock after h ih => omega
  | case2 clock state hclock waiting after h hpos read after' hread bytes later state' hawait heard
      ih =>
      have hlater := le_deadline_of_await hclock hawait
      exact Nat.le_trans ih (by omega)
  | case3 clock state hclock waiting after h hpos read after' hread bytes later state' hawait =>
      exact Nat.le_trans (le_deadline_of_await hclock hawait) (Nat.le_max_right ..)
  | case4 clock state hclock => exact Nat.le_max_left ..

theorem available_traced {clock waiting : Nat} {state after : σ}
    (h : d.available clock state = (waiting, after)) (calls : List DeviceCall) :
    d.traced.available clock ⟨state, calls⟩ = (waiting, ⟨after, calls ++ [.look waiting]⟩) := by
  simp only [traced, h]

theorem read_traced {most clock : Nat} {given : List UInt8} {state after : σ}
    (h : d.read most clock state = (given, after)) (calls : List DeviceCall) :
    d.traced.read most clock ⟨state, calls⟩ = (given, ⟨after, calls ++ [.read most given]⟩) := by
  simp only [traced, h]

/-- Waiting is looking, once in a millisecond. -/
theorem await_traced (d : Device σ) (quiet clock : Nat) (state : σ) (calls : List DeviceCall) :
    ∃ ns : List Nat, clock + ns.length = (d.await quiet clock state).2.1 ∧
      d.traced.await quiet clock ⟨state, calls⟩ =
        ((d.await quiet clock state).1, (d.await quiet clock state).2.1,
          ⟨(d.await quiet clock state).2.2, calls ++ ns.map .look⟩) := by
  fun_induction d.await quiet clock state generalizing calls with
  | case1 clock state now waiting after h hmore =>
      refine ⟨[waiting], rfl, ?_⟩
      rw [await_eq, available_traced h]
      exact if_pos hmore
  | case2 clock state now waiting after h hmore hquiet =>
      refine ⟨[waiting], rfl, ?_⟩
      rw [await_eq, available_traced h]
      exact (if_neg hmore).trans (if_pos hquiet)
  | case3 clock state now waiting after h hmore hquiet ih =>
      obtain ⟨ns, hns, heq⟩ := ih (calls ++ [.look waiting])
      refine ⟨waiting :: ns, by rw [← hns, List.length_cons]; omega, ?_⟩
      rw [await_eq, available_traced h]
      refine (if_neg hmore).trans ((if_neg hquiet).trans (heq.trans ?_))
      rw [List.append_assoc, List.map_cons, List.singleton_append]

/-- After a read, waiting adds looks to the account. -/
theorem read_await_traced {waiting quiet clock later : Nat} {state after after' : σ}
    {given : List UInt8} {more : Bool} (hread : d.read waiting clock state = (given, after))
    (hawait : d.await quiet clock after = (more, later, after')) (calls : List DeviceCall) :
    ∃ ns : List Nat, clock + ns.length = later ∧
      d.traced.await quiet clock (d.traced.read waiting clock ⟨state, calls⟩).2 =
        (more, later, ⟨after', calls ++ .read waiting given :: ns.map .look⟩) := by
  obtain ⟨ns, hns, hwait⟩ := d.await_traced quiet clock after (calls ++ [.read waiting given])
  rw [hawait] at hns hwait
  refine ⟨ns, hns, ?_⟩
  rw [read_traced hread, hwait, List.append_assoc, List.singleton_append]

/-- A station that listens looks and reads, and calls its device at most three times in a
millisecond. -/
theorem listen_traced (d : Device σ) (window deadline clock : Nat) (state : σ)
    (calls : List DeviceCall) :
    let heard := d.listen window deadline clock state
    ∃ new, Listens new heard.bytes ∧ 3 * clock + new.length ≤ 3 * heard.clock ∧
      d.traced.listen window deadline clock ⟨state, calls⟩ =
        ⟨heard.bytes, heard.clock, ⟨heard.state, calls ++ new⟩⟩ := by
  fun_induction d.listen window deadline clock state generalizing calls with
  | case1 clock state hclock after h ih =>
      obtain ⟨new, hnew, hlength, heq⟩ := ih (calls ++ [.look 0])
      refine ⟨.look 0 :: new, .look 0 hnew, by rw [List.length_cons]; omega, ?_⟩
      rw [listen_of_silence hclock (available_traced h calls), heq, List.append_assoc,
        List.singleton_append]
  | case2 clock state hclock waiting after h hpos read after' hread bytes later state' hawait heard
      ih =>
      obtain ⟨ns, hns, hwait⟩ := read_await_traced hread hawait (calls ++ [.look waiting])
      obtain ⟨new, hnew, hlength, heq⟩ :=
        ih (calls ++ [.look waiting] ++ .read waiting read :: ns.map .look)
      refine ⟨.look waiting :: .read waiting read :: (ns.map .look ++ new),
        .read read (Nat.pos_of_ne_zero hpos) (hnew.looks ns), ?_, ?_⟩
      · have hlater := lt_clock_of_await hawait
        simp only [List.length_cons, List.length_append, List.length_map, heard]
        omega
      · rw [listen_of_more hclock (available_traced h calls) hpos hwait, heq, read_traced hread]
        simp only [List.append_assoc, List.cons_append, List.nil_append, bytes, heard]
  | case3 clock state hclock waiting after h hpos read after' hread bytes later state' hawait =>
      obtain ⟨ns, hns, hwait⟩ := read_await_traced hread hawait (calls ++ [.look waiting])
      have hlistens := Listens.read read (Nat.pos_of_ne_zero hpos) (Listens.nil.looks ns)
      rw [List.append_nil, List.append_nil] at hlistens
      refine ⟨_, hlistens, ?_, ?_⟩
      · have hlater := lt_clock_of_await hawait
        simp only [List.length_cons, List.length_map]
        omega
      · rw [listen_of_quiet hclock (available_traced h calls) hpos hwait, read_traced hread]
        simp only [List.append_assoc, List.cons_append, List.nil_append, bytes]
  | case4 clock state hclock =>
      refine ⟨[], .nil, Nat.le_refl _, ?_⟩
      rw [listen_of_le (Nat.not_lt.1 hclock) d.traced window, List.append_nil]

end Device

/-! ## A clock with an end -/

namespace Nanoseconds

def ofMilliseconds (n : Nat) : Nanoseconds := n * perMillisecond

/-- The instant that comes `length` after `start`, unless it lies behind the last one that the
clock tells. -/
def after? (last start length : Nanoseconds) : Option Nanoseconds :=
  if start + length ≤ last then some (start + length) else none

theorem ofMilliseconds_add (m n : Nat) :
    ofMilliseconds (m + n) = ofMilliseconds m + ofMilliseconds n :=
  Nat.add_mul m n perMillisecond

theorem ofMilliseconds_seconds (n : Nat) : ofMilliseconds (1000 * n) = n * perSecond := by
  rw [ofMilliseconds, Nat.mul_comm 1000 n, Nat.mul_assoc]
  rfl

theorem ceilMilliseconds_add (n t : Nat) :
    ceilMilliseconds (ofMilliseconds n + t) = n + ceilMilliseconds t := by
  show (n * 10 ^ 6 + t + 10 ^ 6 - 1) / 10 ^ 6 = n + (t + 10 ^ 6 - 1) / 10 ^ 6
  omega

theorem ceilMilliseconds_ofMilliseconds (n : Nat) : ceilMilliseconds (ofMilliseconds n) = n := by
  show (n * 10 ^ 6 + 10 ^ 6 - 1) / 10 ^ 6 = n
  omega

theorem ceilMilliseconds_min (t t' : Nat) :
    ceilMilliseconds (min t t') = min (ceilMilliseconds t) (ceilMilliseconds t') := by
  refine eq_of_forall_ge_iff fun n => ?_
  rw [min_le_iff, ceilMilliseconds_le_iff, ceilMilliseconds_le_iff, ceilMilliseconds_le_iff,
    min_le_iff]

end Nanoseconds

open Nanoseconds

namespace Device

/-- Collects bytes as `listen` does, but waits after a read until the time that `quietAt` tells. -/
def listenUntil (d : Device σ) (quietAt : Nat → Nat) (deadline clock : Nat) (state : σ) :
    Heard σ :=
  if clock < deadline then
    let (waiting, state) := d.available clock state
    if waiting = 0 then d.listenUntil quietAt deadline (clock + 1) state
    else
      let (read, state) := d.read waiting clock state
      let bytes := read.take waiting
      match _ : d.await (quietAt clock) clock state with
      | (true, later, state) =>
        let heard := d.listenUntil quietAt deadline later state
        { heard with bytes := bytes ++ heard.bytes }
      | (false, later, state) => ⟨bytes, later, state⟩
  else ⟨[], clock, state⟩
termination_by deadline - clock
decreasing_by
  · omega
  · have := lt_clock_of_await ‹_›
    omega

/-- The time is told before the deadline only, so that it does not matter what it would be later. -/
theorem listenUntil_eq_listen (d : Device σ) {quietAt : Nat → Nat} {window deadline : Nat}
    (h : ∀ clock < deadline, quietAt clock = min (clock + window) deadline) (clock : Nat)
    (state : σ) :
    d.listenUntil quietAt deadline clock state = d.listen window deadline clock state := by
  fun_induction d.listenUntil quietAt deadline clock state with
  | case1 clock state hclock after hlook ih => rw [listen_of_silence hclock hlook, ih]
  | case2 clock state hclock waiting after hlook hpos read after' hread bytes later state' hawait
      heard ih =>
      have hstate : (d.read waiting clock after).2 = after' := congrArg Prod.snd hread
      rw [h clock hclock, ← hstate] at hawait
      rw [listen_of_more hclock hlook hpos hawait, hread, ← ih]
  | case3 clock state hclock waiting after hlook hpos read after' hread bytes later state' hawait =>
      have hstate : (d.read waiting clock after).2 = after' := congrArg Prod.snd hread
      rw [h clock hclock, ← hstate] at hawait
      rw [listen_of_quiet hclock hlook hpos hawait, hread]
  | case4 clock state hclock => rw [listen_of_le (Nat.not_lt.1 hclock)]

/-- Until when a device has to be quiet after a read: for the window, but not beyond the deadline,
which also holds if the clock does not tell the end of the window. -/
def quietUntil (last window : Nanoseconds) (deadline clock : Nat) : Nanoseconds :=
  (after? last (ofMilliseconds clock) window).elim (ofMilliseconds deadline)
    (min · (ofMilliseconds deadline))

theorem ceilMilliseconds_quietUntil {last : Nanoseconds} {deadline : Nat}
    (hlast : ofMilliseconds deadline ≤ last) (window : Nanoseconds) (clock : Nat) :
    (quietUntil last window deadline clock).ceilMilliseconds =
      min (clock + window.ceilMilliseconds) deadline := by
  have hmin : (min (ofMilliseconds clock + window) (ofMilliseconds deadline)).ceilMilliseconds =
      min (clock + window.ceilMilliseconds) deadline := by
    rw [ceilMilliseconds_min, ceilMilliseconds_add, ceilMilliseconds_ofMilliseconds]
  rw [← hmin, quietUntil, after?]
  split
  · rw [Option.elim_some]
  · next hlt =>
      have hle := Nat.le_trans hlast (Nat.le_of_lt (Nat.not_le.1 hlt))
      rw [Option.elim_none, Nat.min_eq_right hle]

/-- Collects bytes as `listen` does, by a clock that tells no instant behind `last`. -/
def listenBy (d : Device σ) (last window : Nanoseconds) (deadline : Nat) : Nat → σ → Heard σ :=
  d.listenUntil (fun clock => (quietUntil last window deadline clock).ceilMilliseconds) deadline

/-- The clock's end is never noticed. -/
theorem listenBy_eq_listen (d : Device σ) {last : Nanoseconds} {deadline : Nat}
    (hlast : ofMilliseconds deadline ≤ last) (window : Nanoseconds) (clock : Nat) (state : σ) :
    d.listenBy last window deadline clock state =
      d.listen window.ceilMilliseconds deadline clock state :=
  d.listenUntil_eq_listen (fun clock _ => ceilMilliseconds_quietUntil hlast window clock) clock
    state

end Device

/-! ## An exchange -/

namespace Station

/-- When the time allowed for a reply is over, unless the clock does not tell that instant. -/
def deadline? (last : Nanoseconds) (s : Station σ) (timeout : Option Nat) : Option Nanoseconds :=
  after? last (ofMilliseconds s.clock)
    (min (timeout.getD s.settings.timeout * perSecond) (longestWait * perSecond))

theorem ofMilliseconds_allowed (s : Station σ) (timeout : Option Nat) :
    ofMilliseconds (s.allowed timeout) =
      min (timeout.getD s.settings.timeout * perSecond) (longestWait * perSecond) := by
  rw [allowed, ofMilliseconds_seconds, Nat.mul_min_mul_right]

theorem ofMilliseconds_deadline_le {last : Nanoseconds} {s : Station σ}
    (hlast : ofMilliseconds s.clock + longestWait * perSecond ≤ last) (timeout : Option Nat) :
    ofMilliseconds (s.clock + s.allowed timeout) ≤ last := by
  rw [ofMilliseconds_add, ofMilliseconds_allowed]
  exact Nat.le_trans (Nat.add_le_add_left (Nat.min_le_right ..) _) hlast

/-- A clock that goes on for thirty years tells when any timeout is over. -/
theorem deadline?_eq {last : Nanoseconds} {s : Station σ}
    (hlast : ofMilliseconds s.clock + longestWait * perSecond ≤ last) (timeout : Option Nat) :
    s.deadline? last timeout = some (ofMilliseconds (s.clock + s.allowed timeout)) := by
  have hle := ofMilliseconds_deadline_le hlast timeout
  rw [ofMilliseconds_add] at hle ⊢
  rw [deadline?, ← ofMilliseconds_allowed, after?, if_pos hle]

theorem traced_channel {s : Station σ} {state : σ} {isOpen : Bool}
    (h : s.channel = .simulated d state isOpen) :
    s.traced.channel = .simulated d.traced ⟨state, []⟩ isOpen := by
  rw [traced, h, Channel.traced]

/-- Whatever a device that takes the text does afterwards, an exchange with it ends. It takes no
longer than the timeout and no longer than thirty years, writes once, and then looks and reads,
at most three times in a millisecond, where it never keeps more of a read than it has just been
told of. If the clock goes on for thirty years, no timeout is too long for it, and no window. -/
theorem exchange_in_time (s : Station σ) (text : String) (timeout : Option Nat) {state written : σ}
    (hopen : s.channel = .simulated d state true)
    (hwrite : d.write (Utf8.encode (text ++ s.settings.terminator.text)) s.clock state =
      (.ok (), written)) :
    let payload := text ++ s.settings.terminator.text
    ∃ elapsed bytes calls finish,
      elapsed ≤ 1000 * min (timeout.getD s.settings.timeout) longestWait ∧
      s.exchange text timeout =
        .ok ⟨Reply.linesOf bytes, elapsed⟩
          { s.record (.sent payload) with
            channel := .simulated d finish true, clock := s.clock + elapsed } ∧
      s.traced.exchange text timeout =
        .ok ⟨Reply.linesOf bytes, elapsed⟩
          { s.traced.record (.sent payload) with
            channel := .simulated d.traced ⟨finish, .write (Utf8.encode payload) :: calls⟩ true,
            clock := s.clock + elapsed } ∧
      Listens calls bytes ∧ calls.length ≤ 3 * elapsed ∧
      ∀ last, ofMilliseconds s.clock + longestWait * perSecond ≤ last →
        s.deadline? last timeout = some (ofMilliseconds (s.clock + s.allowed timeout)) ∧
        d.listenBy last s.settings.window (s.clock + s.allowed timeout) s.clock written =
          ⟨bytes, s.clock + elapsed, finish⟩ := by
  intro payload
  let window := s.settings.window.ceilMilliseconds
  let deadline := s.clock + s.allowed timeout
  rcases hheard : d.listen window deadline s.clock written with ⟨bytes, clock, finish⟩
  have hclock := d.clock_listen_le window deadline s.clock written
  obtain ⟨calls, hcalls, hlength, htraced⟩ :=
    d.listen_traced window deadline s.clock written [.write (Utf8.encode payload)]
  simp only [hheard] at hclock hcalls hlength htraced
  have hle : s.clock ≤ clock := by omega
  obtain ⟨elapsed, rfl⟩ := Nat.exists_eq_add_of_le hle
  have helapsed : elapsed ≤ s.allowed timeout := by omega
  have hwrite' : d.traced.write (Utf8.encode payload) s.clock ⟨state, []⟩ =
      (.ok (), ⟨written, [.write (Utf8.encode payload)]⟩) := by
    simp only [Device.traced, payload, hwrite, List.nil_append]
  have hexchange := exchange_of_written s text timeout hopen hwrite hheard
  have hexchange' :=
    exchange_of_written s.traced text timeout (traced_channel hopen) hwrite' htraced
  rw [Nat.add_sub_cancel_left] at hexchange
  refine ⟨elapsed, bytes, calls, finish, helapsed, hexchange, ?_, hcalls, by omega, ?_⟩
  · rw [hexchange']
    simp only [traced, Nat.add_sub_cancel_left]
    rfl
  · intro last hlast
    refine ⟨deadline?_eq hlast timeout, ?_⟩
    rw [d.listenBy_eq_listen (ofMilliseconds_deadline_le hlast timeout)]
    exact hheard

/-- A modem that always has one byte, and gives six when it is asked for it, is listened to with the
longest timeout and a window without end, by a clock that tells the instants before `2 ^ 63`
seconds. The deadline is thirty years away, and the exchange is over by then. -/
theorem exchange_in_time_chatter :
    let m : Modem := ⟨[], [], none, some [120], true, [], [], none, true⟩
    let settings : Settings := { Settings.new (some "v") (some 9600) with windowBits := 1 / 0 }
    let s : Station Modem.State := ⟨settings, .simulated m.device m.start true, 7, []⟩
    let timeout := some (UInt64.size - 1)
    ∃ elapsed bytes calls finish,
      elapsed ≤ 946_080_000_000 ∧
      s.exchange "AT" timeout =
        .ok ⟨Reply.linesOf bytes, elapsed⟩
          { s.record (.sent "AT\r\n") with
            channel := .simulated m.device finish true, clock := 7 + elapsed } ∧
      s.traced.exchange "AT" timeout =
        .ok ⟨Reply.linesOf bytes, elapsed⟩
          { s.traced.record (.sent "AT\r\n") with
            channel := .simulated m.device.traced ⟨finish, .write [65, 84, 13, 10] :: calls⟩ true,
            clock := 7 + elapsed } ∧
      Listens calls bytes ∧ calls.length ≤ 3 * elapsed ∧
      s.deadline? (UInt64.size / 2 * perSecond - 1) timeout = some (ofMilliseconds 946_080_000_007) := by
  intro m settings s timeout
  obtain ⟨elapsed, bytes, calls, finish, htime, hexchange, htraced, hcalls, hlength, hclock⟩ :=
    exchange_in_time s "AT" timeout rfl rfl
  have hsent : "AT" ++ s.settings.terminator.text = "AT\r\n" := by decide +kernel
  have hbytes : Utf8.encode "AT\r\n" = [65, 84, 13, 10] := by decide +kernel
  rw [hsent] at hexchange htraced
  rw [hbytes] at htraced
  have hallowed : s.allowed timeout = 946_080_000_000 := by decide +kernel
  have hlast : ofMilliseconds 7 + longestWait * perSecond ≤ UInt64.size / 2 * perSecond - 1 := by
    decide +kernel
  have hover : s.clock + s.allowed timeout = 946_080_000_007 := by decide +kernel
  have hdeadline := (hclock _ hlast).1
  rw [hover] at hdeadline
  refine ⟨elapsed, bytes, calls, finish, ?_, hexchange, htraced, hcalls, hlength, hdeadline⟩
  rw [← hallowed]
  exact htime

end Station

end ModemScript
