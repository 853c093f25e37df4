import ModemScript.Station.Exchange

/-!
# Hearing a simulated device

A simulated device answers at once and never fails to be read, so listening to it is simpler
than listening to any wire: no time passes but that which the station lets pass, and nothing
can go wrong once the text has been written. What is said here of the two loops of
`Wire.listen` is therefore said of loops without failures, which come to the same
(`Device.wire_listen`), and an exchange is a write and a listening (`Station.exchange_simulated`).
-/

namespace ModemScript

variable {σ : Type}

/-- What has been heard of a device: the bytes, and the time and the device's state after
the last of them. -/
structure Heard (σ : Type) where
  bytes : List UInt8
  clock : Nat
  state : σ

namespace Device

/-- Waits until bytes are there or `quiet` has come, at least for a millisecond. Tells
whether there are bytes. -/
def await (d : Device σ) (quiet clock : Nat) (state : σ) : Bool × Nat × σ :=
  let clock := clock + 1
  let (waiting, state) := d.available clock state
  if 0 < waiting then (true, clock, state)
  else if quiet ≤ clock then (false, clock, state)
  else d.await quiet clock state
termination_by quiet - clock

theorem lt_clock_await (d : Device σ) (quiet clock : Nat) (state : σ) :
    clock < (d.await quiet clock state).2.1 := by
  fun_induction await d quiet clock state <;> grind

theorem lt_clock_of_await {d : Device σ} {quiet clock later : Nat} {state after : σ} {more : Bool}
    (h : d.await quiet clock state = (more, later, after)) : clock < later := by
  have := lt_clock_await d quiet clock state
  rwa [h] at this

/-- Collects bytes until the device has been quiet for `window` milliseconds after a read,
or until the deadline. -/
def listen (d : Device σ) (window deadline clock : Nat) (state : σ) : Heard σ :=
  if clock < deadline then
    let (waiting, state) := d.available clock state
    if waiting = 0 then d.listen window deadline (clock + 1) state
    else
      let (read, state) := d.read waiting clock state
      let bytes := read.take waiting
      match _ : d.await (min (clock + window) deadline) clock state with
      | (true, later, state) =>
        let heard := d.listen window deadline later state
        { heard with bytes := bytes ++ heard.bytes }
      | (false, later, state) => ⟨bytes, later, state⟩
  else ⟨[], clock, state⟩
termination_by deadline - clock
decreasing_by
  · omega
  · have := lt_clock_of_await ‹_›
    omega

/-- A wait over the wire begins when its first millisecond is over. -/
theorem wire_await (d : Device σ) (quiet clock : Nat) (state : σ) :
    d.wire.await quiet (clock + 1) state =
      .ok (d.await quiet clock state).1
        ⟨(d.await quiet clock state).2.1, (d.await quiet clock state).2.2⟩ := by
  fun_induction d.await quiet clock state with
  | case1 clock state now waiting after h hmore =>
      rw [Wire.await, available_wire, Timed.resume_ok, h]
      exact if_pos hmore
  | case2 clock state now waiting after h hmore hquiet =>
      rw [Wire.await, available_wire, Timed.resume_ok, h]
      exact (if_neg hmore).trans (if_pos hquiet)
  | case3 clock state now waiting after h hmore hquiet ih =>
      rw [Wire.await, available_wire, Timed.resume_ok, h]
      exact (if_neg hmore).trans ((if_neg hquiet).trans ih)

theorem wire_listen (d : Device σ) (window deadline clock : Nat) (state : σ) :
    d.wire.listen window deadline clock state =
      .ok (d.listen window deadline clock state).bytes
        ⟨(d.listen window deadline clock state).clock,
          (d.listen window deadline clock state).state⟩ := by
  fun_induction d.listen window deadline clock state with
  | case1 clock state hclock after h ih =>
      rw [Wire.listen, if_pos hclock, available_wire, Timed.resume_ok, h]
      exact ih
  | case2 clock state hclock waiting after h hpos read after' hread bytes later state' hawait heard
      ih =>
      have hwait := d.wire_await (min (clock + window) deadline) clock after'
      rw [hawait] at hwait
      rw [Wire.listen, if_pos hclock, available_wire, Timed.resume_ok, h]
      simp only [if_neg hpos, read_wire, Timed.resume_ok, hread, Nat.add_zero]
      split
      · next heq => rw [hwait] at heq; cases heq
      · next heq => rw [hwait] at heq; cases heq
      · next heq =>
          rw [hwait] at heq
          cases heq
          rw [ih]
  | case3 clock state hclock waiting after h hpos read after' hread bytes later state' hawait =>
      have hwait := d.wire_await (min (clock + window) deadline) clock after'
      rw [hawait] at hwait
      rw [Wire.listen, if_pos hclock, available_wire, Timed.resume_ok, h]
      simp only [if_neg hpos, read_wire, Timed.resume_ok, hread, Nat.add_zero]
      split
      · next heq => rw [hwait] at heq; cases heq
      · next heq =>
          rw [hwait] at heq
          cases heq
          rfl
      · next heq => rw [hwait] at heq; cases heq
  | case4 clock state hclock => rw [Wire.listen, if_neg hclock]

theorem wire_exchange (d : Device σ) (payload : List UInt8) (wait window clock : Nat) (state : σ) :
    d.wire.exchange payload wait window ⟨clock, state⟩ =
      match d.write payload clock state with
      | (.error message, state) => .error (.refused message) ⟨clock, state⟩
      | (.ok (), state) =>
        let heard := d.listen window (clock + wait) clock state
        .ok (heard.bytes, heard.clock - clock) ⟨heard.clock, heard.state⟩ := by
  have hwrite : d.wire.write payload wait clock state =
      Reaction.mapError .refused
        ⟨(d.write payload clock state).1, 0, (d.write payload clock state).2⟩ := rfl
  have hflush : ∀ t : Timed σ, Timed.ask d.wire.flush t = .ok () t := fun t => rfl
  unfold Wire.exchange
  simp only [bind, EStateM.bind, hflush, Timed.now]
  rw [Timed.ask, hwrite]
  obtain ⟨_ | _, after⟩ := d.write payload clock state
  · rfl
  · simp only [Reaction.mapError_ok, Timed.resume_ok, Nat.add_zero, wire_listen]
    rfl

end Device

/-! ## An exchange -/

namespace Station

/-- An exchange with a simulated device is a write and, unless that is refused, a
listening. -/
theorem exchange_simulated (d : Device σ) (text : String) (timeout : Option Nat)
    (settings : Settings) (state : σ) (clock : Nat) (events : List Event) :
    let payload := text ++ settings.terminator.text
    let told := events ++ [.sent payload]
    exchange text timeout ⟨settings, .simulated d state true, clock, events⟩ =
      match d.write (Utf8.encode payload) clock state with
      | (.error message, state) =>
        .error (.refused message) ⟨settings, .simulated d state true, clock, told⟩
      | (.ok (), state) =>
        let heard := d.listen settings.window.ceilMilliseconds
          (clock + 1000 * min (timeout.getD settings.timeout) longestWait) clock state
        .ok ⟨Reply.linesOf heard.bytes, heard.clock - clock⟩
          ⟨settings, .simulated d heard.state true, heard.clock, told⟩ := by
  intro payload told
  have hwire : (Channel.simulated d state true).wire? = some (d.wire, state) := rfl
  rw [exchange_of_wire? hwire]
  simp only [Device.wire_exchange]
  obtain ⟨_ | _, after⟩ := d.write (Utf8.encode payload) clock state <;> rfl

end Station

end ModemScript
