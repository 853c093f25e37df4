import ModemScript.Station
import ModemScript.Text.Lines
import ModemScript.Text.Utf8

/-!
# Exchanges

A text is sent with its terminator, and what comes back is collected. A reply has
no end mark: the station looks every millisecond whether bytes are waiting and
reads them, and takes the reply to be over when the device has been quiet for the
window after a read, or when the deadline has come. Waiting always passes time,
so the distance to the deadline bounds both loops, however long the wire takes to
answer.
-/

namespace ModemScript

namespace Wire

variable {σ : Type}

/-- Looks whether bytes are there, and again after every millisecond until some are or `quiet`
has come. -/
def await (w : Wire σ) (quiet clock : Nat) (state : σ) :
    EStateM.Result LinkError (Timed σ) Bool :=
  Timed.resume (w.available clock state) clock fun waiting took state =>
    if 0 < waiting then .ok true ⟨clock + took, state⟩
    else if quiet ≤ clock + took then .ok false ⟨clock + took, state⟩
    else w.await quiet (clock + took + 1) state
termination_by quiet - clock

theorem clock_le_of_await {w : Wire σ} {quiet clock : Nat} {state : σ} {more : Bool} {t : Timed σ}
    (h : w.await quiet clock state = .ok more t) : clock ≤ t.clock := by
  fun_induction await w quiet clock state with
  | case1 clock state ih =>
    obtain ⟨waiting, -, h⟩ := Timed.exists_of_resume h
    split at h
    · cases h
      exact Nat.le_add_right ..
    · split at h
      · cases h
        exact Nat.le_add_right ..
      · next hquiet =>
        have := ih _ _ hquiet h
        omega

/-- Collects bytes until the wire has been quiet for `window` milliseconds after a read, or
until the deadline. -/
def listen (w : Wire σ) (window deadline clock : Nat) (state : σ) :
    EStateM.Result LinkError (Timed σ) (List UInt8) :=
  if clock < deadline then
    Timed.resume (w.available clock state) clock fun waiting took state =>
      let now := clock + took
      if waiting = 0 then w.listen window deadline (now + 1) state
      else
        Timed.resume (w.read waiting now state) now fun bytes took state =>
          let now := now + took
          match _ : w.await (min (now + window) deadline) (now + 1) state with
          | .error cause t => .error cause t
          | .ok false t => .ok bytes t
          | .ok true t =>
            match w.listen window deadline t.clock t.state with
            | .ok more t => .ok (bytes ++ more) t
            | .error cause t => .error cause t
  else .ok [] ⟨clock, state⟩
termination_by deadline - clock
decreasing_by
  · omega
  · have := clock_le_of_await ‹_›
    omega

/-- What listening comes to, without a word on why it ends. -/
theorem listen_eq (w : Wire σ) (window deadline clock : Nat) (state : σ) :
    w.listen window deadline clock state =
      if clock < deadline then
        Timed.resume (w.available clock state) clock fun waiting took state =>
          let now := clock + took
          if waiting = 0 then w.listen window deadline (now + 1) state
          else
            Timed.resume (w.read waiting now state) now fun bytes took state =>
              let now := now + took
              match w.await (min (now + window) deadline) (now + 1) state with
              | .error cause t => .error cause t
              | .ok false t => .ok bytes t
              | .ok true t =>
                match w.listen window deadline t.clock t.state with
                | .ok more t => .ok (bytes ++ more) t
                | .error cause t => .error cause t
      else .ok [] ⟨clock, state⟩ := by
  rw [listen]
  split
  · refine congrArg (Timed.resume _ _) (funext fun waiting => funext fun took => funext fun s => ?_)
    split
    · rfl
    · refine congrArg (Timed.resume _ _) (funext fun bytes => funext fun took => funext fun s => ?_)
      dsimp only
      split <;> next heq => simp only [heq]
  · rfl

/-- Sends a payload and collects what comes back, for which `wait` milliseconds are allowed. What
has come in before is thrown away, and what has come in unread by the end is too. The time
counts from the writing on. -/
def exchange (w : Wire σ) (payload : List UInt8) (wait window : Nat) :
    Timed.Action σ (List UInt8 × Nat) := do
  Timed.ask w.flush
  let start ← Timed.now
  Timed.ask (w.write payload wait)
  let bytes ← fun t => w.listen window (start + wait) t.clock t.state
  let elapsed := (← Timed.now) - start
  Timed.ask w.flush
  return (bytes, elapsed)

end Wire

/-- The lines of a reply, and the milliseconds that it took. -/
structure Reply where
  lines : List String
  elapsed : Nat
  deriving DecidableEq, Repr

namespace Reply

/-- The lines of what was received. -/
def linesOf (bytes : List UInt8) : List String :=
  (Text.replyLines (Utf8.decodeFrom none bytes)).map String.ofList

end Reply

namespace Station

variable {σ : Type}

/-- No exchange lasts longer than this many seconds, which are thirty years. -/
def longestWait : Nat := 86400 * 365 * 30

/-- The station after what is at the other end of its line has done something. -/
def resume (s : Station σ) (t : Timed σ) : Station σ :=
  { s with channel := s.channel.change fun _ => t.state, clock := t.clock }

/-- Sends a text and collects the reply, for which `timeout` seconds are allowed if they
are given. -/
def exchange (text : String) (timeout : Option Nat) : Action σ Reply := fun s =>
  match s.channel.wire? with
  | none => .error .closed s
  | some (wire, state) =>
    let wait := 1000 * min (timeout.getD s.settings.timeout) longestWait
    let payload := text ++ s.settings.terminator.text
    let s := s.record (.sent payload)
    match wire.exchange (Utf8.encode payload) wait s.settings.window.ceilMilliseconds
        ⟨s.clock, state⟩ with
    | .error cause t => .error cause (s.resume t)
    | .ok (bytes, elapsed) t => .ok ⟨Reply.linesOf bytes, elapsed⟩ (s.resume t)

theorem exchange_of_closed {s : Station σ} (h : s.isOpen = false) (text : String)
    (timeout : Option Nat) : exchange text timeout s = .error .closed s := by
  have hwire : s.channel.wire? = none :=
    Option.isSome_eq_false_iff.1 (s.channel.isSome_wire?.trans h) |> Option.isNone_iff_eq_none.1
  rw [exchange, hwire]

theorem exchange_of_wire? {s : Station σ} {wire : Wire σ} {state : σ}
    (h : s.channel.wire? = some (wire, state)) (text : String) (timeout : Option Nat) :
    let wait := 1000 * min (timeout.getD s.settings.timeout) longestWait
    let payload := text ++ s.settings.terminator.text
    let told := s.record (.sent payload)
    exchange text timeout s =
      match wire.exchange (Utf8.encode payload) wait s.settings.window.ceilMilliseconds
          ⟨s.clock, state⟩ with
      | .error cause t => .error cause (told.resume t)
      | .ok (bytes, elapsed) t => .ok ⟨Reply.linesOf bytes, elapsed⟩ (told.resume t) := by
  intro wait payload told
  rw [exchange, h]
  rfl

end Station

end ModemScript
