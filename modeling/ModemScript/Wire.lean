import ModemScript.Device
import ModemScript.OsError

/-!
# Wires

What a station can do with a line that is open: throw away what has come in, write,
read, and ask how many bytes are waiting. A wire is given by its behaviour alone.
Whatever is asked of it may fail, takes some time, and may change what is at the
other end, so what is proved of a station on any wire holds of a serial port and of
a simulated device, which is the special case that answers at once.
-/

namespace ModemScript

/-- What a serial port is asked for, once it has been found. -/
inductive PortTask where
  /-- To tell the other end that this one is ready. -/
  | ready
  | flush
  | write
  | read
  | count
  deriving DecidableEq, Repr

/-- What is said of a port that fails. -/
def PortTask.fault : PortTask → String
  | ready => "could not assert DTR"
  | flush => "could not flush input"
  | write => "write failed"
  | read => "read failed"
  | count => "could not query input buffer"

/-- Why a line cannot be opened, closed or used. -/
inductive LinkError where
  /-- Whatever a device said when it refused. -/
  | refused (message : String)
  /-- A simulated device needs settings that are not made. -/
  | incompleteSimulated (device : Option String)
  /-- A serial line needs settings that are not made. -/
  | incompleteSerial
  | cannotOpen (device : String) (cause : SerialError)
  /-- A serial port failed, and why. -/
  | failed (task : PortTask) (cause : String)
  | alreadyClosed (device : Option String)
  /-- The line is not open for sending. -/
  | closed
  /-- The serial line itself is not open. -/
  | notOpen
  deriving DecidableEq, Repr

def LinkError.message : LinkError → String
  | refused message => message
  | incompleteSimulated device => "could not open virtual device " ++ device.getD "<unset>"
  | incompleteSerial => "device and baud rate must be set before opening"
  | cannotOpen device cause => "could not open " ++ device ++ ": " ++ cause.message
  | failed task cause => task.fault ++ ": " ++ cause
  | alreadyClosed device => device.getD "device" ++ " is already closed"
  | closed => "serial port device is closed"
  | notOpen => "serial port is not open"

/-! ## Reactions, which take time -/

/-- What comes of asking for something: a result or why there is none, the milliseconds that
this took, and the state that it left. -/
structure Reaction (ε σ α : Type) where
  result : Except ε α
  took : Nat
  state : σ

namespace Reaction

variable {ε ε' σ α : Type}

def atOnce (result : Except ε α) (state : σ) : Reaction ε σ α := ⟨result, 0, state⟩

def mapError (f : ε → ε') (a : Reaction ε σ α) : Reaction ε' σ α :=
  ⟨a.result.mapError f, a.took, a.state⟩

@[simp] theorem mapError_ok (f : ε → ε') (x : α) (took : Nat) (state : σ) :
    mapError f ⟨.ok x, took, state⟩ = ⟨.ok x, took, state⟩ := rfl

end Reaction

/-- A state and the time in milliseconds. -/
structure Timed (σ : Type) where
  clock : Nat
  state : σ

namespace Timed

/-- What takes time and may fail. -/
abbrev Action (σ α : Type) := EStateM LinkError (Timed σ) α

variable {σ α β : Type}

def now : Action σ Nat := fun t => .ok t.clock t

/-- Goes on with what came of a request, where `k` also gets the time that this took. -/
@[inline] def resume (a : Reaction LinkError σ α) (clock : Nat)
    (k : α → Nat → σ → EStateM.Result LinkError (Timed σ) β) :
    EStateM.Result LinkError (Timed σ) β :=
  match a.result with
  | .ok x => k x a.took a.state
  | .error cause => .error cause ⟨clock + a.took, a.state⟩

theorem resume_ok (x : α) (took clock : Nat) (state : σ)
    (k : α → Nat → σ → EStateM.Result LinkError (Timed σ) β) :
    resume ⟨.ok x, took, state⟩ clock k = k x took state := rfl

theorem exists_of_resume {a : Reaction LinkError σ α} {clock : Nat}
    {k : α → Nat → σ → EStateM.Result LinkError (Timed σ) β} {b : β} {t : Timed σ}
    (h : resume a clock k = .ok b t) :
    ∃ x, a.result = .ok x ∧ k x a.took a.state = .ok b t := by
  unfold resume at h
  split at h
  · next x heq => exact ⟨x, heq, h⟩
  · cases h

/-- Asks for something, and waits until it has come. -/
def ask (request : Nat → σ → Reaction LinkError σ α) : Action σ α := fun t =>
  resume (request t.clock t.state) t.clock fun x took state => .ok x ⟨t.clock + took, state⟩

end Timed

/-! ## Wires -/

/-- What can be asked of what is at the other end of an open line. Every request sees the
time. -/
structure Wire (σ : Type) where
  /-- Throws away what has come in and was not read. -/
  flush : Nat → σ → Reaction LinkError σ Unit
  /-- Sends bytes, for which so many milliseconds are allowed. -/
  write : List UInt8 → Nat → Nat → σ → Reaction LinkError σ Unit
  /-- Reads at most so many bytes. -/
  read : Nat → Nat → σ → Reaction LinkError σ (List UInt8)
  /-- How many bytes are waiting. -/
  available : Nat → σ → Reaction LinkError σ Nat

/-- The wire to a simulated device, which answers at once, keeps what it has not been asked for,
and fails only where it refuses to be written to. -/
def Device.wire {σ : Type} (d : Device σ) : Wire σ where
  flush _ state := .atOnce (.ok ()) state
  write bytes _ clock state :=
    let (result, state) := d.write bytes clock state
    .atOnce (result.mapError .refused) state
  read most clock state :=
    let (bytes, state) := d.read most clock state
    .atOnce (.ok (bytes.take most)) state
  available clock state :=
    let (waiting, state) := d.available clock state
    .atOnce (.ok waiting) state

@[simp] theorem Device.read_wire {σ : Type} (d : Device σ) (most clock : Nat) (state : σ) :
    d.wire.read most clock state =
      ⟨.ok ((d.read most clock state).1.take most), 0, (d.read most clock state).2⟩ := rfl

@[simp] theorem Device.available_wire {σ : Type} (d : Device σ) (clock : Nat) (state : σ) :
    d.wire.available clock state =
      ⟨.ok (d.available clock state).1, 0, (d.available clock state).2⟩ := rfl

end ModemScript
