import ModemScript.Station
import ModemScript.Text.Utf8

/-!
# Scripted modems

A modem that answers by rote: what it sends back to the first text, to the
second, and so on, each reply in chunks that become readable some time after the
text was written. Chunks wait in one queue, so one that is not yet due holds back
those behind it. A scripted modem can also refuse to be opened or written to, and
have habits that put a strain on whoever reads it.
-/

namespace ModemScript

/-- Bytes that become readable some milliseconds after a text was written. -/
structure Chunk where
  offset : Nat
  bytes : List UInt8
  deriving DecidableEq, Repr

/-- What a modem does. -/
structure Modem where
  /-- The answers to the texts written, in order; nothing further is answered. -/
  replies : List (List Chunk)
  /-- Bytes that are readable from the beginning. -/
  pending : List UInt8
  /-- A read gives at most so many bytes. -/
  readLimit : Option Nat
  /-- Bytes that every read gives, without end. -/
  chatter : Option (List UInt8)
  /-- Every read gives more than was asked for. -/
  overreads : Bool
  /-- The messages with which texts are refused, in order. -/
  writeErrors : List (Option String)
  /-- The messages with which opening is refused, in order. -/
  openErrors : List (Option String)
  /-- The only speed at which the modem can be opened. -/
  onlyBaud : Option Nat
  /-- Whether it is told about being opened and closed. -/
  hasHooks : Bool

namespace Modem

/-- What a modem remembers: how often it was written to and opened, the chunks that are not
readable yet with the times at which they will be, and the bytes that are
readable. -/
structure State where
  writes : Nat
  opens : Nat
  queue : List (Nat × List UInt8)
  buffer : List UInt8

def start (m : Modem) : State := ⟨0, 0, [], m.pending⟩

/-- The chunks at the head of a queue that are due, joined, and the queue without them. -/
def due (clock : Nat) : List (Nat × List UInt8) → List UInt8 × List (Nat × List UInt8)
  | [] => ([], [])
  | (time, bytes) :: queue =>
    if time ≤ clock then
      let (more, queue) := due clock queue
      (bytes ++ more, queue)
    else ([], (time, bytes) :: queue)

/-- The state with the chunks that are due made readable. -/
def State.release (s : State) (clock : Nat) : State :=
  let (bytes, queue) := due clock s.queue
  { s with queue := queue, buffer := s.buffer ++ bytes }

/-- What a modem that reads too far adds. -/
def surplus : List UInt8 := Utf8.encode "EXTRA"

/-- The message with which opening is refused, if it is. -/
def openError? (m : Modem) (settings : Settings) (opens : Nat) : Option String :=
  match m.openErrors[opens]?.join with
  | some message => some message
  | none =>
    match m.onlyBaud, settings.baudRate with
    | some only, some rate =>
      if rate = only then none else some ("cannot open at " ++ toString rate ++ " baud")
    | _, _ => none

def onOpen (m : Modem) (settings : Settings) (_ : Nat) (s : State) : Except String Unit × State :=
  ((m.openError? settings s.opens).elim (.ok ()) .error, { s with opens := s.opens + 1 })

def write (m : Modem) (_ : List UInt8) (clock : Nat) (s : State) : Except String Unit × State :=
  let written := { s with writes := s.writes + 1 }
  match m.writeErrors[s.writes]?.join with
  | some message => (.error message, written)
  | none =>
    let chunks := m.replies[s.writes]?.getD []
    (.ok (), { written with queue := s.queue ++ chunks.map fun c => (clock + c.offset, c.bytes) })

def read (m : Modem) (wanted clock : Nat) (s : State) : List UInt8 × State :=
  let s := s.release clock
  let given := match m.readLimit with
    | none => wanted
    | some limit => min limit wanted
  let (bytes, s) :=
    match m.chatter with
    | some chatter => (chatter, s)
    | none => (s.buffer.take given, { s with buffer := s.buffer.drop given })
  (if m.overreads then bytes ++ surplus else bytes, s)

def available (m : Modem) (clock : Nat) (s : State) : Nat × State :=
  let s := s.release clock
  (m.chatter.elim s.buffer.length List.length, s)

/-- The device that behaves like the modem. -/
def device (m : Modem) : Device State where
  onOpen := if m.hasHooks then some m.onOpen else none
  onClose := if m.hasHooks then some fun _ s => s else none
  write := m.write
  read := m.read
  available := m.available

/-- A line to the modem, which is closed. -/
def channel (m : Modem) : Channel State := .simulated m.device m.start false

end Modem

end ModemScript
