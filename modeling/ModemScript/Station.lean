import ModemScript.Event
import ModemScript.Serial

/-!
# Stations

A station is a line to a device together with its settings, a clock, and the
record of what has happened. It opens and closes the line here; how it sends a
text and waits for the reply is in `Station.Exchange`.

A line is a serial one or leads to a simulated device. On a machine that has no
serial ports a serial line cannot be opened, for one reason or another.
-/

namespace ModemScript

/-- Where a station's commands go. -/
inductive Channel (σ : Type) where
  /-- A serial line, unless the machine has no ports. -/
  | serial (line : Option (SerialLine σ) := none)
  | simulated (device : Device σ) (state : σ) (isOpen : Bool)

namespace Channel

variable {σ : Type}

/-- A serial line that is not open. -/
def serialTo (ports : Option (SerialPorts σ × σ)) : Channel σ :=
  .serial (ports.map fun (ports, state) => ⟨ports, state, false⟩)

def isOpen : Channel σ → Bool
  | .serial line => line.any (·.isOpen)
  | .simulated _ _ isOpen => isOpen

/-- The wire of a line that is open, and the state of what is at its other end. -/
def wire? : Channel σ → Option (Wire σ × σ)
  | .serial (some ⟨ports, state, true⟩) => some (ports.wire, state)
  | .simulated d state true => some (d.wire, state)
  | _ => none

/-- The state of what is at the other end, whether or not the line is open. -/
def state? : Channel σ → Option σ
  | .serial line => line.map (·.state)
  | .simulated _ state _ => some state

/-- The line after something has happened at its other end. -/
def change (f : σ → σ) : Channel σ → Channel σ
  | .serial line => .serial (line.map fun l => { l with state := f l.state })
  | .simulated d state isOpen => .simulated d (f state) isOpen

@[simp] theorem isOpen_change (f : σ → σ) (c : Channel σ) : (c.change f).isOpen = c.isOpen := by
  rcases c with (_ | _) | _ <;> rfl

theorem isSome_wire? (c : Channel σ) : c.wire?.isSome = c.isOpen := by
  rcases c with (_ | ⟨_, _, _ | _⟩) | ⟨_, _, _ | _⟩ <;> rfl

end Channel

/-- A line with its settings, the time in milliseconds, and the events so far, the latest
last. -/
structure Station (σ : Type) where
  settings : Settings
  channel : Channel σ
  clock : Nat
  events : List Event

/-- What a moment shows to those who are not at the line: the time, and the state of what is at
the other end, if that has one. -/
structure Moment (σ : Type) where
  clock : Nat
  device : Option σ

namespace Station

variable {σ : Type}

/-- What can be done with a station and may fail. -/
abbrev Action (σ α : Type) := EStateM LinkError (Station σ) α

def new (settings : Settings) (channel : Channel σ) : Station σ := ⟨settings, channel, 0, []⟩

def isOpen (s : Station σ) : Bool := s.channel.isOpen

def record (s : Station σ) (e : Event) : Station σ := { s with events := s.events ++ [e] }

/-- Let time pass. -/
def sleep (s : Station σ) (milliseconds : Nat) : Station σ :=
  { s with clock := s.clock + milliseconds }

def moment (s : Station σ) : Moment σ := ⟨s.clock, s.channel.state?⟩

/-- Let time pass in which something happens to what is at the other end. -/
def undergo (s : Station σ) (milliseconds : Nat) (f : σ → σ) : Station σ :=
  { s with channel := s.channel.change f, clock := s.clock + milliseconds }

def configure (s : Station σ) (f : Settings → Settings) : Station σ :=
  { s with settings := f s.settings }

/-- The settings that opening needs. -/
def target? (s : Station σ) : Option (String × Nat) := do
  return (← s.settings.device, ← s.settings.baudRate)

/-- The station with its serial line as it is after something has been done with it. -/
def holding (s : Station σ) (t : Timed (SerialLine σ)) : Station σ :=
  { s with channel := .serial (some t.state), clock := t.clock }

/-- Opens the line, where `serialError` tells why there is no serial port at a path on a machine
without any. A simulated device that is open already is told again, a serial line closed
first. -/
def openLine (serialError : String → SerialError) : Action σ Unit := fun s =>
  match s.channel with
  | .serial none => .error (SerialLine.openError serialError s.settings) s
  | .serial (some line) =>
    match s.target? with
    | none => .error .incompleteSerial s
    | some (device, baudRate) =>
      let s := if line.isOpen then s.record .closed else s
      let s := s.record (.opened device baudRate s.settings.rtsCts s.settings.dsrDtr)
      let options := ⟨device, baudRate, s.settings.rtsCts, s.settings.timeout⟩
      match line.openAnew options s.settings.dsrDtr s.clock with
      | .ok () t => .ok () (s.holding t)
      | .error cause t => .error cause (s.holding t)
  | .simulated d state wasOpen =>
    match s.target? with
    | none => .error (.incompleteSimulated s.settings.device) s
    | some (device, baudRate) =>
      match d.onOpen with
      | none => .ok () { s with channel := .simulated d state true }
      | some hook =>
        let s := s.record (.opened device baudRate s.settings.rtsCts s.settings.dsrDtr)
        match hook s.settings s.clock state with
        | (.ok (), state) => .ok () { s with channel := .simulated d state true }
        | (.error message, state) =>
          .error (.refused message) { s with channel := .simulated d state wasOpen }

/-- Closes the line, which must be open. -/
def closeLine : Action σ Unit := fun s =>
  match s.channel with
  | .serial (some line) =>
    if line.isOpen then
      .ok () { s.record .closed with channel := .serial (some (line.release s.clock)) }
    else .error (.alreadyClosed s.settings.device) s
  | .simulated d state true =>
    match d.onClose with
    | none => .ok () { s with channel := .simulated d state false }
    | some hook =>
      .ok () { s.record .closed with channel := .simulated d (hook s.clock state) false }
  | _ => .error (.alreadyClosed s.settings.device) s

end Station

end ModemScript
