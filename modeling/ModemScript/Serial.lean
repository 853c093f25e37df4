import ModemScript.Wire

/-!
# Serial lines

A serial line is one to a port of the machine. What the ports of a machine do is not
known here: they are given by their behaviour, like everything at the other end of a
line, and so is the time that they take. A port is opened in three steps. It is
asked for, the other end is told that this one is ready if that is wanted, and what
has come in by then is thrown away. Where one of the last two fails, the port is
closed again. A line that has been opened is flushed once more, and is open
whatever comes of that.
-/

namespace ModemScript

/-- What a serial port is asked for with. -/
structure PortOptions where
  path : String
  baudRate : Nat
  rtsCts : Bool
  /-- The seconds after which the port gives up reading. -/
  timeout : Nat
  deriving DecidableEq, Repr

/-- The behaviour of the serial ports of a machine. -/
structure SerialPorts (σ : Type) where
  openPort : PortOptions → Nat → σ → Reaction SerialError σ Unit
  closePort : Nat → σ → σ
  /-- Tells the other end that this one is ready. -/
  raiseReady : Nat → σ → Reaction String σ Unit
  /-- Throws away what has come in. -/
  flush : Nat → σ → Reaction String σ Unit
  /-- Writes bytes, for which so many milliseconds are allowed. -/
  write : List UInt8 → Nat → Nat → σ → Reaction String σ Unit
  /-- Asked for at most so many bytes; what it gives beyond them is dropped. -/
  read : Nat → Nat → σ → Reaction String σ (List UInt8)
  available : Nat → σ → Reaction String σ Nat

namespace SerialPorts

variable {σ : Type}

/-- The wire to a port that is open. -/
def wire (p : SerialPorts σ) : Wire σ where
  flush clock state := (p.flush clock state).mapError (.failed .flush)
  write bytes allowed clock state := (p.write bytes allowed clock state).mapError (.failed .write)
  read most clock state :=
    let a := (p.read most clock state).mapError (.failed .read)
    { a with result := a.result.map (·.take most) }
  available clock state := (p.available clock state).mapError (.failed .count)

/-- Makes a port that has been found ready for use. -/
def prepare (p : SerialPorts σ) (dsrDtr : Bool) : Timed.Action σ Unit := do
  if dsrDtr then
    Timed.ask fun clock state => (p.raiseReady clock state).mapError (.failed .ready)
  Timed.ask p.wire.flush

/-- Opens a port. One that cannot be made ready is closed again. -/
def connect (p : SerialPorts σ) (options : PortOptions) (dsrDtr : Bool) : Timed.Action σ Unit :=
  fun t =>
    match Timed.ask (fun clock state =>
      (p.openPort options clock state).mapError (.cannotOpen options.path)) t with
    | .error cause t => .error cause t
    | .ok () t =>
      match p.prepare dsrDtr t with
      | .ok () t => .ok () t
      | .error cause t => .error cause { t with state := p.closePort t.clock t.state }

end SerialPorts

/-- A line to one of the ports of a machine. -/
structure SerialLine (σ : Type) where
  ports : SerialPorts σ
  state : σ
  isOpen : Bool

/-- What can be asked of a serial line other than to open. -/
inductive SerialRequest where
  | close
  | write (bytes : List UInt8)
  | read (most : Nat)
  | available
  | clearInput

namespace SerialLine

variable {σ : Type}

/-- Why a serial line is not opened with these settings on a machine without ports, where
`serialError` tells why there is none at a path. -/
def openError (serialError : String → SerialError) (settings : Settings) : LinkError :=
  match settings.device, settings.baudRate with
  | some device, some _ => .cannotOpen device (serialError device)
  | _, _ => .incompleteSerial

/-- What is answered to everything else by a line that is not open. -/
def answer (_ : SerialRequest) : LinkError := .notOpen

/-- Closes the line if it is open. -/
def release (clock : Nat) (l : SerialLine σ) : SerialLine σ :=
  if l.isOpen then { l with state := l.ports.closePort clock l.state, isOpen := false } else l

/-- The line after something has been done with its port. -/
def after (l : SerialLine σ) (isOpen : Bool) (t : Timed σ) : Timed (SerialLine σ) :=
  ⟨t.clock, { l with state := t.state, isOpen := isOpen }⟩

/-- Opens the line, which is closed first if it is open. Once there is a port that is ready, the
line is open, even if it cannot be flushed again. -/
def openAnew (options : PortOptions) (dsrDtr : Bool) (clock : Nat) (l : SerialLine σ) :
    EStateM.Result LinkError (Timed (SerialLine σ)) Unit :=
  match l.ports.connect options dsrDtr ⟨clock, (l.release clock).state⟩ with
  | .error cause t => .error cause (l.after false t)
  | .ok () t =>
    match Timed.ask l.ports.wire.flush t with
    | .ok () t => .ok () (l.after true t)
    | .error cause t => .error cause (l.after true t)

end SerialLine

end ModemScript
