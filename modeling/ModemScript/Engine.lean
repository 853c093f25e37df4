import ModemScript.Failure
import ModemScript.Session
import ModemScript.Station.Exchange

/-!
# Engines

An engine runs a script: it has the session, the station that leads to the
device, the directives that are still to come, and a position that tells which
of them are due. Each step carries out the directives that are due, then sends
the next command and judges the reply. The position counts commands of the
script, so it stays where it is while a fallback is still to be tried, and
directives stay with the command that they precede.

The engine acts on any device and any host. A failed action leaves the engine as
it is at that moment: what has been done is not undone.
-/

namespace ModemScript

/-- The state of a run on a device with states `σ` and a host with states `ω`. -/
structure Engine (σ ω : Type) where
  session : Session
  station : Station σ
  /-- The directives that have not been carried out. -/
  schedule : List Scheduled
  /-- Whether failed directives and unexpected replies end a run. -/
  abortOnFailure : Bool
  position : Nat
  host : ω

namespace Engine

variable {σ ω : Type}

/-- What an engine can do and may fail to. -/
abbrev Action (σ ω α : Type) := EStateM Failure (Engine σ ω) α

/-- An engine without a script and with a serial line that has not been chosen, to one of the
ports if there are any. -/
def new (abortOnFailure : Bool) (host : ω) (ports : Option (SerialPorts σ × σ) := none) :
    Engine σ ω where
  session := .empty
  station := .new (.new none none) (.serialTo ports)
  schedule := []
  abortOnFailure := abortOnFailure
  position := 0
  host := host

/-! ## The device -/

/-- An action of the station as one of the engine. -/
def onStation {α : Type} (act : Station.Action σ α) : Action σ ω α := fun e =>
  match act e.station with
  | .ok a s => .ok a { e with station := s }
  | .error cause s => .error (.transport cause) { e with station := s }

def configure (f : Settings → Settings) (e : Engine σ ω) : Engine σ ω :=
  { e with station := e.station.configure f }

/-- Opens the line whether or not it is open. -/
def openLine (h : Host σ ω) : Action σ ω Unit := fun e =>
  onStation (Station.openLine fun path => h.serialError path e.station.moment e.host) e

/-- Closes the line if it is open. -/
def ensureClosed : Action σ ω Unit := fun e =>
  if e.station.isOpen then onStation Station.closeLine e else .ok () e

/-- Closes the line if it is open, and opens it if the settings say which. -/
def reopen (h : Host σ ω) : Action σ ω Unit := fun e =>
  match ensureClosed e with
  | .error f e => .error f e
  | .ok () e => if e.station.settings.isComplete then openLine h e else .ok () e

/-- Puts another line in the place of the present one, which is closed first if it is open,
and then given up as it is. -/
def replaceLine (settings : Settings) (channel : Channel σ) : Action σ ω (Channel σ) := fun e =>
  match ensureClosed e with
  | .error f e => .error f e
  | .ok () e =>
    .ok e.station.channel
      { e with station := { e.station with settings := settings, channel := channel } }

/-- Talk to another device from now on. -/
def connect (settings : Settings) (channel : Channel σ) : Action σ ω Unit := fun e =>
  match replaceLine settings channel e with
  | .error f e => .error f e
  | .ok _ e => .ok () e

/-- An action that makes no sense before a device has been chosen. -/
def withDevice {α : Type} (act : Action σ ω α) : Action σ ω α := fun e =>
  if e.station.settings.device.isSome then act e else .error .uninitialized e

/-- Opens the device unless it is open. -/
def openDevice (h : Host σ ω) : Action σ ω Unit :=
  withDevice fun e => if e.station.isOpen then .ok () e else openLine h e

/-- Closes the device unless it is closed. -/
def closeDevice : Action σ ω Unit := withDevice ensureClosed

/-! ## The script -/

/-- Start a new session with these commands. The schedule stays. -/
def load (commands : List Command) (e : Engine σ ω) : Engine σ ω :=
  { e with session := .ofCommands commands, position := 0 }

def plan (schedule : List Scheduled) (e : Engine σ ω) : Engine σ ω :=
  { e with schedule := schedule }

def loadScript (s : Script) (e : Engine σ ω) : Engine σ ω := (e.load s.commands).plan s.schedule

/-- Reads a script from a file and loads it. -/
def loadFile (h : Host σ ω) (path : String) : Action σ ω Unit := fun e =>
  match h.readFile path e.station.moment e.host with
  | .error cause => .error (.unreadable path cause) e
  | .ok text =>
    match Script.parse h.dialect text with
    | .error cause => .error (.malformed cause) e
    | .ok script => .ok () (e.loadScript script)

/-! ## Directives -/

def record (event : Event) (e : Engine σ ω) : Engine σ ω :=
  { e with station := e.station.record event }

/-- Sets a variable to a text. -/
def assign (key value : String) (e : Engine σ ω) : Engine σ ω :=
  { e with session := e.session.set key (.text value) }.record (.assigned key value)

/-- Lets the host do something, and waits until it is done. -/
def hostDoes {α : Type} (deed : Moment σ → ω → Effect σ ω α) (e : Engine σ ω) : α × Engine σ ω :=
  let effect := deed e.station.moment e.host
  (effect.result,
    { e with station := e.station.undergo effect.took effect.device, host := effect.host })

/-- Shows a text. -/
def print (h : Host σ ω) (text : String) (e : Engine σ ω) : Engine σ ω :=
  ((e.record (.printed text)).hostDoes (h.print text)).2

/-- Runs a command line, which fails unless it ends well. -/
def runShell (h : Host σ ω) (commandLine : String) : Action σ ω Unit := fun e =>
  let (run, e) := e.hostDoes (h.shell commandLine)
  match run with
  | .error cause => .error (.cannotRun commandLine cause) e
  | .ok run =>
    let e := e.record (.ran commandLine run.output)
    if run.status.isSuccess then .ok () e else .error (.exited commandLine run.status) e

/-- Writes a file. -/
def writeFile (h : Host σ ω) (path content : String) : Action σ ω Unit := fun e =>
  let (result, e) := e.hostDoes (h.writeFile path content)
  match result with
  | .error cause => .error (.cannotWrite path cause) e
  | .ok () => .ok () (e.record (.wrote path content))

/-- Carries out a directive. References are replaced in what is printed, run and written,
but not in paths, names and values. -/
def apply (h : Host σ ω) (d : Directive) : Action σ ω Unit := fun e =>
  match d with
  | .device path => reopen h (e.configure fun s => { s with device := some path })
  | .baudRate rate => reopen h (e.configure fun s => { s with baudRate := some rate })
  | .rtsCts on => reopen h (e.configure fun s => { s with rtsCts := on })
  | .dsrDtr on => reopen h (e.configure fun s => { s with dsrDtr := on })
  | .timeout seconds => .ok () (e.configure (·.withTimeout seconds))
  | .lineBreak terminator => .ok () (e.configure fun s => { s with terminator := terminator })
  | .abortOnFailure on => .ok () { e with abortOnFailure := on }
  | .set key value => .ok () (e.assign key value)
  | .environment name =>
    match h.environment name e.station.moment e.host with
    | .error cause => .error (.cannotGet name cause) e
    | .ok value => .ok () (e.assign name value)
  | .print text => .ok () (e.print h (e.session.store.substitute text ++ "\n"))
  | .exec commandLine => runShell h (e.session.store.substitute commandLine) e
  | .write path content => writeFile h path (e.session.store.substitute content) e

/-- Carries out directives in order. One that fails ends this if failures do at that
moment, and those after it go back to the head of the schedule. -/
def applyDue (h : Host σ ω) : List Scheduled → Action σ ω Unit
  | [] => fun e => .ok () e
  | x :: rest => fun e =>
    match apply h x.directive e with
    | .ok () e => applyDue h rest e
    | .error cause e =>
      if e.abortOnFailure then
        .error (.directive x.directive cause) { e with schedule := rest ++ e.schedule }
      else applyDue h rest e

/-! ## Commands -/

/-- Waits out the delay of a command, sends it, and judges the reply. -/
def send (h : Host σ ω) (c : Command) : Action σ ω Response := fun e =>
  match onStation (Station.exchange c.text c.request.timeout)
      { e with station := e.station.sleep c.request.delay } with
  | .error f e => .error f e
  | .ok reply e =>
    let (response, session) := e.session.validate h.dialect reply.lines reply.elapsed
    .ok response { e with session := session }

/-- Whether the reply to `c` was not as expected and nothing takes its place. -/
def isLost (c : Command) (e : Engine σ ω) : Bool := e.session.failed && c.fallbacks.isEmpty

/-- The failure of a command whose reply was not as expected. -/
def badResponse (r : Response) : Failure := .badResponse r.command r.lines

/-- Sends the command at the cursor, if there is one. The position moves on unless a
fallback takes its place. -/
def sendNext (h : Host σ ω) : Action σ ω (Option Response) := fun e =>
  match e.session.next? with
  | none => .ok none e
  | some (c, session) =>
    match send h c { e with session := session } with
    | .error f e => .error f e
    | .ok response e =>
      if e.isLost c && e.abortOnFailure then .error (badResponse response) e
      else if e.session.failed && !c.fallbacks.isEmpty then .ok (some response) e
      else .ok (some response) { e with position := e.position + 1 }

/-- The directives that are due, and then the next command. There is no response when no
command is left. -/
def step (h : Host σ ω) : Action σ ω (Option Response) := fun e =>
  let (due, later) := e.schedule.partition fun x => x.index == e.position
  match applyDue h due { e with schedule := later } with
  | .error f e => .error f e
  | .ok () e => sendNext h e

/-- A line by itself, outside the loaded script. A command takes the place of the session's
commands; a directive that fails is a failure whether or not failures end a run. -/
def perform (h : Host σ ω) (line : String) : Action σ ω (Option Response) := fun e =>
  match Line.parse h.dialect line.toList with
  | .error cause => .error (.malformed ⟨1, cause, line⟩) e
  | .ok (.directive d) =>
    match apply h d e with
    | .ok () e => .ok none e
    | .error cause e => .error (.directive d cause) e
  | .ok (.command c) => withDevice (fun e =>
      let session := e.session.clear.add c
      match session.next? with
      | none => .ok none { e with session := session }
      | some (c, session) =>
        match send h c { e with session := session } with
        | .error f e => .error f e
        | .ok response e =>
          if e.isLost c && e.abortOnFailure then .error (badResponse response) e
          else .ok (some response) e) e

end Engine

end ModemScript
