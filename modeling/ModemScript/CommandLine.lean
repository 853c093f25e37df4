import ModemScript.CommandLine.Options
import ModemScript.Engine.Run
import ModemScript.Machine

/-!
# The command line

The program runs a script, or reads lines from its input and carries out each as
it comes. It works on a machine, its arguments and its input, and what it comes to
is a status, two texts and the machine afterwards. The serial line is tried at the
start; a script that needs a device finds it closed when that has failed.
-/

namespace ModemScript.CommandLine

/-- What has been written to the two outputs so far, with the engine that is at work. -/
structure Terminal where
  engine : Engine Unit Machine
  output : String
  errors : String

/-- What a whole run of the program comes to. -/
structure Transcript where
  status : Nat
  output : String
  errors : String
  machine : Machine

namespace Terminal

def say (t : Terminal) (line : String) : Terminal := { t with output := t.output ++ line ++ "\n" }

def complain (t : Terminal) (line : String) : Terminal :=
  { t with errors := t.errors ++ line ++ "\n" }

def sayIf (t : Terminal) (condition : Bool) (line : String) : Terminal :=
  if condition then t.say line else t

def complainIf (t : Terminal) (condition : Bool) (line : String) : Terminal :=
  if condition then t.complain line else t

/-- What an event prints. -/
def printedBy : Event → String
  | .printed text => text
  | .ran _ output => output
  | _ => ""

/-- The terminal after the engine has gone on to `e`, with what was printed meanwhile. -/
def goOn (t : Terminal) (e : Engine Unit Machine) : Terminal :=
  let fresh := e.station.events.drop t.engine.station.events.length
  let host := { e.host with complaints := "" }
  { engine := { e with host := host }
    output := t.output ++ String.join (fresh.map printedBy)
    errors := t.errors ++ e.host.complaints }

/-- Does something with the engine. -/
def act {α : Type} (t : Terminal) (action : Engine.Action Unit Machine α) :
    Except Failure α × Terminal :=
  match action t.engine with
  | .ok a e => (.ok a, t.goOn e)
  | .error f e => (.error f, t.goOn e)

def finish (t : Terminal) (status : Nat) : Transcript :=
  ⟨status, t.output, t.errors, t.engine.host⟩

end Terminal

/-! ## Messages -/

def versionLine : String := "atscript 0.1.0\n"

def helpText : String :=
  "Run an AT command script against a modem or RF module

Usage: atscript [OPTIONS] [SCRIPT]

Arguments:
  [SCRIPT]  Script to run; without one, lines are read from stdin

Options:
  -p, --device <DEVICE>                      Serial device path
  -b, --baud-rate <BAUD_RATE>                Baud rate
  -T, --timeout <TIMEOUT>                    Default command timeout in seconds (0 keeps the built-in default) [default: 0]
  -B, --break <LINE_BREAK>                   Line break appended to every command: CRLF, LF, CR or NONE [default: CRLF]
  -A, --abort-on-failure <ABORT_ON_FAILURE>  Abort on failure [default: true]
  -L, --log-file <LOG_FILE>                  Log to this file (\"stdout\" logs to standard output)
  -l, --log-level <LOG_LEVEL>                Log level: 0 critical, 1 error, 2 warn, 3 info, 4 debug [default: 3]
  -v, --verbose                              Be more verbose
  -q, --quiet                                Print only PRINT output and errors
  -h, --help                                 Print help
  -V, --version                              Print version
"

/-- A text of several lines with blanks before each but the first. -/
def indented (blanks : String) (s : String) : String :=
  (("\n" ++ blanks).intercalate ((Text.fields ['\n'] s.toList).map String.ofList))

/-- The causes of an error below each other, with numbers if there are several. -/
def causeLines (causes : List String) : String :=
  match causes with
  | [cause] => "    " ++ indented "    " cause ++ "\n"
  | causes =>
    String.join (causes.mapIdx fun i cause =>
      "    " ++ toString i ++ ": " ++ indented "       " cause ++ "\n")

/-- The report of an error that ends the program. -/
def errorReport (what : String) (causes : List String) : String :=
  "Error: " ++ what ++ "\n\nCaused by:\n" ++ causeLines causes

/-- The causes of a failure: itself, and what it says of another cause. -/
def causes (f : Failure) : List String :=
  match f with
  | .unreadable _ cause => [f.message, cause.message]
  | _ => [f.message]

/-! ## Running -/

/-- Whether responses are reported. They would get mixed up with a log on the output. -/
def Options.echoes (o : Options) : Bool := !o.quiet && o.logFile != some "stdout"

/-- Reports a response. -/
def report (o : Options) (lead : String) (r : Response) (t : Terminal) : Terminal :=
  let answer := r.matched.getD ("\n".intercalate r.lines)
  t.sayIf o.echoes
    (lead ++ r.command ++ " (" ++ toString r.elapsed ++ " ms) >> " ++ answer)

/-- Takes all steps of the script, and tells whether none has failed. -/
def runScript (o : Options) (t : Terminal) : Bool × Terminal :=
  match _ : Engine.step Machine.host t.engine with
  | .ok (some r) e => runScript o (report o "" r (t.goOn e))
  | .ok none e => (true, t.goOn e)
  | .error f e => (false, (t.goOn e).complain f.message)
termination_by t.engine.session.remaining
decreasing_by
  have h := Engine.remaining_step_lt ‹_›
  unfold report Terminal.sayIf
  split <;> exact h

/-- Carries out one line of input. -/
def performLine (o : Options) (line : String) (t : Terminal) : Terminal :=
  match t.act (Engine.perform Machine.host line) with
  | (.ok (some r), t) => report o "<< " r t
  | (.ok none, t) => t.sayIf o.echoes (line ++ " >> OK")
  | (.error f, t) => t.complain f.message

/-- The lines of the input, each read as a whole with the line feed that ends it. -/
def inputLines : List UInt8 → List (List UInt8)
  | [] => []
  | b :: bytes =>
    if b = 10 then [b] :: inputLines bytes
    else
      match inputLines bytes with
      | [] => [[b]]
      | l :: ls => (b :: l) :: ls

/-- Carries out lines of input up to the end, or up to one that is no text. Blanks around a
line do not count, and blank lines say nothing. -/
def runLines (o : Options) (t : Terminal) : List (List UInt8) → Option Utf8.Fault × Terminal
  | [] => (none, { t with output := t.output ++ ">> " ++ "\n" })
  | bytes :: rest =>
    let t := { t with output := t.output ++ ">> " }
    match Utf8.fault? bytes with
    | some fault => (some fault, t)
    | none =>
      match Text.trim (Utf8.decodeFrom none bytes) with
      | [] => runLines o t rest
      | line => runLines o (performLine o (String.ofList line) t) rest

/-- Chooses the device and opens it if there is enough to go by. -/
def connect (o : Options) (t : Terminal) : Terminal :=
  let settings := { (Settings.new o.device o.baudRate).withTimeout o.timeout with
    terminator := o.terminator }
  let t := (t.act (Engine.connect settings .serial)).2
  match o.device, o.baudRate with
  | some device, some rate =>
    let t := t.sayIf o.verbose
      ("Setup communicator (Some(" ++ Text.quoted device ++ ") at Some(" ++ toString rate
        ++ ") baud)")
    match t.act (Engine.openDevice Machine.host) with
    | (.ok (), t) => t.sayIf o.verbose "Serial port opened"
    | (.error f, t) => t.complainIf (!o.quiet) ("Could not open serial port: " ++ f.message)
  | _, _ => t

/-- Closes the device and ends the program. -/
def close (o : Options) (clean : Bool) (t : Terminal) : Transcript :=
  match t.act Engine.closeDevice with
  | (.ok (), t) => t.finish (if clean then 0 else 1)
  | (.error .uninitialized, t) =>
    (t.sayIf o.verbose "No device was configured").finish (if clean then 0 else 1)
  | (.error f, t) => (t.complain ("Could not close serial port: " ++ f.message)).finish 1

/-- Ends the program with an error. -/
def abort (t : Terminal) (what : String) (causes : List String) : Transcript :=
  { t with errors := t.errors ++ errorReport what causes }.finish 1

/-- Makes the log file, if there is to be one apart from the output. Otherwise the path that
cannot be one, and why. -/
def openLog (o : Options) (m : Machine) : Except (String × FileError) Machine :=
  match o.logFile.filter (· != "stdout") with
  | none => .ok m
  | some path =>
    match m.files.writeBytes true path [] with
    | .ok files => .ok { m with files := files }
    | .error cause => .error (path, cause)

/-- The program with its options. -/
def runWith (o : Options) (input : List UInt8) (m : Machine) : Transcript :=
  match openLog o m with
  | .error (path, cause) =>
    abort ⟨.new true m, "", ""⟩ ("Failed to open log file: " ++ path) [cause.message]
  | .ok m =>
    let t := connect o ⟨.new o.abortOnFailure m, "", ""⟩
    match o.script with
    | some path =>
      match t.act (Engine.loadFile Machine.host path) with
      | (.error f, t) => abort t ("Failed to load script: " ++ path) (causes f)
      | (.ok (), t) =>
        let (clean, t) := runScript o t
        close o clean t
    | none =>
      match runLines o t (inputLines input) with
      | (some fault, t) => abort t "Failed to read stdin" [fault.message]
      | (none, t) => close o true t

/-- The program: what comes of its arguments and its input on a machine. -/
def run (args : List String) (input : List UInt8) (m : Machine) : Transcript :=
  match Options.parse args with
  | .ok o => runWith o input m
  | .error .version => ⟨0, versionLine, "", m⟩
  | .error .help => ⟨0, helpText, "", m⟩
  | .error .fault =>
    ⟨2, "", "error: invalid arguments\n\nFor more information, try '--help'.\n", m⟩

end ModemScript.CommandLine
