import ModemScript.Dialect
import ModemScript.Station

/-!
# Hosts

What a script can reach besides its device: the dialect of patterns, variables of
the environment, files, a shell, a reader of what is printed, and the reasons for
which there are no serial lines. A host is given by its behaviour alone, over states
of any type. It sees the time and the device, and what it does may take time and may
have an effect on the device, as a command line has that reaches for the other end
of the line. So what is proved of an engine on any host holds whatever files there
are and whatever a shell does.
-/

namespace ModemScript

/-- How a command line ended. -/
inductive ExitStatus where
  | exited (code : Nat)
  | killed (signal : Nat)
  deriving DecidableEq, Repr

namespace ExitStatus

def isSuccess (s : ExitStatus) : Bool := s == exited 0

/-- The names of the signals from number one on. -/
def signalNames : List String :=
  ["SIGHUP", "SIGINT", "SIGQUIT", "SIGILL", "SIGTRAP", "SIGABRT", "SIGBUS", "SIGFPE", "SIGKILL",
    "SIGUSR1", "SIGSEGV", "SIGUSR2", "SIGPIPE", "SIGALRM", "SIGTERM", "SIGSTKFLT", "SIGCHLD",
    "SIGCONT", "SIGSTOP", "SIGTSTP", "SIGTTIN", "SIGTTOU", "SIGURG", "SIGXCPU", "SIGXFSZ",
    "SIGVTALRM", "SIGPROF", "SIGWINCH", "SIGIO", "SIGPWR", "SIGSYS"]

def message : ExitStatus → String
  | exited code => "exit status: " ++ toString code
  | killed signal =>
    "signal: " ++ toString signal ++
      match signalNames[signal - 1]? with
      | some name => " (" ++ name ++ ")"
      | none => ""

end ExitStatus

/-- What came of a command line: what it printed and how it ended. -/
structure ShellRun where
  output : String
  status : ExitStatus
  deriving DecidableEq, Repr

/-- Why a command line is not even begun. -/
inductive SpawnError where
  | os (e : OsError)
  /-- The command line holds a character that no argument can have. -/
  | nulInText
  deriving DecidableEq, Repr

def SpawnError.message : SpawnError → String
  | os e => e.description ++ " (os error " ++ toString e.number ++ ")"
  | nulInText => "nul byte found in provided data"

/-- Why a variable of the environment cannot be had. -/
inductive VariableError where
  | notSet
  /-- The value is not UTF-8; it is quoted in the complaint. -/
  | notText (quoted : String)
  deriving DecidableEq, Repr

def VariableError.message : VariableError → String
  | notSet => "environment variable not found"
  | notText quoted => "environment variable was not valid unicode: " ++ quoted

/-- What comes of something that a host does: a result, the milliseconds that it took, what it
did to the device, and the state of the host. -/
structure Effect (σ ω α : Type) where
  result : α
  took : Nat
  device : σ → σ
  host : ω

/-- Something that takes no time and leaves the device alone. -/
def Effect.atOnce {σ ω α : Type} (result : α) (host : ω) : Effect σ ω α := ⟨result, 0, id, host⟩

/-- The behaviour of a host with states of type `ω` beside a device with states of type `σ`. -/
structure Host (σ ω : Type) where
  dialect : Dialect
  environment : String → Moment σ → ω → Except VariableError String
  readFile : String → Moment σ → ω → Except FileError String
  writeFile : String → String → Moment σ → ω → Effect σ ω (Except FileError Unit)
  /-- Runs a command line in a shell. -/
  shell : String → Moment σ → ω → Effect σ ω (Except SpawnError ShellRun)
  /-- Shows a text to whoever reads what is printed. -/
  print : String → Moment σ → ω → Effect σ ω Unit
  /-- Why there is no serial line at a path, if there are no serial ports. -/
  serialError : String → Moment σ → ω → SerialError

/-- A host that has nothing to offer. It takes what is written and printed, and keeps
none of it. -/
def Host.bare {σ ω : Type} : Host σ ω where
  dialect := .literal
  environment _ _ _ := .error .notSet
  readFile _ _ _ := .error (.os .notFound)
  writeFile _ _ _ host := .atOnce (.ok ()) host
  shell _ _ host := .atOnce (.error (.os .notFound)) host
  print _ _ host := .atOnce () host
  serialError _ _ _ := .os .notFound

end ModemScript
