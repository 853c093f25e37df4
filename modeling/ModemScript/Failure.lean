import ModemScript.Host
import ModemScript.Script
import ModemScript.Station
import ModemScript.Text.Quoted

/-!
# Failures

Everything that can go wrong while scripts are read and run, each with its cause
and one wording. Whether a failed directive or an unexpected reply ends a run is
not decided here.
-/

namespace ModemScript

inductive Failure where
  /-- The line could not be opened, closed or written to. -/
  | transport (cause : LinkError)
  /-- A script could not be read. -/
  | unreadable (path : String) (cause : FileError)
  | malformed (cause : Malformed)
  /-- There is no device yet. -/
  | uninitialized
  | directive (directive : Directive) (cause : Failure)
  /-- A reply was not as expected, and the command has no fallback. -/
  | badResponse (command : String) (lines : List String)
  | cannotGet (name : String) (cause : VariableError)
  /-- A command line could not be run at all. -/
  | cannotRun (commandLine : String) (cause : SpawnError)
  /-- A command line did not end well. -/
  | exited (commandLine : String) (status : ExitStatus)
  | cannotWrite (path : String) (cause : FileError)
  deriving DecidableEq, Repr

/-- The kinds of failures, which tell who is to blame. -/
inductive FailureKind where
  | transport
  | unreadable
  | malformed
  | uninitialized
  /-- Something that the script did went wrong. -/
  | execution
  deriving DecidableEq, Repr

namespace Failure

def kind : Failure → FailureKind
  | transport _ => .transport
  | unreadable _ _ => .unreadable
  | malformed _ => .malformed
  | uninitialized => .uninitialized
  | _ => .execution

def message : Failure → String
  | transport cause => "transport error: " ++ cause.message
  | unreadable path cause => "could not read script " ++ path ++ ": " ++ cause.message
  | malformed cause => cause.message
  | uninitialized => "uninitialized: communicator is not initialized"
  | directive d cause => "runtime error: ESK '" ++ d.line ++ "' failed: " ++ cause.message
  | badResponse command lines =>
    "runtime error: Command '" ++ command ++ "' got a bad response: " ++ Text.quotedList lines
      ++ " (and has no doppelganger)"
  | cannotGet name cause => "runtime error: " ++ name ++ ": " ++ cause.message
  | cannotRun commandLine cause =>
    "runtime error: could not run '" ++ commandLine ++ "': " ++ cause.message
  | exited commandLine status =>
    "runtime error: '" ++ commandLine ++ "' exited with " ++ status.message
  | cannotWrite path cause =>
    "runtime error: could not write " ++ path ++ ": " ++ cause.message

end Failure

end ModemScript
