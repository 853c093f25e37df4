import ModemScript.Terminator

/-!
# Directives

A script line that begins with a keyword addresses the engine and not the
device: it changes a setting, assigns a variable, or has an effect outside. This
module holds the directives, their keywords and the line that each is written
as. `Directive.ofPayload?` in `Directive.Parser` reads that line back.
-/

namespace ModemScript

/-- The word that a directive begins with. -/
inductive Keyword where
  | device
  | baudRate
  | timeout
  | lineBreak
  | abortOnFailure
  | set
  | environment
  | print
  | exec
  | dsrDtr
  | rtsCts
  | write
  deriving DecidableEq, Repr

namespace Keyword

def all : List Keyword :=
  [device, baudRate, timeout, lineBreak, abortOnFailure, set, environment, print, exec, dsrDtr,
    rtsCts, write]

/-- The spelling in scripts, capitals only. -/
def word : Keyword → String
  | device => "DEVICE"
  | baudRate => "BAUDRATE"
  | timeout => "TIMEOUT"
  | lineBreak => "BREAK"
  | abortOnFailure => "AOF"
  | set => "SET"
  | environment => "GETENV"
  | print => "PRINT"
  | exec => "EXEC"
  | dsrDtr => "DSRDTR"
  | rtsCts => "RTSCTS"
  | write => "WRITE"

def ofWord? (s : String) : Option Keyword := all.find? fun k => k.word == s

theorem ofWord?_word (k : Keyword) : ofWord? k.word = some k := by
  cases k <;> decide

theorem word_ofWord? {s : String} {k : Keyword} (h : ofWord? s = some k) : k.word = s :=
  beq_iff_eq.1 (List.find?_some (p := fun k : Keyword => k.word == s) h)

end Keyword

/-- One directive with its payload. -/
inductive Directive where
  /-- Talk to the device at this path from now on. -/
  | device (path : String)
  | baudRate (rate : Nat)
  /-- The time in seconds that a reply is waited for unless its command says otherwise. -/
  | timeout (seconds : Int)
  | lineBreak (terminator : Terminator)
  | abortOnFailure (on : Bool)
  | set (key value : String)
  /-- Copy a variable of the environment into the session's variable of that name. -/
  | environment (name : String)
  | print (text : String)
  /-- Run a command line in a shell. -/
  | exec (commandLine : String)
  | dsrDtr (on : Bool)
  | rtsCts (on : Bool)
  | write (path content : String)
  deriving DecidableEq, Repr

namespace Directive

def keyword : Directive → Keyword
  | device _ => .device
  | baudRate _ => .baudRate
  | timeout _ => .timeout
  | lineBreak _ => .lineBreak
  | abortOnFailure _ => .abortOnFailure
  | set _ _ => .set
  | environment _ => .environment
  | print _ => .print
  | exec _ => .exec
  | dsrDtr _ => .dsrDtr
  | rtsCts _ => .rtsCts
  | write _ _ => .write

/-- How a switch is written. -/
def switch (on : Bool) : String := if on then "true" else "false"

/-- What stands after the keyword. -/
def payload : Directive → String
  | device s | environment s | print s | exec s => s
  | baudRate n => toString n
  | timeout n => toString n
  | lineBreak t => t.name
  | abortOnFailure b | dsrDtr b | rtsCts b => switch b
  | set key value => key ++ "=" ++ value
  | write path content => path ++ " " ++ content

/-- The line that stands for the directive in a script. -/
def line (d : Directive) : String := d.keyword.word ++ " " ++ d.payload

end Directive

end ModemScript
