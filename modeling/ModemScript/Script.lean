import ModemScript.Command.Parser
import ModemScript.Directive.Parser
import ModemScript.Text.Lines

/-!
# Scripts

A script has a directive or a command on each line; blank lines and lines that
begin with a number sign say nothing. What a script comes to is its commands and
its directives, each directive with the number of commands before it, which is
where it takes effect.
-/

namespace ModemScript

/-- Why a line is neither a directive nor a command. -/
inductive LineError where
  | directive (cause : DirectiveError)
  | command (cause : CommandError)
  deriving DecidableEq, Repr

def LineError.message : LineError → String
  | directive cause => cause.message
  | command cause => cause.message

/-- A line that says something. -/
inductive Line where
  | command (c : Command)
  | directive (d : Directive)
  deriving DecidableEq, Repr

namespace Line

/-- What a line says: a directive if its first word is a keyword, and else a command. -/
def parse (d : Dialect) (line : List Char) : Except LineError Line :=
  let (word, rest) := Text.cutWhere Text.isBlank (Text.trim line)
  let word := String.ofList word
  if (Keyword.ofWord? word).isSome then
    match Directive.parse word rest with
    | .ok x => .ok (.directive x)
    | .error e => .error (.directive e)
  else
    match Command.parse d line with
    | .ok c => .ok (.command c)
    | .error e => .error (.command e)

/-- Whether a line of a script says nothing. -/
def isSilent (line : List Char) : Bool :=
  (Text.trim line).isEmpty || line.head? == some '#'

end Line

/-- A directive and the number of commands that come before it. -/
structure Scheduled where
  directive : Directive
  index : Nat
  deriving DecidableEq, Repr

/-- A line that cannot be read, with its number from one on. -/
structure Malformed where
  line : Nat
  reason : LineError
  text : String
  deriving DecidableEq, Repr

def Malformed.message (m : Malformed) : String :=
  "syntax error at line " ++ toString m.line ++ ": " ++ m.reason.message ++ " (" ++ m.text ++ ")"

/-- The commands and directives of a script. -/
structure Script where
  commands : List Command
  schedule : List Scheduled
  deriving DecidableEq, Repr

namespace Script

def empty : Script := ⟨[], []⟩

/-- The script with one more line before it, when `index` commands come before that. -/
def prepend (line : Line) (index : Nat) (s : Script) : Script :=
  match line with
  | .command c => { s with commands := c :: s.commands }
  | .directive x => { s with schedule := ⟨x, index⟩ :: s.schedule }

/-- How many commands come before the next line. -/
def nextIndex (line : Line) (index : Nat) : Nat :=
  match line with
  | .command _ => index + 1
  | .directive _ => index

/-- The script of lines the first of which has the number `number`, when `index` commands
come before them. -/
def ofLines (d : Dialect) (number index : Nat) : List (List Char) → Except Malformed Script
  | [] => .ok empty
  | l :: ls =>
    if Line.isSilent l then ofLines d (number + 1) index ls
    else
      match Line.parse d l with
      | .error e => .error ⟨number, e, String.ofList l⟩
      | .ok line => (ofLines d (number + 1) (nextIndex line index) ls).map (prepend line index)

/-- The script of a text, or its first malformed line. -/
def parse (d : Dialect) (text : String) : Except Malformed Script :=
  ofLines d 1 0 (Text.lines text.toList)

end Script

end ModemScript
