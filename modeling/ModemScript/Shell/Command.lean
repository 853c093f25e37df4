import ModemScript.Shell.Word

/-!
# Command lines

A command line is a sequence of chains, a chain is pipelines joined by `&&` and
`||`, and a pipeline is simple commands joined by `|`, of which the first may be
negated by `!`. A simple command has assignments, words and redirections.
-/

namespace ModemScript.Shell

/-- Where a redirection leads. -/
inductive Redirection where
  | input (path : Word)
  | output (append : Bool) (path : Word)
  | errors (append : Bool) (path : Word)
  /-- Errors go where the output goes. -/
  | errorsToOutput
  /-- The output goes where errors go. -/
  | outputToErrors
  deriving DecidableEq, Repr

structure SimpleCommand where
  assignments : List (String × Word)
  words : List Word
  redirections : List Redirection
  deriving DecidableEq, Repr

structure Pipeline where
  negated : Bool
  commands : List SimpleCommand
  deriving DecidableEq, Repr

/-- How the pipelines of a chain hang together. -/
inductive Connective where
  | and
  | or
  deriving DecidableEq, Repr

/-- A pipeline, and the further ones that run if what came before ended well, or did not. -/
structure Chain where
  first : Pipeline
  rest : List (Connective × Pipeline)
  deriving DecidableEq, Repr

namespace SimpleCommand

def empty : SimpleCommand := ⟨[], [], []⟩

/-- The assignment that a word is when it stands before all others. -/
def assignment? (w : Word) : Option (String × Word) :=
  let leading := w.takeWhile fun p => match p with
    | .text _ => true
    | .variable _ _ => false
  let chars := leading.flatMap fun p => match p with
    | .text s => s
    | .variable _ _ => []
  match chars.span Token.isName with
  | (c :: name, '=' :: value) =>
    if Token.isNameStart c then
      some (String.ofList (c :: name), .text value :: w.drop leading.length)
    else none
  | _ => none

/-- The command with one more word after those that it has. -/
def addWord (c : SimpleCommand) (w : Word) : SimpleCommand :=
  match (if c.words.isEmpty then assignment? w else none) with
  | some a => { c with assignments := c.assignments ++ [a] }
  | none => { c with words := c.words ++ [w] }

def addRedirection (c : SimpleCommand) (r : Redirection) : SimpleCommand :=
  { c with redirections := c.redirections ++ [r] }

/-- The redirection that an operator makes of the word after it. -/
def redirection? (op : String) (w : Word) : Option Redirection :=
  match op with
  | "<" => some (.input w)
  | ">" => some (.output false w)
  | ">>" => some (.output true w)
  | "2>" => some (.errors false w)
  | "2>>" => some (.errors true w)
  | _ => none

/-- The command of tokens among which there is no operator but those of redirections. -/
def ofTokens? (c : SimpleCommand) : List Token → Option SimpleCommand
  | [] => if c = empty then none else some c
  | .word w :: rest => ofTokens? (c.addWord w) rest
  | .operator "2>&1" :: rest => ofTokens? (c.addRedirection .errorsToOutput) rest
  | .operator ">&2" :: rest => ofTokens? (c.addRedirection .outputToErrors) rest
  | .operator op :: .word w :: rest => do ofTokens? (c.addRedirection (← redirection? op w)) rest
  | .operator _ :: _ => none

end SimpleCommand

/-- The tokens between the operators that satisfy `p`, and those operators. -/
def splitTokens (p : String → Bool) : List Token → List Token × List (String × List Token)
  | [] => ([], [])
  | t :: rest =>
    let (first, more) := splitTokens p rest
    match t with
    | .operator op => if p op then ([], (op, first) :: more) else (t :: first, more)
    | .word _ => (t :: first, more)

/-- The pipeline of tokens. -/
def Pipeline.ofTokens? (tokens : List Token) : Option Pipeline := do
  let (negated, tokens) :=
    match tokens with
    | .word [.text ['!']] :: rest => (true, rest)
    | _ => (false, tokens)
  let (first, more) := splitTokens (· == "|") tokens
  let commands ← (first :: more.map (·.2)).mapM (SimpleCommand.ofTokens? .empty)
  return ⟨negated, commands⟩

def Chain.ofTokens? (tokens : List Token) : Option Chain := do
  let (first, more) := splitTokens (fun op => op == "&&" || op == "||") tokens
  let first ← Pipeline.ofTokens? first
  let rest ← more.mapM fun (op, tokens) => do
    return (if op == "&&" then .and else .or, ← Pipeline.ofTokens? tokens)
  return ⟨first, rest⟩

/-- The chains of a command line, or nothing if it is not well formed. -/
def parse? (commandLine : String) : Option (List Chain) := do
  let tokens ← Token.ofText? commandLine
  let (first, more) := splitTokens (fun op => op == ";" || op == "&") tokens
  ((first :: more.map (·.2)).filter (!·.isEmpty)).mapM Chain.ofTokens?

end ModemScript.Shell
