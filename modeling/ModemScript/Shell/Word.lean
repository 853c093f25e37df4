import ModemScript.Text.Cut

/-!
# Words of command lines

A command line is cut into words and operators. Within a word, quotes take away
the meaning of blanks and operators, single quotes that of dollar signs too, and
a backslash that of the next character. A dollar sign before a name stands for a
variable.
-/

namespace ModemScript.Shell

/-- A piece of a word. -/
inductive Piece where
  /-- Text for itself, quoted or not. -/
  | text (s : List Char)
  /-- The value of a variable, which is cut at blanks unless `quoted`. -/
  | variable (name : String) (quoted : Bool)
  deriving DecidableEq, Repr

abbrev Word := List Piece

inductive Token where
  | word (w : Word)
  /-- An operator, as it is written; a line feed ends a command like a semicolon. -/
  | operator (s : String)
  deriving DecidableEq, Repr

namespace Token

/-- What quotes are open. -/
inductive Quotes where
  | none
  | single
  | double
  deriving DecidableEq

def isNameStart (c : Char) : Bool := c.isAlpha || c == '_'

def isName (c : Char) : Bool := c.isAlphanum || c == '_'

/-- The parameters that have no letters. -/
def isSpecial (c : Char) : Bool := ['?', '$', '#', '!', '-', '@', '*'].contains c || c.isDigit

/-- The name of a variable after a dollar sign. -/
def parameter? : List Char → Option (List Char × List Char)
  | '{' :: s =>
    match s.span (· != '}') with
    | (name, '}' :: rest) =>
      if name.all isName && !name.isEmpty || name.length == 1 && name.all isSpecial then
        some (name, rest)
      else none
    | _ => none
  | c :: s =>
    if isNameStart c then some ((c :: s).span isName)
    else if isSpecial c then some ([c], s)
    else none
  | [] => none

/-- An operator at the head of a text, the longest there is. -/
def operator? : List Char → Option (String × List Char)
  | '&' :: '&' :: s => some ("&&", s)
  | '|' :: '|' :: s => some ("||", s)
  | '2' :: '>' :: '&' :: '1' :: s => some ("2>&1", s)
  | '2' :: '>' :: '>' :: s => some ("2>>", s)
  | '2' :: '>' :: s => some ("2>", s)
  | '>' :: '&' :: '2' :: s => some (">&2", s)
  | '1' :: '>' :: '&' :: '2' :: s => some (">&2", s)
  | '>' :: '>' :: s => some (">>", s)
  | '>' :: s => some (">", s)
  | '<' :: s => some ("<", s)
  | '|' :: s => some ("|", s)
  | '&' :: s => some ("&", s)
  | ';' :: s => some (";", s)
  | '\n' :: s => some (";", s)
  | _ => none

/-- A word with one more piece of text at its end. -/
def push (w : Option Word) (s : List Char) : Option Word := some (w.getD [] ++ [.text s])

/-- The tokens of a text, when `w` is the word that has begun, if one has. Nothing if a
quote is not closed. Each round takes at least one character. -/
def scan : (rounds : Nat) → Quotes → Option Word → List Char → Option (List Token)
  | 0, _, _, _ => none
  | rounds + 1, quotes, w, s =>
    let flush (tokens : List Token) := w.elim tokens fun w => .word w :: tokens
    match quotes, s with
    | .none, [] => some (flush [])
    | _, [] => none
    | .single, '\'' :: s => scan rounds .none w s
    | .single, c :: s => scan rounds .single (push w [c]) s
    | .double, '"' :: s => scan rounds .none w s
    | .double, '\\' :: c :: s =>
      if ['$', '\x60', '"', '\\'].contains c then scan rounds .double (push w [c]) s
      else if c == '\n' then scan rounds .double w s
      else scan rounds .double (push w ['\\', c]) s
    | .none, '\\' :: c :: s =>
      if c == '\n' then scan rounds .none w s else scan rounds .none (push w [c]) s
    | .none, '\'' :: s => scan rounds .single (push w []) s
    | .none, '"' :: s => scan rounds .double (push w []) s
    | q, '$' :: s =>
      match parameter? s with
      | some (name, rest) =>
        let piece := Piece.variable (String.ofList name) (q == .double)
        scan rounds q (some (w.getD [] ++ [piece])) rest
      | none => scan rounds q (push w ['$']) s
    | .double, c :: s => scan rounds .double (push w [c]) s
    | .none, c :: s =>
      if c == ' ' || c == '\t' then (scan rounds .none none s).map flush
      else if c == '#' && w.isNone then scan rounds .none none (s.dropWhile (· != '\n'))
      else
        match operator? (c :: s) with
        | some (op, rest) =>
          -- A digit only counts as part of an operator at the start of a word.
          if c.isDigit && w.isSome then scan rounds .none (push w [c]) s
          else (scan rounds .none none rest).map fun tokens => flush (.operator op :: tokens)
        | none => scan rounds .none (push w [c]) s

/-- The tokens of a command line. -/
def ofText? (commandLine : String) : Option (List Token) :=
  let s := commandLine.toList
  scan (s.length + 1) .none none s

end Token

end ModemScript.Shell
