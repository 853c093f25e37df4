import ModemScript.Pattern.Basic
import ModemScript.Text.Blank

/-!
# The small pieces of patterns

Readers for what a pattern is made of below the level of groups and operators:
escapes, numbers, names and bracketed classes. Each takes the text that is left
and gives what it read together with the text after it, or nothing where the
text has no such form. In the extended mode blanks and comments may stand
between any two pieces, and between the characters of most pieces too.
-/

namespace ModemScript.Pattern

/-- The switches that are in force at a place in a pattern. -/
structure Flags where
  ignoreCase : Bool := false
  multiLine : Bool := false
  dotAll : Bool := false
  swapGreed : Bool := false
  /-- Classes and cases are those of Unicode and not of ASCII alone. -/
  unicode : Bool := true
  /-- Lines may also end with a carriage return. -/
  crlf : Bool := false
  /-- Blanks and comments are ignored. -/
  extended : Bool := false

namespace Scan

/-- The characters that satisfy `p`, and what follows them. If `extended`, blanks and
comments may stand before each character and after the last. -/
def gather (extended : Bool) (p : Char → Bool) : (inComment : Bool) → List Char →
    List Char × List Char
  | _, [] => ([], [])
  | true, c :: s => gather extended p (c != '\n') s
  | false, c :: s =>
    if extended && Text.isBlank c then gather extended p false s
    else if extended && c == '#' then gather extended p true s
    else if p c then
      let (found, rest) := gather extended p false s
      (c :: found, rest)
    else ([], c :: s)

/-- The text after the blanks and comments at its start, if `extended`. -/
def skip (extended : Bool) (s : List Char) : List Char :=
  (gather extended (fun _ => false) false s).2

def hexDigit? (c : Char) : Option Nat :=
  if c.isDigit then some (c.toNat - '0'.toNat)
  else if 'a' ≤ c && c ≤ 'f' then some (c.toNat - 'a'.toNat + 10)
  else if 'A' ≤ c && c ≤ 'F' then some (c.toNat - 'A'.toNat + 10)
  else none

/-- The character with this number, which is none for a surrogate or beyond the last. -/
def scalar? (n : Nat) : Option Char :=
  if n.isValidChar then some (Char.ofNat n) else none

/-- The number that hexadecimal digits write. -/
def hexValue? (digits : List Char) : Option Nat :=
  digits.foldlM (fun n c => (hexDigit? c).map (16 * n + ·)) 0

/-- Exactly `n` hexadecimal digits. -/
def hexDigits (extended : Bool) : (n : Nat) → List Char → Option (List Char × List Char)
  | 0, s => some ([], s)
  | n + 1, s =>
    match skip extended s with
    | [] => none
    | c :: s =>
      if (hexDigit? c).isSome then
        (hexDigits extended n s).map fun (digits, rest) => (c :: digits, rest)
      else none

/-- What an escape or a plain character stands for. -/
inductive Atom where
  /-- A character; `isByte` if it was written as two hexadecimal digits. -/
  | literal (c : Char) (isByte : Bool)
  | dot
  | anchor (a : Anchor)
  /-- A digit, space or word class, in its Unicode and its ASCII form. -/
  | standard (unicode ascii : CharClass) (negated : Bool)
  | property (p : Property) (negated : Bool)

/-- A character by its number, after the letter that tells how many digits there are. -/
def hexAtom (extended : Bool) (digits : Nat) (s : List Char) : Option (Atom × List Char) :=
  match skip extended s with
  | '{' :: s =>
    match gather extended (· != '}') false s with
    | ([], _) => none
    | (ds, '}' :: rest) => do
      let c ← scalar? (← hexValue? ds)
      return (.literal c false, skip extended rest)
    | _ => none
  | s => do
    let (ds, rest) ← hexDigits extended digits s
    let c ← scalar? (← hexValue? ds)
    return (.literal c (digits == 2), skip extended rest)

/-- A property by a one-letter name or a name in braces, after the letter `p` or `P`. -/
def propertyAtom (extended negated : Bool) (s : List Char) : Option (Atom × List Char) :=
  match skip extended s with
  | '{' :: s =>
    match gather extended (· != '}') false s with
    | (name, '}' :: rest) => do
      let (p, complement) ← Property.parse? name
      return (.property p (negated != complement), rest)
    | _ => none
  | '\\' :: _ => none
  | c :: rest => do
    let p ← Property.ofName? [c]
    return (.property p negated, skip extended rest)
  | [] => none

/-- The anchor that `\b` stands for when the text goes on with `{start}` or the like. What
follows the brace may also be a count, which is left to be read later. -/
def boundaryAtom (extended : Bool) (word : CharClass) (s : List Char) :
    Option (Atom × List Char) :=
  let plain := some (.anchor (.boundary word), s)
  match s with
  | '{' :: t =>
    match skip extended t with
    | [] => none
    | t =>
      match gather extended (fun c => c.isAlpha || c == '-') false t with
      | ([], _) => plain
      | (name, '}' :: rest) =>
        match String.ofList name with
        | "start" => some (.anchor (.wordStart word), rest)
        | "end" => some (.anchor (.wordEnd word), rest)
        | "start-half" => some (.anchor (.wordStartHalf word), rest)
        | "end-half" => some (.anchor (.wordEndHalf word), rest)
        | _ => none
      | _ => none
  | _ => plain

/-- The characters that may be escaped to stand for themselves: all of ASCII but digits,
letters and angle brackets. -/
def isEscapable (c : Char) : Bool :=
  c.toNat < 0x80 && !c.isAlphanum && c != '<' && c != '>'

/-- An escape, after its backslash. -/
def escape (flags : Flags) : List Char → Option (Atom × List Char)
  | [] => none
  | c :: s =>
    let word := if flags.unicode then CharClass.word else CharClass.asciiWord
    let control (n : Nat) := some (Atom.literal (Char.ofNat n) false, s)
    let anchor (a : Anchor) := some (Atom.anchor a, s)
    if isEscapable c then some (.literal c false, s)
    else
      match c with
      | 'x' => hexAtom flags.extended 2 s
      | 'u' => hexAtom flags.extended 4 s
      | 'U' => hexAtom flags.extended 8 s
      | 'p' => propertyAtom flags.extended false s
      | 'P' => propertyAtom flags.extended true s
      | 'd' => some (.standard .digit .asciiDigit false, s)
      | 'D' => some (.standard .digit .asciiDigit true, s)
      | 's' => some (.standard .space .asciiSpace false, s)
      | 'S' => some (.standard .space .asciiSpace true, s)
      | 'w' => some (.standard .word .asciiWord false, s)
      | 'W' => some (.standard .word .asciiWord true, s)
      | 'a' => control 0x07
      | 't' => control 0x09
      | 'n' => control 0x0A
      | 'v' => control 0x0B
      | 'f' => control 0x0C
      | 'r' => control 0x0D
      | 'A' => anchor .textStart
      | 'z' => anchor .textEnd
      | 'b' => boundaryAtom flags.extended word s
      | 'B' => anchor (.notBoundary word)
      | '<' => anchor (.wordStart word)
      | '>' => anchor (.wordEnd word)
      | _ => none

/-- The number in a repetition count, with any blanks around it. -/
def count (extended : Bool) (s : List Char) : Option (Nat × List Char) :=
  match gather extended Char.isDigit false (s.dropWhile Text.isBlank) with
  | ([], _) => none
  | (digits, rest) =>
    let n := digits.foldl (fun n c => 10 * n + (c.toNat - '0'.toNat)) 0
    if n < UInt32.size then some (n, rest.dropWhile Text.isBlank) else none

/-- The least and the greatest number of rounds, after the opening brace and up to the
text after the closing one. -/
def bounds (extended : Bool) (s : List Char) : Option ((Nat × Option Nat) × List Char) :=
  do
    let (least, s) ← count extended (skip extended s)
    match s with
    | '}' :: s => return ((least, some least), s)
    | ',' :: s =>
      match skip extended s with
      | '}' :: s => return ((least, none), s)
      | s =>
        match ← count extended s with
        | (most, '}' :: s) => if least ≤ most then return ((least, some most), s) else none
        | _ => none
    | _ => none

end Scan

end ModemScript.Pattern
