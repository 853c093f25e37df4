import ModemScript.Pattern.Bracket

/-!
# Reading patterns

The notation is that of common regular expressions without look-around and
without references to groups: concatenation, alternation, repetition with its
lazy forms and counts, groups with and without names, switches such as `(?i)` for
the rest of a group, escapes, properties and bracketed classes. Text that is not
of this notation is no pattern, nor is one that nests too deep or that comes to
too large an automaton once its counts are written out.

The reader walks along the text once and keeps the open groups on a stack.
-/

namespace ModemScript.Pattern

/-- A pattern together with how deep it nests. -/
structure Nested where
  pattern : Pattern
  depth : Nat

namespace Nested

/-- A pattern without parts. -/
def leaf (p : Pattern) : Nested := ⟨p, 0⟩

/-- Several patterns put together nest one deeper than the deepest of them, a single one
as it is. -/
def gather (combine : List Pattern → Pattern) (parts : List Nested) : Nested :=
  let depth := parts.foldl (fun d n => max d n.depth) 0
  ⟨combine (parts.map (·.pattern)), if parts.length ≤ 1 then depth else depth + 1⟩

end Nested

/-- A group that is being read: the flags to go back to after it, the finished arms of its
alternation, and the items of the arm that has begun, latest first. An item that
is no pattern is a switch, which cannot be repeated. -/
structure Group where
  flags : Flags
  arms : List Nested
  items : List (Option Nested)

/-- What has been read: the flags in force, the group being read, the groups around it, and
the names that groups have. -/
structure Reading where
  flags : Flags
  arms : List Nested
  items : List (Option Nested)
  outer : List Group
  names : List (List Char)

namespace Reading

def start : Reading := ⟨{}, [], [], [], []⟩

def push (r : Reading) (p : Nested) : Reading := { r with items := some p :: r.items }

/-- The arm that has been begun. A switch counts as a part of it. -/
def arm (r : Reading) : Nested :=
  Nested.gather ofList (r.items.reverse.map fun i => i.getD (.leaf empty))

/-- All arms. -/
def body (r : Reading) : Nested := Nested.gather oneOf (r.arms.reverse ++ [r.arm])

/-- The reading inside a new group with these flags. -/
def enter (r : Reading) (flags : Flags) : Reading :=
  { r with
    flags := flags, arms := [], items := []
    outer := ⟨r.flags, r.arms, r.items⟩ :: r.outer }

/-- The reading after the group has been closed. -/
def leave? (r : Reading) : Option Reading :=
  match r.outer with
  | [] => none
  | g :: outer =>
    let body := r.body
    some { r with
      flags := g.flags, arms := g.arms, outer := outer
      items := some ⟨body.pattern, body.depth + 1⟩ :: g.items }

/-- The last item repeated. -/
def repeated? (r : Reading) (least : Nat) (most : Option Nat) (lazily : Bool) : Option Reading :=
  match r.items with
  | some p :: items =>
    let greedy := lazily == r.flags.swapGreed
    some { r with items := some ⟨.loop p.pattern least most greedy, p.depth + 1⟩ :: items }
  | _ => none

/-- A repetition operator, after its sign: a question mark makes it lazy. -/
def repeatBy (r : Reading) (least : Nat) (most : Option Nat) (s : List Char) :
    Option (Reading × List Char) :=
  match s with
  | '?' :: s => (r.repeated? least most true).map (·, s)
  | _ => (r.repeated? least most false).map (·, s)

/-- A character taken for itself, or for the letter it is in any case. -/
def character (flags : Flags) (c : Char) : Pattern :=
  .char (Bracket.folded flags (.single c))

/-- What an atom matches. Where classes are those of ASCII, single bytes beyond ASCII and
the dot are refused, since a match might cut a character in two. -/
def atom? (flags : Flags) : Scan.Atom → Option Pattern
  | .literal c isByte =>
    if isByte && !flags.unicode && 0x80 ≤ c.toNat then none else some (character flags c)
  | .dot =>
    if !flags.unicode then none
    else if flags.dotAll then some (.char .all)
    else if flags.crlf then some (.char (.compl (.union (.single '\r') (.single '\n'))))
    else some dot
  | .anchor a => some (.anchor a)
  | .standard unicode ascii negated => (Bracket.standard flags unicode ascii negated).map .char
  | .property p negated => (Bracket.property flags p negated).map .char

def startAnchor (flags : Flags) : Anchor :=
  if flags.multiLine then if flags.crlf then .crlfLineStart else .lineStart else .textStart

def endAnchor (flags : Flags) : Anchor :=
  if flags.multiLine then if flags.crlf then .crlfLineEnd else .lineEnd else .textEnd

/-- One switch set or unset. -/
def switch? (flags : Flags) (on : Bool) : Char → Option Flags
  | 'i' => some { flags with ignoreCase := on }
  | 'm' => some { flags with multiLine := on }
  | 's' => some { flags with dotAll := on }
  | 'U' => some { flags with swapGreed := on }
  | 'u' => some { flags with unicode := on }
  | 'R' => some { flags with crlf := on }
  | 'x' => some { flags with extended := on }
  | _ => none

/-- Switches in a row, those after a hyphen unset. No switch may stand twice, nor the
hyphen, and something must follow the hyphen. -/
def switches? (flags : Flags) (seen : List Char) : List Char → Option Flags
  | [] => if seen.head? == some '-' then none else some flags
  | c :: s =>
    if seen.contains c then none
    else if c == '-' then switches? flags (c :: seen) s
    else do switches? (← switch? flags (!seen.contains '-') c) (c :: seen) s

/-- Whether a character may stand in the name of a group, or begin it. -/
def isNameChar (first : Bool) (c : Char) : Bool :=
  c == '_' || Property.contains (.binary .alphabetic) c
    || (!first && (c == '.' || c == '[' || c == ']' || Property.contains (.group 'N') c))

/-- A named group, after the bracket that opens its name. -/
def named (r : Reading) (s : List Char) : Option (Reading × List Char) :=
  match s.span (· != '>') with
  | (c :: name, '>' :: rest) =>
    if isNameChar true c && name.all (isNameChar false) && !r.names.contains (c :: name) then
      some ({ r with names := (c :: name) :: r.names }.enter r.flags, rest)
    else none
  | _ => none

/-- A group, after its opening parenthesis. -/
def group (r : Reading) (s : List Char) : Option (Reading × List Char) :=
  match Scan.skip r.flags.extended s with
  | '?' :: 'P' :: '<' :: s => named r s
  | '?' :: '<' :: s => named r s
  | '?' :: s =>
    match s.span (fun c => c != ':' && c != ')') with
    | (letters, ':' :: rest) => do
      return (r.enter (← switches? r.flags [] letters), rest)
    | ([], _) => none
    | (letters, ')' :: rest) => do
      let flags ← switches? r.flags [] letters
      return ({ r with flags := flags, items := none :: r.items }, rest)
    | _ => none
  | s => some (r.enter r.flags, s)

/-- The reading after the next piece, and the text that is left. -/
def step (r : Reading) : List Char → Option (Reading × List Char)
  | [] => none
  | c :: s =>
    let push (p : Pattern) := some (r.push (.leaf p), s)
    match c with
    | '(' => r.group s
    | ')' => r.leave?.map (·, s)
    | '|' => some ({ r with arms := r.arm :: r.arms, items := [] }, s)
    | '[' => do
      let ((c, depth), rest) ← Bracket.parse r.flags s
      return (r.push ⟨.char c, depth⟩, rest)
    | '?' => r.repeatBy 0 (some 1) s
    | '*' => r.repeatBy 0 none s
    | '+' => r.repeatBy 1 none s
    | '{' => do
      let ((least, most), rest) ← Scan.bounds r.flags.extended s
      r.repeatBy least most (Scan.skip r.flags.extended rest)
    | '\\' => do
      let (a, rest) ← Scan.escape r.flags s
      return (r.push (.leaf (← atom? r.flags a)), rest)
    | '.' => do
      return (r.push (.leaf (← atom? r.flags .dot)), s)
    | '^' => push (.anchor (startAnchor r.flags))
    | '$' => push (.anchor (endAnchor r.flags))
    | c => push (character r.flags c)

/-- Reads on to the end of the text, where no group may be open. Each round takes at least
one character, so one round more than there are characters is enough. -/
def run : (rounds : Nat) → Reading → List Char → Option Nested
  | 0, _, _ => none
  | rounds + 1, r, s =>
    match Scan.skip r.flags.extended s with
    | [] => if r.outer.isEmpty then some r.body else none
    | s => do
      let (r, rest) ← r.step s
      run rounds r rest

end Reading

/-- A rough measure in bytes of the automaton for a pattern, in which repetition counts are
written out. A loop around something that has no length runs at most once. -/
def weight : Pattern → Nat
  | empty => 32
  | char c => 32 + 8 * c.ranges
  | anchor _ => 32
  | seq p q => p.weight + q.weight
  | alt p q => p.weight + q.weight + 40
  | loop p least most _ =>
    let times (n : Nat) := if p.maxLength? == some 0 then min n 1 else n
    match most with
    | none => max (times least) 1 * p.weight + 40
    | some m => times least * p.weight + (times m - times least) * (p.weight + 40) + 32

/-- The deepest nesting and the largest automaton that are accepted. -/
def maxDepth : Nat := 250

def maxWeight : Nat := 10 * 1024 * 1024

/-- The pattern that a text writes, if it writes one. -/
def parse? (text : String) : Option Pattern :=
  let s := text.toList
  (Reading.run (s.length + 1) .start s).bind fun n =>
    if n.depth ≤ maxDepth && n.pattern.weight ≤ maxWeight then some n.pattern else none

end ModemScript.Pattern
