import ModemScript.Pattern.Scan

/-!
# Bracketed classes

A class in brackets is a union of characters, ranges, escapes, named ASCII
classes and further brackets. Unions may be joined by `&&` for what both have,
`--` for what only the left one has and `~~` for what exactly one has; these
operators bind equally, from the left, and less tightly than union. A bracket
after the opening one, or after its caret, and hyphens in that place stand for
themselves.

The reader keeps the open brackets and pending operators on a stack and so needs
no recursion but that along the text.
-/

namespace ModemScript.Pattern

namespace Bracket

/-- The members read so far, how many items they are, and how deep brackets nest in
them. -/
structure Members where
  chars : CharClass
  items : Nat
  depth : Nat

namespace Members

def none : Members := ⟨.empty, 0, 0⟩

def add (m : Members) (item : CharClass) (depth : Nat) : Members :=
  ⟨.union m.chars item, m.items + 1, max m.depth depth⟩

/-- How deep the members nest as a whole: several items nest one deeper than one. -/
def nesting (m : Members) : Nat := if m.items ≤ 1 then m.depth else m.depth + 1

end Members

inductive Operator where
  | inter
  | diff
  | symmDiff

def Operator.apply : Operator → CharClass → CharClass → CharClass
  | inter => .inter
  | diff => .diff
  | symmDiff => .symmDiff

/-- What waits for the members that are being read. -/
inductive Frame where
  /-- An opening bracket within the members `outer`. -/
  | opened (outer : Members) (negated : Bool)
  /-- An operator and its left side. -/
  | pending (op : Operator) (left : CharClass) (depth : Nat)

/-- The class in all cases if the flags say so. -/
def folded (flags : Flags) (c : CharClass) : CharClass :=
  if flags.ignoreCase then if flags.unicode then .anyCase c else .anyAsciiCase c else c

/-- The class without regard to case if the flags say so, complemented if `negated`. Where
classes are those of ASCII, one that reaches beyond it is refused, since a match
might cut a character in two. -/
def finish (flags : Flags) (negated : Bool) (c : CharClass) : Option CharClass :=
  let c := folded flags c
  if flags.unicode then some (if negated then .compl c else c)
  else
    let c := if negated then .inter (.range 0 0xFF) (.compl c) else c
    if c.isAscii then some c else none

/-- The class of digits, spaces or word characters that the flags ask for. -/
def standard (flags : Flags) (unicode ascii : CharClass) (negated : Bool) : Option CharClass :=
  if flags.unicode then some (if negated then .compl unicode else unicode)
  else finish { flags with ignoreCase := false } negated ascii

def property (flags : Flags) (p : Property) (negated : Bool) : Option CharClass :=
  if flags.unicode then finish flags negated (.property p) else none

/-- The character that an atom stands for within brackets, if it stands for one. -/
def member? (flags : Flags) : Scan.Atom → Option Char
  | .literal c isByte => if flags.unicode || c.toNat < 0x80 || isByte then some c else none
  | _ => none

/-- The class that an atom stands for within brackets. -/
def item? (flags : Flags) : Scan.Atom → Option CharClass
  | .standard unicode ascii negated => standard flags unicode ascii negated
  | .property p negated => property flags p negated
  | a => (member? flags a).map CharClass.single

/-- One character or escape. -/
def atom (flags : Flags) : List Char → Option (Scan.Atom × List Char)
  | [] => none
  | '\\' :: s => Scan.escape flags s
  | c :: s => some (.literal c false, s)

/-- A character, an escape, or a range. A hyphen makes a range unless another hyphen or the
closing bracket follows it. -/
def range (flags : Flags) (s : List Char) : Option (CharClass × List Char) := do
  let x := flags.extended
  let (low, s) ← atom flags s
  let s := Scan.skip x s
  match s with
  | '-' :: t =>
    match Scan.skip x t with
    | ']' :: _ | '-' :: _ => return (← item? flags low, s)
    | t =>
      let (high, rest) ← atom flags t
      let lo ← member? flags low
      let hi ← member? flags high
      if lo ≤ hi then return (.range lo.toNat hi.toNat, rest) else none
  | _ => return (← item? flags low, s)

/-- The characters of a name, up to a colon. -/
def nameChars (s : List Char) : List Char × List Char := s.span (· != ':')

/-- A named ASCII class, after its opening bracket. -/
def named? (flags : Flags) : List Char → Option (Option CharClass × List Char)
  | ':' :: s =>
    let (negated, s) := match s with
      | '^' :: t => (true, t)
      | _ => (false, s)
    match nameChars s with
    | (name, ':' :: ']' :: rest) =>
      (CharClass.named.lookup (String.ofList name)).map fun c => (finish flags negated c, rest)
    | _ => none
  | _ => none

/-- What follows an opening bracket: a caret or none, and the characters that stand for
themselves in this place. -/
def opening (flags : Flags) (s : List Char) : Bool × Members × List Char :=
  let x := flags.extended
  let (negated, s) := match Scan.skip x s with
    | '^' :: t => (true, t)
    | t => (false, t)
  let (hyphens, s) := Scan.gather x (· == '-') false s
  let start := hyphens.foldl (fun m c => m.add (.single c) 0) Members.none
  match hyphens, s with
  | [], ']' :: t => (negated, start.add (.single ']') 0, Scan.skip x t)
  | _, _ => (negated, start, s)

/-- The members joined to the left side of the operator that waits for them, if one does,
with their nesting and the frames below. -/
def joined (flags : Flags) (m : Members) : List Frame → CharClass × Nat × List Frame
  | .pending op left depth :: rest =>
    (op.apply (folded flags left) (folded flags m.chars), max depth m.nesting + 1, rest)
  | frames => (m.chars, m.nesting, frames)

/-- Reads on from within brackets to the end of the outermost one: the class, its nesting,
and the text that follows. Each round takes at least one character, so as many
rounds as there are characters are enough. -/
def read (flags : Flags) : (rounds : Nat) → List Frame → Members → List Char →
    Option ((CharClass × Nat) × List Char)
  | 0, _, _, _ => none
  | rounds + 1, frames, members, s =>
    let operator (op : Operator) (s : List Char) :=
      let (left, depth, frames) := joined flags members frames
      read flags rounds (.pending op left depth :: frames) .none s
    match Scan.skip flags.extended s with
    | [] => none
    | '[' :: s =>
      match named? flags s with
      | some (c, rest) => do read flags rounds frames (members.add (← c) 0) rest
      | none =>
        let (negated, start, rest) := opening flags s
        read flags rounds (.opened members negated :: frames) start rest
    | ']' :: s =>
      match joined flags members frames with
      | (c, depth, .opened outer negated :: below) => do
        let c ← finish flags negated c
        if below.isEmpty then return ((c, depth + 1), s)
        else read flags rounds below (outer.add c (depth + 1)) s
      | _ => none
    | '&' :: '&' :: s => operator .inter s
    | '-' :: '-' :: s => operator .diff s
    | '~' :: '~' :: s => operator .symmDiff s
    | s => do
      let (c, rest) ← range flags s
      read flags rounds frames (members.add c 0) rest

/-- A class in brackets, after the opening one: the class, how deep it nests, and the text
that follows. -/
def parse (flags : Flags) (s : List Char) : Option ((CharClass × Nat) × List Char) :=
  let (negated, start, rest) := opening flags s
  read flags (rest.length + 1) [.opened .none negated] start rest

end Bracket

end ModemScript.Pattern
