import ModemScript.Pattern.CharClass

/-!
# Patterns

Regular expressions with anchors. A pattern says which stretches of a subject it
matches; what surrounds a stretch matters only to anchors. `Pattern.Flow` answers
whether a subject holds a match, `Pattern.Search` which match comes first, and
`Pattern.Parser` reads patterns from text.
-/

namespace ModemScript

namespace Pattern

/-- A condition on a position, told from the characters before and after it. -/
inductive Anchor where
  | textStart
  | textEnd
  | lineStart
  | lineEnd
  /-- A line may also end with a carriage return, alone or before its line feed. -/
  | crlfLineStart
  | crlfLineEnd
  /-- The sides differ in whether a word character stands there; `word` tells those. -/
  | boundary (word : CharClass)
  | notBoundary (word : CharClass)
  | wordStart (word : CharClass)
  | wordEnd (word : CharClass)
  /-- No word character before. -/
  | wordStartHalf (word : CharClass)
  /-- No word character after. -/
  | wordEndHalf (word : CharClass)

/-- Whether the condition holds between `before` and `after`; nothing stands beyond the
ends of the subject. -/
def Anchor.holds (a : Anchor) (before after : Option Char) : Bool :=
  match a with
  | textStart => before.isNone
  | textEnd => after.isNone
  | lineStart => before.all (· == '\n')
  | lineEnd => after.all (· == '\n')
  | crlfLineStart => before.all fun b => b == '\n' || (b == '\r' && after != some '\n')
  | crlfLineEnd => after.all fun c => c == '\r' || (c == '\n' && before != some '\r')
  | boundary w => before.any w.contains != after.any w.contains
  | notBoundary w => before.any w.contains == after.any w.contains
  | wordStart w => !before.any w.contains && after.any w.contains
  | wordEnd w => before.any w.contains && !after.any w.contains
  | wordStartHalf w => !before.any w.contains
  | wordEndHalf w => !after.any w.contains

end Pattern

/-- A regular expression. -/
inductive Pattern where
  | empty
  | char (c : Pattern.CharClass)
  | anchor (a : Pattern.Anchor)
  | seq (p q : Pattern)
  | alt (p q : Pattern)
  /-- From `min` to `max` times `p`, as often as possible first if `greedy` and as seldom
  as possible first otherwise. -/
  | loop (p : Pattern) (min : Nat) (max : Option Nat) (greedy : Bool)

namespace Pattern

def ofList : List Pattern → Pattern
  | [] => empty
  | [p] => p
  | p :: rest => seq p (ofList rest)

/-- One pattern after the other in preference. -/
def oneOf : List Pattern → Pattern
  | [] => empty
  | [p] => p
  | p :: rest => alt p (oneOf rest)

/-- The pattern that matches this text and no other. -/
def literal (s : List Char) : Pattern := ofList (s.map fun c => char (.single c))

/-- Any character but a line feed. -/
def dot : Pattern := char (.compl (.single '\n'))

/-- As many characters other than line feeds as possible. -/
def rest : Pattern := loop dot 0 none true

/-- The most characters a match can have, if there is such a number. -/
def maxLength? : Pattern → Option Nat
  | empty => some 0
  | char _ => some 1
  | anchor _ => some 0
  | seq p q => do return (← p.maxLength?) + (← q.maxLength?)
  | alt p q => do return max (← p.maxLength?) (← q.maxLength?)
  | loop p _ max _ =>
    match p.maxLength?, max with
    | some 0, _ => some 0
    | some n, some m => some (n * m)
    | _, _ => none

end Pattern

end ModemScript
