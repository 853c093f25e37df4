import ModemScript.Pattern.Basic

/-!
# The first match

Where a pattern can match in several ways, the one that counts begins as far left
as possible, and among those that begin there it is the first in the order of
preference: the left arm of an alternation before the right one, one more round
of a greedy loop before leaving it. `ends` lists all ends of matches from one
position in that order, and `find?` takes the first of the first position that
has any.
-/

namespace ModemScript.Pattern

/-- A position in a subject: what stands before it, read backwards, and what follows. -/
structure Cursor where
  before : List Char
  after : List Char

namespace Cursor

/-- All positions from this one on. -/
def onwards : List Char → List Char → List Cursor
  | before, [] => [⟨before, []⟩]
  | before, c :: after => ⟨before, c :: after⟩ :: onwards (c :: before) after

end Cursor

/-- The ends of at most `n` further rounds of a loop in order of preference. A round that
matches nothing leads nowhere new and is not taken. -/
def rounds (round : Cursor → List Cursor) (greedy : Bool) : Nat → Cursor → List Cursor
  | 0, c => [c]
  | n + 1, c =>
    let more := (round c).flatMap fun d =>
      if d.after.length < c.after.length then rounds round greedy n d else []
    if greedy then more ++ [c] else c :: more

/-- The ends of exactly `n` rounds of a loop in order of preference. -/
def exactly (round : Cursor → List Cursor) : Nat → Cursor → List Cursor
  | 0, c => [c]
  | n + 1, c => (round c).flatMap (exactly round n)

/-- The ends of the matches that begin at a position, in order of preference. -/
def ends : Pattern → Cursor → List Cursor
  | empty, c => [c]
  | char k, ⟨before, after⟩ =>
    match after with
    | [] => []
    | x :: after => if k.contains x then [⟨x :: before, after⟩] else []
  | anchor a, c => if a.holds c.before.head? c.after.head? then [c] else []
  | seq p q, c => (ends p c).flatMap (ends q)
  | alt p q, c => ends p c ++ ends q c
  | loop p min max greedy, c =>
    (exactly (ends p) min c).flatMap fun d =>
      let most := match max with
        | none => d.after.length
        | some m => Nat.min (m - min) d.after.length
      rounds (ends p) greedy most d

/-- The text of the first match in a subject. -/
def find? (p : Pattern) (s : List Char) : Option (List Char) :=
  (Cursor.onwards [] s).findSome? fun start =>
    (ends p start).head?.map fun stop =>
      start.after.take (start.after.length - stop.after.length)

end ModemScript.Pattern
