/-!
# Tables over the code points

A table gives every code point a label. It is written down as the lengths of the
runs of equal labels, from code point zero on, and held as the array of the runs'
starts, in which the label of a code point is found by bisection.
-/

namespace ModemScript.Unicode

/-- The starts of the runs of a table in increasing order, each with its label. -/
structure Runs (α : Type) where
  starts : Array (Nat × α)

namespace Runs

variable {α : Type}

/-- The table whose runs have these lengths and labels. -/
def ofLengths (runs : List (Nat × α)) : Runs α :=
  ⟨(runs.foldl (fun (start, acc) (length, label) => (start + length, acc.push (start, label)))
    (0, #[])).2⟩

/-- The index of the last run between `lo` and `hi` that starts at or before `n`. -/
def bisect (starts : Array (Nat × α)) (n lo hi : Nat) : Nat :=
  if lo + 1 < hi then
    let mid := (lo + hi) / 2
    if starts[mid]?.any (fun run => run.1 ≤ n) then bisect starts n mid hi
    else bisect starts n lo mid
  else lo
termination_by hi - lo

/-- The label of the code point `n`. -/
def label? (r : Runs α) (n : Nat) : Option α :=
  (r.starts[bisect r.starts n 0 r.starts.size]?).map (·.2)

end Runs

/-- A set of code points. -/
abbrev CodeSet := Runs Bool

namespace CodeSet

/-- The numbers of a text, which are set apart by blanks. -/
def numbers (text : String) : List Nat :=
  let (n, acc) := text.toList.foldl (fun (n, acc) c =>
    if c.isDigit then (some (n.getD 0 * 10 + (c.toNat - '0'.toNat)), acc)
    else (none, n.elim acc (· :: acc))) ((none, []) : Option Nat × List Nat)
  (n.elim acc (· :: acc)).reverse

/-- The lengths with a label each, which changes from one to the next. -/
def alternate : Bool → List Nat → List (Nat × Bool)
  | _, [] => []
  | inside, n :: rest => (n, inside) :: alternate (!inside) rest

/-- The set that is written as the lengths of the runs outside and inside it, in turn,
the first outside. What follows the last run is outside. -/
def ofText (text : String) : CodeSet :=
  let lengths := alternate false (numbers text)
  Runs.ofLengths (lengths ++ [(0, false)])

def contains (s : CodeSet) (c : Char) : Bool := (s.label? c.toNat).getD false

end CodeSet

end ModemScript.Unicode
