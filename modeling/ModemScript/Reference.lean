import ModemScript.Store
import ModemScript.Text.Cut

/-!
# References to variables

A text refers to a variable as `${name}`. Substitution works in rounds: a round
takes the leftmost reference and puts the variable's value in place of every
occurrence of that same reference. What a value brings along is searched again,
so variables may refer to each other; after a fixed number of rounds the text is
left as it is, so a variable that refers to itself ends too.
-/

namespace ModemScript

/-- A reference as it is written, and the name in it. -/
structure Reference where
  name : List Char
  deriving DecidableEq, Repr

namespace Reference

/-- What opens a reference. -/
def opening : List Char := ['$', '{']

/-- What closes it. -/
def closing : List Char := ['}']

/-- The reference as it is written. -/
def token (r : Reference) : List Char := opening ++ r.name ++ closing

/-- The leftmost reference: it runs from the first opening to the first closing after
it. -/
def first? (s : List Char) : Option Reference :=
  (Text.cut? opening s).bind fun (_, rest) =>
    (Text.cut? closing rest).map fun (name, _) => ⟨name⟩

/-- At most `rounds` rounds of substitution, where `value` gives what a name stands
for. -/
def expand (value : List Char → List Char) : (rounds : Nat) → List Char → List Char
  | 0, s => s
  | rounds + 1, s =>
    match first? s with
    | none => s
    | some r => expand value rounds (Text.replaceAll r.token (value r.name) s)

/-- The number of rounds after which substitution gives up. -/
def maxRounds : Nat := 1024

end Reference

/-- The text with the values of the store in place of its references. -/
def Store.substitute (s : Store) (text : String) : String :=
  String.ofList <| Reference.expand (fun name => (s.display (String.ofList name)).toList)
    Reference.maxRounds text.toList

end ModemScript
