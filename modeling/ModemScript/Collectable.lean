import ModemScript.Text.Cut

/-!
# Collectables

A collectable names a value to be taken from a reply and says where it stands.
It is written as the text around the value with one marker in it: `?{name}`, or
`?{name::pattern}` where the line must match the pattern too. Braces within the
marker are balanced, so a pattern may contain counts such as `{1,2}`.
-/

namespace ModemScript

/-- A value to collect: its name, the pattern that its line must match, and the text before
and after the value. -/
structure Collectable where
  name : String
  keyPattern : Option String
  before : String
  after : String
  deriving DecidableEq, Repr

namespace Collectable

/-- What opens a marker. -/
def opening : List Char := ['?', '{']

/-- What stands between the name and the pattern. -/
def separator : List Char := [':', ':']

/-- The text up to the brace that closes the marker, and the text after it. `depth` counts
the braces that have been opened within. -/
def body? : (depth : Nat) → List Char → Option (List Char × List Char)
  | _, [] => none
  | 0, '}' :: s => some ([], s)
  | depth + 1, '}' :: s => (body? depth s).map fun (body, rest) => ('}' :: body, rest)
  | depth, '{' :: s => (body? (depth + 1) s).map fun (body, rest) => ('{' :: body, rest)
  | depth, c :: s => (body? depth s).map fun (body, rest) => (c :: body, rest)

/-- The collectable that a text writes. There is none without a marker that is closed and
has a name. -/
def parse? (spec : String) : Option Collectable := do
  let (before, rest) ← Text.cut? opening spec.toList
  let (body, after) ← body? 0 rest
  let (name, keyPattern) :=
    match Text.cut? separator body with
    | some (name, pattern) => (name, some (String.ofList pattern))
    | none => (body, none)
  if name.isEmpty then none
  else return ⟨String.ofList name, keyPattern, String.ofList before, String.ofList after⟩

end Collectable

end ModemScript
