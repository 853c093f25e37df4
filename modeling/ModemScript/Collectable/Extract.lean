import ModemScript.Collectable
import ModemScript.Dialect
import ModemScript.Pattern.Search
import ModemScript.Value

/-!
# Collecting a value

The line that carries the value is found by a pattern generated from the texts
around it: the text before, as much as possible, and the text after. What that
pattern matches, less those two texts wherever they occur in it, is the value.
-/

namespace ModemScript.Collectable

/-- The pattern for a line that holds a value between two texts. -/
def linePattern (before after : List Char) : Pattern :=
  .seq (.literal before) (.seq .rest (.literal after))

/-- A text around the value with its references replaced. Where there is none, there is
nothing to replace. -/
def fragment (substitute : String → String) (text : String) : List Char :=
  if text.isEmpty then [] else (substitute text).toList

/-- The test that the value's line must pass beside the pattern of its surroundings, or
nothing if the test is not written in the dialect. -/
def lineTest? (d : Dialect) (c : Collectable) : Option (String → Bool) :=
  match c.keyPattern with
  | none => some fun _ => true
  | some pattern => d.test? pattern

/-- The value of a collectable in a reply: the first line that has the texts around it and
passes its test decides. Nothing is collected where nothing is left between the
texts. -/
def extract (d : Dialect) (substitute : String → String) (c : Collectable)
    (lines : List String) : Option Value := do
  let before := fragment substitute c.before
  let after := fragment substitute c.after
  let test ← c.lineTest? d
  let found ← lines.findSome? fun line =>
    if test line then (linePattern before after).find? line.toList else none
  match Text.replaceAll after [] (Text.replaceAll before [] found) with
  | [] => none
  | captured => return Value.coerce (String.ofList captured)

end ModemScript.Collectable
