import ModemScript.Pattern.Flow
import ModemScript.Pattern.Parser

/-!
# Pattern dialects

Replies are judged by patterns, and nothing that judges them depends on how
patterns are written or matched. What it needs is a dialect: which texts are
patterns, and which lines each of them matches. The dialect of scripts is
`Dialect.standard`.
-/

namespace ModemScript

/-- Which texts are patterns and why others are not, and which lines a pattern matches
somewhere. -/
structure Dialect where
  compile : String → Except String (String → Bool)

namespace Dialect

/-- How lines are tested for a pattern, if the text is one. -/
def test? (d : Dialect) (text : String) : Option (String → Bool) := (d.compile text).toOption

/-- Whether a text is a pattern. -/
def accepts (d : Dialect) (text : String) : Bool := (d.test? text).isSome

theorem accepts_of_ok {d : Dialect} {text : String} {test : String → Bool}
    (h : d.compile text = .ok test) : d.accepts text = true := by
  rw [accepts, test?, h]
  rfl

theorem accepts_of_error {d : Dialect} {text cause : String} (h : d.compile text = .error cause) :
    d.accepts text = false := by
  rw [accepts, test?, h]
  rfl

/-- A text is a pattern, and the line has a match of it. -/
def Matches (d : Dialect) (text line : String) : Prop :=
  ∃ test, d.test? text = some test ∧ test line = true

theorem matches_iff {d : Dialect} {text line : String} {test : String → Bool}
    (h : d.test? text = some test) : d.Matches text line ↔ test line = true :=
  ⟨fun ⟨_, h', hline⟩ => Option.some.inj (h'.symm.trans h) ▸ hline, fun hline => ⟨test, h, hline⟩⟩

theorem not_matches {d : Dialect} {text : String} (h : d.test? text = none) (line : String) :
    ¬d.Matches text line :=
  fun ⟨_, h', _⟩ => nomatch h'.symm.trans h

/-- Regular expressions as `Pattern.parse?` reads them. -/
def standard : Dialect where
  compile text :=
    match Pattern.parse? text with
    | some p => .ok fun line => p.isMatch line.toList
    | none => .error "bad regex"

/-- Every text is a pattern, and matches the lines that equal it. -/
def literal : Dialect where
  compile text := .ok fun line => line == text

end Dialect

end ModemScript
