import ModemScript.Text.Blank
import ModemScript.Text.Numeral

/-!
# Values of variables

A variable holds a text or a whole number. Text that came from a device or from
the command line becomes a number when it is one (`Value.coerce`); the range is
that of a 128-bit word, wide enough for the twenty digits of a SIM card's serial
number. Whatever is not a number stays as it was written, blanks included.
-/

namespace ModemScript

/-- What a variable holds. -/
inductive Value where
  | text (s : String)
  | int (n : Int)
  deriving DecidableEq, Repr, Inhabited

namespace Value

/-- The number that a text denotes, blanks around it apart. -/
def number? (s : String) : Option Int := Numeral.word? 128 (Text.trim s.toList)

/-- A number where the text denotes one, and otherwise the text unchanged. -/
def coerce (s : String) : Value :=
  match number? s with
  | some n => .int n
  | none => .text s

/-- How a value is written where a variable is referred to. -/
def display : Value → String
  | .text s => s
  | .int n => toString n

def int? : Value → Option Int
  | .int n => some n
  | .text _ => none

def text? : Value → Option String
  | .text s => some s
  | .int _ => none

end Value

end ModemScript
