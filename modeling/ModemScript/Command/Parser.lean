import ModemScript.Collectable.List
import ModemScript.Command
import ModemScript.Dialect
import ModemScript.Text.Cut
import ModemScript.Text.Numeral

/-!
# Reading commands

A command line has up to seven fields, `;;` between them: the text to send, the
pattern of the expected line, the delay, the timeout, the list of collectables,
the text of the fallback, and the pattern of the fallback's expected line. All
but the first may be empty or missing. Delay, timeout and collectables hold for
the fallback too, and fields beyond the seventh are ignored.
-/

namespace ModemScript

/-- Why a line is no command. -/
inductive CommandError where
  | missing
  | badDelay
  | badTimeout
  | badCollectables (cause : CollectableList.Error)
  /-- A text is no pattern, and why. -/
  | badPattern (text cause : String)
  deriving DecidableEq, Repr

def CommandError.message : CommandError → String
  | missing => "Missing command"
  | badDelay => "Delay is not a number"
  | badTimeout => "Timeout is not a number"
  | badCollectables cause => cause.message
  | badPattern text cause => "Invalid expected response '" ++ text ++ "': " ++ cause

namespace Command

/-- What stands between fields. -/
def separator : List Char := [';', ';']

/-- A field that must be a number unless it is empty or missing. -/
def number? (field : Option (List Char)) (e : CommandError) : Except CommandError (Option Int) :=
  match field with
  | none => .ok none
  | some s =>
    match Numeral.word? 64 (Text.trim s) with
    | some n => .ok (some n)
    | none => .error e

def collectables? (field : Option (List Char)) : Except CommandError (Option (List String)) :=
  match field with
  | none => .ok none
  | some s =>
    match CollectableList.parse s with
    | .ok specs => .ok (some specs)
    | .error e => .error (.badCollectables e)

def pattern? (d : Dialect) (field : Option (List Char)) : Except CommandError (Option String) :=
  match field with
  | none => .ok none
  | some s =>
    let text := String.ofList s
    match d.compile text with
    | .ok _ => .ok (some text)
    | .error cause => .error (.badPattern text cause)

/-- A request of a command line. -/
def requestOf (text : List Char) (expected : Option String) (delay timeout : Option Int)
    (collectables : Option (List String)) : Request :=
  let r := (Request.new (String.ofList text) expected).withDelay (delay.getD 0)
  let r := r.withCollectables collectables
  timeout.elim r r.withTimeout

/-- The command of a line. Of several faults the first counts, in the order of the fields,
except that both patterns come last. -/
def parse (d : Dialect) (line : List Char) : Except CommandError Command := do
  let fields := Text.fields separator line
  let field (i : Nat) := fields[i]?.filter (!·.isEmpty)
  let text := fields.headD []
  if (Text.trim text).isEmpty then throw .missing
  let delay ← number? (field 2) .badDelay
  let timeout ← number? (field 3) .badTimeout
  let collectables ← collectables? (field 4)
  let expected ← pattern? d (field 1)
  let fallbackExpected ← pattern? d (field 6)
  let fallbacks := (field 5).toList.map fun text =>
    requestOf text fallbackExpected delay timeout collectables
  return ofRequest (requestOf text expected delay timeout collectables) fallbacks

end Command

end ModemScript
