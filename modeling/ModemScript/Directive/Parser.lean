import ModemScript.Directive
import ModemScript.Text.Blank
import ModemScript.Text.Cut
import ModemScript.Text.Numeral

/-!
# Reading directives

A directive is read from its keyword and the rest of its line, the payload.
Blanks around the payload do not count, and no payload is the same as an empty
one. Each keyword has its own form of payload; what does not have that form is no
directive.
-/

namespace ModemScript

/-- Why a keyword and what follows it are no directive. -/
inductive DirectiveError where
  | unknownKeyword (word : String)
  | badPayload
  deriving DecidableEq, Repr

def DirectiveError.message : DirectiveError → String
  | unknownKeyword word => "Unknown keyword: " ++ word
  | badPayload => "Invalid attributes"

namespace Directive

/-- A switch: `true` or `false` in any mixture of cases. No letter outside ASCII has
one of these words' letters as its lower-case form, so lowering the ASCII
capitals decides it. -/
def switch? (s : List Char) : Option Bool :=
  match String.ofList (s.map Char.toLower) with
  | "true" => some true
  | "false" => some false
  | _ => none

/-- The two sides of the only equals sign, either of which may be empty. -/
def assignment? (s : List Char) : Option Directive :=
  match Text.fields ['='] s with
  | [key, value] => some (set (String.ofList key) (String.ofList value))
  | _ => none

/-- A path up to the first blank, then the text that follows the blanks. -/
def writing? (s : List Char) : Option Directive :=
  match Text.cutWhere Text.isBlank s with
  | (path, some rest) =>
    match Text.trimStart rest with
    | [] => none
    | content => some (write (String.ofList path) (String.ofList content))
  | (_, none) => none

/-- The directive of a keyword with a payload that is neither empty nor has blanks around
it. -/
def ofPayload? (k : Keyword) (s : List Char) : Option Directive :=
  let text := String.ofList s
  match k with
  | .device => some (device text)
  | .baudRate => (Numeral.below? UInt32.size s).map baudRate
  | .timeout => (Numeral.word? 64 s).map timeout
  | .lineBreak => (Terminator.ofName? text).map lineBreak
  | .abortOnFailure => (switch? s).map abortOnFailure
  | .set => assignment? s
  | .environment => some (environment text)
  | .print => some (print text)
  | .exec => some (exec text)
  | .dsrDtr => (switch? s).map dsrDtr
  | .rtsCts => (switch? s).map rtsCts
  | .write => writing? s

/-- The directive of a word and what stands after it. -/
def parse (word : String) (rest : Option (List Char)) : Except DirectiveError Directive :=
  match Keyword.ofWord? word with
  | none => .error (.unknownKeyword word)
  | some k =>
    match Text.trim (rest.getD []) with
    | [] => .error .badPayload
    | s => (ofPayload? k s).elim (.error .badPayload) .ok

end Directive

end ModemScript
