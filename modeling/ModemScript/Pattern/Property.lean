import ModemScript.Text.Cut
import ModemScript.Unicode.Category
import ModemScript.Unicode.Property
import ModemScript.Unicode.Script

/-!
# Named properties in patterns

What may stand between the braces of `\p{…}`: a general category or a group of
them, a binary property, a script, or one of the properties `gc`, `sc` and `scx`
with a value. Names are compared loosely, as the character database asks: case,
blanks, hyphens and underscores do not count, nor does a leading `is`.
-/

namespace ModemScript.Pattern

open ModemScript.Unicode

/-- A set of characters that has a name. -/
inductive Property where
  | any
  | ascii
  | assigned
  | casedLetter
  | category (c : Category)
  /-- The categories whose code begins with this letter. -/
  | group (letter : Char)
  | binary (p : BinaryProperty)
  | script (s : Script)
  | scriptExtensions (s : Script)

namespace Property

def contains : Property → Char → Bool
  | any, _ => true
  | ascii, c => c.toNat < 0x80
  | assigned, c => Category.ofChar c != .unassigned
  | casedLetter, c =>
    [Category.uppercaseLetter, .lowercaseLetter, .titlecaseLetter].contains (Category.ofChar c)
  | category k, c => Category.ofChar c == k
  | group g, c => (Category.ofChar c).group == g
  | binary p, c => p.contains c
  | script s, c => s.contains c
  | scriptExtensions s, c => s.extended.contains c

/-- The form in which names are compared. The abbreviation `isc` names a property and is
not the category `C` after a leading `is`. -/
def looseName (name : List Char) : List Char :=
  let squeeze (s : List Char) :=
    (s.filter fun c => c.toNat < 0x80 && !(c == ' ' || c == '_' || c == '-')).map Char.toLower
  match name with
  | i :: s :: rest =>
    if i.toLower == 'i' && s.toLower == 's' then
      let short := squeeze rest
      if short == ['c'] then ['i', 's', 'c'] else short
    else squeeze name
  | _ => squeeze name

/-- Whether one of `names` is this name. -/
def isNamed (names : List String) (loose : List Char) : Bool :=
  names.any fun n => looseName n.toList == loose

/-- The groups of categories with the names they have besides their letter. -/
def groups : List (Char × List String) :=
  [('C', ["Other"]), ('L', ["Letter"]), ('M', ["Mark", "Combining_Mark"]), ('N', ["Number"]),
    ('P', ["Punctuation", "punct"]), ('S', ["Symbol"]), ('Z', ["Separator"])]

/-- The names of a category beside its code and its long name. -/
def otherNames : Category → List String
  | .control => ["cntrl"]
  | .decimalNumber => ["digit"]
  | _ => []

/-- A general category, or a group of them. No character is a surrogate, and there is no
way to ask for one. -/
def ofCategoryName? (loose : List Char) : Option Property :=
  if loose == "any".toList then some any
  else if loose == "assigned".toList then some assigned
  else if loose == "ascii".toList then some ascii
  else if isNamed ["LC", "Cased_Letter"] loose then some casedLetter
  else
    match groups.find? fun (g, names) => isNamed (String.ofList [g] :: names) loose with
    | some (g, _) => some (group g)
    | none =>
      (Category.all.find? fun c =>
        c != .surrogate && isNamed (c.code :: c.longName :: otherNames c) loose).map category

def script? (loose : List Char) : Option Script :=
  Script.all.find? fun s => isNamed (s.code :: s.names) loose

/-- Properties that have values of their own, so their names alone are no set. -/
def valued : List String :=
  ["age", "gc", "General_Category", "Script", "scx", "Script_Extensions", "gcb",
    "Grapheme_Cluster_Break", "wb", "Word_Break", "sb", "Sentence_Break"]

/-- The set of a name that stands alone: a binary property, else a category, else a
script. -/
def ofName? (name : List Char) : Option Property :=
  let loose := looseName name
  if isNamed valued loose then none
  else
    match BinaryProperty.all.find? fun p => isNamed (p.name :: p.aliases) loose with
    | some p => some (binary p)
    | none => ofCategoryName? loose <|> (script? loose).map script

/-- The set of the characters that have a value for a property. -/
def ofNameValue? (name value : List Char) : Option Property :=
  let loose := looseName name
  if isNamed ["gc", "General_Category"] loose then ofCategoryName? (looseName value)
  else if isNamed ["sc", "Script"] loose then (script? (looseName value)).map script
  else if isNamed ["scx", "Script_Extensions"] loose then
    (script? (looseName value)).map scriptExtensions
  else none

/-- What stands between the braces, and whether it asks for the complement: `name`,
`name=value`, `name:value`, or `name!=value` for the complement. -/
def parse? (s : List Char) : Option (Property × Bool) :=
  match Text.cut? ['!', '='] s with
  | some (name, value) => (ofNameValue? name value).map (·, true)
  | none =>
    match Text.cut? [':'] s <|> Text.cut? ['='] s with
    | some (name, value) => (ofNameValue? name value).map (·, false)
    | none => (ofName? s).map (·, false)

end Property

end ModemScript.Pattern
