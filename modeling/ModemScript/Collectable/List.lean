import ModemScript.Text.Blank

/-!
# Lists of collectables

A command lists its collectables in brackets: quoted texts with commas between
them, blanks anywhere around, and one more comma at the end if there is a text
before it. Either quote serves, and a backslash escapes: it makes a line feed
from `n` and a tab from `t`, gives quotes and the backslash for themselves, and
before any other character stays as it is.
-/

namespace ModemScript.CollectableList

/-- Why a field is no list of collectables. -/
inductive Error where
  | noBrackets
  | noQuote
  | unterminated
  | noComma
  deriving DecidableEq, Repr

def Error.message (e : Error) : String :=
  "Collectables has invalid syntax: " ++
    match e with
    | noBrackets => "expected a [..] list"
    | noQuote => "expected a quoted string"
    | unterminated => "unterminated string"
    | noComma => "expected ','"

/-- What a backslash and the character after it stand for. -/
def unescape : Char → List Char
  | '\\' => ['\\']
  | '"' => ['"']
  | '\'' => ['\'']
  | 'n' => ['\n']
  | 't' => ['\t']
  | c => ['\\', c]

/-- The text up to the closing quote, and what follows it. -/
def quoted? (quote : Char) : List Char → Option (List Char × List Char)
  | [] => none
  | '\\' :: [] => none
  | '\\' :: c :: s => (quoted? quote s).map fun (text, rest) => (unescape c ++ text, rest)
  | c :: s =>
    if c = quote then some ([], s)
    else (quoted? quote s).map fun (text, rest) => (c :: text, rest)

theorem length_lt_of_quoted? {quote : Char} {s text rest : List Char}
    (h : quoted? quote s = some (text, rest)) : rest.length < s.length := by
  fun_induction quoted? quote s generalizing text with
  | case1 => simp at h
  | case2 => simp at h
  | case3 c s ih =>
    obtain ⟨⟨t, r⟩, ht, he⟩ := Option.map_eq_some_iff.1 h
    cases he
    have := ih ht
    simp only [List.length_cons]
    omega
  | case4 =>
    cases h
    simp
  | case5 _ _ _ _ _ ih =>
    obtain ⟨⟨t, r⟩, ht, he⟩ := Option.map_eq_some_iff.1 h
    cases he
    have := ih ht
    simp only [List.length_cons]
    omega

theorem length_trimStart_le (s : List Char) : (Text.trimStart s).length ≤ s.length :=
  (List.dropWhile_suffix _).length_le

/-- The texts between the brackets. -/
def items (s : List Char) : Except Error (List (List Char)) :=
  match _ : Text.trimStart s with
  | [] => .ok []
  | quote :: s =>
    if quote = '"' ∨ quote = '\'' then
      match _ : quoted? quote s with
      | none => .error .unterminated
      | some (item, rest) =>
        match _ : Text.trimStart rest with
        | [] => .ok [item]
        | ',' :: rest => (items rest).map (item :: ·)
        | _ :: _ => .error .noComma
    else .error .noQuote
termination_by s.length
decreasing_by
  rename_i s₀ hs _ rest₀ hq hr
  have h₁ := length_trimStart_le s₀
  have h₂ := length_trimStart_le rest₀
  have h₃ := length_lt_of_quoted? hq
  rw [hs] at h₁
  rw [hr] at h₂
  simp only [List.length_cons] at h₁ h₂
  omega

/-- What stands between the brackets of a field. -/
def inner? (field : List Char) : Option (List Char) :=
  match Text.trim field with
  | '[' :: s => if s.getLast? = some ']' then some s.dropLast else none
  | _ => none

/-- The texts of a field. -/
def parse (field : List Char) : Except Error (List String) :=
  match inner? field with
  | none => .error .noBrackets
  | some s => (items s).map (·.map String.ofList)

end ModemScript.CollectableList
