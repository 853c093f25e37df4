import ModemScript.Value

/-!
# Variable stores

A finite map from names to values, in the order in which the names were first
written. A later write to a name replaces its value where it stands.
-/

namespace ModemScript

/-- The variables of a session, or the values collected from one reply. -/
structure Store where
  entries : List (String × Value)
  deriving DecidableEq, Repr, Inhabited

namespace Store

def empty : Store := ⟨[]⟩

/-- The value beside the first entry of a name. -/
def find? (key : String) : List (String × Value) → Option Value
  | [] => none
  | (k, v) :: rest => if key = k then some v else find? key rest

def get? (s : Store) (key : String) : Option Value := find? key s.entries

/-- The entries with the value of `key` replaced, or added at the end. -/
def put (key : String) (value : Value) : List (String × Value) → List (String × Value)
  | [] => [(key, value)]
  | (k, v) :: rest => if key = k then (key, value) :: rest else (k, v) :: put key value rest

def insert (s : Store) (key : String) (value : Value) : Store := ⟨put key value s.entries⟩

/-- What a reference to `key` stands for: nothing where the variable is not set. -/
def display (s : Store) (key : String) : String := ((s.get? key).map Value.display).getD ""

@[simp] theorem get?_empty (key : String) : empty.get? key = none := rfl

theorem get?_insert (s : Store) (key k : String) (value : Value) :
    (s.insert key value).get? k = if k = key then some value else s.get? k := by
  obtain ⟨entries⟩ := s
  simp only [get?, insert]
  induction entries with
  | nil => simp [put, find?]
  | cons e rest ih =>
    obtain ⟨k', v⟩ := e
    by_cases hk : key = k'
    · subst hk
      by_cases h : k = key <;> simp [put, find?, h]
    · by_cases h : k = k'
      · subst h
        simp [put, find?, hk, Ne.symm hk]
      · simp [put, find?, hk, h, ih]

end Store

end ModemScript
