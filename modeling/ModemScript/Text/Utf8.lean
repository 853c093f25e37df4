/-!
# Reading UTF-8

Bytes from outside need not be UTF-8. They are read by a machine that holds at
most one character whose bytes are not complete (`step`). Two readers run it. One
never fails (`decode`): a character that is cut short becomes one replacement
character, as does a byte that can begin none, and reading goes on with the byte
that did not fit. The other stops at the first such place and tells where it is
(`fault?`).
-/

namespace ModemScript.Utf8

/-- A character that has begun: how many bytes of it have been read and how many are to
come, the limits of the next one, and the number that the bytes so far make. -/
structure Unfinished where
  seen : Nat
  missing : Nat
  low : Nat
  high : Nat
  value : Nat

/-- What a byte comes to. -/
inductive Outcome where
  | char (c : Char)
  | unfinished (u : Unfinished)
  | invalid

/-- A byte at the beginning of a character. The limits of the second byte shut out longer
forms than necessary, surrogates, and numbers beyond the last character. -/
def first (b : UInt8) : Outcome :=
  let n := b.toNat
  let more (missing low high bits : Nat) : Outcome :=
    .unfinished ⟨1, missing, low, high, n % 1 <<< bits⟩
  if n < 0x80 then .char (Char.ofNat n)
  else if n < 0xC2 then .invalid
  else if n < 0xE0 then more 1 0x80 0xBF 5
  else if n == 0xE0 then more 2 0xA0 0xBF 4
  else if n == 0xED then more 2 0x80 0x9F 4
  else if n < 0xF0 then more 2 0x80 0xBF 4
  else if n == 0xF0 then more 3 0x90 0xBF 3
  else if n < 0xF4 then more 3 0x80 0xBF 3
  else if n == 0xF4 then more 3 0x80 0x8F 3
  else .invalid

/-- A further byte of a character. -/
def next (u : Unfinished) (b : UInt8) : Outcome :=
  let n := b.toNat
  if u.low ≤ n && n ≤ u.high then
    let value := 64 * u.value + n % 64
    if u.missing ≤ 1 then .char (Char.ofNat value)
    else .unfinished ⟨u.seen + 1, u.missing - 1, 0x80, 0xBF, value⟩
  else .invalid

/-- What stands for bytes that are no character. -/
def replacement : Char := '\uFFFD'

/-- The characters that are complete or given up with the byte `b`, and the character that
is unfinished after it. -/
def step (state : Option Unfinished) (b : UInt8) : List Char × Option Unfinished :=
  let start : List Char × Option Unfinished :=
    match first b with
    | .char c => ([c], none)
    | .unfinished u => ([], some u)
    | .invalid => ([replacement], none)
  match state with
  | none => start
  | some u =>
    match next u b with
    | .char c => ([c], none)
    | .unfinished u => ([], some u)
    | .invalid => (replacement :: start.1, start.2)

/-- The characters of bytes, with a replacement for whatever is none. -/
def decodeFrom (state : Option Unfinished) : List UInt8 → List Char
  | [] => if state.isSome then [replacement] else []
  | b :: bytes =>
    let (chars, state) := step state b
    chars ++ decodeFrom state bytes

def decode (bytes : List UInt8) : String := String.ofList (decodeFrom none bytes)

/-- The first place where bytes are not UTF-8. -/
inductive Fault where
  /-- The `length` bytes from `index` on begin no character. -/
  | invalid (length index : Nat)
  /-- The bytes end within the character that begins at `index`. -/
  | incomplete (index : Nat)
  deriving DecidableEq, Repr

def Fault.message : Fault → String
  | invalid length index =>
    "invalid utf-8 sequence of " ++ toString length ++ " bytes from index " ++ toString index
  | incomplete index => "incomplete utf-8 byte sequence from index " ++ toString index

/-- The first fault of bytes, the next of which has the index `index`. -/
def faultFrom? (state : Option Unfinished) (index : Nat) : List UInt8 → Option Fault
  | [] => state.map fun u => .incomplete (index - u.seen)
  | b :: bytes =>
    match state with
    | none =>
      match first b with
      | .char _ => faultFrom? none (index + 1) bytes
      | .unfinished u => faultFrom? (some u) (index + 1) bytes
      | .invalid => some (.invalid 1 index)
    | some u =>
      match next u b with
      | .char _ => faultFrom? none (index + 1) bytes
      | .unfinished u => faultFrom? (some u) (index + 1) bytes
      | .invalid => some (.invalid u.seen (index - u.seen))

def fault? (bytes : List UInt8) : Option Fault := faultFrom? none 0 bytes

/-- The text that bytes write, if they are UTF-8. -/
def decode? (bytes : List UInt8) : Option String :=
  if (fault? bytes).isNone then some (decode bytes) else none

/-- The bytes of a text. -/
def encode (s : String) : List UInt8 := s.toUTF8.toList

end ModemScript.Utf8
