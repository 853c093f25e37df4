/-!
# Reading numbers

A numeral is an optional sign and one or more ASCII digits, with nothing around
them and nothing between them. Leading zeros are allowed, and so is a plus sign;
a minus sign only where the number may be negative at all, so that `-0` is a
signed numeral and not an unsigned one. A value beyond the given limits is no
number of that kind.
-/

namespace ModemScript.Numeral

/-- The value of an ASCII digit. -/
def digit? (c : Char) : Option Nat :=
  if c.isDigit then some (c.toNat - '0'.toNat) else none

/-- The number that `digits` continues when `acc` stands before them. -/
def extend? (acc : Nat) : List Char → Option Nat
  | [] => some acc
  | c :: s => (digit? c).bind fun d => extend? (10 * acc + d) s

/-- One or more digits. -/
def digits? : List Char → Option Nat
  | [] => none
  | s => extend? 0 s

/-- Digits with a plus sign or none. -/
def unsigned? : List Char → Option Nat
  | '+' :: s => digits? s
  | s => digits? s

/-- Digits with either sign or none. -/
def signed? : List Char → Option Int
  | '-' :: s => (digits? s).map fun n => -(n : Int)
  | s => (unsigned? s).map fun n => (n : Int)

/-- An unsigned number below `limit`. -/
def below? (limit : Nat) (s : List Char) : Option Nat :=
  (unsigned? s).filter (· < limit)

/-- A signed number that fits `bits` bits in two's complement. -/
def word? (bits : Nat) (s : List Char) : Option Int :=
  let limit : Int := (1 <<< (bits - 1) : Nat)
  (signed? s).filter fun n => -limit ≤ n && n < limit

end ModemScript.Numeral
