import ModemScript.Pattern.Basic

/-!
# Whether a subject holds a match

The test works on sets of positions. Started from a set, a pattern reaches the
set of all positions at which a match that began in the first set can end; a
subject holds a match when something is reached from the set of all positions. A
loop takes a set to a fixed point, which it meets after at most as many rounds
as there are positions, so the time does not depend on how many ways there are
to match. The order of preference among matches has no say here.

A set of positions is a number: bit `i` stands for the position before the
character with index `i`.
-/

namespace ModemScript.Pattern

/-- A pattern on one subject: each class is the set of positions before a character of the
class, and each anchor the set of positions at which it holds. -/
inductive Flow where
  | stay
  | step (chars : Nat)
  | keep (positions : Nat)
  | seq (p q : Flow)
  | alt (p q : Flow)
  | loop (p : Flow) (min : Nat) (max : Option Nat)

namespace Flow

/-- The positions before the characters that satisfy `p`. -/
def positions (p : Char → Bool) : List Char → Nat
  | [] => 0
  | c :: s => (if p c then 1 else 0) + 2 * positions p s

/-- The positions that satisfy `p`, which is told the characters before and after. -/
def between (p : Option Char → Option Char → Bool) (before : Option Char) : List Char → Nat
  | [] => if p before none then 1 else 0
  | c :: s => (if p before (some c) then 1 else 0) + 2 * between p (some c) s

/-- `f` applied `n` times, which is over when nothing changes. -/
def iterate (f : Nat → Nat) : Nat → Nat → Nat
  | 0, set => set
  | n + 1, set =>
    let further := f set
    if further == set then set else iterate f n further

/-- What at most `n` applications of `f` add, which is over when nothing is added. -/
def closure (f : Nat → Nat) : Nat → Nat → Nat
  | 0, set => set
  | n + 1, set =>
    let more := set ||| f set
    if more == set then set else closure f n more

/-- The positions at which a match can end that begins in `set`, in a subject with `size`
positions. -/
def reach (size : Nat) : Flow → Nat → Nat
  | stay, set => set
  | step chars, set => 2 * (set &&& chars)
  | keep positions, set => set &&& positions
  | seq p q, set => reach size q (reach size p set)
  | alt p q, set => reach size p set ||| reach size q set
  | loop p min max, set =>
    let rounds := match max with
      | none => size
      | some m => Nat.min (m - min) size
    closure (reach size p) rounds (iterate (reach size p) min set)

end Flow

/-- The pattern on the subject `s`. -/
def flow (s : List Char) : Pattern → Flow
  | empty => .stay
  | char c => .step (Flow.positions c.contains s)
  | anchor a => .keep (Flow.between a.holds none s)
  | seq p q => .seq (flow s p) (flow s q)
  | alt p q => .alt (flow s p) (flow s q)
  | loop p min max _ => .loop (flow s p) min max

/-- Whether the pattern matches somewhere in the subject. -/
def isMatch (p : Pattern) (s : List Char) : Bool :=
  let size := s.length + 1
  (p.flow s).reach size (1 <<< size - 1) != 0

end ModemScript.Pattern
