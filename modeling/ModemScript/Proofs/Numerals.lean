import ModemScript.Proofs.Cuts
import ModemScript.Text.Numeral

/-!
# Numbers are read as they are written

A numeral is digits behind a sign or none, and its value is that of the digits with the sign applied
to it (`digits?_eq_some_iff`, `signed?_append`).

A number is written in decimal digits, with a minus sign if it is negative. Among the
many numerals of a number that can be read this is one (`signed?_toString`), and
it has no blanks around it (`visible_toString`). Limits are those of the number and not of
its numerals: one that has been read is within them, so that it can be read again.
-/

namespace ModemScript.Numeral

theorem extend?_of_isDigit {s : List Char} (hs : ∀ c ∈ s, c.isDigit = true) :
    ∀ acc : Nat, extend? acc s = some (Nat.ofDigitChars 10 s acc) := by
  induction s with
  | nil => exact fun acc => rfl
  | cons c s ih =>
      intro acc
      have hc : c.isDigit = true := hs c List.mem_cons_self
      rw [extend?, digit?, if_pos hc, Option.bind_some,
        ih (fun c' hc' => hs c' (List.mem_cons_of_mem c hc'))]
      rfl

theorem isDigit_of_extend? {s : List Char} {acc n : Nat} (h : extend? acc s = some n) :
    ∀ c ∈ s, c.isDigit = true := by
  induction s generalizing acc with
  | nil => exact fun c hc => absurd hc List.not_mem_nil
  | cons c s ih =>
      obtain ⟨d, hd, hs⟩ := Option.bind_eq_some_iff.1 h
      have hc : c.isDigit = true := by
        by_contra hnot
        rw [digit?, if_neg hnot] at hd
        cases hd
      exact List.forall_mem_cons.2 ⟨hc, ih hs⟩

theorem digits?_eq_some_iff {s : List Char} {n : Nat} :
    digits? s = some n ↔
      s ≠ [] ∧ (∀ c ∈ s, c.isDigit = true) ∧ Nat.ofDigitChars 10 s 0 = n := by
  cases s with
  | nil => exact ⟨nofun, fun h => absurd rfl h.1⟩
  | cons c s =>
      have hextend : digits? (c :: s) = extend? 0 (c :: s) := rfl
      rw [hextend]
      constructor
      · intro h
        have hdigits := isDigit_of_extend? h
        rw [extend?_of_isDigit hdigits] at h
        exact ⟨List.cons_ne_nil c s, hdigits, Option.some.inj h⟩
      · rintro ⟨-, hdigits, rfl⟩
        exact extend?_of_isDigit hdigits 0

theorem isDigit_of_mem_toDigits (n : Nat) : ∀ c ∈ Nat.toDigits 10 n, c.isDigit = true :=
  fun _ hc => Nat.isDigit_of_mem_toDigits (by decide) (by decide) hc

theorem digits?_toDigits (n : Nat) : digits? (Nat.toDigits 10 n) = some n :=
  digits?_eq_some_iff.2
    ⟨Nat.toDigits_ne_nil, isDigit_of_mem_toDigits n, Nat.ofDigitChars_ten_toDigits⟩

/-! ## Signs -/

/-- What may stand before the digits. -/
inductive Sign where
  | bare
  | plus
  | minus
  deriving DecidableEq, Repr

namespace Sign

def text : Sign → List Char
  | .bare => []
  | .plus => ['+']
  | .minus => ['-']

def apply : Sign → Nat → Int
  | .minus, n => -n
  | _, n => n

end Sign

/-- A digit is no sign. -/
theorem unsigned?_of_isDigit {s : List Char} (hs : ∀ c ∈ s, c.isDigit = true) :
    unsigned? s = digits? s := by
  unfold unsigned?
  split
  · exact absurd (hs '+' List.mem_cons_self) (by decide)
  · rfl

theorem signed?_append {s : List Char} (hs : ∀ c ∈ s, c.isDigit = true) (sign : Sign) :
    signed? (sign.text ++ s) = (digits? s).map sign.apply := by
  cases sign with
  | minus => cases h : digits? s <;> simp [Sign.text, signed?, h, Sign.apply]
  | plus => cases h : digits? s <;> simp [Sign.text, signed?, unsigned?, h, Sign.apply]
  | bare =>
      rw [Sign.text, List.nil_append]
      unfold signed?
      split
      · exact absurd (hs '-' List.mem_cons_self) (by decide)
      · rw [unsigned?_of_isDigit hs]
        cases digits? s <;> rfl

theorem unsigned?_toString (n : Nat) : unsigned? (toString n).toList = some n := by
  rw [Nat.toString_eq_ofList_toDigits, String.toList_ofList,
    unsigned?_of_isDigit (isDigit_of_mem_toDigits n), digits?_toDigits]

theorem toList_toString_natCast (n : Nat) : (toString (n : Int)).toList = Nat.toDigits 10 n :=
  Nat.toList_repr

theorem toList_toString_neg {n : Nat} (hn : 0 < n) :
    (toString (-(n : Int))).toList = '-' :: Nat.toDigits 10 n := by
  cases n with
  | zero => exact absurd hn (Nat.lt_irrefl 0)
  | succ n =>
      show ("-" ++ Nat.repr (n + 1)).toList = _
      rw [String.toList_append, Nat.toList_repr]
      rfl

theorem signed?_toString (n : Int) : signed? (toString n).toList = some n := by
  have hsign (sign : Sign) (n : Nat) :
      signed? (sign.text ++ Nat.toDigits 10 n) = some (sign.apply n) := by
    rw [signed?_append (isDigit_of_mem_toDigits n), digits?_toDigits]
    rfl
  cases n with
  | ofNat n => exact (congrArg signed? (toList_toString_natCast n)).trans (hsign .bare n)
  | negSucc n =>
      have htext := toList_toString_neg (Nat.succ_pos n)
      exact (congrArg signed? htext).trans (hsign .minus (n + 1))

theorem isBlank_of_isDigit {c : Char} (h : c.isDigit = true) : Text.isBlank c = false := by
  obtain ⟨hlow, hhigh⟩ := Char.isDigit_iff_toNat.1 h
  have hlow : 48 ≤ c.toNat := hlow
  have hhigh : c.toNat ≤ 57 := hhigh
  simp only [Text.isBlank, Bool.or_eq_false_iff, Bool.and_eq_false_iff, decide_eq_false_iff_not,
    beq_eq_false_iff_ne]
  omega

theorem visible_toString (n : Nat) : Text.Visible (toString n).toList := by
  rw [Nat.toString_eq_ofList_toDigits, String.toList_ofList]
  exact .of_forall Nat.toDigits_ne_nil fun c hc => isBlank_of_isDigit (isDigit_of_mem_toDigits n c hc)

theorem visible_toString_int (n : Int) : Text.Visible (toString n).toList := by
  cases n with
  | ofNat n => exact visible_toString n
  | negSucc n =>
      obtain ⟨hne, -, hlast⟩ := visible_toString (n + 1)
      show Text.Visible ("-" ++ toString (n + 1)).toList
      rw [String.toList_append]
      exact .of_append (List.cons_ne_nil '-' []) hne rfl hlast

theorem below?_toString {limit n : Nat} {s : List Char} (h : below? limit s = some n) :
    below? limit (toString n).toList = some n :=
  Option.filter_eq_some_iff.2 ⟨unsigned?_toString n, (Option.filter_eq_some_iff.1 h).2⟩

theorem word?_toString {bits : Nat} {n : Int} {s : List Char} (h : word? bits s = some n) :
    word? bits (toString n).toList = some n :=
  Option.filter_eq_some_iff.2 ⟨signed?_toString n, (Option.filter_eq_some_iff.1 h).2⟩

end ModemScript.Numeral
