import Mathlib.Algebra.Ring.Int.Defs
import Mathlib.Data.Nat.Cast.Basic
import ModemScript.Proofs.Numerals
import ModemScript.Value

/-!
# The ways to write a number

A number can be written in many ways: with blanks around it, with a sign that says nothing, and with
zeros before its first digit (`Numeral.Spelling`). A text that spells a number within the range is
read as that number, and every other text is left alone (`Value.number?_eq_some_iff`).

A value is written out again when it is referred to, and for a number that is one of its spellings
(`Numeral.exists_canonical`): the only one with nothing that could be left out
(`Numeral.Spelling.Canonical.text_eq`). So what is read from that is the same number, but the text
comes back as it was only if it spells no number or is such a spelling (`Value.coerce_by_spelling`).
-/

namespace ModemScript

namespace Numeral

variable {s : List Char} {n : Nat} {i : Int}

/-! ## Digits -/

theorem toNat_sub_lt_ten {c : Char} (h : c.isDigit = true) : c.toNat - '0'.toNat < 10 := by
  have hhigh : c.toNat ≤ 57 := (Char.isDigit_iff_toNat.1 h).2
  have hzero : '0'.toNat = 48 := rfl
  omega

theorem digitChar_of_isDigit {c : Char} (h : c.isDigit = true) :
    (c.toNat - '0'.toNat).digitChar = c := by
  have hlow : 48 ≤ c.toNat := (Char.isDigit_iff_toNat.1 h).1
  have hzero : '0'.toNat = 48 := rfl
  refine Char.toNat_inj.1 ?_
  rw [Nat.toNat_digitChar_of_lt_ten (toNat_sub_lt_ten h)]
  omega

/-- Digits behind a number that is not zero are written as they are. -/
theorem toDigits_ofDigitChars (hs : ∀ c ∈ s, c.isDigit = true) :
    ∀ {acc : Nat}, 0 < acc →
      Nat.toDigits 10 (Nat.ofDigitChars 10 s acc) = Nat.toDigits 10 acc ++ s := by
  induction s with
  | nil => exact fun _ => (List.append_nil _).symm
  | cons c s ih =>
      intro acc hacc
      obtain ⟨hdigit, hrest⟩ := List.forall_mem_cons.1 hs
      have hlt := toNat_sub_lt_ten hdigit
      rw [Nat.ofDigitChars_cons, ih hrest (by omega),
        ← Nat.toDigits_append_toDigits (by decide) hacc hlt, Nat.toDigits_of_lt_base hlt,
        digitChar_of_isDigit hdigit, List.append_assoc, List.singleton_append]

/-- Digits that do not begin with a zero are those of their number. -/
theorem toDigits_of_ne_zero {c : Char} (hs : ∀ d ∈ c :: s, d.isDigit = true) (hc : c ≠ '0') :
    Nat.toDigits 10 (Nat.ofDigitChars 10 (c :: s) 0) = c :: s := by
  obtain ⟨hdigit, hrest⟩ := List.forall_mem_cons.1 hs
  have hlt := toNat_sub_lt_ten hdigit
  have hpos : 0 < c.toNat - '0'.toNat := by
    refine Nat.pos_of_ne_zero fun hzero => hc ?_
    rw [← digitChar_of_isDigit hdigit, hzero]
    rfl
  rw [Nat.ofDigitChars_cons, Nat.mul_zero, Nat.zero_add, toDigits_ofDigitChars hrest hpos,
    Nat.toDigits_of_lt_base hlt, digitChar_of_isDigit hdigit, List.singleton_append]

theorem head?_toDigits_ne_zero (hn : 0 < n) : (Nat.toDigits 10 n).head? ≠ some '0' := by
  induction n using Nat.strongRecOn with
  | ind n ih =>
      rcases Nat.lt_or_ge n 10 with hlt | hge
      · rw [Nat.toDigits_of_lt_base hlt, List.head?_cons]
        intro h
        have := Nat.digitChar_eq_zero.1 (Option.some.inj h)
        omega
      · rw [Nat.toDigits_of_base_le (by decide) hge,
          List.head?_append_of_ne_nil _ Nat.toDigits_ne_nil]
        exact ih (n / 10) (by omega) (by omega)

/-! ## Spellings -/

theorem Sign.isBlank_of_mem_text (sign : Sign) : ∀ c ∈ sign.text, Text.isBlank c = false := by
  cases sign with
  | bare => exact nofun
  | plus => exact List.forall_mem_singleton.2 rfl
  | minus => exact List.forall_mem_singleton.2 rfl

/-- One of the ways to write a whole number. -/
structure Spelling where
  before : List Char
  sign : Sign
  digits : List Char
  after : List Char
  blank_before : Text.Blank before
  digits_ne_nil : digits ≠ []
  isDigit : ∀ c ∈ digits, c.isDigit = true
  blank_after : Text.Blank after

namespace Spelling

def text (w : Spelling) : List Char := w.before ++ (w.sign.text ++ w.digits) ++ w.after

def value (w : Spelling) : Int := w.sign.apply (Nat.ofDigitChars 10 w.digits 0)

/-- There are no blanks, no plus sign, no zeros before the first digit and no negative zero. -/
structure Canonical (w : Spelling) : Prop where
  before : w.before = []
  after : w.after = []
  no_plus : w.sign ≠ .plus
  no_leading_zeros : ∀ s, w.digits = '0' :: s → s = []
  no_negative_zero : w.sign = .minus → w.digits ≠ ['0']

end Spelling

theorem exists_of_signed? (h : signed? s = some i) :
    ∃ (sign : Sign) (digits : List Char),
      s = sign.text ++ digits ∧ (digits? digits).map sign.apply = some i := by
  unfold signed? at h
  split at h
  · next digits =>
      refine ⟨.minus, digits, rfl, h ▸ ?_⟩
      cases digits? digits <;> rfl
  · unfold unsigned? at h
    split at h
    · next digits _ =>
        refine ⟨.plus, digits, rfl, h ▸ ?_⟩
        cases digits? digits <;> rfl
    · refine ⟨.bare, s, rfl, h ▸ ?_⟩
      cases digits? s <;> rfl

theorem word?_eq_some_iff {bits : Nat} :
    word? bits s = some i ↔
      signed? s = some i ∧ -2 ^ (bits - 1) ≤ i ∧ i ≤ 2 ^ (bits - 1) - 1 := by
  rw [word?, Option.filter_eq_some_iff]
  simp only [Nat.one_shiftLeft, Bool.and_eq_true, decide_eq_true_eq, Nat.cast_pow, Nat.cast_ofNat]
  rw [Int.le_sub_one_iff]

namespace Spelling

theorem visible (w : Spelling) : Text.Visible (w.sign.text ++ w.digits) := by
  refine .of_forall (List.append_ne_nil_of_right_ne_nil _ w.digits_ne_nil) fun c hc => ?_
  rcases List.mem_append.1 hc with hc | hc
  · exact w.sign.isBlank_of_mem_text c hc
  · exact isBlank_of_isDigit (w.isDigit c hc)

theorem signed?_trim_text (w : Spelling) : signed? (Text.trim w.text) = some w.value := by
  have htrim : Text.trim w.text = w.sign.text ++ w.digits :=
    (Text.trim_eq_iff w.visible).2 ⟨w.before, w.after, w.blank_before, w.blank_after, rfl⟩
  have hdigits := digits?_eq_some_iff.2 ⟨w.digits_ne_nil, w.isDigit, rfl⟩
  rw [htrim, signed?_append w.isDigit, hdigits]
  rfl

end Spelling

theorem exists_spelling (h : signed? (Text.trim s) = some i) :
    ∃ w : Spelling, w.text = s ∧ w.value = i := by
  obtain ⟨sign, digits, htrim, hvalue⟩ := exists_of_signed? h
  obtain ⟨n, hn, rfl⟩ := Option.map_eq_some_iff.1 hvalue
  obtain ⟨hne, hdigits, rfl⟩ := digits?_eq_some_iff.1 hn
  have hvisible := Text.visible_trim (htrim ▸ List.append_ne_nil_of_right_ne_nil sign.text hne)
  obtain ⟨before, after, hbefore, hafter, hs⟩ := (Text.trim_eq_iff hvisible).1 rfl
  rw [htrim] at hs
  exact ⟨⟨before, sign, digits, after, hbefore, hne, hdigits, hafter⟩, hs.symm, rfl⟩

/-! ## The canonical spelling -/

/-- A canonical spelling is how its number is written. -/
theorem Spelling.Canonical.text_eq {w : Spelling} (h : w.Canonical) :
    w.text = (toString w.value).toList := by
  obtain ⟨before, sign, digits, after, _, hne, hdigits, _⟩ := w
  obtain ⟨rfl, rfl, hplus, hzeros, hzero⟩ := h
  obtain ⟨c, s, rfl⟩ := List.exists_cons_of_ne_nil hne
  simp only [Spelling.text, Spelling.value, List.nil_append, List.append_nil] at hplus hzero ⊢
  by_cases hc : c = '0'
  · subst hc
    obtain rfl := hzeros s rfl
    cases sign with
    | bare => rfl
    | plus => exact absurd rfl hplus
    | minus => exact absurd rfl (hzero rfl)
  · have hwritten := toDigits_of_ne_zero hdigits hc
    cases sign with
    | bare => exact ((toList_toString_natCast _).trans hwritten).symm
    | plus => exact absurd rfl hplus
    | minus =>
        have hpos : 0 < Nat.ofDigitChars 10 (c :: s) 0 := by
          refine Nat.pos_of_ne_zero fun hvalue => hc ?_
          rw [hvalue, Nat.toDigits_zero] at hwritten
          exact (List.cons.inj hwritten).1.symm
        exact ((toList_toString_neg hpos).trans (congrArg _ hwritten)).symm

theorem eq_nil_of_toDigits {s : List Char} (h : Nat.toDigits 10 n = '0' :: s) : s = [] := by
  rcases Nat.eq_zero_or_pos n with rfl | hn
  · exact (List.cons.inj h).2.symm
  · exact absurd (congrArg List.head? h) (head?_toDigits_ne_zero hn)

/-- The digits of a number behind a sign, with nothing around them. -/
def Spelling.signed (sign : Sign) (n : Nat) : Spelling where
  before := []
  sign := sign
  digits := Nat.toDigits 10 n
  after := []
  blank_before := nofun
  digits_ne_nil := Nat.toDigits_ne_nil
  isDigit := isDigit_of_mem_toDigits n
  blank_after := nofun

theorem Spelling.value_signed (sign : Sign) (n : Nat) : (signed sign n).value = sign.apply n :=
  congrArg sign.apply Nat.ofDigitChars_ten_toDigits

/-- Every number has a canonical spelling. -/
theorem exists_canonical (i : Int) : ∃ w : Spelling, w.Canonical ∧ w.value = i := by
  cases i with
  | ofNat n =>
      exact ⟨.signed .bare n, ⟨rfl, rfl, nofun, fun _ => eq_nil_of_toDigits, nofun⟩,
        Spelling.value_signed .bare n⟩
  | negSucc n =>
      have hzero : Nat.toDigits 10 (n + 1) ≠ ['0'] := fun h =>
        head?_toDigits_ne_zero (Nat.succ_pos n) (congrArg List.head? h)
      exact ⟨.signed .minus (n + 1), ⟨rfl, rfl, nofun, fun _ => eq_nil_of_toDigits, fun _ => hzero⟩,
        Spelling.value_signed .minus (n + 1)⟩

end Numeral

namespace Value

/-- The text spells a number, which is within the range. -/
structure IsNumber (t : String) (w : Numeral.Spelling) : Prop where
  text : w.text = t.toList
  ge : -2 ^ 127 ≤ w.value
  le : w.value ≤ 2 ^ 127 - 1

theorem number?_eq_some_iff {t : String} {n : Int} :
    number? t = some n ↔ ∃ w, IsNumber t w ∧ w.value = n := by
  rw [number?, Numeral.word?_eq_some_iff]
  constructor
  · rintro ⟨hn, hge, hle⟩
    obtain ⟨w, htext, rfl⟩ := Numeral.exists_spelling hn
    exact ⟨w, ⟨htext, hge, hle⟩, rfl⟩
  · rintro ⟨w, h, rfl⟩
    exact ⟨h.text ▸ w.signed?_trim_text, h.ge, h.le⟩

theorem number?_eq_none_iff {t : String} : number? t = none ↔ ¬∃ w, IsNumber t w := by
  rw [Option.eq_none_iff_forall_ne_some]
  exact ⟨fun h ⟨w, hw⟩ => h w.value (number?_eq_some_iff.2 ⟨w, hw, rfl⟩),
    fun h n hn => h ((number?_eq_some_iff.1 hn).imp fun _ hw => hw.1)⟩

/-- A number that has been read is read again from how it is written. -/
theorem number?_toString {t : String} {n : Int} (h : number? t = some n) :
    number? (toString n) = some n := by
  rw [number?, Text.trim_eq_self (Numeral.visible_toString_int n)]
  exact Numeral.word?_toString h

theorem coerce_eq_int_iff {t : String} {n : Int} : coerce t = .int n ↔ number? t = some n := by
  unfold coerce
  cases number? t <;> simp

theorem coerce_eq_text_iff {t : String} : coerce t = .text t ↔ number? t = none := by
  unfold coerce
  cases number? t <;> simp

theorem coerce_display_coerce (t : String) : coerce (coerce t).display = coerce t := by
  cases h : number? t with
  | none => rw [coerce_eq_text_iff.2 h, display, coerce_eq_text_iff.2 h]
  | some n => rw [coerce_eq_int_iff.2 h, display, coerce_eq_int_iff.2 (number?_toString h)]

/-- A number is written as it was read if it was read from a canonical spelling. -/
theorem toString_eq_iff {t : String} {n : Int} (h : number? t = some n) :
    toString n = t ↔ ∃ w, IsNumber t w ∧ w.Canonical := by
  obtain ⟨w, hw, hvalue⟩ := number?_eq_some_iff.1 h
  constructor
  · rintro rfl
    obtain ⟨c, hc, rfl⟩ := Numeral.exists_canonical n
    exact ⟨c, ⟨hc.text_eq, hvalue ▸ hw.ge, hvalue ▸ hw.le⟩, hc⟩
  · rintro ⟨c, hnumber, hc⟩
    have hn : number? t = some c.value := number?_eq_some_iff.2 ⟨c, hnumber, rfl⟩
    obtain rfl : n = c.value := Option.some.inj (h.symm.trans hn)
    exact String.toList_inj.1 (hc.text_eq.symm.trans hnumber.text)

/-- A text is read as the number that it spells if that is within the range, and otherwise as
itself. Writing a value and reading it again does not change it, and a text is written as it was
read unless it spells a number and has something in it that could be left out. -/
theorem coerce_by_spelling (t : String) :
    (∀ n, coerce t = .int n ↔ ∃ w, IsNumber t w ∧ w.value = n) ∧
    (coerce t = .text t ↔ ¬∃ w, IsNumber t w) ∧
    coerce (coerce t).display = coerce t ∧
    ((coerce t).display = t ↔ (¬∃ w, IsNumber t w) ∨ ∃ w, IsNumber t w ∧ w.Canonical) := by
  refine ⟨fun n => coerce_eq_int_iff.trans number?_eq_some_iff,
    coerce_eq_text_iff.trans number?_eq_none_iff, coerce_display_coerce t, ?_⟩
  cases h : number? t with
  | none =>
      rw [coerce_eq_text_iff.2 h]
      exact ⟨fun _ => .inl (number?_eq_none_iff.1 h), fun _ => rfl⟩
  | some n =>
      have hspelled : ∃ w, IsNumber t w := (number?_eq_some_iff.1 h).imp fun _ hw => hw.1
      rw [coerce_eq_int_iff.2 h, display, toString_eq_iff h, or_iff_right (not_not_intro hspelled)]

example : coerce " -00170141183460469231731687303715884105728\n" =
    .int (-170141183460469231731687303715884105728) := by decide +kernel

example : coerce "170141183460469231731687303715884105728" =
    .text "170141183460469231731687303715884105728" := by decide +kernel

end Value

end ModemScript
