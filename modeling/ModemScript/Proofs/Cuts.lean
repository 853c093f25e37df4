import Mathlib.Data.List.DropRight
import Mathlib.Data.List.TakeDrop
import ModemScript.Text.Blank
import ModemScript.Text.Cut

/-!
# Texts that are cut and put together again

A text is cut at the first occurrence of a piece, and whether an occurrence is the first
one is decided by what stands up to its end: where a text is cut does not change with what
comes after (`cut?_before`). An occurrence is the first one if none ends before it does
(`cut?_eq_some_iff`). Two facts about fields come of this. Put together with
their separator the fields of a text are the text (`intercalate_fields`), and the first few of
them put together have just these fields (`fields_intercalate_take`).

A text that begins and ends with something visible is left alone by trimming (`trim_eq_self`),
and what is left by trimming, if anything, is such a text (`visible_trim`).
-/

namespace ModemScript.Text

variable {piece separator s before after : List Char} {c : Char}

/-! ## The first occurrence -/

theorem cut?_append_self (hpiece : piece ≠ []) (s : List Char) :
    cut? piece (piece ++ s) = some ([], s) := by
  obtain ⟨c, rest, rfl⟩ := List.exists_cons_of_ne_nil hpiece
  rw [List.cons_append, cut?, List.isPrefixOf?_eq_some_iff_append_eq.2 List.cons_append]

theorem cut?_cons_of_not_isPrefix (h : ¬piece <+: c :: s) :
    cut? piece (c :: s) = (cut? piece s).map fun (before, after) => (c :: before, after) := by
  rw [cut?]
  split
  · next rest heq => exact absurd ⟨rest, List.isPrefixOf?_eq_some_iff_append_eq.1 heq⟩ h
  · rfl

/-- What stands before the first occurrence has none in it, and is found before any other text
that stands after it. -/
theorem cut?_before (hpiece : piece ≠ []) (h : cut? piece s = some (before, after)) :
    cut? piece before = none ∧
      ∀ rest, cut? piece (before ++ piece ++ rest) = some (before, rest) := by
  induction s generalizing before with
  | nil =>
      rw [cut?, if_neg hpiece] at h
      cases h
  | cons c s ih =>
      by_cases hp : piece <+: c :: s
      · obtain ⟨rest, hrest⟩ := hp
        rw [← hrest, cut?_append_self hpiece] at h
        cases h
        exact ⟨if_neg hpiece, cut?_append_self hpiece⟩
      · rw [cut?_cons_of_not_isPrefix hp] at h
        obtain ⟨⟨before', after'⟩, hs, heq⟩ := Option.map_eq_some_iff.1 h
        cases heq
        obtain ⟨hnone, hrest⟩ := ih hs
        have htext : c :: s = c :: before' ++ piece ++ after := by
          rw [append_of_cut? hs]
          rfl
        rw [htext] at hp
        refine ⟨?_, fun rest => ?_⟩
        · have hp' : ¬piece <+: c :: before' := fun hb =>
            hp (hb.trans ((List.prefix_append _ _).trans (List.prefix_append _ _)))
          rw [cut?_cons_of_not_isPrefix hp', hnone]
          rfl
        · have hp' : ¬piece <+: c :: (before' ++ piece ++ rest) := fun hb => by
            have hlength : piece.length ≤ (c :: before' ++ piece).length := by
              rw [List.length_append]
              exact Nat.le_add_left _ _
            exact hp ((List.prefix_of_prefix_length_le hb (List.prefix_append _ rest)
              hlength).trans (List.prefix_append _ _))
          rw [List.cons_append, List.cons_append, cut?_cons_of_not_isPrefix hp', hrest]
          rfl

theorem cut?_isSome_of_isInfix (h : piece <:+: s) : (cut? piece s).isSome = true := by
  induction s with
  | nil =>
      rw [List.infix_nil.1 h]
      rfl
  | cons c s ih =>
      by_cases hp : piece <+: c :: s
      · obtain ⟨rest, hrest⟩ := hp
        rw [cut?, List.isPrefixOf?_eq_some_iff_append_eq.2 hrest]
        rfl
      · rw [cut?_cons_of_not_isPrefix hp, Option.isSome_map]
        exact ih ((List.infix_cons_iff.1 h).resolve_left hp)

theorem cut?_eq_none_iff : cut? piece s = none ↔ ¬piece <:+: s := by
  constructor
  · intro hs h
    have hsome := cut?_isSome_of_isInfix h
    rw [hs] at hsome
    cases hsome
  · intro h
    cases hs : cut? piece s with
    | none => rfl
    | some cut => exact absurd ⟨cut.1, cut.2, (append_of_cut? hs).symm⟩ h

theorem length_le_of_cut? {b : List Char} (h : cut? piece s = some (before, after))
    (hb : b ++ piece <+: s) : before.length ≤ b.length := by
  induction s generalizing before b with
  | nil =>
      have hnil := (append_of_cut? h).symm
      simp only [List.append_eq_nil_iff] at hnil
      rw [hnil.1.1]
      exact Nat.zero_le _
  | cons c s ih =>
      by_cases hp : piece <+: c :: s
      · obtain ⟨rest, hrest⟩ := hp
        rw [cut?, List.isPrefixOf?_eq_some_iff_append_eq.2 hrest] at h
        cases h
        exact Nat.zero_le _
      · rw [cut?_cons_of_not_isPrefix hp] at h
        obtain ⟨⟨before', after'⟩, hs, heq⟩ := Option.map_eq_some_iff.1 h
        cases heq
        cases b with
        | nil => exact absurd hb hp
        | cons c' b => exact Nat.succ_le_succ (ih hs (List.cons_prefix_cons.1 hb).2)

/-- A text is cut at a piece if there is no other one that ends before it does. -/
theorem cut?_eq_some_iff (hpiece : piece ≠ []) :
    cut? piece s = some (before, after) ↔
      s = before ++ piece ++ after ∧ ¬piece <:+: before ++ piece.dropLast := by
  have hshort : piece.dropLast.length + 1 = piece.length := by
    rw [List.length_dropLast]
    exact Nat.sub_add_cancel (List.length_pos_iff.2 hpiece)
  have hbegin (hs : s = before ++ piece ++ after) : before ++ piece.dropLast <+: s := by
    rw [hs, List.append_assoc]
    exact (List.prefix_append_right_inj before).2
      ((List.dropLast_prefix piece).trans (List.prefix_append piece after))
  constructor
  · intro h
    have hs := append_of_cut? h
    refine ⟨hs, fun ⟨x, y, hxy⟩ => ?_⟩
    have hx : x ++ piece <+: before ++ piece.dropLast := ⟨y, hxy⟩
    have hle := length_le_of_cut? h (hx.trans (hbegin hs))
    have hlength := hx.length_le
    simp only [List.length_append] at hlength
    omega
  · rintro ⟨hs, hfree⟩
    obtain ⟨⟨b, a⟩, hcut⟩ := Option.isSome_iff_exists.1
      (cut?_isSome_of_isInfix ⟨before, after, hs.symm⟩)
    have hsplit := append_of_cut? hcut
    have hle := length_le_of_cut? hcut ⟨after, hs.symm⟩
    have hlength : (b ++ piece).length = (before ++ piece).length := by
      by_contra hne
      simp only [List.length_append] at hne
      have hshorter : (b ++ piece).length ≤ (before ++ piece.dropLast).length := by
        simp only [List.length_append]
        omega
      have hb := List.prefix_of_prefix_length_le ⟨a, hsplit.symm⟩ (hbegin hs) hshorter
      exact hfree ((List.suffix_append b piece).isInfix.trans hb.isInfix)
    obtain ⟨hb, rfl⟩ := List.append_inj (hsplit.symm.trans hs) hlength
    rw [hcut, List.append_cancel_right hb]

theorem pair_infix_concat_iff {a b x : Char} :
    [a, b] <:+: s ++ [x] ↔ [a, b] <:+: s ∨ b = x ∧ s.getLast? = some a := by
  have hsuffix : [a, b] <:+ s ++ [x] ↔ b = x ∧ s.getLast? = some a := by
    rw [List.suffix_concat_iff, ← List.singleton_suffix_iff_getLast?_eq_some]
    constructor
    · rintro (h | ⟨t, ht, hs⟩)
      · cases h
      · obtain ⟨rfl, hb⟩ := List.append_inj' (show [a] ++ [b] = t ++ [x] from ht) rfl
        exact ⟨(List.cons.inj hb).1, hs⟩
    · rintro ⟨rfl, hs⟩
      exact .inr ⟨[a], rfl, hs⟩
  rw [List.infix_concat_iff, hsuffix, or_comm]

/-- A piece of two characters stands where there is none before, unless the two are the same and
there is one more of them. -/
theorem cut?_pair_eq_some_iff {a b : Char} :
    cut? [a, b] s = some (before, after) ↔
      s = before ++ [a, b] ++ after ∧ ¬[a, b] <:+: before ∧
        ¬(b = a ∧ before.getLast? = some a) := by
  rw [cut?_eq_some_iff (List.cons_ne_nil a [b])]
  show _ ∧ ¬[a, b] <:+: before ++ [a] ↔ _
  rw [pair_infix_concat_iff, not_or]

/-! ## Fields -/

theorem fields_of_cut?_eq_none (h : cut? separator s = none) : fields separator s = [s] := by
  rw [fields]
  split
  · rfl
  · split
    · rfl
    · next heq =>
        rw [h] at heq
        cases heq

theorem fields_of_cut?_eq_some (hseparator : separator ≠ [])
    (h : cut? separator s = some (before, after)) :
    fields separator s = before :: fields separator after := by
  rw [fields, dif_neg hseparator]
  split
  · next heq =>
      rw [h] at heq
      cases heq
  · next heq =>
      rw [h] at heq
      cases heq
      rfl

theorem fields_ne_nil (separator s : List Char) : fields separator s ≠ [] := by
  rw [fields]
  split
  · exact List.cons_ne_nil _ _
  · split <;> exact List.cons_ne_nil _ _

theorem intercalate_append {fs gs : List (List Char)} (hf : fs ≠ []) (hg : gs ≠ []) :
    separator.intercalate (fs ++ gs) =
      separator.intercalate fs ++ separator ++ separator.intercalate gs := by
  induction fs with
  | nil => exact absurd rfl hf
  | cons f fs ih =>
      cases fs with
      | nil =>
          rw [List.singleton_append, List.intercalate_cons_of_ne_nil hg, List.intercalate_singleton]
      | cons f' fs =>
          have hne : f' :: fs ≠ [] := List.cons_ne_nil _ _
          rw [List.cons_append,
            List.intercalate_cons_of_ne_nil (List.append_ne_nil_of_left_ne_nil hne gs), ih hne,
            List.intercalate_cons_of_ne_nil hne]
          simp only [List.append_assoc]

/-- Nothing is lost between the fields but the separators. -/
theorem intercalate_fields (hseparator : separator ≠ []) (s : List Char) :
    separator.intercalate (fields separator s) = s := by
  cases h : cut? separator s with
  | none => rw [fields_of_cut?_eq_none h, List.intercalate_singleton]
  | some cut =>
      have hlength := length_lt_of_cut? hseparator h
      rw [fields_of_cut?_eq_some hseparator h,
        List.intercalate_cons_of_ne_nil (fields_ne_nil _ _), intercalate_fields hseparator cut.2]
      exact (append_of_cut? h).symm
termination_by s.length

/-- The first few fields with their separators are a text that has these fields. -/
theorem fields_intercalate_take (hseparator : separator ≠ []) (n : Nat) : ∀ s : List Char,
    fields separator (separator.intercalate ((fields separator s).take (n + 1))) =
      (fields separator s).take (n + 1) := by
  induction n with
  | zero =>
      intro s
      cases h : cut? separator s with
      | none =>
          rw [fields_of_cut?_eq_none h, List.take_one, List.head?_cons, Option.toList_some,
            List.intercalate_singleton, fields_of_cut?_eq_none h]
      | some cut =>
          rw [fields_of_cut?_eq_some hseparator h, List.take_one, List.head?_cons,
            Option.toList_some, List.intercalate_singleton,
            fields_of_cut?_eq_none (cut?_before hseparator h).1]
  | succ n ih =>
      intro s
      cases h : cut? separator s with
      | none =>
          rw [fields_of_cut?_eq_none h, List.take_of_length_le (Nat.le_add_left 1 (n + 1)),
            List.intercalate_singleton, fields_of_cut?_eq_none h]
      | some cut =>
          have hrest : (fields separator cut.2).take (n + 1) ≠ [] := by
            obtain ⟨f, fs, hf⟩ := List.exists_cons_of_ne_nil (fields_ne_nil separator cut.2)
            rw [hf]
            exact List.cons_ne_nil _ _
          rw [fields_of_cut?_eq_some hseparator h, List.take_succ_cons,
            List.intercalate_cons_of_ne_nil hrest,
            fields_of_cut?_eq_some hseparator ((cut?_before hseparator h).2 _), ih]

/-! ## Characters that cut -/

theorem fst_cutWhere (p : Char → Bool) (s : List Char) :
    (cutWhere p s).1 = s.takeWhile fun c => !p c := by
  rw [cutWhere, List.span_eq_takeWhile_dropWhile]
  split
  · next h => exact (Prod.mk.inj h).1.symm
  · next h => exact (Prod.mk.inj h).1.symm

theorem cutWhere_of_not_mem {p : Char → Bool} (hbefore : ∀ c ∈ before, p c = false)
    (hc : p c = true) (after : List Char) :
    cutWhere p (before ++ c :: after) = (before, some after) := by
  have hnot : ∀ c ∈ before, (!p c) = true := fun c hmem => by rw [hbefore c hmem]; rfl
  rw [cutWhere, List.span_eq_takeWhile_dropWhile, List.takeWhile_append_of_pos hnot,
    List.dropWhile_append_of_pos hnot, List.takeWhile_cons_of_neg (by rw [hc]; decide),
    List.dropWhile_cons_of_neg (by rw [hc]; decide), List.append_nil]

theorem exists_of_cutWhere {p : Char → Bool} (h : cutWhere p s = (before, some after)) :
    ∃ c, p c = true ∧ s = before ++ c :: after ∧ ∀ c ∈ before, p c = false := by
  rw [cutWhere, List.span_eq_takeWhile_dropWhile] at h
  split at h
  · next heq => cases h
  · next b c a heq =>
      cases h
      obtain ⟨rfl, hrest⟩ := Prod.mk.inj heq
      have hc : (!p c) = false := by
        have hne : s.dropWhile (fun c => !p c) ≠ [] := by
          rw [hrest]
          exact List.cons_ne_nil c after
        have hhead := List.head_dropWhile_not (fun c => !p c) hne
        simp only [hrest, List.head_cons] at hhead
        exact hhead
      refine ⟨c, by rwa [Bool.not_eq_false'] at hc, ?_, fun c' hc' => ?_⟩
      · rw [← hrest, List.takeWhile_append_dropWhile]
      · have := List.mem_takeWhile_imp hc'
        rwa [Bool.not_eq_true'] at this

/-! ## Blanks -/

/-- There is nothing but blanks in the text. -/
def Blank (s : List Char) : Prop := ∀ c ∈ s, isBlank c = true

theorem trimStart_append (h : Blank before) (s : List Char) :
    trimStart (before ++ s) = trimStart s := List.dropWhile_append_of_pos h

theorem trimEnd_append (h : Blank after) (s : List Char) : trimEnd (s ++ after) = trimEnd s := by
  rw [trimEnd, trimEnd, List.reverse_append,
    List.dropWhile_append_of_pos fun c hc => h c (List.mem_reverse.1 hc)]

theorem trimStart_eq_nil_iff : trimStart s = [] ↔ Blank s := List.dropWhile_eq_nil_iff

theorem exists_trimStart (s : List Char) : ∃ before, Blank before ∧ s = before ++ trimStart s :=
  ⟨s.takeWhile isBlank, fun _ hc => List.mem_takeWhile_imp hc,
    List.takeWhile_append_dropWhile.symm⟩

/-! ## Visible ends -/

/-- There is something in the text, and no blank around it. -/
structure Visible (s : List Char) : Prop where
  ne_nil : s ≠ []
  head : isBlank (s.head ne_nil) = false
  last : isBlank (s.getLast ne_nil) = false

theorem Visible.of_forall {s : List Char} (hs : s ≠ []) (h : ∀ c ∈ s, isBlank c = false) :
    Visible s :=
  ⟨hs, h _ (List.head_mem hs), h _ (List.getLast_mem hs)⟩

theorem Visible.of_append {s t : List Char} (hs : s ≠ []) (ht : t ≠ [])
    (hhead : isBlank (s.head hs) = false) (hlast : isBlank (t.getLast ht) = false) :
    Visible (s ++ t) where
  ne_nil := List.append_ne_nil_of_left_ne_nil hs t
  head := by
    rw [List.head_append_of_ne_nil hs]
    exact hhead
  last := by
    rw [List.getLast_append_of_ne_nil _ ht]
    exact hlast

/-- The first word of a text is that of the trimmed text. -/
theorem cutWhere_trim (s : List Char) :
    (cutWhere isBlank (trim s)).1 = (trimStart s).takeWhile fun c => !isBlank c := by
  have hblank : (List.rtakeWhile isBlank (trimStart s)).takeWhile (fun c => !isBlank c) = [] := by
    refine List.takeWhile_eq_nil_iff.2 fun hlt h => ?_
    have hb : isBlank ((List.rtakeWhile isBlank (trimStart s)).get ⟨0, hlt⟩) = true :=
      List.mem_rtakeWhile_imp (List.get_mem _ _)
    rw [hb] at h
    cases h
  have hsplit : trim s ++ List.rtakeWhile isBlank (trimStart s) = trimStart s :=
    List.rdropWhile_append_rtakeWhile
  rw [fst_cutWhere, ← hsplit, List.takeWhile_append, hblank, List.append_nil]
  split
  · next hlength => exact (List.takeWhile_prefix _).eq_of_length hlength
  · rfl

theorem trimStart_eq_self (hs : s ≠ []) (h : isBlank (s.head hs) = false) : trimStart s = s := by
  obtain ⟨c, rest, rfl⟩ := List.exists_cons_of_ne_nil hs
  exact List.dropWhile_cons_of_neg (Bool.eq_false_iff.1 h)

theorem trim_eq_self (h : Visible s) : trim s = s := by
  rw [trim, trimStart_eq_self h.ne_nil h.head]
  exact List.rdropWhile_eq_self_iff.2 fun hne => Bool.eq_false_iff.1 h.last

/-- What trimming leaves has visible ends, unless it leaves nothing. -/
theorem visible_trim (h : trim s ≠ []) : Visible (trim s) where
  ne_nil := h
  head := by
    have hbegin : trim s <+: trimStart s := List.rdropWhile_prefix isBlank _
    have hne : trimStart s ≠ [] := hbegin.ne_nil h
    rw [hbegin.head h]
    exact List.head_dropWhile_not isBlank hne
  last := Bool.eq_false_iff.2 (List.rdropWhile_last_not isBlank (trimStart s) h)

/-- A text is trimmed to one with visible ends if there are only blanks around it. -/
theorem trim_eq_iff {t : List Char} (ht : Visible t) :
    trim s = t ↔ ∃ before after, Blank before ∧ Blank after ∧ s = before ++ t ++ after := by
  constructor
  · rintro rfl
    obtain ⟨before, hbefore, hs⟩ := exists_trimStart s
    refine ⟨before, (trimStart s).rtakeWhile isBlank, hbefore,
      fun c hc => List.mem_rtakeWhile_imp hc, ?_⟩
    have hsplit : trim s ++ (trimStart s).rtakeWhile isBlank = trimStart s :=
      List.rdropWhile_append_rtakeWhile
    rw [List.append_assoc, hsplit]
    exact hs
  · rintro ⟨before, after, hbefore, hafter, rfl⟩
    have hhead : isBlank ((t ++ after).head (List.append_ne_nil_of_left_ne_nil ht.ne_nil after)) =
        false := by
      rw [List.head_append_of_ne_nil ht.ne_nil]
      exact ht.head
    calc trim (before ++ t ++ after)
      _ = trimEnd (t ++ after) := by
        rw [List.append_assoc, trim, trimStart_append hbefore, trimStart_eq_self _ hhead]
      _ = trim t := by rw [trimEnd_append hafter, trim, trimStart_eq_self ht.ne_nil ht.head]
      _ = t := trim_eq_self ht

end ModemScript.Text
