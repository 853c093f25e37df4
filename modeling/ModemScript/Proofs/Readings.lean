import ModemScript.Proofs.Template

/-!
# Texts in which anything may stand

The values of variables come from devices, so a `$` or a brace may stand anywhere in them. A text
can then be read in several ways, since what looks like a reference can also be read as the
characters that it consists of (`Reads`). Substitution finds the reading in which nothing that opens
a reference is left, if there is one: an opening that is read literally would be left as it is, so
all openings in the text belong to references, and this stays so from round to round.

Nothing of this is needed for the end of a text as soon as no brace closes anything in it. So a value
that is inserted last may bring an opening along (`expand_last`).
-/

namespace ModemScript

/-! ## Pieces that are not found -/

namespace Text

variable {piece : List Char} {c : Char}

theorem cut?_eq_none_of_not_mem {s : List Char} (hc : c ∈ piece) (h : c ∉ s) :
    cut? piece s = none :=
  cut?_eq_none_iff.2 fun hin => h (hin.subset hc)

end Text

namespace Reference

variable {name s w rest out tail : List Char} {c : Char}

/-- A name that belongs to the reference wherever it stands: it neither closes it nor opens
another one. -/
structure Proper (name : List Char) : Prop where
  closing : '}' ∉ name
  opening : ¬opening <:+: name

theorem token_append (name s : List Char) :
    token ⟨name⟩ ++ s = '$' :: '{' :: (name ++ '}' :: s) := by
  simp [token, opening, closing]

theorem head?_token_append (r : Reference) (s : List Char) : (r.token ++ s).head? ≠ some '{' := by
  rw [token_append]
  simp

theorem token_ne_nil (r : Reference) : r.token ≠ [] := List.cons_ne_nil _ _

theorem opening_prefix_token (r : Reference) : opening <+: r.token := by
  rw [token, List.append_assoc]
  exact List.prefix_append ..

theorem closing_mem_token (r : Reference) : '}' ∈ r.token :=
  List.mem_append_right _ (List.mem_singleton_self _)

theorem replaceAll_of_not_closing (r : Reference) (v : List Char) (h : '}' ∉ tail) :
    Text.replaceAll r.token v tail = tail :=
  Text.replaceAll_of_cut?_eq_none (Text.cut?_eq_none_of_not_mem r.closing_mem_token h)

theorem opening_prefix_cons_cons {d : Char} (s : List Char) :
    opening <+: c :: d :: s ↔ c = '$' ∧ d = '{' := by
  simp [opening, List.cons_prefix_cons, eq_comm]

theorem not_opening_prefix_singleton (c : Char) : ¬opening <+: [c] := by
  intro h
  have := h.length_le
  simp [opening] at this

theorem first?_cons_of_not_opening (h : ¬opening <+: c :: s) : first? (c :: s) = first? s := by
  rw [first?, first?, Text.cut?_cons_of_not_isPrefix h]
  cases Text.cut? opening s <;> rfl

/-- No reference begins where no opening does. -/
theorem replaceAll_cons_of_not_opening (r : Reference) (v : List Char)
    (h : ¬opening <+: c :: s) :
    Text.replaceAll r.token v (c :: s) = c :: Text.replaceAll r.token v s := by
  refine Text.replaceAll_cons_of_not_isPrefix r.token_ne_nil fun htoken => ?_
  exact h (r.opening_prefix_token.trans htoken)

theorem not_opening_prefix_append (hw : ¬opening <:+: c :: w) (hs : s.head? ≠ some '{') :
    ¬opening <+: c :: (w ++ s) := by
  intro h
  cases w with
  | nil =>
      cases s with
      | nil => exact not_opening_prefix_singleton c h
      | cons d s => exact hs (congrArg some ((opening_prefix_cons_cons s).1 h).2)
  | cons d w =>
      have hcd := (opening_prefix_cons_cons (w ++ s)).1 h
      exact hw ((opening_prefix_cons_cons w).2 hcd).isInfix

theorem first?_append_of_not_opening (hw : ¬opening <:+: w) (hs : s.head? ≠ some '{') :
    first? (w ++ s) = first? s := by
  induction w with
  | nil => rfl
  | cons c w ih =>
      rw [List.cons_append, first?_cons_of_not_opening (not_opening_prefix_append hw hs),
        ih fun h => hw (h.trans (List.suffix_cons c w).isInfix)]

theorem replaceAll_append_of_not_opening (r : Reference) (v : List Char) (hw : ¬opening <:+: w)
    (hs : s.head? ≠ some '{') :
    Text.replaceAll r.token v (w ++ s) = w ++ Text.replaceAll r.token v s := by
  induction w with
  | nil => rfl
  | cons c w ih =>
      rw [List.cons_append, replaceAll_cons_of_not_opening r v (not_opening_prefix_append hw hs),
        ih fun h => hw (h.trans (List.suffix_cons c w).isInfix), List.cons_append]

/-- No reference begins within another one. -/
theorem replaceAll_token_append {r : Reference} (hr : '}' ∉ r.name) (hname : Proper name)
    (hne : r.name ≠ name) (v s : List Char) :
    Text.replaceAll r.token v (token ⟨name⟩ ++ s) =
      token ⟨name⟩ ++ Text.replaceAll r.token v s := by
  have hprefix : ¬r.token <+: token ⟨name⟩ ++ s :=
    fun h => hne (eq_of_token_isPrefix hr hname.closing h)
  have hbrace : ¬opening <+: '{' :: (name ++ '}' :: s) := by
    intro h
    cases name with
    | nil => exact absurd ((opening_prefix_cons_cons _).1 h).1 (by decide)
    | cons c name => exact absurd ((opening_prefix_cons_cons _).1 h).1 (by decide)
  have hclosing : ¬opening <+: '}' :: s := by
    intro h
    exact absurd (List.cons_prefix_cons.1 h).1 (by decide)
  rw [token_append] at hprefix ⊢
  rw [Text.replaceAll_cons_of_not_isPrefix r.token_ne_nil hprefix,
    replaceAll_cons_of_not_opening r v hbrace,
    replaceAll_append_of_not_opening r v hname.opening (by simp),
    replaceAll_cons_of_not_opening r v hclosing, token_append]

/-- An opening that nothing closes is no reference. -/
theorem first?_append_of_not_closing (hout : ¬opening <:+: out) (htail : '}' ∉ tail) :
    first? (out ++ tail) = none := by
  rw [first?]
  cases hcut : Text.cut? opening (out ++ tail) with
  | none => rfl
  | some parts =>
      obtain ⟨before, rest⟩ := parts
      have happend := Text.append_of_cut? hcut
      have hrest : '}' ∉ rest := by
        rcases List.append_eq_append_iff.1 happend with ⟨x, -, hx⟩ | ⟨x, hx, -⟩
        · intro hmem
          exact htail (hx ▸ List.mem_append_right x hmem)
        · exact absurd ⟨before, x, hx.symm⟩ hout
      have hclosing : Text.cut? closing rest = none :=
        Text.cut?_eq_none_of_not_mem (List.mem_singleton_self '}') hrest
      rw [Option.bind_some]
      dsimp only
      rw [hclosing]
      rfl

/-! ## Readings -/

/-- What a text reads, where `value` tells what a name stands for, and how many references are
visited. A character stands for itself, and a reference for what its value reads. -/
inductive Reads (value : List Char → List Char) : List Char → List Char → Nat → Prop
  | nil : Reads value [] [] 0
  | literal (c : Char) {s out : List Char} {n : Nat} :
      Reads value s out n → Reads value (c :: s) (c :: out) n
  | reference {name s mid out : List Char} {m n : Nat} :
      Proper name → Reads value (value name) mid m → Reads value s out n →
      Reads value (token ⟨name⟩ ++ s) (mid ++ out) (m + n + 1)

namespace Reads

variable {value : List Char → List Char} {s' out' : List Char} {n n' rounds : Nat}

theorem self (value : List Char → List Char) (s : List Char) : Reads value s s 0 := by
  induction s with
  | nil => exact .nil
  | cons c s ih => exact .literal c ih

theorem append (h : Reads value s out n) (h' : Reads value s' out' n') :
    Reads value (s ++ s') (out ++ out') (n + n') := by
  induction h with
  | nil =>
      rw [Nat.zero_add]
      exact h'
  | literal c _ ih => exact .literal c ih
  | @reference name s mid out m n hname hmid _ _ ih =>
      have hsum : m + n + 1 + n' = m + (n + n') + 1 := by omega
      rw [hsum, List.append_assoc, List.append_assoc]
      exact .reference hname hmid ih

/-- An opening that is read literally is left. -/
theorem opening_not_isPrefix (h : Reads value s out n) (hout : ¬opening <:+: c :: out) :
    ¬opening <+: c :: s := by
  intro hopen
  cases h with
  | nil => exact not_opening_prefix_singleton c hopen
  | literal d h =>
      have hcd := (opening_prefix_cons_cons _).1 hopen
      exact hout ((opening_prefix_cons_cons _).2 hcd).isInfix
  | reference hname hmid h =>
      rw [token_append] at hopen
      exact absurd ((opening_prefix_cons_cons _).1 hopen).2 (by decide)

/-- Where nothing opens a reference in the end, the leftmost reference of a text is that of its
reading, whatever comes behind. -/
theorem first? (h : Reads value s out n) (hout : ¬opening <:+: out) :
    out = s ∨ ∃ name, Proper name ∧ ∀ tail, first? (s ++ tail) = some ⟨name⟩ := by
  induction h with
  | nil => exact .inl rfl
  | @literal c s out n h ih =>
      have hnot := h.opening_not_isPrefix hout
      obtain rfl | ⟨name, hname, hfirst⟩ := ih fun ho =>
        hout (ho.trans (List.suffix_cons c out).isInfix)
      · exact .inl rfl
      · refine .inr ⟨name, hname, fun tail => ?_⟩
        have hnot' : ¬opening <+: c :: (s ++ tail) := by
          cases s with
          | nil => cases hfirst []
          | cons d s =>
              rw [opening_prefix_cons_cons] at hnot
              rwa [List.cons_append, opening_prefix_cons_cons]
        rw [List.cons_append, first?_cons_of_not_opening hnot', hfirst]
  | reference hname hmid h _ _ =>
      refine .inr ⟨_, hname, fun tail => ?_⟩
      rw [List.append_assoc, first?_token_append hname.closing]

/-- A round keeps the reading of a text and visits fewer references if it replaces any. It does not
touch what comes behind, except for the references in it. -/
theorem round (h : Reads value s out n) (hout : ¬opening <:+: out) (hname : '}' ∉ name) :
    ∃ s' n', Reads value s' out n' ∧ n' ≤ n ∧
      (Reference.first? s = some ⟨name⟩ → n' < n) ∧
      ∀ rest, ¬token ⟨name⟩ <+: '$' :: rest →
        Text.replaceAll (token ⟨name⟩) (value name) (s ++ rest) =
          s' ++ Text.replaceAll (token ⟨name⟩) (value name) rest := by
  have hne := token_ne_nil ⟨name⟩
  induction h with
  | nil => exact ⟨[], 0, .nil, Nat.le_refl _, nofun, fun rest _ => rfl⟩
  | @literal c s out n h ih =>
      have hnot := h.opening_not_isPrefix hout
      obtain ⟨s', n', hs', hle, hlt, hreplace⟩ := ih fun ho =>
        hout (ho.trans (List.suffix_cons c out).isInfix)
      refine ⟨c :: s', n', .literal c hs', hle, fun hfirst => hlt ?_, fun rest hrest => ?_⟩
      · rwa [first?_cons_of_not_opening hnot] at hfirst
      · have hprefix : ¬token ⟨name⟩ <+: c :: (s ++ rest) := by
          intro htoken
          cases s with
          | nil =>
              obtain rfl : '$' = c := (List.cons_prefix_cons.1 htoken).1
              exact hrest htoken
          | cons d s =>
              have hopen := (opening_prefix_token ⟨name⟩).trans htoken
              exact hnot ((opening_prefix_cons_cons s).2 ((opening_prefix_cons_cons _).1 hopen))
        rw [List.cons_append, Text.replaceAll_cons_of_not_isPrefix hne hprefix,
          hreplace rest hrest, List.cons_append]
  | @reference name' s mid out m n hname' hmid h _ ih =>
      obtain ⟨s', n', hs', hle, -, hreplace⟩ := ih fun ho =>
        hout (ho.trans (List.suffix_append mid out).isInfix)
      by_cases heq : name = name'
      · subst heq
        refine ⟨value name ++ s', m + n', hmid.append hs', by omega, by omega,
          fun rest hrest => ?_⟩
        · rw [List.append_assoc, Text.replaceAll_append_self hne, hreplace rest hrest,
            List.append_assoc]
      · refine ⟨token ⟨name'⟩ ++ s', m + n' + 1, .reference hname' hmid hs', by omega, ?_,
          fun rest hrest => ?_⟩
        · intro hfirst
          rw [first?_token_append hname'.closing] at hfirst
          cases hfirst
          exact absurd rfl heq
        · rw [List.append_assoc, replaceAll_token_append hname hname' heq, hreplace rest hrest,
            List.append_assoc]

/-- What nothing closes is left alone. -/
theorem round_of_not_closing (h : Reads value s out n) (hout : ¬opening <:+: out)
    (hname : '}' ∉ name) (htail : '}' ∉ tail) :
    ∃ s' n', Reads value s' out n' ∧ (Reference.first? s = some ⟨name⟩ → n' < n) ∧
      Text.replaceAll (token ⟨name⟩) (value name) (s ++ tail) = s' ++ tail := by
  obtain ⟨s', n', hs', -, hlt, hreplace⟩ := h.round hout hname
  refine ⟨s', n', hs', hlt, ?_⟩
  rw [hreplace tail, replaceAll_of_not_closing ⟨name⟩ (value name) htail]
  intro htoken
  rcases List.mem_cons.1 (htoken.subset (closing_mem_token ⟨name⟩)) with hc | hc
  · exact absurd hc (by decide)
  · exact htail hc

end Reads

variable {value : List Char → List Char} {n rounds : Nat}

/-- Substitution gives the reading in which nothing opens a reference, and leaves alone what comes
behind it with nothing that closes one. -/
theorem expand_append (hout : ¬opening <:+: out) (htail : '}' ∉ tail) :
    ∀ {rounds n : Nat} {s : List Char}, Reads value s out n → n ≤ rounds →
      expand value rounds (s ++ tail) = out ++ tail := by
  intro rounds
  induction rounds with
  | zero =>
      intro n s h hn
      obtain rfl | ⟨name, hname, hfirst⟩ := h.first? hout
      · rfl
      · obtain ⟨-, n', -, hlt, -⟩ := h.round_of_not_closing hout hname.closing htail
        have := hlt (by simpa using hfirst [])
        omega
  | succ rounds ih =>
      intro n s h hn
      obtain rfl | ⟨name, hname, hfirst⟩ := h.first? hout
      · rw [expand, first?_append_of_not_closing hout htail]
      · obtain ⟨s', n', hs', hlt, hreplace⟩ := h.round_of_not_closing hout hname.closing htail
        have := hlt (by simpa using hfirst [])
        rw [expand, hfirst tail]
        simp only
        rw [hreplace]
        exact ih hs' (by omega)

/-- A value without a brace that closes something is inserted as it is if nothing behind it closes
anything either, openings or not. -/
theorem expand_last (hout : ¬opening <:+: out) (hname : Proper name)
    (hvalue : '}' ∉ value name) (htail : '}' ∉ tail) :
    ∀ {rounds n : Nat} {s : List Char}, Reads value s out n → n < rounds →
      expand value rounds (s ++ (token ⟨name⟩ ++ tail)) = out ++ (value name ++ tail) := by
  have hend : '}' ∉ value name ++ tail := by
    intro hmem
    rcases List.mem_append.1 hmem with hmem | hmem
    · exact hvalue hmem
    · exact htail hmem
  have hself : Text.replaceAll (token ⟨name⟩) (value name) (token ⟨name⟩ ++ tail) =
      value name ++ tail := by
    rw [Text.replaceAll_append_self (token_ne_nil ⟨name⟩), replaceAll_of_not_closing _ _ htail]
  have hhead : (token ⟨name⟩ ++ tail).head? ≠ some '{' := head?_token_append ⟨name⟩ tail
  have hdollar : ∀ k, ¬token ⟨k⟩ <+: '$' :: (token ⟨name⟩ ++ tail) := by
    intro k htoken
    have hopen := (opening_prefix_token ⟨k⟩).trans htoken
    rw [token_append] at hopen
    exact absurd ((opening_prefix_cons_cons _).1 hopen).2 (by decide)
  intro rounds
  induction rounds with
  | zero => intro n s _ hn; omega
  | succ rounds ih =>
      intro n s h hn
      obtain rfl | ⟨k, hk, hfirst⟩ := h.first? hout
      · rw [expand, first?_append_of_not_opening hout hhead, first?_token_append hname.closing]
        simp only
        rw [replaceAll_append_of_not_opening _ _ hout hhead, hself]
        exact expand_append hout hend (.self value out) (Nat.zero_le rounds)
      · obtain ⟨s', n', hs', -, hlt, hreplace⟩ := h.round hout hk.closing
        have hless := hlt (by simpa using hfirst [])
        rw [expand, hfirst]
        simp only
        rw [hreplace _ (hdollar k)]
        by_cases heq : k = name
        · subst heq
          rw [hself]
          exact expand_append hout hend hs' (by omega)
        · rw [replaceAll_token_append (r := ⟨k⟩) hk.closing hname heq,
            replaceAll_of_not_closing _ _ htail]
          exact ih hs' (by omega)

end Reference

end ModemScript
