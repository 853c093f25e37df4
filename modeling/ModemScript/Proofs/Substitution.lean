import Mathlib.Data.Set.Finite.List
import Mathlib.Logic.Relation
import Mathlib.Order.WellFoundedSet
import ModemScript.Proofs.Template

/-!
# What substitution computes

A text with references has a meaning that does not mention rounds: every reference
stands for the expansion of what its variable displays (`Expands`). The relation also
counts the references that are visited on the way, each as often as it is visited.

A round of substitution keeps the meaning of the text (`Expands.replace`): the
occurrences of one reference make way for what their variable displays, and each
of them is one visit less. So the count is the measure, and rounds for as many visits
as there are suffice (`expand_text`). Fewer may do, since a round takes all occurrences
of a reference at once.

Whether there is a meaning at all is a question about the store alone. Variables that
do not refer to themselves, however indirectly, have one, since a store has finitely many
entries (`exists_expands`).
-/

namespace ModemScript

/-- The text that a template stands for, and how many references are visited to find it,
where `value` tells what each variable displays. -/
inductive Expands (value : Key → Template) : Template → List Char → Nat → Prop
  | nil : Expands value [] [] 0
  | literal {c : Char} {h : c ≠ '$'} {t : Template} {out : List Char} {n : Nat} :
      Expands value t out n → Expands value (.literal c h :: t) (c :: out) n
  | reference {k : Key} {t : Template} {mid out : List Char} {m n : Nat} :
      Expands value (value k) mid m → Expands value t out n →
      Expands value (.reference k :: t) (mid ++ out) (m + n + 1)

namespace Expands

variable {value : Key → Template} {t t' : Template} {out out' : List Char} {n n' : Nat}

theorem append (h : Expands value t out n) (h' : Expands value t' out' n') :
    Expands value (t ++ t') (out ++ out') (n + n') := by
  induction h with
  | nil =>
      rw [Nat.zero_add]
      exact h'
  | literal _ ih => exact .literal ih
  | @reference k t mid out m n hk _ _ ih =>
      have hsum : m + n + 1 + n' = m + (n + n') + 1 := by omega
      rw [hsum, List.append_assoc]
      exact .reference hk ih

/-- A template stands for one text. -/
theorem det (h : Expands value t out n) (h' : Expands value t out' n') :
    out' = out ∧ n' = n := by
  induction h generalizing out' n' with
  | nil =>
      cases h'
      exact ⟨rfl, rfl⟩
  | literal _ ih =>
      cases h' with
      | literal h' =>
          obtain ⟨rfl, rfl⟩ := ih h'
          exact ⟨rfl, rfl⟩
  | reference _ _ ihk ih =>
      cases h' with
      | reference hk' h' =>
          obtain ⟨rfl, rfl⟩ := ihk hk'
          obtain ⟨rfl, rfl⟩ := ih h'
          exact ⟨rfl, rfl⟩

/-- Nothing that opens a reference is left. -/
theorem dollar_not_mem (h : Expands value t out n) : '$' ∉ out := by
  induction h with
  | nil => exact List.not_mem_nil
  | @literal c hc t out n _ ih =>
      intro hmem
      rcases List.mem_cons.1 hmem with h | h
      · exact hc h.symm
      · exact ih h
  | reference _ _ ihk ih =>
      intro hmem
      rcases List.mem_append.1 hmem with h | h
      · exact ihk h
      · exact ih h

/-- A template without references stands for its own text, and no reference is visited. -/
theorem eq_text (h : Expands value t out n) (ht : t.first? = none) : out = t.text ∧ n = 0 := by
  induction h with
  | nil => exact ⟨rfl, rfl⟩
  | @literal c hc t out n _ ih =>
      obtain ⟨rfl, rfl⟩ := ih ht
      exact ⟨rfl, rfl⟩
  | reference _ _ _ _ => cases ht

/-- A round keeps the text that a template stands for, and saves a visit for each reference
that it replaces. -/
theorem replace (h : Expands value t out n) (k : Key) :
    ∃ n', Expands value (t.replace k (value k)) out n' ∧ n' + t.count (.reference k) = n := by
  induction h with
  | nil => exact ⟨0, .nil, rfl⟩
  | @literal c hc t out n _ ih =>
      obtain ⟨n', h', hn⟩ := ih
      have hne : Piece.literal c hc ≠ .reference k := nofun
      refine ⟨n', ?_, ?_⟩
      · rw [Template.replace_cons_of_ne hne]
        exact .literal h'
      · rw [List.count_cons_of_ne hne, hn]
  | @reference k' t mid out m n hk _ _ ih =>
      obtain ⟨n', h', hn⟩ := ih
      by_cases heq : k' = k
      · subst heq
        refine ⟨m + n', ?_, ?_⟩
        · rw [Template.replace_cons_self]
          exact hk.append h'
        · rw [List.count_cons_self]
          omega
      · have hne : Piece.reference k' ≠ .reference k := fun h => heq (Piece.reference.inj h)
        refine ⟨m + n' + 1, ?_, ?_⟩
        · rw [Template.replace_cons_of_ne hne]
          exact .reference hk h'
        · rw [List.count_cons_of_ne hne]
          omega

end Expands

/-! ## Rounds -/

namespace Reference

theorem expand_of_none {sub : List Char → List Char} {s : List Char} (h : first? s = none)
    (rounds : Nat) : expand sub rounds s = s := by
  cases rounds with
  | zero => rfl
  | succ rounds => rw [expand, h]

theorem expand_of_some {sub : List Char → List Char} {s : List Char} {r : Reference}
    (h : first? s = some r) (rounds : Nat) :
    expand sub (rounds + 1) s =
      expand sub rounds (Text.replaceAll r.token (sub r.name) s) := by
  rw [expand, h]

/-- As many rounds as there are visits give the text that a template stands for. -/
theorem expand_text {value : Key → Template} {sub : List Char → List Char}
    (hsub : ∀ k : Key, sub k.name = (value k).text) (rounds : Nat) :
    ∀ {t : Template} {out : List Char} {n : Nat}, Expands value t out n → n ≤ rounds →
      expand sub rounds t.text = out := by
  induction rounds with
  | zero =>
      intro t out n h hn
      cases hfirst : t.first? with
      | none => exact (h.eq_text hfirst).1.symm
      | some k =>
          obtain ⟨n', -, hcount⟩ := h.replace k
          have hpos := List.count_pos_iff.2 (Template.mem_of_first? hfirst)
          omega
  | succ rounds ih =>
      intro t out n h hn
      have htext := t.first?_text
      cases hfirst : t.first? with
      | none =>
          rw [hfirst] at htext
          rw [expand_of_none htext]
          exact (h.eq_text hfirst).1.symm
      | some k =>
          obtain ⟨n', h', hcount⟩ := h.replace k
          have hpos := List.count_pos_iff.2 (Template.mem_of_first? hfirst)
          rw [hfirst] at htext
          rw [expand_of_some htext, hsub, Template.replaceAll_text]
          exact ih h' (by omega)

end Reference

/-! ## Variables that do not refer to themselves -/

def Refers (value : Key → Template) (k k' : Key) : Prop := Piece.reference k' ∈ value k

theorem exists_expands_of_keys {value : Key → Template} {t : Template}
    (h : ∀ k, Piece.reference k ∈ t → ∃ out n, Expands value (value k) out n) :
    ∃ out n, Expands value t out n := by
  induction t with
  | nil => exact ⟨[], 0, .nil⟩
  | cons p t ih =>
      obtain ⟨out, n, hout⟩ := ih fun k hk => h k (List.mem_cons_of_mem _ hk)
      cases p with
      | literal c hc => exact ⟨c :: out, n, .literal hout⟩
      | reference k =>
          obtain ⟨mid, m, hmid⟩ := h k (List.mem_cons_self ..)
          exact ⟨mid ++ out, m + n + 1, .reference hmid hout⟩

/-- Where finitely many variables refer to others and none to itself, every template stands
for a text. -/
theorem exists_expands {value : Key → Template} (hfinite : {k | ∃ k', Refers value k k'}.Finite)
    (hacyclic : ∀ k, ¬Relation.TransGen (Refers value) k k) (t : Template) :
    ∃ out n, Expands value t out n := by
  have horder : IsStrictOrder Key fun k' k => Relation.TransGen (Refers value) k k' :=
    { irrefl := hacyclic, trans := fun _ _ _ h h' => h'.trans h }
  have hwf := hfinite.wellFoundedOn (r := fun k' k => Relation.TransGen (Refers value) k k')
  have hleaf : ∀ k, (¬∃ k', Refers value k k') → ∃ out n, Expands value (value k) out n :=
    fun k hk => exists_expands_of_keys fun k' hk' => absurd ⟨k', hk'⟩ hk
  refine exists_expands_of_keys fun k _ => ?_
  by_cases hk : ∃ k', Refers value k k'
  · refine hwf.induction hk fun k _ ih => exists_expands_of_keys fun k' hk' => ?_
    by_cases hrefers : ∃ k'', Refers value k' k''
    · exact ih k' hrefers (.single hk')
    · exact hleaf k' hrefers
  · exact hleaf k hk

namespace Store

theorem find?_eq_none {key : String} {entries : List (String × Value)}
    (h : key ∉ entries.map Prod.fst) : find? key entries = none := by
  induction entries with
  | nil => rfl
  | cons e entries ih =>
      have hne : key ≠ e.1 := fun heq => h (heq ▸ List.mem_cons_self ..)
      rw [find?, if_neg hne, ih fun hmem => h (List.mem_cons_of_mem _ hmem)]

/-- Only variables that are set can refer to others. -/
theorem finite_refers (s : Store) {value : Key → Template}
    (hvalue : ∀ k : Key, (s.display (String.ofList k.name)).toList = (value k).text) :
    {k | ∃ k', Refers value k k'}.Finite := by
  have hset := (s.entries.map Prod.fst).finite_toSet.preimage Key.ofList_name_injective.injOn
  refine hset.subset ?_
  rintro k ⟨k', hk'⟩
  by_contra hmem
  refine Template.text_ne_nil hk' ?_
  rw [← hvalue, display, get?, find?_eq_none hmem]
  rfl

/-- Substitution gives the text that a template stands for. The store may refer from variable
to variable in any way that does not lead back, and the template may visit as many references
as there are rounds. -/
theorem substitute_eq_expansion (s : Store) (value : Key → Template)
    (hvalue : ∀ k : Key, (s.display (String.ofList k.name)).toList = (value k).text)
    (hacyclic : ∀ k, ¬Relation.TransGen (Refers value) k k) (t : Template) :
    ∃ out n, (∀ out' n', Expands value t out' n' ↔ out' = out ∧ n' = n) ∧
      Reference.first? out = none ∧
      (n ≤ Reference.maxRounds → s.substitute (String.ofList t.text) = String.ofList out) := by
  obtain ⟨out, n, h⟩ := exists_expands (s.finite_refers hvalue) hacyclic t
  refine ⟨out, n, ?_, Reference.first?_eq_none h.dollar_not_mem, ?_⟩
  · intro out' n'
    refine ⟨h.det, ?_⟩
    rintro ⟨rfl, rfl⟩
    exact h
  · intro hn
    rw [substitute, String.toList_ofList]
    exact congrArg String.ofList (Reference.expand_text hvalue _ h hn)

/-- A variable that refers to another one, next to one that is not set. -/
theorem substitute_eq_expansion_nested :
    Store.substitute ⟨[("a", .text "x${b}"), ("b", .int 7)]⟩ "AT${a},${b}${c}" = "ATx7,7" := by
  let a : Key := ⟨⟨['a']⟩, by decide, by decide⟩
  let b : Key := ⟨⟨['b']⟩, by decide, by decide⟩
  let c : Key := ⟨⟨['c']⟩, by decide, by decide⟩
  let s : Store := ⟨[("a", .text "x${b}"), ("b", .int 7)]⟩
  let va : Template := [.literal 'x' (by decide), .reference b]
  let vb : Template := [.literal '7' (by decide)]
  let value : Key → Template := fun k => if k = a then va else if k = b then vb else []
  let t : Template := [.literal 'A' (by decide), .literal 'T' (by decide), .reference a,
    .literal ',' (by decide), .reference b, .reference c]
  have hother : ∀ k, k ≠ a → k ≠ b → value k = [] := fun k hka hkb => by
    show (if k = a then va else if k = b then vb else []) = []
    rw [if_neg hka, if_neg hkb]
  have hvalue : ∀ k : Key, (s.display (String.ofList k.name)).toList = (value k).text := by
    intro k
    rcases eq_or_ne k a with rfl | hka
    · decide +kernel
    rcases eq_or_ne k b with rfl | hkb
    · decide +kernel
    have hunset : String.ofList k.name ∉ s.entries.map Prod.fst := by
      intro hmem
      rcases List.mem_cons.1 hmem with h | h
      · exact hka (Key.ofList_name_injective h)
      · exact hkb (Key.ofList_name_injective (List.mem_singleton.1 h))
    rw [hother k hka hkb, display, get?, find?_eq_none hunset]
    rfl
  have hrefers : ∀ k k', Refers value k k' → k = a ∧ k' = b := by
    intro k k' h
    rcases eq_or_ne k a with rfl | hka
    · rcases List.mem_cons.1 h with h | h
      · cases h
      · exact ⟨rfl, Piece.reference.inj (List.mem_singleton.1 h)⟩
    rcases eq_or_ne k b with rfl | hkb
    · cases List.mem_singleton.1 h
    · rw [Refers, hother k hka hkb] at h
      exact absurd h List.not_mem_nil
  have hacyclic : ∀ k, ¬Relation.TransGen (Refers value) k k := by
    intro k h
    obtain ⟨k', hfirst, -⟩ := Relation.TransGen.head'_iff.1 h
    obtain ⟨k'', -, hlast⟩ := Relation.TransGen.tail'_iff.1 h
    obtain rfl := (hrefers _ _ hfirst).1
    exact absurd (hrefers _ _ hlast).2 (by decide)
  obtain ⟨out, n, hiff, -, hresult⟩ := substitute_eq_expansion s value hvalue hacyclic t
  have hb : Expands value (value b) ['7'] 0 := .literal .nil
  have ha : Expands value (value a) ['x', '7'] 1 := .literal (.reference hb .nil)
  have hc : Expands value (value c) [] 0 := .nil
  have ht : Expands value t ['A', 'T', 'x', '7', ',', '7'] 4 :=
    .literal (.literal (.reference ha (.literal (.reference hb (.reference hc .nil)))))
  obtain ⟨rfl, rfl⟩ := (hiff _ _).1 ht
  have htext : String.ofList t.text = "AT${a},${b}${c}" := by decide +kernel
  rw [← htext]
  exact hresult (by decide)

end Store

end ModemScript
