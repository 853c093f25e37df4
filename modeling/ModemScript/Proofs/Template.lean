import ModemScript.Proofs.Cuts
import ModemScript.Reference

/-!
# Texts with references, and the syntax that they are

A text in which every `$` begins a reference to a proper key can be taken apart in
one way: it is a sequence of characters and references, a template. Substitution
works on texts and knows nothing of templates. This file shows that on texts of
templates it might as well: the leftmost reference of the text is the first of the
template (`first?_text`), and replacing all occurrences of one reference by the text
of another template is replacing it in the template (`replaceAll_text`).

The second is where a text could surprise. An occurrence of a reference could begin
inside another reference, or in a value and end behind it. Neither happens, since a
reference begins with `$` and a template has no `$` elsewhere.
-/

namespace ModemScript

/-! ## All occurrences -/

namespace Text

variable {piece value s before after : List Char} {c : Char}

theorem replaceAll_of_cut?_eq_none (h : cut? piece s = none) : replaceAll piece value s = s := by
  rw [replaceAll]
  split
  · rfl
  · split
    · rfl
    · next heq => rw [h] at heq; cases heq

theorem replaceAll_of_cut?_eq_some (hpiece : piece ≠ []) (h : cut? piece s = some (before, after)) :
    replaceAll piece value s = before ++ value ++ replaceAll piece value after := by
  rw [replaceAll, dif_neg hpiece]
  split
  · next heq => rw [h] at heq; cases heq
  · next heq => rw [h] at heq; cases heq; rfl

theorem replaceAll_nil (piece value : List Char) : replaceAll piece value [] = [] := by
  by_cases h : piece = []
  · rw [replaceAll, dif_pos h]
  · exact replaceAll_of_cut?_eq_none (if_neg h)

theorem replaceAll_append_self (hpiece : piece ≠ []) (value s : List Char) :
    replaceAll piece value (piece ++ s) = value ++ replaceAll piece value s := by
  rw [replaceAll_of_cut?_eq_some hpiece (cut?_append_self hpiece s), List.nil_append]

theorem replaceAll_cons_of_not_isPrefix (hpiece : piece ≠ []) (h : ¬piece <+: c :: s) :
    replaceAll piece value (c :: s) = c :: replaceAll piece value s := by
  have hcut := cut?_cons_of_not_isPrefix h
  cases hs : cut? piece s with
  | none =>
      rw [hs] at hcut
      rw [replaceAll_of_cut?_eq_none hcut, replaceAll_of_cut?_eq_none hs]
  | some cut =>
      rw [hs] at hcut
      rw [replaceAll_of_cut?_eq_some hpiece hcut, replaceAll_of_cut?_eq_some hpiece hs]
      rfl

/-- Nothing is replaced in a text without the character that a piece begins with. -/
theorem replaceAll_append_of_not_mem {rest w : List Char} (hw : c ∉ w) (value s : List Char) :
    replaceAll (c :: rest) value (w ++ s) = w ++ replaceAll (c :: rest) value s := by
  induction w with
  | nil => rfl
  | cons d w ih =>
      have hprefix : ¬(c :: rest) <+: d :: (w ++ s) :=
        fun h => hw (List.mem_cons.2 (.inl (List.cons_prefix_cons.1 h).1))
      rw [List.cons_append, replaceAll_cons_of_not_isPrefix (List.cons_ne_nil c rest) hprefix,
        ih fun h => hw (List.mem_cons_of_mem _ h), List.cons_append]

end Text

/-! ## Templates -/

/-- A reference whose name has neither the character that opens references nor the one that
closes them. -/
structure Key extends Reference where
  dollar : '$' ∉ name
  brace : '}' ∉ name
  deriving DecidableEq

namespace Key

theorem token_ne_nil (k : Key) : k.token ≠ [] := List.cons_ne_nil _ _

theorem ofList_name_injective : Function.Injective fun k : Key => String.ofList k.name := by
  rintro ⟨⟨name⟩, _, _⟩ ⟨⟨name'⟩, _, _⟩ h
  obtain rfl : name = name' := String.ofList_injective h
  rfl

/-- No reference begins inside another one. -/
theorem dollar_not_mem_tail (k : Key) : '$' ∉ '{' :: k.name ++ ['}'] := by
  intro h
  rcases List.mem_append.1 h with h | h
  · rcases List.mem_cons.1 h with h | h
    · exact absurd h (by decide)
    · exact k.dollar h
  · exact absurd h (by decide)

end Key

namespace Reference

theorem first?_cons {c : Char} (hc : c ≠ '$') (s : List Char) : first? (c :: s) = first? s := by
  have hprefix : ¬opening <+: c :: s := fun h => hc (List.cons_prefix_cons.1 h).1.symm
  rw [first?, first?, Text.cut?_cons_of_not_isPrefix hprefix]
  cases Text.cut? opening s <;> rfl

/-- A name ends with the first closing brace. -/
theorem cut?_closing {name : List Char} (h : '}' ∉ name) (s : List Char) :
    Text.cut? closing (name ++ closing ++ s) = some (name, s) := by
  refine (Text.cut?_eq_some_iff (List.cons_ne_nil _ _)).2 ⟨rfl, fun hin => h ?_⟩
  rw [← List.append_nil name]
  exact hin.subset List.mem_cons_self

theorem first?_token_append {name : List Char} (h : '}' ∉ name) (s : List Char) :
    first? (token ⟨name⟩ ++ s) = some ⟨name⟩ := by
  have hopen : token ⟨name⟩ ++ s = opening ++ (name ++ closing ++ s) := by
    rw [token, List.append_assoc, List.append_assoc, List.append_assoc]
  have hne : opening ≠ [] := List.cons_ne_nil _ _
  rw [first?, hopen, Text.cut?_append_self hne, Option.bind_some]
  dsimp only
  rw [cut?_closing h]
  rfl

/-- A text begins with one reference only. -/
theorem eq_of_token_isPrefix {name name' s : List Char} (hname : '}' ∉ name) (hname' : '}' ∉ name')
    (h : token ⟨name⟩ <+: token ⟨name'⟩ ++ s) : name = name' := by
  obtain ⟨rest, hrest⟩ := h
  have hfirst := first?_token_append hname rest
  rw [hrest, first?_token_append hname' s] at hfirst
  cases hfirst
  rfl

theorem first?_token (k : Key) (s : List Char) : first? (k.token ++ s) = some k.toReference :=
  first?_token_append k.brace s

theorem eq_of_prefix {k k' : Key} {s : List Char} (h : k.token <+: k'.token ++ s) : k = k' := by
  have hname := eq_of_token_isPrefix k.brace k'.brace h
  obtain ⟨⟨name⟩, _, _⟩ := k
  obtain ⟨⟨name'⟩, _, _⟩ := k'
  obtain rfl : name = name' := hname
  rfl

theorem first?_eq_none {s : List Char} (h : '$' ∉ s) : first? s = none := by
  induction s with
  | nil => rfl
  | cons c s ih =>
      have hc : c ≠ '$' := fun heq => h (heq ▸ List.mem_cons_self ..)
      rw [first?_cons hc, ih fun hs => h (List.mem_cons_of_mem _ hs)]

end Reference

inductive Piece where
  | literal (c : Char) (h : c ≠ '$')
  | reference (k : Key)
  deriving DecidableEq

abbrev Template := List Piece

namespace Piece

def text : Piece → List Char
  | .literal c _ => [c]
  | .reference k => k.token

def key? : Piece → Option Key
  | .literal _ _ => none
  | .reference k => some k

end Piece

namespace Template

def text (t : Template) : List Char := t.flatMap Piece.text

def first? (t : Template) : Option Key := t.findSome? Piece.key?

/-- The template `v` in place of every reference to `k`. -/
def replace (t : Template) (k : Key) (v : Template) : Template :=
  t.flatMap fun p => if p = .reference k then v else [p]

@[simp] theorem text_cons (p : Piece) (t : Template) : text (p :: t) = p.text ++ text t := rfl

theorem text_append (t t' : Template) : text (t ++ t') = text t ++ text t' :=
  List.flatMap_append ..

theorem replace_cons_self (k : Key) (v t : Template) :
    replace (.reference k :: t) k v = v ++ replace t k v := by
  rw [replace, List.flatMap_cons, if_pos rfl]
  rfl

theorem replace_cons_of_ne {k : Key} {p : Piece} (h : p ≠ .reference k) (v t : Template) :
    replace (p :: t) k v = p :: replace t k v := by
  rw [replace, List.flatMap_cons, if_neg h]
  rfl

/-- The leftmost reference of a template's text is its first reference. -/
theorem first?_text (t : Template) :
    Reference.first? t.text = t.first?.map Key.toReference := by
  induction t with
  | nil => rfl
  | cons p t ih =>
      cases p with
      | literal c hc => exact (Reference.first?_cons hc (text t)).trans ih
      | reference k => exact Reference.first?_token k (text t)

theorem mem_of_first? {t : Template} {k : Key} (h : t.first? = some k) :
    Piece.reference k ∈ t := by
  obtain ⟨p, hp, hk⟩ := List.exists_of_findSome?_eq_some h
  cases p with
  | literal c hc => cases hk
  | reference k' =>
      cases hk
      exact hp

theorem text_ne_nil {t : Template} {k : Key} (h : Piece.reference k ∈ t) : t.text ≠ [] :=
  fun hnil => k.token_ne_nil (List.flatMap_eq_nil_iff.1 hnil _ h)

/-- Replacing a reference in a template's text is replacing it in the template. -/
theorem replaceAll_text (k : Key) (v t : Template) :
    Text.replaceAll k.token v.text t.text = text (t.replace k v) := by
  induction t with
  | nil => exact Text.replaceAll_nil ..
  | cons p t ih =>
      by_cases hp : p = .reference k
      · subst hp
        rw [replace_cons_self, text_append, ← ih]
        exact Text.replaceAll_append_self k.token_ne_nil v.text (text t)
      · rw [replace_cons_of_ne hp, text_cons, text_cons, ← ih]
        cases p with
        | literal c hc =>
            have hnot : '$' ∉ [c] := fun h => hc (List.mem_singleton.1 h).symm
            exact Text.replaceAll_append_of_not_mem hnot v.text (text t)
        | reference k' =>
            have hprefix : ¬k.token <+: k'.token ++ text t :=
              fun h => hp (congrArg Piece.reference (Reference.eq_of_prefix h).symm)
            refine (Text.replaceAll_cons_of_not_isPrefix k.token_ne_nil hprefix).trans ?_
            refine congrArg ('$' :: ·) ?_
            exact Text.replaceAll_append_of_not_mem k'.dollar_not_mem_tail v.text (text t)

end Template

end ModemScript
