import ModemScript.Collectable.Extract
import ModemScript.Proofs.Template

/-!
# What stands between two texts

The line that carries a value is found by a pattern: the text before the value, as much as
possible, the text after it. On a line without line feeds nothing of this is particular to
patterns. The leftmost match begins with the first occurrence of the one text, since a later one
has no more behind it, and as much as possible means up to the last occurrence of the other text
(`find?_linePattern`). So the match is a plain search for two texts, and it has one part that the
two texts do not account for (`Between`).

That part is not what is collected. Both texts are deleted from the match wherever they occur, one
after the other, and so from the value as well if it contains one of them or if one of them occurs
across its borders. Where neither does, the part between them is what is left.
-/

namespace ModemScript

namespace Text

variable {piece s before after : List Char}

/-! ## The first and the last occurrence -/

theorem not_isPrefix_of_isPrefixOf? (h : piece.isPrefixOf? s = none) : ¬piece <+: s := by
  rintro ⟨rest, hrest⟩
  rw [List.isPrefixOf?_eq_some_iff_append_eq.2 hrest] at h
  cases h

theorem cut?_of_isPrefixOf? {rest : List Char} (h : piece.isPrefixOf? s = some rest) :
    cut? piece s = some ([], rest) := by
  cases s with
  | nil =>
      obtain ⟨rfl, rfl⟩ := List.append_eq_nil_iff.1 (append_of_isPrefixOf? h).symm
      rfl
  | cons c s => rw [cut?, h]

/-- What stands before and after the last occurrence of `piece` in a text. -/
def cutLast? (piece : List Char) : List Char → Option (List Char × List Char)
  | [] => if piece = [] then some ([], []) else none
  | c :: s =>
    match cutLast? piece s with
    | some (before, after) => some (c :: before, after)
    | none => (piece.isPrefixOf? (c :: s)).map fun rest => ([], rest)

theorem append_of_cutLast? (h : cutLast? piece s = some (before, after)) :
    s = before ++ piece ++ after := by
  induction s generalizing before with
  | nil =>
      rw [cutLast?] at h
      split at h
      · next hp =>
          cases h
          rw [hp]
          rfl
      · cases h
  | cons c s ih =>
      rw [cutLast?] at h
      split at h
      · next hs =>
          cases h
          rw [ih hs]
          rfl
      · obtain ⟨rest, hrest, heq⟩ := Option.map_eq_some_iff.1 h
        cases heq
        exact append_of_isPrefixOf? hrest

theorem cutLast?_eq_none_iff : cutLast? piece s = none ↔ ¬piece <:+: s := by
  induction s with
  | nil =>
      rw [cutLast?, List.infix_nil]
      split
      · next hp => simp [hp]
      · next hp => simp [hp]
  | cons c s ih =>
      rw [cutLast?, List.infix_cons_iff]
      cases hs : cutLast? piece s with
      | some cut =>
          have hoccurs : piece <:+: s := ⟨cut.1, cut.2, (append_of_cutLast? hs).symm⟩
          simp [hoccurs]
      | none =>
          have hnot := ih.1 hs
          cases hp : piece.isPrefixOf? (c :: s) with
          | some rest =>
              have hstands : piece <+: c :: s := ⟨rest, (append_of_isPrefixOf? hp).symm⟩
              simp [hstands]
          | none =>
              have hstands := not_isPrefix_of_isPrefixOf? hp
              simp [hstands, hnot]

theorem length_le_of_cutLast? {b : List Char} (h : cutLast? piece s = some (before, after))
    (hb : b ++ piece <+: s) : b.length ≤ before.length := by
  induction s generalizing before b with
  | nil =>
      have hnil := List.prefix_nil.1 hb
      rw [(List.append_eq_nil_iff.1 hnil).1]
      exact Nat.zero_le _
  | cons c s ih =>
      cases b with
      | nil => exact Nat.zero_le _
      | cons c' b =>
          have hrest := (List.cons_prefix_cons.1 hb).2
          rw [cutLast?] at h
          cases hs : cutLast? piece s with
          | some cut =>
              rw [hs] at h
              cases h
              exact Nat.succ_le_succ (ih hs hrest)
          | none =>
              have hoccurs : piece <:+: s :=
                (List.suffix_append b piece).isInfix.trans hrest.isInfix
              exact absurd hoccurs (cutLast?_eq_none_iff.1 hs)

/-! ## Between two texts -/

variable {left right : List Char}

/-- The text behind the first occurrence of `left` up to the last occurrence of `right` behind
that. -/
def between? (left right s : List Char) : Option (List Char) :=
  (cut? left s).bind fun cut => (cutLast? right cut.2).map Prod.fst

theorem between?_of_isPrefixOf? {rest : List Char} (h : left.isPrefixOf? s = some rest) :
    between? left right s = (cutLast? right rest).map Prod.fst := by
  rw [between?, cut?_of_isPrefixOf? h]
  rfl

theorem between?_cons_of_not_isPrefix {c : Char} (h : ¬left <+: c :: s) :
    between? left right (c :: s) = between? left right s := by
  rw [between?, between?, cut?_cons_of_not_isPrefix h, Option.bind_map]
  rfl

/-- The text `t` stands between the first occurrence of `left` in `s` and the last occurrence of
`right` behind that, with `x` before and `y` after all this. -/
structure Between (left right s x t y : List Char) : Prop where
  eq : s = x ++ left ++ (t ++ right ++ y)
  first : ∀ x', x' ++ left <+: s → x.length ≤ x'.length
  last : ∀ t', t' ++ right <+: t ++ right ++ y → t'.length ≤ t.length

theorem between_of_cuts {x rest t y : List Char} (hleft : cut? left s = some (x, rest))
    (hright : cutLast? right rest = some (t, y)) : Between left right s x t y := by
  have hrest := append_of_cutLast? hright
  subst hrest
  exact ⟨append_of_cut? hleft, fun _ => length_le_of_cut? hleft,
    fun _ => length_le_of_cutLast? hright⟩

/-- The search finds what stands between, and there is one such text at most. -/
theorem between?_eq_some_iff {t : List Char} :
    between? left right s = some t ↔ ∃ x y, Between left right s x t y := by
  constructor
  · intro h
    obtain ⟨⟨x, rest⟩, hleft, hlast⟩ := Option.bind_eq_some_iff.1 h
    obtain ⟨⟨t', y⟩, hright, rfl⟩ := Option.map_eq_some_iff.1 hlast
    exact ⟨x, y, between_of_cuts hleft hright⟩
  · rintro ⟨x, y, h⟩
    have hleft : left <:+: s := ⟨x, t ++ right ++ y, h.eq.symm⟩
    obtain ⟨⟨x', rest⟩, hcut⟩ := Option.isSome_iff_exists.1 (cut?_isSome_of_isInfix hleft)
    have hsplit := append_of_cut? hcut
    have hx : (x ++ left).length = (x' ++ left).length := by
      have hle := length_le_of_cut? hcut ⟨_, h.eq.symm⟩
      have hge := h.first x' ⟨rest, hsplit.symm⟩
      simp only [List.length_append]
      omega
    obtain ⟨-, rfl⟩ := List.append_inj (h.eq.symm.trans hsplit) hx
    have hright : right <:+: t ++ right ++ y := ⟨t, y, rfl⟩
    cases hlast : cutLast? right (t ++ right ++ y) with
    | none => exact absurd hright (cutLast?_eq_none_iff.1 hlast)
    | some cut =>
        have hsplit' := append_of_cutLast? hlast
        have ht : (t ++ right).length = (cut.1 ++ right).length := by
          have hle := length_le_of_cutLast? hlast ⟨y, rfl⟩
          have hge := h.last cut.1 ⟨cut.2, hsplit'.symm⟩
          simp only [List.length_append]
          omega
        have heq : t = cut.1 := List.append_cancel_right (List.append_inj hsplit' ht).1
        rw [between?, hcut, Option.bind_some, hlast, Option.map_some, heq]

end Text

/-! ## The pattern for a line -/

namespace Pattern

theorem contains_single (c x : Char) : (CharClass.single c).contains x = (x == c) := by
  rw [Bool.eq_iff_iff, beq_iff_eq, CharClass.single, CharClass.contains, Bool.and_eq_true,
    decide_eq_true_eq, decide_eq_true_eq, ← Char.toNat_inj]
  omega

theorem contains_dot {x : Char} (h : x ≠ '\n') :
    (CharClass.compl (.single '\n')).contains x = true := by
  rw [CharClass.contains, contains_single, beq_false_of_ne h]
  rfl

theorem ends_literal_cons (c : Char) (p : List Char) (start : Cursor) :
    ends (literal (c :: p)) start =
      (ends (char (.single c)) start).flatMap (ends (literal p)) := by
  cases p with
  | nil =>
      show _ = (ends (char (.single c)) start).flatMap fun stop => [stop]
      rw [List.flatMap_singleton']
      rfl
  | cons c' p => rfl

/-- A text is matched where it stands. -/
theorem ends_literal (p before after : List Char) :
    ends (literal p) ⟨before, after⟩ =
      (p.isPrefixOf? after).toList.map fun rest => ⟨p.reverse ++ before, rest⟩ := by
  induction p generalizing before after with
  | nil => rfl
  | cons c p ih =>
      rw [ends_literal_cons]
      cases after with
      | nil => rfl
      | cons x after =>
          simp only [ends, contains_single, List.isPrefixOf?]
          by_cases hx : x = c
          · subst hx
            rw [if_pos (beq_self_eq_true x), if_pos (beq_self_eq_true x), List.flatMap_singleton,
              ih, List.reverse_cons, List.append_assoc]
            rfl
          · rw [if_neg (by rwa [beq_iff_eq]), if_neg (by rwa [beq_iff_eq, eq_comm])]
            rfl

theorem rounds_dot {after : List Char} (h : '\n' ∉ after) (before : List Char) :
    rounds (ends dot) true after.length ⟨before, after⟩ =
      (Cursor.onwards before after).reverse := by
  induction after generalizing before with
  | nil => rfl
  | cons c after ih =>
      have hc : c ≠ '\n' := fun heq => h (heq ▸ List.mem_cons_self)
      have hafter : '\n' ∉ after := fun hmem => h (List.mem_cons_of_mem c hmem)
      have hdot : ends dot ⟨before, c :: after⟩ = [⟨c :: before, after⟩] := by
        rw [dot, ends, contains_dot hc]
        rfl
      have hshorter : (⟨c :: before, after⟩ : Cursor).after.length <
          (⟨before, c :: after⟩ : Cursor).after.length := Nat.lt_succ_self after.length
      rw [List.length_cons, rounds, hdot, List.flatMap_singleton, if_pos rfl, if_pos hshorter,
        ih hafter, Cursor.onwards, List.reverse_cons]

/-- As much as possible comes first, and then less and less. -/
theorem ends_rest {after : List Char} (h : '\n' ∉ after) (before : List Char) :
    ends rest ⟨before, after⟩ = (Cursor.onwards before after).reverse := by
  rw [rest, ends, exactly, List.flatMap_singleton]
  exact rounds_dot h before

/-- The last place where a text stands comes first. -/
theorem head?_onwards_reverse (right before after : List Char) :
    ((Cursor.onwards before after).reverse.flatMap (ends (literal right))).head?.map Cursor.after =
      (Text.cutLast? right after).map Prod.snd := by
  induction after generalizing before with
  | nil =>
      rw [Cursor.onwards, List.reverse_singleton, List.flatMap_singleton, ends_literal,
        Text.cutLast?]
      cases right <;> rfl
  | cons c after ih =>
      have hrest := ih (c :: before)
      rw [Cursor.onwards, List.reverse_cons, List.flatMap_append, List.flatMap_singleton,
        List.head?_append, ends_literal, Text.cutLast?]
      cases hlast : Text.cutLast? right after with
      | some cut =>
          rw [hlast] at hrest
          obtain ⟨stop, hstop, hafter⟩ := Option.map_eq_some_iff.1 hrest
          rw [hstop]
          exact congrArg some hafter
      | none =>
          rw [hlast] at hrest
          rw [Option.map_eq_none_iff.1 hrest, Option.none_or]
          cases right.isPrefixOf? (c :: after) <;> rfl

end Pattern

namespace Collectable

open Pattern Text

/-- A match begins where the text before the value stands, and ends with the last place behind it
where the text after the value stands. -/
theorem head?_ends_linePattern {left right after : List Char} (before : List Char)
    (h : '\n' ∉ after) :
    (ends (linePattern left right) ⟨before, after⟩).head?.map Cursor.after =
      (left.isPrefixOf? after).bind fun rest => (cutLast? right rest).map Prod.snd := by
  have hends : ends (linePattern left right) ⟨before, after⟩ =
      (ends (literal left) ⟨before, after⟩).flatMap fun stop =>
        (ends rest stop).flatMap (ends (literal right)) := rfl
  rw [hends, ends_literal]
  cases hleft : left.isPrefixOf? after with
  | none => rfl
  | some tail =>
      have htail : '\n' ∉ tail := by
        rw [append_of_isPrefixOf? hleft] at h
        exact fun hmem => h (List.mem_append_right _ hmem)
      rw [Option.toList_some, List.map_singleton, List.flatMap_singleton, ends_rest htail,
        head?_onwards_reverse]
      rfl

/-- The match that begins at a position, if there is one. -/
theorem match_linePattern {left right after : List Char} (before : List Char) (h : '\n' ∉ after) :
    ((ends (linePattern left right) ⟨before, after⟩).head?.map fun stop =>
        after.take (after.length - stop.after.length)) =
      (left.isPrefixOf? after).bind fun rest =>
        (cutLast? right rest).map fun cut => left ++ cut.1 ++ right := by
  have hmap := congrArg (Option.map fun y : List Char => after.take (after.length - y.length))
    (head?_ends_linePattern before h : _ = (left.isPrefixOf? after).bind fun rest =>
      (cutLast? right rest).map Prod.snd)
  rw [Option.map_map] at hmap
  refine hmap.trans ?_
  cases hleft : left.isPrefixOf? after with
  | none => rfl
  | some tail =>
      cases hlast : cutLast? right tail with
      | none => simp only [Option.bind_some, hlast, Option.map_none]
      | some cut =>
          obtain ⟨t, y⟩ := cut
          have hafter : after = left ++ t ++ right ++ y := by
            rw [append_of_isPrefixOf? hleft, append_of_cutLast? hlast]
            simp only [List.append_assoc]
          simp only [Option.bind_some, hlast, Option.map_some]
          rw [hafter, List.length_append, Nat.add_sub_cancel, List.take_left]

/-- If the second text does not stand behind the first one, it does not stand behind a later
occurrence of that either. -/
theorem between?_eq_none {left right tail s : List Char} {c : Char} (htail : c :: s = left ++ tail)
    (h : cutLast? right tail = none) : between? left right s = none := by
  cases ht : between? left right s with
  | none => rfl
  | some t =>
      obtain ⟨x, y, hbetween⟩ := between?_eq_some_iff.1 ht
      have hlater : t ++ right ++ y <:+ c :: s :=
        ⟨c :: (x ++ left), congrArg (c :: ·) hbetween.eq.symm⟩
      have hlength := congrArg List.length (hbetween.eq ▸ htail)
      have hsuffix : t ++ right ++ y <:+ tail := by
        refine List.suffix_of_suffix_length_le hlater (htail ▸ List.suffix_append left tail) ?_
        simp only [List.length_append, List.length_cons] at hlength ⊢
        omega
      have hoccurs : right <:+: tail := (List.infix_append t right y).trans hsuffix.isInfix
      exact absurd hoccurs (cutLast?_eq_none_iff.1 h)

/-- On a line without line feeds the pattern is a plain search. -/
theorem find?_linePattern {left right s : List Char} (h : '\n' ∉ s) :
    (linePattern left right).find? s =
      (between? left right s).map fun t => left ++ t ++ right := by
  unfold find?
  generalize [] = before
  induction s generalizing before with
  | nil =>
      rw [Cursor.onwards, List.findSome?_singleton, match_linePattern before h]
      cases left with
      | nil =>
          show (cutLast? right []).map _ = ((cutLast? right []).map Prod.fst).map _
          rw [Option.map_map]
          rfl
      | cons c left => rfl
  | cons c s ih =>
      have hs : '\n' ∉ s := fun hmem => h (List.mem_cons_of_mem c hmem)
      rw [Cursor.onwards, List.findSome?_cons, match_linePattern before h, ih hs]
      cases hleft : left.isPrefixOf? (c :: s) with
      | none =>
          rw [between?_cons_of_not_isPrefix (not_isPrefix_of_isPrefixOf? hleft)]
          rfl
      | some tail =>
          rw [between?_of_isPrefixOf? hleft, Option.bind_some]
          cases hlast : cutLast? right tail with
          | some cut => rfl
          | none =>
              rw [between?_eq_none (append_of_isPrefixOf? hleft) hlast]
              rfl

/-! ## What is left of a match -/

/-- If the two texts occur nowhere but on both sides of `t`, deleting them leaves it. -/
theorem replaceAll_match {left right t : List Char} (hleft : left = [] ∨ ¬left <:+: t ++ right)
    (hright : right = [] ∨ ∀ t', t' ++ right <+: t ++ right → t.length ≤ t'.length) :
    replaceAll right [] (replaceAll left [] (left ++ t ++ right)) = t := by
  have hfront : replaceAll left [] (left ++ t ++ right) = t ++ right := by
    rw [List.append_assoc]
    rcases hleft with rfl | hleft
    · rw [replaceAll, dif_pos rfl, List.nil_append]
    · by_cases hne : left = []
      · exact absurd (hne ▸ List.nil_infix) hleft
      · rw [replaceAll_append_self hne, List.nil_append,
          replaceAll_of_cut?_eq_none (cut?_eq_none_iff.2 hleft)]
  rw [hfront]
  by_cases hne : right = []
  · rw [hne, List.append_nil, replaceAll, dif_pos rfl]
  · have hfirst := hright.resolve_left hne
    have hoccurs : right <:+: t ++ right := (List.suffix_append t right).isInfix
    obtain ⟨⟨b, a⟩, hcut⟩ := Option.isSome_iff_exists.1 (cut?_isSome_of_isInfix hoccurs)
    have hsplit := append_of_cut? hcut
    have hlength : (t ++ right).length = (b ++ right).length := by
      have hle := length_le_of_cut? hcut (List.prefix_refl _)
      have hge := hfirst b ⟨a, hsplit.symm⟩
      simp only [List.length_append]
      omega
    obtain ⟨hb, rfl⟩ := List.append_inj ((List.append_nil _).trans hsplit) hlength
    rw [replaceAll_of_cut?_eq_some hne hcut, replaceAll_nil, List.append_nil, List.append_nil]
    exact (List.append_cancel_right hb).symm

/-- What is collected comes from the first line that passes the test and in which there is
something between the two texts. It is that line from the first of them to the last, with both
deleted wherever they occur, and so it is what stands between them if they occur nowhere else
in this. -/
theorem value_of_extract {d : Dialect} {substitute : String → String} {c : Collectable}
    {lines : List String} {v : Value} (hlines : ∀ line ∈ lines, '\n' ∉ line.toList)
    (hv : c.extract d substitute lines = some v) :
    let left := fragment substitute c.before
    let right := fragment substitute c.after
    ∃ test earlier line later x t y, c.lineTest? d = some test ∧
      lines = earlier ++ line :: later ∧
      (∀ l ∈ earlier, test l = true → ¬∃ x t y, Between left right l.toList x t y) ∧
      test line = true ∧ Between left right line.toList x t y ∧
      v = .coerce (String.ofList (replaceAll right [] (replaceAll left [] (left ++ t ++ right)))) ∧
      ((left = [] ∨ ¬left <:+: t ++ right) →
        (right = [] ∨ ∀ t', t' ++ right <+: t ++ right → t.length ≤ t'.length) →
        v = .coerce (String.ofList t)) := by
  intro left right
  obtain ⟨test, htest, hfound⟩ := Option.bind_eq_some_iff.1 hv
  obtain ⟨found, hfirst, hvalue⟩ := Option.bind_eq_some_iff.1 hfound
  obtain ⟨earlier, line, later, rfl, hline, hearlier⟩ := List.findSome?_eq_some_iff.1 hfirst
  split at hline
  · next hpasses =>
      rw [find?_linePattern (hlines line (List.mem_append_right _ List.mem_cons_self))] at hline
      obtain ⟨t, hbetween, rfl⟩ := Option.map_eq_some_iff.1 hline
      obtain ⟨x, y, hsplit⟩ := between?_eq_some_iff.1 hbetween
      have hdeleted : v = .coerce (String.ofList
          (replaceAll right [] (replaceAll left [] (left ++ t ++ right)))) := by
        split at hvalue
        · cases hvalue
        · exact (Option.some.inj hvalue).symm
      refine ⟨test, earlier, line, later, x, t, y, htest, rfl, fun l hl hl' => ?_, hpasses, hsplit,
        hdeleted, fun hleft hright => ?_⟩
      · have hnone := hearlier l hl
        rw [if_pos hl', find?_linePattern (hlines l (List.mem_append_left _ hl)),
          Option.map_eq_none_iff] at hnone
        rintro ⟨x', t', y', h⟩
        rw [between?_eq_some_iff.2 ⟨x', y', h⟩] at hnone
        cases hnone
      · rw [hdeleted, replaceAll_match hleft hright]
  · cases hline

/-- A comma ends the value, which has none in it. -/
theorem value_of_extract_comma :
    let d : Dialect := .literal
    let c : Collectable := ⟨"rssi", none, "+CSQ: ", ","⟩
    let lines := ["", "+CSQ: 31,99", "OK"]
    (∀ line ∈ lines, '\n' ∉ line.toList) ∧ c.extract d id lines = some (.int 31) ∧
      ∃ line ∈ lines, ∃ x t y,
        Between (fragment id c.before) (fragment id c.after) line.toList x t y ∧
          Value.int 31 = .coerce (String.ofList (replaceAll (fragment id c.after) []
            (replaceAll (fragment id c.before) []
              (fragment id c.before ++ t ++ fragment id c.after)))) := by
  intro d c lines
  have hlines : ∀ line ∈ lines, '\n' ∉ line.toList := by decide +kernel
  have hv : c.extract d id lines = some (.int 31) := by decide +kernel
  obtain ⟨-, earlier, line, later, x, t, y, -, hsplit, -, -, hbetween, hdeleted, -⟩ :=
    value_of_extract hlines hv
  refine ⟨hlines, hv, line, ?_, x, t, y, hbetween, hdeleted⟩
  rw [hsplit]
  exact List.mem_append_right _ List.mem_cons_self

/-- With a comma in it, what stands between the two texts is no number, but a number is
collected. -/
theorem value_of_extract_joined :
    let d : Dialect := .literal
    let c : Collectable := ⟨"rssi", none, "+CSQ: ", ","⟩
    let line := "+CSQ: 31,2,5"
    Collectable.parse? "+CSQ: ?{rssi}," = some c ∧ '\n' ∉ line.toList ∧
      Between (fragment id c.before) (fragment id c.after) line.toList [] "31,2".toList ['5'] ∧
      Value.coerce "31,2" = .text "31,2" ∧ c.extract d id [line] = some (.int 312) := by
  intro d c line
  have hbetween : Between (fragment id c.before) (fragment id c.after) line.toList []
      "31,2".toList ['5'] :=
    between_of_cuts (by decide +kernel : cut? _ _ = some ([], "31,2,5".toList)) (by decide +kernel)
  exact ⟨by decide +kernel, by decide +kernel, hbetween, by decide +kernel, by decide +kernel⟩

end Collectable

end ModemScript
