import ModemScript.Proofs.Readings
import ModemScript.Proofs.Substitution

/-!
# One reference at a time

A round of substitution puts a value in place of every occurrence of the leftmost reference. Told
without rounds, substitution takes that one occurrence only, then the one that is leftmost now, and
so on until the text has none (`Takes`). What stands behind the leftmost reference is not looked at
on the way, so dollar signs and braces may stand anywhere, and a value may open a reference that the
text behind it closes.

A round does a part of that ahead of time. This makes no difference for an occurrence that would
have been taken later anyway, since what happens up to then happens to the left of it
(`Takes.early`). There is one way in which it would not have been taken. A text is read from the
left, and an occurrence belongs to a longer reference if that one has opened before it and ends with
the same brace. So the two agree if no reference that is taken ends with a shorter one that was taken
before (`Store.substitute_eq_of_takes`), and otherwise they need not
(`Store.substitute_breaks_longer`).
-/

namespace ModemScript

namespace Reference

variable {value : List Char → List Char} {s out left before after w : List Char}
variable {r r' : Reference} {taken : List Reference}

/-- The reference opens with the first opening of the text, and closes with the first closing
behind that. -/
structure Leftmost (r : Reference) (s before after : List Char) : Prop where
  text : s = before ++ (r.token ++ after)
  opening : ¬opening <:+: before
  closing : '}' ∉ r.name

instance : Decidable (Leftmost r s before after) :=
  decidable_of_iff (s = before ++ (r.token ++ after) ∧ ¬opening <:+: before ∧ '}' ∉ r.name)
    ⟨fun h => ⟨h.1, h.2.1, h.2.2⟩, fun h => ⟨h.text, h.opening, h.closing⟩⟩

/-- The references that are taken from a text one at a time, always the leftmost one with its value
in its place, and the text without references that this comes to. -/
inductive Takes (value : List Char → List Char) : List Char → List Reference → List Char → Prop
  | done {s : List Char} : (∀ r : Reference, ¬r.token <:+: s) → Takes value s [] s
  | take {s before after out : List Char} {r : Reference} {taken : List Reference} :
      Leftmost r s before after → Takes value (before ++ (value r.name ++ after)) taken out →
      Takes value s (r :: taken) out

theorem Takes.of_leftmost {next : List Char} (h : Leftmost r s before after)
    (hnext : before ++ (value r.name ++ after) = next) (htakes : Takes value next taken out) :
    Takes value s (r :: taken) out :=
  .take h (hnext ▸ htakes)

/-! ## The leftmost reference -/

theorem Leftmost.first? (h : Leftmost r s before after) : first? s = some r := by
  rw [h.text, first?_append_of_not_opening h.opening (head?_token_append r after)]
  exact first?_token_append h.closing after

theorem isSome_first?_of_infix (h : r.token <:+: s) : (first? s).isSome = true := by
  induction s with
  | nil => exact absurd (List.infix_nil.1 h) r.token_ne_nil
  | cons c s ih =>
      by_cases hopen : opening <+: c :: s
      · obtain ⟨t, ht⟩ := hopen
        have hmem : '}' ∈ opening ++ t := ht ▸ h.subset r.closing_mem_token
        have ht' : '}' ∈ t := (List.mem_append.1 hmem).resolve_left (by decide)
        have hne : opening ≠ [] := List.cons_ne_nil _ _
        rw [first?, ← ht, Text.cut?_append_self hne, Option.bind_some]
        dsimp only
        rw [Option.isSome_map]
        exact Text.cut?_isSome_of_isInfix ((List.singleton_infix_iff '}' t).2 ht')
      · rw [first?_cons_of_not_opening hopen]
        exact ih ((List.infix_cons_iff.1 h).resolve_left fun hr =>
          hopen (r.opening_prefix_token.trans hr))

theorem infix_of_first? (h : first? s = some r) : r.token <:+: s := by
  obtain ⟨⟨before, rest⟩, hopen, hrest⟩ := Option.bind_eq_some_iff.1 h
  obtain ⟨⟨name, after⟩, hclose, rfl⟩ := Option.map_eq_some_iff.1 hrest
  refine ⟨before, after, ?_⟩
  rw [Text.append_of_cut? hopen, Text.append_of_cut? hclose]
  simp only [token, List.append_assoc]

theorem first?_eq_none_iff : first? s = none ↔ ∀ r : Reference, ¬r.token <:+: s := by
  constructor
  · intro h r hr
    have hsome := isSome_first?_of_infix hr
    rw [h] at hsome
    cases hsome
  · intro h
    rw [Option.eq_none_iff_forall_ne_some]
    exact fun r hr => h r (infix_of_first? hr)

/-- The leftmost reference is not in what stands before it. -/
theorem Leftmost.replaceAll (h : Leftmost r s before after) (v : List Char) :
    Text.replaceAll r.token v s = before ++ (v ++ Text.replaceAll r.token v after) := by
  rw [h.text, replaceAll_append_of_not_opening r v h.opening (head?_token_append r after),
    Text.replaceAll_append_self r.token_ne_nil]

/-! ## Occurrences that are taken early -/

theorem closing_not_mem (h : '}' ∉ r.name) : '}' ∉ opening ++ r.name := by
  intro hmem
  rcases List.mem_append.1 hmem with hmem | hmem
  · exact absurd hmem (by decide)
  · exact h hmem

/-- A reference closes with its only brace, so within another one it is the end of that one. -/
theorem replaceAll_append_of_suffix (hr : '}' ∉ r.name) (hr' : '}' ∉ r'.name)
    (hw : w <:+ r'.token) (hnot : ¬r.token <:+ w) (v s : List Char) :
    Text.replaceAll r.token v (w ++ s) = w ++ Text.replaceAll r.token v s := by
  induction w with
  | nil => rfl
  | cons c w ih =>
      have htail : w <:+ c :: w := List.suffix_cons c w
      have hprefix : ¬r.token <+: c :: (w ++ s) := by
        obtain ⟨t, htext, ht⟩ := (List.suffix_concat_iff.1 hw).resolve_left (List.cons_ne_nil c w)
        have hcut := cut?_closing (fun hmem => closing_not_mem hr' (ht.subset hmem)) s
        rintro ⟨u, hu⟩
        have heq : r.token ++ u = t ++ closing ++ s := by
          rw [hu, ← List.cons_append, htext]
          rfl
        rw [← heq, token, cut?_closing (closing_not_mem hr)] at hcut
        obtain ⟨rfl, -⟩ := Prod.mk.inj (Option.some.inj hcut)
        exact hnot (htext ▸ List.suffix_rfl)
      rw [List.cons_append, Text.replaceAll_cons_of_not_isPrefix r.token_ne_nil hprefix,
        ih (htail.trans hw) fun h => hnot (h.trans htail), List.cons_append]

/-- Where the occurrences of a reference are replaced in the end of a text, the leftmost reference
of the text stays where it is, or it is one of them. -/
theorem Leftmost.kept_or_replaced (hr : '}' ∉ r.name) (h : Leftmost r' (left ++ s) before after)
    (hlonger : r.token <:+ r'.token → r' = r) (v : List Char) :
    (∃ left' s', after = left' ++ s' ∧
      Leftmost r' (left ++ Text.replaceAll r.token v s) before
        (left' ++ Text.replaceAll r.token v s')) ∨
    r' = r ∧ left ++ Text.replaceAll r.token v s =
      before ++ (v ++ Text.replaceAll r.token v after) := by
  by_cases hown : r' = r ∧ left <+: before
  · obtain ⟨rfl, w, rfl⟩ := hown
    have hs : s = w ++ (r'.token ++ after) :=
      List.append_cancel_left (h.text.trans (List.append_assoc ..))
    have hw : ¬Reference.opening <:+: w := fun ho =>
      h.opening (ho.trans (List.suffix_append left w).isInfix)
    have hleft : Leftmost r' s w after := ⟨hs, hw, hr⟩
    exact .inr ⟨rfl, by rw [hleft.replaceAll, List.append_assoc]⟩
  · left
    -- The reference opens in `s`, or it ends before `s`, or it opens before `s` and ends in it.
    rcases List.append_eq_append_iff.1 h.text with ⟨w, rfl, rfl⟩ | ⟨w, rfl, hw⟩
    · have hw : ¬Reference.opening <:+: w := fun ho =>
        h.opening (ho.trans (List.suffix_append left w).isInfix)
      have hnot : ¬r.token <:+ r'.token := fun hr' =>
        hown ⟨hlonger hr', List.prefix_append left w⟩
      refine ⟨[], after, rfl, ?_, h.opening, h.closing⟩
      rw [replaceAll_append_of_not_opening r v hw (head?_token_append r' after),
        replaceAll_append_of_suffix hr h.closing List.suffix_rfl hnot, List.append_assoc]
      rfl
    · rcases List.append_eq_append_iff.1 hw with ⟨m, rfl, rfl⟩ | ⟨m, htoken, rfl⟩
      · exact ⟨m, s, rfl, by simp only [List.append_assoc], h.opening, h.closing⟩
      · have hm : m <:+ r'.token := ⟨w, htoken.symm⟩
        have hnot : ¬r.token <:+ m := by
          intro hr'
          obtain rfl := hlonger (hr'.trans hm)
          have hwhole : m = r'.token := hm.eq_of_length_le hr'.length_le
          obtain rfl : w = [] := List.self_eq_append_left.1 (hwhole.trans htoken)
          exact hown ⟨rfl, by rw [List.append_nil]⟩
        refine ⟨[], after, rfl, ?_, h.opening, h.closing⟩
        rw [replaceAll_append_of_suffix hr h.closing hm hnot, htoken]
        simp only [List.append_assoc, List.nil_append]

/-- Occurrences of a reference may be replaced before it is their turn, unless a longer reference
that ends with it is taken. What is taken then is the same less those occurrences. -/
theorem Takes.early (hr : '}' ∉ r.name) {text : List Char} (h : Takes value text taken out)
    (hlonger : ∀ r' ∈ taken, r.token <:+ r'.token → r' = r) (left s : List Char)
    (htext : text = left ++ s) :
    ∃ rest, rest.Sublist taken ∧
      Takes value (left ++ Text.replaceAll r.token (value r.name) s) rest out := by
  induction h generalizing left s with
  | done hnone =>
      subst htext
      have hs : ¬r.token <:+: s := fun hin =>
        hnone r (hin.trans (List.suffix_append left s).isInfix)
      rw [Text.replaceAll_of_cut?_eq_none (Text.cut?_eq_none_iff.2 hs)]
      exact ⟨[], .slnil, .done hnone⟩
  | @take text before after out r' taken hleft _ ih =>
      subst htext
      have ih := ih fun k hk => hlonger k (List.mem_cons_of_mem r' hk)
      rcases hleft.kept_or_replaced hr (hlonger r' List.mem_cons_self) (value r.name) with
        ⟨left', s', rfl, hleft'⟩ | ⟨rfl, heq⟩
      · obtain ⟨rest, hrest, htakes⟩ := ih (before ++ (value r'.name ++ left')) s'
          (by simp only [List.append_assoc])
        simp only [List.append_assoc] at htakes
        exact ⟨r' :: rest, hrest.cons_cons r', .take hleft' htakes⟩
      · obtain ⟨rest, hrest, htakes⟩ := ih (before ++ value r'.name) after
          (List.append_assoc ..).symm
        rw [List.append_assoc, ← heq] at htakes
        exact ⟨rest, hrest.cons r', htakes⟩

/-- Substitution in rounds comes to the same as taking references one at a time. -/
theorem expand_eq_of_takes (rounds : Nat) : ∀ {s : List Char} {taken : List Reference},
    Takes value s taken out → taken.Pairwise (fun r r' => r.token <:+ r'.token → r' = r) →
      taken.length ≤ rounds → expand value rounds s = out := by
  induction rounds with
  | zero =>
      intro s taken h hlonger hrounds
      obtain rfl := List.length_eq_zero_iff.1 (Nat.le_zero.1 hrounds)
      cases h
      rfl
  | succ rounds ih =>
      intro s taken h hlonger hrounds
      cases h with
      | done hnone => exact expand_of_none (first?_eq_none_iff.2 hnone) _
      | @take _ before after _ r taken hleft htake =>
          obtain ⟨hfirst, hrest⟩ := List.pairwise_cons.1 hlonger
          obtain ⟨rest, hsub, htakes⟩ := htake.early hleft.closing hfirst
            (before ++ value r.name) after (List.append_assoc ..).symm
          rw [expand_of_some hleft.first?, hleft.replaceAll, ← List.append_assoc]
          refine ih htakes (hrest.sublist hsub) ?_
          have := hsub.length_le
          rw [List.length_cons] at hrounds
          omega

end Reference

namespace Store

variable {taken : List Reference}

/-- Substitution gives the text that taking references one at a time comes to, if that takes no more
of them than there are rounds and none that ends with a shorter one taken before it. -/
theorem substitute_eq_of_takes (s : Store) {text out : String}
    (h : Reference.Takes (fun name => (s.display (String.ofList name)).toList)
      text.toList taken out.toList)
    (hrounds : taken.length ≤ Reference.maxRounds)
    (hlonger : taken.Pairwise fun r r' => r.token <:+ r'.token → r' = r) :
    s.substitute text = out := by
  rw [substitute, Reference.expand_eq_of_takes _ h hlonger hrounds, String.ofList_toList]

/-- A dollar sign that opens a reference with the text behind it, an opening within a reference and
one that nothing closes. The second `${b}` is replaced two turns early. -/
theorem substitute_eq_of_takes_mixed :
    let s : Store := ⟨[("d", .text "$"), ("b", .int 1), ("x$\x7by", .text "{z}")]⟩
    let taken : List Reference := [⟨"d".toList⟩, ⟨"b".toList⟩, ⟨"x$\x7by".toList⟩, ⟨"b".toList⟩]
    Reference.Takes (fun name => (s.display (String.ofList name)).toList)
      "${d}{b} $\x7bx${y} ${b} $\x7bb".toList taken "1 {z} 1 $\x7bb".toList ∧
    taken.length ≤ Reference.maxRounds ∧
    (taken.Pairwise fun r r' => r.token <:+ r'.token → r' = r) ∧
    s.substitute "${d}{b} $\x7bx${y} ${b} $\x7bb" = "1 {z} 1 $\x7bb" := by
  intro s taken
  have hd : Reference.Leftmost ⟨"d".toList⟩ "${d}{b} $\x7bx${y} ${b} $\x7bb".toList
      "".toList "{b} $\x7bx${y} ${b} $\x7bb".toList := by decide +kernel
  have hb : Reference.Leftmost ⟨"b".toList⟩ "${b} $\x7bx${y} ${b} $\x7bb".toList
      "".toList " $\x7bx${y} ${b} $\x7bb".toList := by decide +kernel
  have hxy : Reference.Leftmost ⟨"x$\x7by".toList⟩ "1 $\x7bx${y} ${b} $\x7bb".toList
      "1 ".toList " ${b} $\x7bb".toList := by decide +kernel
  have hb' : Reference.Leftmost ⟨"b".toList⟩ "1 {z} ${b} $\x7bb".toList
      "1 {z} ".toList " $\x7bb".toList := by decide +kernel
  have hnone : Reference.first? "1 {z} 1 $\x7bb".toList = none := by decide +kernel
  have htakes : Reference.Takes (fun name => (s.display (String.ofList name)).toList)
      "${d}{b} $\x7bx${y} ${b} $\x7bb".toList taken "1 {z} 1 $\x7bb".toList :=
    .of_leftmost hd (by decide +kernel) <| .of_leftmost hb (by decide +kernel) <|
      .of_leftmost hxy (by decide +kernel) <| .of_leftmost hb' (by decide +kernel) <|
      .done (Reference.first?_eq_none_iff.1 hnone)
  have hlonger : taken.Pairwise fun r r' => r.token <:+ r'.token → r' = r := by decide +kernel
  exact ⟨htakes, by decide, hlonger, substitute_eq_of_takes s htakes (by decide) hlonger⟩

/-- A reference that ends with a shorter one is broken when that one is replaced to the left
of it. -/
theorem substitute_breaks_longer :
    let s : Store := ⟨[("b", .int 1)]⟩
    let taken : List Reference := [⟨"b".toList⟩, ⟨"x$\x7bb".toList⟩]
    Reference.Takes (fun name => (s.display (String.ofList name)).toList)
      "${b}$\x7bx${b}".toList taken "1".toList ∧
    taken.length ≤ Reference.maxRounds ∧
    s.substitute "${b}$\x7bx${b}" = "1$\x7bx1" ∧ s.substitute "${b}$\x7bx${b}" ≠ "1" := by
  intro s taken
  have hb : Reference.Leftmost ⟨"b".toList⟩ "${b}$\x7bx${b}".toList
      "".toList "$\x7bx${b}".toList := by decide +kernel
  have hxb : Reference.Leftmost ⟨"x$\x7bb".toList⟩ "1$\x7bx${b}".toList
      "1".toList "".toList := by decide +kernel
  have hnone : Reference.first? "1".toList = none := by decide +kernel
  have htakes : Reference.Takes (fun name => (s.display (String.ofList name)).toList)
      "${b}$\x7bx${b}".toList taken "1".toList :=
    .of_leftmost hb (by decide +kernel) <| .of_leftmost hxb (by decide +kernel) <|
      .done (Reference.first?_eq_none_iff.1 hnone)
  exact ⟨htakes, by decide, by decide +kernel, by decide +kernel⟩

end Store

end ModemScript
