import ModemScript.Proofs.Numerals
import ModemScript.Script

/-!
# A directive is read back from its line

Twelve forms of payload share one form of line. A payload is read twice on its way: the line is
cut at its first blank, and then the payload by rules of its own, after the blanks around it have
been dropped. What is written for a directive has therefore to have visible ends, and to be
cut by the second rule where it was put together.

Both hold of everything that has been read at all (`ofPayload?_payload`), though not of every
directive: a path with a blank in it could be written but not read. Most payloads are the
text that they were read from. Numbers, switches and names of terminators are written in
one of many spellings, and the text of a file loses the blanks before it.
-/

namespace ModemScript

namespace Keyword

theorem isBlank_of_mem_word (k : Keyword) : ∀ c ∈ k.word.toList, Text.isBlank c = false := by
  have hany : k.word.toList.any Text.isBlank = false := by cases k <;> decide
  exact fun c hc => Bool.eq_false_iff.2 (List.any_eq_false.1 hany c hc)

theorem word_ne_nil (k : Keyword) : k.word.toList ≠ [] := by
  cases k <;> decide

end Keyword

namespace Directive

theorem keyword_of_ofPayload? {k : Keyword} {s : List Char} {d : Directive}
    (h : ofPayload? k s = some d) : d.keyword = k := by
  cases k with
  | device | environment | print | exec =>
      cases h
      rfl
  | baudRate | timeout | lineBreak | abortOnFailure | dsrDtr | rtsCts =>
      obtain ⟨x, -, rfl⟩ := Option.map_eq_some_iff.1 h
      rfl
  | set =>
      simp only [ofPayload?, assignment?] at h
      split at h
      · cases h
        rfl
      · cases h
  | write =>
      simp only [ofPayload?, writing?] at h
      split at h
      · split at h
        · cases h
        · cases h
          rfl
      · cases h

theorem visible_switch (on : Bool) : Text.Visible (switch on).toList := by
  cases on <;> exact ⟨by decide, by decide, by decide⟩

theorem switch?_switch (on : Bool) : switch? (switch on).toList = some on := by
  cases on <;> rfl

theorem visible_name (t : Terminator) : Text.Visible t.name.toList := by
  cases t <;> exact ⟨by decide, by decide, by decide⟩

/-- Both sides of the equals sign together are what was read. -/
theorem payload_of_assignment? {s : List Char} {d : Directive} (h : assignment? s = some d) :
    d.payload = String.ofList s := by
  have hfields := Text.intercalate_fields (List.cons_ne_nil '=' []) s
  unfold assignment? at h
  split at h
  · next key value heq =>
      cases h
      rw [heq, List.intercalate_cons_of_ne_nil (List.cons_ne_nil _ _),
        List.intercalate_singleton] at hfields
      rw [← hfields, String.ofList_append, String.ofList_append]
      rfl
  · cases h

theorem writing?_append {path content : List Char} (hpath : ∀ c ∈ path, Text.isBlank c = false)
    (hne : content ≠ []) (hhead : Text.isBlank (content.head hne) = false) :
    writing? (path ++ ' ' :: content) =
      some (write (String.ofList path) (String.ofList content)) := by
  rw [writing?, Text.cutWhere_of_not_mem hpath (by decide) content]
  simp only
  rw [Text.trimStart_eq_self hne hhead]
  cases content with
  | nil => exact absurd rfl hne
  | cons c content => rfl

/-- A path that ends with the first blank and a text that begins behind the blanks can be told
apart again. -/
theorem writing?_payload {s : List Char} {d : Directive} (hs : Text.Visible s)
    (h : writing? s = some d) :
    Text.Visible d.payload.toList ∧ writing? d.payload.toList = some d := by
  unfold writing? at h
  split at h
  · next path rest hcut =>
      obtain ⟨c, hc, rfl, hpath⟩ := Text.exists_of_cutWhere hcut
      have hpath_ne : path ≠ [] := by
        rintro rfl
        have hhead : Text.isBlank c = false := hs.head
        exact Bool.noConfusion (hc.symm.trans hhead)
      split at h
      · cases h
      · next _ hne =>
          cases h
          let content := Text.trimStart rest
          have hne : content ≠ [] := hne
          have hsuffix : content <:+ path ++ c :: rest :=
            (List.dropWhile_suffix _).trans
              ((List.suffix_cons c rest).trans (List.suffix_append path _))
          have htext : (write (String.ofList path) (String.ofList content)).payload.toList =
              path ++ ' ' :: content := by
            simp only [payload, String.toList_append, String.toList_ofList]
            exact (List.append_cons path ' ' _).symm
          rw [htext]
          refine ⟨.of_append hpath_ne (List.cons_ne_nil _ _) (hpath _ (List.head_mem _)) ?_,
            writing?_append hpath hne (List.head_dropWhile_not _ hne)⟩
          rw [List.getLast_cons hne, hsuffix.getLast hne]
          exact hs.last
  · cases h

/-- Whatever is read from a payload, the payload written for it is read as the same. -/
theorem ofPayload?_payload {k : Keyword} {s : List Char} {d : Directive} (hs : Text.Visible s)
    (h : ofPayload? k s = some d) :
    Text.Visible d.payload.toList ∧ ofPayload? k d.payload.toList = some d := by
  cases k with
  | device | environment | print | exec =>
      cases h
      simp only [payload, String.toList_ofList]
      exact ⟨hs, rfl⟩
  | baudRate =>
      obtain ⟨n, hn, rfl⟩ := Option.map_eq_some_iff.1 h
      exact ⟨Numeral.visible_toString n,
        Option.map_eq_some_iff.2 ⟨n, Numeral.below?_toString hn, rfl⟩⟩
  | timeout =>
      obtain ⟨n, hn, rfl⟩ := Option.map_eq_some_iff.1 h
      exact ⟨Numeral.visible_toString_int n,
        Option.map_eq_some_iff.2 ⟨n, Numeral.word?_toString hn, rfl⟩⟩
  | lineBreak =>
      obtain ⟨t, -, rfl⟩ := Option.map_eq_some_iff.1 h
      refine ⟨visible_name t, Option.map_eq_some_iff.2 ⟨t, ?_, rfl⟩⟩
      rw [payload, String.ofList_toList]
      exact Terminator.ofName?_name t
  | abortOnFailure | dsrDtr | rtsCts =>
      obtain ⟨on, -, rfl⟩ := Option.map_eq_some_iff.1 h
      exact ⟨visible_switch on, Option.map_eq_some_iff.2 ⟨on, switch?_switch on, rfl⟩⟩
  | set =>
      rw [payload_of_assignment? h, String.toList_ofList]
      exact ⟨hs, h⟩
  | write => exact writing?_payload hs h

/-- A line is cut where the keyword ends. -/
theorem parse_line_of_payload (dialect : Dialect) {d : Directive}
    (hvisible : Text.Visible d.payload.toList)
    (hpayload : ofPayload? d.keyword d.payload.toList = some d) :
    Line.parse dialect d.line.toList = .ok (.directive d) := by
  let k := d.keyword
  have hline : d.line.toList = k.word.toList ++ ' ' :: d.payload.toList := by
    rw [line, String.toList_append, String.toList_append]
    exact (List.append_cons _ ' ' _).symm
  have hword := k.isBlank_of_mem_word
  have hends : Text.Visible d.line.toList := by
    rw [hline]
    refine .of_append k.word_ne_nil (List.cons_ne_nil _ _) (hword _ (List.head_mem _)) ?_
    rw [List.getLast_cons hvisible.ne_nil]
    exact hvisible.last
  have hparse : parse k.word (some d.payload.toList) = .ok d := by
    rw [parse, Keyword.ofWord?_word]
    simp only [Option.getD_some]
    rw [Text.trim_eq_self hvisible]
    split
    · next heq => exact absurd heq hvisible.ne_nil
    · rw [hpayload]
      rfl
  rw [Line.parse, Text.trim_eq_self hends, hline, Text.cutWhere_of_not_mem hword (by decide)]
  simp only [String.ofList_toList]
  rw [Keyword.ofWord?_word, hparse]
  rfl

/-- What a keyword and the rest of a line say is said by the line that is written for it as
well, with the same keyword. -/
theorem parse_line_of_parse (dialect : Dialect) {word : String} {rest : Option (List Char)}
    {d : Directive} (h : parse word rest = .ok d) :
    d.keyword.word = word ∧ Line.parse dialect d.line.toList = .ok (.directive d) := by
  unfold parse at h
  split at h
  · cases h
  · next k hk =>
      split at h
      · cases h
      · next hne =>
          cases hd : ofPayload? k (Text.trim (rest.getD [])) with
          | none =>
              rw [hd] at h
              cases h
          | some d' =>
              rw [hd] at h
              cases h
              obtain rfl := keyword_of_ofPayload? hd
              obtain ⟨hvisible, hpayload⟩ := ofPayload?_payload (Text.visible_trim hne) hd
              exact ⟨Keyword.word_ofWord? hk, parse_line_of_payload dialect hvisible hpayload⟩

/-- A text for a file, with blanks in it and around it and an equals sign, and a switch in
capitals. -/
theorem parse_line_of_parse_blanks :
    let d : Directive := .write "/tmp/a=b" "x  =\t${y}"
    let rest := " \t/tmp/a=b\t \nx  =\t${y} ".toList
    parse "WRITE" (some rest) = .ok d ∧ d.line = "WRITE /tmp/a=b x  =\t${y}" ∧
      Line.parse .standard d.line.toList = .ok (.directive d) ∧
      parse "AOF" (some "FALSE".toList) = .ok (.abortOnFailure false) ∧
      Line.parse .standard "AOF false".toList = .ok (.directive (.abortOnFailure false)) := by
  intro d rest
  have hwrite : parse "WRITE" (some rest) = .ok d := rfl
  have hswitch : parse "AOF" (some "FALSE".toList) = .ok (.abortOnFailure false) := rfl
  exact ⟨hwrite, rfl, (parse_line_of_parse .standard hwrite).2, hswitch,
    (parse_line_of_parse .standard hswitch).2⟩

end Directive

end ModemScript
