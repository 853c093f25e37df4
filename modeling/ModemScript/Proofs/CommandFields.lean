import ModemScript.Proofs.Cuts
import ModemScript.Proofs.Reading

/-!
# The fields of a command line

A line that does not begin with a keyword is cut into fields, and each field that has a meaning
is looked up by its number. Reading a command is therefore a matter of its first seven
fields (`ofFields_take`), and there are no others that it could be a matter of. Which lines
are commands is told by one condition for each of these fields (`HasForm`).

Nothing counts the fields, though. A line that goes on behind its seventh field is not refused
but read as if it ended there.
-/

namespace ModemScript

theorem exists_of_bind_eq_ok {ε α β : Type} {x : Except ε α} {f : α → Except ε β} {b : β}
    (h : x >>= f = .ok b) : ∃ a, x = .ok a ∧ f a = .ok b := by
  cases x with
  | error e => cases h
  | ok a => exact ⟨a, rfl, h⟩

theorem forall_mem_some {α : Type} {p : α → Prop} {a : α} : (∀ x ∈ some a, p x) ↔ p a :=
  ⟨fun h => h a rfl, fun h _ hx => Option.some.inj hx ▸ h⟩

namespace Command

/-- A field, if there is something in it. -/
def field (fields : List (List Char)) (i : Nat) : Option (List Char) :=
  fields[i]?.filter (!·.isEmpty)

/-- The command of a line with these fields. -/
def ofFields (d : Dialect) (fields : List (List Char)) : Except CommandError Command := do
  let text := fields.headD []
  if (Text.trim text).isEmpty then throw .missing
  let delay ← number? (field fields 2) .badDelay
  let timeout ← number? (field fields 3) .badTimeout
  let collectables ← collectables? (field fields 4)
  let expected ← pattern? d (field fields 1)
  let fallbackExpected ← pattern? d (field fields 6)
  let fallbacks := (field fields 5).toList.map fun text =>
    requestOf text fallbackExpected delay timeout collectables
  return ofRequest (requestOf text expected delay timeout collectables) fallbacks

theorem parse_eq_ofFields (d : Dialect) (line : List Char) :
    parse d line = ofFields d (Text.fields separator line) := rfl

theorem field_take {n i : Nat} (fields : List (List Char)) (h : i < n) :
    field (fields.take n) i = field fields i := by
  rw [field, List.getElem?_take_of_lt h, field]

/-- No field beyond the seventh is looked at. -/
theorem ofFields_take (d : Dialect) (fields : List (List Char)) :
    ofFields d (fields.take 7) = ofFields d fields := by
  have hhead : (fields.take 7).headD [] = fields.headD [] := by
    cases fields <;> rfl
  simp only [ofFields, hhead, field_take fields (show 1 < 7 by decide),
    field_take fields (show 2 < 7 by decide), field_take fields (show 3 < 7 by decide),
    field_take fields (show 4 < 7 by decide), field_take fields (show 5 < 7 by decide),
    field_take fields (show 6 < 7 by decide)]

/-- The fields that a command line may have, each of which has its form or is empty or
missing, except for the first. -/
structure HasForm (d : Dialect) (fields : List (List Char)) : Prop where
  text : (Text.trim (fields.headD [])).isEmpty = false
  delay : ∀ s ∈ field fields 2, (Numeral.word? 64 (Text.trim s)).isSome = true
  timeout : ∀ s ∈ field fields 3, (Numeral.word? 64 (Text.trim s)).isSome = true
  collectables : ∀ s ∈ field fields 4, ∃ specs, CollectableList.parse s = .ok specs
  expected : ∀ s ∈ field fields 1, d.accepts (String.ofList s) = true
  fallbackExpected : ∀ s ∈ field fields 6, d.accepts (String.ofList s) = true

theorem exists_number?_iff {f : Option (List Char)} {e : CommandError} :
    (∃ n, number? f e = .ok n) ↔ ∀ s ∈ f, (Numeral.word? 64 (Text.trim s)).isSome = true := by
  cases f with
  | none => exact ⟨fun _ s hs => (nomatch hs), fun _ => ⟨none, rfl⟩⟩
  | some s =>
      rw [forall_mem_some, number?]
      cases Numeral.word? 64 (Text.trim s) with
      | none => exact ⟨fun ⟨n, h⟩ => (nomatch h), fun h => (nomatch h)⟩
      | some n => exact ⟨fun _ => rfl, fun _ => ⟨some n, rfl⟩⟩

theorem exists_collectables?_iff {f : Option (List Char)} :
    (∃ specs, collectables? f = .ok specs) ↔
      ∀ s ∈ f, ∃ specs, CollectableList.parse s = .ok specs := by
  cases f with
  | none => exact ⟨fun _ s hs => (nomatch hs), fun _ => ⟨none, rfl⟩⟩
  | some s =>
      rw [forall_mem_some, collectables?]
      cases CollectableList.parse s with
      | error e => exact ⟨fun ⟨n, h⟩ => (nomatch h), fun ⟨n, h⟩ => (nomatch h)⟩
      | ok specs => exact ⟨fun _ => ⟨specs, rfl⟩, fun _ => ⟨some specs, rfl⟩⟩

theorem exists_pattern?_iff {d : Dialect} {f : Option (List Char)} :
    (∃ p, pattern? d f = .ok p) ↔ ∀ s ∈ f, d.accepts (String.ofList s) = true := by
  cases f with
  | none => exact ⟨fun _ s hs => (nomatch hs), fun _ => ⟨none, rfl⟩⟩
  | some s =>
      rw [forall_mem_some, pattern?]
      cases hcompile : d.compile (String.ofList s) with
      | error cause =>
          rw [Dialect.accepts_of_error hcompile]
          simp only
          exact ⟨fun ⟨n, h⟩ => (nomatch h), fun h => (nomatch h)⟩
      | ok test =>
          simp only
          exact ⟨fun _ => Dialect.accepts_of_ok hcompile, fun _ => ⟨some (String.ofList s), rfl⟩⟩

theorem exists_ofFields_iff (d : Dialect) (fields : List (List Char)) :
    (∃ c, ofFields d fields = .ok c) ↔ HasForm d fields := by
  constructor
  · rintro ⟨c, h⟩
    unfold ofFields at h
    simp only at h
    split at h
    · cases h
    · next htext =>
        obtain ⟨delay, hdelay, h⟩ := exists_of_bind_eq_ok h
        obtain ⟨timeout, htimeout, h⟩ := exists_of_bind_eq_ok h
        obtain ⟨collectables, hcollectables, h⟩ := exists_of_bind_eq_ok h
        obtain ⟨expected, hexpected, h⟩ := exists_of_bind_eq_ok h
        obtain ⟨fallbackExpected, hfallbackExpected, h⟩ := exists_of_bind_eq_ok h
        exact
          { text := Bool.eq_false_iff.2 htext
            delay := exists_number?_iff.1 ⟨delay, hdelay⟩
            timeout := exists_number?_iff.1 ⟨timeout, htimeout⟩
            collectables := exists_collectables?_iff.1 ⟨collectables, hcollectables⟩
            expected := exists_pattern?_iff.1 ⟨expected, hexpected⟩
            fallbackExpected := exists_pattern?_iff.1 ⟨fallbackExpected, hfallbackExpected⟩ }
  · intro h
    obtain ⟨delay, hdelay⟩ := exists_number?_iff.2 h.delay
    obtain ⟨timeout, htimeout⟩ := exists_number?_iff.2 h.timeout
    obtain ⟨collectables, hcollectables⟩ := exists_collectables?_iff.2 h.collectables
    obtain ⟨expected, hexpected⟩ := exists_pattern?_iff.2 h.expected
    obtain ⟨fallbackExpected, hfallbackExpected⟩ := exists_pattern?_iff.2 h.fallbackExpected
    unfold ofFields
    simp only
    rw [if_neg (Bool.eq_false_iff.1 h.text), hdelay, htimeout, hcollectables, hexpected,
      hfallbackExpected]
    exact ⟨_, rfl⟩

/-! ## The part of a line that is read -/

theorem separator_ne_nil : separator ≠ [] := List.cons_ne_nil _ _

/-- A line up to the end of its seventh field. -/
def readable (line : List Char) : List Char :=
  separator.intercalate ((Text.fields separator line).take 7)

theorem fields_readable (line : List Char) :
    Text.fields separator (readable line) = (Text.fields separator line).take 7 :=
  Text.fields_intercalate_take separator_ne_nil 6 line

theorem parse_readable (d : Dialect) (line : List Char) :
    parse d (readable line) = parse d line := by
  rw [parse_eq_ofFields, parse_eq_ofFields, fields_readable, ofFields_take]

/-- What is not read begins with the separator behind the seventh field. -/
theorem exists_readable_append (line : List Char) :
    ∃ rest, line = readable line ++ rest ∧
      ((Text.fields separator line).length ≤ 7 ∧ rest = [] ∨
        7 < (Text.fields separator line).length ∧ separator <+: rest) := by
  have hline := Text.intercalate_fields separator_ne_nil line
  rcases Nat.lt_or_ge 7 (Text.fields separator line).length with hlt | hle
  · have hdrop : (Text.fields separator line).drop 7 ≠ [] :=
      List.ne_nil_of_length_pos (by rw [List.length_drop]; omega)
    have htake : (Text.fields separator line).take 7 ≠ [] :=
      List.ne_nil_of_length_pos (by rw [List.length_take]; omega)
    rw [← List.take_append_drop 7 (Text.fields separator line),
      Text.intercalate_append htake hdrop, List.append_assoc] at hline
    exact ⟨_, hline.symm, .inr ⟨hlt, List.prefix_append _ _⟩⟩
  · refine ⟨[], ?_, .inl ⟨hle, rfl⟩⟩
    rw [readable, List.take_of_length_le hle, hline, List.append_nil]

end Command

namespace Line

/-- The first word of the line is a keyword. -/
def HasKeyword (line : List Char) : Prop :=
  (Keyword.ofWord? (String.ofList (Text.cutWhere Text.isBlank (Text.trim line)).1)).isSome = true

theorem parse_of_not_hasKeyword (d : Dialect) {line : List Char} (h : ¬HasKeyword line) :
    parse d line =
      match Command.parse d line with
      | .ok c => .ok (.command c)
      | .error e => .error (.command e) := by
  rw [parse]
  exact if_neg h

/-- A keyword that begins a text with a semicolon ends within it. -/
theorem HasKeyword.append {s : List Char} (hs : ';' ∈ s) (h : HasKeyword s) (rest : List Char) :
    HasKeyword (s ++ rest) := by
  have hmem : ';' ∈ Text.trimStart s := by
    rw [← List.takeWhile_append_dropWhile (p := Text.isBlank) (l := s), List.mem_append] at hs
    rcases hs with hblank | hmem
    · exact absurd (List.mem_takeWhile_imp hblank) (by decide)
    · exact hmem
  have hstart : Text.trimStart (s ++ rest) = Text.trimStart s ++ rest := by
    rw [Text.trimStart, List.dropWhile_append]
    refine if_neg fun hempty => ?_
    rw [List.isEmpty_iff] at hempty
    rw [Text.trimStart, hempty] at hmem
    cases hmem
  unfold HasKeyword at h ⊢
  rw [Text.cutWhere_trim] at h
  rw [Text.cutWhere_trim, hstart, List.takeWhile_append]
  -- the word is not all of the text, since there is no semicolon in it
  rw [if_neg]
  · exact h
  · intro hlength
    have hword := (List.takeWhile_prefix fun c => !Text.isBlank c).eq_of_length hlength
    rw [hword] at h
    obtain ⟨k, hk⟩ := Option.isSome_iff_exists.1 h
    have hk' := congrArg String.toList (Keyword.word_ofWord? hk)
    rw [String.toList_ofList] at hk'
    rw [← hk'] at hmem
    revert hmem
    cases k <;> decide

theorem not_hasKeyword_readable {line : List Char} (h : ¬HasKeyword line) :
    ¬HasKeyword (Command.readable line) := by
  obtain ⟨rest, hline, ⟨-, rfl⟩ | ⟨hlength, -⟩⟩ := Command.exists_readable_append line
  · rw [List.append_nil] at hline
    rwa [← hline]
  · have hmem : ';' ∈ Command.readable line := by
      obtain ⟨a, b, more, hfields⟩ :
          ∃ a b more, Text.fields Command.separator line = a :: b :: more := by
        match Text.fields Command.separator line, hlength with
        | a :: b :: more, _ => exact ⟨a, b, more, rfl⟩
      rw [Command.readable, hfields]
      simp [Command.separator]
    intro hkeyword
    rw [hline] at h
    exact h (hkeyword.append hmem rest)

/-- What is read of a line that does not begin with a keyword. A command comes of it exactly if
its first seven fields have their form, and it is the command that comes of the line up to
the end of its seventh field. Whatever stands behind that field, which begins with a separator if
it is anything, makes no difference. -/
theorem parse_eq_parse_readable (d : Dialect) {line : List Char} (h : ¬HasKeyword line) :
    let fields := Text.fields Command.separator line
    let readable := Command.readable line
    ((∃ c, parse d line = .ok (.command c)) ↔ Command.HasForm d (fields.take 7)) ∧
      parse d line = parse d readable ∧
      Text.fields Command.separator readable = fields.take 7 ∧
      ∃ rest, line = readable ++ rest ∧
        (fields.length ≤ 7 ∧ rest = [] ∨ 7 < fields.length ∧ Command.separator <+: rest) := by
  intro fields readable
  refine ⟨?_, ?_, Command.fields_readable line, Command.exists_readable_append line⟩
  · rw [parse_of_not_hasKeyword d h, ← Command.exists_ofFields_iff, Command.ofFields_take,
      ← Command.parse_eq_ofFields]
    cases Command.parse d line with
    | error e => exact ⟨fun ⟨c, hc⟩ => (nomatch hc), fun ⟨c, hc⟩ => (nomatch hc)⟩
    | ok c => exact ⟨fun _ => ⟨c, rfl⟩, fun _ => ⟨c, rfl⟩⟩
  · rw [parse_of_not_hasKeyword d h, parse_of_not_hasKeyword d (not_hasKeyword_readable h),
      Command.parse_readable]

/-- A line of eight fields is read as the line without the last of them. -/
theorem parse_eq_parse_readable_eight :
    let line := "AT;;OK;;0;;1;;[];;ATI;;OK;;extra".toList
    ¬HasKeyword line ∧ (Text.fields Command.separator line).length = 8 ∧
      parse .standard line = parse .standard "AT;;OK;;0;;1;;[];;ATI;;OK".toList := by
  intro line
  have hline : ¬HasKeyword line := by
    unfold HasKeyword
    decide +kernel
  have hreadable : Command.readable line = "AT;;OK;;0;;1;;[];;ATI;;OK".toList := by
    decide +kernel
  rw [← hreadable]
  exact ⟨hline, by decide +kernel, (parse_eq_parse_readable .standard hline).2.1⟩

/-- Such a line is not a fault: a command can have more than seven fields. -/
theorem not_length_fields_le_of_parse :
    ¬∀ (d : Dialect) (line : List Char), ¬HasKeyword line →
      (∃ c, parse d line = .ok (.command c)) →
        (Text.fields Command.separator line).length ≤ 7 := by
  intro hall
  let line := "AT;;OK;;0;;1;;[];;ATI;;OK;;extra".toList
  have hkeyword : ¬HasKeyword line := by
    unfold HasKeyword
    decide +kernel
  let request : Request := ⟨"AT", some "OK", some 1, 0, some []⟩
  have hparse : parse .standard line =
      .ok (.command (.ofRequest request [{ request with text := "ATI" }])) :=
    eq_ok_of_toOption_eq_some (by decide +kernel)
  exact absurd (hall .standard line hkeyword ⟨_, hparse⟩) (by decide +kernel)

end Line

end ModemScript
