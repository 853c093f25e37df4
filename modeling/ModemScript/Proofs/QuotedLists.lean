import Mathlib.Data.List.Forall2
import ModemScript.Collectable.List
import ModemScript.Proofs.Cuts

/-!
# Lists of quoted texts

What counts as a list is said here without reading one (`Listing`): brackets with blanks around
them, and between the brackets texts in quotes with commas between them, blanks around each, and
perhaps one more comma at the end. A text stands between two quotes of one kind and has neither that
quote nor a backslash in it unless a backslash stands before it (`Spells`). Reading accepts these
fields and no others, and gives the texts that they spell (`parse_listing`).

The reader looks at one character after the other and never goes back. It may do so because each
piece ends in one place: a quoted text at the first quote of its kind that no backslash takes, and
what follows it, blanks apart, at a comma or at the end. So there is a lemma for each piece with
anything behind it, and the list is an induction on its pieces. That some field is written for every
list of texts needs no reading at all, since a text with its escapes spells the text itself.
-/

namespace ModemScript.CollectableList

open Text

/-- The quotes that a text may stand in. -/
inductive Quote where
  | single
  | double
  deriving DecidableEq, Repr

def Quote.char : Quote → Char
  | single => '\''
  | double => '"'

/-- What the characters stand for that mean something behind a backslash. -/
def escapes : List (Char × Char) :=
  [('\\', '\\'), ('"', '"'), ('\'', '\''), ('n', '\n'), ('t', '\t')]

/-- What is written between two quotes spells a text. -/
inductive Spells (q : Quote) : List Char → List Char → Prop
  | nil : Spells q [] []
  | plain {c : Char} {s t : List Char} : c ≠ q.char → c ≠ '\\' → Spells q s t →
      Spells q (c :: s) (c :: t)
  | resolved {c d : Char} {s t : List Char} : (c, d) ∈ escapes → Spells q s t →
      Spells q ('\\' :: c :: s) (d :: t)
  | kept {c : Char} {s t : List Char} : c ∉ escapes.map Prod.fst → Spells q s t →
      Spells q ('\\' :: c :: s) ('\\' :: c :: t)

/-- What is written for a text in a list: the text in quotes, with blanks around it. -/
def Entry (source text : List Char) : Prop :=
  ∃ before q body after, source = before ++ (q.char :: body ++ [q.char]) ++ after ∧
    Blank before ∧ Blank after ∧ Spells q body text

/-- What is written behind the last of the texts: blanks, or a comma and blanks if there is a text
before it. -/
def Ending (sources : List (List Char)) (s : List Char) : Prop :=
  Blank s ∨ sources ≠ [] ∧ ∃ blanks, Blank blanks ∧ s = ',' :: blanks

/-- What is written between the brackets for a list of texts. -/
def Inner (s : List Char) (texts : List (List Char)) : Prop :=
  ∃ sources ending, List.Forall₂ Entry sources texts ∧ Ending sources ending ∧
    s = [','].intercalate sources ++ ending

/-- What is written for a list of texts. -/
def Listing (field : List Char) (texts : List (List Char)) : Prop :=
  ∃ before inner after, field = before ++ ('[' :: inner ++ [']']) ++ after ∧
    Blank before ∧ Blank after ∧ Inner inner texts

variable {q : Quote} {s text rest body source : List Char} {texts : List (List Char)}

/-! ## A text in quotes -/

theorem Quote.char_ne_backslash (q : Quote) : q.char ≠ '\\' := by
  cases q <;> decide

theorem Quote.isBlank_char (q : Quote) : isBlank q.char = false := by
  cases q <;> decide

theorem Quote.exists_char_iff {c : Char} : (∃ q : Quote, c = q.char) ↔ c = '"' ∨ c = '\'' := by
  constructor
  · rintro ⟨q, rfl⟩
    cases q
    · exact .inr rfl
    · exact .inl rfl
  · rintro (rfl | rfl)
    · exact ⟨.double, rfl⟩
    · exact ⟨.single, rfl⟩

theorem Quote.mem_escapes (q : Quote) : (q.char, q.char) ∈ escapes := by
  cases q <;> decide

theorem unescape_of_mem {c d : Char} (h : (c, d) ∈ escapes) : unescape c = [d] := by
  have hall : ∀ p ∈ escapes, unescape p.1 = [p.2] := by decide
  exact hall (c, d) h

theorem unescape_of_not_mem {c : Char} (h : c ∉ escapes.map Prod.fst) :
    unescape c = ['\\', c] := by
  unfold unescape
  split
  case h_6 => rfl
  all_goals exact absurd (by decide) h

theorem Spells.backslash (h : Spells q s text) (c : Char) :
    Spells q ('\\' :: c :: s) (unescape c ++ text) := by
  by_cases hc : c ∈ escapes.map Prod.fst
  · obtain ⟨⟨c, d⟩, hd, rfl⟩ := List.mem_map.1 hc
    rw [unescape_of_mem hd]
    exact .resolved hd h
  · rw [unescape_of_not_mem hc]
    exact .kept hc h

theorem quoted?_cons_of_ne {c quote : Char} (hc : c ≠ '\\') (s : List Char) :
    quoted? quote (c :: s) =
      if c = quote then some ([], s)
      else (quoted? quote s).map fun (text, rest) => (c :: text, rest) := by
  rw [quoted?]
  · exact fun h _ => hc h
  · exact fun _ _ h _ => hc h

theorem Spells.quoted? (h : Spells q body text) (rest : List Char) :
    quoted? q.char (body ++ q.char :: rest) = some (text, rest) := by
  induction h with
  | nil =>
      rw [List.nil_append, quoted?_cons_of_ne q.char_ne_backslash, if_pos rfl]
  | plain hquote hc _ ih =>
      rw [List.cons_append, quoted?_cons_of_ne hc, if_neg hquote, ih]
      rfl
  | resolved hmem _ ih =>
      rw [List.cons_append, List.cons_append, CollectableList.quoted?, ih, unescape_of_mem hmem]
      rfl
  | kept hmem _ ih =>
      rw [List.cons_append, List.cons_append, CollectableList.quoted?, ih, unescape_of_not_mem hmem]
      rfl

theorem exists_spells_of_quoted? (h : CollectableList.quoted? q.char s = some (text, rest)) :
    ∃ body, s = body ++ q.char :: rest ∧ Spells q body text := by
  fun_induction CollectableList.quoted? q.char s generalizing text with
  | case1 | case2 => cases h
  | case3 c s ih =>
      obtain ⟨⟨t, r⟩, hs, heq⟩ := Option.map_eq_some_iff.1 h
      cases heq
      obtain ⟨body, rfl, hbody⟩ := ih hs
      exact ⟨'\\' :: c :: body, rfl, hbody.backslash c⟩
  | case4 s =>
      cases h
      exact ⟨[], rfl, .nil⟩
  | case5 c s hend hescape hquote ih =>
      have hc : c ≠ '\\' := by
        rintro rfl
        cases s with
        | nil => exact hend rfl rfl
        | cons d s => exact hescape d s rfl rfl
      obtain ⟨⟨t, r⟩, hs, heq⟩ := Option.map_eq_some_iff.1 h
      cases heq
      obtain ⟨body, rfl, hbody⟩ := ih hs
      exact ⟨c :: body, rfl, .plain hquote hc hbody⟩

/-! ## The texts of a list -/

/-- What becomes of a list when its first text has been read. -/
def continued (item rest : List Char) : Except Error (List (List Char)) :=
  match trimStart rest with
  | [] => .ok [item]
  | ',' :: rest => (items rest).map (item :: ·)
  | _ :: _ => .error .noComma

theorem items_of_blank (h : Blank s) : items s = .ok [] := by
  rw [items]
  split
  · rfl
  · next heq =>
      rw [trimStart_eq_nil_iff.2 h] at heq
      cases heq

theorem items_of_quoted? (hs : trimStart s = q.char :: body)
    (hquoted : CollectableList.quoted? q.char body = some (text, rest)) :
    items s = continued text rest := by
  rw [items]
  split
  · next heq => cases hs.symm.trans heq
  · next heq =>
      cases hs.symm.trans heq
      rw [if_pos (Quote.exists_char_iff.1 ⟨q, rfl⟩)]
      split
      · next heq' => cases hquoted.symm.trans heq'
      · next heq' =>
          cases hquoted.symm.trans heq'
          unfold continued
          split <;> next heq'' => simp only [heq'']

theorem continued_of_blank (h : Blank rest) : continued text rest = .ok [text] := by
  rw [continued, trimStart_eq_nil_iff.2 h]

theorem continued_comma (text rest : List Char) :
    continued text (',' :: rest) = (items rest).map (text :: ·) := by
  have hcomma : trimStart (',' :: rest) = ',' :: rest :=
    trimStart_eq_self (List.cons_ne_nil ',' rest) (show isBlank ',' = false by decide)
  simp only [continued, hcomma]

/-- Where a list begins with a text in quotes, that is its first one. -/
theorem Entry.items_append (h : Entry source text) (rest : List Char) :
    items (source ++ rest) = continued text rest := by
  obtain ⟨before, q, body, after, rfl, hbefore, hafter, hbody⟩ := h
  have hs : trimStart (before ++ (q.char :: body ++ [q.char]) ++ after ++ rest) =
      q.char :: (body ++ q.char :: (after ++ rest)) := by
    rw [List.append_assoc, List.append_assoc, trimStart_append hbefore, List.append_assoc]
    exact trimStart_eq_self (List.cons_ne_nil _ _) q.isBlank_char
  rw [items_of_quoted? hs (hbody.quoted? (after ++ rest)), continued, continued,
    trimStart_append hafter]

theorem Inner.items_eq (h : Inner s texts) : items s = .ok texts := by
  obtain ⟨sources, ending, hentries, hending, rfl⟩ := h
  induction hentries with
  | nil =>
      rcases hending with hblank | ⟨hne, -⟩
      · exact items_of_blank hblank
      · exact absurd rfl hne
  | @cons source text sources texts hentry hentries ih =>
      cases hentries with
      | nil =>
          rw [List.intercalate_singleton, hentry.items_append]
          rcases hending with hblank | ⟨-, blanks, hblank, rfl⟩
          · exact continued_of_blank hblank
          · rw [continued_comma, items_of_blank hblank]
            rfl
      | @cons source' text' sources texts hentry' hentries =>
          have hne : source' :: sources ≠ [] := List.cons_ne_nil source' sources
          rw [List.intercalate_cons_of_ne_nil hne, List.append_assoc, List.append_assoc,
            hentry.items_append, List.singleton_append, continued_comma,
            ih (hending.imp_right fun h => ⟨hne, h.2⟩)]
          rfl

/-- A text in quotes that has been read, with the blanks around it. -/
theorem exists_entry {quote : Char} (hs : trimStart s = quote :: body)
    (hquote : quote = '"' ∨ quote = '\'')
    (hread : CollectableList.quoted? quote body = some (text, rest)) :
    ∃ source, Entry source text ∧ s = source ++ trimStart rest := by
  obtain ⟨q, rfl⟩ := Quote.exists_char_iff.2 hquote
  obtain ⟨body, rfl, hbody⟩ := exists_spells_of_quoted? hread
  obtain ⟨before, hbefore, hsource⟩ := exists_trimStart s
  obtain ⟨after, hafter, hrest⟩ := exists_trimStart rest
  refine ⟨before ++ (q.char :: body ++ [q.char]) ++ after,
    ⟨before, q, body, after, rfl, hbefore, hafter, hbody⟩, ?_⟩
  rw [List.append_assoc, ← hrest, hsource, hs]
  simp only [List.append_assoc, List.cons_append, List.nil_append]

/-- A text in quotes in front of a list, with a comma between them, is a list with one more text. -/
theorem Inner.cons (hentry : Entry source text) (h : Inner rest texts) :
    Inner (source ++ ',' :: rest) (text :: texts) := by
  obtain ⟨sources, ending, hentries, hending, rfl⟩ := h
  cases hentries with
  | nil =>
      rcases hending with hblank | ⟨hne, -⟩
      · exact ⟨[source], ',' :: ending, .cons hentry .nil,
          .inr ⟨List.cons_ne_nil source [], ending, hblank, rfl⟩,
          by rw [List.intercalate_singleton, List.intercalate_nil, List.nil_append]⟩
      · exact absurd rfl hne
  | @cons source' text' sources texts hentry' hentries =>
      have hne : source' :: sources ≠ [] := List.cons_ne_nil source' sources
      refine ⟨source :: source' :: sources, ending, .cons hentry (.cons hentry' hentries),
        hending.imp_right fun h => ⟨List.cons_ne_nil source _, h.2⟩, ?_⟩
      rw [List.intercalate_cons_of_ne_nil hne]
      simp only [List.append_assoc, List.cons_append, List.nil_append]

theorem inner_of_items (h : items s = .ok texts) : Inner s texts := by
  fun_induction items s generalizing texts with
  | case1 s hs =>
      cases h
      exact ⟨[], s, .nil, .inl (trimStart_eq_nil_iff.1 hs), rfl⟩
  | case3 s quote body hs hquote text rest hread hrest =>
      cases h
      obtain ⟨source, hentry, rfl⟩ := exists_entry hs hquote hread
      exact ⟨[source], trimStart rest, .cons hentry .nil, .inl (by rw [hrest]; exact nofun),
        by rw [List.intercalate_singleton]⟩
  | case4 s quote body hs hquote text rest hread rest' hrest ih =>
      obtain ⟨source, hentry, rfl⟩ := exists_entry hs hquote hread
      rw [hrest]
      cases hitems : items rest' with
      | error e =>
          rw [hitems] at h
          cases h
      | ok texts' =>
          rw [hitems] at h
          cases h
          exact (ih hitems).cons hentry
  | case2 | case5 | case6 => cases h

/-! ## The brackets -/

theorem inner?_eq_some_iff {field inner : List Char} :
    inner? field = some inner ↔ trim field = '[' :: inner ++ [']'] := by
  unfold inner?
  split
  · next s heq =>
      rw [heq, List.cons_append, List.cons_inj_right]
      constructor
      · intro h
        split at h
        · next hlast =>
            cases h
            exact (List.dropLast_append_getLast? ']' hlast).symm
        · cases h
      · rintro rfl
        rw [if_pos List.getLast?_concat, List.dropLast_concat]
  · next hne =>
      constructor
      · exact nofun
      · exact fun heq => absurd heq (hne _)

theorem visible_brackets (inner : List Char) : Visible ('[' :: inner ++ [']']) :=
  .of_append (List.cons_ne_nil '[' inner) (List.cons_ne_nil ']' [])
    (show isBlank '[' = false by decide) (show isBlank ']' = false by decide)

theorem map_eq_ok_iff {α β ε : Type} {f : α → β} {r : Except ε α} {b : β} :
    r.map f = .ok b ↔ ∃ a, r = .ok a ∧ f a = b := by
  cases r with
  | error e => exact ⟨nofun, nofun⟩
  | ok a => simp only [Except.map, Except.ok.injEq, exists_eq_left']

theorem parse_eq_ok_iff_listing {field : List Char} {texts : List String} :
    parse field = .ok texts ↔ Listing field (texts.map String.toList) := by
  constructor
  · intro h
    rw [parse] at h
    split at h
    · cases h
    · next inner hinner =>
        obtain ⟨ts, hitems, rfl⟩ := map_eq_ok_iff.1 h
        obtain ⟨before, after, hbefore, hafter, hfield⟩ :=
          (trim_eq_iff (visible_brackets inner)).1 (inner?_eq_some_iff.1 hinner)
        refine ⟨before, inner, after, hfield, hbefore, hafter, ?_⟩
        simpa only [List.map_map, Function.comp_def, String.toList_ofList, List.map_id'] using
          inner_of_items hitems
  · rintro ⟨before, inner, after, hfield, hbefore, hafter, hinner⟩
    have htrim : trim field = '[' :: inner ++ [']'] :=
      (trim_eq_iff (visible_brackets inner)).2 ⟨before, after, hbefore, hafter, hfield⟩
    rw [parse, inner?_eq_some_iff.2 htrim, map_eq_ok_iff]
    refine ⟨texts.map String.toList, hinner.items_eq, ?_⟩
    simp only [List.map_map, Function.comp_def, String.ofList_toList, List.map_id']

/-! ## Lists that are written -/

/-- The text with a backslash before every backslash and every quote of the kind it stands in. -/
def escaped (q : Quote) (text : List Char) : List Char :=
  text.flatMap fun c => if c = '\\' ∨ c = q.char then ['\\', c] else [c]

/-- The text in quotes. -/
def written (q : Quote) (text : List Char) : List Char := q.char :: escaped q text ++ [q.char]

/-- The texts in quotes, each in quotes of its own kind, with commas between them. -/
def writtenList (texts : List (Quote × String)) : List Char :=
  '[' :: [','].intercalate (texts.map fun t => written t.1 t.2.toList) ++ [']']

theorem spells_escaped (q : Quote) (text : List Char) : Spells q (escaped q text) text := by
  induction text with
  | nil => exact .nil
  | cons c text ih =>
      rw [escaped, List.flatMap_cons]
      split
      · next hc =>
        rcases hc with rfl | rfl
        · exact .resolved (by decide) ih
        · exact .resolved q.mem_escapes ih
      · next hc => exact .plain (fun h => hc (.inr h)) (fun h => hc (.inl h)) ih

theorem entry_written (q : Quote) (text : List Char) : Entry (written q text) text :=
  ⟨[], q, escaped q text, [], by rw [List.nil_append, List.append_nil, written], nofun, nofun,
    spells_escaped q text⟩

theorem listing_writtenList (texts : List (Quote × String)) :
    Listing (writtenList texts) ((texts.map Prod.snd).map String.toList) := by
  refine ⟨[], _, [], by rw [List.nil_append, List.append_nil, writtenList], nofun, nofun,
    texts.map fun t => written t.1 t.2.toList, [], ?_, .inl nofun, (List.append_nil _).symm⟩
  rw [List.map_map, List.forall₂_map_left_iff, List.forall₂_map_right_iff, List.forall₂_same]
  exact fun t _ => entry_written t.1 t.2.toList

/-- A field is read as a list of texts exactly when it is written for that list, whatever the
field. Among the fields written for a list of texts is the one that has each text in either kind of
quotes, its backslashes and those quotes escaped, with commas between the texts. -/
theorem parse_listing :
    (∀ (field : List Char) (texts : List String),
      parse field = .ok texts ↔ Listing field (texts.map String.toList)) ∧
    ∀ texts : List (Quote × String), parse (writtenList texts) = .ok (texts.map Prod.snd) :=
  ⟨fun _ _ => parse_eq_ok_iff_listing,
    fun texts => parse_eq_ok_iff_listing.2 (listing_writtenList texts)⟩

end ModemScript.CollectableList
