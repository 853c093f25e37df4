import ModemScript.Proofs.Fragments

/-!
# The line that a value is taken from

A line bears a value if the text after the value stands somewhere behind the first occurrence of
the text before it, and if the key's pattern has a match anywhere in it. The first line that does
decides for the whole reply: the value is what the match in that line leaves when the two texts are
deleted from it (`extract_by_search`). So far this is a search for two texts, however the match is
found, and it makes no difference that the two texts are kept in one list, from which an empty one
is left out (`extractListed?_eq`).

What the first line decides may be that there is no value. A marker with nothing around it is borne
by a blank line, and replies begin with blank lines. Then nothing is left, nothing is collected, and
the line with the value is not looked at. That is the only way in which a value that some line
holds can be missed (`extract_unless_hidden`).
-/

namespace ModemScript

namespace Text

variable {piece left right s x rest : List Char}

/-- The first occurrence of `piece` in `s` has `x` before it and `rest` behind it. -/
structure First (piece s x rest : List Char) : Prop where
  eq : s = x ++ piece ++ rest
  least : ∀ x', x' ++ piece <+: s → x.length ≤ x'.length

/-- Something stands between two texts exactly if the second stands behind the first occurrence of
the first. -/
theorem exists_between_iff :
    (∃ x t y, Between left right s x t y) ↔ ∃ x rest, First left s x rest ∧ right <:+: rest := by
  constructor
  · rintro ⟨x, t, y, h⟩
    exact ⟨x, t ++ right ++ y, ⟨h.eq, h.first⟩, t, y, rfl⟩
  · rintro ⟨x, rest, hfirst, hright⟩
    cases hlast : cutLast? right rest with
    | none => exact absurd hright (cutLast?_eq_none_iff.1 hlast)
    | some cut =>
        obtain ⟨t, y⟩ := cut
        obtain rfl := append_of_cutLast? hlast
        exact ⟨x, t, y, hfirst.eq, hfirst.least, fun _ => length_le_of_cutLast? hlast⟩

end Text

namespace Collectable

open Pattern Text

variable {d : Dialect} {substitute : String → String} {c : Collectable} {line : String}
  {lines : List String} {v : Value} {found : List Char}

/-! ## What a line holds -/

/-- A match without the two texts around the value, wherever they occur in it. -/
def strip (left right found : List Char) : List Char :=
  replaceAll right [] (replaceAll left [] found)

/-- What a line holds: its match without the two texts, if it passes the test and has a match. -/
def held? (d : Dialect) (substitute : String → String) (c : Collectable) (line : String) :
    Option (List Char) :=
  let left := fragment substitute c.before
  let right := fragment substitute c.after
  (c.lineTest? d).bind fun test =>
    (if test line then (linePattern left right).find? line.toList else none).map (strip left right)

/-- What a line holds is the value, unless nothing is left of it. -/
def value? : List Char → Option Value
  | [] => none
  | found => some (.coerce (String.ofList found))

theorem value?_eq_some_iff :
    value? found = some v ↔ found ≠ [] ∧ v = .coerce (String.ofList found) := by
  cases found with
  | nil => exact ⟨fun h => (nomatch h), fun h => absurd rfl h.1⟩
  | cons a found =>
      exact ⟨fun h => ⟨List.cons_ne_nil a found, (Option.some.inj h).symm⟩, fun h => h.2 ▸ rfl⟩

theorem value?_eq_none_iff : value? found = none ↔ found = [] := by
  cases found with
  | nil => exact ⟨fun _ => rfl, fun _ => rfl⟩
  | cons a found => exact ⟨fun h => (nomatch h), fun h => (nomatch h)⟩

theorem extract_eq_value? :
    c.extract d substitute lines =
      (c.lineTest? d).bind fun test =>
        (lines.findSome? fun line =>
          if test line then
            (linePattern (fragment substitute c.before) (fragment substitute c.after)).find?
              line.toList
          else none).bind fun found =>
            value? (strip (fragment substitute c.before) (fragment substitute c.after) found) := by
  unfold extract
  refine Option.bind_congr fun test _ => Option.bind_congr fun found _ => ?_
  simp only [strip]
  cases replaceAll (fragment substitute c.after) []
    (replaceAll (fragment substitute c.before) [] found) <;> rfl

/-- The first line that holds anything decides. -/
theorem extract_eq_bind :
    c.extract d substitute lines = (lines.findSome? (c.held? d substitute)).bind value? := by
  rw [extract_eq_value?]
  unfold held?
  cases c.lineTest? d with
  | none =>
      have hnone : lines.findSome? (fun _ => (none : Option (List Char))) = none :=
        List.findSome?_eq_none_iff.2 fun _ _ => rfl
      simp only [Option.bind_none, hnone]
  | some test =>
      let left := fragment substitute c.before
      let right := fragment substitute c.after
      let match? (line : String) : Option (List Char) :=
        if test line then (linePattern left right).find? line.toList else none
      have hmap : lines.findSome? (Option.map (strip left right) ∘ match?) =
          (lines.findSome? match?).map (strip left right) := List.map_findSome?.symm
      show (lines.findSome? match?).bind (fun found => value? (strip left right found)) =
        (lines.findSome? (Option.map (strip left right) ∘ match?)).bind value?
      rw [hmap, Option.bind_map]
      rfl

/-- The key's test is passed where the key's pattern, if there is one, has a match. -/
theorem exists_lineTest?_iff :
    (∃ test, c.lineTest? d = some test ∧ test line = true) ↔
      ∀ pattern ∈ c.keyPattern, d.Matches pattern line := by
  unfold lineTest?
  cases c.keyPattern with
  | none => exact ⟨fun _ _ h => (nomatch h), fun _ => ⟨_, rfl, rfl⟩⟩
  | some pattern => exact ⟨fun h p hp => Option.some.inj hp ▸ h, fun h => h pattern rfl⟩

theorem held?_eq_some_iff (hline : '\n' ∉ line.toList) :
    let left := fragment substitute c.before
    let right := fragment substitute c.after
    c.held? d substitute line = some found ↔
      (∀ pattern ∈ c.keyPattern, d.Matches pattern line) ∧
        ∃ x t y, Between left right line.toList x t y ∧
          found = strip left right (left ++ t ++ right) := by
  intro left right
  simp only [← exists_lineTest?_iff, held?, find?_linePattern hline]
  constructor
  · intro h
    obtain ⟨test, htest, hfound⟩ := Option.bind_eq_some_iff.1 h
    obtain ⟨whole, hwhole, rfl⟩ := Option.map_eq_some_iff.1 hfound
    split at hwhole
    · next hpasses =>
        obtain ⟨t, ht, rfl⟩ := Option.map_eq_some_iff.1 hwhole
        obtain ⟨x, y, hbetween⟩ := between?_eq_some_iff.1 ht
        exact ⟨⟨test, htest, hpasses⟩, x, t, y, hbetween, rfl⟩
    · cases hwhole
  · rintro ⟨⟨test, htest, hpasses⟩, x, t, y, hbetween, rfl⟩
    have ht : between? (fragment substitute c.before) (fragment substitute c.after) line.toList =
        some t := between?_eq_some_iff.2 ⟨x, y, hbetween⟩
    rw [htest, Option.bind_some, if_pos hpasses, ht]
    rfl

/-! ## The search for two texts -/

/-- A line bears a value: the text after it stands somewhere behind the first occurrence of the
text before it, and the key's pattern, if there is one, has a match. -/
structure Bears (d : Dialect) (substitute : String → String) (c : Collectable) (line : String) :
    Prop where
  texts : ∃ x rest, First (fragment substitute c.before) line.toList x rest ∧
    fragment substitute c.after <:+: rest
  key : ∀ pattern ∈ c.keyPattern, d.Matches pattern line

/-- The first line of a reply that bears a value. -/
def Selected (d : Dialect) (substitute : String → String) (c : Collectable) (lines : List String)
    (line : String) : Prop :=
  ∃ earlier later, lines = earlier ++ line :: later ∧ c.Bears d substitute line ∧
    ∀ l ∈ earlier, ¬c.Bears d substitute l

theorem bears_iff (hline : '\n' ∉ line.toList) :
    c.Bears d substitute line ↔ ∃ found, c.held? d substitute line = some found := by
  constructor
  · intro h
    obtain ⟨x, t, y, hbetween⟩ := exists_between_iff.2 h.texts
    exact ⟨_, (held?_eq_some_iff hline).2 ⟨h.key, x, t, y, hbetween, rfl⟩⟩
  · rintro ⟨found, h⟩
    obtain ⟨hkey, x, t, y, hbetween, -⟩ := (held?_eq_some_iff hline).1 h
    exact ⟨exists_between_iff.1 ⟨x, t, y, hbetween⟩, hkey⟩

theorem held?_eq_none_iff (hline : '\n' ∉ line.toList) :
    c.held? d substitute line = none ↔ ¬c.Bears d substitute line := by
  rw [bears_iff hline, ← Option.ne_none_iff_exists', not_not]

/-- What the first line with a match holds is what the search finds. -/
theorem findSome?_held?_iff (hlines : ∀ line ∈ lines, '\n' ∉ line.toList) :
    let left := fragment substitute c.before
    let right := fragment substitute c.after
    lines.findSome? (c.held? d substitute) = some found ↔
      ∃ line x t y, c.Selected d substitute lines line ∧ Between left right line.toList x t y ∧
        found = strip left right (left ++ t ++ right) := by
  intro left right
  rw [List.findSome?_eq_some_iff]
  constructor
  · rintro ⟨earlier, line, later, rfl, hheld, hearlier⟩
    have hline := hlines line (List.mem_append_right _ List.mem_cons_self)
    obtain ⟨-, x, t, y, hbetween, hfound⟩ := (held?_eq_some_iff hline).1 hheld
    have hbears : c.Bears d substitute line := (bears_iff hline).2 ⟨found, hheld⟩
    refine ⟨line, x, t, y, ⟨earlier, later, rfl, hbears, fun l hl => ?_⟩, hbetween, hfound⟩
    exact (held?_eq_none_iff (hlines l (List.mem_append_left _ hl))).1 (hearlier l hl)
  · rintro ⟨line, x, t, y, ⟨earlier, later, rfl, hbears, hearlier⟩, hbetween, rfl⟩
    have hline := hlines line (List.mem_append_right _ List.mem_cons_self)
    have hheld := (held?_eq_some_iff hline).2 ⟨hbears.key, x, t, y, hbetween, rfl⟩
    refine ⟨earlier, line, later, rfl, hheld, fun l hl => ?_⟩
    exact (held?_eq_none_iff (hlines l (List.mem_append_left _ hl))).2 (hearlier l hl)

/-! ## The two texts in one list -/

/-- The texts around the value in one list, with their references replaced. An empty one is left
out. -/
def fragments (substitute : String → String) (c : Collectable) : List (List Char) :=
  ([c.before, c.after].filter fun text => !text.isEmpty).map fun text => (substitute text).toList

/-- The first entry of the list, unless there is no text before the value. -/
def firstFragment? (substitute : String → String) (c : Collectable) : Option (List Char) :=
  if c.before.isEmpty then some [] else (c.fragments substitute)[0]?

/-- The last entry of the list, unless there is no text after the value. -/
def lastFragment? (substitute : String → String) (c : Collectable) : Option (List Char) :=
  if c.after.isEmpty then some [] else (c.fragments substitute).getLast?

/-- `extract` with the texts around the value taken from the two ends of one list, and deleted in
the order of the list. There is no outcome if the list lacks an entry that is taken from it. -/
def extractListed? (d : Dialect) (substitute : String → String) (c : Collectable)
    (lines : List String) : Option (Option Value) := do
  let left ← c.firstFragment? substitute
  let right ← c.lastFragment? substitute
  return do
    let test ← c.lineTest? d
    let found ← lines.findSome? fun line =>
      if test line then (linePattern left right).find? line.toList else none
    value? ((c.fragments substitute).foldl (fun s text => replaceAll text [] s) found)

theorem firstFragment?_eq : c.firstFragment? substitute = some (fragment substitute c.before) := by
  unfold firstFragment? fragment fragments
  cases hbefore : c.before.isEmpty with
  | true => rfl
  | false =>
      rw [List.filter_cons_of_pos (by rw [hbefore]; rfl)]
      rfl

theorem lastFragment?_eq : c.lastFragment? substitute = some (fragment substitute c.after) := by
  unfold lastFragment? fragment fragments
  cases hafter : c.after.isEmpty with
  | true => rfl
  | false =>
      have hlast : [c.after].filter (fun text => !text.isEmpty) = [c.after] :=
        List.filter_cons_of_pos (by rw [hafter]; rfl)
      rw [← List.singleton_append, List.filter_append, hlast, List.map_append, List.map_singleton,
        List.getLast?_append_of_ne_nil _ (List.cons_ne_nil _ _)]
      rfl

theorem replaceAll_nil_nil (s : List Char) : replaceAll [] [] s = s := by
  rw [replaceAll, dif_pos rfl]

/-- An entry that the list lacks would delete nothing. -/
theorem foldl_fragments (found : List Char) :
    (c.fragments substitute).foldl (fun s text => replaceAll text [] s) found =
      strip (fragment substitute c.before) (fragment substitute c.after) found := by
  unfold strip fragment fragments
  cases hbefore : c.before.isEmpty <;> cases hafter : c.after.isEmpty <;>
    simp [hbefore, hafter, replaceAll_nil_nil]

theorem extractListed?_eq :
    c.extractListed? d substitute lines = some (c.extract d substitute lines) := by
  simp only [extractListed?, firstFragment?_eq, lastFragment?_eq, foldl_fragments]
  exact congrArg some extract_eq_value?.symm

/-- What is collected is a matter of searching for two texts. A line is selected if it is the first
in which the second text stands somewhere behind the first occurrence of the first and whose key's
pattern has a match, and what is collected is what that line holds from the first text to the last
occurrence of the second, with both deleted wherever they occur in this. Nothing is collected where
no line is selected or nothing is left. It makes no difference whether the texts are taken from a
list, which never lacks the entry that is taken. -/
theorem extract_by_search (d : Dialect) (substitute : String → String) (c : Collectable)
    {lines : List String} (hlines : ∀ line ∈ lines, '\n' ∉ line.toList) :
    let left := fragment substitute c.before
    let right := fragment substitute c.after
    (∀ v, c.extract d substitute lines = some v ↔
      ∃ line x t y, c.Selected d substitute lines line ∧ Between left right line.toList x t y ∧
        strip left right (left ++ t ++ right) ≠ [] ∧
        v = .coerce (String.ofList (strip left right (left ++ t ++ right)))) ∧
    (c.extract d substitute lines = none ↔
      (∀ line ∈ lines, ¬c.Bears d substitute line) ∨
        ∃ line x t y, c.Selected d substitute lines line ∧ Between left right line.toList x t y ∧
          strip left right (left ++ t ++ right) = []) ∧
    c.extractListed? d substitute lines = some (c.extract d substitute lines) := by
  intro left right
  refine ⟨fun v => ?_, ?_, extractListed?_eq⟩
  · rw [extract_eq_bind, Option.bind_eq_some_iff]
    constructor
    · rintro ⟨found, hfound, hv⟩
      obtain ⟨line, x, t, y, hselected, hbetween, rfl⟩ := (findSome?_held?_iff hlines).1 hfound
      exact ⟨line, x, t, y, hselected, hbetween, value?_eq_some_iff.1 hv⟩
    · rintro ⟨line, x, t, y, hselected, hbetween, hv⟩
      exact ⟨_, (findSome?_held?_iff hlines).2 ⟨line, x, t, y, hselected, hbetween, rfl⟩,
        value?_eq_some_iff.2 hv⟩
  · rw [extract_eq_bind]
    cases hfirst : lines.findSome? (c.held? d substitute) with
    | none =>
        have hnone : ∀ line ∈ lines, ¬c.Bears d substitute line := fun line hline =>
          (held?_eq_none_iff (hlines line hline)).1 (List.findSome?_eq_none_iff.1 hfirst line hline)
        exact ⟨fun _ => .inl hnone, fun _ => rfl⟩
    | some found =>
        obtain ⟨line, x, t, y, hselected, hbetween, rfl⟩ := (findSome?_held?_iff hlines).1 hfirst
        rw [Option.bind_some, value?_eq_none_iff]
        constructor
        · exact fun hempty => .inr ⟨line, x, t, y, hselected, hbetween, hempty⟩
        · rintro (hnone | ⟨line', x', t', y', hselected', hbetween', hempty⟩)
          · obtain ⟨earlier, later, rfl, hbears, -⟩ := hselected
            exact absurd hbears (hnone line (List.mem_append_right _ List.mem_cons_self))
          · have hfirst' := (findSome?_held?_iff hlines).2
              ⟨line', x', t', y', hselected', hbetween', rfl⟩
            rw [← hempty]
            exact Option.some.inj (hfirst.symm.trans hfirst')

/-- Two texts with characters that mean something in a pattern, in a line that has one of them in
the value. -/
theorem extract_by_search_dots :
    let c : Collectable := ⟨"x", some "[0-9]", "a.", "."⟩
    let lines := ["a.", "a.7", "xa.1.a.2.y", "OK"]
    (∀ line ∈ lines, '\n' ∉ line.toList) ∧ c.extract .standard id lines = some (.int 12) ∧
      ∃ line x t y, c.Selected .standard id lines line ∧
        Between ['a', '.'] ['.'] line.toList x t y ∧
        Value.int 12 =
          .coerce (String.ofList (strip ['a', '.'] ['.'] (['a', '.'] ++ t ++ ['.']))) := by
  intro c lines
  have hlines : ∀ line ∈ lines, '\n' ∉ line.toList := by decide +kernel
  have hv : c.extract .standard id lines = some (.int 12) := by decide +kernel
  obtain ⟨line, x, t, y, hselected, hbetween, -, hvalue⟩ :=
    ((extract_by_search .standard id c hlines).1 _).1 hv
  have hleft : fragment id c.before = ['a', '.'] := by decide +kernel
  have hright : fragment id c.after = ['.'] := by decide +kernel
  rw [hleft, hright] at hbetween hvalue
  exact ⟨hlines, hv, line, x, t, y, hselected, hbetween, hvalue⟩

/-! ## A value that is missed -/

/-- The first line that holds anything holds an empty text, and some line holds more than that. -/
def Hidden (d : Dialect) (substitute : String → String) (c : Collectable) (lines : List String) :
    Prop :=
  (∃ earlier line later, lines = earlier ++ line :: later ∧ c.held? d substitute line = some [] ∧
    ∀ l ∈ earlier, c.held? d substitute l = none) ∧
  ∃ l ∈ lines, ∃ found, c.held? d substitute l = some found ∧ found ≠ []

theorem findSome?_filter {α β : Type} {f : α → Option β} {p : β → Bool} {l : List α}
    (h : ∀ b, l.findSome? f = some b → p b = true) :
    l.findSome? (fun a => (f a).filter p) = l.findSome? f := by
  induction l with
  | nil => rfl
  | cons a l ih =>
      rw [List.findSome?_cons] at h
      rw [List.findSome?_cons, List.findSome?_cons]
      cases ha : f a with
      | none =>
          rw [ha] at h
          exact ih h
      | some b =>
          rw [ha] at h
          rw [Option.filter_some, if_pos (h b rfl)]

/-- A line that holds an empty text counts as one that holds something. So the value is that of the
first line that holds anything, and where that line holds an empty text and a later one holds more,
there is none. Otherwise it is the value of the first line that holds more than an empty text. -/
theorem extract_unless_hidden (d : Dialect) (substitute : String → String) (c : Collectable)
    (lines : List String) :
    let held := c.held? d substitute
    (∀ v, c.extract d substitute lines = some v ↔
      ∃ earlier line later found, lines = earlier ++ line :: later ∧ held line = some found ∧
        (∀ l ∈ earlier, held l = none) ∧ found ≠ [] ∧ v = .coerce (String.ofList found)) ∧
    (c.Hidden d substitute lines → c.extract d substitute lines = none) ∧
    (¬c.Hidden d substitute lines → c.extract d substitute lines =
      (lines.findSome? fun line => (held line).filter (!·.isEmpty)).map fun found =>
        .coerce (String.ofList found)) := by
  intro held
  refine ⟨fun v => ?_, ?_, ?_⟩
  · rw [extract_eq_bind, Option.bind_eq_some_iff]
    constructor
    · rintro ⟨found, hfound, hv⟩
      obtain ⟨earlier, line, later, hlines, hheld, hearlier⟩ := List.findSome?_eq_some_iff.1 hfound
      exact ⟨earlier, line, later, found, hlines, hheld, hearlier, value?_eq_some_iff.1 hv⟩
    · rintro ⟨earlier, line, later, found, hlines, hheld, hearlier, hv⟩
      exact ⟨found, List.findSome?_eq_some_iff.2 ⟨earlier, line, later, hlines, hheld, hearlier⟩,
        value?_eq_some_iff.2 hv⟩
  · rintro ⟨hfirst, -⟩
    rw [extract_eq_bind, List.findSome?_eq_some_iff.2 hfirst]
    rfl
  · intro hhidden
    rw [extract_eq_bind]
    by_cases hfirst : lines.findSome? held = some []
    · have hempty : ∀ l ∈ lines, (held l).filter (!·.isEmpty) = none := by
        intro l hl
        refine Option.filter_eq_none_iff.2 fun found hfound hmore => ?_
        have hne : found ≠ [] := by rwa [Bool.not_eq_true', List.isEmpty_eq_false_iff] at hmore
        exact hhidden ⟨List.findSome?_eq_some_iff.1 hfirst, l, hl, found, hfound, hne⟩
      rw [hfirst, List.findSome?_eq_none_iff.2 hempty]
      rfl
    · have hne : ∀ found, lines.findSome? held = some found → found ≠ [] :=
        fun found hfound hempty => hfirst (hempty ▸ hfound)
      have hmore : ∀ found, lines.findSome? held = some found → (!found.isEmpty) = true := by
        intro found hfound
        rw [Bool.not_eq_true', List.isEmpty_eq_false_iff]
        exact hne found hfound
      rw [findSome?_filter hmore]
      cases hfound : lines.findSome? held with
      | none => rfl
      | some found => exact value?_eq_some_iff.2 ⟨hne found hfound, rfl⟩

/-- A blank line at the head of a reply holds an empty text for a marker with nothing around it, and
the number in the next line is missed. -/
theorem extract_behind_blank_line :
    let c : Collectable := ⟨"imei", none, "", ""⟩
    let lines := ["", "356938035643809", "OK"]
    let held := c.held? .standard id
    Collectable.parse? "?{imei}" = some c ∧
      ((lines.findSome? fun line => (held line).filter (!·.isEmpty)).map fun found =>
        Value.coerce (String.ofList found)) = some (.int 356938035643809) ∧
      c.extract .standard id lines = none := by
  decide +kernel

end Collectable

end ModemScript
