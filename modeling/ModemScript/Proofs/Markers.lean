import ModemScript.Collectable
import ModemScript.Proofs.Cuts

/-!
# The parts of a marker

A text that describes a value is cut three times: where its marker opens, where the marker closes,
and, within the marker, where the name ends. Nothing is lost at any of the cuts, so what comes out
can be put together again (`source`), and each cut can be made in one place only. A marker opens at
the first `?{`, and a name ends at the first `::`; that the text before a cut has no such piece in
it says nearly all about that. Two pieces can also overlap. No two `?{` do, but a name that ends
with a colon would lose it to the `::` behind it.

A marker closes at the brace that closes it, as braces go: a pattern may have braces of its own. The
reader counts how many are open. What it takes is a text with as many closing braces as opening ones
in which no closing brace comes at a moment when as many are closed as have been opened, since that
brace would have closed the marker (`Enclosed`). Counting from any depth makes this an induction on
the text, with one case for each kind of character.
-/

namespace ModemScript.Collectable

open Text

variable {depth depth' : Nat} {c : Char} {s body rest : List Char}

/-! ## Where a marker closes -/

/-- With `depth` braces open, the text closes all of them and its own, and the marker is not closed
by any brace in it. -/
structure Enclosed (depth : Nat) (body : List Char) : Prop where
  balanced : depth + body.count '{' = body.count '}'
  least : ∀ p, p ++ ['}'] <+: body → depth + p.count '{' ≠ p.count '}'

theorem enclosed_nil : Enclosed depth [] ↔ depth = 0 := by
  refine ⟨fun h => h.balanced, fun h => ⟨h, fun p hp => ?_⟩⟩
  exact absurd (List.prefix_nil.1 hp)
    (List.append_ne_nil_of_right_ne_nil p (List.cons_ne_nil '}' []))

/-- A character in front changes the depth from which is counted, unless it closes the marker. -/
theorem enclosed_cons (hcount : ∀ p : List Char,
      depth + (c :: p).count '{' = (c :: p).count '}' ↔ depth' + p.count '{' = p.count '}')
    (hc : c = '}' → depth ≠ 0) : Enclosed depth (c :: body) ↔ Enclosed depth' body := by
  constructor
  · intro h
    refine ⟨(hcount body).1 h.balanced, fun p hp heq => ?_⟩
    exact h.least (c :: p) (List.cons_prefix_cons.2 ⟨rfl, hp⟩) ((hcount p).2 heq)
  · intro h
    refine ⟨(hcount body).2 h.balanced, fun p hp => ?_⟩
    cases p with
    | nil => exact hc (List.cons_prefix_cons.1 hp).1.symm
    | cons d p =>
        obtain ⟨rfl, hrest⟩ := List.cons_prefix_cons.1 hp
        exact fun heq => h.least p hrest ((hcount p).1 heq)

/-- What is read behind a character that does not close the marker, with the character in front. -/
theorem map_body?_eq_some_iff (hcount : ∀ p : List Char,
      depth + (c :: p).count '{' = (c :: p).count '}' ↔ depth' + p.count '{' = p.count '}')
    (hc : c = '}' → depth ≠ 0)
    (ih : ∀ body, body? depth' s = some (body, rest) ↔
      s = body ++ '}' :: rest ∧ Enclosed depth' body) :
    ((body? depth' s).map fun (body, rest) => (c :: body, rest)) = some (body, rest) ↔
      c :: s = body ++ '}' :: rest ∧ Enclosed depth body := by
  constructor
  · intro h
    obtain ⟨⟨body', rest'⟩, hread, heq⟩ := Option.map_eq_some_iff.1 h
    cases heq
    obtain ⟨rfl, henclosed⟩ := (ih body').1 hread
    exact ⟨rfl, (enclosed_cons hcount hc).2 henclosed⟩
  · rintro ⟨hs, henclosed⟩
    cases body with
    | nil => exact absurd (enclosed_nil.1 henclosed) (hc (List.cons.inj hs).1)
    | cons d body =>
        obtain ⟨rfl, hrest⟩ := List.cons.inj hs
        rw [(ih body).2 ⟨hrest, (enclosed_cons hcount hc).1 henclosed⟩]
        rfl

/-- The marker's text and what follows it are read if, and only if, the text is enclosed and closed
by the brace behind it. -/
theorem body?_eq_some_iff :
    body? depth s = some (body, rest) ↔ s = body ++ '}' :: rest ∧ Enclosed depth body := by
  induction depth, s using body?.induct generalizing body with
  | case1 depth =>
      refine ⟨fun h => (nomatch h), fun h => ?_⟩
      exact absurd h.1.symm (List.append_ne_nil_of_right_ne_nil body (List.cons_ne_nil '}' rest))
  | case2 s =>
      constructor
      · intro h
        cases h
        exact ⟨rfl, enclosed_nil.2 rfl⟩
      · rintro ⟨hs, h⟩
        cases body with
        | nil => exact congrArg (fun rest => some ([], rest)) (List.cons.inj hs).2
        | cons c body =>
            obtain ⟨rfl, -⟩ := List.cons.inj hs
            exact absurd rfl (h.least [] (List.cons_prefix_cons.2 ⟨rfl, List.nil_prefix⟩))
  | case3 depth s ih =>
      refine map_body?_eq_some_iff (fun p => ?_) (fun _ => Nat.succ_ne_zero depth) fun _ => ih
      rw [List.count_cons_of_ne (by decide), List.count_cons_self]
      omega
  | case4 depth s ih =>
      refine map_body?_eq_some_iff (fun p => ?_) (fun h => absurd h (by decide)) fun _ => ih
      rw [List.count_cons_of_ne (by decide : '{' ≠ '}'), List.count_cons_self]
      omega
  | case5 depth c s hzero hsucc hopening ih =>
      have hclosing : c ≠ '}' := by
        cases depth with
        | zero => exact hzero rfl
        | succ depth => exact hsucc depth rfl
      rw [body?]
      · refine map_body?_eq_some_iff (fun p => ?_) (fun h => absurd h hclosing) fun _ => ih
        rw [List.count_cons_of_ne hopening, List.count_cons_of_ne hclosing]
      · exact hopening
      · exact hzero
      · exact hsucc

/-! ## The text of a collectable -/

/-- What follows the name in a marker. -/
def patternText (keyPattern : Option String) : String := keyPattern.elim "" fun p => "::" ++ p

/-- The text that describes the value. -/
def source (c : Collectable) : String :=
  c.before ++ "?\x7b" ++ (c.name ++ patternText c.keyPattern) ++ "\x7d" ++ c.after

/-- Each part ends where its text is cut. -/
structure Cuttable (c : Collectable) : Prop where
  before_free : ¬['?', '{'] <:+: c.before.toList
  name_ne : c.name ≠ ""
  name_free : ¬[':', ':'] <:+: c.name.toList
  name_end : c.keyPattern.isSome = true → c.name.toList.getLast? ≠ some ':'
  enclosed : Enclosed 0 (c.name ++ patternText c.keyPattern).toList

theorem toList_source (c : Collectable) :
    c.source.toList = c.before.toList ++ ['?', '{'] ++
      ((c.name ++ patternText c.keyPattern).toList ++ '}' :: c.after.toList) := by
  simp [source]

/-! ## Reading the text -/

/-- The name in a marker, and the pattern behind it. -/
def nameAndPattern (body : List Char) : List Char × Option String :=
  match cut? separator body with
  | some (name, pattern) => (name, some (String.ofList pattern))
  | none => (body, none)

theorem nameAndPattern_eq_iff {name : List Char} {keyPattern : Option String} :
    nameAndPattern body = (name, keyPattern) ↔
      body = name ++ (patternText keyPattern).toList ∧ ¬[':', ':'] <:+: name ∧
        (keyPattern.isSome = true → name.getLast? ≠ some ':') := by
  unfold nameAndPattern
  constructor
  · intro h
    cases hcut : cut? separator body with
    | none =>
        rw [hcut] at h
        cases h
        exact ⟨(List.append_nil body).symm, cut?_eq_none_iff.1 hcut, nofun⟩
    | some cut =>
        rw [hcut] at h
        cases h
        obtain ⟨hbody, hfree, hend⟩ := cut?_pair_eq_some_iff.1 hcut
        refine ⟨?_, hfree, fun _ hlast => hend ⟨rfl, hlast⟩⟩
        simpa [patternText] using hbody
  · rintro ⟨rfl, hfree, hend⟩
    cases keyPattern with
    | none =>
        have hcut : cut? separator (name ++ []) = none := by
          rw [List.append_nil]
          exact cut?_eq_none_iff.2 hfree
        rw [show (patternText none).toList = [] from rfl, hcut, List.append_nil]
    | some pattern =>
        have hcut : cut? separator (name ++ (patternText (some pattern)).toList) =
            some (name, pattern.toList) := by
          refine cut?_pair_eq_some_iff.2 ⟨?_, hfree, fun h => hend rfl h.2⟩
          simp [patternText]
        rw [hcut]
        simp only [String.ofList_toList]

/-- The three cuts. -/
theorem parse?_eq (spec : String) :
    parse? spec = (cut? opening spec.toList).bind fun (before, rest) =>
      (body? 0 rest).bind fun (body, after) =>
        let (name, keyPattern) := nameAndPattern body
        if name.isEmpty then none
        else some ⟨String.ofList name, keyPattern, String.ofList before, String.ofList after⟩ :=
  rfl

theorem of_parse? {spec : String} {c : Collectable} (h : parse? spec = some c) :
    c.source = spec ∧ c.Cuttable := by
  rw [parse?_eq] at h
  obtain ⟨⟨before, rest⟩, hopen, hrest⟩ := Option.bind_eq_some_iff.1 h
  obtain ⟨⟨body, after⟩, hclose, hbody⟩ := Option.bind_eq_some_iff.1 hrest
  obtain ⟨⟨name, keyPattern⟩, hparts⟩ : ∃ parts, nameAndPattern body = parts := ⟨_, rfl⟩
  simp only [hparts] at hbody
  split at hbody
  · cases hbody
  · next hname =>
      cases hbody
      obtain ⟨hspec, hbefore, -⟩ := cut?_pair_eq_some_iff.1 hopen
      obtain ⟨rfl, henclosed⟩ := body?_eq_some_iff.1 hclose
      obtain ⟨rfl, hfree, hend⟩ := nameAndPattern_eq_iff.1 hparts
      refine ⟨String.toList_injective ?_, ?_, ?_, ?_, ?_, ?_⟩
      · rw [toList_source, hspec]
        simp only [String.toList_append, String.toList_ofList]
      · simpa using hbefore
      · simpa using hname
      · simpa using hfree
      · simpa using hend
      · simpa using henclosed

theorem Cuttable.parse?_source {c : Collectable} (h : c.Cuttable) : parse? c.source = some c := by
  have hopen : cut? opening c.source.toList = some (c.before.toList,
      (c.name ++ patternText c.keyPattern).toList ++ '}' :: c.after.toList) :=
    cut?_pair_eq_some_iff.2 ⟨toList_source c, h.before_free, fun heq => (nomatch heq.1)⟩
  have hclose : body? 0 ((c.name ++ patternText c.keyPattern).toList ++ '}' :: c.after.toList) =
      some ((c.name ++ patternText c.keyPattern).toList, c.after.toList) :=
    body?_eq_some_iff.2 ⟨rfl, h.enclosed⟩
  have hparts := nameAndPattern_eq_iff.2 ⟨String.toList_append, h.name_free, h.name_end⟩
  have hname : ¬c.name.toList.isEmpty = true := by simpa using h.name_ne
  rw [parse?_eq, hopen, Option.bind_some]
  simp only [hclose, Option.bind_some, hparts, if_neg hname, String.ofList_toList]

/-- A text describes a collectable if, and only if, it is put together from its parts and each part
ends where the text is cut. So nothing is lost, and there is one way to take the text apart. -/
theorem parse?_eq_some_iff (spec : String) (c : Collectable) :
    parse? spec = some c ↔ c.source = spec ∧ c.Cuttable :=
  ⟨of_parse?, fun ⟨hspec, h⟩ => hspec ▸ h.parse?_source⟩

end ModemScript.Collectable
