import ModemScript.Proofs.CommandFields

/-!
# Lines put together from fields

Two semicolons stand between fields, and a line is cut wherever two of them come first. Fields that
are put together come apart again as they were if no field has two semicolons next to each other and
none ends with one where a separator follows (`fields_intercalate_separator`); how a field begins
makes no difference, and the last one may end as it likes.

What is wrong with the fields of a line is a list, to which each field adds its own part whatever is
wrong with the others (`faults`). A line is refused for the first entry, and where the list is empty
it says the command that the fields describe (`described`).
-/

namespace ModemScript

namespace Text

variable {separator : List Char}

theorem fields_intercalate (hseparator : separator ≠ []) {fs : List (List Char)} (hne : fs ≠ [])
    (hcut : ∀ f ∈ fs.dropLast, cut? separator (f ++ separator) = some (f, []))
    (hlast : cut? separator (fs.getLast hne) = none) :
    fields separator (separator.intercalate fs) = fs := by
  induction fs with
  | nil => exact absurd rfl hne
  | cons f fs ih =>
      cases fs with
      | nil =>
          rw [List.intercalate_singleton]
          exact fields_of_cut?_eq_none hlast
      | cons g fs =>
          have hrest : g :: fs ≠ [] := List.cons_ne_nil g fs
          have hf : cut? separator (f ++ separator) = some (f, []) :=
            hcut f (by rw [List.dropLast_cons_of_ne_nil hrest]; exact List.mem_cons_self)
          have hfs := ih hrest
            (fun f' hf' => hcut f' (by
              rw [List.dropLast_cons_of_ne_nil hrest]
              exact List.mem_cons_of_mem f hf'))
            (by rwa [List.getLast_cons hrest] at hlast)
          rw [List.intercalate_cons_of_ne_nil hrest,
            fields_of_cut?_eq_some hseparator ((cut?_before hseparator hf).2 _), hfs]

end Text

namespace Command

open Text

/-! ## Fields that come apart again -/

/-- A field that has no two semicolons next to each other and does not end with one ends where the
separator behind it begins. -/
theorem cut?_append_separator {f : List Char} (hfree : ¬separator <:+: f)
    (hend : f.getLast? ≠ some ';') : cut? separator (f ++ separator) = some (f, []) :=
  cut?_pair_eq_some_iff.2 ⟨(List.append_nil _).symm, hfree, fun h => hend h.2⟩

theorem fields_intercalate_separator {fs : List (List Char)} (hne : fs ≠ [])
    (hfree : ∀ f ∈ fs, ¬separator <:+: f) (hends : ∀ f ∈ fs.dropLast, f.getLast? ≠ some ';') :
    fields separator (separator.intercalate fs) = fs := by
  refine fields_intercalate separator_ne_nil hne (fun f hf => ?_) ?_
  · exact cut?_append_separator (hfree f (List.dropLast_subset fs hf)) (hends f hf)
  · cases hlast : cut? separator (fs.getLast hne) with
    | none => rfl
    | some cut =>
        exact absurd ⟨cut.1, cut.2, (append_of_cut? hlast).symm⟩
          (hfree _ (List.getLast_mem hne))

/-! ## What is wrong with the fields -/

/-- The number that a field holds, blanks around it apart. -/
def numberIn? (s : List Char) : Option Int := Numeral.word? 64 (trim s)

def numberFault? (e : CommandError) (s : List Char) : Option CommandError :=
  match numberIn? s with
  | some _ => none
  | none => some e

def listFault? (s : List Char) : Option CommandError :=
  match CollectableList.parse s with
  | .ok _ => none
  | .error e => some (.badCollectables e)

def patternFault? (d : Dialect) (s : List Char) : Option CommandError :=
  match d.compile (String.ofList s) with
  | .ok _ => none
  | .error cause => some (.badPattern (String.ofList s) cause)

/-- All that is wrong with the fields of a line, in the order in which it is complained of. -/
def faults (d : Dialect) (fs : List (List Char)) : List CommandError :=
  [if (trim (fs.headD [])).isEmpty then some .missing else none,
    (field fs 2).bind (numberFault? .badDelay),
    (field fs 3).bind (numberFault? .badTimeout),
    (field fs 4).bind listFault?,
    (field fs 1).bind (patternFault? d),
    (field fs 6).bind (patternFault? d)].filterMap id

/-- The command that the fields of a line describe, if nothing is wrong with them. -/
def described (fs : List (List Char)) : Command :=
  let request : Request :=
    { text := String.ofList (fs.headD [])
      expected := (field fs 1).map String.ofList
      delay := (((field fs 2).bind numberIn?).map fun n => (max 0 n).toNat).getD 0
      timeout := ((field fs 3).bind numberIn?).map fun n => (max 1 n).toNat
      collectables := (field fs 4).bind fun s => (CollectableList.parse s).toOption }
  let fallback (text : List Char) : Request :=
    { request with text := String.ofList text, expected := (field fs 6).map String.ofList }
  ofRequest request ((field fs 5).toList.map fallback)

/-- What comes of a check: an error where there is a fault, and otherwise `a`. -/
def checked {α : Type} (fault : Option CommandError) (a : α) : Except CommandError α :=
  fault.elim (.ok a) .error

/-- The first fault of a sequence of checks counts. -/
theorem checked_bind {α β : Type} {fault : Option CommandError} {a : α} {b : β}
    {rest : List (Option CommandError)} {k : α → Except CommandError β}
    (hk : k a = checked (rest.findSome? id) b) :
    (checked fault a >>= k) = checked ((fault :: rest).findSome? id) b := by
  cases fault with
  | none => exact hk
  | some e => rfl

theorem number?_eq (f : Option (List Char)) (e : CommandError) :
    number? f e = checked (f.bind (numberFault? e)) (f.bind numberIn?) := by
  cases f with
  | none => rfl
  | some s =>
      simp only [number?, Option.bind_some, numberFault?, numberIn?]
      cases Numeral.word? 64 (trim s) <;> rfl

theorem collectables?_eq (f : Option (List Char)) :
    collectables? f =
      checked (f.bind listFault?) (f.bind fun s => (CollectableList.parse s).toOption) := by
  cases f with
  | none => rfl
  | some s =>
      simp only [collectables?, Option.bind_some, listFault?]
      cases CollectableList.parse s <;> rfl

theorem pattern?_eq (d : Dialect) (f : Option (List Char)) :
    pattern? d f = checked (f.bind (patternFault? d)) (f.map String.ofList) := by
  cases f with
  | none => rfl
  | some s =>
      simp only [pattern?, Option.bind_some, patternFault?]
      cases d.compile (String.ofList s) <;> rfl

theorem requestOf_eq (text : List Char) (expected : Option String) (delay timeout : Option Int)
    (collectables : Option (List String)) :
    requestOf text expected delay timeout collectables =
      { text := String.ofList text
        expected := expected
        delay := (delay.map fun n => (max 0 n).toNat).getD 0
        timeout := timeout.map fun n => (max 1 n).toNat
        collectables := collectables } := by
  have hdelay : (delay.getD 0).toNat = (delay.map fun n => (max 0 n).toNat).getD 0 := by
    cases delay with
    | none => rfl
    | some n =>
        show n.toNat = (max 0 n).toNat
        omega
  rw [← hdelay]
  cases timeout <;> rfl

theorem ofFields_eq (d : Dialect) (fs : List (List Char)) :
    ofFields d fs = checked (faults d fs).head? (described fs) := by
  rw [faults, List.head?_filterMap]
  unfold ofFields
  simp only [number?_eq, collectables?_eq, pattern?_eq, requestOf_eq]
  by_cases htext : (trim (fs.headD [])).isEmpty = true
  · rw [if_pos htext, if_pos htext]
    rfl
  · rw [if_neg htext, if_neg htext]
    -- one step for each of the other checks, in the order of `faults`
    exact checked_bind (checked_bind (checked_bind (checked_bind (checked_bind rfl))))

theorem faults_eq_nil_iff {d : Dialect} {fs : List (List Char)} :
    faults d fs = [] ↔ HasForm d fs := by
  rw [← exists_ofFields_iff, ofFields_eq, ← List.head?_eq_none_iff]
  cases (faults d fs).head? with
  | none => exact ⟨fun _ => ⟨_, rfl⟩, fun _ => rfl⟩
  | some e => exact ⟨fun h => (nomatch h), fun ⟨c, hc⟩ => (nomatch hc)⟩

theorem fallback?_described (fs : List (List Char)) :
    (described fs).fallback? = (field fs 5).map fun text =>
      ofRequest { (described fs).request with
        text := String.ofList text
        expected := (field fs 6).map String.ofList } [] := by
  unfold described
  cases field fs 5 <;> rfl

end Command

namespace Line

open Text

/-- What is read of a line that is put together from fields and does not begin with a keyword. It is
a command exactly if each field has its form. Then it is the command that the fields describe, which
has a fallback exactly if there is a sixth field and never a second one. Otherwise it is refused for
the first thing that is wrong with it. -/
theorem parse_intercalate (d : Dialect) {fs : List (List Char)} (hne : fs ≠ [])
    (hfree : ∀ f ∈ fs, ¬Command.separator <:+: f)
    (hends : ∀ f ∈ fs.dropLast, f.getLast? ≠ some ';')
    (hkeyword : ¬HasKeyword (Command.separator.intercalate fs)) :
    let line := Command.separator.intercalate fs
    let c := Command.described fs
    ((∃ l, parse d line = .ok l) ↔ Command.HasForm d fs) ∧
      (Command.HasForm d fs → parse d line = .ok (.command c)) ∧
      (¬Command.HasForm d fs → ∃ e, (Command.faults d fs).head? = some e ∧
        parse d line = .error (.command e)) ∧
      c.fallback? = (Command.field fs 5).map fun text =>
        .ofRequest { c.request with
          text := String.ofList text
          expected := (Command.field fs 6).map String.ofList } [] := by
  intro line c
  have hparse : parse d line =
      (Command.faults d fs).head?.elim (.ok (.command c)) fun e => .error (.command e) := by
    rw [parse_of_not_hasKeyword d hkeyword, Command.parse_eq_ofFields,
      Command.fields_intercalate_separator hne hfree hends, Command.ofFields_eq]
    cases (Command.faults d fs).head? <;> rfl
  rw [← Command.faults_eq_nil_iff, ← List.head?_eq_none_iff, hparse]
  cases (Command.faults d fs).head? with
  | none =>
      exact ⟨⟨fun _ => rfl, fun _ => ⟨_, rfl⟩⟩, fun _ => rfl, fun h => absurd rfl h,
        Command.fallback?_described fs⟩
  | some e =>
      exact ⟨⟨fun ⟨l, h⟩ => (nomatch h), fun h => (nomatch h)⟩, fun h => (nomatch h),
        fun _ => ⟨e, rfl, rfl⟩, Command.fallback?_described fs⟩

/-- Fields that begin with a semicolon, one that ends with one because it is the last, blanks around
a number, and a delay and a timeout that are too small. -/
theorem parse_intercalate_semicolons :
    let fs := ["AT+X=1", ";OK", " -5 ", "0", "['a;b',]", "ATZ;I", "O;K;"].map String.toList
    let request : Request := ⟨"AT+X=1", some ";OK", some 1, 0, some ["a;b"]⟩
    fs ≠ [] ∧ (∀ f ∈ fs, ¬Command.separator <:+: f) ∧
      (∀ f ∈ fs.dropLast, f.getLast? ≠ some ';') ∧
      ¬HasKeyword (Command.separator.intercalate fs) ∧
      parse .standard "AT+X=1;;;OK;; -5 ;;0;;['a;b',];;ATZ;I;;O;K;".toList =
        .ok (.command (.ofRequest request
          [{ request with text := "ATZ;I", expected := some "O;K;" }])) := by
  intro fs request
  have hne : fs ≠ [] := List.cons_ne_nil _ _
  have hfree : ∀ f ∈ fs, ¬Command.separator <:+: f := by decide +kernel
  have hends : ∀ f ∈ fs.dropLast, f.getLast? ≠ some ';' := by decide +kernel
  have hkeyword : ¬HasKeyword (Command.separator.intercalate fs) := by
    unfold HasKeyword
    decide +kernel
  have hform : Command.HasForm .standard fs := Command.faults_eq_nil_iff.1 (by decide +kernel)
  have hline : Command.separator.intercalate fs =
      "AT+X=1;;;OK;; -5 ;;0;;['a;b',];;ATZ;I;;O;K;".toList := by decide +kernel
  have hdescribed : Command.described fs = .ofRequest request
      [{ request with text := "ATZ;I", expected := some "O;K;" }] := by decide +kernel
  have hparse := (parse_intercalate .standard hne hfree hends hkeyword).2.1 hform
  rw [hline, hdescribed] at hparse
  exact ⟨hne, hfree, hends, hkeyword, hparse⟩

end Line

end ModemScript
