import ModemScript.Session

/-!
# What judging a reply changes

Judging a reply writes to two maps in one loop: what a specifier finds goes to the variables and to
the response, and the next specifier is read with the variables as they are by then. The loop is
therefore a fold over the variables alone (`fst_foldl_collect_gather`), and the map of the response
adds nothing of its own: it is the part of the variables that the fold has written
(`get?_foldl_collect`). It matters that the map of a response is empty at first, and that no name
is ever taken back.

Everything else that judging changes is the flag, the cursor, the record of the response on the
command that was judged, and the fallback behind it (`judged_validate`).
-/

namespace ModemScript.Session

variable {d : Dialect} {lines : List String} {store : Store} {r : Request} {key : String}

/-! ## What was expected -/

theorem find?_eq_none_iff_matches {pattern : String} :
    ((d.test? pattern).bind fun test => lines.find? test) = none ↔
      ∀ line ∈ lines, ¬d.Matches pattern line := by
  cases h : d.test? pattern with
  | none => exact ⟨fun _ line _ => Dialect.not_matches h line, fun _ => rfl⟩
  | some test => simp only [Option.bind_some, List.find?_eq_none, Dialect.matches_iff h]

theorem find?_eq_some_iff_matches {pattern line : String} :
    ((d.test? pattern).bind fun test => lines.find? test) = some line ↔
      ∃ earlier later, lines = earlier ++ line :: later ∧ d.Matches pattern line ∧
        ∀ l ∈ earlier, ¬d.Matches pattern l := by
  cases h : d.test? pattern with
  | none =>
      exact ⟨fun hnone => (nomatch hnone),
        fun ⟨_, _, _, hmatches, _⟩ => absurd hmatches (Dialect.not_matches h line)⟩
  | some test =>
      simp only [Option.bind_some, List.find?_eq_some_iff_append, Dialect.matches_iff h,
        Bool.not_eq_true', Bool.not_eq_true]
      exact ⟨fun ⟨hline, earlier, later, heq, hearlier⟩ => ⟨earlier, later, heq, hline, hearlier⟩,
        fun ⟨earlier, later, heq, hline, hearlier⟩ => ⟨hline, earlier, later, heq, hearlier⟩⟩

theorem fails_iff :
    fails d r lines = true ↔
      ∃ pattern, r.expected = some pattern ∧ ∀ line ∈ lines, ¬d.Matches pattern line := by
  unfold fails matched?
  cases r.expected with
  | none => exact ⟨fun h => (nomatch h), fun ⟨_, h, _⟩ => (nomatch h)⟩
  | some pattern =>
      rw [Option.isSome_some, Bool.true_and, Option.bind_some, Option.isNone_iff_eq_none,
        find?_eq_none_iff_matches]
      exact ⟨fun h => ⟨pattern, rfl, h⟩, fun ⟨_, heq, h⟩ => Option.some.inj heq ▸ h⟩

theorem matched?_eq_some_iff {line : String} :
    matched? d r lines = some line ↔
      ∃ pattern, r.expected = some pattern ∧ ∃ earlier later, lines = earlier ++ line :: later ∧
        d.Matches pattern line ∧ ∀ l ∈ earlier, ¬d.Matches pattern l := by
  unfold matched?
  rw [Option.bind_eq_some_iff]
  simp only [find?_eq_some_iff_matches]

/-! ## What is collected -/

/-- What a specifier writes: the name of its variable, and the value that a reply has for it when
the variables are those of `store`. -/
def write? (d : Dialect) (lines : List String) (store : Store) (spec : String) :
    Option (String × Value) :=
  (Collectable.parse? spec).bind fun c =>
    (c.extract d store.substitute lines).map fun value => (c.name, value)

/-- The variables after one specifier. -/
def gather (d : Dialect) (lines : List String) (store : Store) (spec : String) : Store :=
  (write? d lines store spec).elim store fun e => store.insert e.1 e.2

/-- One of the specifiers writes the variable, each of them with the variables as those before it
have left them. -/
def Writes (d : Dialect) (lines : List String) (key : String) : Store → List String → Prop
  | _, [] => False
  | store, spec :: specs =>
    (∃ value, write? d lines store spec = some (key, value)) ∨
      Writes d lines key (gather d lines store spec) specs

theorem collect_eq_gather (store : Store) (response : Response) (spec : String) :
    collect d (store, response) spec =
      (gather d response.lines store spec,
        (write? d response.lines store spec).elim response fun e => response.collect e.1 e.2) := by
  simp only [collect, gather, write?]
  cases Collectable.parse? spec with
  | none => rfl
  | some c =>
      simp only [Option.bind_some]
      cases c.extract d store.substitute response.lines <;> rfl

theorem fst_foldl_collect_gather (specs : List String) (store : Store) (response : Response) :
    (specs.foldl (collect d) (store, response)).1 =
      specs.foldl (gather d response.lines) store := by
  induction specs generalizing store response with
  | nil => rfl
  | cons spec specs ih =>
      rw [List.foldl_cons, List.foldl_cons, collect_eq_gather, ih]
      cases write? d response.lines store spec <;> rfl

/-- Collecting changes nothing of a response but what it has collected. -/
theorem exists_snd_foldl_collect (specs : List String) (store : Store) (response : Response) :
    ∃ collected, (specs.foldl (collect d) (store, response)).2 =
      { response with collected := collected } := by
  induction specs generalizing store response with
  | nil => exact ⟨response.collected, rfl⟩
  | cons spec specs ih =>
      rw [List.foldl_cons, collect_eq_gather]
      cases write? d response.lines store spec with
      | none => exact ih _ _
      | some e => exact ih _ (response.collect e.1 e.2)

theorem get?_elim_of_not_exists {e? : Option (String × Value)}
    (h : ¬∃ value, e? = some (key, value)) :
    (e?.elim store fun e => store.insert e.1 e.2).get? key = store.get? key := by
  cases e? with
  | none => rfl
  | some e =>
      have hne : key ≠ e.1 := fun heq => h ⟨e.2, heq ▸ rfl⟩
      exact (Store.get?_insert ..).trans (if_neg hne)

theorem get?_elim_of_eq_some {e? : Option (String × Value)} {value : Value}
    (h : e? = some (key, value)) :
    (e?.elim store fun e => store.insert e.1 e.2).get? key = some value := by
  rw [h]
  exact (Store.get?_insert ..).trans (if_pos rfl)

theorem get?_foldl_gather {specs : List String} (h : ¬Writes d lines key store specs) :
    (specs.foldl (gather d lines) store).get? key = store.get? key := by
  induction specs generalizing store with
  | nil => rfl
  | cons spec specs ih =>
      obtain ⟨hspec, hspecs⟩ := not_or.1 h
      rw [List.foldl_cons, ih hspecs]
      exact get?_elim_of_not_exists hspec

theorem get?_foldl_gather_cons {spec : String} {specs : List String} {value : Value}
    (he : write? d lines store spec = some (key, value))
    (h : ¬Writes d lines key (gather d lines store spec) specs) :
    ((spec :: specs).foldl (gather d lines) store).get? key = some value := by
  rw [List.foldl_cons, get?_foldl_gather h]
  exact get?_elim_of_eq_some he

/-- A response holds what has been written, as the variables hold it in the end. -/
theorem get?_foldl_collect (d : Dialect) (key : String) (specs : List String) (store : Store)
    (response : Response) :
    let p := specs.foldl (collect d) (store, response)
    (Writes d response.lines key store specs →
      ∃ value, p.1.get? key = some value ∧ p.2.collected.get? key = some value) ∧
    (¬Writes d response.lines key store specs →
      p.2.collected.get? key = response.collected.get? key) := by
  induction specs generalizing store response with
  | nil => exact ⟨False.elim, fun _ => rfl⟩
  | cons spec specs ih =>
      intro p
      let e? := write? d response.lines store spec
      let store' := gather d response.lines store spec
      let response' := e?.elim response fun e => response.collect e.1 e.2
      have hp : p = specs.foldl (collect d) (store', response') := by
        show (spec :: specs).foldl (collect d) (store, response) = _
        rw [List.foldl_cons, collect_eq_gather]
      have hlines : response'.lines = response.lines := by
        unfold response'
        cases e? <;> rfl
      have hcollected : response'.collected =
          e?.elim response.collected fun e => response.collected.insert e.1 e.2 := by
        unfold response'
        cases e? <;> rfl
      obtain ⟨hwritten, hunwritten⟩ := ih store' response'
      rw [hlines] at hwritten hunwritten
      rw [hcollected] at hunwritten
      rw [hp]
      constructor
      · intro h
        -- a later specifier that writes the variable decides, and else it is this one
        by_cases hlater : Writes d response.lines key store' specs
        · exact hwritten hlater
        · obtain ⟨value, he⟩ := h.resolve_right hlater
          refine ⟨value, ?_, (hunwritten hlater).trans (get?_elim_of_eq_some he)⟩
          rw [fst_foldl_collect_gather, hlines]
          exact get?_foldl_gather_cons he hlater
      · intro h
        obtain ⟨hspec, hlater⟩ := not_or.1 h
        exact (hunwritten hlater).trans (get?_elim_of_not_exists hspec)

/-! ## What a judged reply leaves -/

/-- What becomes of a session and of a reply to its command `c` when the reply is judged. -/
structure Judged (d : Dialect) (s : Session) (c : Command) (lines : List String) (elapsed : Int)
    (response : Response) (s' : Session) : Prop where
  /-- The reply has failed exactly if something is expected and no line matches it. -/
  failed : s'.failed = true ↔
    ∃ pattern, c.request.expected = some pattern ∧ ∀ line ∈ lines, ¬d.Matches pattern line
  /-- What is reported is the first line that matches. -/
  matched : ∀ line, response.matched = some line ↔
    ∃ pattern, c.request.expected = some pattern ∧ ∃ earlier later,
      lines = earlier ++ line :: later ∧ d.Matches pattern line ∧
        ∀ l ∈ earlier, ¬d.Matches pattern l
  reply : response.lines = lines ∧ response.command = c.text ∧ response.elapsed = elapsed.toNat
  /-- Nothing is collected from a reply that has failed. -/
  refused : s'.failed = true → s'.store = s.store ∧ response.collected = .empty
  /-- The specifiers are taken in order, each with the variables as those before it have left
  them. -/
  store : s'.failed = false →
    s'.store = (c.request.collectables.getD []).foldl (gather d lines) s.store
  /-- The response has what has been written, with the value that the session has of it. -/
  written : s'.failed = false → ∀ key, Writes d lines key s.store (c.request.collectables.getD []) →
    ∃ value, s'.store.get? key = some value ∧ response.collected.get? key = some value
  /-- Nothing else is in the response or has changed in the session. -/
  unwritten : s'.failed = false → ∀ key,
    ¬Writes d lines key s.store (c.request.collectables.getD []) →
      s'.store.get? key = s.store.get? key ∧ response.collected.get? key = none
  /-- Of several values that have been written to a variable the last one counts. -/
  last : s'.failed = false → ∀ before spec after key value,
    c.request.collectables.getD [] = before ++ spec :: after →
    write? d lines (before.foldl (gather d lines) s.store) spec = some (key, value) →
    ¬Writes d lines key ((before ++ [spec]).foldl (gather d lines) s.store) after →
      s'.store.get? key = some value
  cursor : s'.cursor = s.cursor + 1
  /-- The response is recorded on the command that was judged. -/
  recorded : s'.commands[s.cursor]? = some { c with response := some response }
  /-- A fallback stands behind it if the reply has failed, and the other commands stay. -/
  commands : s'.commands = s.commands.take s.cursor ++ { c with response := some response } ::
    ((if s'.failed then c.fallback?.toList else []) ++ s.commands.drop (s.cursor + 1))

theorem splice_cons (commands others : List Command) (index : Nat) (c : Command) :
    splice commands index (c :: others) =
      commands.take index ++ c :: (others ++ commands.drop (index + 1)) := by
  rw [splice, List.append_assoc, List.cons_append]

theorem getElem?_splice {commands : List Command} {index : Nat} (h : index < commands.length)
    (c : Command) (others : List Command) :
    (splice commands index (c :: others))[index]? = some c := by
  have hlength : (commands.take index).length = index := List.length_take_of_le (Nat.le_of_lt h)
  rw [splice_cons, List.getElem?_append_right (Nat.le_of_eq hlength), hlength, Nat.sub_self,
    List.getElem?_cons_zero]

theorem judged_of_fails {s : Session} {c : Command} (elapsed : Int) (hc : s.current? = some c)
    (hf : fails d c.request lines = true) :
    Judged d s c lines elapsed (s.validate d lines elapsed).1 (s.validate d lines elapsed).2 := by
  obtain ⟨hcursor, -⟩ := List.getElem?_eq_some_iff.1 hc
  simp only [validate, hc, hf, if_true]
  exact
    { failed := ⟨fun _ => fails_iff.1 hf, fun _ => rfl⟩
      matched := fun _ => matched?_eq_some_iff
      reply := ⟨rfl, rfl, rfl⟩
      refused := fun _ => ⟨rfl, rfl⟩
      store := fun h => absurd h.symm Bool.false_ne_true
      written := fun h => absurd h.symm Bool.false_ne_true
      unwritten := fun h => absurd h.symm Bool.false_ne_true
      last := fun h => absurd h.symm Bool.false_ne_true
      cursor := rfl
      recorded := getElem?_splice hcursor _ _
      commands := splice_cons _ _ _ _ }

theorem judged_of_not_fails {s : Session} {c : Command} (elapsed : Int) (hc : s.current? = some c)
    (hf : fails d c.request lines = false) :
    Judged d s c lines elapsed (s.validate d lines elapsed).1 (s.validate d lines elapsed).2 := by
  obtain ⟨hcursor, -⟩ := List.getElem?_eq_some_iff.1 hc
  simp only [validate, hc, hf, Bool.false_eq_true, if_false]
  let specs := c.request.collectables.getD []
  let response := Response.new (matched? d c.request lines) lines c.text elapsed
  have hstore : (specs.foldl (collect d) (s.store, response)).1 =
      specs.foldl (gather d lines) s.store :=
    fst_foldl_collect_gather specs s.store response
  obtain ⟨collected, hresponse⟩ := exists_snd_foldl_collect (d := d) specs s.store response
  have hcollected (key : String) := get?_foldl_collect d key specs s.store response
  exact
    { failed := ⟨fun h => absurd h Bool.false_ne_true,
        fun h => absurd (hf.symm.trans (fails_iff.2 h)) Bool.false_ne_true⟩
      matched := by
        intro line
        rw [hresponse]
        exact matched?_eq_some_iff
      reply := by
        rw [hresponse]
        exact ⟨rfl, rfl, rfl⟩
      refused := fun h => absurd h Bool.false_ne_true
      store := fun _ => hstore
      written := fun _ key h => (hcollected key).1 h
      unwritten := fun _ key h =>
        ⟨(congrArg (Store.get? · key) hstore).trans (get?_foldl_gather h), (hcollected key).2 h⟩
      last := by
        intro _ before spec after key value hspecs he hafter
        rw [List.foldl_append, List.foldl_cons, List.foldl_nil] at hafter
        show (specs.foldl (collect d) (s.store, response)).1.get? key = some value
        rw [hstore, show specs = before ++ spec :: after from hspecs, List.foldl_append]
        exact get?_foldl_gather_cons he hafter
      cursor := rfl
      recorded := getElem?_splice hcursor _ _
      commands := splice_cons _ _ _ _ }

/-- Judging a reply does all that and nothing else. -/
theorem judged_validate (d : Dialect) {s : Session} {c : Command} (hc : s.current? = some c)
    (lines : List String) (elapsed : Int) :
    Judged d s c lines elapsed (s.validate d lines elapsed).1 (s.validate d lines elapsed).2 := by
  cases hf : fails d c.request lines with
  | true => exact judged_of_fails elapsed hc hf
  | false => exact judged_of_not_fails elapsed hc hf

/-- The second specifier refers to what the first has written, and the third writes to the same
variable as the first. -/
theorem judged_validate_rewritten :
    let d : Dialect := .literal
    let specs := ["+CSQ: ?{x},", "+CSQ: ${x},?{y}", ",?{x}"]
    let c : Command :=
      .ofRequest ((Request.new "AT+CSQ" (some "OK")).withCollectables (some specs)) []
    let s := ofCommands [c, .ofRequest (.new "AT" none) []]
    let lines := ["+CSQ: 31,7", "OK"]
    let response := (s.validate d lines 5).1
    let s' := (s.validate d lines 5).2
    s.current? = some c ∧ s'.failed = false ∧ response.matched = some "OK" ∧
      s'.store.get? "x" = some (.int 7) ∧ response.collected.get? "x" = s'.store.get? "x" ∧
      s'.commands = [{ c with response := some response }, .ofRequest (.new "AT" none) []] := by
  intro d specs c s lines response s'
  have hc : s.current? = some c := rfl
  have hjudged : Judged d s c lines 5 response s' := judged_validate d hc lines 5
  have hfailed : s'.failed = false := by decide +kernel
  have hmatched : response.matched = some "OK" := by
    refine (hjudged.matched "OK").2 ⟨"OK", rfl, ["+CSQ: 31,7"], [], rfl, ⟨_, rfl, rfl⟩, ?_⟩
    rintro l hl ⟨test, htest, hline⟩
    rw [List.mem_singleton.1 hl] at hline
    cases htest
    revert hline
    decide
  have hfirst : write? d lines s.store "+CSQ: ?{x}," = some ("x", .int 31) := by decide +kernel
  have hlast : write? d lines (["+CSQ: ?{x},", "+CSQ: ${x},?{y}"].foldl (gather d lines) s.store)
      ",?{x}" = some ("x", .int 7) := by decide +kernel
  have hx := hjudged.last hfailed ["+CSQ: ?{x},", "+CSQ: ${x},?{y}"] ",?{x}" [] "x" (.int 7) rfl
    hlast id
  obtain ⟨value, hvalue, hcollected⟩ := hjudged.written hfailed "x" (.inl ⟨_, hfirst⟩)
  have hcommands := hjudged.commands
  rw [hfailed] at hcommands
  exact ⟨hc, hfailed, hmatched, hx, hcollected.trans hvalue.symm, hcommands⟩

end ModemScript.Session
