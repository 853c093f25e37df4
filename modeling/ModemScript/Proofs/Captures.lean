import ModemScript.Proofs.Readings
import ModemScript.Proofs.Removal

/-!
# What was captured is inserted

A text that a collectable takes from a reply goes through three hands before it is sent back. It is
read as a value, the value is written out where it is referred to, and what has been written is
searched for references once more. The first two change a text that denotes a number and is not how
that number is written; the third changes a text that refers to variables itself. Nothing else is
changed (`captured_is_inserted`), and that stays so until the variable is written again.
-/

namespace ModemScript

variable {d : Dialect}

namespace Collectable

/-- The text that a collectable takes from a reply, which is then read as a value. -/
def capture? (d : Dialect) (substitute : String → String) (c : Collectable)
    (lines : List String) : Option String := do
  let before := fragment substitute c.before
  let after := fragment substitute c.after
  let test ← c.lineTest? d
  let found ← lines.findSome? fun line =>
    if test line then (linePattern before after).find? line.toList else none
  match Text.replaceAll after [] (Text.replaceAll before [] found) with
  | [] => none
  | captured => return String.ofList captured

theorem extract_eq (substitute : String → String) (c : Collectable) (lines : List String) :
    c.extract d substitute lines = (c.capture? d substitute lines).map Value.coerce := by
  unfold extract capture?
  simp only [bind, Option.map_bind, Function.comp_def]
  refine Option.bind_congr fun test _ => Option.bind_congr fun found _ => ?_
  cases Text.replaceAll (fragment substitute c.after) []
    (Text.replaceAll (fragment substitute c.before) [] found) <;> rfl

end Collectable

/-! ## Writing and reading a value -/

namespace Value

/-- How a text is written where it is referred to: a number in decimal digits, and any other text
as it is. -/
def shown (t : String) : String := (number? t).elim t toString

theorem display_coerce (t : String) : (coerce t).display = shown t := by
  unfold coerce shown
  cases number? t <;> rfl

theorem shown_eq_self_iff (t : String) : shown t = t ↔ ∀ n, number? t = some n → toString n = t := by
  unfold shown
  cases number? t with
  | none => simp
  | some n => simp

end Value

namespace Store

def valueOf (s : Store) (name : List Char) : List Char := (s.display (String.ofList name)).toList

/-- The store with texts written to variables, one after the other. -/
def keep (s : Store) (texts : List (String × String)) : Store :=
  texts.foldl (fun s x => s.insert x.1 (.coerce x.2)) s

variable {s : Store} {key t : String} {texts before after : List (String × String)}

theorem get?_keep_of_not_mem (h : key ∉ texts.map Prod.fst) :
    (s.keep texts).get? key = s.get? key := by
  induction texts generalizing s with
  | nil => rfl
  | cons x texts ih =>
      have hne : key ≠ x.1 := fun heq => h (heq ▸ List.mem_cons_self)
      have hrest : key ∉ texts.map Prod.fst := fun hmem => h (List.mem_cons_of_mem _ hmem)
      exact (ih hrest).trans ((get?_insert ..).trans (if_neg hne))

/-- The last text that was written to a variable counts. -/
theorem get?_keep (h : key ∉ after.map Prod.fst) :
    (s.keep (before ++ (key, t) :: after)).get? key = some (.coerce t) := by
  rw [keep, List.foldl_append, List.foldl_cons]
  exact (get?_keep_of_not_mem h).trans ((get?_insert ..).trans (if_pos rfl))

end Store

/-! ## What is captured -/

namespace Session

/-- The text that a specifier takes from a reply, with the name of its variable. -/
def take? (d : Dialect) (lines : List String) (store : Store) (spec : String) :
    Option (String × String) :=
  (Collectable.parse? spec).bind fun c =>
    (c.capture? d store.substitute lines).map fun t => (c.name, t)

/-- The texts that specifiers take from a reply. Each finds the values of those before it in the
store. -/
def captures (d : Dialect) (lines : List String) : Store → List String → List (String × String)
  | _, [] => []
  | store, spec :: specs =>
    match take? d lines store spec with
    | none => captures d lines store specs
    | some x => x :: captures d lines (store.insert x.1 (.coerce x.2)) specs

theorem collect_eq (store : Store) (r : Response) (spec : String) :
    collect d (store, r) spec =
      match take? d r.lines store spec with
      | none => (store, r)
      | some x => (store.insert x.1 (.coerce x.2), r.collect x.1 (.coerce x.2)) := by
  simp only [collect, take?]
  cases Collectable.parse? spec with
  | none => rfl
  | some c =>
      simp only [Collectable.extract_eq, Option.bind_some]
      cases c.capture? d store.substitute r.lines <;> rfl

theorem fst_foldl_collect (specs : List String) (store : Store) (r : Response) :
    (specs.foldl (collect d) (store, r)).1 = store.keep (captures d r.lines store specs) := by
  induction specs generalizing store r with
  | nil => rfl
  | cons spec specs ih =>
      rw [List.foldl_cons, collect_eq, captures]
      cases take? d r.lines store spec with
      | none => exact ih store r
      | some x => exact ih (store.insert x.1 (.coerce x.2)) (r.collect x.1 (.coerce x.2))

/-- The texts that are captured when a reply to a command is as expected. -/
def captured (d : Dialect) (s : Session) (c : Command) (lines : List String) :
    List (String × String) :=
  captures d lines s.store (c.request.collectables.getD [])

theorem store_validate {s : Session} {c : Command} {lines : List String} (elapsed : Int)
    (hc : s.current? = some c) (hf : fails d c.request lines = false) :
    (s.validate d lines elapsed).2.store = s.store.keep (s.captured d c lines) := by
  simp only [validate, hc, hf, Bool.false_eq_true, if_false]
  exact fst_foldl_collect ..

theorem store_validate_of_fails {s : Session} {c : Command} {lines : List String} (elapsed : Int)
    (hc : s.current? = some c) (hf : fails d c.request lines = true) :
    (s.validate d lines elapsed).2.store = s.store := by
  simp only [validate, hc, hf, if_true]

/-! ## Until the variable is written again -/

/-- A demand does not write a variable: it neither sets it nor drops all variables, and if it is
a reply that is as expected, no text for the variable is taken from it. -/
def Leaves (d : Dialect) (key : String) (s : Session) : Demand → Prop
  | .perform (.set k _) => key ≠ k
  | .perform .reset => False
  | .perform (.validate lines _) =>
    ∀ c, s.current? = some c → fails d c.request lines = false →
      key ∉ (s.captured d c lines).map Prod.fst
  | _ => True

/-- No demand writes the variable. -/
def LeavesAll (d : Dialect) (key : String) : Session → List Demand → Prop
  | _, [] => True
  | s, demand :: demands => s.Leaves d key demand ∧ LeavesAll d key (s.meet d demand) demands

variable {s : Session} {key t : String}

theorem get?_meet {demand : Demand} (h : s.Leaves d key demand) :
    (s.meet d demand).store.get? key = s.store.get? key := by
  cases demand with
  | remove index =>
      simp only [meet, remove?]
      split <;> rfl
  | perform o =>
      cases o with
      | set k value => exact (Store.get?_insert ..).trans (if_neg h)
      | reset => exact absurd h id
      | validate lines elapsed =>
          show (s.validate d lines elapsed).2.store.get? key = _
          cases hc : s.current? with
          | none => simp only [validate, hc]
          | some c =>
              cases hf : fails d c.request lines with
              | true => rw [store_validate_of_fails elapsed hc hf]
              | false =>
                  rw [store_validate elapsed hc hf, Store.get?_keep_of_not_mem (h c hc hf)]
      | add c | clear | rewind => rfl
      | addNew r fallback =>
          simp only [meet, perform, addNew?]
          split <;> rfl
      | next =>
          simp only [meet, perform, next?]
          cases s.current? <;> rfl

theorem get?_foldl_meet (demands : List Demand) :
    ∀ {s : Session}, s.LeavesAll d key demands →
      (demands.foldl (meet d) s).store.get? key = s.store.get? key := by
  induction demands with
  | nil => exact fun _ => rfl
  | cons demand demands ih => exact fun h => (ih h.2).trans (get?_meet h.1)

/-- A text that is captured for a variable is what the variable displays, unless it denotes a number
and is not how the number is written, until the variable is written again. So a reference to the
variable in a command that is handed out inserts it as it stands, and what it reads if it refers
to variables itself. This holds where nothing opens a reference in the end, and also where the text
has an opening that neither it nor what comes behind it closes. -/
theorem captured_is_inserted (d : Dialect) {s : Session} {c : Command} {lines : List String}
    {key t : String} {before after : List (String × String)} {demands : List Demand}
    (elapsed : Int) (hc : s.current? = some c) (hf : fails d c.request lines = false)
    (hcaptured : s.captured d c lines = before ++ (key, t) :: after)
    (hafter : key ∉ after.map Prod.fst)
    (hleaves : (s.validate d lines elapsed).2.LeavesAll d key demands) :
    let later := demands.foldl (meet d) (s.validate d lines elapsed).2
    let value := later.store.valueOf
    let inserted := (Value.shown t).toList
    later.store.display key = Value.shown t ∧
      (Value.shown t = t ↔ ∀ n, Value.number? t = some n → toString n = t) ∧
      ∀ c' left right, later.current? = some c' →
        c'.text.toList = left ++ (Reference.token ⟨key.toList⟩ ++ right) →
        Reference.Proper key.toList →
        ∃ sent s', later.next? = some (sent, s') ∧
          (∀ x mid y m k n, Reference.Reads value left x m → Reference.Reads value inserted mid k →
            Reference.Reads value right y n → ¬Reference.opening <:+: x ++ (mid ++ y) →
            m + k + n < Reference.maxRounds → sent.text = String.ofList (x ++ (mid ++ y))) ∧
          ∀ x m, Reference.Reads value left x m → ¬Reference.opening <:+: x →
            '}' ∉ inserted ++ right → m < Reference.maxRounds →
            sent.text = String.ofList (x ++ (inserted ++ right)) := by
  intro later value inserted
  have hget : later.store.get? key = some (.coerce t) := by
    rw [get?_foldl_meet demands hleaves, store_validate elapsed hc hf, hcaptured,
      Store.get?_keep hafter]
  have hdisplay : later.store.display key = Value.shown t := by
    rw [Store.display, hget]
    exact Value.display_coerce t
  have hvalue : value key.toList = inserted := by
    show (later.store.display (String.ofList key.toList)).toList = _
    rw [String.ofList_toList, hdisplay]
  refine ⟨hdisplay, Value.shown_eq_self_iff t, fun c' left right hc' htext hkey => ?_⟩
  obtain ⟨s', hnext⟩ : ∃ s', later.next? = some (c'.withText (later.store.substitute c'.text), s') := by
    rw [next?, hc']
    exact ⟨_, rfl⟩
  have hsubstitute : later.store.substitute c'.text = String.ofList (Reference.expand value
      Reference.maxRounds (left ++ (Reference.token ⟨key.toList⟩ ++ right))) := by
    rw [← htext]
    rfl
  refine ⟨_, _, hnext, ?_, ?_⟩
  · intro x mid y m k n hleft hmid hright hopening hrounds
    have hreads : Reference.Reads value (left ++ (Reference.token ⟨key.toList⟩ ++ right))
        (x ++ (mid ++ y)) (m + (k + n + 1)) :=
      hleft.append (.reference hkey (hvalue ▸ hmid) hright)
    have hexpand := Reference.expand_append hopening List.not_mem_nil hreads
      (show m + (k + n + 1) ≤ Reference.maxRounds by omega)
    rw [List.append_nil, List.append_nil] at hexpand
    show later.store.substitute c'.text = _
    rw [hsubstitute, hexpand]
  · intro x m hleft hopening hclosing hrounds
    have hinserted : '}' ∉ value key.toList :=
      fun h => hclosing (List.mem_append_left right (hvalue ▸ h))
    have hright : '}' ∉ right := fun h => hclosing (List.mem_append_right inserted h)
    have hexpand := Reference.expand_last hopening hkey hinserted hright hleft hrounds
    show later.store.substitute c'.text = _
    rw [hsubstitute, hexpand, hvalue]

/-- A text with blanks around it, a `$` and a brace, sent back beside a variable that has been set
since. -/
theorem captured_is_inserted_blanks :
    let d : Dialect := .literal
    let c : Command := .ofRequest ((Request.new "ATI" none).withCollectables (some ["N:?{note}"])) []
    let s : Session := ofCommands [c, .ofRequest (.new "AT=${id},${note};" none) []]
    let lines := ["OK", "N: 7$ \x7dup "]
    let demands : List Demand := [.perform (.set "id" (.int 7)), .remove 5]
    let later := demands.foldl (meet d) (s.validate d lines 0).2
    s.current? = some c ∧ fails d c.request lines = false ∧
      s.captured d c lines = [] ++ ("note", " 7$ \x7dup ") :: [] ∧
      "note" ∉ ([] : List (String × String)).map Prod.fst ∧
      (s.validate d lines 0).2.LeavesAll d "note" demands ∧
      ∃ sent s', later.next? = some (sent, s') ∧ sent.text = "AT=7, 7$ \x7dup ;" := by
  intro d c s lines demands later
  have hcaptured : s.captured d c lines = [] ++ ("note", " 7$ \x7dup ") :: [] := by decide +kernel
  have hset : "note" ≠ "id" := by decide
  have hleaves : (s.validate d lines 0).2.LeavesAll d "note" demands := ⟨hset, trivial, trivial⟩
  obtain ⟨-, -, hinserted⟩ := captured_is_inserted d 0 (c := c) (s := s) rfl rfl hcaptured
    List.not_mem_nil hleaves
  obtain ⟨sent, s', hnext, hreads, -⟩ := hinserted (.ofRequest (.new "AT=${id},${note};" none) [])
    "AT=${id},".toList ";".toList (by decide +kernel) (by decide +kernel)
    ⟨by decide +kernel, by decide +kernel⟩
  have hid : later.store.valueOf "id".toList = ['7'] := by decide +kernel
  have hproper : Reference.Proper "id".toList := ⟨by decide +kernel, by decide +kernel⟩
  have hseven : Reference.Reads later.store.valueOf (later.store.valueOf "id".toList) ['7'] 0 :=
    hid ▸ .self _ _
  have hleft : Reference.Reads later.store.valueOf
      ("AT=".toList ++ (Reference.token ⟨"id".toList⟩ ++ ",".toList))
      ("AT=".toList ++ (['7'] ++ ",".toList)) (0 + (0 + 0 + 1)) :=
    (Reference.Reads.self _ _).append (.reference hproper hseven (.self _ _))
  have htext := hreads "AT=7,".toList " 7$ \x7dup ".toList ";".toList 1 0 0 hleft (.self _ _) (.self _ _)
    (by decide +kernel) (by decide)
  exact ⟨rfl, rfl, hcaptured, List.not_mem_nil, hleaves, sent, s', hnext,
    htext.trans (by decide +kernel)⟩

/-- A PIN loses its zeros, and a note that refers to the PIN is taken for a reference. -/
theorem captured_is_changed :
    let d : Dialect := .literal
    let c : Command := .ofRequest
      ((Request.new "AT" none).withCollectables (some ["PIN: ?{pin}", "NOTE: ?{note}"])) []
    let s : Session := ofCommands [c, .ofRequest (.new "AT+A=${pin}" none) [],
      .ofRequest (.new "AT+B=${note}" none) []]
    let lines := ["PIN: 0042", "NOTE: a${pin}"]
    let s₁ := (s.validate d lines 0).2
    let s₂ := (s₁.validate d [] 0).2
    fails d c.request lines = false ∧
      s.captured d c lines = [("pin", "0042"), ("note", "a${pin}")] ∧
      (s₁.next?.map fun x => x.1.text) = some "AT+A=42" ∧
      (s₂.next?.map fun x => x.1.text) = some "AT+B=a42" := by
  decide +kernel

end Session

end ModemScript
