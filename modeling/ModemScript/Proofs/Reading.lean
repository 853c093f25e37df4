import Mathlib
import ModemScript.Script

/-!
# Scripts are read piece by piece

Reading a script goes through its lines with two counters. One numbers the lines, for
complaints. The other counts the commands, since a directive waits for those before
it. Neither has anything else to do with what a line says, so a text that is put
behind another one is read as it would be read alone: its complaints and its
directives are moved on by what stands before it (`ofLines_append`, `ofLines_add`),
and that is all.

The texts are cut at a line feed, since elsewhere the last line of one and the first
of the other would be one line. What else there is to say of complaints and of the
places of directives follows by the same induction on the lines.
-/

namespace ModemScript

/-! ## Lines -/

namespace Text

theorem lines_cons {c : Char} {s : List Char} (hlf : c ≠ '\n')
    (hcrlf : ¬(c = '\r' ∧ s.head? = some '\n')) : lines (c :: s) = extend c (lines s) := by
  rw [lines.eq_def]
  split
  · next heq => cases heq
  · next heq =>
      cases heq
      exact absurd ⟨rfl, rfl⟩ hcrlf
  · next heq =>
      cases heq
      exact absurd rfl hlf
  · next heq =>
      cases heq
      rfl

theorem extend_append {c : Char} {ls : List (List Char)} (h : ls ≠ []) (ls' : List (List Char)) :
    extend c (ls ++ ls') = extend c ls ++ ls' := by
  cases ls with
  | nil => exact absurd rfl h
  | cons l ls => rfl

theorem lines_ne_nil {s : List Char} (h : s ≠ []) : lines s ≠ [] := by
  unfold lines
  split
  · exact absurd rfl h
  · exact List.cons_ne_nil _ _
  · exact List.cons_ne_nil _ _
  · unfold extend
    split <;> exact List.cons_ne_nil _ _

/-- A line feed closes a line, whatever comes after it. -/
theorem lines_append_lf (s rest : List Char) :
    lines (s ++ '\n' :: rest) = lines (s ++ ['\n']) ++ lines rest := by
  induction s using lines.induct with
  | case1 => rfl
  | case2 s ih => exact congrArg ([] :: ·) ih
  | case3 s ih => exact congrArg ([] :: ·) ih
  | case4 c s hcrlf hlf ih =>
      cases s with
      | nil =>
          -- a carriage return that ended the text is now one with the line feed
          by_cases hc : c = '\r'
          · subst hc
            rfl
          · have hnot : ∀ s : List Char, ¬(c = '\r' ∧ s.head? = some '\n') := fun s h => hc h.1
            show lines (c :: '\n' :: rest) = lines (c :: ['\n']) ++ lines rest
            rw [lines_cons hlf (hnot _), lines_cons hlf (hnot _)]
            rfl
      | cons c' s =>
          have hnot : ∀ s' : List Char, ¬(c = '\r' ∧ (c' :: s').head? = some '\n') := by
            rintro s' ⟨rfl, h⟩
            exact hcrlf s rfl (by rw [Option.some.inj h])
          show lines (c :: c' :: (s ++ '\n' :: rest)) =
            lines (c :: c' :: (s ++ ['\n'])) ++ lines rest
          rw [lines_cons hlf (hnot _), lines_cons hlf (hnot _),
            ← extend_append (lines_ne_nil (List.cons_ne_nil _ _))]
          exact congrArg (extend c) ih

end Text

/-! ## One line after the other -/

theorem eq_ok_of_toOption_eq_some {ε α : Type} {x : Except ε α} {a : α}
    (h : x.toOption = some a) : x = .ok a := by
  cases x with
  | ok b =>
      cases h
      rfl
  | error e => cases h

namespace Script

variable {d : Dialect}

theorem ofLines_cons_of_silent {number index : Nat} {l : List Char}
    {ls : List (List Char)} (hl : Line.isSilent l = true) :
    ofLines d number index (l :: ls) = ofLines d (number + 1) index ls := by
  rw [ofLines, if_pos hl]

theorem ofLines_cons_of_error {number index : Nat} {l : List Char} {ls : List (List Char)}
    {e : LineError} (hl : ¬Line.isSilent l = true) (hline : Line.parse d l = .error e) :
    ofLines d number index (l :: ls) = .error ⟨number, e, String.ofList l⟩ := by
  rw [ofLines, if_neg hl, hline]

theorem ofLines_cons_of_ok {number index : Nat} {l : List Char} {ls : List (List Char)}
    {line : Line} (hl : ¬Line.isSilent l = true) (hline : Line.parse d l = .ok line) :
    ofLines d number index (l :: ls) =
      (ofLines d (number + 1) (nextIndex line index) ls).map (prepend line index) := by
  rw [ofLines, if_neg hl, hline]

/-- A line that says something is read, and so are the lines after it. -/
theorem exists_of_ofLines_cons {number index : Nat} {l : List Char}
    {ls : List (List Char)} {s : Script} (hl : ¬ Line.isSilent l = true)
    (hs : ofLines d number index (l :: ls) = .ok s) :
    ∃ line s', Line.parse d l = .ok line ∧
      ofLines d (number + 1) (nextIndex line index) ls = .ok s' ∧ s = prepend line index s' := by
  cases hline : Line.parse d l with
  | error e =>
      rw [ofLines_cons_of_error hl hline] at hs
      cases hs
  | ok line =>
      rw [ofLines_cons_of_ok hl hline] at hs
      cases hrest : ofLines d (number + 1) (nextIndex line index) ls with
      | error m =>
          rw [hrest] at hs
          cases hs
      | ok s' =>
          rw [hrest] at hs
          cases hs
          exact ⟨line, s', rfl, hrest, rfl⟩

theorem index_le_nextIndex (line : Line) (index : Nat) : index ≤ nextIndex line index := by
  cases line with
  | command c => exact Nat.le_succ index
  | directive x => exact Nat.le_refl index

theorem nextIndex_add (line : Line) (index : Nat) (s : Script) :
    nextIndex line index + s.commands.length = index + (prepend line index s).commands.length := by
  cases line with
  | command c => exact Nat.succ_add_eq_add_succ index s.commands.length
  | directive x => rfl

/-- No directive is scheduled before the commands that come before its line. -/
theorem le_index_of_ofLines {ls : List (List Char)} :
    ∀ {number index : Nat} {s : Script}, ofLines d number index ls = .ok s →
      ∀ x ∈ s.schedule, index ≤ x.index := by
  induction ls with
  | nil =>
      intro number index s hs x hx
      cases hs
      cases hx
  | cons l ls ih =>
      intro number index s hs x hx
      by_cases hl : Line.isSilent l = true
      · rw [ofLines_cons_of_silent hl] at hs
        exact ih hs x hx
      · obtain ⟨line, s', -, hs', rfl⟩ := exists_of_ofLines_cons hl hs
        have hle := Nat.le_trans (index_le_nextIndex line index) ∘ ih hs' x
        cases line with
        | command c => exact hle hx
        | directive y =>
            rcases List.mem_cons.1 hx with rfl | hx
            · exact Nat.le_refl _
            · exact hle hx

end Script

/-! ## One text behind another -/

/-- The complaint about a line with `n` more lines before it. -/
def Malformed.shift (n : Nat) (m : Malformed) : Malformed := { m with line := m.line + n }

/-- The directive with `n` more commands before it. -/
def Scheduled.shift (n : Nat) (x : Scheduled) : Scheduled := { x with index := x.index + n }

/-- The line says something and cannot be read. -/
def Line.Fails (d : Dialect) (l : List Char) (e : LineError) : Prop :=
  ¬Line.isSilent l = true ∧ Line.parse d l = .error e

namespace Script

variable {d : Dialect}

/-- A script and then another one, whose directives wait for the commands of both. -/
def append (s t : Script) : Script :=
  ⟨s.commands ++ t.commands, s.schedule ++ t.schedule.map (Scheduled.shift s.commands.length)⟩

theorem prepend_shift (line : Line) (index i : Nat) (s : Script) :
    prepend line (index + i) ⟨s.commands, s.schedule.map (Scheduled.shift i)⟩ =
      ⟨(prepend line index s).commands,
        (prepend line index s).schedule.map (Scheduled.shift i)⟩ := by
  cases line <;> rfl

theorem nextIndex_shift (line : Line) (index i : Nat) :
    nextIndex line (index + i) = nextIndex line index + i := by
  cases line with
  | command c => exact Nat.add_right_comm index i 1
  | directive x => rfl

/-- What stands before some lines moves on the numbers in them and nothing else. -/
theorem ofLines_add (n i : Nat) (ls : List (List Char)) : ∀ number index : Nat,
    ofLines d (number + n) (index + i) ls =
      match ofLines d number index ls with
      | .error m => .error (m.shift n)
      | .ok s => .ok ⟨s.commands, s.schedule.map (Scheduled.shift i)⟩ := by
  induction ls with
  | nil => exact fun number index => rfl
  | cons l ls ih =>
      intro number index
      by_cases hl : Line.isSilent l = true
      · rw [ofLines_cons_of_silent hl, ofLines_cons_of_silent hl, Nat.add_right_comm]
        exact ih (number + 1) index
      · cases hline : Line.parse d l with
        | error e =>
            rw [ofLines_cons_of_error hl hline, ofLines_cons_of_error hl hline]
            rfl
        | ok line =>
            rw [ofLines_cons_of_ok hl hline, ofLines_cons_of_ok hl hline, nextIndex_shift,
              Nat.add_right_comm, ih (number + 1) (nextIndex line index)]
            cases ofLines d (number + 1) (nextIndex line index) ls with
            | error m => rfl
            | ok s => exact congrArg Except.ok (prepend_shift line index i s)

/-- Lines are read up to the first malformed one, those of the first part before the others. -/
theorem ofLines_append (ls ls' : List (List Char)) : ∀ number index : Nat,
    ofLines d number index (ls ++ ls') =
      match ofLines d number index ls with
      | .error m => .error m
      | .ok s =>
        (ofLines d (number + ls.length) (index + s.commands.length) ls').map fun t =>
          ⟨s.commands ++ t.commands, s.schedule ++ t.schedule⟩ := by
  induction ls with
  | nil =>
      intro number index
      show ofLines d number index ls' = (ofLines d number index ls').map fun t => t
      cases ofLines d number index ls' <;> rfl
  | cons l ls ih =>
      intro number index
      rw [List.cons_append]
      by_cases hl : Line.isSilent l = true
      · rw [ofLines_cons_of_silent hl, ofLines_cons_of_silent hl, ih (number + 1) index,
          List.length_cons, ← Nat.add_right_comm, Nat.add_assoc]
      · cases hline : Line.parse d l with
        | error e => rw [ofLines_cons_of_error hl hline, ofLines_cons_of_error hl hline]
        | ok line =>
            rw [ofLines_cons_of_ok hl hline, ofLines_cons_of_ok hl hline,
              ih (number + 1) (nextIndex line index)]
            cases ofLines d (number + 1) (nextIndex line index) ls with
            | error m => rfl
            | ok s =>
                show (Except.map _ (ofLines d (number + 1 + ls.length) _ ls')).map _ =
                  Except.map _ (ofLines d (number + (ls.length + 1)) _ ls')
                rw [← nextIndex_add line index s, Nat.add_right_comm number 1, ← Nat.add_assoc]
                cases ofLines d (number + ls.length + 1) (nextIndex line index + s.commands.length)
                  ls' with
                | error m => rfl
                | ok t => cases line <;> rfl

/-! ## Complaints, places and silence -/

theorem exists_ofLines {ls : List (List Char)} (hls : ∀ l ∈ ls, ∀ e, ¬Line.Fails d l e) :
    ∀ number index : Nat, ∃ s, ofLines d number index ls = .ok s := by
  induction ls with
  | nil => exact fun number index => ⟨empty, rfl⟩
  | cons l ls ih =>
      intro number index
      have hrest := ih fun l' hl' => hls l' (List.mem_cons_of_mem l hl')
      by_cases hl : Line.isSilent l = true
      · rw [ofLines_cons_of_silent hl]
        exact hrest (number + 1) index
      · cases hline : Line.parse d l with
        | error e => exact absurd ⟨hl, hline⟩ (hls l List.mem_cons_self e)
        | ok line =>
            obtain ⟨s, hs⟩ := hrest (number + 1) (nextIndex line index)
            rw [ofLines_cons_of_ok hl hline, hs]
            exact ⟨prepend line index s, rfl⟩

theorem ofLines_of_fails {before rest : List (List Char)} {l : List Char} {e : LineError}
    (hbefore : ∀ l' ∈ before, ∀ e', ¬Line.Fails d l' e') (hl : Line.Fails d l e)
    (number index : Nat) :
    ofLines d number index (before ++ l :: rest) =
      .error ⟨number + before.length, e, String.ofList l⟩ := by
  obtain ⟨s, hs⟩ := exists_ofLines hbefore number index
  rw [ofLines_append, hs]
  simp only
  rw [ofLines_cons_of_error hl.1 hl.2]
  rfl

theorem exists_first_fails (d : Dialect) (ls : List (List Char)) :
    (∀ l ∈ ls, ∀ e, ¬Line.Fails d l e) ∨
      ∃ before l rest e, ls = before ++ l :: rest ∧ (∀ l' ∈ before, ∀ e', ¬Line.Fails d l' e') ∧
        Line.Fails d l e := by
  induction ls with
  | nil => exact .inl fun l hl => absurd hl List.not_mem_nil
  | cons l ls ih =>
      by_cases hl : ∃ e, Line.Fails d l e
      · obtain ⟨e, hl⟩ := hl
        exact .inr ⟨[], l, ls, e, rfl, fun l' hl' => absurd hl' List.not_mem_nil, hl⟩
      · have hl : ∀ e, ¬Line.Fails d l e := fun e he => hl ⟨e, he⟩
        rcases ih with hls | ⟨before, l', rest, e, rfl, hbefore, hl'⟩
        · exact .inl (List.forall_mem_cons.2 ⟨hl, hls⟩)
        · exact .inr ⟨l :: before, l', rest, e, rfl, List.forall_mem_cons.2 ⟨hl, hbefore⟩, hl'⟩

/-- Every complaint is about the first line that says something and cannot be read, and such
a line always brings one. -/
theorem ofLines_eq_error_iff {ls : List (List Char)} {number index : Nat} {m : Malformed} :
    ofLines d number index ls = .error m ↔
      ∃ before l rest e, ls = before ++ l :: rest ∧ (∀ l' ∈ before, ∀ e', ¬Line.Fails d l' e') ∧
        Line.Fails d l e ∧ m = ⟨number + before.length, e, String.ofList l⟩ := by
  refine ⟨fun h => ?_, ?_⟩
  · rcases exists_first_fails d ls with hls | ⟨before, l, rest, e, rfl, hbefore, hl⟩
    · obtain ⟨s, hs⟩ := exists_ofLines hls number index
      rw [hs] at h
      cases h
    · rw [ofLines_of_fails hbefore hl] at h
      exact ⟨before, l, rest, e, rfl, hbefore, hl, (Except.error.inj h).symm⟩
  · rintro ⟨before, l, rest, e, rfl, hbefore, hl, rfl⟩
    exact ofLines_of_fails hbefore hl number index

/-- Directives are scheduled in the order of their lines, none behind the last command. -/
theorem schedule_of_ofLines {ls : List (List Char)} :
    ∀ {number index : Nat} {s : Script}, ofLines d number index ls = .ok s →
      s.schedule.Pairwise (fun x y => x.index ≤ y.index) ∧
        ∀ x ∈ s.schedule, x.index ≤ index + s.commands.length := by
  induction ls with
  | nil =>
      intro number index s hs
      cases hs
      exact ⟨.nil, fun x hx => absurd hx List.not_mem_nil⟩
  | cons l ls ih =>
      intro number index s hs
      by_cases hl : Line.isSilent l = true
      · rw [ofLines_cons_of_silent hl] at hs
        exact ih hs
      · obtain ⟨line, s', -, hs', rfl⟩ := exists_of_ofLines_cons hl hs
        obtain ⟨hsorted, hle⟩ := ih hs'
        rw [nextIndex_add] at hle
        cases line with
        | command c => exact ⟨hsorted, hle⟩
        | directive x =>
            have hx : index ≤ index + s'.commands.length := Nat.le_add_right _ _
            exact ⟨.cons (fun y hy => le_index_of_ofLines hs' y hy) hsorted,
              List.forall_mem_cons.2 ⟨hx, hle⟩⟩

/-- Lines that say nothing only count in the numbers of complaints. -/
theorem ofLines_filter (ls : List (List Char)) : ∀ number number' index : Nat,
    (ofLines d number index ls).mapError (fun m => (m.reason, m.text)) =
      (ofLines d number' index (ls.filter fun l => !Line.isSilent l)).mapError
        fun m => (m.reason, m.text) := by
  induction ls with
  | nil => exact fun number number' index => rfl
  | cons l ls ih =>
      intro number number' index
      by_cases hl : Line.isSilent l = true
      · rw [ofLines_cons_of_silent hl, List.filter_cons_of_neg (by rw [hl]; decide)]
        exact ih (number + 1) number' index
      · rw [List.filter_cons_of_pos (by rw [Bool.eq_false_iff.2 hl]; rfl)]
        cases hline : Line.parse d l with
        | error e =>
            rw [ofLines_cons_of_error hl hline, ofLines_cons_of_error hl hline]
            rfl
        | ok line =>
            rw [ofLines_cons_of_ok hl hline, ofLines_cons_of_ok hl hline]
            have hmap : ∀ x : Except Malformed Script,
                (x.map (prepend line index)).mapError (fun m => (m.reason, m.text)) =
                  (x.mapError fun m => (m.reason, m.text)).map (prepend line index) := by
              intro x
              cases x <;> rfl
            rw [hmap, hmap, ih (number + 1) (number' + 1)]

/-! ## Whole texts -/

/-- A text behind another one that ends with its last line is read as it is by itself. Its
complaints count the lines before them, and its directives wait for the commands before them;
but a complaint about the first text is the only one. So complaints name the first malformed
line, directives are scheduled in order and within the commands, and lines that say nothing make
no difference but to the numbers of complaints. -/
theorem parse_append (d : Dialect) {a : String} (b : String) (ha : a = "" ∨ ∃ s, a = s ++ "\n") :
    (parse d (a ++ b) =
      match parse d a with
      | .error m => .error m
      | .ok s =>
        match parse d b with
        | .error m => .error (m.shift (Text.lines a.toList).length)
        | .ok t => .ok (s.append t)) ∧
    (∀ (text : String) (m : Malformed), parse d text = .error m ↔
      ∃ before l rest e, Text.lines text.toList = before ++ l :: rest ∧
        (∀ l' ∈ before, ∀ e', ¬Line.Fails d l' e') ∧ Line.Fails d l e ∧
        m = ⟨before.length + 1, e, String.ofList l⟩) ∧
    (∀ (text : String) (s : Script), parse d text = .ok s →
      s.schedule.Pairwise (fun x y => x.index ≤ y.index) ∧
        ∀ x ∈ s.schedule, x.index ≤ s.commands.length) ∧
    (∀ text text' : String,
      ((Text.lines text.toList).filter fun l => !Line.isSilent l) =
        ((Text.lines text'.toList).filter fun l => !Line.isSilent l) →
      (parse d text).mapError (fun m => (m.reason, m.text)) =
        (parse d text').mapError fun m => (m.reason, m.text)) := by
  refine ⟨?_, fun text m => ?_, fun text s hs => ?_, fun text text' h => ?_⟩
  · have hlines : Text.lines (a ++ b).toList =
        Text.lines a.toList ++ Text.lines b.toList := by
      rw [String.toList_append]
      rcases ha with rfl | ⟨s, rfl⟩
      · rfl
      · rw [String.toList_append]
        show Text.lines (s.toList ++ ['\n'] ++ b.toList) = _
        rw [← List.append_cons]
        exact Text.lines_append_lf s.toList b.toList
    rw [parse, hlines, ofLines_append, parse]
    cases ofLines d 1 0 (Text.lines a.toList) with
    | error m => rfl
    | ok s =>
        simp only
        rw [ofLines_add, parse]
        cases ofLines d 1 0 (Text.lines b.toList) with
        | error m => rfl
        | ok t => rfl
  · rw [parse, ofLines_eq_error_iff]
    simp only [Nat.add_comm 1]
  · have h := schedule_of_ofLines hs
    rwa [Nat.zero_add] at h
  · rw [parse, parse, ofLines_filter _ 1 1, ofLines_filter (Text.lines text'.toList) 1 1, h]

/-- A script with a comment and both line ends before one with directives and before one with a
malformed line, and the first of them with silent lines elsewhere. -/
theorem parse_append_numbered :
    let d : Dialect := .literal
    let a := "# dial\r\nAT;;OK\nSET x=1\n"
    let b := "PRINT ${x}\r\n\nATI\nPRINT end"
    let b' := "\nBAUDRATE fast\nATI"
    let a' := "\nAT;;OK\n \t\n# then\nSET x=1"
    let check : Command := ⟨⟨"AT", some "OK", none, 0, none⟩, [], none⟩
    let identify : Command := ⟨⟨"ATI", none, none, 0, none⟩, [], none⟩
    (a = "" ∨ ∃ s, a = s ++ "\n") ∧
      parse d b = .ok ⟨[identify], [⟨.print "${x}", 0⟩, ⟨.print "end", 1⟩]⟩ ∧
      parse d (a ++ b) =
        .ok ⟨[check, identify], [⟨.set "x" "1", 1⟩, ⟨.print "${x}", 1⟩, ⟨.print "end", 2⟩]⟩ ∧
      parse d b' = .error ⟨2, .directive .badPayload, "BAUDRATE fast"⟩ ∧
      parse d (a ++ b') = .error ⟨5, .directive .badPayload, "BAUDRATE fast"⟩ ∧
      (parse d a').mapError (fun m => (m.reason, m.text)) = .ok ⟨[check], [⟨.set "x" "1", 1⟩]⟩ := by
  intro d a b b' a' check identify
  have ha : a = "" ∨ ∃ s, a = s ++ "\n" := .inr ⟨"# dial\r\nAT;;OK\nSET x=1", by decide⟩
  have hpa : parse d a = .ok ⟨[check], [⟨.set "x" "1", 1⟩]⟩ :=
    eq_ok_of_toOption_eq_some (by decide +kernel)
  have hpb : parse d b = .ok ⟨[identify], [⟨.print "${x}", 0⟩, ⟨.print "end", 1⟩]⟩ :=
    eq_ok_of_toOption_eq_some (by decide +kernel)
  have hpb' : parse d b' = .error ⟨2, .directive .badPayload, "BAUDRATE fast"⟩ := by
    cbv
  have hlines : (Text.lines a.toList).length = 3 := by decide +kernel
  refine ⟨ha, hpb, ?_, hpb', ?_, ?_⟩
  · rw [(parse_append d b ha).1, hpa, hpb]
    rfl
  · rw [(parse_append d b' ha).1, hpa, hpb']
    simp only [hlines]
    rfl
  · rw [(parse_append d b ha).2.2.2 a' a (by decide +kernel), hpa]
    rfl

end Script

end ModemScript
