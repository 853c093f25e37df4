import Mathlib.Data.List.Chain
import ModemScript.Text.Lines

/-!
# Every line of a reply, once

A device may end its lines in three ways and change its mind from one line to the next. Whatever it
does, the lines are read as they were sent, the empty ones too (`replyLines_reads_back`): the end
of a line is one cut, and the characters before it all belong to the line.

The three ends share their characters, and that is where lines could be won or lost. Only one text
can be read in two ways. A carriage return and a line feed next to each other are one end, so they
cannot have ended two lines; that is, a line that ends with a carriage return must not be followed
by an empty one that ends with a line feed (`Apart`). In the other order the two characters never
are one end, and a carriage return before the pair of them is an end of its own.

From the side of the text there is no condition at all. Its lines have neither character in them,
and put together they are all the rest of it.
-/

namespace ModemScript.Text

/-- What may end a line of a reply. -/
inductive LineEnd where
  | lf
  | crlf
  | cr
  deriving DecidableEq, Repr

def LineEnd.text : LineEnd → List Char
  | lf => ['\n']
  | crlf => ['\r', '\n']
  | cr => ['\r']

/-- The characters of which line ends are made. -/
def isBreak (c : Char) : Bool := c == '\r' || c == '\n'

/-- There is no line end in the text. -/
def Unbroken (s : List Char) : Prop := ∀ c ∈ s, isBreak c = false

instance (s : List Char) : Decidable (Unbroken s) :=
  List.decidableBAll (isBreak · = false) s

/-- Lines with their ends, one behind the other. -/
def joined (ls : List (List Char × LineEnd)) : List Char := ls.flatMap fun l => l.1 ++ l.2.text

/-- The end of the line `l` does not become one with that of an empty line behind it. -/
def Apart (l l' : List Char × LineEnd) : Prop := ¬(l.2 = .cr ∧ l' = ([], .lf))

instance (l l' : List Char × LineEnd) : Decidable (Apart l l') :=
  inferInstanceAs (Decidable ¬(l.2 = .cr ∧ l' = ([], .lf)))

/-- Lines that can be told from each other, and what comes behind the last end. -/
structure Legible (ls : List (List Char × LineEnd)) (tail : List Char) : Prop where
  unbroken : ∀ l ∈ ls, Unbroken l.1
  unbroken_tail : Unbroken tail
  apart : ls.IsChain Apart

variable {c : Char} {line s tail : List Char} {l : List Char × LineEnd}
  {ls : List (List Char × LineEnd)}

/-! ## One line -/

theorem replyLines_cons (hc : isBreak c = false) (s : List Char) :
    replyLines (c :: s) = extend c (replyLines s) := by
  rw [replyLines.eq_def]
  split
  · next heq => cases heq
  · next heq =>
      cases heq
      cases hc
  · next heq =>
      cases heq
      cases hc
  · next heq =>
      cases heq
      cases hc
  · next heq =>
      cases heq
      rfl

theorem replyLines_end {e : LineEnd} (h : e = .cr → s.head? ≠ some '\n') :
    replyLines (e.text ++ s) = [] :: replyLines s := by
  cases e with
  | lf => rfl
  | crlf => rfl
  | cr =>
      cases s with
      | nil => rfl
      | cons c s =>
          have hc : c ≠ '\n' := fun hc => h rfl (congrArg some hc)
          show replyLines ('\r' :: c :: s) = _
          rw [replyLines]
          exact fun _ heq => hc (List.cons.inj heq).1

/-- What stands before the end of the first line belongs to it. -/
theorem replyLines_append (hline : Unbroken line) {first : List Char} {rest : List (List Char)}
    (h : replyLines s = first :: rest) : replyLines (line ++ s) = (line ++ first) :: rest := by
  induction line with
  | nil => exact h
  | cons c line ih =>
      rw [List.cons_append, replyLines_cons (hline c List.mem_cons_self),
        ih fun c' hc' => hline c' (List.mem_cons_of_mem c hc')]
      rfl

/-- A text without a line end is one line, unless it is empty. -/
theorem replyLines_of_unbroken (hs : Unbroken s) :
    replyLines s = if s = [] then [] else [s] := by
  rcases List.eq_nil_or_concat' s with rfl | ⟨line, c, rfl⟩
  · rfl
  · have hlast : replyLines [c] = [[c]] :=
      replyLines_cons (hs c (List.mem_append_right line List.mem_cons_self)) []
    rw [if_neg (List.append_ne_nil_of_right_ne_nil line (List.cons_ne_nil c [])),
      replyLines_append (fun c' hc' => hs c' (List.mem_append_left [c] hc')) hlast]

/-! ## One line after the other -/

theorem joined_cons (l : List Char × LineEnd) (ls : List (List Char × LineEnd)) :
    joined (l :: ls) = l.1 ++ (l.2.text ++ joined ls) := by
  rw [joined, List.flatMap_cons, List.append_assoc]
  rfl

theorem Legible.of_cons (h : Legible (l :: ls) tail) : Legible ls tail where
  unbroken l' hl' := h.unbroken l' (List.mem_cons_of_mem l hl')
  unbroken_tail := h.unbroken_tail
  apart := List.isChain_of_isChain_cons h.apart

theorem Unbroken.head?_ne (hs : Unbroken s) : s.head? ≠ some '\n' := by
  intro h
  have hbreak := hs '\n' (List.mem_of_mem_head? h)
  cases hbreak

/-- Behind a carriage return that ends a line no line feed comes. -/
theorem Legible.head?_ne (h : Legible (l :: ls) tail) (hcr : l.2 = .cr) :
    (joined ls ++ tail).head? ≠ some '\n' := by
  cases ls with
  | nil => exact h.unbroken_tail.head?_ne
  | cons l' ls =>
      obtain ⟨line, e⟩ := l'
      rw [joined_cons, List.append_assoc]
      cases line with
      | nil =>
          cases e with
          | lf => exact absurd ⟨hcr, rfl⟩ h.apart.rel
          | crlf | cr => exact fun heq => nomatch heq
      | cons c line =>
          have hline := h.unbroken (c :: line, e) (List.mem_cons_of_mem l List.mem_cons_self)
          exact fun heq => hline.head?_ne heq

/-- Lines that can be told from each other are read as they are. -/
theorem Legible.replyLines_joined (h : Legible ls tail) :
    replyLines (joined ls ++ tail) = ls.map Prod.fst ++ if tail = [] then [] else [tail] := by
  induction ls with
  | nil => exact replyLines_of_unbroken h.unbroken_tail
  | cons l ls ih =>
      have hend : replyLines (l.2.text ++ (joined ls ++ tail)) =
          [] :: replyLines (joined ls ++ tail) := replyLines_end h.head?_ne
      rw [joined_cons, List.append_assoc, List.append_assoc,
        replyLines_append (h.unbroken l List.mem_cons_self) hend, ih h.of_cons, List.append_nil]
      rfl

/-! ## The lines of any text -/

theorem flatten_extend (c : Char) (ls : List (List Char)) :
    (extend c ls).flatten = c :: ls.flatten := by
  cases ls <;> rfl

/-- Reading lines drops the characters of the line ends and no others. -/
theorem flatten_replyLines (s : List Char) :
    (replyLines s).flatten = s.filter fun c => !isBreak c := by
  fun_induction replyLines s with
  | case1 => rfl
  | case2 s ih | case3 s _ ih | case4 s ih => exact ih
  | case5 c s hcrlf hcr hlf ih =>
      have hc : isBreak c = false := by
        rw [isBreak, Bool.or_eq_false_iff, beq_eq_false_iff_ne, beq_eq_false_iff_ne]
        exact ⟨hcr, hlf⟩
      rw [flatten_extend, ih, List.filter_cons_of_pos (by rw [hc]; rfl)]

theorem unbroken_of_mem_replyLines (h : line ∈ replyLines s) : Unbroken line := by
  intro c hc
  have hflat : c ∈ (replyLines s).flatten := List.mem_flatten_of_mem h hc
  rw [flatten_replyLines] at hflat
  have hkept := List.of_mem_filter hflat
  rwa [Bool.not_eq_true'] at hkept

/-- Lines with their ends are read back as they are, each of them once, and what is behind the last
end is a line too unless it is empty. And the lines of any text have no part of a line end in them,
and are all the rest of the text. -/
theorem replyLines_reads_back :
    (∀ ls tail, Legible ls tail →
      replyLines (joined ls ++ tail) = ls.map Prod.fst ++ if tail = [] then [] else [tail]) ∧
    ∀ s, (∀ l ∈ replyLines s, Unbroken l) ∧
      (replyLines s).flatten = s.filter fun c => !isBreak c :=
  ⟨fun _ _ h => h.replyLines_joined,
    fun s => ⟨fun _ hl => unbroken_of_mem_replyLines hl, flatten_replyLines s⟩⟩

/-- All three ends, next to lines that are empty, and a prompt that nothing ends. -/
theorem replyLines_reads_back_mixed :
    let ls := [("AT".toList, LineEnd.cr), ([], .crlf), ([], .lf), ("OK".toList, .crlf), ([], .cr)]
    Legible ls ['>'] ∧ joined ls ++ ['>'] = "AT\r\r\n\nOK\r\n\r>".toList ∧
      replyLines "AT\r\r\n\nOK\r\n\r>".toList = ["AT".toList, [], [], "OK".toList, [], ['>']] := by
  intro ls
  have hls : Legible ls ['>'] := ⟨by decide, by decide, by decide⟩
  have hjoined : joined ls ++ ['>'] = "AT\r\r\n\nOK\r\n\r>".toList := by decide
  have hlines := replyLines_reads_back.1 ls ['>'] hls
  rw [hjoined] at hlines
  exact ⟨hls, hjoined, hlines⟩

end ModemScript.Text
