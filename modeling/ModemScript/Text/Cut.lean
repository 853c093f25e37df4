/-!
# Cutting a text at a piece of text

Two operations rest on one search, `cut?`, which finds the first occurrence of a
piece and returns what stands before it and what stands after it: cutting a text
into fields (`fields`), and putting another text in place of every occurrence
(`replaceAll`). Occurrences are taken from the left and do not overlap.
-/

namespace ModemScript.Text

/-- What stands before and after the first occurrence of `piece` in a text. -/
def cut? (piece : List Char) : List Char → Option (List Char × List Char)
  | [] => if piece = [] then some ([], []) else none
  | c :: s =>
    match piece.isPrefixOf? (c :: s) with
    | some rest => some ([], rest)
    | none => (cut? piece s).map fun (before, after) => (c :: before, after)

theorem append_of_isPrefixOf? {p s r : List Char} (h : p.isPrefixOf? s = some r) :
    s = p ++ r := by
  induction p generalizing s with
  | nil => exact Option.some.inj h
  | cons a p ih =>
    cases s with
    | nil => cases h
    | cons b s =>
      change (if a == b then p.isPrefixOf? s else none) = some r at h
      split at h
      · next hab =>
        rw [eq_of_beq hab, List.cons_append, ih h]
      · exact absurd h (by simp)

/-- A cut loses nothing but the piece itself. -/
theorem append_of_cut? {piece s before after : List Char}
    (h : cut? piece s = some (before, after)) : s = before ++ piece ++ after := by
  induction s generalizing before with
  | nil =>
    simp only [cut?] at h
    split at h
    · next hp =>
      cases h
      simp [hp]
    · exact absurd h (by simp)
  | cons c s ih =>
    simp only [cut?] at h
    split at h
    · next rest hr =>
      cases h
      simpa using append_of_isPrefixOf? hr
    · next =>
      obtain ⟨⟨b, a⟩, hb, he⟩ := Option.map_eq_some_iff.1 h
      cases he
      simp [ih hb]

theorem length_lt_of_cut? {piece s before after : List Char} (hp : piece ≠ [])
    (h : cut? piece s = some (before, after)) : after.length < s.length := by
  have := congrArg List.length (append_of_cut? h)
  have : 0 < piece.length := List.length_pos_iff.2 hp
  simp only [List.length_append] at *
  omega

/-- The fields of a text between the occurrences of `separator`. There is always
one, and an empty separator separates nothing. -/
def fields (separator s : List Char) : List (List Char) :=
  if _ : separator = [] then [s]
  else
    match _ : cut? separator s with
    | none => [s]
    | some (before, after) => before :: fields separator after
termination_by s.length
decreasing_by exact length_lt_of_cut? ‹_› ‹_›

/-- The text with `value` in place of every occurrence of `piece`. An empty piece
is nowhere replaced. -/
def replaceAll (piece value s : List Char) : List Char :=
  if _ : piece = [] then s
  else
    match _ : cut? piece s with
    | none => s
    | some (before, after) => before ++ value ++ replaceAll piece value after
termination_by s.length
decreasing_by exact length_lt_of_cut? ‹_› ‹_›

/-- The text before the first character that satisfies `p`, and the text after that
character if there is one. -/
def cutWhere (p : Char → Bool) (s : List Char) : List Char × Option (List Char) :=
  match s.span (fun c => !p c) with
  | (before, []) => (before, none)
  | (before, _ :: after) => (before, some after)

end ModemScript.Text
