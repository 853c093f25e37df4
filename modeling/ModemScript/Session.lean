import ModemScript.Collectable.Extract
import ModemScript.Command
import ModemScript.Reference

/-!
# Sessions

A session is a sequence of commands with a cursor, and the variables. It hands
out the command at the cursor with its references replaced, judges the reply to
it, and moves on. A command whose reply is not as expected is followed by its
fallback, which is put in at the cursor; one whose reply is as expected has its
values collected into the variables.
-/

namespace ModemScript

/-- Commands, the number of those that have been judged, the variables, and whether the
last reply was not as expected. -/
structure Session where
  commands : List Command
  store : Store
  cursor : Nat
  failed : Bool
  deriving DecidableEq, Repr

namespace Session

def ofCommands (commands : List Command) : Session := ⟨commands, .empty, 0, false⟩

def empty : Session := ofCommands []

/-- Start again with the first command. -/
def rewind (s : Session) : Session := { s with cursor := 0, failed := false }

/-- The session without its commands; the variables stay. -/
def clear (s : Session) : Session := { s with commands := [], cursor := 0, failed := false }

/-- The session without its commands and variables. -/
def reset (s : Session) : Session := { s.clear with store := .empty }

def add (s : Session) (c : Command) : Session := { s with commands := s.commands ++ [c] }

/-- The session with a command added, if the command has a text. -/
def addNew? (s : Session) (request : Request) (fallback : Option Command) : Option Session :=
  if request.text.isEmpty then none
  else
    let c := Command.ofRequest request []
    some (s.add (fallback.elim c c.withFallback))

/-- The session without the command at `index`, if there is one. The cursor stays. -/
def remove? (s : Session) (index : Nat) : Option Session :=
  if index < s.commands.length then some { s with commands := s.commands.eraseIdx index }
  else none

/-- The command at the cursor. -/
def current? (s : Session) : Option Command := s.commands[s.cursor]?

def hasNext (s : Session) : Bool := s.cursor < s.commands.length

/-- The command at the cursor with its references replaced, and the session in which it
stays that way. -/
def next? (s : Session) : Option (Command × Session) :=
  s.current?.map fun c =>
    let c := c.withText (s.store.substitute c.text)
    (c, { s with commands := s.commands.set s.cursor c })

def set (s : Session) (key : String) (value : Value) : Session :=
  { s with store := s.store.insert key value }

def get? (s : Session) (key : String) : Option Value := s.store.get? key

/-- The variables and the response with the value of one collectable added to both, if the
reply has it. -/
def collect (d : Dialect) : Store × Response → String → Store × Response
  | (store, response), spec =>
    match Collectable.parse? spec with
    | none => (store, response)
    | some c =>
      match c.extract d store.substitute response.lines with
      | none => (store, response)
      | some value => (store.insert c.name value, response.collect c.name value)

/-- The first line of a reply that is expected, if anything is expected. A text that is no
pattern matches nothing. -/
def matched? (d : Dialect) (r : Request) (lines : List String) : Option String :=
  r.expected.bind fun pattern => (d.test? pattern).bind fun test => lines.find? test

/-- Whether a reply lacks what the request expects. -/
def fails (d : Dialect) (r : Request) (lines : List String) : Bool :=
  r.expected.isSome && (matched? d r lines).isNone

/-- The commands with that at `index` replaced by others. -/
def splice (commands : List Command) (index : Nat) (others : List Command) : List Command :=
  commands.take index ++ others ++ commands.drop (index + 1)

/-- Judges a reply to the command at the cursor and moves on. Without such a command the
session stays as it is, and the response is to no command. -/
def validate (d : Dialect) (s : Session) (lines : List String) (elapsed : Int) :
    Response × Session :=
  match s.current? with
  | none => (.new none lines "" elapsed, s)
  | some c =>
    let response := Response.new (matched? d c.request lines) lines c.text elapsed
    if fails d c.request lines then
      let judged := { c with response := some response }
      (response,
        { s with
          commands := splice s.commands s.cursor (judged :: c.fallback?.toList)
          cursor := s.cursor + 1, failed := true })
    else
      let (store, response) :=
        (c.request.collectables.getD []).foldl (collect d) (s.store, response)
      let judged := { c with response := some response }
      (response,
        { commands := splice s.commands s.cursor [judged], store := store
          cursor := s.cursor + 1, failed := false })

/-- How many more replies can be judged at most: a command counts once for itself and once
for each of its fallbacks. -/
def remaining (s : Session) : Nat :=
  ((s.commands.drop s.cursor).flatMap fun c => c.request :: c.fallbacks).length

theorem remaining_next? {s s' : Session} {c : Command} (h : s.next? = some (c, s')) :
    s'.remaining = s.remaining := by
  obtain ⟨c', hc, he⟩ := Option.map_eq_some_iff.1 h
  obtain ⟨hlt, rfl⟩ := List.getElem?_eq_some_iff.1 hc
  cases he
  simp only [remaining, List.drop_set, Nat.lt_irrefl, if_false, Nat.sub_self]
  rw [List.drop_eq_getElem_cons hlt]
  rfl

theorem current?_next? {s s' : Session} {c : Command} (h : s.next? = some (c, s')) :
    s'.current? = some c := by
  obtain ⟨c', hc, he⟩ := Option.map_eq_some_iff.1 h
  obtain ⟨hlt, rfl⟩ := List.getElem?_eq_some_iff.1 hc
  cases he
  simp [current?, hlt]

theorem drop_splice {commands others : List Command} {c : Command} {index : Nat}
    (h : index < commands.length) :
    (splice commands index (c :: others)).drop (index + 1) =
      others ++ commands.drop (index + 1) := by
  have hl : (commands.take index).length = index := by
    simp only [List.length_take]
    omega
  rw [splice, List.append_assoc, List.drop_append, hl]
  simp [List.drop_eq_nil_of_le, hl]

/-- Each judged reply brings the end nearer. -/
theorem remaining_validate_lt {d : Dialect} {s : Session} {c : Command} {lines : List String}
    {elapsed : Int} (h : s.current? = some c) :
    (s.validate d lines elapsed).2.remaining < s.remaining := by
  obtain ⟨hlt, rfl⟩ := List.getElem?_eq_some_iff.1 h
  have hs : s.remaining = s.commands[s.cursor].fallbacks.length + 1
      + ((s.commands.drop (s.cursor + 1)).flatMap fun c => c.request :: c.fallbacks).length := by
    rw [remaining, List.drop_eq_getElem_cons hlt, List.flatMap_cons, List.length_append,
      List.length_cons]
  rw [hs, validate, h]
  dsimp only
  split
  · simp only [remaining, drop_splice hlt, List.flatMap_append, List.length_append]
    unfold Command.fallback?
    split <;> simp_all [Command.ofRequest]
  · simp only [remaining, drop_splice hlt]
    simp

end Session

end ModemScript
