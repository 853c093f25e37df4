import ModemScript.Session

/-!
# A session is a queue

A session keeps all its commands in one list, walks it with a cursor, and puts a
fallback into the middle of the list while it walks. Nothing of this can be seen
from outside: a session behaves like a queue of pending commands beside the list
of those that are done. The cursor is the length of the second list, and that
one fact, kept by every operation, is the whole simulation.

What a queue promises is said once more without any machine (`Unfolds`): until
the commands are started over or dropped, what has been judged and what is
pending are together the commands that were given, in their order, each failed
one with its fallback directly behind it.
-/

namespace ModemScript

/-- What a reply comes to: the response, the variables after it, and whether it was not as
expected. -/
structure Verdict where
  response : Response
  store : Store
  failed : Bool

/-- Judges the reply to a request whose text has been sent as it stands. -/
def Request.judge (d : Dialect) (store : Store) (r : Request) (lines : List String)
    (elapsed : Int) : Verdict :=
  let response := Response.new (Session.matched? d r lines) lines r.text elapsed
  if Session.fails d r lines then ⟨response, store, true⟩
  else
    let (store, response) :=
      (r.collectables.getD []).foldl (Session.collect d) (store, response)
    ⟨response, store, false⟩

theorem lines_collect (d : Dialect) (p : Store × Response) (spec : String) :
    (Session.collect d p spec).2.lines = p.2.lines ∧
      (Session.collect d p spec).2.command = p.2.command := by
  obtain ⟨store, response⟩ := p
  simp only [Session.collect]
  split
  · exact ⟨rfl, rfl⟩
  · split <;> exact ⟨rfl, rfl⟩

/-- Collecting adds values to a response and leaves its lines and its command alone. -/
theorem lines_foldl_collect (d : Dialect) (specs : List String) (p : Store × Response) :
    (specs.foldl (Session.collect d) p).2.lines = p.2.lines ∧
      (specs.foldl (Session.collect d) p).2.command = p.2.command := by
  induction specs generalizing p with
  | nil => exact ⟨rfl, rfl⟩
  | cons spec specs ih =>
      obtain ⟨hlines, hcommand⟩ := lines_collect d p spec
      obtain ⟨hlines', hcommand'⟩ := ih (Session.collect d p spec)
      exact ⟨hlines'.trans hlines, hcommand'.trans hcommand⟩

theorem Request.failed_judge (d : Dialect) (store : Store) (r : Request) (lines : List String)
    (elapsed : Int) : (r.judge d store lines elapsed).failed = Session.fails d r lines := by
  unfold Request.judge
  simp only
  split
  · next hf => exact hf.symm
  · next hf => exact (Bool.eq_false_iff.2 hf).symm

theorem Request.lines_judge (d : Dialect) (store : Store) (r : Request) (lines : List String)
    (elapsed : Int) : (r.judge d store lines elapsed).response.lines = lines := by
  unfold Request.judge
  simp only
  split
  · rfl
  · exact (lines_foldl_collect d _ _).1

theorem Request.command_judge (d : Dialect) (store : Store) (r : Request) (lines : List String)
    (elapsed : Int) : (r.judge d store lines elapsed).response.command = r.text := by
  unfold Request.judge
  simp only
  split
  · rfl
  · exact (lines_foldl_collect d _ _).2

/-- The commands that have been judged and those that have not, the variables, and whether
the last reply was not as expected. -/
structure Queue where
  done : List Command
  pending : List Command
  store : Store
  failed : Bool

/-- What can be asked of a session. -/
inductive Operation where
  | add (c : Command)
  | addNew (r : Request) (fallback : Option Command)
  | next
  | validate (lines : List String) (elapsed : Int)
  | set (key : String) (value : Value)
  | clear
  | reset
  | rewind

inductive Answer where
  /-- Whether a command was added. -/
  | added (accepted : Bool)
  /-- The command that is handed out, if there is one. -/
  | handed (c : Option Command)
  | judged (r : Response)
  /-- Nothing is answered. -/
  | quiet

/-- A command that a session is given by its parts. -/
def Command.ofParts (r : Request) (fallback : Option Command) : Command :=
  .ofRequest r (fallback.elim [] fun c => c.request :: c.fallbacks)

namespace Queue

variable (d : Dialect)

/-- The queue before anything has been judged. -/
def ofCommands (commands : List Command) : Queue := ⟨[], commands, .empty, false⟩

/-- The session that a queue is: the commands done and then those pending, with the cursor
between them. -/
def session (q : Queue) : Session := ⟨q.done ++ q.pending, q.store, q.done.length, q.failed⟩

def add (c : Command) (q : Queue) : Queue := { q with pending := q.pending ++ [c] }

/-- The head of what is pending is handed out, and keeps the text that it is handed out
with. -/
def next (q : Queue) : Answer × Queue :=
  match q.pending with
  | [] => (.handed none, q)
  | c :: rest =>
    let c := c.withText (q.store.substitute c.text)
    (.handed (some c), { q with pending := c :: rest })

/-- The queue after the verdict on `c`, which was pending before `rest`: the command is done,
and its fallback takes its place if the reply was not as expected. -/
def settle (q : Queue) (c : Command) (rest : List Command) (v : Verdict) : Queue where
  done := q.done ++ [{ c with response := some v.response }]
  pending := (if v.failed then c.fallback?.toList else []) ++ rest
  store := v.store
  failed := v.failed

/-- The head of what is pending is judged. -/
def validate (lines : List String) (elapsed : Int) (q : Queue) : Answer × Queue :=
  match q.pending with
  | [] => (.judged (.new none lines "" elapsed), q)
  | c :: rest =>
    let v := c.request.judge d q.store lines elapsed
    (.judged v.response, q.settle c rest v)

def rewind (q : Queue) : Queue := ⟨[], q.done ++ q.pending, q.store, false⟩

def clear (q : Queue) : Queue := ⟨[], [], q.store, false⟩

/-- One operation of the machine. -/
def perform (q : Queue) : Operation → Answer × Queue
  | .add c => (.added true, q.add c)
  | .addNew r fallback =>
    if r.text.isEmpty then (.added false, q)
    else (.added true, q.add (.ofParts r fallback))
  | .next => q.next
  | .validate lines elapsed => q.validate d lines elapsed
  | .set key value => (.quiet, { q with store := q.store.insert key value })
  | .clear => (.quiet, q.clear)
  | .reset => (.quiet, { q.clear with store := .empty })
  | .rewind => (.quiet, q.rewind)

/-- Operations one after the other, with their answers. -/
def run : List Operation → Queue → List Answer × Queue
  | [], q => ([], q)
  | o :: os, q =>
    let (answer, q) := q.perform d o
    let (answers, q) := run os q
    (answer :: answers, q)

end Queue

namespace Session

variable (d : Dialect)

def perform (s : Session) : Operation → Answer × Session
  | .add c => (.added true, s.add c)
  | .addNew r fallback => (s.addNew? r fallback).elim (.added false, s) (.added true, ·)
  | .next => s.next?.elim (.handed none, s) fun (c, s) => (.handed (some c), s)
  | .validate lines elapsed =>
    let (response, s) := s.validate d lines elapsed
    (.judged response, s)
  | .set key value => (.quiet, s.set key value)
  | .clear => (.quiet, s.clear)
  | .reset => (.quiet, s.reset)
  | .rewind => (.quiet, s.rewind)

def run : List Operation → Session → List Answer × Session
  | [], s => ([], s)
  | o :: os, s =>
    let (answer, s) := s.perform d o
    let (answers, s) := run os s
    (answer :: answers, s)

end Session

/-! ## What takes the place of a judged command -/

namespace Queue

theorem pending_settle_of_nil {q : Queue} {c : Command} {rest : List Command} {v : Verdict}
    (hf : c.fallbacks = []) : (q.settle c rest v).pending = rest := by
  rw [settle, Command.fallback?, hf]
  cases v.failed <;> rfl

theorem pending_settle_of_not_failed {q : Queue} {c : Command} {rest : List Command}
    {v : Verdict} (hv : v.failed = false) : (q.settle c rest v).pending = rest := by
  rw [settle, hv]
  rfl

theorem pending_settle_of_failed {q : Queue} {c : Command} {rest : List Command} {v : Verdict}
    {r : Request} {fallbacks : List Request} (hv : v.failed = true)
    (hf : c.fallbacks = r :: fallbacks) :
    (q.settle c rest v).pending = .ofRequest r fallbacks :: rest := by
  rw [settle, hv, Command.fallback?, hf]
  rfl

end Queue

/-! ## The simulation

The cursor is the length of `done`, so what stands at the cursor is the head of
`pending`, and what is put in behind it stands before the rest of `pending`. -/

namespace Queue

theorem current?_session (q : Queue) : q.session.current? = q.pending.head? := by
  show (q.done ++ q.pending)[q.done.length]? = q.pending.head?
  rw [List.getElem?_append_right (Nat.le_refl _), Nat.sub_self, List.head?_eq_getElem?]

theorem session_add (q : Queue) (c : Command) : (q.add c).session = q.session.add c := by
  simp only [session, add, Session.add, List.append_assoc]

theorem splice_session {done rest others : List Command} {c : Command} :
    Session.splice (done ++ c :: rest) done.length others = done ++ others ++ rest := by
  rw [Session.splice, List.take_left, ← List.drop_drop, List.drop_left, List.drop_one,
    List.tail_cons]

theorem addNew?_session (q : Queue) (r : Request) (fallback : Option Command) :
    q.session.addNew? r fallback =
      if r.text.isEmpty then none else some (q.add (.ofParts r fallback)).session := by
  unfold Session.addNew?
  split
  · rfl
  · rw [session_add]
    cases fallback <;> rfl

theorem next?_session_nil {q : Queue} (hp : q.pending = []) : q.session.next? = none := by
  rw [Session.next?, current?_session, hp]
  rfl

theorem next?_session_cons {q : Queue} {c : Command} {rest : List Command}
    (hp : q.pending = c :: rest) :
    q.session.next? =
      some (c.withText (q.store.substitute c.text),
        ({ q with pending := c.withText (q.store.substitute c.text) :: rest } : Queue).session) := by
  rw [Session.next?, current?_session, hp]
  simp [session, hp]

theorem validate_session_nil {q : Queue} {d : Dialect} {lines : List String} {elapsed : Int}
    (hp : q.pending = []) :
    q.session.validate d lines elapsed = (.new none lines "" elapsed, q.session) := by
  rw [Session.validate, current?_session, hp]
  rfl

/-- A judged command goes to the end of what is done, and its fallback to the head of what
is pending if the reply was not as expected. -/
theorem validate_session_cons {q : Queue} {d : Dialect} {c : Command} {rest : List Command}
    {lines : List String} {elapsed : Int} (hp : q.pending = c :: rest) :
    q.session.validate d lines elapsed =
      let v := c.request.judge d q.store lines elapsed
      (v.response, (q.settle c rest v).session) := by
  rw [Session.validate, current?_session, hp]
  simp only [List.head?_cons, Request.judge, Command.text]
  split
  · simp [session, settle, hp, splice_session]
  · simp [session, settle, hp, splice_session]

/-- One operation of a session is the same operation of its queue. -/
theorem perform_session (d : Dialect) (q : Queue) (o : Operation) :
    q.session.perform d o = ((q.perform d o).1, (q.perform d o).2.session) := by
  cases o with
  | add c =>
      show (Answer.added true, q.session.add c) = (Answer.added true, (q.add c).session)
      rw [session_add]
  | addNew r fallback =>
      rw [Session.perform, addNew?_session, perform]
      split <;> rfl
  | next =>
      rw [Session.perform, perform, next]
      cases hp : q.pending with
      | nil => rw [next?_session_nil hp]; rfl
      | cons c rest => rw [next?_session_cons hp]; rfl
  | validate lines elapsed =>
      rw [Session.perform, perform, validate]
      cases hp : q.pending with
      | nil => rw [validate_session_nil hp]
      | cons c rest => rw [validate_session_cons hp]
  | set key value | clear | reset | rewind => rfl

theorem run_session (d : Dialect) (os : List Operation) (q : Queue) :
    q.session.run d os = ((q.run d os).1, (q.run d os).2.session) := by
  induction os generalizing q with
  | nil => rfl
  | cons o os ih => simp only [Session.run, run, perform_session, ih]

end Queue

end ModemScript
