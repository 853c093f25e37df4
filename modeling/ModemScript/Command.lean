import ModemScript.Response

/-!
# Commands

A request is a text to send and the rules by which its reply is judged. A command
is a request with fallbacks: when its reply is not as expected, the first
fallback takes its place, with the others for fallbacks of its own. So a command
and its fallbacks form a chain, however long.
-/

namespace ModemScript

/-- A text to send and the rules for its reply. -/
structure Request where
  /-- May refer to variables. -/
  text : String
  /-- The pattern that some line of the reply must match. -/
  expected : Option String
  /-- The seconds to wait for a reply, if the request has its own opinion. -/
  timeout : Option Nat
  /-- The milliseconds to wait before sending. -/
  delay : Nat
  collectables : Option (List String)
  deriving DecidableEq, Repr

namespace Request

def new (text : String) (expected : Option String) : Request := ⟨text, expected, none, 0, none⟩

/-- A request waits for one second at least. -/
def withTimeout (r : Request) (seconds : Int) : Request :=
  { r with timeout := some (max 1 seconds).toNat }

/-- A negative delay is none. -/
def withDelay (r : Request) (milliseconds : Int) : Request :=
  { r with delay := milliseconds.toNat }

def withCollectables (r : Request) (specs : Option (List String)) : Request :=
  { r with collectables := specs }

theorem timeout_withTimeout (r : Request) (seconds : Int) :
    ∃ n, (r.withTimeout seconds).timeout = some n ∧ 1 ≤ n :=
  ⟨_, rfl, by omega⟩

end Request

/-- A request, the requests that take its place one after the other when replies fail, and
the response once there is one. -/
structure Command where
  request : Request
  fallbacks : List Request
  response : Option Response
  deriving DecidableEq, Repr

namespace Command

/-- A command that has not been sent. -/
def ofRequest (r : Request) (fallbacks : List Request) : Command := ⟨r, fallbacks, none⟩

def text (c : Command) : String := c.request.text

def withText (c : Command) (text : String) : Command :=
  { c with request := { c.request with text := text } }

/-- The command that takes the place of one whose reply has failed. -/
def fallback? (c : Command) : Option Command :=
  match c.fallbacks with
  | [] => none
  | r :: rest => some (ofRequest r rest)

/-- A command whose fallback is another one. -/
def withFallback (c fallback : Command) : Command :=
  { c with fallbacks := fallback.request :: fallback.fallbacks }

end Command

end ModemScript
