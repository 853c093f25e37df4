import ModemScript.Store

/-!
# Responses

What a device sent back for one command, and what was made of it.
-/

namespace ModemScript

/-- The outcome of one command. -/
structure Response where
  /-- The first line that was expected. -/
  matched : Option String
  /-- All lines, without their terminators. -/
  lines : List String
  /-- The text that was sent. -/
  command : String
  /-- Milliseconds from sending to the end of the reply. -/
  elapsed : Nat
  collected : Store
  deriving DecidableEq, Repr

namespace Response

/-- A response from which nothing has been collected. No time is negative. -/
def new (matched : Option String) (lines : List String) (command : String) (elapsed : Int) :
    Response :=
  ⟨matched, lines, command, elapsed.toNat, .empty⟩

def withElapsed (r : Response) (milliseconds : Int) : Response :=
  { r with elapsed := milliseconds.toNat }

/-- The response with a collected value; the last one of a name counts. -/
def collect (r : Response) (name : String) (value : Value) : Response :=
  { r with collected := r.collected.insert name value }

end Response

end ModemScript
