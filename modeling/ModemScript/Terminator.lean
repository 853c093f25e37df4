/-!
# Line terminators

The text that closes every command on the wire, under the name by which scripts
and the command line choose it.
-/

namespace ModemScript

/-- What is sent after the text of a command. -/
inductive Terminator where
  | lf
  | crlf
  | cr
  | none
  deriving DecidableEq, Repr

namespace Terminator

instance : Inhabited Terminator := ⟨crlf⟩

def name : Terminator → String
  | lf => "LF"
  | crlf => "CRLF"
  | cr => "CR"
  | none => "NONE"

/-- The characters that are sent. -/
def text : Terminator → String
  | lf => "\n"
  | crlf => "\r\n"
  | cr => "\r"
  | none => ""

def all : List Terminator := [lf, crlf, cr, none]

/-- The terminator of a name, in capitals and without blanks. -/
def ofName? (s : String) : Option Terminator := all.find? fun t => t.name == s

/-- What is said of a name that no terminator has. -/
def unknownName (s : String) : String := "Invalid line break '" ++ s ++ "'"

theorem ofName?_name (t : Terminator) : ofName? t.name = some t := by
  cases t <;> decide

end Terminator

end ModemScript
