/-!
# Errors of the operating system

The reasons for which files cannot be used, with the numbers and descriptions
that the system gives them.
-/

namespace ModemScript

inductive OsError where
  | notFound
  | notDirectory
  | isDirectory
  | nameTooLong
  /-- Any other error, with the number and description that the system gives it. -/
  | other (number : Nat) (description : String)
  deriving DecidableEq, Repr

namespace OsError

def number : OsError → Nat
  | notFound => 2
  | notDirectory => 20
  | isDirectory => 21
  | nameTooLong => 36
  | other number _ => number

def description : OsError → String
  | notFound => "No such file or directory"
  | notDirectory => "Not a directory"
  | isDirectory => "Is a directory"
  | nameTooLong => "File name too long"
  | other _ description => description

end OsError

/-- Why a file cannot be read or written. -/
inductive FileError where
  | os (e : OsError)
  /-- The path holds a character that no file name can have. -/
  | nulInName
  /-- The file is not UTF-8. -/
  | notText
  deriving DecidableEq, Repr

def FileError.message : FileError → String
  | os e => e.description ++ " (os error " ++ toString e.number ++ ")"
  | nulInName => "file name contained an unexpected NUL byte"
  | notText => "stream did not contain valid UTF-8"

/-- Why a serial line cannot be opened. -/
inductive SerialError where
  | os (e : OsError)
  /-- The path leads to something that is no terminal line. -/
  | notTerminal
  | badName
  /-- Whatever else the port's driver says. -/
  | other (message : String)
  deriving DecidableEq, Repr

def SerialError.message : SerialError → String
  | os e => e.description
  | notTerminal => "Not a typewriter"
  | badName => "Invalid argument"
  | other message => message

end ModemScript
