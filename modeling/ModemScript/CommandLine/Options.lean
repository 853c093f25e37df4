import ModemScript.Directive.Parser
import ModemScript.Settings

/-!
# Options

How the arguments of the program are read. An option has a long name after two
hyphens and a letter after one; its value follows an equals sign, the letter
itself, or in the next argument, which must not look like an option then. Letters
of options without a value may stand together. Two hyphens alone end the
options. The one argument that is no option is the script.

Arguments are read from left to right, and the first one that ends the reading
decides: asking for the version or for help, or a fault.
-/

namespace ModemScript.CommandLine

/-- What the program is asked to do. -/
structure Options where
  script : Option String := none
  device : Option String := none
  baudRate : Option Nat := none
  /-- Seconds; zero keeps the usual time. -/
  timeout : Int := 0
  terminator : Terminator := .crlf
  abortOnFailure : Bool := true
  logFile : Option String := none
  logLevel : Nat := 3
  verbose : Bool := false
  quiet : Bool := false
  deriving DecidableEq, Repr

/-- The options by name. -/
inductive OptionName where
  | device
  | baudRate
  | timeout
  | terminator
  | abortOnFailure
  | logFile
  | logLevel
  | verbose
  | quiet
  | version
  | help
  deriving DecidableEq, Repr

namespace OptionName

def all : List OptionName :=
  [device, baudRate, timeout, terminator, abortOnFailure, logFile, logLevel, verbose, quiet,
    version, help]

def long : OptionName → String
  | device => "device"
  | baudRate => "baud-rate"
  | timeout => "timeout"
  | terminator => "break"
  | abortOnFailure => "abort-on-failure"
  | logFile => "log-file"
  | logLevel => "log-level"
  | verbose => "verbose"
  | quiet => "quiet"
  | version => "version"
  | help => "help"

def letter : OptionName → Char
  | device => 'p'
  | baudRate => 'b'
  | timeout => 'T'
  | terminator => 'B'
  | abortOnFailure => 'A'
  | logFile => 'L'
  | logLevel => 'l'
  | verbose => 'v'
  | quiet => 'q'
  | version => 'V'
  | help => 'h'

def takesValue : OptionName → Bool
  | verbose | quiet | version | help => false
  | _ => true

def ofLong? (s : String) : Option OptionName := all.find? fun n => n.long == s

def ofLetter? (c : Char) : Option OptionName := all.find? fun n => n.letter == c

end OptionName

/-- Why the program does not begin its work. -/
inductive Stop where
  | version
  | help
  | fault
  deriving DecidableEq, Repr

/-- What has been read: the options, those that have been given, and whether options are
over. -/
structure Reading where
  options : Options := {}
  given : List OptionName := []
  isOver : Bool := false

namespace Reading

/-- A whole number between limits. -/
def number? (low high : Int) (value : String) : Option Int :=
  (Numeral.word? 64 value.toList).filter fun n => low ≤ n && n ≤ high

/-- The options with a value for one of them, if it is a value for that one. -/
def valued? (o : Options) (name : OptionName) (value : String) : Option Options :=
  match name with
  | .device => some { o with device := some value }
  | .baudRate =>
    (number? 0 (UInt32.size - 1) value).map fun n => { o with baudRate := some n.toNat }
  | .timeout =>
    (number? Int64.minValue.toInt Int64.maxValue.toInt value).map fun n => { o with timeout := n }
  | .terminator => (Terminator.ofName? value).map fun t => { o with terminator := t }
  | .abortOnFailure =>
    (Directive.switch? value.toList).map fun on => { o with abortOnFailure := on }
  | .logFile => some { o with logFile := some value }
  | .logLevel => (number? 0 4 value).map fun n => { o with logLevel := n.toNat }
  | .verbose => some { o with verbose := true }
  | .quiet => some { o with quiet := true }
  | .version | .help => none

/-- Takes an option with its value, which is empty for those without. No option may be
given twice. -/
def take (r : Reading) (name : OptionName) (value : String) : Except Stop Reading :=
  match name with
  | .version => .error .version
  | .help => .error .help
  | _ =>
    if r.given.contains name then .error .fault
    else
      match valued? r.options name value with
      | some o => .ok { r with options := o, given := name :: r.given }
      | none => .error .fault

/-- Takes the script, of which there is one at most. -/
def takeScript (r : Reading) (path : String) : Except Stop Reading :=
  if path.isEmpty || r.options.script.isSome then .error .fault
  else .ok { r with options := { r.options with script := some path } }

/-- Takes letters that stand together. If the last one takes a value that is still to come,
its name is given back. -/
def letters (r : Reading) : List Char → Except Stop (Reading × Option OptionName)
  | [] => .ok (r, none)
  | c :: rest =>
    match OptionName.ofLetter? c with
    | none => .error .fault
    | some name =>
      if name.takesValue then
        match rest with
        | [] => .ok (r, some name)
        | '=' :: value => (r.take name (String.ofList value)).map (·, none)
        | value => (r.take name (String.ofList value)).map (·, none)
      else
        match r.take name "" with
        | .ok r => r.letters rest
        | .error e => .error e

/-- Takes an option by its long name, with its value if it has one after an equals sign. -/
def longName (r : Reading) (s : List Char) : Except Stop (Reading × Option OptionName) :=
  let (name, value) := Text.cutWhere (· == '=') s
  match OptionName.ofLong? (String.ofList name), value with
  | none, _ => .error .fault
  | some name, some value =>
    if name.takesValue then (r.take name (String.ofList value)).map (·, none) else .error .fault
  | some name, none =>
    if name.takesValue then .ok (r, some name) else (r.take name "").map (·, none)

/-- Takes the remaining arguments, the first of which is the value of `pending` if that is
an option. -/
def arguments (r : Reading) (pending : Option OptionName) : List String → Except Stop Options
  | [] => if pending.isSome then .error .fault else .ok r.options
  | arg :: rest =>
    let goOn : Except Stop (Reading × Option OptionName) → Except Stop Options
      | .ok (r, pending) => r.arguments pending rest
      | .error e => .error e
    match r.isOver, pending, arg.toList with
    | true, _, _ => goOn ((r.takeScript arg).map (·, none))
    | false, none, ['-', '-'] => goOn (.ok ({ r with isOver := true }, none))
    | false, none, '-' :: '-' :: name => goOn (r.longName name)
    | false, none, '-' :: c :: cs => goOn (r.letters (c :: cs))
    | false, none, _ => goOn ((r.takeScript arg).map (·, none))
    | false, some _, '-' :: _ :: _ => .error .fault
    | false, some name, _ => goOn ((r.take name arg).map (·, none))

end Reading

/-- The options that arguments give. -/
def Options.parse (args : List String) : Except Stop Options := Reading.arguments {} none args

end ModemScript.CommandLine
