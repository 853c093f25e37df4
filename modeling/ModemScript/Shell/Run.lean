import ModemScript.FileTree
import ModemScript.Host
import ModemScript.Shell.Command
import ModemScript.Shell.Printf

/-!
# Running command lines

The shell runs the chains of a command line one after the other. It knows the
small programs that scripts use to test and write files, to print, and to end in
a given way; other programs are not there. Nothing here loops, and nothing takes
time, so every command line ends.
-/

namespace ModemScript.Shell

/-- What a shell works on: the files, its variables, the status of the last command, what
has been printed, and how the shell itself has ended if it has. -/
structure State where
  files : FileTree
  bindings : List (String × String)
  status : Nat
  output : String
  errors : String
  ended : Option ExitStatus

/-- What a program came to: its status, its output and its complaints. -/
structure Result where
  status : Nat
  output : String := ""
  errors : String := ""

/-- The number by which a shell knows itself. -/
def processId : String := "1000"

namespace State

def start (files : FileTree) (bindings : List (String × String)) : State :=
  ⟨files, bindings, 0, "", "", none⟩

/-- The value of a variable, or of a parameter that has no letters. -/
def value (st : State) (name : String) : String :=
  match name with
  | "?" => toString st.status
  | "$" => processId
  | "#" => "0"
  | "0" => "sh"
  | _ => (st.bindings.lookup name).getD ""

def assign (st : State) (name value : String) : State :=
  { st with bindings := (name, value) :: st.bindings.filter (·.1 != name) }

/-- Ends the command with a complaint of the shell. -/
def complain (st : State) (status : Nat) (message : String) : State :=
  { st with status := status, errors := st.errors ++ "sh: 1: " ++ message ++ "\n" }

end State

/-! ## Words -/

/-- What cuts the value of a variable that is not quoted. -/
def isBlank (c : Char) : Bool := c == ' ' || c == '\t' || c == '\n'

/-- The fields of a text between its blanks. -/
def splitBlanks (s : List Char) : List (List Char) :=
  s.splitBy (fun a b => isBlank a == isBlank b) |>.filter fun f => !(f.any isBlank)

/-- The fields that a word comes to. Values that are not quoted are cut at blanks, and a
word of which nothing is left is no field unless it has text of its own. -/
def expand (st : State) (w : Word) : List String :=
  let add (last : Option (List Char)) (s : List Char) : Option (List Char) :=
    some (last.getD [] ++ s)
  let (done, last) := w.foldl (fun (done, last) piece =>
    match piece with
    | .text s => (done, add last s)
    | .variable name true => (done, add last (st.value name).toList)
    | .variable name false =>
      let v := (st.value name).toList
      match splitBlanks v with
      | [] => if v.isEmpty then (done, last) else (done ++ last.toList, none)
      | f :: fs =>
        let (done, last) :=
          if v.head?.any isBlank then (done ++ last.toList, some f) else (done, add last f)
        let all := last.toList ++ fs
        if v.getLast?.any isBlank then (done ++ all, none)
        else (done ++ all.dropLast, all.getLast?))
    (([], none) : List (List Char) × Option (List Char))
  (done ++ last.toList).map String.ofList

/-- A word as one text. -/
def expandWhole (st : State) (w : Word) : String :=
  String.join (w.map fun piece =>
    match piece with
    | .text s => String.ofList s
    | .variable name _ => st.value name)

/-! ## Programs -/

/-- The condition of a test, or nothing if it is none. -/
def condition? (files : FileTree) : List String → Option Bool
  | [] => some false
  | [s] => some (s != "")
  | ["!", s] => some (s == "")
  | ["-n", s] => some (s != "")
  | ["-z", s] => some (s == "")
  | ["-e", p] | ["-r", p] | ["-w", p] => some (files.find p).isOk
  | ["-f", p] => some (match files.find p with | .ok (.file _) => true | _ => false)
  | ["-d", p] => some (match files.find p with | .ok .directory => true | _ => false)
  | ["-s", p] => some (match files.find p with | .ok (.file b) => !b.isEmpty | _ => false)
  | [a, "=", b] => some (a == b)
  | [a, "!=", b] => some (a != b)
  | [a, op, b] => do
    if a == "!" then return !(← condition? files [op, b])
    let a ← Numeral.signed? a.toList
    let b ← Numeral.signed? b.toList
    match op with
    | "-eq" => some (a == b)
    | "-ne" => some (a != b)
    | "-lt" => some (a < b)
    | "-le" => some (a ≤ b)
    | "-gt" => some (b < a)
    | "-ge" => some (b ≤ a)
    | _ => none
  | "!" :: rest => (condition? files rest).map (!·)
  | _ => none

/-- A signal by its number or its name. -/
def signal? (s : String) : Option Nat :=
  match Numeral.unsigned? s.toList with
  | some n => some n
  | none =>
    (ExitStatus.signalNames.findIdx? fun name => name == s || name == "SIG" ++ s).map (· + 1)

/-- The signal that `kill` is to send, and to whom. -/
def killTarget? : List String → Option (Nat × String)
  | [pid] => some (15, pid)
  | ["-s", name, pid] => (signal? name).map (·, pid)
  | [option, pid] =>
    match option.toList with
    | '-' :: name => (signal? (String.ofList name)).map (·, pid)
    | _ => none
  | _ => none

/-- The contents of files one after the other, with complaints about those that cannot be
read. -/
def concatenate (files : FileTree) (paths : List String) : Result :=
  paths.foldl (fun r path =>
    match files.readBytes path with
    | .ok bytes => { r with output := r.output ++ Utf8.decode bytes }
    | .error (.os e) =>
      { r with status := 1, errors := r.errors ++ "cat: " ++ path ++ ": " ++ e.description ++ "\n" }
    | .error _ => { r with status := 1 }) ⟨0, "", ""⟩

/-- Runs a program that can only print and change files. Nothing if there is no such
program. -/
def program? (files : FileTree) (input name : String) (args : List String) :
    Option (Result × FileTree) :=
  match name with
  | ":" | "true" | "sleep" => some (⟨0, "", ""⟩, files)
  | "false" => some (⟨1, "", ""⟩, files)
  | "echo" => some (⟨0, echo args, ""⟩, files)
  | "printf" => some (⟨0, printf args, ""⟩, files)
  | "cat" =>
    some (if args.isEmpty then ⟨0, input, ""⟩ else concatenate files args, files)
  | "test" => some (⟨(condition? files args).elim 2 fun b => if b then 0 else 1, "", ""⟩, files)
  | "[" =>
    some (if args.getLast? == some "]" then
      ⟨(condition? files args.dropLast).elim 2 fun b => if b then 0 else 1, "", ""⟩
    else ⟨2, "", "sh: 1: [: missing ]\n"⟩, files)
  | "rm" =>
    let paths := args.filter fun a => a != "-f"
    let forced := paths.length < args.length
    some (paths.foldl (fun (r, files) path =>
      match files.locate path, files.find path with
      | .ok place, .ok (.file _) => (r, files.erase place)
      | _, .ok _ =>
        ({ r with
            status := 1
            errors := r.errors ++ "rm: cannot remove '" ++ path ++ "': Is a directory\n" },
          files)
      | _, .error e =>
        if forced then (r, files)
        else
          ({ r with
            status := 1
            errors := r.errors ++ "rm: cannot remove '" ++ path ++ "': " ++ e.description ++ "\n" },
            files)) (⟨0, "", ""⟩, files))
  | "mkdir" => some (⟨0, "", ""⟩, args.foldl (·.makeDirectory ·) files)
  | "touch" =>
    some (⟨0, "", ""⟩, args.foldl (fun files path =>
      ((files.writeBytes true path []).toOption).getD files) files)
  | _ => none

/-- Ends the shell with the status that `exit` names. -/
def exit (st : State) : List String → State
  | [] => { st with ended := some (.exited (st.status % 256)) }
  | n :: _ =>
    match Numeral.digits? n.toList with
    | some status => { st with ended := some (.exited (status % 256)) }
    | none => { st.complain 2 ("exit: Illegal number: " ++ n) with ended := some (.exited 2) }

/-- Runs a program with its arguments, which may read `input`. -/
def invoke (st : State) (input name : String) (args : List String) : State :=
  match name with
  | "exit" => exit st args
  | "kill" =>
    match killTarget? args with
    | some (signal, pid) =>
      if pid == processId then
        if signal == 0 then { st with status := 0 } else { st with ended := some (.killed signal) }
      else st.complain 1 "kill: No such process"
    | none => st.complain 2 "kill: Illegal number"
  | _ =>
    match program? st.files input name args with
    | some (r, files) =>
      { st with
        files := files, status := r.status, output := st.output ++ r.output
        errors := st.errors ++ r.errors }
    | none => st.complain 127 (name ++ ": not found")

/-! ## Commands -/

/-- Where the output and the errors of a command go; nothing is where the shell's own
go. -/
structure Streams where
  input : String
  output : Option String := none
  errors : Option String := none

/-- Makes the file of a redirection, so that it is there whatever is written. -/
def openOutput (st : State) (append : Bool) (path : String) : Except State State :=
  match st.files.writeBytes append path [] with
  | .ok files => .ok { st with files := files }
  | .error _ => .error (st.complain 2 ("cannot create " ++ path ++ ": Directory nonexistent"))

/-- Sets up a redirection. -/
def redirect (st : State) (s : Streams) : Redirection → Except State (State × Streams)
  | .input w =>
    let path := expandWhole st w
    match st.files.readBytes path with
    | .ok bytes => .ok (st, { s with input := Utf8.decode bytes })
    | .error _ => .error (st.complain 2 ("cannot open " ++ path ++ ": No such file"))
  | .output append w => do
    let path := expandWhole st w
    return (← openOutput st append path, { s with output := some path })
  | .errors append w => do
    let path := expandWhole st w
    return (← openOutput st append path, { s with errors := some path })
  | .errorsToOutput => .ok (st, { s with errors := s.output })
  | .outputToErrors => .ok (st, { s with output := s.errors })

/-- Adds a text at the end of a file. -/
def appendTo (st : State) (path text : String) : State :=
  { st with files := ((st.files.writeBytes true path (Utf8.encode text)).toOption).getD st.files }

/-- Runs a simple command. -/
def runSimple (st : State) (input : String) (c : SimpleCommand) : State :=
  match c.redirections.foldlM (fun (st, s) r => redirect st s r) (st, { input := input }) with
  | .error st => st
  | .ok (st, streams) =>
    let st := c.assignments.foldl (fun st (name, w) => st.assign name (expandWhole st w)) st
    match c.words.flatMap (expand st) with
    | [] => { st with status := 0 }
    | name :: args =>
      let after := invoke { st with output := "", errors := "" } streams.input name args
      let (output, errors) := (after.output, after.errors)
      let after := { after with output := st.output, errors := st.errors }
      let after := match streams.output with
        | some path => appendTo after path output
        | none => { after with output := after.output ++ output }
      match streams.errors with
      | some path => appendTo after path errors
      | none => { after with errors := after.errors ++ errors }

/-- Runs the commands of a pipeline, each on the output of the one before. In a pipeline of
several, none of them ends the shell. -/
def runPipe (st : State) (input : String) : List SimpleCommand → State
  | [] => st
  | [c] => runSimple st input c
  | c :: rest =>
    let left := runSimple { st with output := "" } input c
    let right := runPipe { left with output := st.output, ended := none } left.output rest
    { right with
      bindings := st.bindings, ended := none
      status := match right.ended with
        | some (.exited n) => n
        | some (.killed n) => 128 + n
        | none => right.status }

def runPipeline (st : State) (p : Pipeline) : State :=
  let st := runPipe st "" p.commands
  if p.negated then { st with status := if st.status == 0 then 1 else 0 } else st

/-- Runs what is left of a chain. -/
def runRest (st : State) : List (Connective × Pipeline) → State
  | [] => st
  | (connective, p) :: rest =>
    if st.ended.isSome then st
    else
      let wanted := match connective with
        | .and => st.status == 0
        | .or => st.status != 0
      runRest (if wanted then runPipeline st p else st) rest

/-- Runs chains in order until the shell ends. -/
def runChains (st : State) : List Chain → State
  | [] => st
  | c :: rest =>
    if st.ended.isSome then st else runChains (runRest (runPipeline st c.first) c.rest) rest

/-- Runs a command line. One that is not well formed ends with status two. -/
def run (commandLine : String) (files : FileTree) (bindings : List (String × String)) : State :=
  let st := State.start files bindings
  match parse? commandLine with
  | some chains => runChains st chains
  | none => st.complain 2 "Syntax error"

/-- How the shell ended: as it was told to, or with the status of its last command. -/
def State.exitStatus (st : State) : ExitStatus := st.ended.getD (.exited (st.status % 256))

end ModemScript.Shell
