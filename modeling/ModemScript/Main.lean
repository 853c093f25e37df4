import ModemScript.CommandLine

/-!
# The program

Gathers what a run can reach of the real machine, lets `CommandLine.run` work on
it, and carries out what comes of it: the files that have changed are written, and
the outputs printed. A run can reach the files that its arguments, its script and
its input name, and the variables of the environment that they ask for.
-/

namespace ModemScript.Main

/-- All that is left of the input. -/
partial def readAll (input : IO.FS.Stream) (sofar : ByteArray) : IO ByteArray := do
  let more ← input.read 65536
  if more.isEmpty then return sofar else readAll input (sofar ++ more)

/-- What is at a path of the real machine. -/
def probe (path : String) : IO (Option Node) := do
  try
    let bytes ← IO.FS.readBinFile path
    return some (.file bytes.toList)
  catch e =>
    match e with
    | .noFileOrDirectory .. => return none
    | _ => return some .directory

/-- The path of the directory that a path is in. -/
def parent (path : String) : String :=
  match (FileTree.components path).dropLast with
  | [] => if path.startsWith "/" then "/" else "."
  | names => (if path.startsWith "/" then "/" else "") ++ "/".intercalate names

/-- The tree with what is at a path, or at least with the directory that it is in. -/
def copyIn (files : FileTree) (path : String) : IO FileTree := do
  let files ← match ← probe (parent path) with
    | some .directory => pure (files.makeDirectory (parent path))
    | _ => pure files
  match ← probe path with
  | some .directory => return files.makeDirectory path
  | some (.file bytes) => return ((files.writeBytes false path bytes).toOption).getD files
  | _ => return files

/-- The directives in the lines of a text. -/
def directives (text : String) : List Directive :=
  (Text.lines text.toList).filterMap fun l =>
    match Line.parse .standard l with
    | .ok (.directive d) => some d
    | _ => none

/-- The paths that directives write to. -/
def writtenPaths (ds : List Directive) : List String :=
  ds.filterMap fun d => match d with
    | .write path _ => some path
    | _ => none

/-- The variables of the environment that directives ask for. -/
def askedVariables (ds : List Directive) : List String :=
  ds.filterMap fun d => match d with
    | .environment name => some name
    | _ => none

/-- Writes the files of a tree at the given paths that differ from those of another. -/
def copyOut (before after : FileTree) (paths : List String) : IO Unit :=
  paths.forM fun path =>
    match after.readBytes path with
    | .ok bytes =>
      if (before.readBytes path).toOption == some bytes then pure ()
      else IO.FS.writeBinFile path ⟨bytes.toArray⟩
    | .error _ => pure ()

end ModemScript.Main

open ModemScript in
def main (args : List String) : IO UInt32 := do
  let options := (CommandLine.Options.parse args).toOption
  let script := (options.bind (·.script)).toList
  let input ← match options, script with
    | some _, [] => Main.readAll (← IO.getStdin) .empty
    | _, _ => pure .empty
  let files ← script.foldlM Main.copyIn .new
  let texts := Utf8.decode input.toList :: script.filterMap fun p => (files.readText p).toOption
  let directives := texts.flatMap Main.directives
  let paths := (options.bind (·.logFile)).toList ++ Main.writtenPaths directives
  let files ← paths.foldlM Main.copyIn files
  let environment ← (Main.askedVariables directives).filterMapM fun name => do
    return (← IO.getEnv name).map (name, ·)
  let transcript := CommandLine.run args input.toList (.new files environment)
  Main.copyOut files transcript.machine.files paths
  IO.print transcript.output
  IO.eprint transcript.errors
  return UInt32.ofNat transcript.status
