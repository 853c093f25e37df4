import ModemScript.FileTree
import ModemScript.Host
import ModemScript.Shell.Run

/-!
# Machines

A host that exists only in memory: a file tree, variables of the environment, and
the shell of `ModemScript.Shell`. It has no serial lines, and whatever it does it
does at once and without regard to a device.
-/

namespace ModemScript

structure Machine where
  files : FileTree
  environment : List (String × String)
  /-- What command lines have complained of. -/
  complaints : String

namespace Machine

def new (files : FileTree) (environment : List (String × String)) : Machine :=
  ⟨files, environment, ""⟩

def readFile (path : String) (m : Machine) : Except FileError String := m.files.readText path

def writeFile (path content : String) (m : Machine) : Except FileError Unit × Machine :=
  match m.files.writeBytes false path (Utf8.encode content) with
  | .ok files => (.ok (), { m with files := files })
  | .error e => (.error e, m)

/-- Runs a command line, which cannot be passed on if it holds a null character. -/
def shell (commandLine : String) (m : Machine) : Except SpawnError ShellRun × Machine :=
  if commandLine.toList.contains '\x00' then (.error .nulInText, m)
  else
    let st := Shell.run commandLine m.files m.environment
    (.ok ⟨st.output, st.exitStatus⟩,
      { m with files := st.files, complaints := m.complaints ++ st.errors })

/-- The host that a machine is. -/
def host {σ : Type} : Host σ Machine where
  dialect := .standard
  environment name _ m := (m.environment.lookup name).elim (.error .notSet) .ok
  readFile path _ m := m.readFile path
  writeFile path content _ m :=
    let (result, m) := m.writeFile path content
    .atOnce result m
  shell commandLine _ m :=
    let (run, m) := m.shell commandLine
    .atOnce run m
  print _ _ m := .atOnce () m
  serialError path _ m := m.files.serialError path

end Machine

end ModemScript
