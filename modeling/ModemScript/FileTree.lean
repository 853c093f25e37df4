import ModemScript.OsError
import ModemScript.Text.Cut
import ModemScript.Text.Utf8

/-!
# File trees

The files of a machine as a list of absolute paths, each with what is there, and
the directory that relative paths start from. A path is walked from component to
component (`locate`): everything on the way must be a directory, and only the
last component may be missing.
-/

namespace ModemScript

/-- What is at a path. -/
inductive Node where
  | file (bytes : List UInt8)
  | directory
  /-- Takes everything and holds nothing. -/
  | sink
  deriving DecidableEq, Repr

/-- The components of a path from the root. -/
abbrev AbsolutePath := List String

structure FileTree where
  nodes : List (AbsolutePath × Node)
  here : AbsolutePath
  deriving DecidableEq, Repr

namespace FileTree

/-- A tree with an empty directory to work in. -/
def new : FileTree where
  nodes := [(["dev"], .directory), (["dev", "null"], .sink), (["tmp"], .directory),
    (["tmp", "work"], .directory)]
  here := ["tmp", "work"]

def node? (t : FileTree) (path : AbsolutePath) : Option Node :=
  if path.isEmpty then some .directory else t.nodes.lookup path

def set (t : FileTree) (path : AbsolutePath) (n : Node) : FileTree :=
  { t with nodes := (path, n) :: t.nodes.filter (·.1 != path) }

def erase (t : FileTree) (path : AbsolutePath) : FileTree :=
  { t with nodes := t.nodes.filter (·.1 != path) }

/-- The lengths beyond which components and whole paths are refused, in bytes. -/
def longestComponent : Nat := 255

def longestPath : Nat := 4095

/-- One component further. -/
def enter (t : FileTree) (dir : AbsolutePath) (component : String) :
    Except OsError AbsolutePath :=
  match t.node? dir with
  | none => .error .notFound
  | some .directory =>
    if component == "." then .ok dir
    else if component == ".." then .ok dir.dropLast
    else if longestComponent < component.utf8ByteSize then .error .nameTooLong
    else .ok (dir ++ [component])
  | some _ => .error .notDirectory

/-- The components of a path. A slash at the end asks for a directory. -/
def components (path : String) : List String :=
  let parts := (Text.fields ['/'] path.toList).map String.ofList
  let names := parts.filter (· != "")
  if parts.getLast? == some "" && !names.isEmpty then names ++ ["."] else names

/-- Where a path leads, which need not exist if all on the way to it does. -/
def locate (t : FileTree) (path : String) : Except OsError AbsolutePath :=
  if path.isEmpty then .error .notFound
  else if longestPath < path.utf8ByteSize then .error .nameTooLong
  else
    let start := if path.toList.head? == some '/' then [] else t.here
    (components path).foldlM t.enter start

def hasNul (path : String) : Bool := path.toList.contains '\x00'

/-- What is at a path. -/
def find (t : FileTree) (path : String) : Except OsError Node := do
  match t.node? (← t.locate path) with
  | some n => .ok n
  | none => .error .notFound

def readBytes (t : FileTree) (path : String) : Except FileError (List UInt8) :=
  if hasNul path then .error .nulInName
  else
    match t.find path with
    | .error e => .error (.os e)
    | .ok (.file bytes) => .ok bytes
    | .ok .sink => .ok []
    | .ok .directory => .error (.os .isDirectory)

def readText (t : FileTree) (path : String) : Except FileError String := do
  match Utf8.decode? (← t.readBytes path) with
  | some text => .ok text
  | none => .error .notText

/-- Makes a file of these bytes, or puts them at the end of one if `append`. -/
def writeBytes (t : FileTree) (append : Bool) (path : String) (bytes : List UInt8) :
    Except FileError FileTree :=
  if hasNul path then .error .nulInName
  else
    match t.locate path with
    | .error e => .error (.os e)
    | .ok place =>
      match t.node? place with
      | none => .ok (t.set place (.file bytes))
      | some (.file old) => .ok (t.set place (.file (if append then old ++ bytes else bytes)))
      | some .sink => .ok t
      | some .directory => .error (.os .isDirectory)

/-- Makes a directory and all on the way to it. -/
def makeDirectory (t : FileTree) (path : String) : FileTree :=
  let start := if path.toList.head? == some '/' then [] else t.here
  ((components path).foldl (fun (t, place) component =>
    match t.enter place component with
    | .error _ => (t, place)
    | .ok next => (if (t.node? next).isNone then t.set next .directory else t, next))
    (t, start)).1

/-- Why the serial line at a path cannot be opened: no file is one. -/
def serialError (t : FileTree) (path : String) : SerialError :=
  if hasNul path then .badName
  else
    match t.find path with
    | .error e => .os e
    | .ok .directory => .os .isDirectory
    | .ok _ => .notTerminal

end FileTree

end ModemScript
