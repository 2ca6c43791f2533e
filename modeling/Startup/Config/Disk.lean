/-
The files below the working directory, and how a path leads to one of them. Names are separated by
slashes; a name is looked up in a directory only, a single point stays there, and two points go to
the directory above.
-/
import Startup.Config.Source
import Startup.Text.Quoted

namespace Startup

/-- What a name on the disk stands for. -/
inductive Disk.Node where
  | text (content : String)
  /-- A file whose bytes are no text in UTF-8. -/
  | garbled
  | directory

/-- Files and directories by the names that lead to them from the working directory. A directory
that only holds other entries need not be listed. -/
structure Disk where
  entries : List (List String × Disk.Node) := []

/-- Why a file cannot be read. -/
inductive ReadFailure where
  | notFound
  | notDirectory
  | isDirectory
  | nameTooLong
  | nulInName
  | notText
  deriving DecidableEq

def ReadFailure.message : ReadFailure → String
  | .notFound => "No such file or directory (os error 2)"
  | .notDirectory => "Not a directory (os error 20)"
  | .isDirectory => "Is a directory (os error 21)"
  | .nameTooLong => "File name too long (os error 36)"
  | .nulInName => "file name contained an unexpected NUL byte"
  | .notText => "stream did not contain valid UTF-8"

namespace Disk

/-- The names between the slashes of a path, empty ones included. -/
def names (path : String) : List String :=
  (Text.pieces (· == '/') path.toList).map .ofList

/-- The disk with one more entry, given by its path from the working directory. -/
def insert (disk : Disk) (path : String) (node : Node) : Disk :=
  { disk with entries := disk.entries ++ [((names path).filter fun n => n != "" && n != ".", node)] }

/-- Where a path has led so far. -/
inductive Position where
  /-- A node, with the names that lead to it from the working directory. -/
  | below (trail : List String) (node : Node)
  /-- A directory outside, of which nothing is known but that it exists. -/
  | outside

/-- The node at the end of a trail of names. -/
def nodeAt? (disk : Disk) (trail : List String) : Option Node :=
  match disk.entries.lookup trail with
  | some node => some node
  | none =>
    if trail.isEmpty || disk.entries.any (fun e => trail.isPrefixOf e.1) then some .directory
    else none

/-- One name further. -/
def step (disk : Disk) (here : Position) (name : String) : Except ReadFailure Position :=
  match here with
  | .outside =>
    if name == "" || name == "." || name == ".." then .ok .outside else .error .notFound
  | .below trail .directory =>
    if name == "" || name == "." then .ok here
    else if name == ".." then
      if trail.isEmpty then .ok .outside else .ok (.below trail.dropLast .directory)
    else if name.utf8ByteSize > 255 then .error .nameTooLong
    else
      match disk.nodeAt? (trail ++ [name]) with
      | some node => .ok (.below (trail ++ [name]) node)
      | none => .error .notFound
  | .below _ _ => .error .notDirectory

/-- The node that a path leads to. -/
def resolve (disk : Disk) (path : String) : Except ReadFailure Position :=
  if path.isEmpty then .error .notFound
  else if path.toList.contains '\x00' then .error .nulInName
  else if path.utf8ByteSize > 4095 then .error .nameTooLong
  else
    let start := if Text.startsWith "/" path then .outside else .below [] .directory
    (names path).foldlM disk.step start

def exists? (disk : Disk) (path : String) : Bool :=
  match disk.resolve path with
  | .ok _ => true
  | .error _ => false

def read (disk : Disk) (path : String) : Except ReadFailure String :=
  match disk.resolve path with
  | .ok (.below _ (.text content)) => .ok content
  | .ok (.below _ .garbled) => .error .notText
  | .ok _ => .error .isDirectory
  | .error e => .error e

end Disk

/-- The source of a document on the disk. Its name is the path. -/
def Source.ofFile (disk : Disk) (path : String) (priority : Int) : Except StartupError Source :=
  match disk.read path with
  | .ok content => Source.ofToml path priority content
  | .error e =>
    .error (.config ("Failed to read config file " ++ Text.quoted path ++ ": " ++ e.message))

end Startup
