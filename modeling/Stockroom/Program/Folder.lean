import Stockroom.Store.Basic

/-!
Files and the paths that lead to them. A path is walked from left to right: nothing and a dot stay
where they are, two dots go up, and every other name must be a directory unless it is the last one.

Main definitions:
* `Folder`: the files that a program can reach;
* `Folder.locate`: what a path leads to, or why it leads nowhere;
* `Folder.openForReading`, `Folder.openForAppending`;
* `Directory.ofPath`: where a path leads by its names alone.
-/
namespace Stockroom
set_option autoImplicit false

/-! ## Directories -/

/-- A place for files: the root or the working directory, some steps up and some names down. -/
structure Directory where
  rooted : Bool := false
  up : Nat := 0
  down : List Text := []
  deriving DecidableEq, Repr

namespace Directory

/-- The directory above. Above the root there is only the root. -/
def parent (d : Directory) : Directory :=
  if d.down.isEmpty then (if d.rooted then d else { d with up := d.up + 1 })
  else { d with down := d.down.dropLast }

def enter (d : Directory) (name : Text) : Directory := { d with down := d.down ++ [name] }

/-- The shortest path to a directory, or to a file where a directory could be. -/
def path (d : Directory) : Text :=
  (if d.rooted then [.char '/'] else (List.replicate d.up (Text.ofString "../")).flatten) ++
    Text.join "/" d.down

/-- Goes where one name of a path leads. -/
def follow (d : Directory) (name : Text) : Directory :=
  if name.isEmpty || name == Text.ofString "." then d
  else if name == Text.ofString ".." then d.parent
  else d.enter name

/-- Where a path starts. -/
def startOf (path : Text) : Directory := { rooted := path.head? == some (.char '/') }

/-- Where a path leads by its names alone, whatever is there. -/
def ofPath (path : Text) : Directory := (Text.splitOn (.char '/') path).foldl follow (startOf path)

end Directory

/-! ## Files -/

/-- What a file holds. -/
inductive FileData where
  | text (t : Text)
  | database (s : Store)
  deriving DecidableEq, Repr

/-- The files that a program can reach, each with its shortest path. -/
structure Folder where
  files : List (Text × FileData) := []
  deriving DecidableEq, Repr

/-- Why a path cannot be opened. -/
inductive PathFault where
  | missing
  | notADirectory
  | isADirectory
  | nameTooLong
  deriving DecidableEq, Repr

def PathFault.reason : PathFault → String
  | .missing => "no such file or directory"
  | .notADirectory => "not a directory"
  | .isADirectory => "is a directory"
  | .nameTooLong => "file name too long"

/-- What is said of a path that cannot be opened. -/
def PathFault.message (f : PathFault) (path : Text) : Text :=
  "open " ++ path ++ ": " ++ Text.ofString f.reason

/-- What a path leads to: a directory, a file, or a place where a file could be. -/
inductive Place where
  | directory
  | file (path : Text)
  | vacant (path : Text)
  deriving DecidableEq, Repr

/-- A file that is always empty, whatever is written to it. -/
def nullDevice : Text := "/dev/null"

/-- Directories that are there on every machine. -/
def standardDirectories : List Text := ["/dev", "/tmp"]

/-- The longest name of a file, in bytes. -/
def maxNameSize : Nat := 255

/-- The longest path, in bytes. -/
def maxPathSize : Nat := 4095

namespace Folder

def ofFiles (files : List (Text × FileData)) : Folder :=
  { files := files.map fun file => ((Directory.ofPath file.1).path, file.2) }

/-- The file that has a shortest path. -/
def find? (f : Folder) (path : Text) : Option FileData :=
  if path == nullDevice then some (.text []) else f.files.lookup path

/-- The text of the file that has a shortest path. -/
def text? (f : Folder) (path : Text) : Option Text :=
  (f.find? path).map fun data => match data with
    | .text t => t
    | .database _ => []

/-- Puts a file in its place. -/
def put (f : Folder) (path : Text) (data : FileData) : Folder :=
  if path == nullDevice then f
  else if (f.files.lookup path).isSome then
    { files := f.files.map fun file => if file.1 == path then (path, data) else file }
  else { files := f.files ++ [(path, data)] }

/-- Adds to the end of a file. -/
def append (f : Folder) (path t : Text) : Folder := f.put path (.text ((f.text? path).getD [] ++ t))

/-- Whether a directory is there: it has files, or it was there from the start. -/
def hasDirectory (f : Folder) (d : Directory) : Bool :=
  d.down.isEmpty || standardDirectories.contains d.path ||
    f.files.any fun file => (Text.after? (d.path ++ [.char '/']) file.1).isSome

/-- Walks the names of a path. -/
def walk (f : Folder) (d : Directory) : List Text → Except PathFault Place
  | [] => .ok .directory
  | name :: rest =>
    if name.isEmpty || name == Text.ofString "." then f.walk d rest
    else if name == Text.ofString ".." then f.walk d.parent rest
    else if maxNameSize < name.bytes.length then .error .nameTooLong
    else
      let here := d.enter name
      if f.hasDirectory here then f.walk here rest
      else match f.find? here.path, rest with
        | some _, [] => .ok (.file here.path)
        | some _, _ => .error .notADirectory
        | none, [] => .ok (.vacant here.path)
        | none, _ => .error .missing

/-- What a path leads to. -/
def locate (f : Folder) (path : Text) : Except PathFault Place :=
  if path.isEmpty then .error .missing
  else if maxPathSize < path.bytes.length then .error .nameTooLong
  else f.walk (Directory.startOf path) (Text.splitOn (.char '/') path)

/-- What has been opened: a directory, which has no text, or the text of a file. -/
inductive Opened where
  | directory
  | text (t : Text)
  deriving DecidableEq, Repr

/-- Opens what is there. -/
def openForReading (f : Folder) (path : Text) : Except PathFault Opened := do
  match ← f.locate path with
  | .directory => return .directory
  | .file name => return .text ((f.text? name).getD [])
  | .vacant _ => throw .missing

/-- The shortest path of a file that can be written to, which need not be there yet. A slash at the
end asks for a directory. -/
def openForAppending (f : Folder) (path : Text) : Except PathFault Text := do
  let bare : Text := (path.reverse.dropWhile (· == .char '/')).reverse
  match ← f.locate (if bare.isEmpty then path else bare) with
  | .directory => throw .isADirectory
  | .file name | .vacant name => if bare == path then return name else throw .isADirectory

end Folder
end Stockroom
