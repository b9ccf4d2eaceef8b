import Conveyor.Dict
import Conveyor.Message
import Conveyor.Path

/-!
# File systems

A file system is a tree of directories. A directory lies at a place, which is given by the names on
the way to it from the root, and says of each name in it whether it stands for a file or for a
directory. Files are reached by paths, all of which begin at the root.
-/

namespace Conveyor

/-- What a name in a directory stands for. -/
inductive FileEntry
  | file (content : Bytes)
  | directory
deriving DecidableEq, Inhabited

/-- Where a directory lies: the names on the way to it from the root. -/
abbrev Place := List String

/-- Why the file system refuses an operation. -/
inductive FileError
  | notFound
  | alreadyExists
  | other
deriving DecidableEq, Inhabited

/-- A tree of directories. -/
structure FileSystem where
  /-- What is in the directory at a place, if there is one. -/
  directory? : Place → Option (Dict FileEntry)

namespace FileSystem

def empty : FileSystem := ⟨fun place => if place = [] then some .empty else none⟩

instance : Inhabited FileSystem := ⟨empty⟩

def put (fs : FileSystem) (place : Place) (entries : Dict FileEntry) : FileSystem :=
  ⟨fun other => if other = place then some entries else fs.directory? other⟩

def entries (fs : FileSystem) (place : Place) : Except FileError (Dict FileEntry) :=
  match fs.directory? place with
  | some entries => .ok entries
  | none         => .error .notFound

/-! ### Finding the way -/

def longestName : Nat := 255

/-- What a name stands for in a directory, if anything. -/
def lookUp (fs : FileSystem) (place : Place) (name : String) :
    Except FileError (Option FileEntry) := do
  let entries ← fs.entries place
  if longestName < name.utf8ByteSize then throw .other
  return entries.get? name

def stepInto (fs : FileSystem) (place : Place) : PathStep → Except FileError Place
  | .root      => return []
  | .here      => return place
  | .parent    => return place.dropLast
  | .name name => do
    match ← fs.lookUp place name with
    | some .directory => return place ++ [name]
    | some (.file _)  => throw .other
    | none            => throw .notFound

/-- The directory that a path leads to before its last step, and the name that it ends with. A path
with a null character is refused as a whole, and so is one that does not end with a name. -/
def locate (fs : FileSystem) (path : String) : Except FileError (Place × String) := do
  if path.toList.contains '\x00' then throw .other
  match (pathSteps path).reverse with
  | .name name :: way => return (← way.reverse.foldlM fs.stepInto [], name)
  | _                 => throw .other

/-! ### Files -/

def read (fs : FileSystem) (path : String) : Except FileError Bytes := do
  let (place, name) ← fs.locate path
  match ← fs.lookUp place name with
  | some (.file content) => return content
  | some .directory      => throw .other
  | none                 => throw .notFound

def bind (fs : FileSystem) (place : Place) (name : String) (entry : FileEntry) : FileSystem :=
  match fs.directory? place with
  | some entries => fs.put place (entries.insert name entry)
  | none         => fs

def unbind (fs : FileSystem) (place : Place) (name : String) : FileSystem :=
  match fs.directory? place with
  | some entries => fs.put place (entries.erase name)
  | none         => fs

def write (fs : FileSystem) (path : String) (content : Bytes) : Except FileError FileSystem := do
  let (place, name) ← fs.locate path
  match ← fs.lookUp place name with
  | some .directory => throw .other
  | _               => return fs.bind place name (.file content)

def create (fs : FileSystem) (path : String) (content : Bytes) : Except FileError FileSystem := do
  let (place, name) ← fs.locate path
  match ← fs.lookUp place name with
  | some _ => throw .alreadyExists
  | none   => return fs.bind place name (.file content)

def remove (fs : FileSystem) (path : String) : Except FileError FileSystem := do
  let (place, name) ← fs.locate path
  match ← fs.lookUp place name with
  | some (.file _)  => return fs.unbind place name
  | some .directory => throw .other
  | none            => throw .notFound

/-! ### Directories -/

/-- Go the way of these steps from a directory and make the directories that are missing. The flag
says whether the end was reached. -/
def makeWay (fs : FileSystem) (place : Place) : List PathStep → Bool × FileSystem
  | [] => (true, fs)
  | step :: later =>
    match fs.stepInto place step, step with
    | .ok place, _ => makeWay fs place later
    | .error .notFound, .name name =>
      makeWay ((fs.bind place name .directory).put (place ++ [name]) .empty) (place ++ [name]) later
    | .error _, _ => (false, fs)

/-- Make a directory, and those on the way to it; the flag says whether it is there afterwards. -/
def makeDirectories (fs : FileSystem) (path : String) : Bool × FileSystem :=
  if path.toList.contains '\x00' then (false, fs) else fs.makeWay [] (pathSteps path)

end FileSystem

end Conveyor
