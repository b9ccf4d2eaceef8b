import Conveyor.Failure
import Conveyor.FileSystem

/-!
# File caches

A cache that keeps each value in a file of its own, which lies in one directory and has the key as
its name. Keys that are more or less than a name are refused before the file system is touched.
-/

namespace Conveyor

def FileError.toCacheError : FileError → CacheError
  | .notFound      => .storage "not found"
  | .alreadyExists => .storage "already exists"
  | .other         => .storage "refused"

/-- A cache that keeps its values in the files of a directory. -/
structure FileCache where
  directory : String
deriving DecidableEq, Inhabited

namespace FileCache

/-- The path of the file for a key. The only step of the key must be to the name that the key is. -/
def pathOf (c : FileCache) (key : String) : Except CacheError String :=
  if pathSteps key = [.name key] then .ok (joinPath c.directory key) else .error (.invalidKey key)

def get (c : FileCache) (fs : FileSystem) (key : String) : Except CacheError Bytes := do
  match fs.read (← c.pathOf key) with
  | .ok content      => return content
  | .error .notFound => throw .keyNotFound
  | .error e         => throw e.toCacheError

def set (c : FileCache) (fs : FileSystem) (key : String) (value : Bytes) :
    Except CacheError FileSystem := do
  match fs.write (← c.pathOf key) value with
  | .ok fs   => return fs
  | .error e => throw e.toCacheError

def add (c : FileCache) (fs : FileSystem) (key : String) (value : Bytes) :
    Except CacheError FileSystem := do
  match fs.create (← c.pathOf key) value with
  | .ok fs                => return fs
  | .error .alreadyExists => throw .keyAlreadyExists
  | .error e              => throw e.toCacheError

def delete (c : FileCache) (fs : FileSystem) (key : String) : Except CacheError FileSystem := do
  match fs.remove (← c.pathOf key) with
  | .ok fs           => return fs
  | .error .notFound => return fs
  | .error e         => throw e.toCacheError

/-- Write values one after the other, up to the first that fails. -/
def setAll (c : FileCache) (fs : FileSystem) :
    List (String × Bytes) → Except CacheError Unit × FileSystem
  | [] => (.ok (), fs)
  | (key, value) :: rest =>
    match c.set fs key value with
    | .ok fs   => setAll c fs rest
    | .error e => (.error e, fs)

def setMulti (c : FileCache) (fs : FileSystem) (values : Dict Bytes) :
    Except CacheError Unit × FileSystem :=
  c.setAll fs values.toList

end FileCache

end Conveyor
