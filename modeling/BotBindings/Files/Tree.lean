import BotBindings.Files.Failure
import BotBindings.Files.Path
import BotBindings.Text.Utf8

/-!
A tree of files and directories, and a working directory in it. An operation either fails, or
changes the one entry it names.
-/
namespace BotBindings

inductive Entry where
  | directory
  | file (content : List UInt8)
  deriving DecidableEq, Repr

/-- Entries stand under the names on the way to them. The root has no entry of its own. -/
structure Tree where
  entries : List (List String × Entry) := []
  home : List String := []

namespace Tree

def entry? (t : Tree) (place : List String) : Option Entry :=
  if place = [] then some .directory else t.entries.lookup place

def put (t : Tree) (place : List String) (e : Entry) : Tree :=
  { t with entries := t.entries.filter (·.1 ≠ place) ++ [(place, e)] }

def remove (t : Tree) (place : List String) : Tree :=
  { t with entries := t.entries.filter (·.1 ≠ place) }

def nameLimit : Nat := 255

/-- Goes on from a place by one name. -/
def enter (t : Tree) (place : List String) (name : String) : Except FileError (List String) :=
  if t.entry? place ≠ some .directory then .error .notDirectory
  else if name = "." then .ok place
  else if name = ".." then .ok place.dropLast
  else if nameLimit < name.utf8ByteSize then .error .nameTooLong
  else if (t.entry? (place ++ [name])).isNone then .error .notFound
  else .ok (place ++ [name])

def start (t : Tree) (p : String) : List String := if Path.isAbsolute p then [] else t.home

def find (t : Tree) (p : String) : Except FileError (List String) := do
  Path.check p
  let place ← (Path.names p).foldlM t.enter (t.start p)
  if Path.endsInSlash p && t.entry? place ≠ some .directory then .error .notDirectory
  return place

/-- Where a path would put an entry: a directory and a name in it. There is no name if the path can
only mean a directory. -/
structure Spot where
  directory : List String
  name? : Option String

def spot (t : Tree) (p : String) : Except FileError Spot := do
  Path.check p
  let names := Path.names p
  let directory ← names.dropLast.foldlM t.enter (t.start p)
  if t.entry? directory ≠ some .directory then .error .notDirectory
  match names.getLast? with
  | none => return ⟨directory, none⟩
  | some name =>
    if name = "." || name = ".." then return ⟨directory, none⟩
    if nameLimit < name.utf8ByteSize then .error .nameTooLong
    return ⟨directory, some name⟩

def isDirectory (t : Tree) (p : String) : Bool :=
  match t.find p with
  | .ok place => t.entry? place = some .directory
  | .error _ => false

def read (t : Tree) (p : String) : Except FileError (List UInt8) := do
  match t.entry? (← t.find p) with
  | some (.file content) => return content
  | _ => .error .isDirectory

def makeDir (t : Tree) (p : String) : Except FileError Tree := do
  match ← t.spot p with
  | ⟨_, none⟩ => .error .alreadyThere
  | ⟨dir, some name⟩ =>
    if (t.entry? (dir ++ [name])).isSome then .error .alreadyThere
    return t.put (dir ++ [name]) .directory

def write (t : Tree) (p : String) (content : List UInt8) : Except FileError Tree := do
  match ← t.spot p with
  | ⟨_, none⟩ => .error .isDirectory
  | ⟨dir, some name⟩ =>
    if Path.endsInSlash p || t.entry? (dir ++ [name]) = some .directory then .error .isDirectory
    return t.put (dir ++ [name]) (.file content)

/-- Gives the file `source` the path `target`, in place of a file that has it. -/
def rename (t : Tree) (source target : String) : Except FileError Tree := do
  match ← t.spot source, ← t.spot target with
  | ⟨dir, some name⟩, ⟨dir', some name'⟩ =>
    match t.entry? (dir ++ [name]) with
    | none => .error .notFound
    | some .directory => .error .isDirectory
    | some (.file content) =>
      if Path.endsInSlash source || Path.endsInSlash target then .error .notDirectory
      if t.entry? (dir' ++ [name']) = some .directory then .error .isDirectory
      return (t.remove (dir ++ [name])).put (dir' ++ [name']) (.file content)
  | _, _ => .error .busy

/-- Makes the directory with these names, the last one first, and those on the way to it. What has
been made stays also when a later one cannot be. -/
def makeDirsOf (root : String) : List String → Tree → Except FileError Unit × Tree
  | [], t => (.ok (), t)
  | name :: above, t =>
    let p := root ++ "/".intercalate (name :: above).reverse
    let settle := fun (e : FileError) (t : Tree) =>
      if e = .alreadyThere && t.isDirectory p then (Except.ok (), t) else (Except.error e, t)
    match t.makeDir p with
    | .ok t => (.ok (), t)
    | .error .notFound =>
      match makeDirsOf root above t with
      | (.error e, t) => (.error e, t)
      | (.ok (), t) =>
        match t.makeDir p with
        | .ok t => (.ok (), t)
        | .error e => settle e t
    | .error e => settle e t

def makeDirs (t : Tree) (p : String) : Except FileError Unit × Tree :=
  match Path.check p with
  | .error .notFound => (.ok (), t)
  | .error e => (.error e, t)
  | .ok () => makeDirsOf (if Path.isAbsolute p then "/" else "") (Path.names p).reverse t

/-- The entries below the working directory, with their paths from there. -/
def listing (t : Tree) : List (String × Entry) :=
  t.entries.filterMap fun (place, e) =>
    if place.length > t.home.length && place.take t.home.length = t.home then
      some ("/".intercalate (place.drop t.home.length), e)
    else none

end Tree

end BotBindings
