import BotBindings.Files.Failure
import BotBindings.Text.Blank

/-!
Paths as text: names between slashes. Repeated slashes, slashes at the end, and names `.` behind the
first place mean nothing.
-/
namespace BotBindings.Path

/-- Drops what means nothing at the end of a path; the text runs backwards. -/
def dropIdle : List Char → List Char
  | '/' :: cs => dropIdle cs
  | '.' :: '/' :: cs => dropIdle ('/' :: cs)
  | cs => cs

def backwards (p : String) : List Char := dropIdle p.toList.reverse

def sizeLimit : Nat := 4096

/-- Whether a path can be looked up at all. -/
def check (p : String) : Except FileError Unit :=
  if p.toList.contains '\x00' then .error .nulInName
  else if p = "" then .error .notFound
  else if sizeLimit ≤ p.utf8ByteSize then .error .nameTooLong
  else .ok ()

def endsInSlash (p : String) : Bool := p.toList.getLast? = some '/'

def isAbsolute (p : String) : Bool := p.toList.head? = some '/'

/-- The path without its last name. The root and the empty path have none. -/
def parent? (p : String) : Option String :=
  match backwards p with
  | [] => none
  | cs =>
    let up := dropIdle (cs.dropWhile (· ≠ '/'))
    some (if up.isEmpty && isAbsolute p then "/" else String.ofList up.reverse)

/-- The last name of a path, unless it is one that only points to a directory. -/
def fileName? (p : String) : Option String :=
  let name := String.ofList ((backwards p).takeWhile (· ≠ '/')).reverse
  if name = "" || name = "." || name = ".." then none else some name

/-- A file name up to its last dot; a dot in front is part of the name. -/
def stem (name : List Char) : List Char :=
  match name.reverse.dropWhile (· ≠ '.') with
  | '.' :: c :: cs => (c :: cs).reverse
  | _ => name

/-- The path with `tmp` for the extension of its file name. -/
def temporary (p : String) : String :=
  match fileName? p with
  | none => p
  | some name =>
    let front := ((backwards p).dropWhile (· ≠ '/')).reverse
    String.ofList (front ++ stem name.toList) ++ ".tmp"

/-- The path of a name in the directory `dir`. -/
def inside (dir name : String) : String :=
  if dir = "" || endsInSlash dir then dir ++ name else dir ++ "/" ++ name

/-- The names of a path in their order. -/
def names (p : String) : List String :=
  ((Text.pieces '/' p.toList).map String.ofList).filter (· ≠ "")

end BotBindings.Path
