import BotBindings.Text.Quoted

namespace BotBindings

inductive FileError where
  | notFound
  | denied
  | busy
  | alreadyThere
  | notDirectory
  | isDirectory
  | nameTooLong
  | nulInName
  | notUtf8
  | other (code : Nat) (text : String)
  deriving DecidableEq, Repr

namespace FileError

/-- The number and the words the system has for an error of its own. -/
def system? : FileError → Option (Nat × String)
  | notFound => some (2, "No such file or directory")
  | denied => some (13, "Permission denied")
  | busy => some (16, "Device or resource busy")
  | alreadyThere => some (17, "File exists")
  | notDirectory => some (20, "Not a directory")
  | isDirectory => some (21, "Is a directory")
  | nameTooLong => some (36, "File name too long")
  | nulInName | notUtf8 => none
  | other code text => some (code, text)

/-- The words for an error found before or after the system is asked. -/
def words : FileError → String
  | nulInName => "file name contained an unexpected NUL byte"
  | notUtf8 => "stream did not contain valid UTF-8"
  | _ => ""

def kind : FileError → String
  | notFound => "NotFound"
  | denied => "PermissionDenied"
  | busy => "ResourceBusy"
  | alreadyThere => "AlreadyExists"
  | notDirectory => "NotADirectory"
  | isDirectory => "IsADirectory"
  | nameTooLong => "InvalidFilename"
  | nulInName => "InvalidInput"
  | notUtf8 => "InvalidData"
  | other .. => "Uncategorized"

def message (e : FileError) : String :=
  match e.system? with
  | some (code, text) => s!"{text} (os error {code})"
  | none => e.words

/-- The error with its parts named. -/
def detail (e : FileError) : String :=
  match e.system? with
  | some (code, text) => s!"Os \x7b code: {code}, kind: {e.kind}, message: {quoted text} \x7d"
  | none => s!"Error \x7b kind: {e.kind}, message: {quoted e.words} \x7d"

end FileError

end BotBindings
