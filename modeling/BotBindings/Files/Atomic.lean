import BotBindings.Files.Failure
import BotBindings.Files.Path

/-!
Writing a file so that its path never shows a part of the content: the content goes into a temporary
sibling, which then takes the path.
-/
namespace BotBindings

/-- What writing asks of a disk. -/
structure Disk (m : Type → Type) where
  makeDirs : (path : String) → m (Except FileError Unit)
  write : (path content : String) → m (Except FileError Unit)
  rename : (source target : String) → m (Except FileError Unit)

/-- The path at which writing failed, and why. -/
structure WriteFailure where
  path : String
  cause : FileError
  deriving DecidableEq, Repr

namespace WriteFailure

def message (f : WriteFailure) : String :=
  s!"Failed to write output file '{f.path}': {f.cause.message}"

def detail (f : WriteFailure) : String :=
  s!"WriteError \x7b path: {quoted f.path}, source: {f.cause.detail} \x7d"

end WriteFailure

variable {m : Type → Type} [Monad m]

/-- A step of the disk, which fails at `path` if it fails. -/
def Disk.attempt (path : String) (step : m (Except FileError Unit)) :
    m (Except WriteFailure Unit) := do
  match ← step with
  | .ok () => return .ok ()
  | .error e => return .error ⟨path, e⟩

/-- Makes the directory that a file needs. -/
def Disk.prepare (d : Disk m) (path : String) : m (Except WriteFailure Unit) :=
  match Path.parent? path with
  | none => return .ok ()
  | some dir => if dir = "" then return .ok () else Disk.attempt dir (d.makeDirs dir)

/-- Writes a file at once or not at all. A failure leaves behind what was made before it. -/
def Disk.writeAtomic (d : Disk m) (path content : String) : m (Except WriteFailure Unit) := do
  match ← d.prepare path with
  | .error f => return .error f
  | .ok () =>
    match ← Disk.attempt (Path.temporary path) (d.write (Path.temporary path) content) with
    | .error f => return .error f
    | .ok () => Disk.attempt path (d.rename (Path.temporary path) path)

end BotBindings
