import BotBindings.Command.Settings
import BotBindings.Fetch.Url

/-!
Reading the arguments of the command line. The value of an option may stand behind it; it is looked
at when the next option, or the end, shows that it is complete.
-/
namespace BotBindings

/-- What the user got wrong. -/
inductive Misuse where
  | unexpectedArgument (argument : String)
  | unexpectedValue (value : String) (key : Key)
  | missingValue (key : Key)
  | badValue (value : String) (key : Key)
  | repeated (key : Key)
  deriving DecidableEq, Repr

def Misuse.message : Misuse → String
  | unexpectedArgument a => s!"unexpected argument '{a}' found"
  | unexpectedValue v k => s!"unexpected value '{v}' for '{k.shown}' found; no more were expected"
  | missingValue k => s!"a value is required for '{k.shown}' but none was supplied"
  | badValue v k => s!"invalid value '{v}' for '{k.shown}'"
  | repeated k => s!"the argument '{k.shown}' cannot be used multiple times"

/-- What ends the reading of arguments at once. -/
inductive Stop where
  | help (full : Bool)
  | version
  | misuse (fault : Misuse)
  deriving DecidableEq, Repr

/-- An option that waits for its value, or for the end of it. -/
structure Pending where
  key : Key
  value? : Option String := none
  deriving DecidableEq, Repr

/-- Arguments read so far. Behind a lone `--` no argument is an option. -/
structure Arguments where
  settings : Settings := {}
  given : List Key := []
  pending? : Option Pending := none
  closed : Bool := false
  deriving DecidableEq, Repr

namespace Arguments

def fail {α : Type} (fault : Misuse) : Except Stop α := .error (.misuse fault)

/-- Notes an option that may be given once. -/
def once (a : Arguments) (k : Key) : Except Stop Arguments :=
  if a.given.contains k then fail (.repeated k) else .ok { a with given := k :: a.given }

def formatOf (value : String) : Except Stop Format :=
  match Format.all.find? (·.name = value) with
  | some f => .ok f
  | none => if value = "" then fail (.missingValue .format) else fail (.badValue value .format)

def setValue (s : Settings) (k : Key) (value : String) : Except Stop Settings :=
  match k with
  | .source => .ok { s with source := value }
  | .output => if value = "" then fail (.missingValue .output) else .ok { s with output := value }
  | .format => (formatOf value).map fun f => { s with format := f }
  | _ => .ok s

def take (a : Arguments) (k : Key) (value : String) : Except Stop Arguments := do
  let a ← a.once k
  return { a with settings := ← setValue a.settings k value }

/-- Gives the pending option its value. -/
def settle (a : Arguments) : Except Stop Arguments :=
  match a.pending? with
  | none => .ok a
  | some ⟨k, none⟩ => fail (.missingValue k)
  | some ⟨k, some value⟩ => { a with pending? := none }.take k value

def verbosityLimit : Nat := 255

/-- An option without a value. -/
def flag (a : Arguments) (k : Key) (full : Bool) : Except Stop Arguments := do
  let a ← a.settle
  match k with
  | .help => .error (.help full)
  | .version => .error .version
  | .verbose =>
    let n := min verbosityLimit (a.settings.verbosity + 1)
    return { a with settings := { a.settings with verbosity := n } }
  | .dryRun =>
    let a ← a.once k
    return { a with settings := { a.settings with dryRun := true } }
  | .strict =>
    let a ← a.once k
    return { a with settings := { a.settings with strict := true } }
  | .jsonLogs =>
    let a ← a.once k
    return { a with settings := { a.settings with jsonLogs := true } }
  | .source | .output | .format => return a

/-- An option with a value, which may be attached to it. -/
def option (a : Arguments) (k : Key) (attached? : Option String) : Except Stop Arguments := do
  let a ← a.settle
  match attached? with
  | some value => a.take k value
  | none => return { a with pending? := some { key := k } }

def readLong (a : Arguments) (cs : List Char) : Except Stop Arguments :=
  let (name, attached?) := Fetch.Url.cut '=' cs
  let attached? := attached?.map String.ofList
  match Key.ofLong? (String.ofList name) with
  | none => fail (.unexpectedArgument ("--" ++ String.ofList name))
  | some k =>
    if k.value?.isSome then a.option k attached?
    else
      match attached? with
      | some value => fail (.unexpectedValue value k)
      | none => a.flag k true

/-- Short options may stand together; the rest behind one that takes a value is its value. -/
def readShort (a : Arguments) : List Char → Except Stop Arguments
  | [] => .ok a
  | c :: cs =>
    match Key.ofShort? c with
    | none => fail (.unexpectedArgument (String.ofList ['-', c]))
    | some k =>
      if k.value?.isSome then
        match cs with
        | [] => a.option k none
        | '=' :: value => a.option k (some (String.ofList value))
        | value => a.option k (some (String.ofList value))
      else do readShort (← a.flag k false) cs

def readOne (a : Arguments) (argument : String) : Except Stop Arguments :=
  if a.closed then fail (.unexpectedArgument argument)
  else
    match argument.toList, a.pending? with
    | ['-', '-'], _ => .ok { a with closed := true }
    | '-' :: '-' :: cs, _ => a.readLong cs
    | '-' :: c :: cs, _ => a.readShort (c :: cs)
    | _, some ⟨k, none⟩ => .ok { a with pending? := some ⟨k, some argument⟩ }
    | _, _ => fail (.unexpectedArgument argument)

/-- The settings that arguments ask for. -/
def read (arguments : List String) : Except Stop Settings := do
  let a ← arguments.foldlM readOne {}
  return (← a.settle).settings

end Arguments

end BotBindings
