import BotBindings.NameSet
import BotBindings.Event
import BotBindings.Schema.Document
import BotBindings.Schema.Fault

/-!
The registry that grows while bindings are made: which names are known, which objects occur in
lists, and which type is whose subtype. A session keeps it together with the events so far; both
outlive an error.
-/
namespace BotBindings

structure Registry where
  known : NameSet := .empty
  arrays : NameSet := .empty
  arraysOfArrays : NameSet := .empty
  parents : List (String × String) := []

namespace Registry

def ofNames (names : List String) : Registry := { known := .ofList names }

def ofDocument (d : Schema.Document) : Registry := ofNames d.types.keys

def parent? (r : Registry) (subtype : String) : Option String := r.parents.lookup subtype

/-- A type has one parent; naming it again changes nothing. -/
def addParent (r : Registry) (subtype parent : String) : Except Fault Registry :=
  match r.parent? subtype with
  | some first => if first = parent then .ok r else .error (.twoParents subtype first parent)
  | none => .ok { r with parents := r.parents ++ [(subtype, parent)] }

end Registry

/-- A registry and the events so far, last one first. -/
structure Session where
  registry : Registry := {}
  log : List Event := []

def Session.events (s : Session) : List Event := s.log.reverse

abbrev Compile := ExceptT BindError (StateM Session)

namespace Compile

def tell (e : Event) : Compile Unit := modify fun s => { s with log := e :: s.log }

def registry : Compile Registry := return (← get).registry

def fault {α : Type} (f : Fault) : Compile α := throw (.violation f)

/-- Notes that lists of this object occur. -/
def noteArray (name : String) : Compile Unit := do
  if !(← registry).arrays.has name then
    modify fun s => { s with registry.arrays := s.registry.arrays.insert name }
    tell (.arrayElement name)

/-- Notes that lists of lists of this object occur. -/
def noteArrayOfArray (name : String) : Compile Unit := do
  if !(← registry).arraysOfArrays.has name then
    modify fun s => { s with registry.arraysOfArrays := s.registry.arraysOfArrays.insert name }
    tell (.arrayOfArrayElement name)

def noteParent (subtype parent : String) : Compile Unit := do
  match (← registry).addParent subtype parent with
  | .ok r => modify fun s => { s with registry := r }
  | .error f => fault f

end Compile

end BotBindings
