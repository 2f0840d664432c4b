import BotBindings.Schema.Document
import BotBindings.Schema.Fault

namespace BotBindings.Schema

/-- The first field of `owner` that lists no type. -/
def checkFields (owner : String) (fields : List Field) : Except Fault Unit :=
  match fields.find? (·.types.isEmpty) with
  | some f => .error (.fieldWithoutTypes owner f.name)
  | none => .ok ()

/-- The subtypes of one parent. `claimed` holds each subtype met so far with its latest parent. -/
def checkSubtypes (table : Table TypeEntry) (parent : String) :
    List (String × String) → List String → Except Fault (List (String × String))
  | claimed, [] => .ok claimed
  | claimed, s :: rest =>
    if !table.has s then .error (.unknownSubtype parent s)
    else
      match claimed.lookup s with
      | some first =>
        if first = parent then checkSubtypes table parent claimed rest
        else .error (.twoParents s first parent)
      | none => checkSubtypes table parent ((s, parent) :: claimed) rest

def checkTypes (table : Table TypeEntry) :
    List (String × String) → List TypeEntry → Except Fault Unit
  | _, [] => .ok ()
  | claimed, t :: rest => do
    checkFields t.name t.fieldList
    checkTypes table (← checkSubtypes table t.name claimed t.subtypeList) rest

def checkMethods : List MethodEntry → Except Fault Unit
  | [] => .ok ()
  | m :: rest => do
    checkFields m.name m.fieldList
    if m.returns.isEmpty then throw (.noReturn m.name)
    checkMethods rest

/-- The first fault, types before methods and each in the order of the document. -/
def Document.check (d : Document) : Except Fault Unit := do
  checkTypes d.types [] d.types.values
  checkMethods d.methods.values

end BotBindings.Schema
