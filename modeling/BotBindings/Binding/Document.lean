import BotBindings.Binding.Declaration
import BotBindings.Binding.Method
import BotBindings.Schema.Check

namespace BotBindings.Compile

open Schema (Document TypeEntry MethodEntry Table)

def checked (d : Document) : Compile Unit := do
  match d.check with
  | .ok () => tell (.validated d.types.size d.methods.size)
  | .error f => fault f

def noteSubtypes (parent : String) : List String → Compile Unit
  | [] => return
  | s :: rest => do
    noteParent s parent
    noteSubtypes parent rest

/-- Registers all subtypes, so that no type depends on where its parent stands. -/
def noteParents : List TypeEntry → Compile Unit
  | [] => return
  | t :: rest => do
    noteSubtypes t.name t.subtypeList
    noteParents rest

def declareTypes (table : Table TypeEntry) : List TypeEntry → Compile (List TypeBinding)
  | [] => return []
  | t :: rest => do
    let b ← declareType t table
    return b :: (← declareTypes table rest)

def bindMethods : List MethodEntry → Compile (List MethodBinding)
  | [] => return []
  | m :: rest => do
    let b ← bindMethod m
    return b :: (← bindMethods rest)

/-- The bindings of a document that has been checked. -/
def bindChecked (d : Document) : Compile Bindings := do
  modify fun s => { s with registry := .ofDocument d }
  noteParents d.types.values
  let types ← declareTypes d.types d.types.values
  let methods ← bindMethods d.methods.values
  let r ← registry
  return {
    metadata := ⟨d.version, d.releaseDate, d.changelog⟩
    types, methods
    arrayHelpers := r.arrays.names
    arrayOfArrayHelpers := r.arraysOfArrays.names
    replyMarkupVariants := markupVariants.filter d.types.has }

/-- Without a document there is nothing to bind. -/
def bind (document : Option Document) : Compile Bindings := do
  match document with
  | none =>
    tell .noSchema
    return {}
  | some d =>
    checked d
    let b ← bindChecked d
    tell (.compiled b.types.length b.methods.length b.arrayHelpers.length
      b.arrayOfArrayHelpers.length)
    return b

end BotBindings.Compile

namespace BotBindings

/-- The bindings of a document, or why it has none, with the events on the way. -/
def Bindings.ofDocument (document : Option Schema.Document) :
    Except BindError Bindings × List Event :=
  let (result, session) := (Compile.bind document).run.run {}
  (result, session.events)

end BotBindings
