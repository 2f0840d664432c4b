import BotBindings.Binding.Token
import BotBindings.Text.Words

namespace BotBindings.Compile

open Schema (Field TypeEntry Table)

/-- Fields that are declared as numbers although they may also be given as text. -/
def integerOnly : List String := ["chat_id"]

/-- The first of the tokens that can be declared. All of them are resolved; files to upload and the
text form of a number are passed over. -/
def firstDeclarable (field : String) : List String → Compile (Option FieldType)
  | [] => return none
  | token :: rest => do
    let t ← resolveField token
    if t.descriptor.isUpload then
      tell (.skippedUpload field)
      firstDeclarable field rest
    else if integerOnly.contains field && t.descriptor = .scalar .string then
      firstDeclarable field rest
    else
      let _ ← firstDeclarable field rest
      return some t

def declarable (f : Field) : Compile (Option FieldType) := firstDeclarable f.name f.types

def declareField (f : Field) (keepDescription : Bool) : Compile (Option DeclaredField) := do
  match ← declarable f with
  | none => return none
  | some t => return some {
      wireName := f.name
      bindingName := upperCamel f.name
      descriptor := t.descriptor
      indirect := t.indirect
      required := f.required
      description := if keepDescription then some f.description else none }

/-- The fields of a type that can be declared, with their descriptions. -/
def declareFields : List Field → Compile (List DeclaredField)
  | [] => return []
  | f :: rest => do
    let declared ← declareField f true
    return declared.toList ++ (← declareFields rest)

/-- The fields whose names are not `seen`, and the names seen behind them. A name counts as seen
even if nothing of its field can be declared. -/
def declareUnseen : List String → List Field → Compile (List DeclaredField × List String)
  | seen, [] => return ([], seen)
  | seen, f :: rest => do
    if seen.contains f.name then declareUnseen seen rest
    else
      let declared ← declareField f false
      let (fields, seen) ← declareUnseen (f.name :: seen) rest
      return (declared.toList ++ fields, seen)

def flattenFrom (parent : String) (table : Table TypeEntry) :
    List String → List String → Compile (List DeclaredField)
  | _, [] => return []
  | seen, s :: rest => do
    noteParent s parent
    match table.get? s with
    | none => fault (.unknownSubtype parent s)
    | some t =>
      let (fields, seen) ← declareUnseen seen t.fieldList
      return fields ++ (← flattenFrom parent table seen rest)

/-- The fields of a union: those of its subtypes in turn, each name once. -/
def flatten (parent : String) (subtypes : List String) (table : Table TypeEntry) :
    Compile (List DeclaredField) := do
  let fields ← flattenFrom parent table [] subtypes
  tell (.flattened subtypes.length parent fields.length)
  return fields

/-- How a type is declared, and its fields. -/
def declareShape (t : TypeEntry) (table : Table TypeEntry) : Compile (Kind × List DeclaredField) := do
  if t.isUnion then return (.struct, ← flatten t.name t.subtypeList table)
  else if t.isMarker then return (if t.name = uploadType then .fileUpload else .marker, [])
  else return (.struct, ← declareFields t.fieldList)

def declareType (t : TypeEntry) (table : Table TypeEntry) : Compile TypeBinding := do
  let (kind, fields) ← declareShape t table
  let supertype := (← registry).parent? t.name
  tell (.resolvedType t.name kind fields.length)
  return {
    name := t.name
    description := t.description
    kind, fields, supertype
    replyMarkupVariant := markupVariants.contains t.name
    variantParent := t.isUnion }

end BotBindings.Compile
