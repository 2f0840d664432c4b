import BotBindings.Code.Doc
import BotBindings.Crate.Reference

namespace BotBindings.Crate

open Code

def skipIfNone : Attribute :=
  ⟨"serde", ["default", "skip_serializing_if = \"Option::is_none\""]⟩

def skipIfEmpty : Attribute :=
  ⟨"serde", ["default", "skip_serializing_if = \"Vec::is_empty\""]⟩

/-- A field that may be absent is an option, or a list that may be empty. -/
def fieldDef (f : DeclaredField) : Except IdentFault FieldDef := do
  let ty ← f.descriptor.fieldTy f.indirect
  let (attributes, ty) :=
    if f.required then ([], ty)
    else if f.descriptor.isArray then ([skipIfEmpty], ty)
    else ([skipIfNone], ty.option)
  return {
    docs := (f.description.map fun d => docLines [d]).getD []
    attributes
    name := fieldIdent f.wireName
    type := ty }

/-- The declaration of a type. Files to upload are declared with the client. A union takes any part
of its fields, as each of its subtypes has only some of them. -/
def typeItems (t : TypeBinding) : Except IdentFault (List Item) := do
  if t.kind = .fileUpload then return []
  let name ← typeIdent t.name
  let fields ← t.fields.mapM fieldDef
  let derived : Attribute :=
    ⟨"derive", ["Debug", "Clone", "Default", "PartialEq", "Serialize", "Deserialize"]⟩
  return [.struct (docLines t.description)
    (derived :: if t.variantParent then [⟨"serde", ["default"]⟩] else []) name fields]

/-- `From` for one reply markup. -/
def markupConversion (variant : Ident) : Item :=
  .impl (some (.apply "From" (.named variant))) (.path "ReplyMarkup") [{
    name := ⟨false, "from"⟩
    args := [⟨⟨false, "markup"⟩, .named variant⟩]
    result := .path "Self"
    body := [.result (.call s!"Self::{variant.text}" [.word "markup"])] }]

/-- The sum of the reply markups, if there are any, and the conversions into it. -/
def markupItems (variants : List String) : Except IdentFault (List Item) := do
  if variants.isEmpty then return []
  let idents ← variants.mapM typeIdent
  return .sum [" Any of the reply markup types a message can carry."]
      [⟨"derive", ["Debug", "Clone", "PartialEq", "Serialize", "Deserialize"]⟩,
        ⟨"serde", ["untagged"]⟩]
      "ReplyMarkup" idents :: idents.map markupConversion

def jsonError : Ty := .path "serde_json::Error"

/-- The trait of a union, which turns each of its subtypes into it, with its implementations. -/
def variantItems (parent : String) (subtypes : List String) : Except IdentFault (List Item) := do
  let parentIdent ← typeIdent parent
  let traitIdent ← variantTraitIdent parent
  let method ← variantMethodIdent parent
  let impls ← subtypes.mapM fun s => do
    return Item.impl (some (.named traitIdent)) (.named (← typeIdent s)) []
  let convert : Fn := {
    docs := [docLine s!"Converts this value into the flattened [`{parent}`]."]
    name := method
    onSelf := true
    result := .result (.named parentIdent) jsonError
    body := [.result (.method (.call "serde_json::to_value" [.word "self"]) "and_then"
      [.word "serde_json::from_value"])] }
  return .trait [docLine s!"Implemented by every concrete variant of [`{parent}`]."] traitIdent
    "Serialize" [convert] :: impls

/-- A helper that decodes the result of a call. -/
def helperItem (doc : String) (name : Ident) (result : Ty) : Item :=
  .fn {
    docs := [docLine doc]
    qualifier := "pub fn "
    name
    args := [⟨⟨false, "value"⟩, .path "serde_json::Value"⟩]
    result := .result result jsonError
    body := [.result (.call "serde_json::from_value" [.word "value"])] }

def arrayHelper (element : String) : Except IdentFault Item := do
  let name ← arrayHelperIdent element
  let ty ← objectTy element
  return helperItem s!"Decodes an array of [`{element}`] from a call result." name ty.vec

def arrayOfArrayHelper (element : String) : Except IdentFault Item := do
  let name ← arrayOfArrayHelperIdent element
  let ty ← objectTy element
  return helperItem s!"Decodes an array of arrays of [`{element}`] from a call result." name
    ty.vec.vec

/-- Files to upload never come back, and have no helper. -/
def helperItems (arrays arraysOfArrays : List String) : Except IdentFault (List Item) := do
  let singles ← (arrays.filter (· ≠ uploadType)).mapM arrayHelper
  let doubles ← (arraysOfArrays.filter (· ≠ uploadType)).mapM arrayOfArrayHelper
  return singles ++ doubles

/-- The types that convert into a union. -/
def variantsOf (b : Bindings) (parent : String) : List String :=
  (b.types.filter (·.supertype = some parent)).map (·.name)

def typesModule (b : Bindings) : Except IdentFault (List Item) := do
  let declarations ← b.types.mapM typeItems
  let markup ← markupItems b.replyMarkupVariants
  let traits ← b.variantParents.mapM fun p => variantItems p.name (variantsOf b p.name)
  let helpers ← helperItems b.arrayHelpers b.arrayOfArrayHelpers
  return .innerDoc " Bot API object types." :: .useDecl "serde::\x7bDeserialize, Serialize\x7d" ::
    (declarations.flatten ++ markup ++ traits.flatten ++ helpers)

end BotBindings.Crate
