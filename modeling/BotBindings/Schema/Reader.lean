import BotBindings.Json.Record
import BotBindings.Schema.Document

/-!
Reading a schema document from JSON text. Members that are not required have a value of their own
when they are absent; `null` counts as absent only where nothing is a value.
-/
namespace BotBindings.Schema

open Json

structure FieldDraft where
  name : Option String := none
  types : Option (List String) := none
  required : Option Bool := none
  description : Option String := none

def fieldShape : Shape FieldDraft Field where
  title := "SchemaField"
  members := [
    .of "name" (·.name) (fun v d => { d with name := some v }) readString,
    .of "types" (·.types) (fun v d => { d with types := some v }) (readList readString),
    .of "required" (·.required) (fun v d => { d with required := some v }) readBool,
    .of "description" (·.description) (fun v d => { d with description := some v }) readString]
  blank := {}
  finish d := do
    let name ← demand "name" d.name
    let types ← demand "types" d.types
    return {
      name, types
      required := d.required.getD false
      description := d.description.getD "" }

structure TypeDraft where
  name : Option String := none
  description : Option (List String) := none
  href : Option (Option String) := none
  subtypes : Option (Option (List String)) := none
  subtypeOf : Option (Option (List String)) := none
  fields : Option (Option (List Field)) := none

def typeShape : Shape TypeDraft TypeEntry where
  title := "SchemaType"
  members := [
    .of "name" (·.name) (fun v d => { d with name := some v }) readString,
    .of "description" (·.description) (fun v d => { d with description := some v })
      (readList readString),
    .of "href" (·.href) (fun v d => { d with href := some v }) (readOption readString),
    .of "subtypes" (·.subtypes) (fun v d => { d with subtypes := some v })
      (readOption (readList readString)),
    .of "subtype_of" (·.subtypeOf) (fun v d => { d with subtypeOf := some v })
      (readOption (readList readString)),
    .of "fields" (·.fields) (fun v d => { d with fields := some v })
      (readOption (readList (readRecord fieldShape)))]
  blank := {}
  finish d := do
    let name ← demand "name" d.name
    return {
      name
      description := d.description.getD []
      href := d.href.getD none
      subtypes := d.subtypes.getD none
      subtypeOf := d.subtypeOf.getD none
      fields := d.fields.getD none }

structure MethodDraft where
  name : Option String := none
  description : Option (List String) := none
  href : Option (Option String) := none
  fields : Option (Option (List Field)) := none
  returns : Option (List String) := none

def methodShape : Shape MethodDraft MethodEntry where
  title := "SchemaMethod"
  members := [
    .of "name" (·.name) (fun v d => { d with name := some v }) readString,
    .of "description" (·.description) (fun v d => { d with description := some v })
      (readList readString),
    .of "href" (·.href) (fun v d => { d with href := some v }) (readOption readString),
    .of "fields" (·.fields) (fun v d => { d with fields := some v })
      (readOption (readList (readRecord fieldShape))),
    .of "returns" (·.returns) (fun v d => { d with returns := some v }) (readList readString)]
  blank := {}
  finish d := do
    let name ← demand "name" d.name
    let returns ← demand "returns" d.returns
    return {
      name
      description := d.description.getD []
      href := d.href.getD none
      fields := d.fields.getD none
      returns }

structure DocumentDraft where
  version : Option (Option String) := none
  releaseDate : Option (Option String) := none
  changelog : Option (Option String) := none
  types : Option (List (String × TypeEntry)) := none
  methods : Option (List (String × MethodEntry)) := none

def documentShape : Shape DocumentDraft Document where
  title := "SchemaDocument"
  members := [
    .of "version" (·.version) (fun v d => { d with version := some v }) (readOption readString),
    .of "release_date" (·.releaseDate) (fun v d => { d with releaseDate := some v })
      (readOption readString),
    .of "changelog" (·.changelog) (fun v d => { d with changelog := some v })
      (readOption readString),
    .of "types" (·.types) (fun v d => { d with types := some v })
      (readMap (readRecord typeShape)),
    .of "methods" (·.methods) (fun v d => { d with methods := some v })
      (readMap (readRecord methodShape))]
  blank := {}
  finish d := .ok {
    version := d.version.getD none
    releaseDate := d.releaseDate.getD none
    changelog := d.changelog.getD none
    types := .ofList (d.types.getD [])
    methods := .ofList (d.methods.getD []) }

def readDocument : Reader Document := readRecord documentShape

/-- The document that a text holds. -/
def Document.parse (text : String) : Except ReadError Document := readAll readDocument text

/-- A single field, for those who are handed one outside a document. -/
def Field.parse (text : String) : Except ReadError Field := readAll (readRecord fieldShape) text

end BotBindings.Schema
