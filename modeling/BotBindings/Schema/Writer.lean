import BotBindings.Json.Value
import BotBindings.Schema.Document

namespace BotBindings.Schema

open Json

def Field.toJson (f : Field) : Value :=
  .object [("name", .string f.name), ("types", texts f.types), ("required", .bool f.required),
    ("description", .string f.description)]

def fieldsToJson (fs : List Field) : Value := .array (fs.map Field.toJson)

def TypeEntry.toJson (t : TypeEntry) : Value :=
  .object ([("name", .string t.name), ("description", texts t.description)] ++
    present "href" .string t.href ++ present "subtypes" texts t.subtypes ++
    present "subtype_of" texts t.subtypeOf ++ present "fields" fieldsToJson t.fields)

def MethodEntry.toJson (m : MethodEntry) : Value :=
  .object ([("name", .string m.name), ("description", texts m.description)] ++
    present "href" .string m.href ++ present "fields" fieldsToJson m.fields ++
    [("returns", texts m.returns)])

def Table.toJson {α : Type} (write : α → Value) (t : Table α) : Value :=
  .object (t.entries.map fun (k, a) => (k, write a))

def Document.toJson (d : Document) : Value :=
  .object (present "version" .string d.version ++
    present "release_date" .string d.releaseDate ++
    present "changelog" .string d.changelog ++
    [("types", d.types.toJson TypeEntry.toJson), ("methods", d.methods.toJson MethodEntry.toJson)])

/-- The document as compact JSON text. -/
def Document.text (d : Document) : String := String.ofList d.toJson.compact

end BotBindings.Schema
