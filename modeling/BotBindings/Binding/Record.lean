import BotBindings.Binding.Basic
import BotBindings.Json.Value

namespace BotBindings

open Json

def Descriptor.toJson : Descriptor → Value
  | scalar kind => .object [("kind", .string "scalar"), ("of", .string kind.name)]
  | object name => .object [("kind", .string "object_ref"), ("of", .string name)]
  | array d => .object [("kind", .string "array"), ("of", d.toJson)]
  | arrayOfArray d => .object [("kind", .string "array_of_array"), ("of", d.toJson)]

def FieldType.toJson (t : FieldType) : Value :=
  .object [("descriptor", t.descriptor.toJson), ("indirect", .bool t.indirect)]

def DeclaredField.toJson (f : DeclaredField) : Value :=
  .object ([("wire_name", .string f.wireName), ("binding_name", .string f.bindingName),
    ("descriptor", f.descriptor.toJson), ("indirect", .bool f.indirect),
    ("required", .bool f.required)] ++ present "description" .string f.description)

def TypeBinding.toJson (t : TypeBinding) : Value :=
  .object ([("name", .string t.name), ("description", texts t.description),
    ("kind", .string t.kind.name), ("fields", .array (t.fields.map DeclaredField.toJson))] ++
    present "supertype" .string t.supertype ++
    [("reply_markup_variant", .bool t.replyMarkupVariant),
      ("variant_parent", .bool t.variantParent)])

/-- An empty description is left out. -/
def Parameter.toJson (p : Parameter) : Value :=
  .object ([("wire_name", .string p.wireName), ("binding_name", .string p.bindingName),
    ("descriptor", p.descriptor.toJson), ("required", .bool p.required),
    ("strategy", .string p.strategy.name), ("param_type", .string p.passing.name)] ++
    if p.description = "" then [] else [("description", .string p.description)])

def Signature.toJson (s : Signature) : Value :=
  .object (("params", .array (s.params.map Parameter.toJson)) ::
    present "options_param" .string s.optionsParam)

def Options.toJson (o : Options) : Value :=
  .object [("name", .string o.name), ("fields", .array (o.fields.map Parameter.toJson))]

def Statement.toJson (s : Statement) : Value :=
  .object [("wire_name", .string s.wireName), ("source", .string s.source),
    ("strategy", .string s.strategy.name), ("guarded", .bool s.guarded)]

def statementsToJson (ss : List Statement) : Value := .array (ss.map Statement.toJson)

def Decode.toJson : Decode → Value
  | generic d => .object [("path", .string "generic"), ("target", d.toJson)]
  | arrayHelper e => .object [("path", .string "array_helper"), ("target", .string e)]
  | arrayOfArrayHelper e =>
    .object [("path", .string "array_of_array_helper"), ("target", .string e)]

def Return.toJson (r : Return) : Value :=
  .object [("descriptor", r.descriptor.toJson), ("zero_value", .string r.zero.name),
    ("decode", r.decode.toJson)]

def MethodBinding.toJson (m : MethodBinding) : Value :=
  .object ([("name", .string m.name), ("description", texts m.description),
    ("signature", m.signature.toJson)] ++ present "options" Options.toJson m.options ++
    [("required_statements", statementsToJson m.requiredStatements)] ++
    present "optional_statements" statementsToJson m.optionalStatements ++
    [("returns", m.returns.toJson)])

def Metadata.toJson (m : Metadata) : Value :=
  .object (present "version" .string m.version ++ present "release_date" .string m.releaseDate ++
    present "changelog" .string m.changelog)

def Bindings.toJson (b : Bindings) : Value :=
  .object [("metadata", b.metadata.toJson), ("types", .array (b.types.map TypeBinding.toJson)),
    ("methods", .array (b.methods.map MethodBinding.toJson)),
    ("array_helpers", texts b.arrayHelpers),
    ("array_of_array_helpers", texts b.arrayOfArrayHelpers),
    ("reply_markup_variants", texts b.replyMarkupVariants)]

/-- The records as indented JSON text. -/
def Bindings.records (b : Bindings) : String := String.ofList b.toJson.pretty

end BotBindings
