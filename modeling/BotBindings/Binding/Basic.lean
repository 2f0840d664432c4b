import BotBindings.Binding.Descriptor

namespace BotBindings

inductive Kind where
  | struct
  | marker
  | fileUpload
  deriving DecidableEq, Repr

def Kind.name : Kind → String
  | struct => "struct"
  | marker => "marker"
  | fileUpload => "file_upload"

def Kind.all : List Kind := [.struct, .marker, .fileUpload]

/-- How a value becomes a request parameter. -/
inductive Strategy where
  | direct
  | formatInt
  | formatFloat
  | formatBool
  | fileUpload
  | json
  deriving DecidableEq, Repr

def Strategy.name : Strategy → String
  | direct => "direct"
  | formatInt => "format_int"
  | formatFloat => "format_float"
  | formatBool => "format_bool"
  | fileUpload => "file_upload"
  | json => "json"

def Strategy.all : List Strategy :=
  [.direct, .formatInt, .formatFloat, .formatBool, .fileUpload, .json]

/-- Scalars have a text of their own, a single file is uploaded, and the rest is encoded. -/
def Strategy.ofDescriptor : Descriptor → Strategy
  | .scalar .string => .direct
  | .scalar .int64 => .formatInt
  | .scalar .float64 => .formatFloat
  | .scalar .bool => .formatBool
  | .object name => if name = uploadType then .fileUpload else .json
  | _ => .json

/-- What a caller may hand over for a parameter. -/
inductive Passing where
  | plain
  | replyMarkup
  | fileUpload
  deriving DecidableEq, Repr

def Passing.name : Passing → String
  | plain => "plain"
  | replyMarkup => "reply_markup"
  | fileUpload => "file_upload"

/-- The value that stands for a result on failure. -/
inductive Zero where
  | false
  | emptyString
  | zero
  | null
  deriving DecidableEq, Repr

def Zero.name : Zero → String
  | false => "false"
  | emptyString => "empty_string"
  | zero => "zero"
  | null => "null"

def Zero.ofDescriptor (d : Descriptor) : Zero :=
  match d.scalar? with
  | some .bool => .false
  | some .string => .emptyString
  | some .int64 | some .float64 => .zero
  | none => .null

/-- How a response is decoded: as it is, or by the helper of an element type. -/
inductive Decode where
  | generic (target : Descriptor)
  | arrayHelper (element : String)
  | arrayOfArrayHelper (element : String)
  deriving DecidableEq, Repr

/-- The type of a declared field; a field that refers to an object holds it indirectly. -/
structure FieldType where
  descriptor : Descriptor
  indirect : Bool
  deriving DecidableEq, Repr

structure DeclaredField where
  wireName : String
  bindingName : String
  descriptor : Descriptor
  indirect : Bool
  required : Bool
  description : Option String := none
  deriving DecidableEq, Repr

/-- The declaration of one type. -/
structure TypeBinding where
  name : String
  description : List String
  kind : Kind
  fields : List DeclaredField
  supertype : Option String := none
  replyMarkupVariant : Bool
  variantParent : Bool
  deriving DecidableEq, Repr

structure Parameter where
  wireName : String
  bindingName : String
  descriptor : Descriptor
  required : Bool
  strategy : Strategy
  passing : Passing
  description : String
  deriving DecidableEq, Repr

/-- Required parameters, and the name of the options that hold the others. -/
structure Signature where
  params : List Parameter := []
  optionsParam : Option String := none
  deriving DecidableEq, Repr

def Signature.isEmpty (s : Signature) : Bool := s.params.isEmpty && s.optionsParam.isNone

structure Options where
  name : String
  fields : List Parameter
  deriving DecidableEq, Repr

/-- Sends one parameter. A guarded statement runs only for a parameter that was supplied. -/
structure Statement where
  wireName : String
  source : String
  strategy : Strategy
  guarded : Bool
  deriving DecidableEq, Repr

def Statement.ofParameter (p : Parameter) : Statement :=
  ⟨p.wireName, p.bindingName, p.strategy, !p.required⟩

structure Return where
  descriptor : Descriptor
  zero : Zero
  decode : Decode
  deriving DecidableEq, Repr

structure MethodBinding where
  name : String
  description : List String
  signature : Signature
  options : Option Options := none
  requiredStatements : List Statement
  optionalStatements : Option (List Statement) := none
  returns : Return
  deriving DecidableEq, Repr

namespace MethodBinding

/-- The required parameters, then the optional ones. -/
def allParams (m : MethodBinding) : List Parameter :=
  m.signature.params ++ (m.options.map (·.fields)).getD []

def hasUpload (m : MethodBinding) : Bool :=
  m.allParams.any (·.strategy = .fileUpload)

end MethodBinding

/-- The revision of the schema that bindings were made from. -/
structure Metadata where
  version : Option String := none
  releaseDate : Option String := none
  changelog : Option String := none
  deriving DecidableEq, Repr

structure Bindings where
  metadata : Metadata := {}
  types : List TypeBinding := []
  methods : List MethodBinding := []
  arrayHelpers : List String := []
  arrayOfArrayHelpers : List String := []
  replyMarkupVariants : List String := []
  deriving DecidableEq, Repr

namespace Bindings

def isEmpty (b : Bindings) : Bool := b.types.isEmpty && b.methods.isEmpty

def variantParents (b : Bindings) : List TypeBinding := b.types.filter (·.variantParent)

def hasUpload (b : Bindings) : Bool := b.methods.any (·.hasUpload)

end Bindings

/-- The types that together make up a reply markup. -/
def markupVariants : List String :=
  ["InlineKeyboardMarkup", "ReplyKeyboardMarkup", "ReplyKeyboardRemove", "ForceReply"]

/-- The tokens name exactly the types of a reply markup, in any order and any number of times. -/
def isMarkupSet (tokens : List String) : Bool :=
  tokens.all markupVariants.contains && markupVariants.all tokens.contains

end BotBindings
