import BotBindings.Text.Front

namespace BotBindings

inductive Scalar where
  | string
  | int64
  | float64
  | bool
  deriving DecidableEq, Repr

namespace Scalar

def name : Scalar → String
  | string => "string"
  | int64 => "int64"
  | float64 => "float64"
  | bool => "bool"

/-- The scalar a schema means by a name. -/
def ofToken? (token : String) : Option Scalar :=
  if token = "String" then some string
  else if token = "Integer" then some int64
  else if token = "Float" || token = "Float number" then some float64
  else if token = "Boolean" || token = "True" then some bool
  else none

end Scalar

/-- What a type token of a schema stands for. Lists of lists are a form of their own, not a list in
a list. -/
inductive Descriptor where
  | scalar (kind : Scalar)
  | object (name : String)
  | array (element : Descriptor)
  | arrayOfArray (element : Descriptor)
  deriving DecidableEq, Repr

/-- The type whose values are files to upload. -/
def uploadType : String := "InputFile"

namespace Descriptor

/-- What the lists of a descriptor hold. -/
def element : Descriptor → Descriptor
  | array d | arrayOfArray d => d.element
  | d => d

def elementObject? (d : Descriptor) : Option String :=
  match d.element with
  | object name => some name
  | _ => none

def scalar? : Descriptor → Option Scalar
  | scalar kind => some kind
  | _ => none

def isObject : Descriptor → Bool
  | object _ => true
  | _ => false

def isArray : Descriptor → Bool
  | array _ | arrayOfArray _ => true
  | _ => false

/-- Values are files to upload, or lists of them. -/
def isUpload (d : Descriptor) : Bool := d.elementObject? == some uploadType

/-- A name alone: a scalar, else an object if it is known. -/
def ofName? (known : String → Bool) (name : String) : Option Descriptor :=
  match Scalar.ofToken? name with
  | some kind => some (.scalar kind)
  | none => if known name then some (.object name) else none

/-- A token is a name, or a name behind one or two of the words `Array of`. The longer beginning
goes first. -/
def ofToken? (known : String → Bool) (token : String) : Option Descriptor :=
  match Text.behind? "Array of Array of ".toList token.toList with
  | some rest => (ofName? known (String.ofList rest)).map arrayOfArray
  | none =>
    match Text.behind? "Array of ".toList token.toList with
    | some rest => (ofName? known (String.ofList rest)).map array
    | none => ofName? known token

end Descriptor

end BotBindings
