import BotBindings.Binding.Basic
import BotBindings.Code.Tree

namespace BotBindings

open Code (Ty Ident IdentFault typeIdent)

def Scalar.ty : Scalar → Ty
  | string => .path "String"
  | int64 => .path "i64"
  | float64 => .path "f64"
  | bool => .path "bool"

def Code.Ty.vec (t : Ty) : Ty := .apply "Vec" t

def Code.Ty.option (t : Ty) : Ty := .apply "Option" t

def Code.Ty.boxed (t : Ty) : Ty := .apply "Box" t

/-- The object name of a type, checked. -/
def objectTy (name : String) : Except IdentFault Ty := (typeIdent name).map .named

def Descriptor.ty : Descriptor → Except IdentFault Ty
  | scalar kind => .ok kind.ty
  | object name => objectTy name
  | array d => d.ty.map .vec
  | arrayOfArray d => d.ty.map fun t => t.vec.vec

/-- The type of a declared field. What is held indirectly is boxed. -/
def Descriptor.fieldTy (d : Descriptor) (indirect : Bool) : Except IdentFault Ty :=
  if indirect then d.ty.map .boxed else d.ty

/-- The type of a required parameter. Scalars other than text are passed by value. -/
def paramTy (passing : Passing) (d : Descriptor) : Except IdentFault Ty :=
  match passing with
  | .fileUpload => .ok (.ref (.path "InputFile"))
  | .replyMarkup => .ok (.ref (.path "ReplyMarkup"))
  | .plain =>
    match d with
    | .scalar .string => .ok (.ref (.path "str"))
    | .scalar kind => .ok kind.ty
    | .object name => (objectTy name).map .ref
    | .array d => d.ty.map fun t => .ref (.slice t)
    | .arrayOfArray d => d.ty.map fun t => .ref (.slice t.vec)

/-- The type of a supplied option. -/
def optionTy (passing : Passing) (d : Descriptor) : Except IdentFault Ty :=
  match passing with
  | .fileUpload => .ok (.path "InputFile")
  | .replyMarkup => .ok (.path "ReplyMarkup")
  | .plain => d.ty

end BotBindings
