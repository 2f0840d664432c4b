import BotBindings.Code.Ident
import BotBindings.Code.Listing

namespace BotBindings.Code

inductive Ty where
  /-- A type under the name of a binding. -/
  | named (i : Ident)
  /-- A type of the language or of a library. -/
  | path (text : String)
  | apply (head : String) (arg : Ty)
  | result (ok err : Ty)
  | ref (t : Ty)
  | slice (t : Ty)
  deriving DecidableEq, Repr

/-- A type on one line, without blanks. -/
def Ty.text : Ty → String
  | named i => i.text
  | path text => text
  | apply head arg => s!"{head}<{arg.text}>"
  | result ok err => s!"Result<{ok.text},{err.text}>"
  | ref t => "&" ++ t.text
  | slice t => s!"[{t.text}]"

inductive Expr where
  /-- A name, a path or a literal. -/
  | word (text : String)
  | call (path : String) (args : List Expr)
  | method (receiver : Expr) (name : String) (args : List Expr)
  | field (receiver : Expr) (name : Ident)
  | await (e : Expr)
  | attempt (e : Expr)
  | ref (e : Expr)
  | refMut (e : Expr)
  deriving Repr, Inhabited

/-- The variable that a condition binds to what its value holds. -/
structure Binding where
  name : String
  value : Expr
  deriving Repr

inductive Stmt where
  | letIn (binder : String) (type : Option Ty) (value : Expr)
  | run (e : Expr)
  /-- Runs the body if each value in turn holds something. -/
  | ifSome (bindings : List Binding) (body : List Stmt)
  | result (e : Expr)
  deriving Repr

structure Attribute where
  name : String
  args : List String
  deriving DecidableEq, Repr

structure FieldDef where
  docs : List String := []
  attributes : List Attribute := []
  name : Ident
  type : Ty
  deriving DecidableEq, Repr

structure Arg where
  name : Ident
  type : Ty
  deriving DecidableEq, Repr

structure Fn where
  docs : List String := []
  attributes : List Attribute := []
  /-- What stands in front of the name. -/
  qualifier : String := "fn "
  name : Ident
  /-- Takes the object it is called on. -/
  onSelf : Bool := false
  args : List Arg := []
  result : Ty
  body : List Stmt
  deriving Repr

inductive Item where
  | innerDoc (text : String)
  | useDecl (path : String)
  | modDecl (name : String)
  | struct (docs : List String) (attributes : List Attribute) (name : Ident) (fields : List FieldDef)
  /-- An enumeration each of whose variants holds the type of its name. -/
  | sum (docs : List String) (attributes : List Attribute) (name : String) (variants : List Ident)
  | impl (interface : Option Ty) (self : Ty) (fns : List Fn)
  | trait (docs : List String) (name : Ident) (parent : String) (fns : List Fn)
  | fn (f : Fn)
  | listing (body : List Listing)
  deriving Repr

end BotBindings.Code
