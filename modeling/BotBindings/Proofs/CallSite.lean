import BotBindings.Code.Tree

/-!
Where expressions stand in the body of a function, which methods they call and which names they
read. A call goes with the conditions that it stands under. So it does not matter whether these are
nested or form one condition.
-/
namespace BotBindings

namespace Code

mutual

/-- An expression and those that stand in it. -/
@[simp] def Expr.subterms : Expr → List Expr
  | .word text => [.word text]
  | .call path args => .call path args :: argSubterms args
  | .method e name args => .method e name args :: (e.subterms ++ argSubterms args)
  | .field e name => .field e name :: e.subterms
  | .await e => .await e :: e.subterms
  | .attempt e => .attempt e :: e.subterms
  | .ref e => .ref e :: e.subterms
  | .refMut e => .refMut e :: e.subterms

@[simp] def argSubterms : List Expr → List Expr
  | [] => []
  | e :: es => e.subterms ++ argSubterms es

end

/-- An expression of a body, and the conditions that it stands under from the outside in. -/
structure Site where
  guards : List Binding
  expr : Expr

/-- The value of a condition stands under those before it. -/
@[simp] def guardSites (guards : List Binding) : List Binding → List Site
  | [] => []
  | b :: bs => ⟨guards, b.value⟩ :: guardSites (guards ++ [b]) bs

mutual

@[simp] def Stmt.sites (guards : List Binding) : Stmt → List Site
  | .letIn _ _ e | .run e | .result e => [⟨guards, e⟩]
  | .ifSome bindings body => guardSites guards bindings ++ bodySites (guards ++ bindings) body

@[simp] def bodySites (guards : List Binding) : List Stmt → List Site
  | [] => []
  | s :: ss => s.sites guards ++ bodySites guards ss

end

/-- A call of a method and the conditions that it stands under. -/
structure Call where
  guards : List Binding
  receiver : Expr
  args : List Expr

@[simp] def Expr.call? (name : String) (guards : List Binding) : Expr → Option Call
  | .method receiver called args => if called = name then some ⟨guards, receiver, args⟩ else none
  | _ => none

@[simp] def Expr.word? : Expr → Option String
  | .word text => some text
  | _ => none

def Site.calls (name : String) (s : Site) : List Call :=
  s.expr.subterms.filterMap (Expr.call? name s.guards)

/-- The words of an expression, less the variables that the conditions around it bind. -/
def Site.reads (s : Site) : List String :=
  (s.expr.subterms.filterMap Expr.word?).filter fun word => !(s.guards.map (·.name)).contains word

/-- The calls of a method in a body, at any depth and in their order. -/
def calls (name : String) (body : List Stmt) : List Call :=
  (bodySites [] body).flatMap (Site.calls name)

/-- The words that a body takes from outside its conditions. -/
def reads (body : List Stmt) : List String := (bodySites [] body).flatMap Site.reads

/-- What a statement declares for those after it. -/
def Stmt.binder? : Stmt → Option String
  | .letIn binder _ _ => some binder
  | _ => none

def Stmt.calls (name : String) (guards : List Binding) (s : Stmt) : List Call :=
  (s.sites guards).flatMap (Site.calls name)

def Stmt.reads (s : Stmt) : List String := (s.sites []).flatMap Site.reads

end Code

end BotBindings
