import BotBindings.Code.Check
import BotBindings.Proofs.Except

namespace BotBindings.Code

def Ty.idents : Ty → List Ident
  | named i => [i]
  | path _ => []
  | apply _ arg => arg.idents
  | result ok err => ok.idents ++ err.idents
  | ref t | slice t => t.idents

mutual

def Expr.idents : Expr → List Ident
  | .word _ => []
  | .call _ args => argIdents args
  | .method e _ args => e.idents ++ argIdents args
  | .field e name => e.idents ++ [name]
  | .await e | .attempt e | .ref e | .refMut e => e.idents

def argIdents : List Expr → List Ident
  | [] => []
  | e :: es => e.idents ++ argIdents es

end

mutual

def Stmt.idents : Stmt → List Ident
  | .letIn _ type value => type.toList.flatMap Ty.idents ++ value.idents
  | .run e | .result e => e.idents
  | .ifSome bindings body => bindings.flatMap (·.value.idents) ++ bodyIdents body

def bodyIdents : List Stmt → List Ident
  | [] => []
  | s :: ss => s.idents ++ bodyIdents ss

end

def FieldDef.idents (f : FieldDef) : List Ident := f.name :: f.type.idents

def Arg.idents (a : Arg) : List Ident := a.name :: a.type.idents

def Fn.idents (f : Fn) : List Ident :=
  f.name :: f.args.flatMap Arg.idents ++ f.result.idents ++ bodyIdents f.body

def Item.idents : Item → List Ident
  | .innerDoc _ | .useDecl _ | .modDecl _ | .listing _ => []
  | .struct _ _ name fields => name :: fields.flatMap FieldDef.idents
  | .sum _ _ _ variants => variants
  | .impl interface self fns =>
    interface.toList.flatMap Ty.idents ++ self.idents ++ fns.flatMap Fn.idents
  | .trait _ name _ fns => name :: fns.flatMap Fn.idents
  | .fn f => f.idents

/-- The identifiers of a file. -/
def idents (items : List Item) : List Ident := items.flatMap Item.idents

theorem checkName_eq_ok {i : Ident} (h : i.isKeyword = false) : checkName i = .ok () := by
  rw [checkName, h]
  rfl

theorem Ty.check_eq_ok {t : Ty} (h : ∀ i ∈ t.idents, i.isKeyword = false) (inBrackets : Bool) :
    t.check inBrackets = .ok () := by
  induction t generalizing inBrackets with
  | named i =>
    have hi : i.isKeyword = false := h i (List.mem_singleton_self i)
    rw [check, checkTypeName, hi]
    rfl
  | path text => rfl
  | apply head arg ih => exact ih h true
  | result ok err ihok iherr =>
    obtain ⟨hok, herr⟩ := List.forall_mem_append.1 h
    rw [check, ihok hok true]
    exact iherr herr true
  | ref t ih | slice t ih => exact ih h false

theorem Fn.check_eq_ok {f : Fn} (h : ∀ i ∈ f.idents, i.isKeyword = false) :
    f.check = .ok () := by
  -- the body is not checked
  obtain ⟨h, -⟩ := List.forall_mem_append.1 h
  obtain ⟨h, hresult⟩ := List.forall_mem_append.1 h
  obtain ⟨hname, hargs⟩ := List.forall_mem_cons.1 h
  have hall : (f.args.forM fun a => do
      checkName a.name
      a.type.check false) = Except.ok () := by
    apply forM_eq_ok
    intro a ha
    obtain ⟨hn, ht⟩ := List.forall_mem_cons.1 (List.forall_mem_flatMap.1 hargs a ha)
    rw [checkName_eq_ok hn]
    exact Ty.check_eq_ok ht false
  rw [check, checkName_eq_ok hname, hall]
  exact Ty.check_eq_ok hresult false

theorem forM_check_eq_ok {fns : List Fn} (h : ∀ i ∈ fns.flatMap Fn.idents, i.isKeyword = false) :
    fns.forM Fn.check = .ok () :=
  forM_eq_ok fun f hf => Fn.check_eq_ok (List.forall_mem_flatMap.1 h f hf)

theorem Item.check_eq_ok {item : Item} (h : ∀ i ∈ item.idents, i.isKeyword = false) :
    item.check = .ok () := by
  cases item with
  | innerDoc text | useDecl path | modDecl name | listing body => rfl
  | struct docs attributes name fields =>
    obtain ⟨hname, hfields⟩ := List.forall_mem_cons.1 h
    rw [check, checkName_eq_ok hname]
    apply forM_eq_ok
    intro f hf
    obtain ⟨hn, ht⟩ := List.forall_mem_cons.1 (List.forall_mem_flatMap.1 hfields f hf)
    rw [checkName_eq_ok hn]
    exact Ty.check_eq_ok ht false
  | sum docs attributes name variants => exact forM_eq_ok fun i hi => checkName_eq_ok (h i hi)
  | impl interface self fns =>
    obtain ⟨h, hfns⟩ := List.forall_mem_append.1 h
    obtain ⟨hinterface, hself⟩ := List.forall_mem_append.1 h
    have hi : (interface.forM fun t => t.check false) = Except.ok () := by
      cases interface with
      | none => rfl
      | some t => exact Ty.check_eq_ok (List.forall_mem_flatMap.1 hinterface t (.head _)) false
    rw [check, hi, Ty.check_eq_ok hself false]
    exact forM_check_eq_ok hfns
  | trait docs name parent fns =>
    obtain ⟨hname, hfns⟩ := List.forall_mem_cons.1 h
    rw [check, checkName_eq_ok hname]
    exact forM_check_eq_ok hfns
  | fn f => exact Fn.check_eq_ok h

/-- A file that holds no keyword passes its check. -/
theorem checkItems_eq_ok {items : List Item} (h : ∀ i ∈ idents items, i.isKeyword = false) :
    checkItems items = .ok () :=
  forM_eq_ok fun item hitem => Item.check_eq_ok (List.forall_mem_flatMap.1 h item hitem)

end BotBindings.Code
