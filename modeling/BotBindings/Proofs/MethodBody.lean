import BotBindings.Proofs.CallSite
import BotBindings.Proofs.HelperCall
import BotBindings.Proofs.Parameters

namespace BotBindings

namespace Crate

open Code

section

variable (name : String) (s : Statement) (source : String) (guards : List Binding)

end

variable (m : MethodBinding) (decode : String)

/-- The method of the client that sends a request. -/
def requestName : String := if m.hasUpload then "request_with_files" else "request"

def requestArgs : List Expr :=
  literal m.name :: .word "params" :: if m.hasUpload then [.word "files"] else []

def requestStmt : Stmt :=
  .letIn "result" none
    (.attempt (.await (.method (.word "self") (requestName m) (requestArgs m))))

/-- The statement that declares the files, if there are any. -/
def filesStmts : List Stmt :=
  if m.hasUpload then [.letIn "mut files" (some (.vec (.path "Attachment"))) (.call "Vec::new" [])]
  else []

def paramsBinder : String :=
  if !m.requiredStatements.isEmpty || m.optionalStatements.isSome then "mut params" else "params"

theorem methodBody_eq : methodBody m decode =
    .letIn (paramsBinder m) none (.call "Params::new" []) :: (filesStmts m ++
      (m.requiredStatements.map requiredStmt ++ ((m.optionalStatements.map optionalStmt).toList ++
        [requestStmt m, decodeStmt decode]))) := by
  have hrequest : requestStmt m = .letIn "result" none (.attempt (.await (if m.hasUpload then
      .method (.word "self") "request_with_files" [literal m.name, .word "params", .word "files"]
    else .method (.word "self") "request" [literal m.name, .word "params"]))) := by
    unfold requestStmt requestName requestArgs
    split <;> rfl
  rw [hrequest]
  simp only [methodBody, List.append_assoc]
  rfl

theorem methodArgs_eq_ok {s : Signature} {args : List Arg} (h : methodArgs s = .ok args) :
    ∃ params, params.map (·.name) = s.params.map (fun p => fieldIdent p.wireName) ∧
      ((s.optionsParam = none ∧ args = params) ∨
        ∃ o name, s.optionsParam = some o ∧ typeIdent o = .ok name ∧
          args = params ++ [⟨⟨false, "opts"⟩, .option (.ref (.named name))⟩]) := by
  obtain ⟨params, hp, h⟩ := bind_eq_ok_iff.1 h
  have hnames : params.map (·.name) = s.params.map (fun p => fieldIdent p.wireName) := by
    rw [← List.forall₂_eq_eq_eq, List.forall₂_map_left_iff, List.forall₂_map_right_iff]
    refine (mapM_eq_ok_iff.1 hp).flip.imp fun a p ha => ?_
    obtain ⟨t, -, ha⟩ := bind_eq_ok_iff.1 ha
    cases ha
    rfl
  refine ⟨params, hnames, ?_⟩
  split at h
  · next hn =>
    cases h
    exact .inl ⟨hn, rfl⟩
  · next o hn =>
    obtain ⟨name, ho, h⟩ := bind_eq_ok_iff.1 h
    cases h
    exact .inr ⟨o, name, hn, ho, rfl⟩

/-- A field of the options is declared under the identifier of its parameter, and may be missing. -/
structure DeclaresOption (d : FieldDef) (wireName : String) : Prop where
  name : d.name = fieldIdent wireName
  type : ∃ t, d.type = .option t

theorem optionsItem_eq_ok {method : String} {o : Options} {item : Item}
    (h : optionsItem method o = .ok item) :
    ∃ docs attributes name fields, typeIdent o.name = .ok name ∧
      item = .struct docs attributes name fields ∧
      List.Forall₂ DeclaresOption fields (o.fields.map (·.wireName)) := by
  obtain ⟨name, hn, h⟩ := bind_eq_ok_iff.1 h
  obtain ⟨fields, hf, h⟩ := bind_eq_ok_iff.1 h
  refine ⟨_, _, name, fields, hn, (Except.ok.inj h).symm, List.forall₂_map_right_iff.2 ?_⟩
  refine (mapM_eq_ok_iff.1 hf).flip.imp fun d p hd => ?_
  obtain ⟨t, -, hd⟩ := bind_eq_ok_iff.1 hd
  cases hd
  exact ⟨rfl, t, rfl⟩

end Crate

namespace Schema

open Code Crate

namespace MethodEntry

variable {m : MethodEntry}

theorem mem_requiredFields_append {f : Field} :
    f ∈ m.requiredFields ++ m.optionalFields ↔ f ∈ m.fieldList :=
  (List.filter_append_perm (·.required) m.fieldList).mem_iff

theorem hasUpload_binding_eq_false_iff : m.binding.hasUpload = false ↔
    ∀ f ∈ m.fieldList, f.parameter.strategy ≠ .fileUpload := by
  rw [MethodBinding.hasUpload, allParams_binding, List.any_map, List.any_eq_false]
  simp only [mem_requiredFields_append, Function.comp_apply, decide_eq_true_eq, ne_eq]

theorem argNames_binding {args : List Arg} (h : methodArgs m.binding.signature = .ok args) :
    args.map (·.name) = m.requiredFields.map (fun f => fieldIdent f.name) ++
      if m.optionalFields = [] then [] else [⟨false, "opts"⟩] := by
  obtain ⟨params, hp, h⟩ := methodArgs_eq_ok h
  have hparams : params.map (·.name) = m.requiredFields.map fun f => fieldIdent f.name := by
    rw [hp, params_binding, List.map_map]
    rfl
  have ho : m.binding.signature.optionsParam = none ↔ m.optionalFields = [] := by
    rw [m.splitAs_binding.optionsParam, Option.map_eq_none_iff, options_binding_eq]
    split <;> simp_all
  rcases h with ⟨hn, rfl⟩ | ⟨o, name, hs, -, rfl⟩
  · rw [hparams, if_pos (ho.1 hn), List.append_nil]
  · have hne : m.optionalFields ≠ [] := fun hf => nomatch (ho.2 hf).symm.trans hs
    rw [List.map_append, hparams, if_neg hne]
    rfl

end MethodEntry

end Schema

open Schema Code Crate

end BotBindings
