import BotBindings.Crate.Methods
import BotBindings.Proofs.Outline

namespace BotBindings

open Code

/-- Leaves that a way of passing decides, or those of a value that is passed as it is. -/
def Passing.leaves (passing : Passing) (plain : List Leaf) : List Leaf :=
  match passing with
  | .fileUpload => [.builtin "InputFile"]
  | .replyMarkup => [.builtin "ReplyMarkup"]
  | .plain => plain

/-- The leaves of a descriptor whose text is borrowed. -/
def Descriptor.borrowedLeaves : Descriptor → List Leaf
  | scalar .string => [.builtin "str"]
  | d => d.leaves

def Parameter.argLeaves (p : Parameter) : List Leaf := p.passing.leaves p.descriptor.borrowedLeaves

def Parameter.optionLeaves (p : Parameter) : List Leaf := p.passing.leaves p.descriptor.leaves

theorem leaves_paramTy {passing : Passing} {d : Descriptor} {t : Ty}
    (h : paramTy passing d = .ok t) : t.leaves = passing.leaves d.borrowedLeaves := by
  unfold paramTy at h
  split at h
  · cases h
    rfl
  · cases h
    rfl
  · split at h
    · cases h
      rfl
    · next kind hk =>
      cases h
      cases kind with
      | string => exact (hk rfl).elim
      | int64 | float64 | bool => rfl
    · next name =>
      obtain ⟨u, hu, rfl⟩ := map_eq_ok_iff.1 h
      have hl : u.leaves = [.object name] := leaves_objectTy hu
      exact hl
    · next e =>
      obtain ⟨u, hu, rfl⟩ := map_eq_ok_iff.1 h
      have hl : u.leaves = e.leaves := Descriptor.leaves_ty hu
      exact hl
    · next e =>
      obtain ⟨u, hu, rfl⟩ := map_eq_ok_iff.1 h
      have hl : u.leaves = e.leaves := Descriptor.leaves_ty hu
      exact hl

theorem leaves_optionTy {passing : Passing} {d : Descriptor} {t : Ty}
    (h : optionTy passing d = .ok t) : t.leaves = passing.leaves d.leaves := by
  unfold optionTy at h
  split at h
  · cases h
    rfl
  · cases h
    rfl
  · exact Descriptor.leaves_ty h

namespace Crate

section

variable {m : MethodBinding} {g : Fn} {items : List Item}

/-- The parts of the function that is written for a method. -/
theorem methodFn_eq_ok (h : methodFn m = .ok g) :
    (∃ t, m.returns.descriptor.ty = .ok t ∧ g.result = .result t (.path "BotError")) ∧
      methodArgs m.signature = .ok g.args ∧
      ∃ decode, decodeCall m.returns.decode = .ok decode ∧ g.body = methodBody m decode := by
  obtain ⟨returned, hr, h⟩ := bind_eq_ok_iff.1 h
  obtain ⟨args, ha, h⟩ := bind_eq_ok_iff.1 h
  obtain ⟨decode, hd, h⟩ := bind_eq_ok_iff.1 h
  cases h
  exact ⟨⟨returned, hr, rfl⟩, ha, decode, hd, rfl⟩

theorem methodItems_eq_ok (h : methodItems m = .ok items) :
    ∃ g options, methodFn m = .ok g ∧
      m.options.toList.mapM (optionsItem m.name) = .ok options ∧
      items = options ++ [.impl none (.path "Bot") [g]] := by
  obtain ⟨g, hg, h⟩ := bind_eq_ok_iff.1 h
  obtain ⟨options, ho, h⟩ := bind_eq_ok_iff.1 h
  exact ⟨g, options, hg, ho, (Except.ok.inj h).symm⟩

end

/-- The outline of the options of a method. -/
def optionsOutline (o : Options) : List OutlineEntry :=
  .struct o.name :: o.fields.flatMap fun p => mentions p.optionLeaves

theorem outline_optionsItem {method : String} {o : Options} {item : Item}
    (h : optionsItem method o = .ok item) : item.outline = optionsOutline o := by
  obtain ⟨name, hn, h⟩ := bind_eq_ok_iff.1 h
  obtain ⟨fields, hf, h⟩ := bind_eq_ok_iff.1 h
  cases h
  have hfields : (fields.flatMap fun f => mentions f.type.leaves) =
      o.fields.flatMap fun p => mentions p.optionLeaves := by
    refine flatMap_of_mapM hf fun p _ f hp => ?_
    obtain ⟨t, ht, hp⟩ := bind_eq_ok_iff.1 hp
    cases hp
    have hl : t.leaves = p.optionLeaves := leaves_optionTy ht
    exact congrArg mentions hl
  rw [optionsOutline, ← hfields, ← Ident.text_of_ofString hn]
  rfl

/-- What the arguments of a method mention. -/
def argsOutline (s : Signature) : List OutlineEntry :=
  (s.params.flatMap fun p => mentions p.argLeaves) ++
    mentions (s.optionsParam.toList.map .object)

theorem outline_methodArgs {s : Signature} {args : List Arg} (h : methodArgs s = .ok args) :
    (args.flatMap fun a => mentions a.type.leaves) = argsOutline s := by
  obtain ⟨params, hp, h⟩ := bind_eq_ok_iff.1 h
  have hparams : (params.flatMap fun a => mentions a.type.leaves) =
      s.params.flatMap fun p => mentions p.argLeaves := by
    refine flatMap_of_mapM hp fun p _ a ha => ?_
    obtain ⟨t, ht, ha⟩ := bind_eq_ok_iff.1 ha
    cases ha
    exact congrArg mentions (leaves_paramTy ht)
  unfold argsOutline
  split at h
  · next hn =>
    cases h
    rw [hparams, hn]
    exact (List.append_nil _).symm
  · next name hn =>
    obtain ⟨ident, hi, h⟩ := bind_eq_ok_iff.1 h
    cases h
    rw [List.flatMap_append, hparams, hn, ← Ident.text_of_ofString hi]
    rfl

/-- The outline of the options of a method and the method. -/
def methodOutline (m : MethodBinding) : List OutlineEntry :=
  m.options.toList.flatMap optionsOutline ++ mentions [.builtin "Bot"] ++ argsOutline m.signature ++
    mentions (m.returns.descriptor.leaves ++ [.builtin "BotError"])

theorem outline_methodFn {m : MethodBinding} {g : Fn} (h : methodFn m = .ok g) :
    g.outline =
      argsOutline m.signature ++
        mentions (m.returns.descriptor.leaves ++ [.builtin "BotError"]) := by
  obtain ⟨⟨t, ht, hresult⟩, hargs, -⟩ := methodFn_eq_ok h
  rw [Fn.outline, outline_methodArgs hargs, hresult, Ty.leaves, Descriptor.leaves_ty ht]
  rfl

theorem outline_methodItems {m : MethodBinding} {items : List Item}
    (h : methodItems m = .ok items) : outline items = methodOutline m := by
  obtain ⟨g, options, hg, ho, rfl⟩ := methodItems_eq_ok h
  have hoptions : outline options = m.options.toList.flatMap optionsOutline :=
    flatMap_of_mapM ho fun _ _ _ => outline_optionsItem
  rw [outline_append, hoptions, methodOutline, List.append_assoc, List.append_assoc,
    ← outline_methodFn hg]
  simp [outline, Item.outline, Ty.leaves]

/-- The outline of the module of methods. -/
theorem outline_methodsModule {b : Bindings} {items : List Item} (h : methodsModule b = .ok items) :
    outline items = .use "crate::bot::\x7bBot, BotError, Params\x7d" ::
      ((if b.hasUpload then [.use "crate::bot::\x7bAttachment, InputFile\x7d"] else []) ++
        (if b.types.isEmpty || b.methods.isEmpty then [] else [.use "crate::types::*"]) ++
        b.methods.flatMap methodOutline) := by
  obtain ⟨methods, hm, h⟩ := bind_eq_ok_iff.1 h
  cases h
  have hmethods : outline methods.flatten = b.methods.flatMap methodOutline := by
    rw [outline_flatten]
    exact flatMap_of_mapM hm fun _ _ _ => outline_methodItems
  rw [← hmethods]
  unfold outline
  split_ifs <;> rfl

end Crate

end BotBindings
