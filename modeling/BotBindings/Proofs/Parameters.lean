import BotBindings.Proofs.Method
import Mathlib.Data.List.Forall2

namespace BotBindings

/-- A statement sends a parameter. It is guarded if the parameter may be left out. -/
structure Statement.Sends (s : Statement) (p : Parameter) : Prop where
  wireName : s.wireName = p.wireName
  source : s.source = p.bindingName
  strategy : s.strategy = p.strategy
  guarded : s.guarded = !p.required

theorem Statement.forall₂_sends (ps : List Parameter) :
    List.Forall₂ Sends (ps.map ofParameter) ps :=
  List.forall₂_map_left_iff.2 (List.forall₂_same.2 fun _ _ => ⟨rfl, rfl, rfl, rfl⟩)

namespace Schema.MethodEntry

/-- The parameters of a method as its binding has them. None is lost and none comes in twice. -/
structure SplitAs (m : MethodEntry) (b : MethodBinding) : Prop where
  required : b.signature.params.map (·.wireName) = m.requiredFields.map (·.name)
  optional : ((b.options.map (·.fields)).getD []).map (·.wireName) = m.optionalFields.map (·.name)
  inOrder : (b.allParams.map fun p => (p.wireName, p.required)) =
    (m.requiredFields ++ m.optionalFields).map fun f => (f.name, f.required)
  all : (b.allParams.map fun p => (p.wireName, p.required)).Perm
    (m.fieldList.map fun f => (f.name, f.required))
  requiredStatements : List.Forall₂ Statement.Sends b.requiredStatements b.signature.params
  optionalStatements : ∀ o ∈ b.options, ∀ ss ∈ b.optionalStatements,
    List.Forall₂ Statement.Sends ss o.fields
  hasOptions : b.options.isSome ↔ ∃ f ∈ m.fieldList, f.required = false
  hasOptionsParam : b.signature.optionsParam.isSome ↔ ∃ f ∈ m.fieldList, f.required = false
  hasStatements : b.optionalStatements.isSome ↔ ∃ f ∈ m.fieldList, f.required = false
  optionsParam : b.signature.optionsParam = b.options.map (·.name)
  statements_ne_nil : ∀ ss ∈ b.optionalStatements, ss ≠ []

variable {m : MethodEntry}

theorem params_binding : m.binding.signature.params = m.requiredFields.map Field.parameter :=
  rfl

theorem requiredStatements_binding :
    m.binding.requiredStatements = (m.requiredFields.map Field.parameter).map .ofParameter :=
  (Field.map_ofParameter _).symm

/-- The options of a method, which has some if a field is optional. -/
theorem options_binding_eq : m.binding.options =
    if m.optionalFields = [] then none
    else some ⟨optionsName m.name, m.optionalFields.map Field.parameter⟩ := rfl

theorem name_options_binding {o : Options} (ho : o ∈ m.binding.options) :
    o.name = optionsName m.name := by
  rw [options_binding_eq] at ho
  split at ho
  · cases ho
  · cases ho
    rfl

theorem optionsParam_binding :
    m.binding.signature.optionsParam = m.binding.options.map (·.name) := by
  unfold binding
  split <;> rfl

theorem name_optionsParam_binding {name : String}
    (h : name ∈ m.binding.signature.optionsParam) : name = optionsName m.name := by
  rw [optionsParam_binding] at h
  obtain ⟨o, ho, rfl⟩ := Option.map_eq_some_iff.1 h
  exact name_options_binding ho

theorem optionalStatements_binding : m.binding.optionalStatements =
    m.binding.options.map fun o => o.fields.map .ofParameter := by
  unfold binding
  split
  · rfl
  · exact congrArg some (Field.map_ofParameter _).symm

theorem fields_options_binding :
    (m.binding.options.map (·.fields)).getD [] = m.optionalFields.map Field.parameter := by
  rw [options_binding_eq]
  split
  · next h =>
    rw [h]
    rfl
  · rfl

theorem allParams_binding :
    m.binding.allParams = (m.requiredFields ++ m.optionalFields).map Field.parameter := by
  rw [MethodBinding.allParams, params_binding, fields_options_binding, List.map_append]

theorem exists_field_of_mem_allParams {p : Parameter} (hp : p ∈ m.binding.allParams) :
    ∃ f ∈ m.fieldList, f.parameter = p := by
  rw [allParams_binding] at hp
  obtain ⟨f, hf, he⟩ := List.mem_map.1 hp
  have hperm : (m.requiredFields ++ m.optionalFields).Perm m.fieldList :=
    List.filter_append_perm _ _
  exact ⟨f, hperm.mem_iff.1 hf, he⟩

theorem optionalFields_ne_nil_iff :
    m.optionalFields ≠ [] ↔ ∃ f ∈ m.fieldList, f.required = false := by
  simp [optionalFields]

theorem splitAs_binding (m : MethodEntry) : m.SplitAs m.binding := by
  have hoptions : m.binding.options.isSome ↔ ∃ f ∈ m.fieldList, f.required = false := by
    rw [← optionalFields_ne_nil_iff, options_binding_eq]
    split <;> simp_all
  have hall : (m.binding.allParams.map fun p => (p.wireName, p.required)) =
      (m.requiredFields ++ m.optionalFields).map fun f => (f.name, f.required) := by
    rw [allParams_binding, List.map_map]
    rfl
  refine ⟨?_, ?_, hall, ?_, ?_, ?_, hoptions, ?_, ?_, optionsParam_binding, ?_⟩
  · rw [params_binding, List.map_map]
    rfl
  · rw [fields_options_binding, List.map_map]
    rfl
  · rw [hall]
    exact (List.filter_append_perm _ _).map _
  · rw [requiredStatements_binding]
    exact Statement.forall₂_sends _
  · intro o ho ss hss
    rw [optionalStatements_binding, Option.mem_def.1 ho] at hss
    cases hss
    exact Statement.forall₂_sends o.fields
  · rw [← hoptions, optionsParam_binding, Option.isSome_map]
  · rw [← hoptions, optionalStatements_binding, Option.isSome_map]
  · intro ss hss
    rw [optionalStatements_binding, options_binding_eq] at hss
    split at hss
    · cases hss
    · next hne =>
      cases hss
      simpa using hne

end Schema.MethodEntry

open Schema

/-- The binding of a method splits its fields into required and optional parameters. -/
theorem Compile.splitAs_of_bindMethod {s : Session} {m : MethodEntry} {b : MethodBinding}
    (h : (exec (bindMethod m) s).1 = .ok b) : m.SplitAs b := by
  obtain ⟨-, -, rfl⟩ := exec_bindMethod_eq_ok_iff.1 h
  exact m.splitAs_binding

/-- Required and optional parameters stand in turn, and one takes a name for the second time. -/
def sendMessage : MethodEntry where
  name := "sendMessage"
  fields := some [⟨"text", ["String"], true, ""⟩, ⟨"is_silent", ["Boolean"], false, ""⟩,
    ⟨"chat_id", ["Integer", "String"], true, ""⟩, ⟨"text", ["Array of Message"], false, ""⟩]
  returns := ["Message"]

theorem Compile.splitAs_of_bindMethod_message :
    ∃ b, (exec (bindMethod sendMessage) ⟨.ofNames ["Message"], []⟩).1 = .ok b ∧
      b.signature.params.map (·.wireName) = ["text", "chat_id"] ∧
      ((b.options.map (·.fields)).getD []).map (·.wireName) = ["is_silent", "text"] ∧
      b.signature.optionsParam.isSome ∧ sendMessage.SplitAs b := by
  have h : (exec (bindMethod sendMessage) ⟨.ofNames ["Message"], []⟩).1 =
      .ok sendMessage.binding :=
    exec_bindMethod_eq_ok_iff.2 ⟨⟨by decide, by decide⟩, by decide, rfl⟩
  have hs := splitAs_of_bindMethod h
  exact ⟨_, h, hs.required.trans (by decide), hs.optional.trans (by decide),
    hs.hasOptionsParam.2 (by decide), hs⟩

end BotBindings
