import BotBindings.Proofs.Passing
import BotBindings.Proofs.Scan

/-!
Binding a method resolves the alternatives of its parameters in order, and then its first return.
The element of a returned list is registered by then, so lists of objects are decoded by helpers.
-/
namespace BotBindings

/-- How a result is decoded whose element is registered. -/
def Descriptor.decode : Descriptor → Decode
  | array (object name) => .arrayHelper name
  | arrayOfArray (object name) => .arrayOfArrayHelper name
  | d => .generic d

theorem Compile.decodeOf_eq {r : Registry} {d : Descriptor}
    (h : ∀ name, d = .array (.object name) → r.arrays.has name = true)
    (h' : ∀ name, d = .arrayOfArray (.object name) → r.arraysOfArrays.has name = true) :
    decodeOf r d = d.decode := by
  unfold decodeOf
  split
  · next name => exact if_pos (h name rfl)
  · next name => exact if_pos (h' name rfl)
  · rw [Descriptor.decode] <;> assumption

namespace Schema

namespace Field

/-- The first of its tokens says what a parameter is. -/
def parameter (f : Field) : Parameter :=
  let d := Descriptor.ofToken (f.types.headD "")
  { wireName := f.name
    bindingName := if f.required then lowerCamel f.name else upperCamel f.name
    descriptor := d
    required := f.required
    strategy := .ofDescriptor d
    passing :=
      if isMarkupSet f.types then .replyMarkup
      else if d = .object uploadType then .fileUpload else .plain
    description := f.description }

/-- The statement that sends a parameter, under a guard if it may be left out. -/
def statement (f : Field) : Statement where
  wireName := f.name
  source := f.parameter.bindingName
  strategy := f.parameter.strategy
  guarded := !f.required

theorem map_ofParameter (fs : List Field) :
    (fs.map parameter).map Statement.ofParameter = fs.map statement := List.map_map

end Field

namespace MethodEntry

/-- The tokens of a method that are resolved: of its returns only the first. -/
def tokens (m : MethodEntry) : List String := m.fieldList.flatMap (·.types) ++ m.returns.take 1

def result (m : MethodEntry) : Return :=
  let d := Descriptor.ofToken (m.returns.headD "")
  ⟨d, .ofDescriptor d, d.decode⟩

def requiredFields (m : MethodEntry) : List Field := m.fieldList.filter (·.required)

def optionalFields (m : MethodEntry) : List Field := m.fieldList.filter (!·.required)

/-- The binding of a method that has options if one of its fields may be left out. -/
def binding (m : MethodEntry) : MethodBinding where
  name := m.name
  description := m.description
  signature := {
    params := m.requiredFields.map Field.parameter
    optionsParam := if m.optionalFields = [] then none else some (optionsName m.name) }
  options :=
    if m.optionalFields = [] then none
    else some ⟨optionsName m.name, m.optionalFields.map Field.parameter⟩
  requiredStatements := m.requiredFields.map Field.statement
  optionalStatements :=
    if m.optionalFields = [] then none else some (m.optionalFields.map Field.statement)
  returns := m.result

/-- Every parameter lists a type, and the method a return. -/
def Complete (m : MethodEntry) : Prop := (∀ f ∈ m.fieldList, f.types ≠ []) ∧ m.returns ≠ []

end MethodEntry

end Schema

open Schema

theorem Compile.assembleMethod_eq (m : MethodEntry) :
    assembleMethod m (m.fieldList.map Field.parameter) m.result = m.binding := by
  have hrequired : (m.fieldList.map Field.parameter).filter (·.required) =
      m.requiredFields.map Field.parameter := List.filter_map
  have hoptional : (m.fieldList.map Field.parameter).filter (!·.required) =
      m.optionalFields.map Field.parameter := List.filter_map
  unfold assembleMethod MethodEntry.binding
  simp only [hrequired, hoptional, Field.map_ofParameter, List.isEmpty_map, List.isEmpty_iff]
  split
  · rfl
  · simp only [Option.map_some, Field.map_ofParameter]

namespace Compile.Scans

variable {r : Registry}

theorem resolveAll (tokens : List String) :
    Scans (resolveAll tokens) r tokens (tokens.map Descriptor.ofToken) (r.visit tokens) := by
  have h := each (g := Compile.resolveAll) (f := Compile.resolve) (r := r) rfl (fun _ _ => rfl)
    fun token (_ : token ∈ tokens) _ _ => resolve token
  rwa [List.flatMap_singleton'] at h

theorem classify {f : Field} (h : f.types ≠ []) :
    Scans (classify f) r f.types f.parameter (r.visit f.types) := by
  refine (resolveAll f.types).bind_silent ?_
  unfold Field.parameter
  cases ht : f.types with
  | nil => exact absurd ht h
  | cons token rest =>
    have hpassing : passing (token :: rest) (.ofToken token) = _ := passing_eq (token :: rest) rfl
    simp only [List.map_cons, hpassing]
    exact pure

theorem bindReturn {m : MethodEntry} (h : m.returns ≠ []) :
    Scans (bindReturn m) r (m.returns.take 1) m.result (r.visit (m.returns.take 1)) := by
  unfold Compile.bindReturn MethodEntry.primaryReturn? MethodEntry.result
  cases hr : m.returns with
  | nil => exact absurd hr h
  | cons token rest =>
    have ht : token ∈ [token] := List.mem_singleton_self token
    refine (resolve token).bind_silent (registry.silent_bind ?_)
    rw [decodeOf_eq
      (fun _ h => Registry.has_arrays_visit.2 (.inr ⟨token, ht, h⟩))
      (fun _ h => Registry.has_arraysOfArrays_visit.2 (.inr ⟨token, ht, h⟩))]
    exact pure

theorem bindMethod {m : MethodEntry} (h : m.Complete) :
    Scans (bindMethod m) r m.tokens m.binding (r.visit m.tokens) := by
  have hp : Scans (classifyAll m.fieldList) r (m.fieldList.flatMap (·.types))
      (m.fieldList.map Field.parameter) (r.visit (m.fieldList.flatMap (·.types))) :=
    each (f := Compile.classify) rfl (fun _ _ => rfl) fun f hf _ _ => classify (h.1 f hf)
  rw [MethodEntry.tokens, Registry.visit_append, ← assembleMethod_eq]
  exact hp.bind ((bindReturn h.2).bind_silent ((tell _).map fun _ => _))

end Compile.Scans

namespace Compile

open Schema

variable {s : Session}

theorem types_ne_nil_of_classify {f : Field} {p : Parameter} (h : (exec (classify f) s).1 = .ok p) :
    f.types ≠ [] := by
  intro ht
  rw [classify, ht] at h
  cases h

theorem types_ne_nil_of_classifyAll {fs : List Field} {ps : List Parameter}
    (h : (exec (classifyAll fs) s).1 = .ok ps) : ∀ f ∈ fs, f.types ≠ [] := by
  induction fs generalizing s ps with
  | nil => exact fun f hf => by cases hf
  | cons f fs ih =>
    obtain ⟨p, t, hp, h⟩ := exec_of_exec_bind h
    obtain ⟨ps', t', hps, -⟩ := exec_of_exec_bind h
    have hp : (exec (classify f) s).1 = .ok p := congrArg Prod.fst hp
    have hps : (exec (classifyAll fs) t).1 = .ok ps' := congrArg Prod.fst hps
    exact List.forall_mem_cons.2 ⟨types_ne_nil_of_classify hp, ih hps⟩

theorem returns_ne_nil_of_bindReturn {m : MethodEntry} {b : Return}
    (h : (exec (bindReturn m) s).1 = .ok b) : m.returns ≠ [] := by
  intro hr
  rw [bindReturn, MethodEntry.primaryReturn?, hr] at h
  cases h

theorem complete_of_bindMethod {m : MethodEntry} {b : MethodBinding}
    (h : (exec (bindMethod m) s).1 = .ok b) : m.Complete := by
  obtain ⟨params, t, hp, h⟩ := exec_of_exec_bind h
  obtain ⟨returns, t', hr, -⟩ := exec_of_exec_bind h
  exact ⟨types_ne_nil_of_classifyAll (congrArg Prod.fst hp),
    returns_ne_nil_of_bindReturn (congrArg Prod.fst hr)⟩

/-- A method is bound if it is complete and its tokens are known, and its binding is read off it. -/
theorem exec_bindMethod_eq_ok_iff {m : MethodEntry} {b : MethodBinding} :
    (exec (bindMethod m) s).1 = .ok b ↔ m.Complete ∧
      (∀ t ∈ m.tokens, Descriptor.ofToken? s.registry.known.has t ≠ none) ∧ b = m.binding := by
  rw [← Registry.firstUnknown?_eq_none_iff]
  constructor
  · intro h
    have hc : m.Complete := complete_of_bindMethod h
    exact ⟨hc, (Scans.bindMethod hc).eq_ok_iff.1 h⟩
  · rintro ⟨hc, h⟩
    exact (Scans.bindMethod hc).eq_ok_iff.2 h

end Compile

end BotBindings
