import BotBindings.Binding.Record
import BotBindings.Proofs.PrettyText

namespace BotBindings

open Json

namespace Json

variable {α : Type} {key k : String} {ms ns : List (String × Value)}

/-- The first member of an object under a key. -/
def Value.member? (key : String) : Value → Option Value
  | .object ms => ms.lookup key
  | _ => none

@[simp] theorem member?_nil : (Value.object []).member? key = none := rfl

@[simp] theorem member?_cons {v : Value} :
    (Value.object ((k, v) :: ms)).member? key =
      if key = k then some v else (Value.object ms).member? key := by
  change ((k, v) :: ms).lookup key = if key = k then some v else ms.lookup key
  rw [List.lookup_cons]
  by_cases h : key = k
  · rw [beq_iff_eq.2 h, if_pos h]
  · rw [beq_false_of_ne h, if_neg h]

@[simp] theorem member?_append :
    (Value.object (ms ++ ns)).member? key =
      ((Value.object ms).member? key).or ((Value.object ns).member? key) := List.lookup_append

@[simp] theorem member?_present {write : α → Value} {o : Option α} :
    (Value.object (present k write o)).member? key = if key = k then o.map write else none := by
  cases o with
  | none => exact (ite_self none).symm
  | some a => exact member?_cons

theorem string_injective : Function.Injective Value.string := fun _ _ => Value.string.inj

theorem array_map_injective {write : α → Value} (h : Function.Injective write) :
    Function.Injective fun xs : List α => Value.array (xs.map write) := fun _ _ hxs =>
  List.map_injective_iff.2 h (Value.array.inj hxs)

theorem texts_injective : Function.Injective texts := array_map_injective string_injective

theorem optional_string_injective : Function.Injective (Option.map Value.string) :=
  Option.map_injective string_injective

end Json

theorem Scalar.name_injective : Function.Injective Scalar.name := by
  intro s t h
  cases s <;> cases t <;> revert h <;> decide

theorem Kind.name_injective : Function.Injective Kind.name := by
  intro s t h
  cases s <;> cases t <;> revert h <;> decide

theorem Strategy.name_injective : Function.Injective Strategy.name := by
  intro s t h
  cases s <;> cases t <;> revert h <;> decide

theorem Passing.name_injective : Function.Injective Passing.name := by
  intro s t h
  cases s <;> cases t <;> revert h <;> decide

theorem Zero.name_injective : Function.Injective Zero.name := by
  intro s t h
  cases s <;> cases t <;> revert h <;> decide

theorem Descriptor.toJson_injective : Function.Injective Descriptor.toJson := by
  intro d e h
  have hkind : d.toJson.member? "kind" = e.toJson.member? "kind" := by rw [h]
  have hof : d.toJson.member? "of" = e.toJson.member? "of" := by rw [h]
  induction d generalizing e with
  | scalar kind =>
    cases e <;> simp [toJson] at hkind hof
    rw [Scalar.name_injective hof]
  | object name =>
    cases e <;> simp [toJson] at hkind hof
    rw [hof]
  | array d ih =>
    cases e <;> simp [toJson] at hkind hof
    rw [ih hof (by rw [hof]) (by rw [hof])]
  | arrayOfArray d ih =>
    cases e <;> simp [toJson] at hkind hof
    rw [ih hof (by rw [hof]) (by rw [hof])]

theorem DeclaredField.toJson_injective : Function.Injective DeclaredField.toJson := by
  intro f g h
  have hmember (key : String) : f.toJson.member? key = g.toJson.member? key := by rw [h]
  have hwire : f.wireName = g.wireName := by simpa [toJson] using hmember "wire_name"
  have hbinding : f.bindingName = g.bindingName := by simpa [toJson] using hmember "binding_name"
  have hdescriptor : f.descriptor = g.descriptor :=
    Descriptor.toJson_injective (by simpa [toJson] using hmember "descriptor")
  have hindirect : f.indirect = g.indirect := by simpa [toJson] using hmember "indirect"
  have hrequired : f.required = g.required := by simpa [toJson] using hmember "required"
  have hdescription : f.description = g.description :=
    optional_string_injective (by simpa [toJson] using hmember "description")
  cases f
  cases g
  congr

theorem TypeBinding.toJson_injective : Function.Injective TypeBinding.toJson := by
  intro t u h
  have hmember (key : String) : t.toJson.member? key = u.toJson.member? key := by rw [h]
  have hname : t.name = u.name := by simpa [toJson] using hmember "name"
  have hdescription : t.description = u.description :=
    texts_injective (by simpa [toJson] using hmember "description")
  have hkind : t.kind = u.kind :=
    Kind.name_injective (by simpa [toJson] using hmember "kind")
  have hfields : t.fields = u.fields :=
    array_map_injective DeclaredField.toJson_injective (by simpa [toJson] using hmember "fields")
  have hsupertype : t.supertype = u.supertype :=
    optional_string_injective (by simpa [toJson] using hmember "supertype")
  have hmarkup : t.replyMarkupVariant = u.replyMarkupVariant := by
    simpa [toJson] using hmember "reply_markup_variant"
  have hvariant : t.variantParent = u.variantParent := by
    simpa [toJson] using hmember "variant_parent"
  cases t
  cases u
  congr

/-- An empty description is left out, and no other one is. -/
theorem Parameter.toJson_injective : Function.Injective Parameter.toJson := by
  intro p q h
  have hmember (key : String) : p.toJson.member? key = q.toJson.member? key := by rw [h]
  have hwire : p.wireName = q.wireName := by simpa [toJson] using hmember "wire_name"
  have hbinding : p.bindingName = q.bindingName := by simpa [toJson] using hmember "binding_name"
  have hdescriptor : p.descriptor = q.descriptor :=
    Descriptor.toJson_injective (by simpa [toJson] using hmember "descriptor")
  have hrequired : p.required = q.required := by simpa [toJson] using hmember "required"
  have hstrategy : p.strategy = q.strategy :=
    Strategy.name_injective (by simpa [toJson] using hmember "strategy")
  have hpassing : p.passing = q.passing :=
    Passing.name_injective (by simpa [toJson] using hmember "param_type")
  have hdescription : p.description = q.description := by
    have hd := hmember "description"
    by_cases hp : p.description = "" <;> by_cases hq : q.description = "" <;>
      simp [toJson, hp, hq] at hd
    · rw [hp, hq]
    · exact hd
  cases p
  cases q
  congr

theorem Signature.toJson_injective : Function.Injective Signature.toJson := by
  intro s t h
  have hmember (key : String) : s.toJson.member? key = t.toJson.member? key := by rw [h]
  have hparams : s.params = t.params :=
    array_map_injective Parameter.toJson_injective (by simpa [toJson] using hmember "params")
  have hoptions : s.optionsParam = t.optionsParam :=
    optional_string_injective (by simpa [toJson] using hmember "options_param")
  cases s
  cases t
  congr

theorem Options.toJson_injective : Function.Injective Options.toJson := by
  intro o o' h
  have hmember (key : String) : o.toJson.member? key = o'.toJson.member? key := by rw [h]
  have hname : o.name = o'.name := by simpa [toJson] using hmember "name"
  have hfields : o.fields = o'.fields :=
    array_map_injective Parameter.toJson_injective (by simpa [toJson] using hmember "fields")
  cases o
  cases o'
  congr

theorem Statement.toJson_injective : Function.Injective Statement.toJson := by
  intro s t h
  have hmember (key : String) : s.toJson.member? key = t.toJson.member? key := by rw [h]
  have hwire : s.wireName = t.wireName := by simpa [toJson] using hmember "wire_name"
  have hsource : s.source = t.source := by simpa [toJson] using hmember "source"
  have hstrategy : s.strategy = t.strategy :=
    Strategy.name_injective (by simpa [toJson] using hmember "strategy")
  have hguarded : s.guarded = t.guarded := by simpa [toJson] using hmember "guarded"
  cases s
  cases t
  congr

theorem statementsToJson_injective : Function.Injective statementsToJson :=
  array_map_injective Statement.toJson_injective

theorem Decode.toJson_injective : Function.Injective Decode.toJson := by
  intro d e h
  have hpath : d.toJson.member? "path" = e.toJson.member? "path" := by rw [h]
  have htarget : d.toJson.member? "target" = e.toJson.member? "target" := by rw [h]
  cases d with
  | generic target =>
    cases e <;> simp [toJson] at hpath htarget
    rw [Descriptor.toJson_injective htarget]
  | arrayHelper element =>
    cases e <;> simp [toJson] at hpath htarget
    rw [htarget]
  | arrayOfArrayHelper element =>
    cases e <;> simp [toJson] at hpath htarget
    rw [htarget]

theorem Return.toJson_injective : Function.Injective Return.toJson := by
  intro r r' h
  have hmember (key : String) : r.toJson.member? key = r'.toJson.member? key := by rw [h]
  have hdescriptor : r.descriptor = r'.descriptor :=
    Descriptor.toJson_injective (by simpa [toJson] using hmember "descriptor")
  have hzero : r.zero = r'.zero :=
    Zero.name_injective (by simpa [toJson] using hmember "zero_value")
  have hdecode : r.decode = r'.decode :=
    Decode.toJson_injective (by simpa [toJson] using hmember "decode")
  cases r
  cases r'
  congr

theorem MethodBinding.toJson_injective : Function.Injective MethodBinding.toJson := by
  intro m n h
  have hmember (key : String) : m.toJson.member? key = n.toJson.member? key := by rw [h]
  have hname : m.name = n.name := by simpa [toJson] using hmember "name"
  have hdescription : m.description = n.description :=
    texts_injective (by simpa [toJson] using hmember "description")
  have hsignature : m.signature = n.signature :=
    Signature.toJson_injective (by simpa [toJson] using hmember "signature")
  have hoptions : m.options = n.options :=
    Option.map_injective Options.toJson_injective (by simpa [toJson] using hmember "options")
  have hrequired : m.requiredStatements = n.requiredStatements :=
    statementsToJson_injective (by simpa [toJson] using hmember "required_statements")
  have hoptional : m.optionalStatements = n.optionalStatements :=
    Option.map_injective statementsToJson_injective
      (by simpa [toJson] using hmember "optional_statements")
  have hreturns : m.returns = n.returns :=
    Return.toJson_injective (by simpa [toJson] using hmember "returns")
  cases m
  cases n
  congr

theorem Metadata.toJson_injective : Function.Injective Metadata.toJson := by
  intro m n h
  have hmember (key : String) : m.toJson.member? key = n.toJson.member? key := by rw [h]
  have hversion : m.version = n.version :=
    optional_string_injective (by simpa [toJson] using hmember "version")
  have hdate : m.releaseDate = n.releaseDate :=
    optional_string_injective (by simpa [toJson] using hmember "release_date")
  have hchangelog : m.changelog = n.changelog :=
    optional_string_injective (by simpa [toJson] using hmember "changelog")
  cases m
  cases n
  congr

theorem Bindings.toJson_injective : Function.Injective Bindings.toJson := by
  intro b c h
  have hmember (key : String) : b.toJson.member? key = c.toJson.member? key := by rw [h]
  have hmetadata : b.metadata = c.metadata :=
    Metadata.toJson_injective (by simpa [toJson] using hmember "metadata")
  have htypes : b.types = c.types :=
    array_map_injective TypeBinding.toJson_injective (by simpa [toJson] using hmember "types")
  have hmethods : b.methods = c.methods :=
    array_map_injective MethodBinding.toJson_injective (by simpa [toJson] using hmember "methods")
  have harrays : b.arrayHelpers = c.arrayHelpers :=
    texts_injective (by simpa [toJson] using hmember "array_helpers")
  have harraysOfArrays : b.arrayOfArrayHelpers = c.arrayOfArrayHelpers :=
    texts_injective (by simpa [toJson] using hmember "array_of_array_helpers")
  have hmarkup : b.replyMarkupVariants = c.replyMarkupVariants :=
    texts_injective (by simpa [toJson] using hmember "reply_markup_variants")
  cases b
  cases c
  congr

/-- Bindings are written as the same records just if they are the same. -/
theorem Bindings.records_inj {b c : Bindings} : b.records = c.records ↔ b = c := by
  constructor
  · intro h
    have hpretty : b.toJson.pretty = c.toJson.pretty := String.ofList_injective h
    exact Bindings.toJson_injective (Value.pretty_injective hpretty)
  · intro h
    rw [h]

end BotBindings
