import BotBindings.Proofs.Glue
import BotBindings.Proofs.Helpers
import BotBindings.Proofs.Parameters

namespace BotBindings

open Code

/-- The type of an argument that is a scalar. -/
def Scalar.argTy : Scalar → Ty
  | string => .ref (.path "str")
  | int64 => .path "i64"
  | float64 => .path "f64"
  | bool => .path "bool"

/-- The type of an option that is a scalar. -/
def Scalar.optionTy : Scalar → Ty
  | string => .path "String"
  | int64 => .path "i64"
  | float64 => .path "f64"
  | bool => .path "bool"

/-- Only the name of an object can keep a descriptor from having a type. -/
theorem Descriptor.exists_of_ty_error {d : Descriptor} {fault : IdentFault}
    (h : d.ty = .error fault) :
    ∃ name, d.elementObject? = some name ∧ typeIdent name = .error fault := by
  induction d with
  | scalar kind => cases h
  | object name =>
    have ht : typeIdent name = .error fault := map_eq_error_iff.1 h
    exact ⟨name, rfl, ht⟩
  | array d ih | arrayOfArray d ih => exact ih (map_eq_error_iff.1 h)

/-- What is handed over as it is and is no scalar is borrowed. -/
theorem exists_paramTy_eq_map_ref {d : Descriptor} (hd : ∀ kind, d ≠ .scalar kind) :
    ∃ borrowed : Except IdentFault Ty, paramTy .plain d = borrowed.map .ref ∧
      ∀ fault, borrowed = .error fault →
        ∃ name, d.elementObject? = some name ∧ typeIdent name = .error fault := by
  cases d with
  | scalar kind => exact absurd rfl (hd kind)
  | object name =>
    exact ⟨objectTy name, rfl, fun fault h => Descriptor.exists_of_ty_error (d := .object name) h⟩
  | array e =>
    refine ⟨e.ty.map .slice, ?_, fun fault h => ?_⟩
    · change e.ty.map _ = _
      cases e.ty <;> rfl
    · exact Descriptor.exists_of_ty_error (d := e) (map_eq_error_iff.1 h)
  | arrayOfArray e =>
    refine ⟨e.ty.map fun t => .slice t.vec, ?_, fun fault h => ?_⟩
    · change e.ty.map _ = _
      cases e.ty <;> rfl
    · exact Descriptor.exists_of_ty_error (d := e) (map_eq_error_iff.1 h)

namespace Schema.Field

/-- How a parameter is classified from a field. A borrowed parameter has no type only if the name of
its object is no identifier. -/
structure ClassifiedAs (f : Field) (p : Parameter) : Prop where
  wireName : p.wireName = f.name
  scalar : ∀ kind : Scalar, p.strategy = kind.strategy ↔ p.descriptor = .scalar kind
  scalarTypes : ∀ kind : Scalar, p.descriptor = .scalar kind →
    paramTy p.passing p.descriptor = .ok kind.argTy ∧
      optionTy p.passing p.descriptor = .ok kind.optionTy
  upload : p.strategy = .fileUpload ↔ p.descriptor = .object uploadType
  passedUpload : p.passing = .fileUpload ↔ p.strategy = .fileUpload
  json : p.strategy = .json ↔
    (∀ kind, p.descriptor ≠ .scalar kind) ∧ p.descriptor ≠ .object uploadType
  reference : p.strategy = .json →
    (∃ t, paramTy p.passing p.descriptor = .ok (.ref t)) ∨
      ∃ name fault, p.descriptor.elementObject? = some name ∧ typeIdent name = .error fault ∧
        paramTy p.passing p.descriptor = .error fault
  markup : p.passing = .replyMarkup ↔ ∀ token, token ∈ f.types ↔ token ∈ markupVariants
  markupTypes : p.passing = .replyMarkup →
    paramTy p.passing p.descriptor = .ok (.ref (.path "ReplyMarkup")) ∧
      optionTy p.passing p.descriptor = .ok (.path "ReplyMarkup")

variable {f : Field}

theorem classifiedAs_parameter (f : Field) : f.ClassifiedAs f.parameter := by
  have hpassing : f.parameter.passing = if isMarkupSet f.types then .replyMarkup
      else if f.parameter.descriptor = .object uploadType then .fileUpload else .plain := rfl
  have hstrategy : f.parameter.strategy = .ofDescriptor f.parameter.descriptor := rfl
  have hmarkup : f.parameter.passing = .replyMarkup ↔ isMarkupSet f.types = true := by
    rw [hpassing]
    split_ifs <;> simp_all
  -- a reply markup is an object of its own
  have hobject : isMarkupSet f.types = true →
      (∀ kind, f.parameter.descriptor ≠ .scalar kind) ∧
        f.parameter.descriptor ≠ .object uploadType := by
    intro hm
    obtain ⟨token, ht, hd⟩ := exists_ofToken_of_isMarkupSet hm
    change f.parameter.descriptor = _ at hd
    have hne : ∀ token ∈ markupVariants, Descriptor.object token ≠ .object uploadType := by decide
    rw [hd]
    exact ⟨nofun, hne token ht⟩
  have hplain : isMarkupSet f.types = false → f.parameter.descriptor ≠ .object uploadType →
      f.parameter.passing = .plain := by
    intro hm hd
    rw [hpassing, hm, if_neg Bool.false_ne_true, if_neg hd]
  refine ⟨rfl, fun kind => ?_, fun kind hd => ?_, ?_, ?_, ?_, fun hs => ?_, ?_, fun hp => ?_⟩
  · rw [hstrategy, Strategy.ofDescriptor_eq_strategy_iff]
  · have hm : isMarkupSet f.types = false := by
      rw [← Bool.not_eq_true]
      exact fun hm => (hobject hm).1 kind hd
    rw [hplain hm (by simp [hd]), hd]
    cases kind <;> exact ⟨rfl, rfl⟩
  · rw [hstrategy, Strategy.ofDescriptor_eq_fileUpload_iff]
  · rw [hstrategy, Strategy.ofDescriptor_eq_fileUpload_iff, hpassing]
    split_ifs with hm hd
    · simp [(hobject hm).2]
    · simp [hd]
    · simp [hd]
  · rw [hstrategy, Strategy.ofDescriptor_eq_json_iff]
  · rw [hstrategy, Strategy.ofDescriptor_eq_json_iff] at hs
    cases hm : isMarkupSet f.types with
    | true =>
      rw [hmarkup.2 hm]
      exact .inl ⟨_, rfl⟩
    | false =>
      rw [hplain hm hs.2]
      obtain ⟨borrowed, hb, hfault⟩ := exists_paramTy_eq_map_ref hs.1
      rw [hb]
      cases borrowed with
      | ok t => exact .inl ⟨t, rfl⟩
      | error fault =>
        obtain ⟨name, hn, ht⟩ := hfault fault rfl
        exact .inr ⟨name, fault, hn, ht, rfl⟩
  · rw [hmarkup, isMarkupSet_iff]
  · rw [hp]
    exact ⟨rfl, rfl⟩

end Schema.Field

namespace Crate

theorem markupItems_markupVariants :
    ∃ docs attributes conversions, markupItems markupVariants =
      .ok (.sum docs attributes "ReplyMarkup" (markupVariants.map (⟨false, ·⟩)) :: conversions) := by
  have hidents : markupVariants.mapM typeIdent =
      (.ok (markupVariants.map (⟨false, ·⟩)) : Except IdentFault (List Ident)) := by
    decide +kernel
  unfold markupItems
  rw [if_neg (by decide), hidents]
  exact ⟨_, _, _, rfl⟩

/-- The sum of the reply markups stands among the items of the module of types. -/
theorem markupItems_of_typesModule {b : Bindings} {items : List Item}
    (h : typesModule b = .ok items) :
    ∃ markup, markupItems b.replyMarkupVariants = .ok markup ∧ markup ⊆ items := by
  obtain ⟨declarations, markup, traits, helpers, -, hm, -, -, rfl⟩ := typesModule_eq_ok h
  refine ⟨markup, hm, fun item hitem => ?_⟩
  simp [hitem]

end Crate

namespace Schema.Document

variable {d : Document}

/-- A parameter that takes any reply markup names all of them, so all of them are declared. -/
theorem replyMarkupVariants_eq (hd : d.firstUnresolvable? = none) {m : MethodEntry}
    (hm : m ∈ d.methods.values) {f : Field} (hf : f ∈ m.fieldList)
    (hp : f.parameter.passing = .replyMarkup) : d.bindings.replyMarkupVariants = markupVariants := by
  have htypes := f.classifiedAs_parameter.markup.1 hp
  refine List.filter_eq_self.2 fun token ht => ?_
  have hvisited : token ∈ d.visited :=
    mem_visited.2 (.inr (.inr (.inl ⟨m, hm, f, hf, (htypes token).2 ht⟩)))
  have hkey : token ∈ d.types.keys := mem_keys_of_visited hd hvisited (by
    rw [ofToken_of_mem_markupVariants token ht]
    rfl)
  exact List.contains_iff_mem.2 hkey

theorem KeyedByName.mem_replyMarkupVariants (hk : d.KeyedByName) {name : String} :
    name ∈ d.bindings.replyMarkupVariants ↔
      ∃ t ∈ d.bindings.types, t.replyMarkupVariant = true ∧ t.name = name := by
  have hflag : ∀ t ∈ d.bindings.types, t.replyMarkupVariant = markupVariants.contains t.name := by
    intro t ht
    obtain ⟨e, -, rfl⟩ := List.mem_map.1 ht
    rfl
  change name ∈ markupVariants.filter d.types.has ↔ _
  rw [List.mem_filter, Table.has, List.contains_iff_mem, ← hk.map_name, List.mem_map]
  constructor
  · rintro ⟨hn, t, ht, rfl⟩
    exact ⟨t, ht, (hflag t ht).trans (List.contains_iff_mem.2 hn), rfl⟩
  · rintro ⟨t, ht, hr, rfl⟩
    exact ⟨List.contains_iff_mem.1 ((hflag t ht).symm.trans hr), t, ht, rfl⟩

end Schema.Document

open Schema Crate

/-- The parameters of every method are classified as their fields say. If one of them takes any reply
markup, the sum of all of them is generated. -/
theorem Bindings.ofDocument_classified {d : Document} {b : Bindings}
    (h : (ofDocument (some d)).1 = .ok b) :
    List.Forall₂ (fun (m : MethodEntry) mb => mb.name = m.name ∧
      List.Forall₂ Field.ClassifiedAs (m.requiredFields ++ m.optionalFields) mb.allParams)
      d.methods.values b.methods ∧
    (∀ m ∈ b.methods, ∀ p ∈ m.allParams, p.passing = .replyMarkup →
      b.replyMarkupVariants = markupVariants ∧
      ∃ docs attributes conversions, markupItems b.replyMarkupVariants = .ok
          (.sum docs attributes "ReplyMarkup" (markupVariants.map (⟨false, ·⟩)) :: conversions) ∧
        ∀ items, typesModule b = .ok items →
          .sum docs attributes "ReplyMarkup" (markupVariants.map (⟨false, ·⟩)) ∈ items) ∧
    (d.KeyedByName → ∀ name, name ∈ b.replyMarkupVariants ↔
      ∃ t ∈ b.types, t.replyMarkupVariant = true ∧ t.name = name) := by
  obtain ⟨-, hd, rfl⟩ := ofDocument_eq_ok_iff.1 h
  refine ⟨?_, fun m hm p hp hr => ?_, fun hk name => hk.mem_replyMarkupVariants⟩
  · refine List.forall₂_map_right_iff.2 (List.forall₂_same.2 fun m _ => ⟨rfl, ?_⟩)
    rw [MethodEntry.allParams_binding]
    exact List.forall₂_map_right_iff.2 (List.forall₂_same.2 fun f _ => f.classifiedAs_parameter)
  · obtain ⟨e, he, rfl⟩ := List.mem_map.1 hm
    obtain ⟨f, hf, rfl⟩ := MethodEntry.exists_field_of_mem_allParams hp
    have hall := Document.replyMarkupVariants_eq hd he hf hr
    obtain ⟨docs, attributes, conversions, hmarkup⟩ := markupItems_markupVariants
    refine ⟨hall, docs, attributes, conversions, by rw [hall, hmarkup], fun items hi => ?_⟩
    obtain ⟨markup, hitems, hsub⟩ := markupItems_of_typesModule hi
    rw [hall, hmarkup] at hitems
    cases hitems
    exact hsub List.mem_cons_self

/-- A message takes any reply markup. The last of them is named first, and once more. -/
def reply : Document where
  types := ⟨[
    ("InlineKeyboardMarkup", { name := "InlineKeyboardMarkup" }),
    ("ReplyKeyboardMarkup", { name := "ReplyKeyboardMarkup" }),
    ("ReplyKeyboardRemove", { name := "ReplyKeyboardRemove" }),
    ("ForceReply", { name := "ForceReply" }), ("InputFile", { name := "InputFile" }),
    ("Message", { name := "Message" })], by decide⟩
  methods := ⟨[("sendPhoto", {
    name := "sendPhoto"
    fields := some [⟨"chat_id", ["Integer", "String"], true, ""⟩,
      ⟨"reply_markup", "ForceReply" :: markupVariants, false, ""⟩,
      ⟨"photo", ["InputFile"], true, ""⟩, ⟨"others", ["Array of InputFile"], false, ""⟩]
    returns := ["Message"] })], by decide⟩

theorem Bindings.ofDocument_classified_reply :
    ∃ b, (ofDocument (some reply)).1 = .ok b ∧ reply.KeyedByName ∧
      b.methods.map (fun m => m.allParams.map fun p => (p.wireName, p.strategy, p.passing)) =
        [[("chat_id", .formatInt, .plain), ("photo", .fileUpload, .fileUpload),
          ("reply_markup", .json, .replyMarkup), ("others", .json, .plain)]] ∧
      b.replyMarkupVariants = markupVariants ∧
      (∃ t ∈ b.types, t.replyMarkupVariant = true ∧ t.name = "ForceReply") ∧
      ¬ ∃ t ∈ b.types, t.replyMarkupVariant = true ∧ t.name = "Message" := by
  have h : (ofDocument (some reply)).1 = .ok reply.bindings :=
    ofDocument_of_check rfl (by decide)
  have hk : reply.KeyedByName := by
    unfold Document.KeyedByName
    decide
  obtain ⟨-, hmarkup, hflags⟩ := ofDocument_classified h
  obtain ⟨hall, -⟩ := hmarkup _ (.head _) _ (.tail _ (.tail _ (.head _))) rfl
  refine ⟨_, h, hk, by decide, hall, (hflags hk "ForceReply").1 ?_, fun ht => ?_⟩
  · rw [hall]
    decide
  · have hmem := (hflags hk "Message").2 ht
    rw [hall] at hmem
    exact absurd hmem (by decide)

end BotBindings
