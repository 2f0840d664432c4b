import BotBindings.Proofs.Classification
import BotBindings.Proofs.Document
import BotBindings.Proofs.MethodOutline

namespace BotBindings

open Code

namespace Descriptor

variable {d : Descriptor}

theorem uploadType_mem_borrowedLeaves :
    (∃ l ∈ d.borrowedLeaves, l.name = uploadType) ↔ d.isUpload = true := by
  unfold borrowedLeaves
  split
  · decide
  · exact uploadType_mem_leaves

end Descriptor

namespace Parameter

/-- How a parameter is handed over and sent agrees with what it is described as. -/
structure Coherent (p : Parameter) : Prop where
  strategy : p.strategy = .fileUpload ↔ p.descriptor = .object uploadType
  passing : p.passing = .fileUpload ↔ p.descriptor = .object uploadType
  markup : p.passing = .replyMarkup → p.descriptor.isUpload = false

variable {p : Parameter}

/-- A parameter is spelled with files to upload if it is described with them. -/
theorem Coherent.uploadType_mem_leaves (hp : p.Coherent) {plain : List Leaf}
    (h : (∃ l ∈ plain, l.name = uploadType) ↔ p.descriptor.isUpload = true) :
    (∃ l ∈ p.passing.leaves plain, l.name = uploadType) ↔ p.descriptor.isUpload = true := by
  cases hpass : p.passing with
  | plain => exact h
  | fileUpload =>
    have hd : p.descriptor = .object uploadType := hp.passing.1 hpass
    rw [hd]
    exact iff_of_true ⟨_, List.mem_singleton_self _, rfl⟩ rfl
  | replyMarkup =>
    rw [hp.markup hpass]
    simp [Passing.leaves, Leaf.name, uploadType]

theorem Coherent.uploadType_mem_argLeaves (hp : p.Coherent) :
    (∃ l ∈ p.argLeaves, l.name = uploadType) ↔ p.descriptor.isUpload = true :=
  hp.uploadType_mem_leaves Descriptor.uploadType_mem_borrowedLeaves

theorem Coherent.uploadType_mem_optionLeaves (hp : p.Coherent) :
    (∃ l ∈ p.optionLeaves, l.name = uploadType) ↔ p.descriptor.isUpload = true :=
  hp.uploadType_mem_leaves Descriptor.uploadType_mem_leaves

end Parameter

theorem Schema.Field.coherent_parameter (f : Field) : f.parameter.Coherent := by
  have hc := f.classifiedAs_parameter
  refine ⟨hc.upload, hc.passedUpload.trans hc.upload, fun hp => ?_⟩
  have hvariant : ∀ token ∈ markupVariants, (Descriptor.object token).isUpload = false := by decide
  obtain ⟨token, ht, hd⟩ := exists_ofToken_of_isMarkupSet (isMarkupSet_iff.2 (hc.markup.1 hp))
  change f.parameter.descriptor = _ at hd
  rw [hd, hvariant token ht]

theorem MethodBinding.mem_allParams {m : MethodBinding} {p : Parameter} :
    p ∈ m.allParams ↔ p ∈ m.signature.params ∨ ∃ o ∈ m.options, p ∈ o.fields := by
  unfold allParams
  cases m.options <;> simp

theorem optionsName_ne_uploadType (method : String) : optionsName method ≠ uploadType := by
  intro h
  -- the two names end in different letters
  have hl : (optionsName method).toList.getLast? = some 's' := by
    rw [optionsName, String.toList_append, List.getLast?_append]
    rfl
  rw [h] at hl
  exact absurd hl (by decide)

/-- The parameters of a method are coherent, and its options do not go by the name of files. -/
structure MethodBinding.Coherent (m : MethodBinding) : Prop where
  params : ∀ p ∈ m.allParams, p.Coherent
  options : ∀ name ∈ m.signature.optionsParam, name ≠ uploadType

namespace Schema.MethodEntry

theorem coherent_binding (m : MethodEntry) : m.binding.Coherent where
  params := by
    intro p hp
    obtain ⟨f, -, rfl⟩ := exists_field_of_mem_allParams hp
    exact f.coherent_parameter
  options := by
    intro name hn
    rw [name_optionsParam_binding hn]
    exact optionsName_ne_uploadType m.name

end Schema.MethodEntry

namespace Crate

theorem mention_mem_methodOutline {m : MethodBinding} {l : Leaf} :
    .mention l ∈ methodOutline m ↔
      (∃ o ∈ m.options, ∃ p ∈ o.fields, l ∈ p.optionLeaves) ∨ l = .builtin "Bot" ∨
      (∃ p ∈ m.signature.params, l ∈ p.argLeaves) ∨
      (∃ name ∈ m.signature.optionsParam, l = .object name) ∨
      l ∈ m.returns.descriptor.leaves ∨ l = .builtin "BotError" := by
  have ho : .mention l ∈ m.options.toList.flatMap optionsOutline ↔
      ∃ o ∈ m.options, ∃ p ∈ o.fields, l ∈ p.optionLeaves := by
    simp [optionsOutline, mem_mentions]
  have ha : .mention l ∈ argsOutline m.signature ↔
      (∃ p ∈ m.signature.params, l ∈ p.argLeaves) ∨
      ∃ name ∈ m.signature.optionsParam, l = .object name := by
    simp [argsOutline, mem_mentions, eq_comm]
  rw [methodOutline, List.mem_append, List.mem_append, List.mem_append, ho, ha, mem_mentions,
    mem_mentions, List.mem_append, List.mem_singleton, List.mem_singleton]
  simp only [or_assoc]

theorem upload_mem_methodOutline {m : MethodBinding} (h : m.Coherent) :
    (∃ l, .mention l ∈ methodOutline m ∧ l.name = uploadType) ↔
      (∃ p ∈ m.allParams, p.descriptor.isUpload = true) ∨
        m.returns.descriptor.isUpload = true := by
  -- besides what its parameters and result hold, a method mentions its options and the client
  simp only [mention_mem_methodOutline]
  constructor
  · rintro ⟨l, ⟨o, hm, p, hpo, hl⟩ | rfl | ⟨p, hps, hl⟩ | ⟨name, hn, rfl⟩ | hl | rfl, hu⟩
    · have hall : p ∈ m.allParams := MethodBinding.mem_allParams.2 (.inr ⟨o, hm, hpo⟩)
      exact .inl ⟨p, hall, (h.params p hall).uploadType_mem_optionLeaves.1 ⟨l, hl, hu⟩⟩
    · exact absurd hu (by decide)
    · have hall : p ∈ m.allParams := MethodBinding.mem_allParams.2 (.inl hps)
      exact .inl ⟨p, hall, (h.params p hall).uploadType_mem_argLeaves.1 ⟨l, hl, hu⟩⟩
    · exact absurd hu (h.options name hn)
    · exact .inr (Descriptor.uploadType_mem_leaves.1 ⟨l, hl, hu⟩)
    · exact absurd hu (by decide)
  · rintro (⟨p, hall, hu⟩ | hu)
    · rcases MethodBinding.mem_allParams.1 hall with hps | ⟨o, hm, hpo⟩
      · obtain ⟨l, hl, hn⟩ := (h.params p hall).uploadType_mem_argLeaves.2 hu
        exact ⟨l, .inr (.inr (.inl ⟨p, hps, hl⟩)), hn⟩
      · obtain ⟨l, hl, hn⟩ := (h.params p hall).uploadType_mem_optionLeaves.2 hu
        exact ⟨l, .inl ⟨o, hm, p, hpo, hl⟩, hn⟩
    · obtain ⟨l, hl, hn⟩ := Descriptor.uploadType_mem_leaves.2 hu
      exact ⟨l, .inr (.inr (.inr (.inr (.inl hl)))), hn⟩

variable {b : Bindings} {items : List Item}

/-- The path of the import of files to upload. -/
def uploadImport : String := "crate::bot::\x7bAttachment, InputFile\x7d"

theorem mention_mem_methodsModule (h : methodsModule b = .ok items) {l : Leaf} :
    .mention l ∈ outline items ↔ ∃ m ∈ b.methods, .mention l ∈ methodOutline m := by
  rw [outline_methodsModule h]
  simp only [List.mem_cons, List.mem_append, List.mem_flatMap, reduceCtorEq, false_or]
  constructor
  · rintro ((hl | hl) | hl)
    · split at hl <;> simp at hl
    · split at hl <;> simp at hl
    · exact hl
  · exact .inr

theorem use_not_mem_methodOutline {m : MethodBinding} {path : String} :
    .use path ∉ methodOutline m := by
  simp [methodOutline, optionsOutline, argsOutline, mentions]

theorem uploadImport_mem_methodsModule (h : methodsModule b = .ok items) :
    .use uploadImport ∈ outline items ↔ b.hasUpload = true := by
  have hm : .use uploadImport ∉ b.methods.flatMap methodOutline := by
    simp [use_not_mem_methodOutline]
  rw [outline_methodsModule h, List.mem_cons, List.mem_append, List.mem_append]
  constructor
  · rintro (hu | (hu | hu) | hu)
    · exact absurd hu (by decide)
    · split at hu
      · assumption
      · cases hu
    · split at hu
      · cases hu
      · exact absurd hu (by decide)
    · exact (hm hu).elim
  · intro hu
    rw [if_pos hu]
    exact .inr (.inl (.inl (List.mem_singleton_self _)))

theorem hasUpload_iff (h : ∀ m ∈ b.methods, m.Coherent) :
    b.hasUpload = true ↔
      ∃ m ∈ b.methods, ∃ p ∈ m.allParams, p.descriptor = .object uploadType := by
  simp only [Bindings.hasUpload, MethodBinding.hasUpload, List.any_eq_true, decide_eq_true_eq]
  constructor
  · rintro ⟨m, hm, p, hpm, hu⟩
    exact ⟨m, hm, p, hpm, ((h m hm).params p hpm).strategy.1 hu⟩
  · rintro ⟨m, hm, p, hpm, hu⟩
    exact ⟨m, hm, p, hpm, ((h m hm).params p hpm).strategy.2 hu⟩

end Crate

open Schema Crate

/-- A module of methods imports the files to upload just if a parameter is a single file. So it
imports what it mentions if one is, or if no parameter and no result holds such files at all. -/
theorem Bindings.ofDocument_uploadImport {d : Document} {b : Bindings}
    (h : (ofDocument (some d)).1 = .ok b) {items : List Item} (hi : methodsModule b = .ok items) :
    (.use uploadImport ∈ outline items ↔
      ∃ m ∈ b.methods, ∃ p ∈ m.allParams, p.descriptor = .object uploadType) ∧
    ((∃ leaf, .mention leaf ∈ outline items ∧ leaf.name = uploadType) ↔
      ∃ m ∈ b.methods, (∃ p ∈ m.allParams, p.descriptor.isUpload = true) ∨
        m.returns.descriptor.isUpload = true) ∧
    (((∃ leaf, .mention leaf ∈ outline items ∧ leaf.name = uploadType) →
        .use uploadImport ∈ outline items) ↔
      (∃ m ∈ b.methods, ∃ p ∈ m.allParams, p.descriptor = .object uploadType) ∨
        ∀ m ∈ b.methods, (∀ p ∈ m.allParams, p.descriptor.isUpload = false) ∧
          m.returns.descriptor.isUpload = false) := by
  obtain ⟨-, -, rfl⟩ := ofDocument_eq_ok_iff.1 h
  have hc : ∀ m ∈ d.bindings.methods, m.Coherent := by
    intro m hm
    obtain ⟨e, -, rfl⟩ := List.mem_map.1 hm
    exact e.coherent_binding
  have himport : .use uploadImport ∈ outline items ↔
      ∃ m ∈ d.bindings.methods, ∃ p ∈ m.allParams, p.descriptor = .object uploadType := by
    rw [uploadImport_mem_methodsModule hi, hasUpload_iff hc]
  have hmention : (∃ leaf, .mention leaf ∈ outline items ∧ leaf.name = uploadType) ↔
      ∃ m ∈ d.bindings.methods, (∃ p ∈ m.allParams, p.descriptor.isUpload = true) ∨
        m.returns.descriptor.isUpload = true := by
    constructor
    · rintro ⟨leaf, hl, hn⟩
      obtain ⟨m, hm, hl⟩ := (mention_mem_methodsModule hi).1 hl
      exact ⟨m, hm, (upload_mem_methodOutline (hc m hm)).1 ⟨leaf, hl, hn⟩⟩
    · rintro ⟨m, hm, hu⟩
      obtain ⟨leaf, hl, hn⟩ := (upload_mem_methodOutline (hc m hm)).2 hu
      exact ⟨leaf, (mention_mem_methodsModule hi).2 ⟨m, hm, hl⟩, hn⟩
  refine ⟨himport, hmention, ?_⟩
  rw [himport, hmention, imp_iff_or_not]
  simp

/-- A single file is a parameter of one method, and a list of files an option of another. -/
def post : Document where
  types := ⟨[("InputFile", { name := "InputFile" }), ("Message", { name := "Message" })], by decide⟩
  methods := ⟨[
    ("sendPhoto", {
      name := "sendPhoto"
      fields := some [⟨"photo", ["InputFile", "String"], true, ""⟩]
      returns := ["Message"] }),
    ("sendAlbum", {
      name := "sendAlbum"
      fields := some [⟨"photos", ["Array of InputFile"], false, ""⟩]
      returns := ["Message"] })], by decide⟩

theorem Bindings.ofDocument_uploadImport_post :
    ∃ b items, (ofDocument (some post)).1 = .ok b ∧ methodsModule b = .ok items ∧
      (∃ leaf, .mention leaf ∈ outline items ∧ leaf.name = uploadType) ∧
      .use uploadImport ∈ outline items := by
  have h : (ofDocument (some post)).1 = .ok post.bindings :=
    ofDocument_of_check rfl (by decide)
  obtain ⟨items, hi⟩ : ∃ items, methodsModule post.bindings = .ok items :=
    exists_eq_ok (by decide +kernel)
  obtain ⟨himport, hmention, -⟩ := ofDocument_uploadImport h hi
  exact ⟨_, items, h, hi, hmention.2 (by decide), himport.2 (by decide)⟩

/-- A parameter is a list of files, and none is a single one. -/
def parcel : Document where
  types := ⟨[("InputFile", { name := "InputFile" }), ("Message", { name := "Message" })], by decide⟩
  methods := ⟨[("sendAlbum", {
    name := "sendAlbum"
    fields := some [⟨"photos", ["Array of InputFile"], true, ""⟩]
    returns := ["Message"] })], by decide⟩

/-- A module of methods may mention files to upload without importing them. -/
theorem Bindings.exists_missing_import :
    ¬ ∀ (d : Document) (b : Bindings), (ofDocument (some d)).1 = .ok b →
      (∃ t ∈ d.types.values, t.name = uploadType ∧ t.isMarker = true) →
      ∀ items, methodsModule b = .ok items →
      (∃ leaf, .mention leaf ∈ outline items ∧ leaf.name = uploadType) →
      .use uploadImport ∈ outline items := by
  intro hall
  have h : (ofDocument (some parcel)).1 = .ok parcel.bindings :=
    ofDocument_of_check rfl (by decide)
  obtain ⟨items, hi⟩ : ∃ items, methodsModule parcel.bindings = .ok items :=
    exists_eq_ok (by decide +kernel)
  have hmention : .mention (.object uploadType) ∈ outline items :=
    (mention_mem_methodsModule hi).2 ⟨_, .head _, by decide⟩
  have himport : .use uploadImport ∈ outline items :=
    hall _ _ h (by decide) items hi ⟨_, hmention, rfl⟩
  exact absurd ((uploadImport_mem_methodsModule hi).1 himport) (by decide)

end BotBindings
