import BotBindings.Proofs.Glue
import BotBindings.Proofs.Helpers

namespace BotBindings

open Code

theorem Descriptor.isUpload_iff {d : Descriptor} :
    d.isUpload = true ↔ d.elementObject? = some uploadType := by
  simp [isUpload]

namespace Crate

variable {b : Bindings} {items : List Item} {name : String}

/-- The types of the language and of libraries that a module of types mentions. -/
def builtins : List String :=
  ["String", "i64", "f64", "bool", "ReplyMarkup", "Self", "serde_json::Value", "serde_json::Error"]

theorem builtin_mem_leaves {d : Descriptor} (h : .builtin name ∈ d.leaves) : name ∈ builtins := by
  induction d with
  | scalar kind => cases kind <;> simp_all [Descriptor.leaves, Scalar.ty, Ty.leaves, builtins]
  | object n => simp [Descriptor.leaves] at h
  | array d ih | arrayOfArray d ih => exact ih h

theorem mention_mem_typeOutline {t : TypeBinding} {l : Leaf} :
    .mention l ∈ typeOutline t ↔
      t.kind ≠ .fileUpload ∧ ∃ f ∈ t.fields, l ∈ f.descriptor.leaves := by
  unfold typeOutline
  split <;> simp_all [mem_mentions]

/-- What is mentioned is mentioned in a field, by the reply markups, by a union or by a helper. -/
theorem mention_mem_outline (h : typesModule b = .ok items) {l : Leaf} :
    .mention l ∈ outline items ↔
      (∃ t ∈ b.types, t.kind ≠ .fileUpload ∧ ∃ f ∈ t.fields, l ∈ f.descriptor.leaves) ∨
      .mention l ∈ markupOutline b.replyMarkupVariants ∨
      (∃ p ∈ b.variantParents, .mention l ∈ variantOutline p.name (variantsOf b p.name)) ∨
      ∃ e ∈ (b.arrayHelpers ++ b.arrayOfArrayHelpers).filter (· ≠ uploadType),
        .mention l ∈ helperOutline e := by
  rw [outline_typesModule h]
  simp only [List.mem_cons, reduceCtorEq, false_or, List.mem_append, List.mem_flatMap,
    mention_mem_typeOutline, or_assoc]

theorem object_mem_outline (h : typesModule b = .ok items) :
    .mention (.object name) ∈ outline items ↔
      (∃ t ∈ b.types, t.kind ≠ .fileUpload ∧
        ∃ f ∈ t.fields, f.descriptor.elementObject? = some name) ∨
      name ∈ b.replyMarkupVariants ∨
      (∃ p ∈ b.variantParents, name = p.name ∨ name ∈ variantsOf b p.name) ∨
      (name ∈ b.arrayHelpers ∨ name ∈ b.arrayOfArrayHelpers) ∧ name ≠ uploadType := by
  rw [mention_mem_outline h]
  simp only [Descriptor.object_mem_leaves]
  refine or_congr_right (or_congr ?_ (or_congr ?_ ?_))
  · simp [markupOutline, mem_mentions]
  · simp [variantOutline, mem_mentions]
  · have hf : name ∈ (b.arrayHelpers ++ b.arrayOfArrayHelpers).filter (· ≠ uploadType) ↔
        (name ∈ b.arrayHelpers ∨ name ∈ b.arrayOfArrayHelpers) ∧ name ≠ uploadType := by
      rw [List.mem_filter, List.mem_append, decide_eq_true_eq]
    rw [← hf]
    simp [helperOutline, mem_mentions]

theorem use_mem_outline (h : typesModule b = .ok items) {path : String} :
    .use path ∈ outline items ↔ path = "serde::\x7bDeserialize, Serialize\x7d" := by
  rw [mem_outline_iff h rfl]
  simp [use_not_mem_declarations]

theorem builtin_mem_outline (h : typesModule b = .ok items)
    (hm : .mention (.builtin name) ∈ outline items) : name ∈ builtins := by
  rcases (mention_mem_outline h).1 hm with ⟨t, -, -, f, -, hl⟩ | hm | ⟨p, -, hm⟩ | ⟨e, -, hm⟩
  · exact builtin_mem_leaves hl
  · have hn : name = "ReplyMarkup" ∨ name = "Self" := by
      have hv : (∃ v, v ∈ b.replyMarkupVariants) ∧ (name = "ReplyMarkup" ∨ name = "Self") := by
        simpa [markupOutline, mem_mentions] using hm
      exact hv.2
    rcases hn with rfl | rfl <;> simp [builtins]
  · have hn : name = "serde_json::Error" := by simpa [variantOutline, mem_mentions] using hm
    simp [hn, builtins]
  · have hn : name = "serde_json::Value" ∨ name = "serde_json::Error" := by
      simpa [helperOutline, mem_mentions] using hm
    rcases hn with rfl | rfl <;> simp [builtins]

end Crate

namespace Schema

theorem TypeEntry.kind_eq_fileUpload_iff {t : TypeEntry} :
    t.kind = .fileUpload ↔ t.isMarker = true ∧ t.name = uploadType := by
  unfold kind isMarker
  split_ifs <;> simp_all

namespace Document

open Crate

variable {d : Document} {items : List Item} {name : String}

/-- A name of a type that is declared among the types. -/
def Declares (d : Document) (name : String) : Prop :=
  ∃ t ∈ d.types.values, t.name = name ∧ t.kind ≠ .fileUpload

theorem struct_mem_outline (h : typesModule d.bindings = .ok items) :
    .struct name ∈ outline items ↔ d.Declares name := by
  rw [mem_outline_iff h rfl, mem_declarations]
  constructor
  · rintro (hx | ⟨t, ht, hk, hx⟩ | ⟨p, -, hx | ⟨s, -, hx⟩⟩)
    · cases hx
    · obtain ⟨u, hu, rfl⟩ := List.mem_map.1 ht
      exact ⟨u, hu, OutlineEntry.struct.inj hx, hk⟩
    · cases hx
    · cases hx
  · rintro ⟨t, ht, rfl, hk⟩
    exact .inr (.inl ⟨_, List.mem_map_of_mem ht, hk, rfl⟩)

theorem KeyedByName.declares_of_ne (hk : d.KeyedByName) (h : name ∈ d.types.keys)
    (hn : name ≠ uploadType) : d.Declares name := by
  obtain ⟨t, ht, rfl⟩ := hk.mem_keys.1 h
  exact ⟨t, ht, rfl, fun hu => hn (TypeEntry.kind_eq_fileUpload_iff.1 hu).2⟩

/-- A union is declared, whatever its name. -/
theorem declares_of_isUnion {t : TypeEntry} (ht : t ∈ d.types.values) (hu : t.isUnion = true) :
    d.Declares t.name := by
  refine ⟨t, ht, rfl, fun hk => ?_⟩
  have hm : t.isMarker = true := (TypeEntry.kind_eq_fileUpload_iff.1 hk).1
  simp [TypeEntry.isMarker, hu] at hm

theorem KeyedByName.not_declares (hk : d.KeyedByName)
    (hm : ∃ t ∈ d.types.values, t.name = uploadType ∧ t.isMarker = true) :
    ¬ d.Declares uploadType := by
  rintro ⟨t, ht, hn, hu⟩
  obtain ⟨u, hu', hn', hm⟩ := hm
  have htu : some t = some u := by
    rw [← hk.get?_name ht, ← hk.get?_name hu', hn, hn']
  rw [Option.some.inj htu] at hu
  exact hu (TypeEntry.kind_eq_fileUpload_iff.2 ⟨hm, hn'⟩)

/-- A field holds objects that are known, and none to upload. -/
theorem known_of_field (hd : d.firstUnresolvable? = none) {t : TypeBinding}
    (ht : t ∈ d.bindings.types) {f : DeclaredField} (hf : f ∈ t.fields)
    (hn : f.descriptor.elementObject? = some name) : name ∈ d.types.keys ∧ name ≠ uploadType := by
  obtain ⟨u, hu, rfl⟩ := List.mem_map.1 ht
  obtain ⟨g, hg, hf⟩ := List.mem_filterMap.1 hf
  obtain ⟨token, htoken, he, hdecl, -⟩ := Field.exists_token_of_declaration? hf
  refine ⟨mem_keys_of_visited hd (mem_visited_of_source hu hg htoken) (he ▸ hn), ?_⟩
  -- an alternative with files to upload would have been passed over
  rintro rfl
  simp [Field.declares_eq, Descriptor.isUpload_iff.2 hn] at hdecl

theorem Sound.declares_of_mention (hs : d.Sound) (hk : d.KeyedByName)
    (hd : d.firstUnresolvable? = none) (hu : ∀ t ∈ d.types.values, uploadType ∉ t.subtypeList)
    (h : typesModule d.bindings = .ok items) (hm : .mention (.object name) ∈ outline items) :
    d.Declares name := by
  rcases (object_mem_outline h).1 hm with
    ⟨t, ht, -, f, hf, hn⟩ | hv | ⟨p, hp, hn⟩ | ⟨ha, hn⟩
  · obtain ⟨hkey, hne⟩ := known_of_field hd ht hf hn
    exact hk.declares_of_ne hkey hne
  · obtain ⟨hv, hkey⟩ := List.mem_filter.1 hv
    refine hk.declares_of_ne (List.contains_iff_mem.1 hkey) ?_
    rintro rfl
    exact absurd hv (by decide)
  · -- a union is declared under any name, but a subtype only if it has no files to upload
    rcases hn with rfl | hn
    · obtain ⟨t, ht, hunion, rfl⟩ := mem_variantParents.1 hp
      exact declares_of_isUnion ht hunion
    · obtain ⟨t, ht, hsub, -⟩ := (hs.mem_variantsOf hk).1 hn
      refine hk.declares_of_ne (List.contains_iff_mem.1 (hs.subtypes t ht name hsub)) ?_
      rintro rfl
      exact hu t ht hsub
  · refine hk.declares_of_ne ?_ hn
    rcases ha with ha | ha
    · exact ((mem_arrayHelpers_iff hd).1 ha).1
    · exact ((mem_arrayOfArrayHelpers_iff hd).1 ha).1

end Document

end Schema

open Schema Crate

/-- If no union lists the files to upload, the module of types declares each object that it
mentions, once. If these files have no fields, it neither declares nor mentions nor imports them. -/
theorem Bindings.ofDocument_closed {d : Document} {b : Bindings}
    (h : (ofDocument (some d)).1 = .ok b) (hk : d.KeyedByName)
    (hu : ∀ t ∈ d.types.values, uploadType ∉ t.subtypeList) {items : List Item}
    (hi : typesModule b = .ok items) :
    (∀ name, .mention (.object name) ∈ outline items →
      (outline items).count (.struct name) = 1) ∧
    (∀ path, .use path ∈ outline items → path = "serde::\x7bDeserialize, Serialize\x7d") ∧
    ((∃ t ∈ d.types.values, t.name = uploadType ∧ t.isMarker = true) →
      .struct uploadType ∉ outline items ∧
      ∀ leaf, .mention leaf ∈ outline items → leaf.name ≠ uploadType) := by
  obtain ⟨hs, hd, rfl⟩ := ofDocument_eq_ok_iff.1 h
  have hdeclared (name : String) (hm : .mention (.object name) ∈ outline items) :
      d.Declares name := hs.declares_of_mention hk hd hu hi hm
  refine ⟨fun name hm => ?_, fun path hp => ?_, fun hmarker => ⟨fun hstruct => ?_, ?_⟩⟩
  · exact hk.count_eq_one hi rfl ((Document.struct_mem_outline hi).2 (hdeclared name hm))
  · exact (use_mem_outline hi).1 hp
  · exact hk.not_declares hmarker ((Document.struct_mem_outline hi).1 hstruct)
  · rintro (name | name) hm rfl
    · exact hk.not_declares hmarker (hdeclared _ hm)
    · exact absurd (builtin_mem_outline hi hm) (by decide)

/-- Files to upload are an alternative of a field, and a method returns a list of them. -/
def gallery : Document where
  types := ⟨[
    ("Media", { name := "Media", subtypes := some ["Photo", "Video"] }),
    ("Photo", { name := "Photo", fields := some [⟨"file", ["InputFile", "String"], true, ""⟩] }),
    ("Video", { name := "Video", fields := some [⟨"covers", ["Array of Photo"], false, ""⟩] }),
    ("ForceReply", { name := "ForceReply" }),
    ("InputFile", { name := "InputFile" })], by decide⟩
  methods := ⟨[("files", { name := "files", returns := ["Array of InputFile"] })], by decide⟩

theorem Bindings.ofDocument_closed_gallery :
    gallery.KeyedByName ∧ ∃ b items, (ofDocument (some gallery)).1 = .ok b ∧
      typesModule b = .ok items ∧ .mention (.object "Photo") ∈ outline items ∧
      (outline items).count (.struct "Photo") = 1 ∧
      uploadType ∈ b.arrayHelpers ∧ .mention (.object uploadType) ∉ outline items := by
  have hk : gallery.KeyedByName := by
    unfold Document.KeyedByName
    decide
  have h : (ofDocument (some gallery)).1 = .ok gallery.bindings :=
    ofDocument_of_check rfl (by decide)
  obtain ⟨items, hi⟩ : ∃ items, typesModule gallery.bindings = .ok items :=
    exists_eq_ok (by decide +kernel)
  obtain ⟨hc, -, hm⟩ := ofDocument_closed h hk (by decide) hi
  have hmarker : ∃ t ∈ gallery.types.values, t.name = uploadType ∧ t.isMarker = true := by decide
  have hphoto : .mention (.object "Photo") ∈ outline items := by
    rw [object_mem_outline hi]
    decide
  have hupload : uploadType ∈ gallery.bindings.arrayHelpers :=
    Document.mem_arrayHelpers.2 (by decide)
  exact ⟨hk, _, items, h, hi, hphoto, hc _ hphoto, hupload,
    fun hf => (hm hmarker).2 _ hf rfl⟩

end BotBindings
