import BotBindings.Proofs.Conversion
import BotBindings.Proofs.Outline

namespace BotBindings

open Code

theorem Code.filter_mentions (ls : List Leaf) :
    (mentions ls).filter (!·.isMention) = [] := by
  simp [mentions, OutlineEntry.isMention]

namespace Crate

/-- What a module of types declares. -/
def declarations (b : Bindings) : List OutlineEntry :=
  (b.types.flatMap fun t => if t.kind = .fileUpload then [] else [.struct t.name]) ++
    b.variantParents.flatMap fun p => .trait (p.name ++ "Variant") ::
      (variantsOf b p.name).map (.implements (p.name ++ "Variant") · 0)

theorem filter_typeOutline (t : TypeBinding) :
    (typeOutline t).filter (!·.isMention) =
      if t.kind = .fileUpload then [] else [.struct t.name] := by
  unfold typeOutline
  split
  · rfl
  · rw [List.filter_cons_of_pos rfl, List.filter_flatMap]
    simp [filter_mentions]

theorem filter_variantOutline (parent : String) (subtypes : List String) :
    (variantOutline parent subtypes).filter (!·.isMention) = .trait (parent ++ "Variant") ::
      subtypes.map (.implements (parent ++ "Variant") · 0) := by
  unfold variantOutline
  rw [List.cons_append, List.filter_cons_of_pos rfl, List.filter_append, filter_mentions,
    List.filter_flatMap, List.map_eq_flatMap]
  rfl

theorem declared_typesModule {b : Bindings} {items : List Item} (h : typesModule b = .ok items) :
    (outline items).filter (!·.isMention) =
      .use "serde::\x7bDeserialize, Serialize\x7d" :: declarations b := by
  have hm : (markupOutline b.replyMarkupVariants).filter (!·.isMention) = [] := by
    simp [markupOutline, List.filter_flatMap, filter_mentions]
  rw [outline_typesModule h, List.filter_cons_of_pos rfl, List.filter_append, List.filter_append,
    List.filter_append, hm, List.filter_flatMap, List.filter_flatMap, List.filter_flatMap]
  simp [filter_typeOutline, filter_variantOutline, helperOutline, filter_mentions, declarations]

theorem mem_outline_iff {b : Bindings} {items : List Item} (h : typesModule b = .ok items)
    {e : OutlineEntry} (he : e.isMention = false) :
    e ∈ outline items ↔ e = .use "serde::\x7bDeserialize, Serialize\x7d" ∨ e ∈ declarations b := by
  rw [← List.mem_cons, ← declared_typesModule h, List.mem_filter, he]
  exact (and_iff_left rfl).symm

theorem mem_declarations {b : Bindings} {e : OutlineEntry} :
    e ∈ declarations b ↔
      (∃ t ∈ b.types, t.kind ≠ .fileUpload ∧ .struct t.name = e) ∨
      ∃ p ∈ b.variantParents, .trait (p.name ++ "Variant") = e ∨
        ∃ s ∈ variantsOf b p.name, .implements (p.name ++ "Variant") s 0 = e := by
  have hs (t : TypeBinding) :
      e ∈ (if t.kind = .fileUpload then [] else [OutlineEntry.struct t.name]) ↔
        t.kind ≠ .fileUpload ∧ .struct t.name = e := by
    split_ifs with hk
    · simp [hk]
    · simp [hk, eq_comm]
  simp only [declarations, List.mem_append, List.mem_flatMap, hs, List.mem_cons, List.mem_map,
    eq_comm (a := e)]

theorem use_not_mem_declarations {b : Bindings} {path : String} : .use path ∉ declarations b := by
  simp [mem_declarations]

/-- Entries that carry the names of types with distinct names are distinct. -/
theorem nodup_entries {ts : List TypeBinding} (hn : ts.Pairwise (·.name ≠ ·.name))
    {entries : TypeBinding → List OutlineEntry} (h : ∀ t, (entries t).Nodup)
    (hname : ∀ t u, ∀ e ∈ entries t, e ∈ entries u → t.name = u.name) :
    (ts.flatMap entries).Nodup :=
  List.nodup_flatMap.2 ⟨fun t _ => h t, hn.imp fun hne e he he' => hne (hname _ _ e he he')⟩

end Crate

namespace Schema.Document

open Crate

variable {d : Document}

theorem KeyedByName.map_name (hk : d.KeyedByName) :
    d.bindings.types.map (·.name) = d.types.keys := by
  have hn : d.bindings.types.map (·.name) = d.types.entries.map (·.2.name) := by
    simp [bindings, Table.values, TypeEntry.binding]
  rw [hn]
  exact (List.map_congr_left hk).symm

theorem KeyedByName.nodup_name (hk : d.KeyedByName) : (d.bindings.types.map (·.name)).Nodup := by
  rw [hk.map_name]
  exact d.types.nodup

theorem KeyedByName.mem_keys (hk : d.KeyedByName) {name : String} :
    name ∈ d.types.keys ↔ ∃ t ∈ d.types.values, t.name = name := by
  rw [← hk.map_name]
  simp [bindings, TypeEntry.binding]

theorem mem_variantParents {p : TypeBinding} :
    p ∈ d.bindings.variantParents ↔ ∃ t ∈ d.types.values, t.isUnion = true ∧
      t.binding d.types (d.supertype? t.name) = p := by
  simp only [Bindings.variantParents, bindings, List.mem_filter, List.mem_map]
  constructor
  · rintro ⟨⟨t, ht, rfl⟩, hu⟩
    exact ⟨t, ht, hu, rfl⟩
  · rintro ⟨t, ht, hu, rfl⟩
    exact ⟨⟨t, ht, rfl⟩, hu⟩

/-- A listed subtype is a type, so it is found among the bindings. -/
theorem Sound.mem_variantsOf (hd : d.Sound) (hk : d.KeyedByName) {s p : String} :
    s ∈ variantsOf d.bindings p ↔ ∃ t ∈ d.types.values, s ∈ t.subtypeList ∧ t.name = p := by
  rw [← hd.supertype?_eq_some_iff]
  simp only [variantsOf, bindings, List.mem_map, List.mem_filter]
  constructor
  · rintro ⟨b, ⟨⟨t, -, rfl⟩, hp⟩, rfl⟩
    simpa [TypeEntry.binding] using hp
  · intro hp
    obtain ⟨t, ht, hs, -⟩ := hd.supertype?_eq_some_iff.1 hp
    have hkey : s ∈ d.types.keys := List.contains_iff_mem.1 (hd.subtypes t ht s hs)
    obtain ⟨u, hu, rfl⟩ := hk.mem_keys.1 hkey
    exact ⟨_, ⟨⟨u, hu, rfl⟩, by simpa [TypeEntry.binding] using hp⟩, rfl⟩

theorem KeyedByName.nodup_declarations (hk : d.KeyedByName) :
    (declarations d.bindings).Nodup := by
  have hn : d.bindings.types.Pairwise (·.name ≠ ·.name) := List.pairwise_map.1 hk.nodup_name
  have hstructs : (d.bindings.types.flatMap fun t =>
      if t.kind = .fileUpload then [] else [OutlineEntry.struct t.name]).Nodup := by
    refine nodup_entries hn (fun t => by split <;> simp) fun t u e he he' => ?_
    split at he <;> split at he' <;> simp_all
  have hglue : (d.bindings.variantParents.flatMap fun p =>
      OutlineEntry.trait (p.name ++ "Variant") ::
        (variantsOf d.bindings p.name).map (.implements (p.name ++ "Variant") · 0)).Nodup := by
    refine nodup_entries (hn.filter _) (fun p => ?_) fun p q e he he' => ?_
    · have hs : (variantsOf d.bindings p.name).Nodup := List.pairwise_map.2 (hn.filter _)
      refine List.nodup_cons.2 ⟨by simp, hs.map fun s s' he => ?_⟩
      exact (OutlineEntry.implements.inj he).2.1
    · simp only [List.mem_cons, List.mem_map] at he he'
      -- the trait and its implementations both spell the name of the union
      rcases he with rfl | ⟨s, -, rfl⟩
      · simpa using he'
      · obtain ⟨-, hq⟩ : s ∈ variantsOf d.bindings q.name ∧ q.name = p.name := by simpa using he'
        exact hq.symm
  -- declarations are neither traits nor implementations
  refine List.nodup_append.2 ⟨hstructs, hglue, fun e he e' he' => ?_⟩
  simp only [List.mem_flatMap, List.mem_cons, List.mem_map] at he he'
  obtain ⟨t, -, he⟩ := he
  obtain ⟨p, -, rfl | ⟨s, -, rfl⟩⟩ := he' <;> split at he <;> simp_all

variable {items : List Item}

/-- What is declared at all is declared once. -/
theorem KeyedByName.count_eq_one (hk : d.KeyedByName) (h : typesModule d.bindings = .ok items)
    {e : OutlineEntry} (he : e.isMention = false) (hm : e ∈ outline items) :
    (outline items).count e = 1 := by
  have hp : (!e.isMention) = true := by rw [he]; rfl
  have hf : e ∈ (outline items).filter (!·.isMention) := List.mem_filter.2 ⟨hm, hp⟩
  have hn : ((outline items).filter (!·.isMention)).Nodup := by
    rw [declared_typesModule h]
    exact List.nodup_cons.2 ⟨use_not_mem_declarations, hk.nodup_declarations⟩
  rw [← List.count_filter (p := (!·.isMention)) hp]
  exact List.count_eq_one_of_mem hn hf

theorem trait_mem_outline (h : typesModule d.bindings = .ok items) {x : String} :
    .trait x ∈ outline items ↔
      ∃ t ∈ d.types.values, t.isUnion = true ∧ t.name ++ "Variant" = x := by
  rw [mem_outline_iff h rfl, mem_declarations]
  constructor
  · rintro (hx | ⟨t, -, -, hx⟩ | ⟨p, hp, hx | ⟨s, -, hx⟩⟩)
    · cases hx
    · cases hx
    · obtain ⟨t, ht, hu, rfl⟩ := mem_variantParents.1 hp
      exact ⟨t, ht, hu, OutlineEntry.trait.inj hx⟩
    · cases hx
  · rintro ⟨t, ht, hu, rfl⟩
    exact .inr (.inr ⟨_, mem_variantParents.2 ⟨t, ht, hu, rfl⟩, .inl rfl⟩)

theorem isUnion_of_mem {t : TypeEntry} {s : String} (h : s ∈ t.subtypeList) : t.isUnion = true := by
  rw [TypeEntry.isUnion]
  cases hs : t.subtypeList with
  | nil => simp [hs] at h
  | cons => rfl

theorem Sound.implements_mem_outline (hd : d.Sound) (hk : d.KeyedByName)
    (h : typesModule d.bindings = .ok items) {x s : String} {n : Nat} :
    .implements x s n ∈ outline items ↔
      n = 0 ∧ ∃ t ∈ d.types.values, s ∈ t.subtypeList ∧ t.name ++ "Variant" = x := by
  rw [mem_outline_iff h rfl, mem_declarations]
  constructor
  · rintro (hx | ⟨t, -, -, hx⟩ | ⟨p, -, hx | ⟨s', hs, hx⟩⟩)
    · cases hx
    · cases hx
    · cases hx
    · cases hx
      obtain ⟨t, ht, hs, hp⟩ := (hd.mem_variantsOf hk).1 hs
      exact ⟨rfl, t, ht, hs, by rw [hp]⟩
  · rintro ⟨rfl, t, ht, hs, rfl⟩
    have hp : t.binding d.types (d.supertype? t.name) ∈ d.bindings.variantParents :=
      mem_variantParents.2 ⟨t, ht, isUnion_of_mem hs, rfl⟩
    exact .inr (.inr ⟨_, hp, .inr ⟨s, (hd.mem_variantsOf hk).2 ⟨t, ht, hs, rfl⟩, rfl⟩⟩)

end Schema.Document

open Schema Crate

/-- A type has the union that lists it as its supertype. In the module of types each union has one
trait, and each of its subtypes one implementation of it, and there are no others. -/
theorem Bindings.ofDocument_glue {d : Document} {b : Bindings}
    (h : (ofDocument (some d)).1 = .ok b) (hk : d.KeyedByName) :
    b.types.map (·.name) = d.types.keys ∧
    (∀ s ∈ b.types,
      (∀ p, s.supertype = some p ↔ ∃ t ∈ d.types.values, s.name ∈ t.subtypeList ∧ t.name = p) ∧
      (s.supertype = none ↔ ∀ t ∈ d.types.values, s.name ∉ t.subtypeList)) ∧
    ∀ items, typesModule b = .ok items →
      (∀ t ∈ d.types.values, t.isUnion = true →
        (outline items).count (.trait (t.name ++ "Variant")) = 1) ∧
      (∀ x, .trait x ∈ outline items →
        ∃ t ∈ d.types.values, t.isUnion = true ∧ t.name ++ "Variant" = x) ∧
      (∀ t ∈ d.types.values, ∀ s ∈ t.subtypeList,
        (outline items).count (.implements (t.name ++ "Variant") s 0) = 1) ∧
      ∀ x s n, .implements x s n ∈ outline items →
        n = 0 ∧ ∃ t ∈ d.types.values, s ∈ t.subtypeList ∧ t.name ++ "Variant" = x := by
  obtain ⟨hd, -, rfl⟩ := ofDocument_eq_ok_iff.1 h
  refine ⟨hk.map_name, fun s hs => ?_, fun items hi => ⟨fun t ht hu => ?_, fun x hx => ?_,
    fun t ht s hs => ?_, fun x s n hx => ?_⟩⟩
  · obtain ⟨u, hu, rfl⟩ := List.mem_map.1 hs
    have hp (p : String) : d.supertype? u.name = some p ↔
        ∃ t ∈ d.types.values, u.name ∈ t.subtypeList ∧ t.name = p := hd.supertype?_eq_some_iff
    refine ⟨hp, ?_⟩
    change d.supertype? u.name = none ↔ _
    rw [Option.eq_none_iff_forall_ne_some]
    constructor
    · intro hn t ht hs
      exact hn t.name ((hp t.name).2 ⟨t, ht, hs, rfl⟩)
    · intro hn p hs
      obtain ⟨t, ht, hs, -⟩ := (hp p).1 hs
      exact hn t ht hs
  · exact hk.count_eq_one hi rfl ((Document.trait_mem_outline hi).2 ⟨t, ht, hu, rfl⟩)
  · exact (Document.trait_mem_outline hi).1 hx
  · exact hk.count_eq_one hi rfl ((hd.implements_mem_outline hk hi).2 ⟨rfl, t, ht, hs, rfl⟩)
  · exact (hd.implements_mem_outline hk hi).1 hx

/-- A union that lists one of its subtypes twice, between its subtypes. -/
def shapes : Document where
  types := ⟨[
    ("Square", { name := "Square", fields := some [⟨"side", ["Integer"], true, ""⟩] }),
    ("Shape", { name := "Shape", subtypes := some ["Square", "Circle", "Square"] }),
    ("Circle", { name := "Circle", fields := some [⟨"centre", ["Point"], false, ""⟩] }),
    ("Point", { name := "Point" })], by decide⟩
  methods := ⟨[("draw", { name := "draw", returns := ["Shape"] })], by decide⟩

theorem Bindings.ofDocument_glue_shapes :
    shapes.KeyedByName ∧ ∃ b items, (ofDocument (some shapes)).1 = .ok b ∧
      typesModule b = .ok items ∧
      (outline items).count (.trait "ShapeVariant") = 1 ∧
      (outline items).count (.implements "ShapeVariant" "Square" 0) = 1 ∧
      (outline items).count (.implements "ShapeVariant" "Circle" 0) = 1 ∧
      .implements "ShapeVariant" "Point" 0 ∉ outline items := by
  have hk : shapes.KeyedByName := by
    unfold Document.KeyedByName
    decide
  have h : (ofDocument (some shapes)).1 = .ok shapes.bindings :=
    ofDocument_of_check rfl (by decide)
  obtain ⟨items, hi⟩ : ∃ items, typesModule shapes.bindings = .ok items :=
    exists_eq_ok (by decide +kernel)
  obtain ⟨-, -, hg⟩ := ofDocument_glue h hk
  obtain ⟨ht, -, hs, hn⟩ := hg items hi
  have hshape : shapes.types.values[1] ∈ shapes.types.values := List.getElem_mem _
  refine ⟨hk, _, items, h, hi, ht _ hshape rfl, hs _ hshape "Square" (by decide),
    hs _ hshape "Circle" (by decide), fun hp => ?_⟩
  obtain ⟨-, t, ht, hp, -⟩ := hn _ _ _ hp
  have hnone : ∀ t ∈ shapes.types.values, "Point" ∉ t.subtypeList := by decide
  exact hnone t ht hp

end BotBindings
