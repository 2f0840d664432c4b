import BotBindings.Proofs.Helpers
import BotBindings.Proofs.Order

namespace BotBindings

namespace Schema

variable {α : Type}

/-- Distinct names are found under more of them as well. -/
theorem lookup_sublist {es es' : List (String × α)} (h : es.Sublist es')
    (hn : (es'.map Prod.fst).Nodup) {key : String} (hk : key ∈ es.map Prod.fst) :
    ∃ a, es.lookup key = some a ∧ es'.lookup key = some a := by
  have hn' : (es.map Prod.fst).Nodup := hn.sublist (h.map Prod.fst)
  obtain ⟨⟨key, a⟩, he, rfl⟩ := List.mem_map.1 hk
  exact ⟨a, (lookup_eq_some_iff_of_nodup hn').2 he,
    (lookup_eq_some_iff_of_nodup hn).2 (h.subset he)⟩

theorem Table.get?_sublist {t t' : Table α} (h : t.entries.Sublist t'.entries) {key : String}
    (hk : key ∈ t.keys) : t.get? key = t'.get? key := by
  obtain ⟨a, ha, ha'⟩ := lookup_sublist h t'.nodup hk
  exact ha.trans ha'.symm

namespace Document

/-- The document holds the entries of an older one in their order. The types that it has besides
them have no subtypes. -/
structure Extends (d' d : Document) : Prop where
  types : d.types.entries.Sublist d'.types.entries
  methods : d.methods.entries.Sublist d'.methods.entries
  leaves : ∀ e ∈ d'.types.entries, e.1 ∉ d.types.keys → e.2.subtypeList = []

namespace Extends

variable {d d' : Document}

theorem mem_types (h : d'.Extends d) {t : TypeEntry} (ht : t ∈ d.types.values) :
    t ∈ d'.types.values := (h.types.map Prod.snd).subset ht

theorem mem_methods (h : d'.Extends d) {m : MethodEntry} (hm : m ∈ d.methods.values) :
    m ∈ d'.methods.values := (h.methods.map Prod.snd).subset hm

/-- A type with subtypes was there before. -/
theorem mem_types_of_mem_subtypeList (h : d'.Extends d) {t : TypeEntry}
    (ht : t ∈ d'.types.values) {s : String} (hs : s ∈ t.subtypeList) : t ∈ d.types.values := by
  obtain ⟨⟨key, t⟩, he, rfl⟩ := List.mem_map.1 ht
  by_cases hk : key ∈ d.types.keys
  · obtain ⟨⟨key, u⟩, hu, rfl⟩ := List.mem_map.1 hk
    -- there is one entry under the key
    have htu : (key, t) = (key, u) :=
      List.inj_on_of_nodup_map d'.types.nodup he (h.types.subset hu) rfl
    rw [htu]
    exact List.mem_map_of_mem hu
  · have hnone : t.subtypeList = [] := h.leaves _ he hk
    rw [hnone] at hs
    cases hs

theorem supertype? (h : d'.Extends d) (hd : d.Sound) (hd' : d'.Sound) :
    d.supertype? = d'.supertype? := by
  funext s
  ext p
  rw [hd.supertype?_eq_some_iff, hd'.supertype?_eq_some_iff]
  constructor
  · rintro ⟨t, ht, hs, hp⟩
    exact ⟨t, h.mem_types ht, hs, hp⟩
  · rintro ⟨t, ht, hs, hp⟩
    exact ⟨t, h.mem_types_of_mem_subtypeList ht hs, hs, hp⟩

theorem get?_subtype (h : d'.Extends d) (hd : d.Sound) {t : TypeEntry} (ht : t ∈ d.types.values) :
    ∀ s ∈ t.subtypeList, d.types.get? s = d'.types.get? s := fun s hs =>
  Table.get?_sublist h.types (List.contains_iff_mem.1 (hd.subtypes t ht s hs))

theorem binding_eq (h : d'.Extends d) (hd : d.Sound) (hd' : d'.Sound) {t : TypeEntry}
    (ht : t ∈ d.types.values) :
    t.binding d.types (d.supertype? t.name) = t.binding d'.types (d'.supertype? t.name) := by
  rw [h.supertype? hd hd']
  exact TypeEntry.binding_congr (h.get?_subtype hd ht) _

theorem visited (h : d'.Extends d) (hd : d.Sound) : d.visited ⊆ d'.visited := by
  intro token ht
  rcases List.mem_append.1 ht with ht | ht
  · obtain ⟨t, htypes, ht⟩ := List.mem_flatMap.1 ht
    rw [TypeEntry.sources_congr (h.get?_subtype hd htypes)] at ht
    exact List.mem_append_left _ (List.mem_flatMap.2 ⟨t, h.mem_types htypes, ht⟩)
  · obtain ⟨m, hmethods, ht⟩ := List.mem_flatMap.1 ht
    exact List.mem_append_right _ (List.mem_flatMap.2 ⟨m, h.mem_methods hmethods, ht⟩)

theorem keyedTypes (h : d'.Extends d) (hd : d.Sound) (hd' : d'.Sound) :
    (d.keyedTypes d.bindings).Sublist (d'.keyedTypes d'.bindings) := by
  rw [keyedTypes_bindings, keyedTypes_bindings]
  have hb : d.types.entries.map (fun e => (e.1, e.2.binding d.types (d.supertype? e.2.name))) =
      d.types.entries.map fun e => (e.1, e.2.binding d'.types (d'.supertype? e.2.name)) := by
    apply List.map_congr_left
    intro e he
    rw [h.binding_eq hd hd' (List.mem_map_of_mem he)]
  rw [hb]
  exact h.types.map _

theorem keyedMethods (h : d'.Extends d) :
    (d.keyedMethods d.bindings).Sublist (d'.keyedMethods d'.bindings) := by
  rw [keyedMethods_bindings, keyedMethods_bindings]
  exact h.methods.map _

theorem arrayHelpers (h : d'.Extends d) (hd : d.Sound) :
    d.bindings.arrayHelpers ⊆ d'.bindings.arrayHelpers := by
  intro name hn
  obtain ⟨t, ht, he⟩ := mem_arrayHelpers.1 hn
  exact mem_arrayHelpers.2 ⟨t, h.visited hd ht, he⟩

theorem arrayOfArrayHelpers (h : d'.Extends d) (hd : d.Sound) :
    d.bindings.arrayOfArrayHelpers ⊆ d'.bindings.arrayOfArrayHelpers := by
  intro name hn
  obtain ⟨t, ht, he⟩ := mem_arrayOfArrayHelpers.1 hn
  exact mem_arrayOfArrayHelpers.2 ⟨t, h.visited hd ht, he⟩

theorem replyMarkupVariants (h : d'.Extends d) :
    d.bindings.replyMarkupVariants ⊆ d'.bindings.replyMarkupVariants := by
  intro name hn
  obtain ⟨hv, hk⟩ := List.mem_filter.1 hn
  have hk' : name ∈ d'.types.keys := (h.types.map Prod.fst).subset (List.contains_iff_mem.1 hk)
  exact List.mem_filter.2 ⟨hv, List.contains_iff_mem.2 hk'⟩

end Extends

/-- Every key of the types has a binding. -/
theorem map_fst_keyedTypes (d : Document) :
    (d.keyedTypes d.bindings).map Prod.fst = d.types.keys := by
  rw [keyedTypes_bindings, List.map_map]
  rfl

theorem map_fst_keyedMethods (d : Document) :
    (d.keyedMethods d.bindings).map Prod.fst = d.methods.keys := by
  rw [keyedMethods_bindings, List.map_map]
  rfl

end Document

end Schema

open Schema

/-- If a document grows by methods and by types without subtypes, every older entry keeps its
binding, and no helper and no reply markup is lost. -/
theorem Bindings.ofDocument_extends {d d' : Document} (h : d'.Extends d) {b b' : Bindings}
    (hb : (ofDocument (some d)).1 = .ok b) (hb' : (ofDocument (some d')).1 = .ok b') :
    ((d.keyedTypes b).Sublist (d'.keyedTypes b') ∧
      ∀ key ∈ d.types.keys, ∃ t, (d.keyedTypes b).lookup key = some t ∧
        (d'.keyedTypes b').lookup key = some t) ∧
    ((d.keyedMethods b).Sublist (d'.keyedMethods b') ∧
      ∀ key ∈ d.methods.keys, ∃ m, (d.keyedMethods b).lookup key = some m ∧
        (d'.keyedMethods b').lookup key = some m) ∧
    b.arrayHelpers ⊆ b'.arrayHelpers ∧ b.arrayOfArrayHelpers ⊆ b'.arrayOfArrayHelpers ∧
    b.replyMarkupVariants ⊆ b'.replyMarkupVariants := by
  obtain ⟨hd, -, rfl⟩ := ofDocument_eq_ok_iff.1 hb
  obtain ⟨hd', -, rfl⟩ := ofDocument_eq_ok_iff.1 hb'
  have ht := h.keyedTypes hd hd'
  have hm := h.keyedMethods
  refine ⟨⟨ht, fun key hk => lookup_sublist ht ?_ ?_⟩, ⟨hm, fun key hk => lookup_sublist hm ?_ ?_⟩,
    h.arrayHelpers hd, h.arrayOfArrayHelpers hd, h.replyMarkupVariants⟩
  · rw [Document.map_fst_keyedTypes]
    exact d'.types.nodup
  · rwa [Document.map_fst_keyedTypes]
  · rw [Document.map_fst_keyedMethods]
    exact d'.methods.nodup
  · rwa [Document.map_fst_keyedMethods]

/-- A union with one subtype, and a method. -/
def sketch : Document where
  types := ⟨[
    ("Square", { name := "Square", fields := some [⟨"pieces", ["Array of Shape"], true, ""⟩] }),
    ("Shape", { name := "Shape", subtypes := some ["Square"] })], by decide⟩
  methods := ⟨[("paint", { name := "paint", returns := ["Shape"] })], by decide⟩

/-- Between its types stands a new one that goes by the name of an older subtype, and in front of
its method one that returns a new list of an older type. -/
def grownSketch : Document where
  types := ⟨[
    ("Square", { name := "Square", fields := some [⟨"pieces", ["Array of Shape"], true, ""⟩] }),
    ("Rectangle", { name := "Square", fields := some [⟨"width", ["Integer"], true, ""⟩] }),
    ("Shape", { name := "Shape", subtypes := some ["Square"] }),
    ("ForceReply", { name := "ForceReply" })], by decide⟩
  methods := ⟨[("list", { name := "list", returns := ["Array of Square"] }),
    ("paint", { name := "paint", returns := ["Shape"] })], by decide⟩

theorem Bindings.ofDocument_extends_sketch :
    grownSketch.Extends sketch ∧ ∃ b b', (ofDocument (some sketch)).1 = .ok b ∧
      (ofDocument (some grownSketch)).1 = .ok b' ∧ b ≠ b' ∧
      (∃ t, (sketch.keyedTypes b).lookup "Square" = some t ∧
        (grownSketch.keyedTypes b').lookup "Square" = some t) ∧
      b.arrayHelpers ⊆ b'.arrayHelpers := by
  have h : grownSketch.Extends sketch := ⟨by decide, by decide, by decide⟩
  have hb : (ofDocument (some sketch)).1 = .ok sketch.bindings :=
    ofDocument_of_check rfl (by decide)
  have hb' : (ofDocument (some grownSketch)).1 = .ok grownSketch.bindings :=
    ofDocument_of_check rfl (by decide)
  obtain ⟨⟨-, ht⟩, -, ha, -⟩ := ofDocument_extends h hb hb'
  exact ⟨h, _, _, hb, hb', by decide, ht "Square" (by decide), ha⟩

end BotBindings
