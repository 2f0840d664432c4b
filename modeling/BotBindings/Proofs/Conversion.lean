import BotBindings.Proofs.Document

namespace BotBindings

def TypeBinding.wireNames (t : TypeBinding) : List String := t.fields.map (·.wireName)

namespace Schema

namespace Field

variable {f g : Field}

/-- An alternative can be declared: no file to upload, nor the text form of a number. -/
def Declarable (f : Field) : Prop :=
  ∃ t ∈ f.types, declares f.name (Descriptor.ofToken t) = true

theorem isSome_declared?_iff : f.declared?.isSome ↔ f.Declarable := by
  simp [declared?, Declarable, List.find?_isSome]

theorem Declarable.congr (h : f.Declarable) (hn : f.name = g.name) (ht : f.types = g.types) :
    g.Declarable := by
  unfold Declarable at h ⊢
  rwa [← hn, ← ht]

theorem exists_declaration?_iff (keep : Bool) {w : String} :
    (∃ df, f.declaration? keep = some df ∧ df.wireName = w) ↔ f.name = w ∧ f.Declarable := by
  rw [← isSome_declared?_iff]
  constructor
  · rintro ⟨df, hd, rfl⟩
    refine ⟨(wireName_of_declaration? hd).symm, ?_⟩
    rw [← Option.isSome_map, ← declaration?, hd]
    rfl
  · rintro ⟨rfl, hs⟩
    obtain ⟨d, hd⟩ := Option.isSome_iff_exists.1 hs
    exact ⟨_, by rw [declaration?, hd, Option.map_some], rfl⟩

end Field

namespace TypeEntry

variable {t : TypeEntry} {table : Table TypeEntry} {supertype : Option String} {w : String}

theorem mem_wireNames_binding :
    w ∈ (t.binding table supertype).wireNames ↔
      ∃ f ∈ t.sources table, f.name = w ∧ f.Declarable := by
  simp only [TypeBinding.wireNames, binding, List.mem_map, List.mem_filterMap,
    ← Field.exists_declaration?_iff (!t.isUnion)]
  constructor
  · rintro ⟨df, ⟨f, hf, hd⟩, hw⟩
    exact ⟨f, hf, df, hd, hw⟩
  · rintro ⟨f, hf, df, hd, hw⟩
    exact ⟨df, ⟨f, hf, hd⟩, hw⟩

theorem mem_wireNames_union (hu : t.isUnion = true) :
    w ∈ (t.binding table supertype).wireNames ↔
      ∃ f, (t.memberFields table).find? (·.name = w) = some f ∧ f.Declarable := by
  rw [mem_wireNames_binding]
  constructor
  · rintro ⟨f, hf, rfl, hd⟩
    rcases mem_sources.1 hf with ⟨hl, -⟩ | ⟨-, hf⟩
    · rw [hu] at hl
      cases hl
    · exact ⟨f, hf, hd⟩
  · rintro ⟨f, hf, hd⟩
    have hn : f.name = w := by simpa using List.find?_some hf
    subst hn
    exact ⟨f, mem_sources.2 (.inr ⟨hu, hf⟩), rfl, hd⟩

end TypeEntry

namespace Document

variable {d : Document} {b : Bindings}

def KeyedByName (d : Document) : Prop := ∀ e ∈ d.types.entries, e.1 = e.2.name

theorem KeyedByName.get?_name (h : d.KeyedByName) {t : TypeEntry} (ht : t ∈ d.types.values) :
    d.types.get? t.name = some t := by
  obtain ⟨e, he, rfl⟩ := List.mem_map.1 ht
  rw [← h e he]
  exact (lookup_eq_some_iff_of_nodup d.types.nodup).2 he

/-- Under keys that are names, a binding is known by its name. -/
theorem KeyedByName.eq_binding (h : d.KeyedByName) {t : TypeEntry} (ht : t ∈ d.types.values)
    {p : TypeBinding} (hp : p ∈ d.bindings.types) (hn : p.name = t.name) :
    p = t.binding d.types (d.supertype? t.name) := by
  obtain ⟨u, hu, rfl⟩ := List.mem_map.1 hp
  have hut : some u = some t := by
    rw [← h.get?_name hu, ← h.get?_name ht]
    exact congrArg d.types.get? hn
  rw [Option.some.inj hut]

/-- The bindings of a union and of one of its subtypes that is not a union itself. -/
structure Variant (d : Document) (b : Bindings) (t u : TypeEntry) (p s : TypeBinding) : Prop where
  parent : t ∈ d.types.values
  subtype : u ∈ d.types.values
  isUnion : t.isUnion = true
  isLeaf : u.isUnion = false
  listed : u.name ∈ t.subtypeList
  parentBinding : p ∈ b.types ∧ p.name = t.name
  subtypeBinding : s ∈ b.types ∧ s.name = u.name

end Document

end Schema

open Schema

/-- A field of a subtype is one of the union just if the first field of its name among the subtypes
can be declared, as it can where all fields of that name have the same alternatives. -/
theorem Bindings.ofDocument_conversion {d : Document} {b : Bindings}
    (h : (ofDocument (some d)).1 = .ok b) (hk : d.KeyedByName) {t u : TypeEntry} {p s : TypeBinding}
    (hv : d.Variant b t u p s) {w : String} (hw : w ∈ s.wireNames) :
    (w ∈ p.wireNames ↔
      ∃ f, (t.memberFields d.types).find? (·.name = w) = some f ∧ f.Declarable) ∧
    ((∀ f ∈ t.memberFields d.types, ∀ g ∈ t.memberFields d.types,
        f.name = w → g.name = w → f.types = g.types) → w ∈ p.wireNames) := by
  obtain ⟨-, -, rfl⟩ := ofDocument_eq_ok_iff.1 h
  have hp := hk.eq_binding hv.parent hv.parentBinding.1 hv.parentBinding.2
  have hs := hk.eq_binding hv.subtype hv.subtypeBinding.1 hv.subtypeBinding.2
  have hiff : w ∈ p.wireNames ↔
      ∃ f, (t.memberFields d.types).find? (·.name = w) = some f ∧ f.Declarable := by
    rw [hp]
    exact TypeEntry.mem_wireNames_union hv.isUnion
  refine ⟨hiff, fun hsame => hiff.2 ?_⟩
  rw [hs, TypeEntry.mem_wireNames_binding] at hw
  obtain ⟨f, hf, hn, hd⟩ := hw
  have hl : f ∈ u.fieldList := by simpa [TypeEntry.sources, hv.isLeaf] using hf
  have hm : f ∈ t.memberFields d.types := by
    refine List.mem_flatMap.2 ⟨u.name, hv.listed, ?_⟩
    rw [Table.fieldsOf, hk.get?_name hv.subtype]
    exact hl
  -- the subtype's own field is among those of the union, so its name has a first one there
  have hfind : ((t.memberFields d.types).find? (·.name = w)).isSome :=
    List.find?_isSome.2 ⟨f, hm, by simpa using hn⟩
  obtain ⟨g, hg⟩ := Option.isSome_iff_exists.1 hfind
  have hgn : g.name = w := by simpa using List.find?_some hg
  have hgt : f.types = g.types := hsame f hm g (List.mem_of_find?_eq_some hg) hn hgn
  exact ⟨g, hg, hd.congr (hn.trans hgn.symm) hgt⟩

/-- The first subtype uploads a file which the second one holds as text. -/
def media : Document where
  types := ⟨[("Media", { name := "Media", subtypes := some ["Photo", "Video"] }),
    ("Photo", { name := "Photo", fields := some [⟨"file", ["InputFile"], true, ""⟩] }),
    ("Video", { name := "Video", fields := some [⟨"file", ["String"], true, ""⟩,
      ⟨"length", ["Integer"], true, ""⟩] }),
    ("InputFile", { name := "InputFile" })], by decide⟩

theorem ofDocument_media : (Bindings.ofDocument (some media)).1 = .ok media.bindings :=
  Bindings.ofDocument_eq_ok_iff.2 ⟨check_eq_ok_iff.1 rfl, by decide, rfl⟩

theorem keyedByName_media : media.KeyedByName := by
  unfold Document.KeyedByName
  decide

theorem variant_media : ∃ t u p s, media.Variant media.bindings t u p s ∧
    p.wireNames = ["length"] ∧ s.wireNames = ["file", "length"] :=
  ⟨_, _, _, _, ⟨.head _, .tail _ (.tail _ (.head _)), rfl, rfl, by decide, ⟨.head _, rfl⟩,
    ⟨.tail _ (.tail _ (.head _)), rfl⟩⟩, by decide, by decide⟩

theorem Bindings.ofDocument_conversion_media :
    ∃ t u p s, media.Variant media.bindings t u p s ∧
      (∃ f, (t.memberFields media.types).find? (·.name = "length") = some f ∧ f.Declarable) ∧
      ¬ ∃ f, (t.memberFields media.types).find? (·.name = "file") = some f ∧ f.Declarable := by
  obtain ⟨t, u, p, s, hv, hp, hs⟩ := variant_media
  have hlength := (ofDocument_conversion ofDocument_media keyedByName_media hv
    (show "length" ∈ s.wireNames by rw [hs]; decide)).1
  have hfile := (ofDocument_conversion ofDocument_media keyedByName_media hv
    (show "file" ∈ s.wireNames by rw [hs]; decide)).1
  rw [hp] at hlength hfile
  exact ⟨t, u, p, s, hv, hlength.1 (by decide), fun hf => absurd (hfile.2 hf) (by decide)⟩

/-- Not every field of a subtype is one of its union. -/
theorem Bindings.exists_lost_field :
    ¬ ∀ (d : Document) (b : Bindings), (ofDocument (some d)).1 = .ok b → d.KeyedByName →
      ∀ t u p s, d.Variant b t u p s → ∀ w ∈ s.wireNames, w ∈ p.wireNames := by
  intro h
  obtain ⟨t, u, p, s, hv, hp, hs⟩ := variant_media
  have hm := h media media.bindings ofDocument_media keyedByName_media t u p s hv "file"
  rw [hp, hs] at hm
  exact absurd (hm (by decide)) (by decide)

end BotBindings
