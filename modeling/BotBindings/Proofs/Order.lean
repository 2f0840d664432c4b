import BotBindings.Proofs.Document

namespace BotBindings

namespace Schema

variable {α : Type}

/-- Pairs with distinct names are found wherever they stand. -/
theorem lookup_perm {es es' : List (String × α)} (h : es.Perm es')
    (hn : (es.map Prod.fst).Nodup) (key : String) : es.lookup key = es'.lookup key := by
  have hn' : (es'.map Prod.fst).Nodup := (h.map Prod.fst).nodup hn
  ext a
  rw [lookup_eq_some_iff_of_nodup hn, lookup_eq_some_iff_of_nodup hn', h.mem_iff]

theorem Table.get?_perm {t t' : Table α} (h : t.entries.Perm t'.entries) : t.get? = t'.get? :=
  funext (lookup_perm h t.nodup)

theorem Table.has_perm {t t' : Table α} (h : t.entries.Perm t'.entries) : t.has = t'.has := by
  funext key
  exact (h.map Prod.fst).contains_eq

/-- Of the table a type needs the entries of its subtypes only. -/
theorem TypeEntry.sources_congr {t : TypeEntry} {table table' : Table TypeEntry}
    (h : ∀ s ∈ t.subtypeList, table.get? s = table'.get? s) :
    t.sources table = t.sources table' := by
  have hm : t.memberFields table = t.memberFields table' := by
    unfold memberFields
    apply List.flatMap_congr
    intro s hs
    rw [Table.fieldsOf, h s hs]
    rfl
  rw [sources, sources, hm]

theorem TypeEntry.binding_congr {t : TypeEntry} {table table' : Table TypeEntry}
    (h : ∀ s ∈ t.subtypeList, table.get? s = table'.get? s) (supertype : Option String) :
    t.binding table supertype = t.binding table' supertype := by
  unfold binding
  rw [sources_congr h]

namespace Document

/-- Documents with the same entries under the same keys, each in an order of its own. -/
structure Reordered (d d' : Document) : Prop where
  metadata : d.metadata = d'.metadata
  types : d.types.entries.Perm d'.types.entries
  methods : d.methods.entries.Perm d'.methods.entries

/-- The bindings of the types, each under the key of its entry. -/
def keyedTypes (d : Document) (b : Bindings) : List (String × TypeBinding) :=
  d.types.keys.zip b.types

/-- The bindings of the methods, each under the key of its entry. -/
def keyedMethods (d : Document) (b : Bindings) : List (String × MethodBinding) :=
  d.methods.keys.zip b.methods

theorem keyedTypes_bindings (d : Document) :
    d.keyedTypes d.bindings =
      d.types.entries.map fun e => (e.1, e.2.binding d.types (d.supertype? e.2.name)) := by
  simp [keyedTypes, bindings, Table.keys, Table.values, List.zip_map']

theorem keyedMethods_bindings (d : Document) :
    d.keyedMethods d.bindings = d.methods.entries.map fun e => (e.1, e.2.binding) := by
  simp [keyedMethods, bindings, Table.keys, Table.values, List.zip_map']

namespace Reordered

variable {d d' : Document}

theorem symm (h : Reordered d d') : Reordered d' d :=
  ⟨h.metadata.symm, h.types.symm, h.methods.symm⟩

theorem typeValues (h : Reordered d d') : d.types.values.Perm d'.types.values :=
  h.types.map Prod.snd

theorem methodValues (h : Reordered d d') : d.methods.values.Perm d'.methods.values :=
  h.methods.map Prod.snd

theorem sound (h : Reordered d d') (hd : d.Sound) : d'.Sound where
  fields t ht := hd.fields t (h.typeValues.mem_iff.2 ht)
  subtypes t ht s hs := Table.has_perm h.types ▸ hd.subtypes t (h.typeValues.mem_iff.2 ht) s hs
  parents t ht u hu := hd.parents t (h.typeValues.mem_iff.2 ht) u (h.typeValues.mem_iff.2 hu)
  methods m hm := hd.methods m (h.methodValues.mem_iff.2 hm)

theorem supertype? (h : Reordered d d') (hd : d.Sound) : d.supertype? = d'.supertype? := by
  funext s
  ext p
  rw [hd.supertype?_eq_some_iff, (h.sound hd).supertype?_eq_some_iff]
  simp only [h.typeValues.mem_iff]

theorem visited (h : Reordered d d') : d.visited.Perm d'.visited := by
  have hs (t : TypeEntry) : t.sources d.types = t.sources d'.types :=
    TypeEntry.sources_congr fun s _ => congrFun (Table.get?_perm h.types) s
  unfold Document.visited
  simp only [hs]
  exact (h.typeValues.flatMap_right _).append (h.methodValues.flatMap_right _)

theorem firstUnresolvable? (h : Reordered d d') (hd : d.firstUnresolvable? = none) :
    d'.firstUnresolvable? = none := by
  rw [firstUnresolvable?_eq_none_iff] at hd ⊢
  intro t ht
  rw [← Table.has_perm h.types]
  exact hd t (h.visited.mem_iff.2 ht)

/-- What is gathered from all tokens does not hang on their order. -/
theorem gathered (h : Reordered d d') (element? : Descriptor → Option String) :
    NameSet.ofList (d.visited.filterMap fun t => element? (Descriptor.ofToken t)) =
      NameSet.ofList (d'.visited.filterMap fun t => element? (Descriptor.ofToken t)) :=
  NameSet.ofList_congr fun _ => (h.visited.filterMap _).mem_iff

theorem keyedTypes (h : Reordered d d') (hd : d.Sound) :
    (d.keyedTypes d.bindings).Perm (d'.keyedTypes d'.bindings) := by
  have hb (t : TypeEntry) : t.binding d.types (d.supertype? t.name) =
      t.binding d'.types (d'.supertype? t.name) := by
    rw [h.supertype? hd]
    exact TypeEntry.binding_congr (fun s _ => congrFun (Table.get?_perm h.types) s) _
  rw [keyedTypes_bindings, keyedTypes_bindings]
  simp only [hb]
  exact h.types.map _

theorem keyedMethods (h : Reordered d d') :
    (d.keyedMethods d.bindings).Perm (d'.keyedMethods d'.bindings) := by
  rw [keyedMethods_bindings, keyedMethods_bindings]
  exact h.methods.map _

end Reordered

end Document

end Schema

open Schema

/-- Reordering a document keeps whether it has bindings, the binding under each key, and all lists
that are not in the order of the document. -/
theorem Bindings.ofDocument_reordered {d d' : Document} (h : d.Reordered d') :
    ((∃ b, (ofDocument (some d)).1 = .ok b) ↔ ∃ b, (ofDocument (some d')).1 = .ok b) ∧
    ∀ b b', (ofDocument (some d)).1 = .ok b → (ofDocument (some d')).1 = .ok b' →
      (b.types.length = d.types.size ∧ (d.keyedTypes b).Perm (d'.keyedTypes b') ∧
        ∀ key, (d.keyedTypes b).lookup key = (d'.keyedTypes b').lookup key) ∧
      (b.methods.length = d.methods.size ∧ (d.keyedMethods b).Perm (d'.keyedMethods b') ∧
        ∀ key, (d.keyedMethods b).lookup key = (d'.keyedMethods b').lookup key) ∧
      b.arrayHelpers = b'.arrayHelpers ∧ b.arrayOfArrayHelpers = b'.arrayOfArrayHelpers ∧
      b.replyMarkupVariants = b'.replyMarkupVariants ∧ b.metadata = b'.metadata := by
  constructor
  · simp only [ofDocument_eq_ok_iff]
    constructor
    · rintro ⟨b, hd, ht, -⟩
      exact ⟨d'.bindings, h.sound hd, h.firstUnresolvable? ht, rfl⟩
    · rintro ⟨b, hd, ht, -⟩
      exact ⟨d.bindings, h.symm.sound hd, h.symm.firstUnresolvable? ht, rfl⟩
  · intro b b' hb hb'
    obtain ⟨hd, -, rfl⟩ := ofDocument_eq_ok_iff.1 hb
    obtain ⟨-, -, rfl⟩ := ofDocument_eq_ok_iff.1 hb'
    have ht := h.keyedTypes hd
    have hm := h.keyedMethods
    refine ⟨⟨by simp [Document.bindings, Table.values, Table.size], ht, lookup_perm ht ?_⟩,
      ⟨by simp [Document.bindings, Table.values, Table.size], hm, lookup_perm hm ?_⟩, ?_, ?_, ?_,
      h.metadata⟩
    · rw [Document.keyedTypes_bindings, List.map_map]
      exact d.types.nodup
    · rw [Document.keyedMethods_bindings, List.map_map]
      exact d.methods.nodup
    · exact congrArg NameSet.names (h.gathered Descriptor.arrayObject?)
    · exact congrArg NameSet.names (h.gathered Descriptor.arrayOfArrayObject?)
    · exact congrArg (markupVariants.filter ·) (Table.has_perm h.types)

/-- A union before its subtype. -/
def parentFirst : Document where
  types := ⟨[("Shape", { name := "Shape", subtypes := some ["Square"] }),
    ("Square", { name := "Square", fields := some [⟨"parts", ["Array of Shape"], true, ""⟩] })],
    by decide⟩
  methods := ⟨[("list", { name := "list", returns := ["Array of Square"] }),
    ("draw", { name := "draw", returns := ["Array of Shape"] })], by decide⟩

/-- A union behind its subtype. -/
def subtypeFirst : Document where
  types := ⟨[
    ("Square", { name := "Square", fields := some [⟨"parts", ["Array of Shape"], true, ""⟩] }),
    ("Shape", { name := "Shape", subtypes := some ["Square"] })], by decide⟩
  methods := ⟨[("draw", { name := "draw", returns := ["Array of Shape"] }),
    ("list", { name := "list", returns := ["Array of Square"] })], by decide⟩

theorem Bindings.ofDocument_reordered_shapes :
    parentFirst.Reordered subtypeFirst ∧ (∃ b, (ofDocument (some parentFirst)).1 = .ok b) ∧
    ∃ b, (ofDocument (some subtypeFirst)).1 = .ok b ∧
      ((subtypeFirst.keyedTypes b).lookup "Square").map (·.supertype) = some (some "Shape") ∧
      b.arrayHelpers = parentFirst.bindings.arrayHelpers := by
  have h : parentFirst.Reordered subtypeFirst := ⟨rfl, .swap _ _ [], .swap _ _ []⟩
  have hb : (ofDocument (some parentFirst)).1 = .ok parentFirst.bindings :=
    ofDocument_eq_ok_iff.2 ⟨check_eq_ok_iff.1 rfl, by decide, rfl⟩
  obtain ⟨b, hb'⟩ := (ofDocument_reordered h).1.1 ⟨_, hb⟩
  obtain ⟨⟨-, -, ht⟩, -, ha, -⟩ := (ofDocument_reordered h).2 _ b hb hb'
  refine ⟨h, ⟨_, hb⟩, b, hb', ?_, ha.symm⟩
  rw [← ht]
  decide

end BotBindings
