import BotBindings.Proofs.Check
import BotBindings.Proofs.Declaration

namespace BotBindings

namespace Schema

theorem mem_of_mem_firstByName {fs : List Field} {f : Field} (h : f ∈ firstByName fs) : f ∈ fs :=
  List.mem_of_find?_eq_some (mem_firstByName.1 h)

theorem pairwise_firstByName (fs : List Field) : (firstByName fs).Pairwise (·.name ≠ ·.name) := by
  induction fs with
  | nil => exact .nil
  | cons f fs ih =>
    refine List.pairwise_cons.2 ⟨fun g hg => ?_, ih.filter _⟩
    have hn : g.name ≠ f.name := by simpa using (List.mem_filter.1 hg).2
    exact hn.symm

/-- The fields that are declared have distinct names on the wire. -/
theorem nodup_declarations_firstByName (fs : List Field) (keep : Bool) :
    (((firstByName fs).filterMap (·.declaration? keep)).map (·.wireName)).Nodup := by
  refine List.pairwise_map.2 (List.pairwise_filterMap.2 ?_)
  apply (pairwise_firstByName fs).imp
  intro f g hne d hd e he hw
  apply hne
  rw [← Field.wireName_of_declaration? hd, ← Field.wireName_of_declaration? he, hw]

theorem unseen_eq_nil {seen : List String} {fs : List Field} (h : ∀ f ∈ fs, f.name ∈ seen) :
    unseen seen fs = [] := by
  refine List.filter_eq_nil_iff.2 fun f hf => ?_
  have hs : f.name ∈ seen := h f (mem_of_mem_firstByName hf)
  simpa using hs

variable {fieldsOf : String → List Field}

/-- Once all fields of a subtype have been seen, its further places in the list do not count. -/
theorem unseen_flatMap_filter {seen : List String} {s : String}
    (hs : ∀ f ∈ fieldsOf s, f.name ∈ seen) (ss : List String) :
    unseen seen ((ss.filter (!· == s)).flatMap fieldsOf) = unseen seen (ss.flatMap fieldsOf) := by
  induction ss generalizing seen with
  | nil => rfl
  | cons x ss ih =>
    rw [List.flatMap_cons, unseen_append]
    by_cases hx : x = s
    · subst hx
      have hmem : ∀ y, y ∈ seen ++ (fieldsOf x).map Field.name ↔ y ∈ seen := by
        intro y
        simp only [List.mem_append, List.mem_map, or_iff_left_iff_imp]
        rintro ⟨f, hf, rfl⟩
        exact hs f hf
      rw [List.filter_cons_of_neg (by simp), ih hs, unseen_eq_nil hs, unseen_congr hmem,
        List.nil_append]
    · have hs' : ∀ f ∈ fieldsOf s, f.name ∈ seen ++ (fieldsOf x).map Field.name :=
        fun f hf => List.mem_append_left _ (hs f hf)
      rw [List.filter_cons_of_pos (by simpa using hx), List.flatMap_cons, unseen_append, ih hs']

/-- A subtype that is listed again adds no field. -/
theorem unseen_flatMap_eraseDups (seen : List String) (ss : List String) :
    unseen seen (ss.eraseDups.flatMap fieldsOf) = unseen seen (ss.flatMap fieldsOf) := by
  cases ss with
  | nil => rfl
  | cons s ss =>
    have hs : ∀ f ∈ fieldsOf s, f.name ∈ seen ++ (fieldsOf s).map Field.name :=
      fun f hf => List.mem_append_right _ (List.mem_map_of_mem hf)
    rw [List.eraseDups_cons, List.flatMap_cons, List.flatMap_cons, unseen_append, unseen_append,
      unseen_flatMap_eraseDups, unseen_flatMap_filter hs]
termination_by ss.length
decreasing_by
  have hl := List.length_filter_le (fun b => !b == s) ss
  simp only [List.length_cons]
  omega

theorem firstByName_congr {ss ss' : List String} (h : ss.eraseDups = ss'.eraseDups) :
    firstByName (ss.flatMap fieldsOf) = firstByName (ss'.flatMap fieldsOf) := by
  rw [← unseen_nil, ← unseen_nil, ← unseen_flatMap_eraseDups [] ss, h, unseen_flatMap_eraseDups]

end Schema

open Schema

/-- A union has the first field of each name among those of its subtypes, if an alternative of it can
be declared, with the first such alternative. This hangs neither on subtypes that are listed again
nor on the lists noted before. -/
theorem Compile.exec_flatten {s : Session} {parent : String} {subtypes : List String}
    {table : Table TypeEntry} (htable : ∀ x ∈ subtypes, table.has x = true)
    (hparent : ∀ x ∈ subtypes, ∀ p, s.registry.parent? x = some p → p = parent)
    (htokens : ∀ f ∈ firstByName (subtypes.flatMap table.fieldsOf), ∀ token ∈ f.types,
      Descriptor.ofToken? s.registry.known.has token ≠ none) :
    let fields := (firstByName (subtypes.flatMap table.fieldsOf)).filterMap (·.declaration? false)
    (exec (flatten parent subtypes table) s).1 = .ok fields ∧
    (fields.map (·.wireName)).Nodup ∧
    ∀ (s' : Session) (subtypes' : List String), s'.registry.known = s.registry.known →
      s'.registry.parents = s.registry.parents → subtypes'.eraseDups = subtypes.eraseDups →
      (exec (flatten parent subtypes' table) s').1 = .ok fields := by
  intro fields
  have hall : ∀ (s' : Session) (subtypes' : List String),
      s'.registry.known = s.registry.known → s'.registry.parents = s.registry.parents →
      subtypes'.eraseDups = subtypes.eraseDups →
      (exec (flatten parent subtypes' table) s').1 = .ok fields := by
    intro s' subtypes' hknown hparents he
    have hmem : ∀ x ∈ subtypes', x ∈ subtypes := by
      intro x hx
      rwa [← List.mem_eraseDups, ← he, List.mem_eraseDups]
    have hfree : ∀ x ∈ subtypes', Free s'.registry.parents parent x := by
      intro x hx p hp
      rw [hparents] at hp
      exact hparent x (hmem x hx) p hp
    have hscans := @Scans.flatten s'.registry parent table subtypes'
      (fun x hx => Table.has_iff.1 (htable x (hmem x hx))) hfree
    rw [firstByName_congr he] at hscans
    apply hscans.eq_ok_iff.2
    refine ⟨?_, rfl⟩
    rw [Registry.firstUnknown?_congr hknown, Registry.firstUnknown?_eq_none_iff]
    intro token ht
    obtain ⟨f, hf, ht⟩ := List.mem_flatMap.1 ht
    exact htokens f hf token ht
  exact ⟨hall s subtypes rfl rfl rfl, nodup_declarations_firstByName _ false, hall⟩

/-- A clip and a reel share names of fields, some of which are files or the text of a number. -/
def clips : Table TypeEntry :=
  ⟨[("Clip", {
      name := "Clip"
      fields := some [⟨"kind", ["String"], true, "What it is."⟩, ⟨"cover", ["InputFile"], true, ""⟩,
        ⟨"chat_id", ["String", "Integer"], false, ""⟩, ⟨"kind", ["Integer"], false, ""⟩] }),
    ("Reel", {
      name := "Reel"
      fields := some [⟨"cover", ["String"], true, ""⟩, ⟨"kind", ["Boolean"], false, ""⟩,
        ⟨"parts", ["Array of InputFile", "Array of Clip"], false, ""⟩] }),
    ("InputFile", { name := "InputFile" })], by decide⟩

theorem Compile.exec_flatten_clips :
    let r : Registry := { Registry.ofNames clips.keys with
      arrays := NameSet.empty.insert "Reel"
      parents := [("Reel", "Media")] }
    ∃ fields, fields.map (fun f => (f.wireName, f.descriptor, f.required)) =
        [("kind", .scalar .string, true), ("chat_id", .scalar .int64, false),
          ("parts", .array (.object "Clip"), false)] ∧
      (exec (flatten "Media" ["Clip", "Reel", "Clip"] clips) ⟨r, []⟩).1 = .ok fields ∧
      (exec (flatten "Media" ["Clip", "Reel"] clips) ⟨{ r with arrays := .empty }, []⟩).1 =
        .ok fields := by
  intro r
  have hknown : r.known.has = clips.has := by
    funext key
    rw [Bool.eq_iff_iff, NameSet.has_iff]
    exact NameSet.mem_ofList.trans List.contains_iff_mem.symm
  have htokens : ∀ f ∈ firstByName (["Clip", "Reel", "Clip"].flatMap clips.fieldsOf),
      ∀ token ∈ f.types, Descriptor.ofToken? r.known.has token ≠ none := by
    rw [hknown]
    decide
  have hparent : ∀ x ∈ ["Clip", "Reel", "Clip"], ∀ p, r.parent? x = some p → p = "Media" := by
    have hp : ∀ x ∈ ["Clip", "Reel", "Clip"], r.parent? x ∈ [none, some "Media"] := by decide
    intro x hx p he
    simpa [he] using hp x hx
  obtain ⟨hall, -, hrest⟩ :=
    @exec_flatten ⟨r, []⟩ _ _ clips (by decide) hparent htokens
  exact ⟨_, by decide, hall, hrest _ ["Clip", "Reel"] rfl rfl (by decide)⟩

end BotBindings
