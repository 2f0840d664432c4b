import BotBindings.Proofs.Field
import BotBindings.Proofs.Scan

namespace BotBindings

namespace Compile.Scans

open Schema

variable {r : Registry}

theorem firstDeclarable (field : String) (tokens : List String) :
    Scans (firstDeclarable field tokens) r tokens
      (((tokens.map Descriptor.ofToken).find? (Field.declares field)).map fun d => ⟨d, d.isObject⟩)
      (r.visit tokens) := by
  induction tokens generalizing r with
  | nil => exact pure
  | cons token rest ih =>
    rw [Registry.visit_cons]
    refine (resolveField token).bind (u := rest) ?_
    simp only [List.map_cons, List.find?_cons]
    split
    · next hu =>
      have hd : Field.declares field (Descriptor.ofToken token) = false := by
        rw [Field.declares_eq, hu]
        rfl
      rw [hd]
      exact (tell _).silent_bind ih
    · next hu =>
      split
      · next hs =>
        have hd : Field.declares field (Descriptor.ofToken token) = false := by
          rw [Field.declares_eq, hs, Bool.not_true, Bool.and_false]
        rw [hd]
        exact ih
      · next hs =>
        have hd : Field.declares field (Descriptor.ofToken token) = true := by
          rw [Bool.not_eq_true] at hu hs
          rw [Field.declares_eq, hu, hs]
          rfl
        rw [hd]
        exact ih.map fun _ => some _

theorem declareField (f : Field) (keep : Bool) :
    Scans (declareField f keep) r f.types (f.declaration? keep) (r.visit f.types) := by
  refine (firstDeclarable f.name f.types).bind_silent ?_
  unfold Field.declaration? Field.declared?
  cases (f.types.map Descriptor.ofToken).find? (Field.declares f.name) <;> exact pure

theorem filterMap_cons_toList {α β : Type} (g : α → Option β) (x : α) (xs : List α) :
    (x :: xs).filterMap g = (g x).toList ++ xs.filterMap g := by
  cases h : g x <;> simp [h]

theorem declareFields (fs : List Field) :
    Scans (declareFields fs) r (fs.flatMap (·.types)) (fs.filterMap (·.declaration? true))
      (r.visit (fs.flatMap (·.types))) := by
  induction fs generalizing r with
  | nil => exact pure
  | cons f fs ih =>
    rw [List.flatMap_cons, Registry.visit_append, filterMap_cons_toList]
    exact (declareField f true).bind (ih.map ((f.declaration? true).toList ++ ·))

/-- The names seen behind the fields are given by their members only. -/
theorem declareUnseen (seen : List String) (fs : List Field) :
    ∃ seen', (∀ x, x ∈ seen' ↔ x ∈ seen ++ fs.map Field.name) ∧
      Scans (declareUnseen seen fs) r ((unseen seen fs).flatMap (·.types))
        ((unseen seen fs).filterMap (·.declaration? false), seen')
        (r.visit ((unseen seen fs).flatMap (·.types))) := by
  induction fs generalizing seen r with
  | nil => exact ⟨seen, by simp, pure⟩
  | cons f fs ih =>
    unfold Compile.declareUnseen
    by_cases h : f.name ∈ seen
    · obtain ⟨seen', hs, hm⟩ := ih seen (r := r)
      rw [unseen_cons_of_mem h, if_pos (by simpa using h)]
      refine ⟨seen', fun x => ?_, hm⟩
      rw [hs]
      grind
    · obtain ⟨seen', hs, hm⟩ := ih (f.name :: seen) (r := r.visit f.types)
      rw [unseen_cons_of_not_mem h, if_neg (by simpa using h), List.flatMap_cons,
        Registry.visit_append, filterMap_cons_toList]
      refine ⟨seen', fun x => ?_, (declareField f false).bind (hm.map fun x =>
        ((f.declaration? false).toList ++ x.1, x.2))⟩
      rw [hs]
      grind

theorem flattenFrom {parent : String} {table : Table TypeEntry} {subtypes : List String}
    (ht : ∀ s ∈ subtypes, (table.get? s).isSome)
    (hp : ∀ s ∈ subtypes, Free r.parents parent s) (seen : List String) :
    let fs := unseen seen (subtypes.flatMap table.fieldsOf)
    Scans (flattenFrom parent table seen subtypes) r (fs.flatMap (·.types))
      (fs.filterMap (·.declaration? false))
      ((r.claim (subtypes.map (·, parent))).visit (fs.flatMap (·.types))) := by
  induction subtypes generalizing seen r with
  | nil => exact pure
  | cons s rest ih =>
    intro fs
    obtain ⟨t, hs⟩ := Option.isSome_iff_exists.1 (ht s List.mem_cons_self)
    have hf : table.fieldsOf s = t.fieldList := by simp [Table.fieldsOf, hs]
    obtain ⟨seen', hm, hu⟩ :=
      declareUnseen seen t.fieldList (r := r.claim [(s, parent)])
    -- naming the parent of one subtype leaves the others free for the same parent
    have hr : ∀ s' ∈ rest, Free (r.claim [(s, parent)]).parents parent s' :=
      fun s' h => Registry.free_claim (hp s' (List.mem_cons_of_mem s h)) (by simp)
    have hfs : fs = unseen seen t.fieldList ++ unseen seen' (rest.flatMap table.fieldsOf) := by
      simp only [fs, List.flatMap_cons, hf, unseen_append]
      rw [unseen_congr hm]
    have hrest := ih
      (r := (r.claim [(s, parent)]).visit ((unseen seen t.fieldList).flatMap (·.types)))
      (fun s' h => ht s' (List.mem_cons_of_mem s h)) hr seen'
    rw [hfs, List.flatMap_append, List.filterMap_append, Registry.visit_append]
    unfold Compile.flattenFrom
    rw [hs]
    refine (noteParent (hp s List.mem_cons_self)).silent_bind (hu.bind ?_)
    refine (hrest.map (_ ++ ·)).congr rfl rfl ?_
    rw [Registry.claim_visit, List.map_cons, ← Registry.claim_cons]

theorem flatten {parent : String} {table : Table TypeEntry} {subtypes : List String}
    (ht : ∀ s ∈ subtypes, (table.get? s).isSome)
    (hp : ∀ s ∈ subtypes, Free r.parents parent s) :
    let fs := firstByName (subtypes.flatMap table.fieldsOf)
    Scans (flatten parent subtypes table) r (fs.flatMap (·.types))
      (fs.filterMap (·.declaration? false))
      ((r.claim (subtypes.map (·, parent))).visit (fs.flatMap (·.types))) := by
  intro fs
  have h := flattenFrom ht hp []
  simp only [unseen_nil] at h
  exact h.bind_silent ((tell _).map fun _ => _)

/-- The subtypes of a type are in the table, and registered with it as their parent. -/
def Placed (t : TypeEntry) (table : Table TypeEntry) (r : Registry) : Prop :=
  ∀ s ∈ t.subtypeList, (table.get? s).isSome ∧ r.parent? s = some t.name

theorem declareShape {t : TypeEntry} {table : Table TypeEntry} (h : Placed t table r) :
    Scans (declareShape t table) r ((t.sources table).flatMap (·.types))
      (t.kind, (t.sources table).filterMap (·.declaration? !t.isUnion))
      (r.visit ((t.sources table).flatMap (·.types))) := by
  unfold Compile.declareShape TypeEntry.sources TypeEntry.kind
  cases hu : t.isUnion with
  | true =>
    -- the subtypes are registered already, so naming their parent again changes nothing
    have hp : ∀ s ∈ t.subtypeList, Free r.parents t.name s := by
      intro s hs p hp
      exact Option.some.inj (hp.symm.trans (h s hs).2)
    have hc : r.claim (t.subtypeList.map (·, t.name)) = r := by
      apply Registry.claim_eq_self
      intro c hc
      obtain ⟨s, hs, rfl⟩ := List.mem_map.1 hc
      rw [(h s hs).2]
      rfl
    have hf := flatten (fun s hs => (h s hs).1) hp
    rw [hc] at hf
    exact hf.map (Kind.struct, ·)
  | false =>
    cases hm : t.isMarker with
    | true =>
      have hn : t.fieldList = [] := by
        rw [TypeEntry.isMarker, Bool.and_eq_true, Option.isNone_iff_eq_none] at hm
        rw [TypeEntry.fieldList, hm.2]
        rfl
      rw [hn]
      exact pure
    | false => exact (declareFields t.fieldList).map (Kind.struct, ·)

theorem declareType {t : TypeEntry} {table : Table TypeEntry} (h : Placed t table r) :
    Scans (declareType t table) r ((t.sources table).flatMap (·.types))
      (t.binding table (r.parent? t.name)) (r.visit ((t.sources table).flatMap (·.types))) :=
  (declareShape h).bind_silent (registry.silent_bind ((tell _).map fun _ => _))

end Compile.Scans

end BotBindings
