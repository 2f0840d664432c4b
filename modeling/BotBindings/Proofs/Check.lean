import BotBindings.Proofs.Except
import BotBindings.Proofs.Method
import BotBindings.Schema.Check

namespace BotBindings.Schema

theorem Table.has_iff {α : Type} {table : Table α} {key : String} :
    table.has key = true ↔ (table.get? key).isSome := by
  simp [Table.has, Table.get?, Table.keys, List.lookup_isSome_iff]

theorem checkFields_eq_ok_iff {owner : String} {fs : List Field} :
    checkFields owner fs = .ok () ↔ ∀ f ∈ fs, f.types ≠ [] := by
  unfold checkFields
  cases h : fs.find? (·.types.isEmpty) with
  | some f =>
    have hf := List.find?_some h
    simp only [reduceCtorEq, false_iff]
    exact fun hall => hall f (List.mem_of_find?_eq_some h) (List.isEmpty_iff.1 hf)
  | none => simpa using h

theorem lookup_checkSubtypes {table : Table TypeEntry} {parent : String}
    {claimed c : List (String × String)} {subtypes : List String}
    (h : checkSubtypes table parent claimed subtypes = .ok c) (s : String) :
    c.lookup s = (claimed.lookup s).or (if s ∈ subtypes then some parent else none) := by
  induction subtypes generalizing claimed with
  | nil =>
    cases h
    simp
  | cons x rest ih =>
    unfold checkSubtypes at h
    split at h
    · cases h
    · split at h
      · next first hx =>
        split at h
        · next he =>
          rw [ih h]
          by_cases hs : s = x
          · simp [hs, hx]
          · simp [hs]
        · cases h
      · next hx =>
        rw [ih h]
        by_cases hs : s = x
        · simp [hs, hx]
        · simp [hs, List.lookup_cons, beq_false_of_ne hs]

theorem checkSubtypes_eq_ok_iff {table : Table TypeEntry} {parent : String}
    {claimed : List (String × String)} {subtypes : List String} :
    (∃ c, checkSubtypes table parent claimed subtypes = .ok c) ↔
      ∀ s ∈ subtypes, table.has s = true ∧ Free claimed parent s := by
  induction subtypes generalizing claimed with
  | nil => simp [checkSubtypes]
  | cons x rest ih =>
    rw [List.forall_mem_cons]
    unfold checkSubtypes
    cases hx : table.has x with
    | false => simp
    | true =>
      cases hl : claimed.lookup x with
      | some first =>
        have hf : Free claimed parent x ↔ first = parent := by simp [Free, hl]
        by_cases he : first = parent
        · simp [he, hf, ih]
        · simp [he, hf]
      | none =>
        have hf : Free claimed parent x := fun p hp => by simp [hl] at hp
        have hc (s : String) : Free ((x, parent) :: claimed) parent s ↔ Free claimed parent s := by
          unfold Free
          by_cases hs : s = x
          · simp [hs, hl]
          · simp [List.lookup_cons, beq_false_of_ne hs]
        simp [hf, ih, hc]

theorem free_checkSubtypes {table : Table TypeEntry} {parent other : String}
    {claimed c : List (String × String)} {subtypes : List String}
    (h : checkSubtypes table parent claimed subtypes = .ok c) (s : String) :
    Free c other s ↔ Free claimed other s ∧ (s ∈ subtypes → parent = other) := by
  have hp := (checkSubtypes_eq_ok_iff.1 ⟨c, h⟩)
  unfold Free
  rw [lookup_checkSubtypes h]
  by_cases hs : s ∈ subtypes
  · have hf := (hp s hs).2
    cases hl : claimed.lookup s with
    | none => simp [hs]
    | some p =>
      have := hf p hl
      simp [hs, this]
  · simp [hs]

/-- What the check of a document establishes. -/
structure Document.Sound (d : Document) : Prop where
  fields : ∀ t ∈ d.types.values, ∀ f ∈ t.fieldList, f.types ≠ []
  subtypes : ∀ t ∈ d.types.values, ∀ s ∈ t.subtypeList, d.types.has s = true
  parents : ∀ t ∈ d.types.values, ∀ u ∈ d.types.values, ∀ s ∈ t.subtypeList,
    s ∈ u.subtypeList → t.name = u.name
  methods : ∀ m ∈ d.methods.values, m.Complete

/-- The pairs that are `claimed` stand for the types before, so a type is compared with those
pairs and with the types behind it. -/
theorem checkTypes_eq_ok_iff {table : Table TypeEntry} {claimed : List (String × String)}
    {ts : List TypeEntry} :
    checkTypes table claimed ts = .ok () ↔
      (∀ t ∈ ts, (∀ f ∈ t.fieldList, f.types ≠ []) ∧
        ∀ s ∈ t.subtypeList, table.has s = true ∧ Free claimed t.name s) ∧
      ts.Pairwise fun t u => ∀ s ∈ t.subtypeList, s ∈ u.subtypeList → t.name = u.name := by
  induction ts generalizing claimed with
  | nil => simp [checkTypes]
  | cons t rest ih =>
    rw [checkTypes, unit_bind_eq_ok_iff, checkFields_eq_ok_iff, bind_eq_ok_iff,
      List.forall_mem_cons, List.pairwise_cons]
    constructor
    · rintro ⟨hf, c, hc, hrest⟩
      obtain ⟨hall, hpair⟩ := ih.1 hrest
      have hfree (u) (hu : u ∈ rest) (s) (hs : s ∈ u.subtypeList) :=
        (free_checkSubtypes hc s).1 ((hall u hu).2 s hs).2
      refine ⟨⟨⟨hf, checkSubtypes_eq_ok_iff.1 ⟨c, hc⟩⟩, fun u hu => ⟨(hall u hu).1, fun s hs =>
        ⟨((hall u hu).2 s hs).1, (hfree u hu s hs).1⟩⟩⟩, fun u hu s hs hs' => ?_, hpair⟩
      exact (hfree u hu s hs').2 hs
    · rintro ⟨⟨⟨hf, hs⟩, hall⟩, hnames, hpair⟩
      obtain ⟨c, hc⟩ := checkSubtypes_eq_ok_iff.2 hs
      refine ⟨hf, c, hc, ih.2 ⟨fun u hu => ⟨(hall u hu).1, fun s hs => ?_⟩, hpair⟩⟩
      exact ⟨((hall u hu).2 s hs).1, (free_checkSubtypes hc s).2
        ⟨((hall u hu).2 s hs).2, fun hs' => hnames u hu s hs' hs⟩⟩

theorem checkMethods_eq_ok_iff {ms : List MethodEntry} :
    checkMethods ms = .ok () ↔ ∀ m ∈ ms, m.Complete := by
  induction ms with
  | nil => simp [checkMethods]
  | cons m rest ih =>
    rw [checkMethods, unit_bind_eq_ok_iff, checkFields_eq_ok_iff, List.forall_mem_cons,
      MethodEntry.Complete, and_assoc, ← ih]
    cases m.returns with
    | nil => simp [throw, throwThe, MonadExceptOf.throw, bind, Except.bind]
    | cons token tokens => simp

theorem check_eq_ok_iff {d : Document} : d.check = .ok () ↔ d.Sound := by
  rw [Document.check, unit_bind_eq_ok_iff, checkTypes_eq_ok_iff, checkMethods_eq_ok_iff]
  constructor
  · rintro ⟨⟨ht, hp⟩, hm⟩
    refine ⟨fun t h => (ht t h).1, fun t h s hs => ((ht t h).2 s hs).1, fun t h u h' => ?_, hm⟩
    exact hp.forall_of_forall_of_flip (fun _ _ _ _ _ => rfl)
      (hp.imp fun hn s hs hs' => (hn s hs' hs).symm) h h'
  · intro h
    refine ⟨⟨fun t ht => ⟨h.fields t ht, fun s hs => ⟨h.subtypes t ht s hs, fun _ hl => ?_⟩⟩,
      List.pairwise_of_forall_mem_list h.parents⟩, h.methods⟩
    cases hl

end BotBindings.Schema
