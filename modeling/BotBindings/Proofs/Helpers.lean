import BotBindings.Proofs.ByteOrder
import BotBindings.Proofs.Document

namespace BotBindings

namespace Schema

namespace Document

/-- The token is an alternative of a field of a type that is not a union, or of the first field of
its name among those of a union's subtypes, or of a parameter, or it is the first return of a
method. -/
def Visits (d : Document) (token : String) : Prop :=
  (∃ t ∈ d.types.values, t.isUnion = false ∧ ∃ f ∈ t.fieldList, token ∈ f.types) ∨
  (∃ t ∈ d.types.values, t.isUnion = true ∧
    ∃ f, (t.memberFields d.types).find? (·.name = f.name) = some f ∧ token ∈ f.types) ∨
  (∃ m ∈ d.methods.values, ∃ f ∈ m.fieldList, token ∈ f.types) ∨
  ∃ m ∈ d.methods.values, m.returns.head? = some token

theorem mem_visited {d : Document} {token : String} : token ∈ d.visited ↔ d.Visits token := by
  have hm (m : MethodEntry) : token ∈ m.tokens ↔
      (∃ f ∈ m.fieldList, token ∈ f.types) ∨ m.returns.head? = some token := by
    cases hr : m.returns <;> simp [MethodEntry.tokens, hr, eq_comm]
  simp only [visited, Visits, List.mem_append, List.mem_flatMap, TypeEntry.mem_sources, hm]
  constructor
  · rintro (⟨t, ht, f, ⟨hu, hf⟩ | ⟨hu, hf⟩, hx⟩ | ⟨m, hm, ⟨f, hf, hx⟩ | hx⟩)
    · exact .inl ⟨t, ht, hu, f, hf, hx⟩
    · exact .inr (.inl ⟨t, ht, hu, f, hf, hx⟩)
    · exact .inr (.inr (.inl ⟨m, hm, f, hf, hx⟩))
    · exact .inr (.inr (.inr ⟨m, hm, hx⟩))
  · rintro (⟨t, ht, hu, f, hf, hx⟩ | ⟨t, ht, hu, f, hf, hx⟩ | ⟨m, hm, f, hf, hx⟩ | ⟨m, hm, hx⟩)
    · exact .inl ⟨t, ht, f, .inl ⟨hu, hf⟩, hx⟩
    · exact .inl ⟨t, ht, f, .inr ⟨hu, hf⟩, hx⟩
    · exact .inr ⟨m, hm, .inl ⟨f, hf, hx⟩⟩
    · exact .inr ⟨m, hm, .inr hx⟩

theorem mem_visited_of_source {d : Document} {t : TypeEntry} (ht : t ∈ d.types.values) {f : Field}
    (hf : f ∈ t.sources d.types) {token : String} (hx : token ∈ f.types) : token ∈ d.visited :=
  List.mem_append_left _ (List.mem_flatMap.2 ⟨t, ht, List.mem_flatMap.2 ⟨f, hf, hx⟩⟩)

/-- A parameter is handed over as its first alternative, and there is one. -/
theorem Sound.head_mem_visited {d : Document} (hs : d.Sound) {m : MethodEntry}
    (hm : m ∈ d.methods.values) {f : Field} (hf : f ∈ m.fieldList) :
    f.types.headD "" ∈ d.visited := by
  have hfirst : f.types.headD "" ∈ f.types := by
    cases ht : f.types with
    | nil => exact absurd ht ((hs.methods m hm).1 f hf)
    | cons token rest => exact List.mem_cons_self
  exact mem_visited.2 (.inr (.inr (.inl ⟨m, hm, f, hf, hfirst⟩)))

theorem mem_keys_of_visited {d : Document} {token name : String}
    (hd : d.firstUnresolvable? = none) (ht : token ∈ d.visited)
    (hn : (Descriptor.ofToken token).elementObject? = some name) : name ∈ d.types.keys := by
  have hr := firstUnresolvable?_eq_none_iff.1 hd token ht
  rw [Descriptor.ofToken?_eq, hn, Option.all_some] at hr
  have hh : d.types.has name = true := by simpa using hr
  exact List.contains_iff_mem.1 hh

theorem mem_arrayHelpers {d : Document} {name : String} :
    name ∈ d.bindings.arrayHelpers ↔
      ∃ t ∈ d.visited, Descriptor.ofToken t = .array (.object name) := by
  rw [← Descriptor.mem_arrayObjects]
  exact NameSet.mem_ofList

theorem mem_arrayOfArrayHelpers {d : Document} {name : String} :
    name ∈ d.bindings.arrayOfArrayHelpers ↔
      ∃ t ∈ d.visited, Descriptor.ofToken t = .arrayOfArray (.object name) := by
  rw [← Descriptor.mem_arrayOfArrayObjects]
  exact NameSet.mem_ofList

theorem mem_arrayHelpers_iff {d : Document} (hd : d.firstUnresolvable? = none) {name : String} :
    name ∈ d.bindings.arrayHelpers ↔ name ∈ d.types.keys ∧ name ∉ Scalar.tokens ∧
      ∃ t, d.Visits t ∧ t = "Array of " ++ name ∧ ¬ "Array of Array of ".toList <+: t.toList := by
  rw [mem_arrayHelpers]
  constructor
  · rintro ⟨t, ht, he⟩
    have hk : name ∈ d.types.keys := mem_keys_of_visited hd ht (by rw [he]; rfl)
    obtain ⟨hs, hn, hp⟩ := Descriptor.ofToken_eq_array_iff.1 he
    exact ⟨hk, hs, t, mem_visited.1 ht, hn, hp⟩
  · rintro ⟨-, hs, t, ht, hn, hp⟩
    exact ⟨t, mem_visited.2 ht, Descriptor.ofToken_eq_array_iff.2 ⟨hs, hn, hp⟩⟩

theorem mem_arrayOfArrayHelpers_iff {d : Document} (hd : d.firstUnresolvable? = none)
    {name : String} :
    name ∈ d.bindings.arrayOfArrayHelpers ↔ name ∈ d.types.keys ∧ name ∉ Scalar.tokens ∧
      ∃ t, d.Visits t ∧ t = "Array of Array of " ++ name := by
  rw [mem_arrayOfArrayHelpers]
  constructor
  · rintro ⟨t, ht, he⟩
    have hk : name ∈ d.types.keys := mem_keys_of_visited hd ht (by rw [he]; rfl)
    obtain ⟨hs, hn⟩ := Descriptor.ofToken_eq_arrayOfArray_iff.1 he
    exact ⟨hk, hs, t, mem_visited.1 ht, hn⟩
  · rintro ⟨-, hs, t, ht, hn⟩
    exact ⟨t, mem_visited.2 ht, Descriptor.ofToken_eq_arrayOfArray_iff.2 ⟨hs, hn⟩⟩

/-- The first return of a method is what its result is decoded from. -/
theorem exists_visited_of_method {d : Document} (h : d.Sound) {m : MethodBinding}
    (hm : m ∈ d.bindings.methods) :
    m.returns.decode = m.returns.descriptor.decode ∧
      ∃ t ∈ d.visited, Descriptor.ofToken t = m.returns.descriptor := by
  obtain ⟨e, he, rfl⟩ := List.mem_map.1 hm
  refine ⟨rfl, e.returns.headD "", mem_visited.2 (.inr (.inr (.inr ⟨e, he, ?_⟩))), rfl⟩
  have hn := (h.methods e he).2
  cases hr : e.returns with
  | nil => exact absurd hr hn
  | cons token rest => rfl

end Document

end Schema

namespace Descriptor

variable {d e : Descriptor} {name : String}

theorem decode_eq_arrayHelper_iff : d.decode = .arrayHelper name ↔ d = array (object name) := by
  unfold decode
  split <;> simp_all

theorem decode_eq_arrayOfArrayHelper_iff :
    d.decode = .arrayOfArrayHelper name ↔ d = arrayOfArray (object name) := by
  unfold decode
  split <;> simp_all

theorem decode_eq_generic_iff :
    d.decode = .generic e ↔
      e = d ∧ ∀ name, d ≠ array (object name) ∧ d ≠ arrayOfArray (object name) := by
  unfold decode
  split <;> simp_all [eq_comm]

end Descriptor

theorem NameSet.bytes_sorted (s : NameSet) :
    s.names.Pairwise fun x y => Text.bytes x < Text.bytes y :=
  s.sorted.imp Text.bytes_lt

open Schema

/-- The helpers are those of the objects whose lists the document visits, in ascending order, and
the results of methods call no other ones. -/
theorem Bindings.ofDocument_helpers {d : Document} {b : Bindings}
    (h : (ofDocument (some d)).1 = .ok b) :
    (b.arrayHelpers.Pairwise (fun x y => Text.bytes x < Text.bytes y) ∧
      ∀ x, x ∈ b.arrayHelpers ↔ x ∈ d.types.keys ∧ x ∉ Scalar.tokens ∧
        ∃ t, d.Visits t ∧ t = "Array of " ++ x ∧ ¬ "Array of Array of ".toList <+: t.toList) ∧
    (b.arrayOfArrayHelpers.Pairwise (fun x y => Text.bytes x < Text.bytes y) ∧
      ∀ x, x ∈ b.arrayOfArrayHelpers ↔ x ∈ d.types.keys ∧ x ∉ Scalar.tokens ∧
        ∃ t, d.Visits t ∧ t = "Array of Array of " ++ x) ∧
    ∀ m ∈ b.methods,
      (∀ x, m.returns.decode = .arrayHelper x ↔ m.returns.descriptor = .array (.object x)) ∧
      (∀ x, m.returns.decode = .arrayOfArrayHelper x ↔
        m.returns.descriptor = .arrayOfArray (.object x)) ∧
      (∀ e, m.returns.decode = .generic e ↔ e = m.returns.descriptor ∧
        ∀ x, m.returns.descriptor ≠ .array (.object x) ∧
          m.returns.descriptor ≠ .arrayOfArray (.object x)) ∧
      (∀ x, m.returns.decode = .arrayHelper x → x ∈ b.arrayHelpers) ∧
      ∀ x, m.returns.decode = .arrayOfArrayHelper x → x ∈ b.arrayOfArrayHelpers := by
  obtain ⟨hs, hd, rfl⟩ := ofDocument_eq_ok_iff.1 h
  refine ⟨⟨NameSet.bytes_sorted _, fun x => Document.mem_arrayHelpers_iff hd⟩,
    ⟨NameSet.bytes_sorted _, fun x => Document.mem_arrayOfArrayHelpers_iff hd⟩, fun m hm => ?_⟩
  obtain ⟨he, t, ht, hr⟩ := Document.exists_visited_of_method hs hm
  rw [he]
  refine ⟨fun x => Descriptor.decode_eq_arrayHelper_iff,
    fun x => Descriptor.decode_eq_arrayOfArrayHelper_iff,
    fun e => Descriptor.decode_eq_generic_iff, fun x hx => ?_, fun x hx => ?_⟩
  · rw [Descriptor.decode_eq_arrayHelper_iff, ← hr] at hx
    exact Document.mem_arrayHelpers.2 ⟨t, ht, hx⟩
  · rw [Descriptor.decode_eq_arrayOfArrayHelper_iff, ← hr] at hx
    exact Document.mem_arrayOfArrayHelpers.2 ⟨t, ht, hx⟩

/-- Lists of lists are met as an alternative that is passed over, and lists as a first return. -/
def album : Document where
  types := ⟨[("Photo", {
    name := "Photo"
    fields := some [⟨"tiles", ["String", "Array of Array of Photo"], true, ""⟩] })], by decide⟩
  methods := ⟨[("list", { name := "list", returns := ["Array of Photo", "Array of Tag"] })],
    by decide⟩

theorem Bindings.ofDocument_helpers_album :
    (ofDocument (some album)).1 = .ok album.bindings ∧
      "Photo" ∈ album.bindings.arrayHelpers ∧ "Photo" ∈ album.bindings.arrayOfArrayHelpers := by
  have h : (ofDocument (some album)).1 = .ok album.bindings :=
    ofDocument_eq_ok_iff.2 ⟨check_eq_ok_iff.1 rfl, by decide, rfl⟩
  obtain ⟨⟨-, ha⟩, ⟨-, hb⟩, -⟩ := ofDocument_helpers h
  have hlist : album.Visits "Array of Photo" :=
    .inr (.inr (.inr ⟨_, List.mem_singleton_self _, rfl⟩))
  have htiles : album.Visits "Array of Array of Photo" :=
    .inl ⟨_, List.mem_singleton_self _, rfl, _, List.mem_singleton_self _, by decide⟩
  exact ⟨h, (ha "Photo").2 ⟨by decide, by decide, _, hlist, rfl, by decide⟩,
    (hb "Photo").2 ⟨by decide, by decide, _, htiles, rfl⟩⟩

end BotBindings
