import BotBindings.Binding.Descriptor

namespace BotBindings

/-- The names of scalars. -/
def Scalar.tokens : List String := ["String", "Integer", "Float", "Float number", "Boolean", "True"]

theorem Scalar.ofToken?_eq_none_iff {name : String} : ofToken? name = none ↔ name ∉ tokens := by
  unfold ofToken? tokens
  grind

theorem Text.behind?_eq_none_iff {front cs : List Char} :
    behind? front cs = none ↔ ¬ front <+: cs := by
  rw [Option.eq_none_iff_forall_ne_some]
  constructor
  · rintro h ⟨rest, hr⟩
    exact h rest (behind?_eq_some_iff.2 hr.symm)
  · intro h rest hr
    exact h ⟨rest, (behind?_eq_some_iff.1 hr).symm⟩

namespace Descriptor

/-- What a name stands for once it is known. -/
def ofName (name : String) : Descriptor :=
  match Scalar.ofToken? name with
  | some kind => scalar kind
  | none => object name

/-- What a token stands for once the name in it is known. -/
def ofToken (token : String) : Descriptor :=
  match Text.behind? "Array of Array of ".toList token.toList with
  | some rest => arrayOfArray (ofName (String.ofList rest))
  | none =>
    match Text.behind? "Array of ".toList token.toList with
    | some rest => array (ofName (String.ofList rest))
    | none => ofName token

theorem ofName?_eq (known : String → Bool) (name : String) :
    ofName? known name =
      if (ofName name).elementObject?.all known then some (ofName name) else none := by
  unfold ofName? ofName
  cases Scalar.ofToken? name <;> rfl

theorem ofToken?_eq (known : String → Bool) (token : String) :
    ofToken? known token =
      if (ofToken token).elementObject?.all known then some (ofToken token) else none := by
  unfold ofToken? ofToken
  cases Text.behind? "Array of Array of ".toList token.toList with
  | some rest =>
    dsimp only
    rw [ofName?_eq, apply_ite (Option.map arrayOfArray)]
    rfl
  | none =>
    cases Text.behind? "Array of ".toList token.toList with
    | some rest =>
      dsimp only
      rw [ofName?_eq, apply_ite (Option.map array)]
      rfl
    | none => exact ofName?_eq known token

/-- The object whose lists a descriptor stands for. -/
def arrayObject? : Descriptor → Option String
  | array (object name) => some name
  | _ => none

/-- The object whose lists of lists a descriptor stands for. -/
def arrayOfArrayObject? : Descriptor → Option String
  | arrayOfArray (object name) => some name
  | _ => none

theorem arrayObject?_eq_some {d : Descriptor} {name : String} :
    d.arrayObject? = some name ↔ d = array (object name) := by
  unfold arrayObject?
  split <;> simp_all

theorem arrayOfArrayObject?_eq_some {d : Descriptor} {name : String} :
    d.arrayOfArrayObject? = some name ↔ d = arrayOfArray (object name) := by
  unfold arrayOfArrayObject?
  split <;> simp_all

/-- The objects of which tokens name lists. -/
def arrayObjects (tokens : List String) : List String :=
  tokens.filterMap fun t => (ofToken t).arrayObject?

/-- The objects of which tokens name lists of lists. -/
def arrayOfArrayObjects (tokens : List String) : List String :=
  tokens.filterMap fun t => (ofToken t).arrayOfArrayObject?

theorem mem_arrayObjects {tokens : List String} {name : String} :
    name ∈ arrayObjects tokens ↔ ∃ t ∈ tokens, ofToken t = array (object name) := by
  simp only [arrayObjects, List.mem_filterMap, arrayObject?_eq_some]

theorem mem_arrayOfArrayObjects {tokens : List String} {name : String} :
    name ∈ arrayOfArrayObjects tokens ↔
      ∃ t ∈ tokens, ofToken t = arrayOfArray (object name) := by
  simp only [arrayOfArrayObjects, List.mem_filterMap, arrayOfArrayObject?_eq_some]

theorem ofName_ne_array (name : String) (d : Descriptor) : ofName name ≠ array d := by
  unfold ofName
  split <;> simp

theorem ofName_ne_arrayOfArray (name : String) (d : Descriptor) : ofName name ≠ arrayOfArray d := by
  unfold ofName
  split <;> simp

theorem ofName_eq_object_iff {name x : String} :
    ofName name = object x ↔ name = x ∧ x ∉ Scalar.tokens := by
  rw [← Scalar.ofToken?_eq_none_iff]
  unfold ofName
  cases h : Scalar.ofToken? name with
  | some kind =>
    simp only [reduceCtorEq, false_iff, not_and]
    rintro rfl
    simp [h]
  | none =>
    simp only [object.injEq]
    exact ⟨fun hn => ⟨hn, hn ▸ h⟩, And.left⟩

theorem behind?_eq_some_ofList {front t x : String} {rest : List Char}
    (h : Text.behind? front.toList t.toList = some rest) :
    String.ofList rest = x ↔ t = front ++ x := by
  rw [Text.behind?_eq_some_iff] at h
  rw [← String.toList_inj, ← String.toList_inj, String.toList_append, h, String.toList_ofList,
    List.append_cancel_left_eq]

theorem ofToken_eq_arrayOfArray_iff {t x : String} :
    ofToken t = arrayOfArray (object x) ↔ x ∉ Scalar.tokens ∧ t = "Array of Array of " ++ x := by
  unfold ofToken
  split
  · next rest h =>
    rw [arrayOfArray.injEq, ofName_eq_object_iff, behind?_eq_some_ofList h, and_comm]
  · next h =>
    have hn : t ≠ "Array of Array of " ++ x := by
      rintro rfl
      rw [Text.behind?_eq_none_iff, String.toList_append] at h
      exact h (List.prefix_append _ _)
    split <;> simp [hn, ofName_ne_arrayOfArray]

theorem ofToken_eq_array_iff {t x : String} :
    ofToken t = array (object x) ↔ x ∉ Scalar.tokens ∧
      t = "Array of " ++ x ∧ ¬ "Array of Array of ".toList <+: t.toList := by
  rw [← Text.behind?_eq_none_iff]
  unfold ofToken
  split
  · next rest h =>
    rw [h]
    simp
  · next h =>
    rw [h]
    split
    · next rest h' =>
      rw [array.injEq, ofName_eq_object_iff, behind?_eq_some_ofList h', and_comm]
      simp
    · next h' =>
      have hn : t ≠ "Array of " ++ x := by
        rintro rfl
        rw [Text.behind?_eq_none_iff, String.toList_append] at h'
        exact h' (List.prefix_append _ _)
      simp [hn, ofName_ne_array]

end Descriptor

end BotBindings
