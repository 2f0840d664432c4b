import BotBindings.Proofs.Scan

namespace BotBindings

/-- The names that a schema has for a scalar, the usual one first. -/
def Scalar.spellings : Scalar → List String
  | string => ["String"]
  | int64 => ["Integer"]
  | float64 => ["Float", "Float number"]
  | bool => ["Boolean", "True"]

def Scalar.token : Scalar → String
  | string => "String"
  | int64 => "Integer"
  | float64 => "Float"
  | bool => "Boolean"

theorem Scalar.ofToken?_eq_some_iff {name : String} {kind : Scalar} :
    ofToken? name = some kind ↔ name ∈ kind.spellings := by
  unfold ofToken? spellings
  cases kind <;> grind

theorem Scalar.token_mem_spellings (kind : Scalar) : kind.token ∈ kind.spellings := by
  cases kind <;> decide

namespace Descriptor

/-- What a name stands for. Scalars go before the names that are known. -/
inductive Named (known : String → Bool) : String → Descriptor → Prop
  | scalar {name : String} {kind : Scalar} (h : name ∈ kind.spellings) :
    Named known name (.scalar kind)
  | object {name : String} (hs : name ∉ Scalar.tokens) (hk : known name = true) :
    Named known name (.object name)

/-- What a token stands for: what the name does that is left behind the longer of the two words
`Array of Array of` and `Array of` in front of the token, if it begins with one of them. -/
inductive Denoted (known : String → Bool) : String → Descriptor → Prop
  | name {token : String} {d : Descriptor} (hf : ¬ "Array of ".toList <+: token.toList)
    (h : Named known token d) : Denoted known token d
  | array {name : String} {d : Descriptor}
    (hf : ¬ "Array of Array of ".toList <+: ("Array of " ++ name).toList)
    (h : Named known name d) : Denoted known ("Array of " ++ name) (.array d)
  | arrayOfArray {name : String} {d : Descriptor} (h : Named known name d) :
    Denoted known ("Array of Array of " ++ name) (.arrayOfArray d)

/-- The token that a descriptor is written as. -/
def token : Descriptor → String
  | scalar kind => kind.token
  | object name => name
  | array d => "Array of " ++ d.token
  | arrayOfArray d => "Array of Array of " ++ d.token

/-- A list holds no lists, and an object is known by a name that is neither that of a scalar nor
begins like a list. -/
structure Writable (known : String → Bool) (d : Descriptor) : Prop where
  flat : ∀ e, d = array e ∨ d = arrayOfArray e → e.isArray = false
  known : ∀ name, d.elementObject? = some name → known name = true
  notScalar : ∀ name, d.elementObject? = some name → name ∉ Scalar.tokens
  notArray : ∀ name, d.elementObject? = some name → ¬ "Array of ".toList <+: name.toList

variable {known : String → Bool} {name token : String} {d : Descriptor}

theorem ofName?_eq_some_iff : ofName? known name = some d ↔ Named known name d := by
  unfold ofName?
  constructor
  · intro h
    split at h
    · next kind hk =>
      cases h
      exact .scalar (Scalar.ofToken?_eq_some_iff.1 hk)
    · next hn =>
      split at h
      · next hk =>
        cases h
        exact .object (Scalar.ofToken?_eq_none_iff.1 hn) hk
      · cases h
  · intro h
    cases h with
    | scalar h => rw [Scalar.ofToken?_eq_some_iff.2 h]
    | object hs hk =>
      rw [Scalar.ofToken?_eq_none_iff.2 hs]
      exact if_pos hk

theorem behind?_append (front s : String) :
    Text.behind? front.toList (front ++ s).toList = some s.toList :=
  Text.behind?_eq_some_iff.2 String.toList_append

theorem exists_eq_append {front s : String} (h : front.toList <+: s.toList) :
    ∃ rest, s = front ++ rest := by
  obtain ⟨rest, hr⟩ := h
  refine ⟨String.ofList rest, ?_⟩
  rw [← String.toList_inj, String.toList_append, String.toList_ofList, hr]

theorem ofToken?_arrayOfArray (name : String) :
    ofToken? known ("Array of Array of " ++ name) = (ofName? known name).map arrayOfArray := by
  rw [ofToken?, behind?_append]
  simp only [String.ofList_toList]

theorem ofToken?_array (h : ¬ "Array of Array of ".toList <+: ("Array of " ++ name).toList) :
    ofToken? known ("Array of " ++ name) = (ofName? known name).map array := by
  rw [ofToken?, Text.behind?_eq_none_iff.2 h, behind?_append]
  simp only [String.ofList_toList]

theorem ofToken?_name (h : ¬ "Array of ".toList <+: token.toList) :
    ofToken? known token = ofName? known token := by
  have hw : "Array of ".toList <+: "Array of Array of ".toList := by decide
  have h' : ¬ "Array of Array of ".toList <+: token.toList := fun hp => h (hw.trans hp)
  rw [ofToken?, Text.behind?_eq_none_iff.2 h', Text.behind?_eq_none_iff.2 h]

theorem ofToken?_eq_some_iff : ofToken? known token = some d ↔ Denoted known token d := by
  constructor
  · intro h
    by_cases hf : "Array of ".toList <+: token.toList
    · by_cases hf' : "Array of Array of ".toList <+: token.toList
      · obtain ⟨name, rfl⟩ := exists_eq_append hf'
        rw [ofToken?_arrayOfArray] at h
        obtain ⟨e, he, rfl⟩ := Option.map_eq_some_iff.1 h
        exact .arrayOfArray (ofName?_eq_some_iff.1 he)
      · obtain ⟨name, rfl⟩ := exists_eq_append hf
        rw [ofToken?_array hf'] at h
        obtain ⟨e, he, rfl⟩ := Option.map_eq_some_iff.1 h
        exact .array hf' (ofName?_eq_some_iff.1 he)
    · rw [ofToken?_name hf] at h
      exact .name hf (ofName?_eq_some_iff.1 h)
  · intro h
    cases h with
    | name hf h => rw [ofToken?_name hf, ofName?_eq_some_iff.2 h]
    | array hf h => rw [ofToken?_array hf, ofName?_eq_some_iff.2 h, Option.map_some]
    | arrayOfArray h => rw [ofToken?_arrayOfArray, ofName?_eq_some_iff.2 h, Option.map_some]

theorem named_token (hd : d.isArray = false) (hk : ∀ x, d.elementObject? = some x → known x = true)
    (hs : ∀ x, d.elementObject? = some x → x ∉ Scalar.tokens) : Named known d.token d := by
  cases d with
  | scalar kind => exact .scalar kind.token_mem_spellings
  | object x => exact .object (hs x rfl) (hk x rfl)
  | array e => cases hd
  | arrayOfArray e => cases hd

theorem not_prefix_token (hd : d.isArray = false)
    (ha : ∀ x, d.elementObject? = some x → ¬ "Array of ".toList <+: x.toList) :
    ¬ "Array of ".toList <+: d.token.toList := by
  cases d with
  | scalar kind => cases kind <;> decide
  | object x => exact ha x rfl
  | array e => cases hd
  | arrayOfArray e => cases hd

theorem Writable.denoted (h : d.Writable known) : Denoted known d.token d := by
  cases d with
  | scalar kind =>
    exact .name (not_prefix_token rfl h.notArray) (named_token rfl h.known h.notScalar)
  | object x =>
    exact .name (not_prefix_token rfl h.notArray) (named_token rfl h.known h.notScalar)
  | array e =>
    have he : e.isArray = false := h.flat e (.inl rfl)
    -- the longer word would take away the beginning of the name
    have hf : ¬ "Array of Array of ".toList <+: ("Array of " ++ e.token).toList := by
      rw [show "Array of Array of " = "Array of " ++ "Array of " from rfl, String.toList_append,
        String.toList_append, List.prefix_append_right_inj]
      exact not_prefix_token he h.notArray
    exact .array hf (named_token he h.known h.notScalar)
  | arrayOfArray e =>
    exact .arrayOfArray (named_token (h.flat e (.inr rfl)) h.known h.notScalar)

/-- Three words are too many where no name begins like a list. -/
theorem ofToken?_eq_none_of_prefix (hk : ∀ x, known x = true → ¬ "Array of ".toList <+: x.toList)
    (h : "Array of Array of Array of ".toList <+: token.toList) : ofToken? known token = none := by
  have hscalar (kind : Scalar) : ∀ s ∈ kind.spellings, ¬ "Array of ".toList <+: s.toList := by
    cases kind <;> decide
  obtain ⟨rest, rfl⟩ := exists_eq_append h
  have hthree : "Array of Array of Array of " = "Array of Array of " ++ "Array of " := rfl
  have hp : "Array of ".toList <+: ("Array of " ++ rest).toList := by
    rw [String.toList_append]
    exact List.prefix_append _ _
  rw [hthree, String.append_assoc, ofToken?_arrayOfArray, Option.map_eq_none_iff,
    Option.eq_none_iff_forall_ne_some]
  intro d hd
  -- what is left behind two of them still begins like a list, so it is no name
  cases ofName?_eq_some_iff.1 hd with
  | scalar hs => exact hscalar _ _ hs hp
  | object hs hx => exact hk _ hx hp

end Descriptor

namespace Compile

theorem exec_resolve (token : String) (s : Session) :
    (exec (resolve token) s).1 =
      match Descriptor.ofToken? s.registry.known.has token with
      | some d => .ok d
      | none => .error (.unresolvable token) := by
  have hs := (Scans.resolve (r := s.registry) token).fst_exec s.log
  rw [Registry.firstUnknown?, List.find?_singleton] at hs
  rw [Registry.ofToken?_known]
  change (exec (resolve token) s).1 = _ at hs
  rw [hs]
  cases s.registry.knows token <;> rfl

/-- A token resolves to what it denotes, and fails with itself if it denotes nothing. What can be
written resolves to itself, and nothing behind three of the words `Array of` does if no name that is
known begins with them. -/
theorem resolve_grammar (s : Session) :
    (∀ token d, (exec (resolve token) s).1 = .ok d ↔
      Descriptor.Denoted s.registry.known.has token d) ∧
    (∀ token e, (exec (resolve token) s).1 = .error e ↔
      e = .unresolvable token ∧ ∀ d, ¬ Descriptor.Denoted s.registry.known.has token d) ∧
    (∀ d : Descriptor, d.Writable s.registry.known.has → (exec (resolve d.token) s).1 = .ok d) ∧
    ((∀ name, s.registry.known.has name = true → ¬ "Array of ".toList <+: name.toList) →
      ∀ token : String, "Array of Array of Array of ".toList <+: token.toList →
        (exec (resolve token) s).1 = .error (.unresolvable token)) := by
  have hok (token d) : (exec (resolve token) s).1 = .ok d ↔
      Descriptor.Denoted s.registry.known.has token d := by
    rw [exec_resolve, ← Descriptor.ofToken?_eq_some_iff]
    cases Descriptor.ofToken? s.registry.known.has token <;> simp
  have herror (token e) : (exec (resolve token) s).1 = .error e ↔
      e = .unresolvable token ∧ ∀ d, ¬ Descriptor.Denoted s.registry.known.has token d := by
    rw [exec_resolve]
    simp only [← Descriptor.ofToken?_eq_some_iff]
    cases Descriptor.ofToken? s.registry.known.has token <;> simp [eq_comm]
  refine ⟨hok, herror, fun d hd => (hok d.token d).2 hd.denoted, fun hk token ht => ?_⟩
  rw [exec_resolve, Descriptor.ofToken?_eq_none_of_prefix hk ht]

/-- A type goes by the name of a scalar, and another one by a name of its own. -/
def twoNames : Session := ⟨.ofNames ["String", "User"], []⟩

theorem resolve_grammar_twoNames :
    (exec (resolve "Array of String") twoNames).1 = .ok (.array (.scalar .string)) ∧
    (Descriptor.Writable twoNames.registry.known.has (.arrayOfArray (.object "User")) ∧
      (exec (resolve "Array of Array of User") twoNames).1 =
        .ok (.arrayOfArray (.object "User"))) ∧
    ("Array of Array of Array of ".toList <+: "Array of Array of Array of User".toList ∧
      (exec (resolve "Array of Array of Array of User") twoNames).1 =
        .error (.unresolvable "Array of Array of Array of User")) := by
  obtain ⟨hok, -, hwritten, hthree⟩ := resolve_grammar twoNames
  have hknown (name : String) : twoNames.registry.known.has name = true ↔
      name ∈ ["String", "User"] := by
    rw [NameSet.has_iff]
    exact NameSet.mem_ofList
  have hw : Descriptor.Writable twoNames.registry.known.has (.arrayOfArray (.object "User")) := by
    refine ⟨?_, ?_, ?_, ?_⟩
    · rintro e (h | h) <;> cases h
      rfl
    all_goals
      intro name hn
      cases hn
      decide
  have hnames : ∀ name, twoNames.registry.known.has name = true →
      ¬ "Array of ".toList <+: name.toList := by
    intro name hn
    have hall : ∀ n ∈ ["String", "User"], ¬ "Array of ".toList <+: n.toList := by decide
    exact hall name ((hknown name).1 hn)
  have hp : "Array of Array of Array of ".toList <+: "Array of Array of Array of User".toList := by
    decide
  have hd : Descriptor.Denoted twoNames.registry.known.has ("Array of " ++ "String")
      (.array (.scalar .string)) := .array (by decide) (.scalar (by decide))
  exact ⟨(hok _ _).2 hd, ⟨hw, hwritten _ hw⟩, hp, hthree hnames _ hp⟩

end Compile

end BotBindings
