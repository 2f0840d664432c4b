import BotBindings.Binding.Method
import BotBindings.Proofs.Token

namespace BotBindings

theorem isMarkupSet_iff {tokens : List String} :
    isMarkupSet tokens = true ↔ ∀ token, token ∈ tokens ↔ token ∈ markupVariants := by
  simp only [isMarkupSet, Bool.and_eq_true, List.all_eq_true, List.contains_iff_mem, iff_def,
    forall_and]

/-- A set of reply markups has more than one member. -/
theorem one_lt_length_of_isMarkupSet {tokens : List String} (h : isMarkupSet tokens = true) :
    1 < tokens.length := by
  have hmem := isMarkupSet_iff.1 h
  have hinline := (hmem "InlineKeyboardMarkup").2 (by decide)
  have hforce := (hmem "ForceReply").2 (by decide)
  match tokens, hinline, hforce with
  | [token], hinline, hforce =>
    rw [List.mem_singleton] at hinline hforce
    exact absurd (hinline.trans hforce.symm) (by decide)
  | _ :: _ :: _, _, _ => simp

theorem ofToken_of_mem_markupVariants :
    ∀ token ∈ markupVariants, Descriptor.ofToken token = .object token := by decide

/-- A set of reply markups is described by the first of its members. -/
theorem exists_ofToken_of_isMarkupSet {tokens : List String} (h : isMarkupSet tokens = true) :
    ∃ token ∈ markupVariants, Descriptor.ofToken (tokens.headD "") = .object token := by
  have hhead : tokens.headD "" ∈ tokens := by
    cases tokens with
    | nil => exact absurd (one_lt_length_of_isMarkupSet h) (by decide)
    | cons token rest => exact List.mem_cons_self
  have hmem : tokens.headD "" ∈ markupVariants := (isMarkupSet_iff.1 h _).1 hhead
  exact ⟨_, hmem, ofToken_of_mem_markupVariants _ hmem⟩

/-- The strategy for the values of a scalar. -/
def Scalar.strategy : Scalar → Strategy
  | string => .direct
  | int64 => .formatInt
  | float64 => .formatFloat
  | bool => .formatBool

theorem Strategy.ofDescriptor_cases (d : Descriptor) :
    (∃ kind, d = .scalar kind ∧ ofDescriptor d = kind.strategy) ∨
    (d = .object uploadType ∧ ofDescriptor d = .fileUpload) ∨
    ((∀ kind, d ≠ .scalar kind) ∧ d ≠ .object uploadType ∧ ofDescriptor d = .json) := by
  cases d with
  | scalar kind => exact .inl ⟨kind, rfl, by cases kind <;> rfl⟩
  | object name =>
    by_cases hn : name = uploadType
    · exact .inr (.inl ⟨congrArg _ hn, if_pos hn⟩)
    · exact .inr (.inr ⟨nofun, fun h => hn (Descriptor.object.inj h), if_neg hn⟩)
  | array e | arrayOfArray e => exact .inr (.inr ⟨nofun, nofun, rfl⟩)

theorem Strategy.ofDescriptor_eq_strategy_iff {d : Descriptor} {kind : Scalar} :
    ofDescriptor d = kind.strategy ↔ d = .scalar kind := by
  constructor
  · intro h
    obtain ⟨kind', rfl, hs⟩ | ⟨-, hs⟩ | ⟨-, -, hs⟩ := ofDescriptor_cases d
    · rw [hs] at h
      revert h
      cases kind <;> cases kind' <;> decide
    all_goals
      rw [hs] at h
      cases kind <;> cases h
  · rintro rfl
    cases kind <;> rfl

theorem Strategy.ofDescriptor_eq_fileUpload_iff {d : Descriptor} :
    ofDescriptor d = .fileUpload ↔ d = .object uploadType := by
  obtain ⟨kind, rfl, hs⟩ | ⟨rfl, hs⟩ | ⟨-, hupload, hs⟩ := ofDescriptor_cases d
  · rw [hs]
    cases kind <;> simp [Scalar.strategy]
  · simp [hs]
  · simp [hs, hupload]

theorem Strategy.ofDescriptor_eq_json_iff {d : Descriptor} :
    ofDescriptor d = .json ↔ (∀ kind, d ≠ .scalar kind) ∧ d ≠ .object uploadType := by
  obtain ⟨kind, rfl, hs⟩ | ⟨rfl, hs⟩ | ⟨hscalar, hupload, hs⟩ := ofDescriptor_cases d
  · rw [hs]
    cases kind <;> simp [Scalar.strategy]
  · simp [hs]
  · simp [hs, hscalar, hupload]

/-- A parameter is handed over by its tokens, and sent by the descriptor of the first of them also if
it is a reply markup. -/
theorem Compile.passing_eq (tokens : List String) {d : Descriptor}
    (hd : d = .ofToken (tokens.headD "")) :
    passing tokens d =
      (if isMarkupSet tokens then .replyMarkup
        else if d = .object uploadType then .fileUpload else .plain,
        .ofDescriptor d) := by
  unfold passing
  cases hm : isMarkupSet tokens with
  | true =>
    obtain ⟨token, ht, ho⟩ := exists_ofToken_of_isMarkupSet hm
    have hjson : ∀ token ∈ markupVariants, Strategy.ofDescriptor (.object token) = .json := by
      decide
    rw [hd, ho, hjson token ht]
    simp [one_lt_length_of_isMarkupSet hm]
  | false => simp [Strategy.ofDescriptor_eq_fileUpload_iff]

end BotBindings
