import BotBindings.Text.LetterCase

namespace BotBindings.Text

variable {c d : Char} {cs : List Char}

/-- What holds of the first 128 characters is found by looking at each of them. -/
theorem forall_ascii {P : Char → Prop} (h : ∀ n < 128, P (Char.ofNat n)) (hc : c.toNat < 128) :
    P c := by
  have hn : P (Char.ofNat c.toNat) := h c.toNat hc
  rwa [Char.ofNat_toNat] at hn

theorem lt_of_isAlphanum (h : c.isAlphanum = true) : c.toNat < 128 := by
  change (decide (c.val ≥ 65 ∧ c.val ≤ 90) || decide (c.val ≥ 97) && decide (c.val ≤ 122) ||
    decide (c.val ≥ 48) && decide (c.val ≤ 57)) = true at h
  simp only [Bool.or_eq_true, Bool.and_eq_true, decide_eq_true_eq, UInt32.le_iff_toNat_le,
    ge_iff_le] at h
  -- the ends of the three ranges as numbers
  change ((65 ≤ c.toNat ∧ c.toNat ≤ 90) ∨ (97 ≤ c.toNat ∧ c.toNat ≤ 122)) ∨
    (48 ≤ c.toNat ∧ c.toNat ≤ 57) at h
  omega

theorem isAlphanum_iff :
    c.isAlphanum = true ↔ (c.isUpper = true ∨ c.isLower = true) ∨ c.isDigit = true := by
  change ((c.isUpper || c.isLower) || c.isDigit) = true ↔ _
  rw [Bool.or_eq_true, Bool.or_eq_true]

theorem isAlpha_of_isUpper (h : c.isUpper = true) : c.isAlpha = true := by
  change (c.isUpper || c.isLower) = true
  rw [h, Bool.true_or]

theorem isAlpha_of_isLower (h : c.isLower = true) : c.isAlpha = true := by
  change (c.isUpper || c.isLower) = true
  rw [h, Bool.or_true]

theorem lt_of_isUpper (h : c.isUpper = true) : c.toNat < 128 :=
  lt_of_isAlphanum (isAlphanum_iff.2 (.inl (.inl h)))

theorem lt_of_isLower (h : c.isLower = true) : c.toNat < 128 :=
  lt_of_isAlphanum (isAlphanum_iff.2 (.inl (.inr h)))

theorem lt_of_isDigit (h : c.isDigit = true) : c.toNat < 128 :=
  lt_of_isAlphanum (isAlphanum_iff.2 (.inr h))

theorem isUpper_of_ascii (h : c.toNat < 128) : isUpper c = c.isUpper := if_pos h

theorem isLower_of_ascii (h : c.toNat < 128) : isLower c = c.isLower := if_pos h

theorem toUpper_of_ascii (h : c.toNat < 128) : toUpper c = [c.toUpper] := if_pos h

theorem toLower_of_ascii (h : c.toNat < 128) : toLower c = [c.toLower] := if_pos h

theorem toLower_lt (h : c.toNat < 128) : c.toLower.toNat < 128 :=
  forall_ascii (P := fun c => c.toLower.toNat < 128) (by decide) h

theorem isUpper_toLower (h : c.toNat < 128) : c.toLower.isUpper = false :=
  forall_ascii (P := fun c => c.toLower.isUpper = false) (by decide) h

theorem toLower_eq_underscore_iff (h : c.toNat < 128) : c.toLower = '_' ↔ c = '_' :=
  forall_ascii (P := fun c => c.toLower = '_' ↔ c = '_') (by decide) h

theorem toLower_of_isUpper_eq_false (h : c.toNat < 128) (hc : c.isUpper = false) : c.toLower = c :=
  forall_ascii (P := fun c => c.isUpper = false → c.toLower = c) (by decide) h hc

theorem toUpper_of_isUpper (h : c.isUpper = true) : c.toUpper = c :=
  forall_ascii (P := fun c => c.isUpper = true → c.toUpper = c) (by decide) (lt_of_isUpper h) h

theorem toUpper_toLower (h : c.toNat < 128) : c.toLower.toUpper = c.toUpper :=
  forall_ascii (P := fun c => c.toLower.toUpper = c.toUpper) (by decide) h

theorem isUpper_toUpper (h : c.isLower = true) : c.toUpper.isUpper = true :=
  forall_ascii (P := fun c => c.isLower = true → c.toUpper.isUpper = true) (by decide)
    (lt_of_isLower h) h

theorem toLower_toUpper (h : c.isLower = true) : c.toUpper.toLower = c :=
  forall_ascii (P := fun c => c.isLower = true → c.toUpper.toLower = c) (by decide)
    (lt_of_isLower h) h

theorem isUpper_of_isLower (h : c.isLower = true) : c.isUpper = false :=
  forall_ascii (P := fun c => c.isLower = true → c.isUpper = false) (by decide) (lt_of_isLower h) h

theorem isUpper_of_isDigit (h : c.isDigit = true) : c.isUpper = false :=
  forall_ascii (P := fun c => c.isDigit = true → c.isUpper = false) (by decide) (lt_of_isDigit h) h

/-- The letters of ASCII change case one by one. -/
theorem lowercaseBehind_of_ascii {before : List Char} (h : ∀ x ∈ cs, x.toNat < 128) :
    lowercaseBehind before cs = cs.map Char.toLower := by
  induction cs generalizing before with
  | nil => rfl
  | cons c rest ih =>
    obtain ⟨hc, hrest⟩ := List.forall_mem_cons.1 h
    have hs : c ≠ 'Σ' := by
      rintro rfl
      exact absurd hc (by decide)
    rw [lowercaseBehind, if_neg hs, toLower_of_ascii hc, ih hrest, List.map_cons,
      List.singleton_append]

theorem lowercase_of_ascii (h : ∀ x ∈ cs, x.toNat < 128) : lowercase cs = cs.map Char.toLower :=
  lowercaseBehind_of_ascii h

theorem lowercase_cons (h : ∀ x ∈ c :: cs, x.toNat < 128) :
    lowercase (c :: cs) = c.toLower :: lowercase cs := by
  rw [lowercase_of_ascii h, lowercase_of_ascii (List.forall_mem_cons.1 h).2, List.map_cons]

theorem lowercase_eq_self (h : ∀ x ∈ cs, x.toNat < 128 ∧ x.isUpper = false) : lowercase cs = cs := by
  rw [lowercase_of_ascii fun x hx => (h x hx).1]
  have hid : ∀ x ∈ cs, x.toLower = x := fun x hx => toLower_of_isUpper_eq_false (h x hx).1 (h x hx).2
  exact (List.map_congr_left hid).trans (List.map_id cs)

end BotBindings.Text
