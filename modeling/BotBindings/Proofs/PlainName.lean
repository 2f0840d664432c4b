import BotBindings.Binding.Method
import BotBindings.Proofs.FieldIdent
import BotBindings.Proofs.SnakeCase

namespace BotBindings

namespace Text

variable {c : Char} {cs w : List Char}

/-- A letter of ASCII, then letters, digits and underscores. -/
def isPlainName : List Char → Bool
  | [] => false
  | c :: rest => c.isAlpha && rest.all isPlain

theorem isPlainName_cons :
    isPlainName (c :: cs) = true ↔ c.isAlpha = true ∧ ∀ x ∈ cs, isPlain x = true := by
  rw [isPlainName, Bool.and_eq_true, List.all_eq_true]

theorem isPlain_of_isAlpha (h : c.isAlpha = true) : isPlain c = true := by
  rw [isPlain, Char.isAlphanum, h]
  rfl

theorem ascii_of_isAlpha (h : c.isAlpha = true) : c.toNat < 128 :=
  lt_of_isPlain (isPlain_of_isAlpha h)

theorem ne_of_isAlpha (h : c.isAlpha = true) : c ≠ '_' := by
  rintro rfl
  exact absurd h (by decide)

theorem isIdentStart_of_isAlpha (h : c.isAlpha = true) : isIdentStart c = true := by
  rw [isIdentStart, if_pos (ascii_of_isAlpha h), h]
  rfl

theorem isPlain_of_mem (h : isPlainName cs = true) (hc : c ∈ cs) : isPlain c = true := by
  cases cs with
  | nil => cases h
  | cons d rest =>
    obtain ⟨hd, hrest⟩ := isPlainName_cons.1 h
    rcases List.mem_cons.1 hc with rfl | hc
    · exact isPlain_of_isAlpha hd
    · exact hrest c hc

theorem isIdent_of_isPlainName (h : isPlainName cs = true) : isIdent cs = true := by
  cases cs with
  | nil => cases h
  | cons c rest =>
    obtain ⟨hc, hrest⟩ := isPlainName_cons.1 h
    exact isIdent_cons.2 ⟨isIdentStart_of_isAlpha hc, fun x hx => isIdentRest_of_isPlain (hrest x hx)⟩

theorem isPlainName_append (h : isPlainName cs = true) (hw : ∀ x ∈ w, isPlain x = true) :
    isPlainName (cs ++ w) = true := by
  cases cs with
  | nil => cases h
  | cons c rest =>
    obtain ⟨hc, hrest⟩ := isPlainName_cons.1 h
    refine isPlainName_cons.2 ⟨hc, fun x hx => ?_⟩
    exact (List.mem_append.1 hx).elim (hrest x) (hw x)

theorem isPlain_toLower (h : isPlain c = true) : isPlain c.toLower = true := by
  have hall : ∀ n < 128, isPlain (Char.ofNat n) = true → isPlain (Char.ofNat n).toLower = true := by
    decide
  exact forall_ascii (P := fun c => isPlain c = true → isPlain c.toLower = true) hall
    (lt_of_isPlain h) h

theorem isAlpha_toLower (h : c.isAlpha = true) : c.toLower.isAlpha = true := by
  have hall : ∀ n < 128, (Char.ofNat n).isAlpha = true → (Char.ofNat n).toLower.isAlpha = true := by
    decide
  exact forall_ascii (P := fun c => c.isAlpha = true → c.toLower.isAlpha = true) hall
    (ascii_of_isAlpha h) h

theorem isAlpha_toUpper (h : c.isAlpha = true) : c.toUpper.isAlpha = true := by
  have hall : ∀ n < 128, (Char.ofNat n).isAlpha = true → (Char.ofNat n).toUpper.isAlpha = true := by
    decide
  exact forall_ascii (P := fun c => c.isAlpha = true → c.toUpper.isAlpha = true) hall
    (ascii_of_isAlpha h) h

theorem isPlain_toUpper (h : isPlain c = true) : isPlain c.toUpper = true := by
  have hall : ∀ n < 128, isPlain (Char.ofNat n) = true → isPlain (Char.ofNat n).toUpper = true := by
    decide
  exact forall_ascii (P := fun c => isPlain c = true → isPlain c.toUpper = true) hall
    (lt_of_isPlain h) h

theorem isPlain_of_mem_lowercase (h : ∀ x ∈ cs, isPlain x = true) (hc : c ∈ lowercase cs) :
    isPlain c = true := by
  rw [lowercase_of_ascii fun x hx => lt_of_isPlain (h x hx)] at hc
  obtain ⟨d, hd, rfl⟩ := List.mem_map.1 hc
  exact isPlain_toLower (h d hd)

theorem isPlain_of_mem_snakeCase (h : ∀ x ∈ cs, isPlain x = true) (hc : c ∈ snakeCase cs) :
    isPlain c = true := by
  rcases mem_of_mem_intercalate hc with rfl | ⟨w, hw, hc⟩
  · rfl
  · obtain ⟨v, hv, rfl⟩ := List.mem_map.1 hw
    obtain ⟨p, hp, hv⟩ := List.mem_flatMap.1 hv
    exact isPlain_of_mem_lowercase
      (fun y hy => h y (mem_of_mem_parts hp (mem_of_mem_words hv hy))) hc

theorem isPlainName_snakeCase (h : isPlainName cs = true) : isPlainName (snakeCase cs) = true := by
  have hplain : ∀ x ∈ snakeCase cs, isPlain x = true := fun x hx =>
    isPlain_of_mem_snakeCase (fun y hy => isPlain_of_mem h hy) hx
  cases cs with
  | nil => cases h
  | cons c rest =>
    have hc : c.isAlpha = true := (isPlainName_cons.1 h).1
    obtain ⟨ds, hds⟩ : ∃ ds, snakeCase (c :: rest) = c.toLower :: ds :=
      exists_snakeCase_cons (fun x hx => lt_of_isPlain (isPlain_of_mem h hx)) (ne_of_isAlpha hc)
    rw [hds] at hplain ⊢
    exact isPlainName_cons.2 ⟨isAlpha_toLower hc, (List.forall_mem_cons.1 hplain).2⟩

theorem isPlain_of_mem_mapHead (h : ∀ x ∈ w, isPlain x = true) (hc : c ∈ mapHead toUpper w) :
    isPlain c = true := by
  cases w with
  | nil => cases hc
  | cons d rest =>
    have hd : isPlain d = true := h d List.mem_cons_self
    rw [mapHead, toUpper_of_ascii (lt_of_isPlain hd), List.singleton_append] at hc
    rcases List.mem_cons.1 hc with rfl | hc
    · exact isPlain_toUpper hd
    · exact h c (List.mem_cons_of_mem d hc)

theorem isPlainName_upperCamel (h : isPlainName cs = true) : isPlainName (upperCamel cs) = true := by
  have hall : ∀ w ∈ parts cs, ∀ x ∈ mapHead toUpper w, isPlain x = true := by
    intro w hw x hx
    exact isPlain_of_mem_mapHead (fun y hy => isPlain_of_mem h (mem_of_mem_parts hw hy)) hx
  cases cs with
  | nil => cases h
  | cons c rest =>
    have hc : c.isAlpha = true := (isPlainName_cons.1 h).1
    -- the letter that begins the name begins its first part, and only changes case
    obtain ⟨p, ps, hp⟩ : ∃ p ps, parts (c :: rest) = (c :: p) :: ps := parts_cons (ne_of_isAlpha hc)
    rw [hp] at hall
    have hfirst : mapHead toUpper (c :: p) = c.toUpper :: p := by
      rw [mapHead, toUpper_of_ascii (ascii_of_isAlpha hc), List.singleton_append]
    rw [upperCamel, hp, List.flatMap_cons, hfirst]
    refine isPlainName_append (isPlainName_cons.2 ⟨isAlpha_toUpper hc, fun x hx => ?_⟩) ?_
    · exact hall _ List.mem_cons_self x (hfirst ▸ List.mem_cons_of_mem _ hx)
    · intro x hx
      obtain ⟨w, hw, hx⟩ := List.mem_flatMap.1 hx
      exact hall w (List.mem_cons_of_mem _ hw) x hx

end Text

namespace Code

open Text

variable {s : String}

/-- A name that begins with a letter and goes on with letters, digits and underscores of ASCII. -/
def PlainName (s : String) : Prop := isPlainName s.toList = true

theorem PlainName.mem (h : PlainName s) : ∀ c ∈ s.toList, isPlain c = true :=
  fun _ hc => isPlain_of_mem h hc

theorem PlainName.append (h : PlainName s) {w : String} (hw : w.toList.all isPlain = true) :
    PlainName (s ++ w) := by
  unfold PlainName
  rw [String.toList_append]
  exact isPlainName_append h (List.all_eq_true.1 hw)

theorem PlainName.snakeCase (h : PlainName s) : PlainName (snakeCase s) := by
  unfold PlainName
  rw [toList_snakeCase]
  exact isPlainName_snakeCase h

theorem PlainName.upperCamel (h : PlainName s) : PlainName (upperCamel s) := by
  unfold PlainName
  rw [toList_upperCamel]
  exact isPlainName_upperCamel h

/-- A plain name is an identifier under its own text. -/
theorem PlainName.ofString (h : PlainName s) : Ident.ofString s = .ok ⟨false, s⟩ :=
  Ident.ofString_of_isIdent (isIdent_of_isPlainName h)

theorem PlainName.legal (h : PlainName s) : Ident.Legal ⟨false, s⟩ :=
  Ident.legal_of_isIdent (isIdent_of_isPlainName h)

theorem isKeyword_of_back {w : String} (h : ∀ k ∈ keywords, ¬ w.toList <:+ k.toList) :
    Ident.isKeyword ⟨false, s ++ w⟩ = false := by
  apply Ident.isKeyword_eq_false_iff.2
  intro hk
  apply h _ hk
  rw [String.toList_append]
  exact List.suffix_append _ _

theorem isKeyword_of_front {w : String} (h : ∀ k ∈ keywords, ¬ w.toList <+: k.toList) :
    Ident.isKeyword ⟨false, w ++ s⟩ = false := by
  apply Ident.isKeyword_eq_false_iff.2
  intro hk
  apply h _ hk
  rw [String.toList_append]
  exact List.prefix_append _ _

theorem PlainName.optionsIdent (h : PlainName s) :
    Makes (typeIdent (optionsName s)) fun i => i.Legal ∧ i.isKeyword = false := by
  have hp : PlainName (optionsName s) := h.upperCamel.append (by decide)
  exact ⟨_, hp.ofString, hp.legal, isKeyword_of_back (by decide)⟩

theorem PlainName.variantTraitIdent (h : PlainName s) :
    Makes (variantTraitIdent s) fun i => i.Legal ∧ i.isKeyword = false := by
  have hp : PlainName (s ++ "Variant") := h.append (by decide)
  exact ⟨_, hp.ofString, hp.legal, isKeyword_of_back (by decide)⟩

theorem PlainName.variantMethodIdent (h : PlainName s) :
    Makes (variantMethodIdent s) fun i => i.Legal ∧ i.isKeyword = false := by
  have hfront : PlainName "to_" := by
    unfold PlainName
    decide
  have hp : PlainName ("to_" ++ BotBindings.snakeCase s) :=
    hfront.append (List.all_eq_true.2 h.snakeCase.mem)
  exact ⟨_, hp.ofString, hp.legal, isKeyword_of_front (by decide)⟩

/-- The name of a helper, whatever stands behind the element. -/
theorem PlainName.helper (h : PlainName s) {w : String} (hw : w.toList.all isPlain = true) :
    PlainName ("unmarshal_" ++ BotBindings.snakeCase s ++ w) := by
  have hfront : PlainName "unmarshal_" := by
    unfold PlainName
    decide
  exact (hfront.append (List.all_eq_true.2 h.snakeCase.mem)).append hw

theorem PlainName.arrayHelperIdent (h : PlainName s) :
    Makes (arrayHelperIdent s) fun i => i.Legal ∧ i.isKeyword = false := by
  have hp : PlainName ("unmarshal_" ++ BotBindings.snakeCase s ++ "_array") := h.helper (by decide)
  exact ⟨_, hp.ofString, hp.legal, isKeyword_of_back (by decide)⟩

theorem PlainName.arrayOfArrayHelperIdent (h : PlainName s) :
    Makes (arrayOfArrayHelperIdent s) fun i => i.Legal ∧ i.isKeyword = false := by
  have hp : PlainName ("unmarshal_" ++ BotBindings.snakeCase s ++ "_array_of_array") :=
    h.helper (by decide)
  exact ⟨_, hp.ofString, hp.legal, isKeyword_of_back (by decide)⟩

end Code

end BotBindings
