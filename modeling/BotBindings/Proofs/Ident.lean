import BotBindings.Code.Ident
import BotBindings.Proofs.Ascii
import BotBindings.Proofs.Except
import Mathlib.Data.List.TakeWhile

namespace BotBindings

namespace Text

variable {c : Char} {cs : List Char}

/-- Letters, digits and the underscore of ASCII. -/
def isPlain (c : Char) : Bool := c.isAlphanum || c == '_'

theorem lt_of_isPlain (h : isPlain c = true) : c.toNat < 128 := by
  rw [isPlain, Bool.or_eq_true, beq_iff_eq] at h
  rcases h with h | rfl
  · exact lt_of_isAlphanum h
  · decide

theorem isIdentRest_of_isPlain (h : isPlain c = true) : isIdentRest c = true := by
  rw [isIdentRest, if_pos (lt_of_isPlain h)]
  exact h

theorem isIdentStart_of_isPlain (h : isPlain c = true) (hd : c.isDigit = false) :
    isIdentStart c = true := by
  rw [isPlain, Char.isAlphanum, hd, Bool.or_false] at h
  have hp : isPlain c = true := by rw [isPlain, Char.isAlphanum, hd, Bool.or_false, h]
  rw [isIdentStart, if_pos (lt_of_isPlain hp), h]

theorem isIdentRest_of_isIdentStart (h : isIdentStart c = true) : isIdentRest c = true := by
  by_cases hc : c.toNat < 128
  · revert h
    exact forall_ascii (P := fun c => isIdentStart c = true → isIdentRest c = true) (by decide) hc
  · -- what starts an identifier beyond ASCII is counted among the rest
    rw [isIdentStart, if_neg hc] at h
    rw [isIdentRest, if_neg hc, h, Bool.true_or]

theorem isDigit_of_isIdentStart (h : isIdentStart c = true) : c.isDigit = false := by
  by_cases hc : c.toNat < 128
  · revert h
    exact forall_ascii (P := fun c => isIdentStart c = true → c.isDigit = false) (by decide) hc
  · rw [← Bool.not_eq_true]
    intro hd
    have ha : c.isAlphanum = true := by rw [Char.isAlphanum, hd, Bool.or_true]
    exact hc (lt_of_isAlphanum ha)

theorem isIdent_cons : isIdent (c :: cs) = true ↔
    isIdentStart c = true ∧ ∀ x ∈ cs, isIdentRest x = true := by
  rw [isIdent, Bool.and_eq_true, List.all_eq_true]

theorem isIdentRest_of_mem (h : isIdent cs = true) (hc : c ∈ cs) : isIdentRest c = true := by
  cases cs with
  | nil => cases h
  | cons d rest =>
    obtain ⟨hd, hrest⟩ := isIdent_cons.1 h
    rcases List.mem_cons.1 hc with rfl | hc
    · exact isIdentRest_of_isIdentStart hd
    · exact hrest c hc

/-- An identifier goes on as one. -/
theorem isIdent_append {ds : List Char} (h : isIdent cs = true)
    (hd : ∀ x ∈ ds, isIdentRest x = true) : isIdent (cs ++ ds) = true := by
  cases cs with
  | nil => cases h
  | cons c rest =>
    obtain ⟨hc, hrest⟩ := isIdent_cons.1 h
    refine isIdent_cons.2 ⟨hc, fun x hx => ?_⟩
    exact (List.mem_append.1 hx).elim (hrest x) (hd x)

/-- No identifier is written behind `r#`. -/
theorem behind?_raw (h : isIdent cs = true) : behind? ['r', '#'] cs = none := by
  rw [Option.eq_none_iff_forall_ne_some]
  intro rest hr
  rw [behind?_eq_some_iff] at hr
  have hm : '#' ∈ cs := by simp [hr]
  exact absurd (isIdentRest_of_mem h hm) (by decide)

end Text

namespace Code

open Text

variable {i : Ident} {s : String} {cs : List Char}

theorem checkIdent_eq_ok_iff : checkIdent cs = .ok () ↔ isIdent cs = true := by
  constructor
  · intro h
    unfold checkIdent at h
    split_ifs at h with _ _ hi
    exact hi
  · intro h
    cases cs with
    | nil => cases h
    | cons c rest =>
      have hd : (c :: rest).all Char.isDigit = false := by
        rw [List.all_cons, isDigit_of_isIdentStart (isIdent_cons.1 h).1, Bool.false_and]
      rw [checkIdent, if_neg (by simp), if_neg (by simp [hd]), if_pos h]

/-- An identifier that may stand in code, as a keyword or not. -/
structure Ident.Legal (i : Ident) : Prop where
  isIdent : isIdent i.name.toList = true
  hasRawForm : i.raw = true → i.name ∉ neverRaw

/-- Letters need no raw form. -/
theorem Ident.legal_of_isIdent (h : isIdent s.toList = true) : Legal ⟨false, s⟩ :=
  ⟨h, fun hr => by cases hr⟩

theorem Ident.isKeyword_eq_false_iff : isKeyword ⟨false, s⟩ = false ↔ s ∉ keywords := by
  rw [isKeyword, Bool.not_false, Bool.true_and, ← Bool.not_eq_true, List.contains_iff_mem]

theorem Ident.isKeyword_of_raw (h : i.raw = true) : i.isKeyword = false := by
  rw [isKeyword, h, Bool.not_true, Bool.false_and]

theorem Ident.ofString_of_isIdent (h : isIdent s.toList = true) : ofString s = .ok ⟨false, s⟩ := by
  rw [ofString, behind?_raw h, checkIdent_eq_ok_iff.2 h]
  rfl

theorem Ident.legal_of_ofString (h : ofString s = .ok i) : i.Legal := by
  unfold ofString at h
  split at h
  · obtain ⟨hc, h⟩ := unit_bind_eq_ok_iff.1 h
    have hi := checkIdent_eq_ok_iff.1 hc
    dsimp only at h
    split at h
    · cases h
    · next hn =>
      cases h
      rw [List.contains_iff_mem] at hn
      exact ⟨by rwa [String.toList_ofList], fun _ => hn⟩
  · obtain ⟨hc, h⟩ := unit_bind_eq_ok_iff.1 h
    cases h
    exact legal_of_isIdent (checkIdent_eq_ok_iff.1 hc)

/-- An identifier is made again from its text. -/
theorem Ident.Legal.ofString_text (h : i.Legal) : Ident.ofString i.text = .ok i := by
  obtain ⟨raw, name⟩ := i
  cases raw with
  | false => exact ofString_of_isIdent h.isIdent
  | true =>
    have ht : behind? ['r', '#'] (Ident.text ⟨true, name⟩).toList = some name.toList := by
      rw [behind?_eq_some_iff, Ident.text, if_pos rfl, String.toList_append]
      rfl
    have hn : neverRaw.contains name = false := by
      rw [← Bool.not_eq_true, List.contains_iff_mem]
      exact h.hasRawForm rfl
    rw [ofString, ht]
    simp only [checkIdent_eq_ok_iff.2 h.isIdent, String.ofList_toList, hn]
    rfl

theorem Ident.legal_iff : i.Legal ↔ Ident.ofString i.text = .ok i :=
  ⟨Legal.ofString_text, legal_of_ofString⟩

theorem spanIdent_eq_some {name rest : List Char} (h : spanIdent cs = some (name, rest)) :
    Text.isIdent name = true ∧ cs = name ++ rest := by
  cases cs with
  | nil => cases h
  | cons c cs =>
    rw [spanIdent] at h
    split at h
    · next hc =>
      cases h
      refine ⟨isIdent_cons.2 ⟨hc, fun x hx => ?_⟩, ?_⟩
      · exact List.mem_takeWhile_imp hx
      · rw [List.cons_append, List.takeWhile_append_dropWhile]
    · cases h

theorem spanIdent_of_isIdent (h : Text.isIdent cs = true) : spanIdent cs = some (cs, []) := by
  cases cs with
  | nil => cases h
  | cons c rest =>
    obtain ⟨hc, hrest⟩ := isIdent_cons.1 h
    have ht : rest.takeWhile isIdentRest = rest := List.takeWhile_eq_self_iff.2 hrest
    have hd : rest.dropWhile isIdentRest = [] := List.dropWhile_eq_nil_iff.2 hrest
    rw [spanIdent, if_pos hc, ht, hd]

theorem rawIdent?_eq_some (h : rawIdent? cs = some i) : i.Legal ∧ i.raw = true := by
  unfold rawIdent? at h
  split at h
  · next name rest hs =>
    dsimp only at h
    split at h
    · next hn =>
      cases h
      rw [Bool.and_eq_true, Bool.not_eq_true', ← Bool.not_eq_true, List.contains_iff_mem] at hn
      refine ⟨⟨?_, fun _ => hn.2⟩, rfl⟩
      rw [String.toList_ofList]
      exact (spanIdent_eq_some hs).1
    · cases h
  · cases h

theorem rawIdent?_of_isIdent (h : Text.isIdent s.toList = true) (hn : s ∉ neverRaw) :
    rawIdent? s.toList = some ⟨true, s⟩ := by
  have hc : neverRaw.contains s = false := by rwa [← Bool.not_eq_true, List.contains_iff_mem]
  simp only [rawIdent?, spanIdent_of_isIdent h, String.ofList_toList, hc]
  rfl

theorem soleIdent?_eq_some (h : soleIdent? cs = some i) : i.Legal ∧ i.isKeyword = false := by
  unfold soleIdent? at h
  dsimp only at h
  split at h
  · obtain ⟨hi, hr⟩ := rawIdent?_eq_some h
    exact ⟨hi, Ident.isKeyword_of_raw hr⟩
  · split at h
    · next name rest hs =>
      split at h
      · next hn =>
        cases h
        rw [Bool.and_eq_true, Bool.not_eq_true'] at hn
        refine ⟨Ident.legal_of_isIdent ?_, ?_⟩
        · rw [String.toList_ofList]
          exact (spanIdent_eq_some hs).1
        · rw [Ident.isKeyword, hn.2, Bool.and_false]
      · cases h
    · cases h

/-- The code points of the blanks of code. -/
def blankCodes : List Nat :=
  [0x9, 0xA, 0xB, 0xC, 0xD, 0x20, 0x85, 0xA0, 0x1680, 0x2000, 0x2001, 0x2002, 0x2003, 0x2004, 0x2005,
    0x2006, 0x2007, 0x2008, 0x2009, 0x200A, 0x200E, 0x200F, 0x2028, 0x2029, 0x202F, 0x205F, 0x3000]

theorem toNat_mem_blankCodes {c : Char} (h : isCodeBlank c = true) : c.toNat ∈ blankCodes := by
  have he : c.toNat = 0x200E ∨ c.toNat = 0x200F ∨ isBlank c = true := by
    simp only [isCodeBlank, Bool.or_eq_true, beq_iff_eq] at h
    rcases h with (h | rfl) | rfl
    · exact .inr (.inr h)
    · exact .inl rfl
    · exact .inr (.inl rfl)
  simp only [isBlank, Bool.or_eq_true, Bool.and_eq_true, decide_eq_true_eq, beq_iff_eq] at he
  simp only [blankCodes, List.mem_cons, List.not_mem_nil, or_false]
  omega

/-- No blank of code begins an identifier. -/
theorem isCodeBlank_of_isIdentStart {c : Char} (h : isIdentStart c = true) :
    isCodeBlank c = false := by
  have hb : ∀ n ∈ blankCodes, isIdentStart (Char.ofNat n) = false := by decide +kernel
  rw [← Bool.not_eq_true]
  intro hc
  have hn := hb c.toNat (toNat_mem_blankCodes hc)
  rw [Char.ofNat_toNat, h] at hn
  cases hn

theorem beginsWith_of_ne {c d : Char} {front : List Char} (h : c ≠ d) :
    beginsWith (d :: front) (c :: cs) = false := by
  rw [beginsWith, behind?, if_neg h]
  rfl

/-- Nothing is left out in front of an identifier. -/
theorem skipTrivia_cons {c : Char} (h : isIdentStart c = true) : skipTrivia (c :: cs) = c :: cs := by
  have hslash : c ≠ '/' := by
    rintro rfl
    exact absurd h (by decide)
  have hl : beginsLineComment (c :: cs) = false := by
    rw [beginsLineComment, beginsWith_of_ne hslash, Bool.false_and, Bool.false_and]
  have hb : beginsBlockComment (c :: cs) = false := by
    rw [beginsBlockComment, beginsWith_of_ne hslash, beginsWith_of_ne hslash, Bool.false_and,
      Bool.false_and, Bool.or_false]
  rw [skipTrivia, List.length_cons, skipTriviaWithin, isCodeBlank_of_isIdentStart h, hl, hb]
  rfl

theorem skipTrivia_of_isIdent (h : Text.isIdent cs = true) : skipTrivia cs = cs := by
  cases cs with
  | nil => cases h
  | cons c rest => exact skipTrivia_cons (isIdent_cons.1 h).1

/-- What is marked as raw is read as a raw identifier. -/
theorem soleIdent?_raw (cs : List Char) : soleIdent? ('r' :: '#' :: cs) = rawIdent? cs := by
  rw [soleIdent?, skipTrivia_cons (by decide)]
  · rfl
  · exact fun rest h => absurd (List.cons.inj h).1 (by decide)

theorem soleIdent?_of_isIdent (h : Text.isIdent s.toList = true) :
    soleIdent? s.toList = if keywords.contains s then none else some ⟨false, s⟩ := by
  have hmark : ∀ rest, s.toList ≠ '\uFEFF' :: rest := by
    intro rest hs
    rw [hs] at h
    exact absurd (isIdent_cons.1 h).1 (by decide +kernel)
  have ht : skipTrivia [] = [] := rfl
  rw [soleIdent?, skipTrivia_of_isIdent h, behind?_raw h]
  · simp only [spanIdent_of_isIdent h, ht, String.ofList_toList, List.isEmpty_nil, Bool.true_and]
    cases keywords.contains s <;> rfl
  · exact hmark

end Code

end BotBindings
