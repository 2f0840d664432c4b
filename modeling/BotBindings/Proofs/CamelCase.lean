import BotBindings.Proofs.SnakeCase

namespace BotBindings

namespace Text

variable {c d : Char} {cs rest : List Char} {first : Char → Bool} {ws : List (List Char)}

theorem mapHead_toUpper (h : c.toNat < 128) : mapHead toUpper (c :: cs) = c.toUpper :: cs := by
  rw [mapHead, toUpper_of_ascii h, List.singleton_append]

theorem mapHead_toLower (h : c.toNat < 128) : mapHead toLower (c :: cs) = c.toLower :: cs := by
  rw [mapHead, toLower_of_ascii h, List.singleton_append]

theorem mapHead_toUpper_lowercase (h : ∀ x ∈ c :: cs, x.toNat < 128) :
    mapHead toUpper (lowercase (c :: cs)) = c.toUpper :: lowercase cs := by
  have hc : c.toNat < 128 := h c List.mem_cons_self
  rw [lowercase_cons h, mapHead_toUpper (toLower_lt hc), toUpper_toLower hc]

theorem upperCamel_of_notMem (hne : cs ≠ []) (h : '_' ∉ cs) :
    upperCamel cs = mapHead toUpper cs := by
  rw [upperCamel, parts_of_notMem hne h, List.flatMap_singleton]

theorem upperCamel_intercalate (hne : [] ∉ ws) (h : ∀ w ∈ ws, '_' ∉ w) :
    upperCamel (['_'].intercalate ws) = ws.flatMap (mapHead toUpper) := by
  rw [upperCamel, parts_intercalate hne h]

def CapitalsApart (cs : List Char) : Prop :=
  cs.IsChain fun c d => ¬ (c.isUpper = true ∧ d.isUpper = true)

instance : Decidable (CapitalsApart cs) := inferInstanceAs (Decidable (cs.IsChain _))

/-- Letters and digits of ASCII, the first of them a letter of the given case, and no capitals side
by side. -/
structure IsCamelCase (first : Char → Bool) (cs : List Char) : Prop where
  alphanum : ∀ c ∈ cs, c.isAlphanum = true
  head : cs.head?.any first = true
  apart : CapitalsApart cs

instance : Decidable (IsCamelCase first cs) :=
  decidable_of_iff
    (cs.all Char.isAlphanum = true ∧ cs.head?.any first = true ∧ CapitalsApart cs)
    ⟨fun ⟨h, hf, ha⟩ => ⟨List.all_eq_true.1 h, hf, ha⟩,
      fun ⟨h, hf, ha⟩ => ⟨List.all_eq_true.2 h, hf, ha⟩⟩

/-- A capital begins a word behind any other letter or digit. -/
theorem beginsWord_of_isUpper (hc : c.isAlphanum = true) (hd : d.isUpper = true)
    (h : ¬ (c.isUpper = true ∧ d.isUpper = true)) (next : Option Char) :
    beginsWord c d next = true := by
  have hup : isUpper d = true := (isUpper_of_ascii (lt_of_isUpper hd)).trans hd
  have hlow : (isLower c || c.isDigit) = true := by
    rw [isLower_of_ascii (lt_of_isAlphanum hc), Bool.or_eq_true]
    rcases isAlphanum_iff.1 hc with (hu | hl) | hn
    · exact absurd ⟨hu, hd⟩ h
    · exact .inl hl
    · exact .inr hn
  rw [beginsWord, hup, hlow, Bool.true_or, Bool.true_and]

/-- The words of a name take their capitals back. -/
theorem flatMap_words (h : ∀ c ∈ cs, c.isAlphanum = true) (ha : CapitalsApart cs) :
    (words cs).flatMap (fun w => mapHead toUpper (lowercase w)) = mapHead toUpper cs := by
  have hascii : ∀ c ∈ cs, c.toNat < 128 := fun c hc => lt_of_isAlphanum (h c hc)
  induction cs with
  | nil => rfl
  | cons c rest ih =>
    obtain ⟨hc, hrest⟩ := List.forall_mem_cons.1 hascii
    have hsingle : mapHead toUpper (lowercase [c]) = [c.toUpper] :=
      mapHead_toUpper_lowercase (List.forall_mem_singleton.2 hc)
    rw [mapHead_toUpper hc]
    cases rest with
    | nil => rw [words, List.flatMap_singleton, hsingle]
    | cons d rest =>
      obtain ⟨hcd, harest⟩ := List.isChain_cons_cons.1 ha
      have hd : d.toNat < 128 := hrest d List.mem_cons_self
      have ih := ih (List.forall_mem_cons.1 h).2 harest hrest
      rw [mapHead_toUpper hd] at ih
      cases hu : d.isUpper with
      | true =>
        have hb : beginsWord c d rest.head? = true :=
          beginsWord_of_isUpper (h c List.mem_cons_self) hu hcd _
        rw [words_of_begins hb, List.flatMap_cons, ih, hsingle, toUpper_of_isUpper hu,
          List.singleton_append]
      | false =>
        -- `d` goes on with the word of `c`, where it is small already
        obtain ⟨w, ws, hw⟩ := words_cons d rest
        have hmem : ∀ x ∈ d :: w, x.toNat < 128 := fun x hx =>
          hrest x (mem_of_mem_words (hw ▸ List.mem_cons_self) hx)
        have hb : beginsWord c d rest.head? = false :=
          beginsWord_of_isUpper_eq_false ((isUpper_of_ascii hd).trans hu) _
        have hmem' : ∀ x ∈ c :: d :: w, x.toNat < 128 := List.forall_mem_cons.2 ⟨hc, hmem⟩
        rw [hw, List.flatMap_cons, mapHead_toUpper_lowercase hmem, List.cons_append] at ih
        rw [words_of_goesOn hb hw, List.flatMap_cons, mapHead_toUpper_lowercase hmem',
          lowercase_cons hmem, toLower_of_isUpper_eq_false hd hu, List.cons_append,
          List.cons_append, (List.cons.inj ih).2]

section

variable (h : IsCamelCase first cs)

include h

theorem IsCamelCase.exists_cons : ∃ c rest, cs = c :: rest ∧ first c = true := by
  have hf : cs.head?.any first = true := h.head
  cases cs with
  | nil => cases hf
  | cons c rest => exact ⟨c, rest, rfl, hf⟩

theorem IsCamelCase.ne_nil : cs ≠ [] := by
  obtain ⟨c, rest, rfl, -⟩ := h.exists_cons
  exact List.cons_ne_nil c rest

theorem IsCamelCase.ascii : ∀ c ∈ cs, c.toNat < 128 := fun c hc => lt_of_isAlphanum (h.alphanum c hc)

theorem IsCamelCase.notMem : '_' ∉ cs := fun hm => absurd (h.alphanum '_' hm) (by decide)

/-- Nothing of a name is lost in between. -/
theorem IsCamelCase.upperCamel_snakeCase : upperCamel (snakeCase cs) = upperCamel cs := by
  have hwords : snakeWords cs = (words cs).map lowercase := snakeWords_of_notMem h.ne_nil h.notMem
  rw [snakeCase_eq, upperCamel_intercalate (nil_notMem_snakeWords h.ascii)
    (notMem_of_mem_snakeWords h.ascii), hwords, List.flatMap_map, flatMap_words h.alphanum h.apart,
    upperCamel_of_notMem h.ne_nil h.notMem]

theorem IsCamelCase.lowerCamel_snakeCase : lowerCamel (snakeCase cs) = lowerCamel cs := by
  rw [lowerCamel, h.upperCamel_snakeCase, lowerCamel]

end

theorem IsCamelCase.upperCamel_eq_self (h : IsCamelCase Char.isUpper cs) : upperCamel cs = cs := by
  rw [upperCamel_of_notMem h.ne_nil h.notMem]
  obtain ⟨c, rest, rfl, hc⟩ := h.exists_cons
  rw [mapHead_toUpper (lt_of_isUpper hc), toUpper_of_isUpper hc]

theorem IsCamelCase.lowerCamel_eq_self (h : IsCamelCase Char.isLower cs) : lowerCamel cs = cs := by
  rw [lowerCamel, upperCamel_of_notMem h.ne_nil h.notMem]
  obtain ⟨c, rest, rfl, hc⟩ := h.exists_cons
  have hu : c.toUpper.toNat < 128 := lt_of_isUpper (isUpper_toUpper hc)
  rw [mapHead_toUpper (lt_of_isLower hc), mapHead_toLower hu, toLower_toUpper hc]

end Text

end BotBindings
