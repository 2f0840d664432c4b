import BotBindings.Proofs.Words

namespace BotBindings

namespace Text

section

variable {s front w back : String} {previous c : Char} {rest : List Char}

theorem pos?_of_append (h : s = front ++ back) :
    ∃ p : s.Pos, s.pos? front.rawEndPos = some p ∧ p.Splits front back := by
  have hvalid : front.rawEndPos.IsValidForSlice s.toSlice :=
    String.Pos.Raw.isValidForSlice_toSlice_iff.2
      (String.Pos.Raw.isValid_iff_exists_append.2 ⟨front, back, h, rfl⟩)
  refine ⟨String.Pos.ofToSlice (s.toSlice.pos front.rawEndPos hvalid), ?_, h, rfl⟩
  rw [String.pos?, String.Slice.pos?,
    dif_pos (String.Pos.Raw.isValidForSlice_eq_true_iff.2 hvalid), Option.map_some]

theorem between?_of_append (h : s = front ++ w ++ back) :
    between? s front.utf8ByteSize (front ++ w).utf8ByteSize = some w := by
  obtain ⟨b, hb, hbs⟩ := pos?_of_append (h.trans String.append_assoc)
  obtain ⟨e, he, hes⟩ := pos?_of_append h
  obtain ⟨hbe, hw⟩ := String.copy_slice_eq_iff_splits.2 ⟨front, back, hbs, hes⟩
  have hslice : s.slice? b e = some (s.slice b e hbe) := dif_pos hbe
  change (s.pos? front.rawEndPos).bind (fun b =>
    (s.pos? (front ++ w).rawEndPos).bind fun e => (s.slice? b e).map (·.copy)) = some w
  rw [hb, Option.bind_some, he, Option.bind_some, hslice, Option.map_some, hw]

theorem wordBetween?_of_append (h : s = front ++ w ++ back) (hw : w ≠ "") :
    wordBetween? s front.utf8ByteSize (front ++ w).utf8ByteSize = some [w] := by
  have hpos : 0 < w.utf8ByteSize :=
    Nat.pos_of_ne_zero fun hz => hw (String.utf8ByteSize_eq_zero_iff.1 hz)
  have hlt : front.utf8ByteSize < (front ++ w).utf8ByteSize := by
    rw [String.utf8ByteSize_append]
    omega
  rw [wordBetween?, if_pos hlt, between?_of_append h, Option.map_some]

theorem utf8ByteSize_append_singleton (t : String) (c : Char) :
    (t ++ String.singleton c).utf8ByteSize = t.utf8ByteSize + c.utf8Size := by
  rw [String.utf8ByteSize_append, String.utf8ByteSize_singleton]

/-- The pass cuts the word `w` in front of a capital that begins the next one. -/
theorem cutWords_of_begins (h : s = front ++ w ++ back) (hw : w ≠ "")
    (hb : beginsWord previous c rest.head? = true) :
    cutWords s front.utf8ByteSize (front ++ w).utf8ByteSize previous (c :: rest) =
      (cutWords s (front ++ w).utf8ByteSize (front ++ w ++ String.singleton c).utf8ByteSize c
        rest).map (w :: ·) := by
  rw [cutWords, if_pos hb, wordBetween?_of_append h hw, utf8ByteSize_append_singleton]
  cases cutWords s (front ++ w).utf8ByteSize ((front ++ w).utf8ByteSize + c.utf8Size) c rest <;> rfl

/-- The pass goes on behind any other character. -/
theorem cutWords_of_goesOn (hb : beginsWord previous c rest.head? = false) (start : Nat) :
    cutWords s start front.utf8ByteSize previous (c :: rest) =
      cutWords s start (front ++ String.singleton c).utf8ByteSize c rest := by
  rw [cutWords, if_neg (Bool.eq_false_iff.1 hb), utf8ByteSize_append_singleton]

end

/-- What is left of the pass behind the words in `front`, when `begun` is there of the next one. -/
theorem cutWords_eq {s front begun : String} {previous : Char} {rest w : List Char}
    {ws : List (List Char)} (hs : s = front ++ begun ++ String.ofList rest) (hne : begun ≠ "")
    (hw : words (previous :: rest) = (previous :: w) :: ws) :
    cutWords s front.utf8ByteSize (front ++ begun).utf8ByteSize previous rest =
      some ((begun ++ String.ofList w) :: ws.map String.ofList) := by
  induction rest generalizing front begun previous w ws with
  | nil =>
    obtain ⟨⟨-, rfl⟩, rfl⟩ : (previous = previous ∧ [] = w) ∧ [] = ws := by
      simpa [words] using hw
    obtain rfl : s = front ++ begun := by rw [hs, String.ofList_nil, String.append_empty]
    rw [cutWords, wordBetween?_of_append hs hne, String.ofList_nil, String.append_empty,
      List.map_nil]
  | cons c rest ih =>
    obtain ⟨v, vs, hv⟩ : ∃ v vs, words (c :: rest) = (c :: v) :: vs := words_cons c rest
    have hs' : s = front ++ begun ++ String.singleton c ++ String.ofList rest := by
      rw [hs, String.ofList_cons, ← String.append_assoc]
    cases hb : beginsWord previous c rest.head? with
    | true =>
      -- `begun` is the whole word, and the next one has one character so far
      rw [words_of_begins hb, hv] at hw
      obtain ⟨hhead, rfl⟩ := List.cons.inj hw
      obtain rfl : [] = w := (List.cons.inj hhead).2
      rw [cutWords_of_begins hs hne hb, ih hs' String.singleton_ne_empty hv, Option.map_some,
        String.ofList_nil, String.append_empty, List.map_cons, String.ofList_cons]
    | false =>
      rw [words_of_goesOn hb hv] at hw
      obtain ⟨hhead, rfl⟩ := List.cons.inj hw
      obtain rfl : c :: v = w := (List.cons.inj hhead).2
      have hgrown : front ++ begun ++ String.singleton c = front ++ (begun ++ String.singleton c) :=
        String.append_assoc
      have hne' : begun ++ String.singleton c ≠ "" := fun he =>
        hne (String.append_eq_empty_iff.1 he).1
      rw [hgrown] at hs'
      rw [cutWords_of_goesOn hb, hgrown, ih hs' hne' hv, String.ofList_cons, String.append_assoc]

/-- The pass finds the words, and cuts in no character. -/
theorem camelWords_eq (s : String) :
    camelWords s = some ((words s.toList).map String.ofList) := by
  rw [camelWords]
  cases hs : s.toList with
  | nil =>
    obtain rfl : s = "" := String.toList_eq_nil_iff.1 hs
    rfl
  | cons c rest =>
    obtain ⟨w, ws, hw⟩ : ∃ w ws, words (c :: rest) = (c :: w) :: ws := words_cons c rest
    have happend : s = "" ++ String.singleton c ++ String.ofList rest := by
      rw [String.empty_append, ← String.ofList_cons, ← hs, String.ofList_toList]
    have hcut := cutWords_eq happend String.singleton_ne_empty hw
    rw [String.empty_append, String.utf8ByteSize_singleton] at hcut
    rw [hw, List.map_cons, String.ofList_cons]
    exact hcut

/-- A word behind the first begins at the character `i`. -/
def BeginsAt (ws : List String) (i : Nat) : Prop :=
  ∃ front w back, ws = front ++ w :: back ∧ front ≠ [] ∧ (String.join front).length = i

/-- The character `i` is a capital behind a small letter or a digit, or one between a capital and a
small letter. -/
def IsWordStart (cs : List Char) (i : Nat) : Prop :=
  1 ≤ i ∧ ∃ c d, cs[i - 1]? = some c ∧ cs[i]? = some d ∧ isUpper d = true ∧
    (isLower c = true ∨ c.isDigit = true ∨
      isUpper c = true ∧ ∃ e, cs[i + 1]? = some e ∧ isLower e = true)

theorem beginsWord_iff {c d : Char} {next : Option Char} :
    beginsWord c d next = true ↔ isUpper d = true ∧
      (isLower c = true ∨ c.isDigit = true ∨
        isUpper c = true ∧ ∃ e, next = some e ∧ isLower e = true) := by
  simp [beginsWord, Option.any_eq_true, or_assoc]

theorem not_beginsAt_nil (i : Nat) : ¬ BeginsAt [] i := by
  rintro ⟨front, w, back, h, -, -⟩
  cases front <;> cases h

theorem beginsAt_cons {w : String} {ws : List String} {i : Nat} :
    BeginsAt (w :: ws) i ↔
      ws ≠ [] ∧ i = w.length ∨ ∃ j, BeginsAt ws j ∧ i = w.length + j := by
  constructor
  · rintro ⟨front, v, back, hws, hne, rfl⟩
    obtain ⟨u, front, rfl⟩ := List.exists_cons_of_ne_nil hne
    obtain ⟨rfl, rfl⟩ := List.cons.inj hws
    rw [String.join_cons, String.length_append]
    by_cases hf : front = []
    · subst hf
      exact .inl ⟨List.cons_ne_nil v back, by simp⟩
    · exact .inr ⟨_, ⟨front, v, back, rfl, hf, rfl⟩, rfl⟩
  · rintro (⟨hne, rfl⟩ | ⟨j, ⟨front, v, back, rfl, -, rfl⟩, rfl⟩)
    · obtain ⟨v, back, rfl⟩ := List.exists_cons_of_ne_nil hne
      exact ⟨[w], v, back, rfl, List.cons_ne_nil w [], by simp⟩
    · exact ⟨w :: front, v, back, rfl, List.cons_ne_nil w front,
        by rw [String.join_cons, String.length_append]⟩

/-- A character in front of a word moves the starts behind it. -/
theorem beginsAt_grown {c : Char} {w : String} {ws : List String} {i : Nat} :
    BeginsAt ((String.singleton c ++ w) :: ws) i ↔ ∃ j, BeginsAt (w :: ws) j ∧ i = j + 1 := by
  simp only [beginsAt_cons, String.length_append, String.length_singleton]
  constructor
  · rintro (⟨hne, rfl⟩ | ⟨j, hj, rfl⟩)
    · exact ⟨w.length, .inl ⟨hne, rfl⟩, by omega⟩
    · exact ⟨w.length + j, .inr ⟨j, hj, rfl⟩, by omega⟩
  · rintro ⟨_, ⟨hne, rfl⟩ | ⟨j, hj, rfl⟩, rfl⟩
    · exact .inl ⟨hne, by omega⟩
    · exact .inr ⟨j, hj, by omega⟩

theorem IsWordStart.lt_length {cs : List Char} {i : Nat} (h : IsWordStart cs i) :
    1 ≤ i ∧ i < cs.length := by
  obtain ⟨hi, c, d, -, hd, -⟩ := h
  exact ⟨hi, (List.getElem?_eq_some_iff.1 hd).1⟩

theorem isWordStart_cons {c d : Char} {rest : List Char} {i : Nat} :
    IsWordStart (c :: d :: rest) i ↔
      beginsWord c d rest.head? = true ∧ i = 1 ∨ ∃ j, IsWordStart (d :: rest) j ∧ i = j + 1 := by
  match i with
  | 0 => simp [IsWordStart]
  | 1 => simp [IsWordStart, beginsWord_iff, List.head?_eq_getElem?]
  | j + 2 => simp [IsWordStart]

/-- Words begin where capitals begin them. -/
theorem beginsAt_words_iff {cs : List Char} {i : Nat} :
    BeginsAt ((words cs).map String.ofList) i ↔ IsWordStart cs i := by
  induction cs generalizing i with
  | nil => exact iff_of_false (not_beginsAt_nil i) fun h => absurd h.lt_length.2 (Nat.not_lt_zero i)
  | cons c rest ih =>
    cases rest with
    | nil =>
      refine iff_of_false (fun h => ?_) fun h => absurd h.lt_length.2 (Nat.not_lt.2 h.lt_length.1)
      rcases beginsAt_cons.1 h with ⟨hne, -⟩ | ⟨j, hj, -⟩
      · exact hne rfl
      · exact not_beginsAt_nil j hj
    | cons d rest =>
      obtain ⟨w, ws, hw⟩ : ∃ w ws, words (d :: rest) = (d :: w) :: ws := words_cons d rest
      rw [isWordStart_cons]
      cases hb : beginsWord c d rest.head? with
      | true =>
        have hne : (words (d :: rest)).map String.ofList ≠ [] := by simp [hw]
        rw [words_of_begins hb, List.map_cons, beginsAt_cons]
        simp [ih, hne, Nat.add_comm]
      | false =>
        rw [words_of_goesOn hb hw, List.map_cons, String.ofList_cons, beginsAt_grown,
          ← List.map_cons, ← hw]
        simp [ih]

end Text

open Text

/-- Every text is cut into words. None of them is empty, they make up the text, and a word behind
the first begins at a character exactly if that is a capital behind a small letter or a digit, or
one between a capital and a small letter. -/
theorem camelWords_wordStart (s : String) :
    ∃ ws, camelWords s = some ws ∧ ws.map String.toList = words s.toList ∧
      "" ∉ ws ∧ String.join ws = s ∧ ∀ i, BeginsAt ws i ↔ IsWordStart s.toList i := by
  have htexts : ((words s.toList).map String.ofList).map String.toList = words s.toList := by
    rw [List.map_map]
    exact (List.map_congr_left fun w _ => String.toList_ofList).trans (List.map_id _)
  refine ⟨_, camelWords_eq s, htexts, fun hm => ?_, ?_, fun i => beginsAt_words_iff⟩
  · obtain ⟨w, hw, he⟩ := List.mem_map.1 hm
    obtain rfl : w = [] := String.ofList_eq_empty_iff.1 he
    exact nil_notMem_words s.toList hw
  · rw [← String.toList_inj, String.toList_join, List.flatMap_def, htexts, flatten_words]

/-- Cuts behind letters of two bytes, inside an acronym and behind a digit. -/
example : camelWords "éÉTÉa2Bß" = some ["é", "ÉT", "Éa2", "Bß"] := by decide +kernel

end BotBindings
