import BotBindings.Proofs.Pieces
import BotBindings.Text.Words

namespace BotBindings

namespace Text

variable {c d : Char} {cs rest w : List Char} {ws : List (List Char)}

theorem mem_of_mem_parts (hw : w ∈ parts cs) (hc : c ∈ w) : c ∈ cs :=
  mem_of_mem_pieces (List.mem_filter.1 hw).1 hc

theorem notMem_of_mem_parts (hw : w ∈ parts cs) : '_' ∉ w :=
  notMem_of_mem_pieces (List.mem_filter.1 hw).1

theorem ne_nil_of_mem_parts (hw : w ∈ parts cs) : w ≠ [] := by
  rintro rfl
  exact absurd (List.mem_filter.1 hw).2 (by decide)

/-- The first letter of a name begins its first part. -/
theorem parts_cons (h : c ≠ '_') : ∃ p ps, parts (c :: cs) = (c :: p) :: ps := by
  obtain ⟨p, ps, -, hp⟩ := pieces_cons_of_ne h cs
  refine ⟨p, ps.filter (!·.isEmpty), ?_⟩
  rw [parts, hp]
  rfl

theorem parts_of_pieces (hp : pieces '_' cs = ws) (h : [] ∉ ws) : parts cs = ws := by
  rw [parts, hp, List.filter_eq_self]
  intro w hw
  cases w with
  | nil => exact absurd hw h
  | cons c w => rfl

theorem parts_of_notMem (hne : cs ≠ []) (h : '_' ∉ cs) : parts cs = [cs] :=
  parts_of_pieces (pieces_of_notMem h) fun hm => hne (List.mem_singleton.1 hm).symm

/-- Words that are joined are the parts of the result. -/
theorem parts_intercalate (hne : [] ∉ ws) (h : ∀ w ∈ ws, '_' ∉ w) :
    parts (['_'].intercalate ws) = ws := by
  by_cases hws : ws = []
  · rw [hws]
    rfl
  · exact parts_of_pieces (pieces_intercalate hws h) hne

/-- The parts of a name are the name without its underscores. -/
theorem flatten_parts (cs : List Char) : (parts cs).flatten = cs.filter (· ≠ '_') := by
  rw [← flatten_pieces]
  exact List.flatten_filter_not_isEmpty

theorem words_cons (c : Char) (cs : List Char) : ∃ w ws, words (c :: cs) = (c :: w) :: ws := by
  cases cs with
  | nil => exact ⟨[], [], rfl⟩
  | cons d rest =>
    unfold words
    split
    · exact ⟨[], [], rfl⟩
    · next w ws _ =>
      split
      · exact ⟨[], w :: ws, rfl⟩
      · exact ⟨w, ws, rfl⟩

/-- A word ends in front of a capital that begins one. -/
theorem words_of_begins (h : beginsWord c d rest.head? = true) :
    words (c :: d :: rest) = [c] :: words (d :: rest) := by
  obtain ⟨w, ws, hw⟩ := words_cons d rest
  rw [words, hw]
  exact if_pos h

/-- Any other character goes on with the word. -/
theorem words_of_goesOn (h : beginsWord c d rest.head? = false) (hw : words (d :: rest) = w :: ws) :
    words (c :: d :: rest) = (c :: w) :: ws := by
  rw [words, hw]
  exact if_neg (Bool.eq_false_iff.1 h)

/-- The words of a name are the name in pieces. -/
theorem flatten_words (cs : List Char) : (words cs).flatten = cs := by
  induction cs using words.induct with
  | case1 => rfl
  | case2 c => rfl
  | case3 c d rest h ih =>
    rw [h] at ih
    cases ih
  | case4 c d rest w ws h hb ih =>
    rw [words_of_begins hb, List.flatten_cons, ih, List.singleton_append]
  | case5 c d rest w ws h hb ih =>
    rw [h, List.flatten_cons] at ih
    rw [words_of_goesOn (Bool.eq_false_iff.2 hb) h, List.flatten_cons, List.cons_append, ih]

theorem mem_of_mem_words (hw : w ∈ words cs) (hc : c ∈ w) : c ∈ cs := by
  rw [← flatten_words cs]
  exact List.mem_flatten.2 ⟨w, hw, hc⟩

theorem nil_notMem_words (cs : List Char) : [] ∉ words cs := by
  induction cs using words.induct with
  | case1 => exact List.not_mem_nil
  | case2 c => simp [words]
  | case3 c d rest h ih =>
    obtain ⟨w, ws, hw⟩ := words_cons d rest
    rw [h] at hw
    cases hw
  | case4 c d rest w ws h hb ih =>
    rw [words_of_begins hb, List.mem_cons, not_or]
    exact ⟨(List.cons_ne_nil c []).symm, ih⟩
  | case5 c d rest w ws h hb ih =>
    rw [h] at ih
    rw [words_of_goesOn (Bool.eq_false_iff.2 hb) h, List.mem_cons, not_or]
    exact ⟨(List.cons_ne_nil c w).symm, fun hm => ih (List.mem_cons_of_mem w hm)⟩

/-- Only capitals begin words. -/
theorem beginsWord_of_isUpper_eq_false (h : isUpper d = false) (next : Option Char) :
    beginsWord c d next = false := by
  rw [beginsWord, h, Bool.false_and]

theorem words_of_noUpper (h : ∀ x ∈ cs, isUpper x = false) : words (c :: cs) = [c :: cs] := by
  induction cs generalizing c with
  | nil => rfl
  | cons d rest ih =>
    obtain ⟨hd, hrest⟩ := List.forall_mem_cons.1 h
    exact words_of_goesOn (beginsWord_of_isUpper_eq_false hd _) (ih hrest)

end Text

theorem toList_snakeCase (s : String) : (snakeCase s).toList = Text.snakeCase s.toList :=
  String.toList_ofList

theorem toList_upperCamel (s : String) : (upperCamel s).toList = Text.upperCamel s.toList :=
  String.toList_ofList

theorem toList_lowerCamel (s : String) : (lowerCamel s).toList = Text.lowerCamel s.toList :=
  String.toList_ofList

end BotBindings
