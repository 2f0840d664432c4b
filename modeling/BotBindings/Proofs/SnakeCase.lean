import BotBindings.Proofs.Ascii
import BotBindings.Proofs.Words

namespace BotBindings

namespace Text

variable {c : Char} {cs w : List Char}

/-- No capitals, and underscores neither at the ends nor side by side. -/
structure IsSnakeCase (cs : List Char) : Prop where
  isUpper : ∀ c ∈ cs, isUpper c = false
  head? : cs.head? ≠ some '_'
  getLast? : cs.getLast? ≠ some '_'
  apart : ¬ ['_', '_'] <:+: cs

/-- The words of a name as in `send_photo`. -/
def snakeWords (cs : List Char) : List (List Char) := ((parts cs).flatMap words).map lowercase

theorem snakeCase_eq (cs : List Char) : snakeCase cs = ['_'].intercalate (snakeWords cs) := rfl

theorem snakeWords_of_notMem (hne : cs ≠ []) (h : '_' ∉ cs) :
    snakeWords cs = (words cs).map lowercase := by
  rw [snakeWords, parts_of_notMem hne h, List.flatMap_singleton]

/-- The first letter of a name stays the first one. -/
theorem exists_snakeCase_cons (h : ∀ x ∈ c :: cs, x.toNat < 128) (hc : c ≠ '_') :
    ∃ rest, snakeCase (c :: cs) = c.toLower :: rest := by
  obtain ⟨p, ps, hp⟩ : ∃ p ps, parts (c :: cs) = (c :: p) :: ps := parts_cons hc
  obtain ⟨w, ws, hw⟩ := words_cons c p
  have hmem : ∀ x ∈ c :: w, x.toNat < 128 := fun x hx =>
    h x (mem_of_mem_parts (hp ▸ List.mem_cons_self) (mem_of_mem_words (hw ▸ List.mem_cons_self) hx))
  have hsnake : snakeWords (c :: cs) =
      lowercase (c :: w) :: (ws ++ ps.flatMap words).map lowercase := by
    rw [snakeWords, hp, List.flatMap_cons, hw, List.cons_append, List.map_cons]
  rw [snakeCase_eq, hsnake, lowercase_cons hmem]
  obtain ⟨rest, hrest⟩ := exists_intercalate_cons '_' (c.toLower :: lowercase w)
    ((ws ++ ps.flatMap words).map lowercase)
  exact ⟨_, hrest⟩

section

variable (h : ∀ c ∈ cs, c.toNat < 128)

include h

/-- The characters of words come from the name, without its underscores. -/
theorem exists_of_mem_snakeWords (hw : w ∈ snakeWords cs) :
    ∃ v, w = v.map Char.toLower ∧ v ≠ [] ∧ ∀ c ∈ v, c.toNat < 128 ∧ c ≠ '_' := by
  obtain ⟨v, hv, rfl⟩ := List.mem_map.1 hw
  obtain ⟨p, hp, hv⟩ := List.mem_flatMap.1 hv
  have hascii : ∀ c ∈ v, c.toNat < 128 := fun c hc =>
    h c (mem_of_mem_parts hp (mem_of_mem_words hv hc))
  refine ⟨v, lowercase_of_ascii hascii, ?_, fun c hc => ⟨hascii c hc, ?_⟩⟩
  · rintro rfl
    exact nil_notMem_words p hv
  · rintro rfl
    exact notMem_of_mem_parts hp (mem_of_mem_words hv hc)

theorem nil_notMem_snakeWords : [] ∉ snakeWords cs := by
  intro hm
  obtain ⟨v, hv, hne, -⟩ := exists_of_mem_snakeWords h hm
  exact hne (List.map_eq_nil_iff.1 hv.symm)

theorem notMem_of_mem_snakeWords : ∀ w ∈ snakeWords cs, '_' ∉ w := by
  intro w hw hm
  obtain ⟨v, rfl, -, hv⟩ := exists_of_mem_snakeWords h hw
  obtain ⟨c, hc, he⟩ := List.mem_map.1 hm
  exact (hv c hc).2 ((toLower_eq_underscore_iff (hv c hc).1).1 he)

theorem small_of_mem_snakeWords (hw : w ∈ snakeWords cs) :
    ∀ c ∈ w, c.toNat < 128 ∧ c.isUpper = false := by
  obtain ⟨v, rfl, -, hv⟩ := exists_of_mem_snakeWords h hw
  rw [List.forall_mem_map]
  exact fun c hc => ⟨toLower_lt (hv c hc).1, isUpper_toLower (hv c hc).1⟩

theorem flatten_snakeWords :
    (snakeWords cs).flatten = (cs.filter (· ≠ '_')).map Char.toLower := by
  have hlower : ((parts cs).flatMap words).map lowercase =
      ((parts cs).flatMap words).map (List.map Char.toLower) := by
    refine List.map_congr_left fun v hv => ?_
    obtain ⟨p, hp, hv⟩ := List.mem_flatMap.1 hv
    exact lowercase_of_ascii fun c hc => h c (mem_of_mem_parts hp (mem_of_mem_words hv hc))
  have hwords : ((parts cs).flatMap words).flatten = (parts cs).flatten := by
    induction parts cs with
    | nil => rfl
    | cons p ps ih => rw [List.flatMap_cons, List.flatten_append, flatten_words, ih, List.flatten_cons]
  rw [snakeWords, hlower, ← List.map_flatten, hwords, flatten_parts]

/-- No character is lost, added or moved other than underscores. -/
theorem filter_snakeCase :
    (snakeCase cs).filter (· ≠ '_') = (lowercase cs).filter (· ≠ '_') := by
  have hlower : (cs.filter (· ≠ '_')).map Char.toLower = (cs.map Char.toLower).filter (· ≠ '_') := by
    rw [List.filter_map]
    congr 1
    refine List.filter_congr fun c hc => ?_
    simp [toLower_eq_underscore_iff (h c hc)]
  rw [snakeCase_eq, filter_intercalate (notMem_of_mem_snakeWords h), flatten_snakeWords h, hlower,
    lowercase_of_ascii h]

theorem small_of_mem_snakeCase (hc : c ∈ snakeCase cs) : c.toNat < 128 ∧ c.isUpper = false := by
  rcases mem_of_mem_intercalate hc with rfl | ⟨w, hw, hc⟩
  · decide
  · exact small_of_mem_snakeWords h hw c hc

theorem isSnakeCase_snakeCase : IsSnakeCase (snakeCase cs) := by
  by_cases hnil : snakeWords cs = []
  · rw [snakeCase_eq, hnil]
    exact ⟨nofun, nofun, nofun, by decide⟩
  · have hpieces : pieces '_' (snakeCase cs) = snakeWords cs :=
      pieces_intercalate hnil (notMem_of_mem_snakeWords h)
    have hword : [] ∉ pieces '_' (snakeCase cs) := hpieces ▸ nil_notMem_snakeWords h
    have hne : snakeCase cs ≠ [] := by
      intro he
      rw [he] at hword
      exact hword List.mem_cons_self
    obtain ⟨hhead, hlast, hinfix⟩ := (nil_notMem_pieces_iff hne).1 hword
    refine ⟨fun c hc => ?_, hhead, hlast, hinfix⟩
    obtain ⟨hascii, hupper⟩ := small_of_mem_snakeCase h hc
    rw [isUpper_of_ascii hascii, hupper]

/-- A name that is written so already stays as it is. -/
theorem snakeCase_eq_self (hs : IsSnakeCase cs) : snakeCase cs = cs := by
  by_cases hne : cs = []
  · rw [hne]
    rfl
  have hpieces : [] ∉ pieces '_' cs :=
    (nil_notMem_pieces_iff hne).2 ⟨hs.head?, hs.getLast?, hs.apart⟩
  have hparts : parts cs = pieces '_' cs := parts_of_pieces rfl hpieces
  have hwords : ∀ p ∈ parts cs, words p = [p] := by
    intro p hp
    obtain ⟨c, rest, rfl⟩ := List.exists_cons_of_ne_nil (ne_nil_of_mem_parts hp)
    exact words_of_noUpper fun x hx =>
      hs.isUpper x (mem_of_mem_parts hp (List.mem_cons_of_mem c hx))
  have hlower : ∀ p ∈ parts cs, lowercase p = p := by
    intro p hp
    refine lowercase_eq_self fun c hc => ?_
    have hm : c ∈ cs := mem_of_mem_parts hp hc
    exact ⟨h c hm, isUpper_of_ascii (h c hm) ▸ hs.isUpper c hm⟩
  have hsnake : snakeWords cs = parts cs := by
    rw [snakeWords, List.flatMap_congr hwords, List.flatMap_singleton', List.map_congr_left hlower,
      List.map_id']
  rw [snakeCase_eq, hsnake, hparts, intercalate_pieces]

end

end Text

open Text

/-- What is written as in `send_photo` is in that form, and its characters are those of the name in
lower case; the names in that form are those that stay as they are. -/
theorem snakeCase_normalForm {s : String} (h : ∀ c ∈ s.toList, c.toNat < 128) :
    IsSnakeCase (snakeCase s).toList ∧
    (snakeCase s).toList.filter (· ≠ '_') = (lowercase s.toList).filter (· ≠ '_') ∧
    snakeCase (snakeCase s) = snakeCase s ∧
    (snakeCase s = s ↔ IsSnakeCase s.toList) := by
  have hsnake : IsSnakeCase (snakeCase s).toList := by
    rw [toList_snakeCase]
    exact isSnakeCase_snakeCase h
  have hself (t : String) (ht : ∀ c ∈ t.toList, c.toNat < 128) (hs : IsSnakeCase t.toList) :
      snakeCase t = t := by
    rw [snakeCase, Text.snakeCase_eq_self ht hs, String.ofList_toList]
  have hascii : ∀ c ∈ (snakeCase s).toList, c.toNat < 128 := by
    intro c hc
    rw [toList_snakeCase] at hc
    exact (small_of_mem_snakeCase h hc).1
  refine ⟨hsnake, ?_, hself _ hascii hsnake, fun he => he ▸ hsnake, hself s h⟩
  rw [toList_snakeCase]
  exact filter_snakeCase h

/-- Runs of underscores, an acronym and a digit in front of a capital. -/
theorem snakeCase_normalForm_acronym :
    snakeCase "_HTTPClient__v2Beta_" = "http_client_v2_beta" ∧
      IsSnakeCase "http_client_v2_beta".toList ∧
      snakeCase "http_client_v2_beta" = "http_client_v2_beta" := by
  have hs : snakeCase "_HTTPClient__v2Beta_" = "http_client_v2_beta" := by decide
  have hall : ("_HTTPClient__v2Beta_".toList.all fun c => c.toNat < 128) = true := by decide
  obtain ⟨hsnake, -, hagain, -⟩ := snakeCase_normalForm fun c hc =>
    of_decide_eq_true (List.all_eq_true.1 hall c hc)
  rw [hs] at hsnake hagain
  exact ⟨hs, hsnake, hagain⟩

end BotBindings
