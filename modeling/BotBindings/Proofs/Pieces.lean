import BotBindings.Text.Blank
import Mathlib.Data.List.Basic

namespace BotBindings.Text

variable {sep c : Char} {cs p : List Char} {ps : List (List Char)}

theorem pieces_ne_nil (sep : Char) (cs : List Char) : pieces sep cs ≠ [] := by
  unfold pieces
  repeat' split
  all_goals exact List.cons_ne_nil _ _

/-- A character that is no separator comes in front of the first piece. -/
theorem pieces_cons_of_ne (h : c ≠ sep) (cs : List Char) :
    ∃ p ps, pieces sep cs = p :: ps ∧ pieces sep (c :: cs) = (c :: p) :: ps := by
  obtain ⟨p, ps, hp⟩ := List.exists_cons_of_ne_nil (pieces_ne_nil sep cs)
  exact ⟨p, ps, hp, by rw [pieces, if_neg h, hp]⟩

theorem pieces_cons_sep (sep : Char) (cs : List Char) :
    pieces sep (sep :: cs) = [] :: pieces sep cs := if_pos rfl

/-- What holds no separator stands in front of the first piece. -/
theorem pieces_append (h : sep ∉ p) (cs : List Char) :
    pieces sep (p ++ cs) = (p ++ (pieces sep cs).headD []) :: (pieces sep cs).tail := by
  induction p with
  | nil =>
    obtain ⟨q, qs, hq⟩ := List.exists_cons_of_ne_nil (pieces_ne_nil sep cs)
    rw [List.nil_append, hq]
    rfl
  | cons c p ih =>
    obtain ⟨hc, hp⟩ := not_or.1 (fun hm => h (List.mem_cons.2 hm))
    rw [List.cons_append, pieces, if_neg (Ne.symm hc), ih hp]
    rfl

theorem pieces_of_notMem (h : sep ∉ p) : pieces sep p = [p] := by
  have hp := pieces_append h []
  rw [List.append_nil] at hp
  rw [hp, pieces, List.headD_cons, List.append_nil, List.tail_cons]

/-- A separator parts the pieces in front of it from those behind it. -/
theorem pieces_append_sep (sep : Char) (cs ds : List Char) :
    pieces sep (cs ++ sep :: ds) = pieces sep cs ++ pieces sep ds := by
  induction cs with
  | nil => exact pieces_cons_sep sep ds
  | cons c cs ih =>
    by_cases hc : c = sep
    · rw [hc, List.cons_append, pieces_cons_sep, pieces_cons_sep, ih, List.cons_append]
    · obtain ⟨p, ps, hp, hcons⟩ := pieces_cons_of_ne hc cs
      obtain ⟨q, qs, hq, hcons'⟩ := pieces_cons_of_ne hc (cs ++ sep :: ds)
      rw [ih, hp, List.cons_append] at hq
      obtain ⟨rfl, rfl⟩ := List.cons.inj hq
      rw [List.cons_append, hcons', hcons, List.cons_append]

theorem pieces_separated (h : sep ∉ p) (cs : List Char) :
    pieces sep (p ++ sep :: cs) = p :: pieces sep cs := by
  rw [pieces_append_sep, pieces_of_notMem h, List.singleton_append]

theorem notMem_of_mem_pieces (h : p ∈ pieces sep cs) : sep ∉ p := by
  induction cs generalizing p with
  | nil =>
    rw [pieces, List.mem_singleton] at h
    rw [h]
    exact List.not_mem_nil
  | cons c cs ih =>
    by_cases hc : c = sep
    · rw [hc, pieces_cons_sep] at h
      rcases List.mem_cons.1 h with rfl | h
      · exact List.not_mem_nil
      · exact ih h
    · obtain ⟨q, qs, hq, hcons⟩ := pieces_cons_of_ne hc cs
      rw [hq] at ih
      rw [hcons] at h
      rcases List.mem_cons.1 h with rfl | h
      · rw [List.mem_cons, not_or]
        exact ⟨Ne.symm hc, ih List.mem_cons_self⟩
      · exact ih (List.mem_cons_of_mem q h)

/-- The pieces are the text without the separators. -/
theorem flatten_pieces (sep : Char) (cs : List Char) :
    (pieces sep cs).flatten = cs.filter (· ≠ sep) := by
  induction cs with
  | nil => rfl
  | cons c cs ih =>
    by_cases hc : c = sep
    · rw [hc, pieces_cons_sep, List.flatten_cons, ih, List.nil_append,
        List.filter_cons_of_neg (by simp)]
    · obtain ⟨p, ps, hp, hcons⟩ := pieces_cons_of_ne hc cs
      rw [hp, List.flatten_cons] at ih
      rw [hcons, List.flatten_cons, List.cons_append, ih, List.filter_cons_of_pos (by simpa using hc)]

theorem mem_of_mem_pieces (hp : p ∈ pieces sep cs) (hc : c ∈ p) : c ∈ cs := by
  have hf : c ∈ (pieces sep cs).flatten := List.mem_flatten.2 ⟨p, hp, hc⟩
  rw [flatten_pieces] at hf
  exact List.mem_of_mem_filter hf

/-- The pieces with a separator behind each are the text with one behind it. -/
theorem flatMap_pieces (sep : Char) (cs : List Char) :
    (pieces sep cs).flatMap (· ++ [sep]) = cs ++ [sep] := by
  induction cs with
  | nil => rfl
  | cons c cs ih =>
    obtain ⟨q, qs, hq⟩ := List.exists_cons_of_ne_nil (pieces_ne_nil sep cs)
    rw [hq] at ih
    unfold pieces
    rw [hq]
    split
    · next hc => rw [List.flatMap_cons, ih, hc]; rfl
    · rw [List.flatMap_cons, List.cons_append, List.cons_append, List.cons_append, ← ih,
        List.flatMap_cons]

theorem pieces_flatMap {ls : List (List Char)} (h : ∀ l ∈ ls, sep ∉ l) :
    pieces sep (ls.flatMap (· ++ [sep])) = ls ++ [[]] := by
  induction ls with
  | nil => rfl
  | cons l ls ih =>
    obtain ⟨hl, hls⟩ := List.forall_mem_cons.1 h
    rw [List.flatMap_cons, List.append_assoc, List.singleton_append, pieces_separated hl, ih hls]
    rfl

/-- Pieces that are joined are found again. -/
theorem pieces_intercalate (hne : ps ≠ []) (h : ∀ p ∈ ps, sep ∉ p) :
    pieces sep ([sep].intercalate ps) = ps := by
  induction ps with
  | nil => exact absurd rfl hne
  | cons p ps ih =>
    obtain ⟨hp, hps⟩ := List.forall_mem_cons.1 h
    cases ps with
    | nil => rw [List.intercalate_singleton, pieces_of_notMem hp]
    | cons q qs =>
      rw [List.intercalate_cons_cons, List.append_assoc, List.singleton_append,
        pieces_separated hp, ih (List.cons_ne_nil q qs) hps]

theorem intercalate_pieces (sep : Char) (cs : List Char) :
    [sep].intercalate (pieces sep cs) = cs := by
  induction cs with
  | nil => rfl
  | cons c cs ih =>
    obtain ⟨p, ps, hp⟩ := List.exists_cons_of_ne_nil (pieces_ne_nil sep cs)
    rw [hp] at ih
    by_cases hc : c = sep
    · rw [hc, pieces_cons_sep, hp, List.intercalate_cons_cons, ih]
      rfl
    · rw [pieces, if_neg hc, hp]
      cases ps with
      | nil =>
        rw [List.intercalate_singleton] at ih ⊢
        rw [ih]
      | cons q qs =>
        rw [List.intercalate_cons_cons] at ih ⊢
        rw [List.cons_append, List.cons_append, ih]

/-- The first piece stands in front. -/
theorem exists_intercalate_cons (sep : Char) (p : List Char) (ps : List (List Char)) :
    ∃ rest, [sep].intercalate (p :: ps) = p ++ rest := by
  cases ps with
  | nil => exact ⟨[], by rw [List.intercalate_singleton, List.append_nil]⟩
  | cons q qs => exact ⟨_, by rw [List.intercalate_cons_cons, List.append_assoc]⟩

theorem mem_of_mem_intercalate (h : c ∈ [sep].intercalate ps) : c = sep ∨ ∃ p ∈ ps, c ∈ p := by
  induction ps with
  | nil => cases h
  | cons p ps ih =>
    cases ps with
    | nil =>
      rw [List.intercalate_singleton] at h
      exact .inr ⟨p, List.mem_cons_self, h⟩
    | cons q qs =>
      rw [List.intercalate_cons_cons, List.mem_append, List.mem_append, List.mem_singleton] at h
      rcases h with (h | h) | h
      · exact .inr ⟨p, List.mem_cons_self, h⟩
      · exact .inl h
      · exact (ih h).imp_right fun ⟨r, hr, hc⟩ => ⟨r, List.mem_cons_of_mem p hr, hc⟩

/-- Joining adds separators and nothing else. -/
theorem filter_intercalate (h : ∀ p ∈ ps, sep ∉ p) :
    ([sep].intercalate ps).filter (· ≠ sep) = ps.flatten := by
  by_cases hne : ps = []
  · rw [hne]
    rfl
  · rw [← flatten_pieces, pieces_intercalate hne h]

/-- An empty piece behind the first one stands between two separators or behind the last one. -/
theorem of_nil_mem_tail_pieces (h : [] ∈ (pieces sep cs).tail) :
    cs.getLast? = some sep ∨ [sep, sep] <:+: cs := by
  induction cs with
  | nil => cases h
  | cons c cs ih =>
    have hcons : cs.getLast? = some sep ∨ [sep, sep] <:+: cs →
        (c :: cs).getLast? = some sep ∨ [sep, sep] <:+: c :: cs := by
      rintro (hl | hi)
      · exact .inl (by rw [List.getLast?_cons, hl, Option.getD_some])
      · exact .inr (List.infix_cons hi)
    by_cases hc : c = sep
    · rw [hc, pieces_cons_sep, List.tail_cons] at h
      cases cs with
      | nil => exact .inl (congrArg some hc)
      | cons d cs =>
        by_cases hd : d = sep
        · rw [hc, hd]
          exact .inr (List.prefix_append [sep, sep] cs).isInfix
        · -- the first piece holds `d`, so the empty one stands behind it
          obtain ⟨p, ps, -, hp⟩ := pieces_cons_of_ne hd cs
          rw [hp] at h ih
          exact hcons (ih ((List.mem_cons.1 h).resolve_left (List.cons_ne_nil d p).symm))
    · obtain ⟨p, ps, hp, hp'⟩ := pieces_cons_of_ne hc cs
      rw [hp'] at h
      rw [hp] at ih
      exact hcons (ih h)

/-- No piece of a text is empty just if separators stand neither at its ends nor side by side. -/
theorem nil_notMem_pieces_iff (hne : cs ≠ []) :
    [] ∉ pieces sep cs ↔
      cs.head? ≠ some sep ∧ cs.getLast? ≠ some sep ∧ ¬ [sep, sep] <:+: cs := by
  constructor
  · intro h
    refine ⟨fun hs => ?_, fun hs => ?_, ?_⟩
    · obtain ⟨ds, rfl⟩ := List.head?_eq_some_iff.1 hs
      rw [pieces_cons_sep] at h
      exact h List.mem_cons_self
    · obtain ⟨ds, rfl⟩ := List.getLast?_eq_some_iff.1 hs
      rw [pieces_append_sep] at h
      exact h (List.mem_append_right _ List.mem_cons_self)
    · rintro ⟨ds, es, rfl⟩
      rw [List.append_assoc, List.cons_append, pieces_append_sep, List.cons_append,
        pieces_cons_sep] at h
      exact h (List.mem_append_right _ List.mem_cons_self)
  · rintro ⟨hhead, hlast, hinfix⟩ h
    obtain ⟨c, rest, rfl⟩ := List.exists_cons_of_ne_nil hne
    have hc : c ≠ sep := by
      rintro rfl
      exact hhead rfl
    obtain ⟨p, ps, -, hcons⟩ := pieces_cons_of_ne hc rest
    have hps : [] ∈ (pieces sep (c :: rest)).tail := by
      rw [hcons] at h ⊢
      exact (List.mem_cons.1 h).resolve_left (List.cons_ne_nil c p).symm
    exact (of_nil_mem_tail_pieces hps).elim hlast hinfix

end BotBindings.Text
