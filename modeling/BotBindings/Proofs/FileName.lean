import BotBindings.Files.Path
import BotBindings.Proofs.Pieces
import Mathlib.Data.List.TakeWhile

namespace BotBindings.Path

variable {p name name' : String} {cs above : List Char}

def namesOf (cs : List Char) : List String :=
  ((Text.pieces '/' cs).map String.ofList).filter (· ≠ "")

theorem namesOf_append_slash (cs ds : List Char) :
    namesOf (cs ++ '/' :: ds) = namesOf cs ++ namesOf ds := by
  unfold namesOf
  rw [Text.pieces_append_sep, List.map_append, List.filter_append]

theorem namesOf_append_slash_nil (cs : List Char) : namesOf (cs ++ ['/']) = namesOf cs := by
  rw [namesOf_append_slash]
  exact List.append_nil _

/-- What means nothing at the end of a path adds names `.` at most. -/
theorem namesOf_dropIdle (cs : List Char) :
    ∃ k, namesOf cs.reverse = namesOf (dropIdle cs).reverse ++ List.replicate k "." := by
  induction cs using dropIdle.induct with
  | case1 cs ih =>
    obtain ⟨k, ih⟩ := ih
    exact ⟨k, by rw [List.reverse_cons, namesOf_append_slash_nil, ih, dropIdle]⟩
  | case2 cs ih =>
    obtain ⟨k, ih⟩ := ih
    have hdot : namesOf ('.' :: '/' :: cs).reverse = namesOf ('/' :: cs).reverse ++ ["."] := by
      rw [List.reverse_cons, List.reverse_cons, List.append_assoc, List.singleton_append,
        namesOf_append_slash, namesOf_append_slash_nil]
      rfl
    refine ⟨k + 1, ?_⟩
    rw [hdot, ih, dropIdle.eq_2, List.replicate_succ', List.append_assoc]
  | case3 cs h₁ h₂ => exact ⟨0, by rw [dropIdle.eq_3 cs h₁ h₂]; exact (List.append_nil _).symm⟩

/-- A name that a file can have. -/
structure IsFileName (name : String) : Prop where
  slash_notMem : '/' ∉ name.toList
  ne_empty : name ≠ ""
  ne_dot : name ≠ "."
  ne_dots : name ≠ ".."

theorem IsFileName.toList_ne_nil (h : IsFileName name) : name.toList ≠ [] :=
  fun hn => h.ne_empty (String.toList_eq_nil_iff.1 hn)

theorem IsFileName.namesOf (h : IsFileName name) : namesOf name.toList = [name] := by
  unfold Path.namesOf
  rw [Text.pieces_of_notMem h.slash_notMem, List.map_singleton, String.ofList_toList]
  exact List.filter_cons_of_pos (decide_eq_true h.ne_empty)

/-- What stands in front of the last name. -/
def front (p : String) : List Char := ((backwards p).dropWhile (· ≠ '/')).reverse

/-- A directory, with the slash behind it, or nothing. -/
def IsFront (cs : List Char) : Prop := cs = [] ∨ ∃ ds, cs = ds ++ ['/']

theorem isFront_front (p : String) : IsFront (front p) := by
  unfold front
  cases hd : (backwards p).dropWhile (· ≠ '/') with
  | nil => exact .inl rfl
  | cons c cs =>
    have hc : c = '/' := by
      have hne : (backwards p).dropWhile (· ≠ '/') ≠ [] := by
        rw [hd]
        exact List.cons_ne_nil c cs
      have hnot := List.head_dropWhile_not _ hne
      simp only [hd, List.head_cons] at hnot
      simpa using hnot
    exact .inr ⟨cs.reverse, by rw [hc, List.reverse_cons]⟩

theorem namesOf_front_append (hf : IsFront above) (h : IsFileName name) :
    namesOf (above ++ name.toList) = namesOf above ++ [name] := by
  rcases hf with rfl | ⟨ds, rfl⟩
  · exact h.namesOf
  · rw [List.append_assoc, List.singleton_append, namesOf_append_slash, namesOf_append_slash_nil,
      h.namesOf]

theorem isFileName_of_fileName? (h : fileName? p = some name) :
    IsFileName name ∧ (backwards p).reverse = front p ++ name.toList := by
  simp only [fileName?] at h
  split at h
  · cases h
  · next hplain =>
    obtain rfl := Option.some.inj h
    simp only [Bool.or_eq_true, decide_eq_true_eq, not_or] at hplain
    obtain ⟨⟨hempty, hdot⟩, hdots⟩ := hplain
    refine ⟨⟨?_, hempty, hdot, hdots⟩, ?_⟩
    · rw [String.toList_ofList, List.mem_reverse]
      intro hm
      simpa using List.mem_takeWhile_imp hm
    · rw [String.toList_ofList, front, ← List.reverse_append, List.takeWhile_append_dropWhile]

/-- A path with a file name leads to it, unless a `.` behind it asks for a directory. -/
theorem names_of_fileName? (h : fileName? p = some name) :
    ∃ k, names p = namesOf (front p) ++ name :: List.replicate k "." := by
  obtain ⟨hname, hback⟩ := isFileName_of_fileName? h
  obtain ⟨k, hk⟩ := namesOf_dropIdle p.toList.reverse
  have hb : dropIdle p.toList.reverse = backwards p := rfl
  rw [List.reverse_reverse, hb, hback, namesOf_front_append (isFront_front p) hname,
    List.append_assoc] at hk
  exact ⟨k, hk⟩

theorem dropIdle_of_isFileName (h : IsFileName name) (cs : List Char) :
    dropIdle (name.toList.reverse ++ cs) = name.toList.reverse ++ cs := by
  obtain ⟨c, ds, hn⟩ := List.exists_cons_of_ne_nil (mt List.reverse_eq_nil_iff.1 h.toList_ne_nil)
  have hslash : '/' ∉ c :: ds := by
    rw [← hn, List.mem_reverse]
    exact h.slash_notMem
  rw [hn]
  apply dropIdle.eq_3
  · rintro es ⟨rfl, -⟩
    exact hslash List.mem_cons_self
  · intro es hes
    obtain rfl := (List.cons.inj hes).1
    cases ds with
    | nil => exact h.ne_dot (String.toList_inj.1 (List.reverse_eq_iff.1 hn))
    | cons d ds =>
      obtain ⟨rfl, -⟩ := List.cons.inj (List.cons.inj hes).2
      exact hslash (List.mem_cons_of_mem _ List.mem_cons_self)

theorem fileName?_of_toList (hp : p.toList = above ++ name.toList) (hf : IsFront above)
    (h : IsFileName name) : fileName? p = some name := by
  have hback : backwards p = name.toList.reverse ++ above.reverse := by
    rw [backwards, hp, List.reverse_append, dropIdle_of_isFileName h]
  have htake : (backwards p).takeWhile (· ≠ '/') = name.toList.reverse := by
    have hall : ∀ c ∈ name.toList.reverse, decide (c ≠ '/') = true := by
      intro c hc
      rw [decide_eq_true_iff]
      rintro rfl
      exact h.slash_notMem (List.mem_reverse.1 hc)
    rw [hback, List.takeWhile_append_of_pos hall]
    rcases hf with rfl | ⟨ds, rfl⟩
    · exact List.append_nil _
    · rw [List.reverse_append, List.reverse_singleton, List.singleton_append,
        List.takeWhile_cons_of_neg (by decide), List.append_nil]
  unfold fileName?
  rw [htake, List.reverse_reverse, String.ofList_toList]
  simp [h.ne_empty, h.ne_dot, h.ne_dots]

theorem fileName?_inside (dir : String) (h : IsFileName name) :
    fileName? (inside dir name) = some name := by
  unfold inside
  split
  · next hd =>
    apply fileName?_of_toList String.toList_append _ h
    simp only [Bool.or_eq_true, decide_eq_true_eq] at hd
    rcases hd with rfl | hd
    · exact .inl rfl
    · exact .inr (List.getLast?_eq_some_iff.1 (of_decide_eq_true hd))
  · have htext : (dir ++ "/" ++ name).toList = dir.toList ++ ['/'] ++ name.toList := by
      rw [String.toList_append, String.toList_append]
      rfl
    exact fileName?_of_toList htext (.inr ⟨_, rfl⟩) h

/-- What stands behind the last dot of a file name; a dot in front parts nothing. -/
def extension? (name : String) : Option String :=
  match name.toList.reverse.dropWhile (· ≠ '.') with
  | '.' :: _ :: _ => some (String.ofList (name.toList.reverse.takeWhile (· ≠ '.')).reverse)
  | _ => none

/-- A file name with `tmp` for its extension. -/
def temporaryName (name : String) : String := String.ofList (stem name.toList) ++ ".tmp"

theorem stem_isPrefix (cs : List Char) : stem cs <+: cs := by
  unfold stem
  split
  · next c ds hd =>
    have hsuffix : c :: ds <:+ cs.reverse := by
      have hdots := List.dropWhile_suffix (l := cs.reverse) (· ≠ '.')
      rw [hd] at hdots
      exact (List.suffix_cons '.' (c :: ds)).trans hdots
    rwa [← List.reverse_prefix, List.reverse_reverse] at hsuffix
  · exact List.prefix_refl cs

theorem stem_ne_nil (h : cs ≠ []) : stem cs ≠ [] := by
  unfold stem
  split
  · exact mt List.reverse_eq_nil_iff.1 (List.cons_ne_nil _ _)
  · exact h

theorem toList_temporaryName (name : String) :
    (temporaryName name).toList = stem name.toList ++ ['.', 't', 'm', 'p'] := by
  rw [temporaryName, String.toList_append, String.toList_ofList]
  rfl

theorem extension?_temporaryName (h : name ≠ "") : extension? (temporaryName name) = some "tmp" := by
  have hstem : (stem name.toList).reverse ≠ [] :=
    mt List.reverse_eq_nil_iff.1 (stem_ne_nil fun hn => h (String.toList_eq_nil_iff.1 hn))
  obtain ⟨c, cs, hc⟩ := List.exists_cons_of_ne_nil hstem
  unfold extension?
  rw [toList_temporaryName, List.reverse_append, hc]
  rfl

theorem temporaryName_ne (h : IsFileName name) (hext : extension? name' ≠ some "tmp") :
    temporaryName name ≠ name' := by
  rintro rfl
  exact hext (extension?_temporaryName h.ne_empty)

theorem isFileName_temporaryName (h : IsFileName name) : IsFileName (temporaryName name) where
  slash_notMem := by
    rw [toList_temporaryName, List.mem_append, not_or]
    exact ⟨fun hm => h.slash_notMem ((stem_isPrefix _).subset hm), by decide⟩
  ne_empty := temporaryName_ne h (by decide)
  ne_dot := temporaryName_ne h (by decide)
  ne_dots := temporaryName_ne h (by decide)

theorem toList_temporary (h : fileName? p = some name) :
    (temporary p).toList = front p ++ (temporaryName name).toList := by
  unfold temporary
  rw [h, toList_temporaryName, ← List.append_assoc]
  simp only [String.toList_append, String.toList_ofList]
  rfl

theorem fileName?_temporary (h : fileName? p = some name) :
    fileName? (temporary p) = some (temporaryName name) :=
  fileName?_of_toList (toList_temporary h) (isFront_front p)
    (isFileName_temporaryName (isFileName_of_fileName? h).1)

theorem names_temporary (h : fileName? p = some name) :
    names (temporary p) = namesOf (front p) ++ [temporaryName name] := by
  have hnames : names (temporary p) = namesOf (temporary p).toList := rfl
  rw [hnames, toList_temporary h, namesOf_front_append (isFront_front p)
    (isFileName_temporaryName (isFileName_of_fileName? h).1)]

theorem dropIdle_suffix (cs : List Char) : dropIdle cs <:+ cs := by
  induction cs using dropIdle.induct with
  | case1 cs ih => exact ih.trans (List.suffix_cons '/' cs)
  | case2 cs ih => exact ih.trans (List.suffix_cons '.' _)
  | case3 cs h₁ h₂ => exact ⟨[], dropIdle.eq_3 cs h₁ h₂⟩

theorem isAbsolute_of_isPrefix (h : IsFileName name) (hp : above ++ name.toList <+: p.toList) :
    isAbsolute p = decide (above.head? = some '/') := by
  obtain ⟨rest, hp⟩ := hp
  obtain ⟨c, cs, hc⟩ := List.exists_cons_of_ne_nil h.toList_ne_nil
  unfold isAbsolute
  rw [← hp]
  cases above with
  | cons a above => rfl
  | nil =>
    have hslash : c ≠ '/' := by
      rintro rfl
      exact h.slash_notMem (hc ▸ List.mem_cons_self)
    rw [hc]
    simpa using hslash

/-- Both paths start at the same place. -/
theorem isAbsolute_temporary (h : fileName? p = some name) :
    isAbsolute (temporary p) = isAbsolute p := by
  obtain ⟨hname, hback⟩ := isFileName_of_fileName? h
  have hp : front p ++ name.toList <+: p.toList := by
    rw [← hback, ← List.reverse_suffix, List.reverse_reverse]
    exact dropIdle_suffix _
  have htmp : front p ++ (temporaryName name).toList <+: (temporary p).toList :=
    ⟨[], (List.append_nil _).trans (toList_temporary h).symm⟩
  rw [isAbsolute_of_isPrefix hname hp,
    isAbsolute_of_isPrefix (isFileName_temporaryName hname) htmp]

/-- A temporary path is no path of a file without the extension `tmp`, wherever that is. -/
theorem temporary_ne {p' : String} (h : fileName? p = some name) (h' : fileName? p' = some name')
    (hext : extension? name' ≠ some "tmp") : temporary p ≠ p' := by
  rintro rfl
  rw [fileName?_temporary h] at h'
  exact temporaryName_ne (isFileName_of_fileName? h).1 hext (Option.some.inj h')

end BotBindings.Path
