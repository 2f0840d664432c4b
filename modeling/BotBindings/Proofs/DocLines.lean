import BotBindings.Code.Doc
import BotBindings.Proofs.Pieces

namespace BotBindings

namespace Text

variable {cs : List Char} {c : Char}

theorem filter_dropWhile_isBlank (cs : List Char) :
    (cs.dropWhile isBlank).filter (!isBlank ·) = cs.filter (!isBlank ·) := by
  induction cs with
  | nil => rfl
  | cons c cs ih =>
    by_cases hc : isBlank c = true
    · rw [List.dropWhile_cons, if_pos hc, ih, List.filter_cons_of_neg (by simp [hc])]
    · rw [List.dropWhile_cons, if_neg hc]

theorem filter_trimEnd (cs : List Char) :
    (trimEnd cs).filter (!isBlank ·) = cs.filter (!isBlank ·) := by
  rw [trimEnd, List.filter_reverse, filter_dropWhile_isBlank, List.filter_reverse,
    List.reverse_reverse]

/-- Trimming takes nothing but blanks. -/
theorem filter_trim (cs : List Char) :
    (trim cs).filter (!isBlank ·) = cs.filter (!isBlank ·) := by
  rw [trim, filter_trimEnd, trimStart, filter_dropWhile_isBlank]

/-- What is trimmed does not end in a blank. -/
theorem isBlank_getLast_trimEnd (h : c ∈ (trimEnd cs).getLast?) : isBlank c = false := by
  rw [trimEnd, List.getLast?_reverse] at h
  have hd := List.head?_dropWhile_not isBlank cs.reverse
  rw [h] at hd
  simpa using hd

theorem trim_eq_nil_iff : trim cs = [] ↔ cs.all isBlank = true := by
  have hf : cs.all isBlank = true ↔ cs.filter (!isBlank ·) = [] := by
    simp [List.filter_eq_nil_iff]
  rw [hf, ← filter_trim]
  constructor
  · intro h
    rw [h]
    rfl
  · intro h
    -- the last character would be one that is no blank
    rw [← List.getLast?_eq_none_iff, Option.eq_none_iff_forall_not_mem]
    intro c hc
    have hblank : isBlank c = false := isBlank_getLast_trimEnd hc
    have hm : c ∈ (trim cs).filter (!isBlank ·) :=
      List.mem_filter.2 ⟨List.mem_of_getLast? hc, by rw [hblank]; rfl⟩
    rw [h] at hm
    cases hm

/-- A blank at the end goes first. -/
theorem trimEnd_append_blank (h : isBlank c = true) : trimEnd (cs ++ [c]) = trimEnd cs := by
  rw [trimEnd, List.reverse_append, List.reverse_singleton, List.singleton_append,
    List.dropWhile_cons, if_pos h]
  rfl

theorem trimEnd_eq_self (h : ∀ c ∈ cs.getLast?, isBlank c = false) : trimEnd cs = cs := by
  cases hr : cs.reverse with
  | nil => rw [List.reverse_eq_nil_iff.1 hr]; rfl
  | cons c rest =>
    have hc : isBlank c = false := h c (by rw [← List.head?_reverse, hr]; rfl)
    rw [trimEnd, hr, List.dropWhile_cons, hc, if_neg Bool.false_ne_true, ← hr,
      List.reverse_reverse]

/-- The last piece is empty only behind a separator, or if there is no text. -/
theorem of_nil_mem_getLast?_pieces {sep : Char} (h : [] ∈ (pieces sep cs).getLast?) :
    cs = [] ∨ sep ∈ cs.getLast? := by
  by_cases ht : (pieces sep cs).tail = []
  · obtain ⟨p, ps, hp⟩ := List.exists_cons_of_ne_nil (pieces_ne_nil sep cs)
    rw [hp, List.tail_cons] at ht
    rw [hp, ht, List.getLast?_singleton, Option.mem_some_iff] at h
    left
    rw [← intercalate_pieces sep cs, hp, ht, List.intercalate_singleton, h]
  · right
    have hinit : (pieces sep cs).dropLast ≠ [] := by
      intro hd
      apply ht
      rw [← List.length_eq_zero_iff, List.length_tail, ← List.length_dropLast, hd]
      rfl
    have hcs : cs ++ [sep] = (pieces sep cs).dropLast.flatMap (· ++ [sep]) ++ [sep] := by
      rw [← flatMap_pieces, ← List.dropLast_append_getLast? [] h, List.flatMap_append,
        List.dropLast_concat]
      rfl
    rw [List.append_cancel_right hcs, ← List.dropLast_append_getLast hinit, List.flatMap_append,
      List.flatMap_singleton, ← List.append_assoc, List.getLast?_concat]
    rfl

theorem trimEnd_dropReturn (l : List Char) :
    trimEnd (if l.getLast? = some '\r' then l.dropLast else l) = trimEnd l := by
  split
  · next h =>
    have hl : l = l.dropLast ++ ['\r'] := (List.dropLast_append_getLast? '\r' h).symm
    rw [hl, trimEnd_append_blank (by decide), List.dropLast_concat]
  · rfl

/-- The lines of a text that does not end in a blank are the stretches between its line feeds, but
for blanks at their ends. -/
theorem trimEnd_lines (h : c ∈ cs.getLast?) (hc : isBlank c = false) :
    (lines cs).map trimEnd = (pieces '\n' cs).map trimEnd := by
  obtain ⟨l, hl⟩ : ∃ l, (pieces '\n' cs).getLast? = some l :=
    ⟨_, List.getLast?_eq_some_getLast (pieces_ne_nil '\n' cs)⟩
  have hne : l ≠ [] := by
    rintro rfl
    rcases of_nil_mem_getLast?_pieces hl with rfl | hn
    · cases h
    · have hcn : c = '\n' := Option.mem_unique h hn
      rw [hcn] at hc
      exact absurd hc (by decide)
  have hlines : lines cs = (pieces '\n' cs).dropLast.map
      (fun l => if l.getLast? = some '\r' then l.dropLast else l) ++ [l] := by
    unfold lines
    dsimp only
    rw [hl]
    obtain ⟨d, rest, rfl⟩ := List.exists_cons_of_ne_nil hne
    rfl
  rw [hlines, List.map_append, List.map_map, List.map_singleton]
  simp only [Function.comp_def, trimEnd_dropReturn]
  rw [← List.map_singleton, ← List.map_append, List.dropLast_append_getLast? l hl]

end Text

namespace Code

open Text

/-- A paragraph with nothing in it but white space. -/
def isBlankText (p : String) : Bool := p.toList.all isBlank

/-- The line of documentation for a stretch of text, without the blanks at its end. -/
def lineOf (l : List Char) : String := docLine (String.ofList (trimEnd l))

/-- The lines of a paragraph once it has been trimmed. -/
def paragraphLines (p : String) : List String := (lines (trim p.toList)).map lineOf

/-- The paragraphs that are left of a description. -/
def docParagraphs (paragraphs : List String) : List String :=
  paragraphs.filter (!isBlankText ·)

variable {paragraphs : List String} {p line : String}

theorem docLines_eq (paragraphs : List String) :
    docLines paragraphs = (lines (docChars (paragraphs.map String.toList))).map lineOf := rfl

theorem trim_eq_nil_iff_isBlankText : trim p.toList = [] ↔ isBlankText p = true :=
  trim_eq_nil_iff

theorem docChars_eq (paragraphs : List String) :
    docChars (paragraphs.map String.toList) =
      ['\n', '\n'].intercalate ((docParagraphs paragraphs).map fun p => trim p.toList) := by
  have hblank (p : String) : (!(trim p.toList).isEmpty) = !isBlankText p := by
    rw [Bool.eq_iff_iff]
    simp [trim_eq_nil_iff_isBlankText]
  rw [docChars, List.map_map, List.filter_map, docParagraphs]
  simp only [Function.comp_def, hblank]

theorem exists_getLast_trim (h : isBlankText p = false) :
    ∃ c ∈ (trim p.toList).getLast?, isBlank c = false := by
  have hne : trim p.toList ≠ [] := by
    rw [ne_eq, trim_eq_nil_iff_isBlankText, h]
    exact Bool.false_ne_true
  have hl := List.getLast?_eq_some_getLast hne
  exact ⟨_, hl, isBlank_getLast_trimEnd hl⟩

theorem exists_getLast_intercalate {sep : List Char} {ts : List (List Char)} (hne : ts ≠ [])
    (h : ∀ t ∈ ts, ∃ c ∈ t.getLast?, isBlank c = false) :
    ∃ c ∈ (sep.intercalate ts).getLast?, isBlank c = false := by
  induction ts with
  | nil => exact absurd rfl hne
  | cons t ts ih =>
    obtain ⟨ht, hts⟩ := List.forall_mem_cons.1 h
    cases ts with
    | nil => rwa [List.intercalate_singleton]
    | cons u us =>
      obtain ⟨c, hc, hblank⟩ := ih (List.cons_ne_nil u us) hts
      refine ⟨c, ?_, hblank⟩
      rw [List.intercalate_cons_cons, List.getLast?_append, Option.mem_def.1 hc]
      rfl

/-- A text that does not end in a blank has the lines that its stretches between line feeds make. -/
theorem lineOf_lines {cs : List Char} (h : ∃ c ∈ cs.getLast?, isBlank c = false) :
    (lines cs).map lineOf = (pieces '\n' cs).map lineOf := by
  obtain ⟨c, hc, hblank⟩ := h
  have htrim := congrArg (List.map fun l => docLine (String.ofList l)) (trimEnd_lines hc hblank)
  rwa [List.map_map, List.map_map] at htrim

/-- Two line feeds between paragraphs leave one empty line between their lines. -/
theorem lineOf_pieces_intercalate {ts : List (List Char)} (hne : ts ≠ []) :
    (pieces '\n' (['\n', '\n'].intercalate ts)).map lineOf =
      [""].intercalate (ts.map fun t => (pieces '\n' t).map lineOf) := by
  induction ts with
  | nil => exact absurd rfl hne
  | cons t ts ih =>
    cases ts with
    | nil => rw [List.intercalate_singleton, List.map_singleton, List.intercalate_singleton]
    | cons u us =>
      have hblank : lineOf [] = "" := rfl
      have htext : t ++ ['\n', '\n'] ++ ['\n', '\n'].intercalate (u :: us) =
          t ++ '\n' :: '\n' :: ['\n', '\n'].intercalate (u :: us) := by
        rw [List.append_assoc]
        rfl
      rw [List.intercalate_cons_cons, htext, pieces_append_sep, pieces_cons_sep, List.map_append,
        List.map_cons, hblank, ih (List.cons_ne_nil u us)]
      simp only [List.map_cons, List.intercalate_cons_cons, List.append_assoc,
        List.singleton_append]

/-- A description that is not blank is cut at its line feeds. -/
theorem docLines_eq_pieces (hne : docParagraphs paragraphs ≠ []) :
    docLines paragraphs = (pieces '\n' (docChars (paragraphs.map String.toList))).map lineOf := by
  rw [docLines_eq, docChars_eq]
  apply lineOf_lines
  apply exists_getLast_intercalate
  · rwa [ne_eq, List.map_eq_nil_iff]
  · intro t ht
    obtain ⟨p, hp, rfl⟩ := List.mem_map.1 ht
    exact exists_getLast_trim (by simpa using (List.mem_filter.1 hp).2)

theorem docLines_of_blank (h : docParagraphs paragraphs = []) : docLines paragraphs = [] := by
  rw [docLines_eq, docChars_eq, h]
  rfl

theorem docLines_eq_nil_iff :
    docLines paragraphs = [] ↔ ∀ p ∈ paragraphs, isBlankText p = true := by
  have hnone : docParagraphs paragraphs = [] ↔ ∀ p ∈ paragraphs, isBlankText p = true := by
    simp [docParagraphs, List.filter_eq_nil_iff]
  rw [← hnone]
  refine ⟨fun h => ?_, docLines_of_blank⟩
  by_contra hne
  rw [docLines_eq_pieces hne, List.map_eq_nil_iff] at h
  exact pieces_ne_nil '\n' _ h

theorem docLines_eq_intercalate (paragraphs : List String) :
    docLines paragraphs = [""].intercalate ((docParagraphs paragraphs).map paragraphLines) := by
  by_cases hne : docParagraphs paragraphs = []
  · rw [docLines_of_blank hne, hne]
    rfl
  · have hne' : ((docParagraphs paragraphs).map fun p => trim p.toList) ≠ [] := by
      rwa [ne_eq, List.map_eq_nil_iff]
    rw [docLines_eq_pieces hne, docChars_eq, lineOf_pieces_intercalate hne', List.map_map]
    congr 1
    apply List.map_congr_left
    intro p hp
    have hblank : isBlankText p = false := by simpa using (List.mem_filter.1 hp).2
    exact (lineOf_lines (exists_getLast_trim hblank)).symm

theorem toList_lineOf (l : List Char) :
    (lineOf l).toList = if trimEnd l = [] then [] else ' ' :: trimEnd l := by
  unfold lineOf docLine
  cases h : trimEnd l with
  | nil => rfl
  | cons c rest => simp

/-- A line is empty, or its text behind one blank. -/
theorem lineOf_cases (l : List Char) :
    lineOf l = "" ∨ ∃ text c, lineOf l = " " ++ text ∧ text.toList = trimEnd l ∧
      c ∈ text.toList.getLast? ∧ isBlank c = false := by
  by_cases h : trimEnd l = []
  · left
    rw [← String.toList_inj, toList_lineOf, if_pos h]
    rfl
  · have hl := List.getLast?_eq_some_getLast h
    refine .inr ⟨String.ofList (trimEnd l), _, ?_, String.toList_ofList, ?_,
      isBlank_getLast_trimEnd hl⟩
    · rw [← String.toList_inj, toList_lineOf, if_neg h]
      simp
    · rw [String.toList_ofList]
      exact hl

theorem mem_of_mem_trimEnd {c : Char} {l : List Char} (h : c ∈ trimEnd l) : c ∈ l := by
  rw [trimEnd, List.mem_reverse] at h
  exact List.mem_reverse.1 ((List.dropWhile_sublist _).mem h)

theorem lineFeed_notMem_lineOf {l : List Char} (h : '\n' ∉ l) : '\n' ∉ (lineOf l).toList := by
  rw [toList_lineOf]
  split
  · exact List.not_mem_nil
  · rw [List.mem_cons, not_or]
    exact ⟨by decide, fun hm => h (mem_of_mem_trimEnd hm)⟩

theorem exists_of_mem_docLines (h : line ∈ docLines paragraphs) :
    ∃ l, '\n' ∉ l ∧ lineOf l = line := by
  by_cases hne : docParagraphs paragraphs = []
  · rw [docLines_of_blank hne] at h
    cases h
  · rw [docLines_eq_pieces hne] at h
    obtain ⟨l, hl, rfl⟩ := List.mem_map.1 h
    exact ⟨l, notMem_of_mem_pieces hl, rfl⟩

/-- A line is written as a line comment, and as nothing else. -/
theorem docPieces_lineOf (marks : DocMarks) {l : List Char} (h : '\n' ∉ l) :
    docPieces marks (lineOf l) = [Layout.word (marks.line ++ lineOf l), Layout.hard] := by
  have htrim : trimSpaces (lineOf l).toList = (lineOf l).toList := by
    rcases lineOf_cases l with he | ⟨text, c, he, -, hc, hblank⟩
    · rw [he]
      rfl
    · have hc' : ∃ rest, (lineOf l).toList.reverse = c :: rest := by
        rw [he, String.toList_append, List.reverse_append]
        rw [← List.head?_reverse] at hc
        obtain ⟨rest, hr⟩ := List.head?_eq_some_iff.1 hc
        exact ⟨_, by rw [hr, List.cons_append]⟩
      obtain ⟨rest, hr⟩ := hc'
      have hspace : (c == ' ') = false := by
        rw [beq_eq_false_iff_ne]
        rintro rfl
        exact absurd hblank (by decide)
      rw [trimSpaces, hr, List.dropWhile_cons, hspace, if_neg Bool.false_ne_true, ← hr,
        List.reverse_reverse]
  have hn : (lineOf l).toList.contains '\n' = false := by
    rw [Bool.eq_false_iff, ne_eq, List.contains_iff_mem]
    exact lineFeed_notMem_lineOf h
  rw [docPieces, hn, htrim, String.ofList_toList]
  rfl

theorem filter_lineOf (l : List Char) :
    (lineOf l).toList.filter (!isBlank ·) = l.filter (!isBlank ·) := by
  rw [← filter_trimEnd l, toList_lineOf]
  split
  · next h => rw [h]
  · exact List.filter_cons_of_neg (by decide)

theorem filter_intercalate_blank {sep : List Char} (hs : sep.filter (!isBlank ·) = [])
    (ts : List (List Char)) :
    (sep.intercalate ts).filter (!isBlank ·) = ts.flatMap (·.filter (!isBlank ·)) := by
  induction ts with
  | nil => rfl
  | cons t ts ih =>
    cases ts with
    | nil => rw [List.intercalate_singleton, List.flatMap_singleton]
    | cons u us =>
      rw [List.intercalate_cons_cons, List.filter_append, List.filter_append, hs, List.append_nil,
        ih, List.flatMap_cons (x := t)]

/-- The paragraphs that go hold nothing but blanks. -/
theorem flatMap_filter_docParagraphs (paragraphs : List String) :
    (docParagraphs paragraphs).flatMap (fun p => p.toList.filter (!isBlank ·)) =
      paragraphs.flatMap fun p => p.toList.filter (!isBlank ·) := by
  induction paragraphs with
  | nil => rfl
  | cons p ps ih =>
    cases h : isBlankText p with
    | true =>
      have hblank : p.toList.filter (!isBlank ·) = [] := by
        rw [← filter_trim, trim_eq_nil_iff_isBlankText.2 h]
        rfl
      rw [docParagraphs, List.filter_cons_of_neg (by simp [h]), List.flatMap_cons, hblank]
      exact ih
    | false =>
      rw [docParagraphs, List.filter_cons_of_pos (by simp [h]), List.flatMap_cons,
        List.flatMap_cons]
      exact congrArg _ ih

theorem flatMap_filter_pieces (cs : List Char) :
    ((pieces '\n' cs).map lineOf).flatMap (fun l => l.toList.filter (!isBlank ·)) =
      cs.filter (!isBlank ·) := by
  -- a line feed is a blank itself
  have hfeed : ∀ c, (!isBlank c && decide (c ≠ '\n')) = !isBlank c := by
    intro c
    by_cases hc : c = '\n'
    · rw [hc]
      rfl
    · simp [hc]
  rw [List.flatMap_map]
  simp only [filter_lineOf]
  rw [List.flatMap_def, ← List.filter_flatten, flatten_pieces, List.filter_filter]
  simp only [hfeed]

/-- Blanks apart, the lines hold just the characters of the description, in their order. -/
theorem flatMap_filter_docLines (paragraphs : List String) :
    (docLines paragraphs).flatMap (fun l => l.toList.filter (!isBlank ·)) =
      paragraphs.flatMap fun p => p.toList.filter (!isBlank ·) := by
  rw [← flatMap_filter_docParagraphs paragraphs]
  by_cases hne : docParagraphs paragraphs = []
  · rw [docLines_of_blank hne, hne]
  · rw [docLines_eq_pieces hne, flatMap_filter_pieces, docChars_eq,
      filter_intercalate_blank (by decide), List.flatMap_map]
    simp only [filter_trim]

/-- A description is documented by nothing if all its paragraphs are blank, and else by the lines of
those that are not, with one empty line between two of these. A line holds no line feed, so it is
written as one comment; it is empty, or stands behind one blank. White space apart, the lines hold
just what the description does. -/
theorem docLines_paragraphs (paragraphs : List String) :
    (docLines paragraphs = [] ↔ ∀ p ∈ paragraphs, isBlankText p = true) ∧
    docLines paragraphs =
      [""].intercalate ((paragraphs.filter (!isBlankText ·)).map paragraphLines) ∧
    (∀ line ∈ docLines paragraphs, '\n' ∉ line.toList ∧
      (line = "" ∨ ∃ text, line = " " ++ text ∧ text ≠ "" ∧ trimEnd text.toList = text.toList) ∧
      ∀ marks : DocMarks,
        docPieces marks line = [Layout.word (marks.line ++ line), Layout.hard]) ∧
    (docLines paragraphs).flatMap (fun line => line.toList.filter (!isBlank ·)) =
      paragraphs.flatMap fun p => p.toList.filter (!isBlank ·) := by
  refine ⟨docLines_eq_nil_iff, docLines_eq_intercalate paragraphs, fun line hline => ?_,
    flatMap_filter_docLines paragraphs⟩
  obtain ⟨l, hl, rfl⟩ := exists_of_mem_docLines hline
  refine ⟨lineFeed_notMem_lineOf hl, ?_, fun marks => docPieces_lineOf marks hl⟩
  rcases lineOf_cases l with he | ⟨text, c, he, -, hc, hblank⟩
  · exact .inl he
  · refine .inr ⟨text, he, ?_, trimEnd_eq_self fun d hd => ?_⟩
    · rintro rfl
      cases hc
    · rw [Option.mem_unique hd hc]
      exact hblank

/-- A paragraph with an indented and an empty line, one with nothing to show, and one of a line. -/
def annotated : List String := ["First.\r\n  code\t\n\n end ", " \u00a0\n", "Second."]

theorem docLines_paragraphs_annotated :
    docLines annotated = [" First.", "   code", "", "  end", "", " Second."] ∧
    ("   code" ∈ docLines annotated ∧
      docPieces outerMarks "   code" = [Layout.word "///   code", Layout.hard]) ∧
    isBlankText " \u00a0\n" = true ∧ docLines [" \u00a0\n"] = [] := by
  have hlines : docLines annotated = [" First.", "   code", "", "  end", "", " Second."] := by
    decide +kernel
  have hcode : "   code" ∈ docLines annotated := by
    rw [hlines]
    decide
  obtain ⟨-, -, hline, -⟩ := docLines_paragraphs annotated
  obtain ⟨hnil, -⟩ := docLines_paragraphs [" \u00a0\n"]
  have hblank : isBlankText " \u00a0\n" = true := by decide
  refine ⟨hlines, ⟨hcode, (hline _ hcode).2.2 outerMarks⟩, hblank, hnil.2 fun p hp => ?_⟩
  rw [List.mem_singleton.1 hp]
  exact hblank

end Code

end BotBindings
