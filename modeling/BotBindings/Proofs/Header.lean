import BotBindings.Proofs.Document
import BotBindings.Proofs.Pieces
import BotBindings.Proofs.Render

namespace BotBindings

namespace Code

open Text

variable {cs rest : List Char}

theorem length_of_blockEnd? {depth : Nat} (h : blockEnd? depth cs = some rest) :
    rest.length < cs.length := by
  fun_induction blockEnd? depth cs <;> grind

/-- It is enough to go on for as many characters as there are. -/
theorem skipTriviaWithin_of_le {n m : Nat} (hn : cs.length ≤ n) (hm : cs.length ≤ m) :
    skipTriviaWithin n cs = skipTriviaWithin m cs := by
  have hnil (k : Nat) : skipTriviaWithin k [] = [] := by cases k <;> rfl
  induction n generalizing cs m with
  | zero => rw [List.length_eq_zero_iff.1 (Nat.le_zero.1 hn), hnil, hnil]
  | succ n ih =>
    cases cs with
    | nil => rw [hnil, hnil]
    | cons c cs =>
      obtain ⟨m, rfl⟩ := Nat.exists_eq_succ_of_ne_zero (Nat.ne_of_gt (Nat.lt_of_lt_of_le
        (Nat.succ_pos _) hm))
      have hn : cs.length ≤ n := Nat.le_of_succ_le_succ hn
      have hm : cs.length ≤ m := Nat.le_of_succ_le_succ hm
      have hd : (cs.dropWhile (· ≠ '\n')).length ≤ cs.length := List.length_dropWhile_le _ _
      have hb : ∀ rest, blockEnd? 0 (c :: cs) = some rest → rest.length ≤ cs.length :=
        fun rest h => Nat.le_of_lt_succ (length_of_blockEnd? h)
      -- each branch goes on with no more than is behind `c`
      unfold skipTriviaWithin
      split_ifs
      · exact ih hn hm
      · exact ih (hd.trans hn) (hd.trans hm)
      · cases hr : blockEnd? 0 (c :: cs) with
        | none => rfl
        | some rest => exact ih ((hb rest hr).trans hn) ((hb rest hr).trans hm)
      · rfl

theorem skipTrivia_blank {c : Char} (h : isCodeBlank c = true) :
    skipTrivia (c :: rest) = skipTrivia rest := if_pos h

theorem skipTrivia_lineComment {c : Char} (hc : isCodeBlank c = false)
    (h : beginsLineComment (c :: rest) = true) :
    skipTrivia (c :: rest) = skipTrivia (rest.dropWhile (· ≠ '\n')) := by
  have hd : (rest.dropWhile (· ≠ '\n')).length ≤ rest.length := List.length_dropWhile_le _ _
  unfold skipTrivia
  rw [List.length_cons, skipTriviaWithin, hc, h]
  exact skipTriviaWithin_of_le hd le_rfl

/-- Whether a line begins with something does not hang on what follows the line. -/
theorem beginsWith_line {front l : List Char} (h : '\n' ∉ front) :
    beginsWith front (l ++ '\n' :: rest) = beginsWith front l := by
  induction front generalizing l with
  | nil => rfl
  | cons f front ih =>
    obtain ⟨hf, hfront⟩ := not_or.1 (fun hm => h (List.mem_cons.2 hm))
    cases l with
    | nil =>
      have hb : behind? (f :: front) ('\n' :: rest) = none := if_neg hf
      rw [List.nil_append, beginsWith, hb]
      rfl
    | cons c l =>
      unfold beginsWith at ih ⊢
      rw [List.cons_append, behind?, behind?]
      split
      · exact ih hfront
      · rfl

theorem skipTrivia_line {l : List Char} (hl : '\n' ∉ l)
    (h : l = [] ∨ beginsLineComment l = true) :
    skipTrivia (l ++ '\n' :: rest) = skipTrivia rest := by
  have hfeed : skipTrivia ('\n' :: rest) = skipTrivia rest := skipTrivia_blank (by decide)
  rcases h with rfl | h
  · exact hfeed
  · have hline : beginsLineComment (l ++ '\n' :: rest) = true := by
      rw [← h]
      unfold beginsLineComment
      rw [beginsWith_line (by decide), beginsWith_line (by decide), beginsWith_line (by decide),
        beginsWith_line (by decide)]
    cases l with
    | nil => cases h
    | cons c l =>
      have hc : isCodeBlank c = false := by
        by_cases he : c = '/'
        · rw [he]
          decide
        · rw [beginsLineComment, beginsWith_of_ne he] at h
          cases h
      have hd : (l ++ '\n' :: rest).dropWhile (· ≠ '\n') = '\n' :: rest := by
        rw [List.dropWhile_append_of_pos fun x hx => ?_]
        · rfl
        · exact decide_eq_true fun he => hl (he ▸ List.mem_cons_of_mem c hx)
      have hskip : skipTrivia (c :: (l ++ '\n' :: rest)) =
          skipTrivia ((l ++ '\n' :: rest).dropWhile (· ≠ '\n')) := skipTrivia_lineComment hc hline
      rw [List.cons_append, hskip, hd, hfeed]

theorem skipTrivia_lines {ls : List (List Char)} (hl : ∀ l ∈ ls, '\n' ∉ l)
    (h : ∀ l ∈ ls, l = [] ∨ beginsLineComment l = true) :
    skipTrivia (ls.flatMap (· ++ ['\n']) ++ rest) = skipTrivia rest := by
  induction ls with
  | nil => rfl
  | cons l ls ih =>
    obtain ⟨hl, hls⟩ := List.forall_mem_cons.1 hl
    obtain ⟨h, hs⟩ := List.forall_mem_cons.1 h
    rw [List.flatMap_cons, List.append_assoc, List.append_assoc, List.singleton_append,
      skipTrivia_line hl h, ih hls hs]

/-- A line that is empty or a comment. -/
def IsRemark (line : List Char) : Prop := line = [] ∨ ['/', '/'] <+: line

end Code

namespace Crate

open Text Code

def notice : String := "// This code was automatically generated by tgbind. Do not edit manually."

def revision : String := "// Schema revision: "

/-- The lines of a version behind its first. -/
def laterLines (version : String) : List (List Char) := (pieces '\n' version.toList).tail

/-- The lines of the header that name the version. -/
def versionLines (version : String) : List (List Char) :=
  (revision.toList ++ (pieces '\n' version.toList).headD []) :: laterLines version

def headerLines (version : Option String) : List (List Char) :=
  notice.toList :: (version.map versionLines).getD [] ++ [[]]

theorem pieces_revision (version : String) :
    pieces '\n' (revision ++ version).toList = versionLines version := by
  rw [String.toList_append]
  exact pieces_append (by decide) _

theorem toList_header (version : Option String) :
    (header version).toList = (headerLines version).flatMap (· ++ ['\n']) := by
  have hnotice : "// This code was automatically generated by tgbind. Do not edit manually.\n".toList =
      notice.toList ++ ['\n'] := by decide
  unfold header headerLines
  rw [String.toList_append, String.toList_append, hnotice]
  cases version with
  | none => rfl
  | some v =>
    have hv : (s!"// Schema revision: {v}\n").toList = (versionLines v).flatMap (· ++ ['\n']) := by
      rw [← pieces_revision, flatMap_pieces]
      exact String.toList_append
    dsimp only
    rw [hv]
    simp

theorem notMem_of_mem_headerLines {version : Option String} {l : List Char}
    (h : l ∈ headerLines version) : '\n' ∉ l := by
  unfold headerLines at h
  simp only [List.cons_append, List.mem_cons, List.mem_append, List.not_mem_nil, or_false] at h
  rcases h with rfl | h | rfl
  · decide
  · cases version with
    | none => cases h
    | some v =>
      rw [Option.map_some, Option.getD_some, ← pieces_revision] at h
      exact notMem_of_mem_pieces h
  · exact List.not_mem_nil

theorem pieces_header (version : Option String) :
    pieces '\n' (header version).toList = headerLines version ++ [[]] := by
  rw [toList_header, pieces_flatMap fun _ => notMem_of_mem_headerLines]

/-- What is asked of the lines of a header is asked of the later lines of its version, if all other
lines have it. -/
theorem forall_mem_headerLines {version : Option String} {P : List Char → Prop} (hnil : P [])
    (hnotice : P notice.toList) (hrevision : ∀ l, P (revision.toList ++ l)) :
    (∀ l ∈ headerLines version, P l) ↔ ∀ v ∈ version, ∀ l ∈ laterLines v, P l := by
  cases version with
  | none => simp [headerLines, hnil, hnotice]
  | some v => simp [headerLines, versionLines, hnil, hnotice, hrevision, or_imp, forall_and]

theorem isRemark_header_iff {version : Option String} :
    (∀ l ∈ pieces '\n' (header version).toList, IsRemark l) ↔
      ∀ v ∈ version, ∀ l ∈ laterLines v, IsRemark l := by
  have hempty : IsRemark [] := .inl rfl
  have hrevision (l : List Char) : IsRemark (revision.toList ++ l) :=
    .inr ((show ['/', '/'] <+: revision.toList by decide).trans (List.prefix_append _ _))
  rw [← forall_mem_headerLines hempty (.inr (by decide)) hrevision, pieces_header,
    List.forall_mem_append]
  exact and_iff_left fun l hl => List.mem_singleton.1 hl ▸ hempty

theorem skipTrivia_header {version : Option String}
    (h : ∀ v ∈ version, ∀ l ∈ laterLines v, l = [] ∨ beginsLineComment l = true) (code : String) :
    skipTrivia (header version ++ code).toList = skipTrivia code.toList := by
  have hlines : ∀ l ∈ headerLines version, l = [] ∨ beginsLineComment l = true :=
    (forall_mem_headerLines (.inl rfl) (.inr (by decide)) fun l => .inr rfl).2 h
  rw [String.toList_append, toList_header]
  exact skipTrivia_lines (fun _ => notMem_of_mem_headerLines) hlines

variable {b : Bindings} {files : List (String × String)}

theorem fileText_eq_ok {version : Option String} {items : List Item} {text : String}
    (h : fileText version items = .ok text) :
    checkItems items = .ok () ∧ text = header version ++ printItems items := by
  unfold fileText at h
  split at h
  · cases h
  · next hc => exact ⟨hc, (Except.ok.inj h).symm⟩

/-- Each file is the text of a module. -/
theorem fileText_of_render (h : render b = .ok files) :
    ∃ ms, modules b = .ok ms ∧
      List.Forall₂ (fun m f => m.1 = f.1 ∧ fileText b.metadata.version m.2 = .ok f.2) ms files := by
  cases hms : modules b with
  | error f =>
    rw [render, hms] at h
    cases h
  | ok ms =>
    rw [render_eq hms, mapM_eq_ok_iff] at h
    refine ⟨ms, rfl, h.imp fun m f hf => ?_⟩
    obtain ⟨text, ht, hf⟩ := bind_eq_ok_iff.1 hf
    cases hf
    exact ⟨rfl, ht⟩

end Crate

open Schema Code Crate Text

/-- The lines of a header are empty or comments just if the later lines of its version are. Behind
the header a file is the module that has passed the check, and where the later lines are empty or
comments that document nothing, a reader skips the header and comes to the module. -/
theorem Crate.fileText_header (version : Option String) :
    ((∀ l ∈ pieces '\n' (header version).toList, IsRemark l) ↔
      ∀ v ∈ version, ∀ l ∈ laterLines v, IsRemark l) ∧
    (∀ items text, fileText version items = .ok text →
      checkItems items = .ok () ∧ text = header version ++ printItems items ∧
      ((∀ v ∈ version, ∀ l ∈ laterLines v, l = [] ∨ beginsLineComment l = true) →
        skipTrivia text.toList = skipTrivia (printItems items).toList)) ∧
    ∀ (d : Document) (b : Bindings) (files : List (String × String)), d.version = version →
      (Bindings.ofDocument (some d)).1 = .ok b → render b = .ok files →
      ∃ ms, modules b = .ok ms ∧
        List.Forall₂ (fun m f => m.1 = f.1 ∧ fileText version m.2 = .ok f.2) ms files := by
  refine ⟨isRemark_header_iff, fun items text h => ?_, fun d b files hv hb hf => ?_⟩
  · obtain ⟨hc, rfl⟩ := fileText_eq_ok h
    exact ⟨hc, rfl, fun hl => skipTrivia_header hl _⟩
  · obtain ⟨-, -, rfl⟩ := Bindings.ofDocument_eq_ok_iff.1 hb
    subst hv
    exact fileText_of_render hf

/-- The version goes on with a comment. -/
def annotated : Document where
  version := some "9.0\n// of May"
  types := ⟨[], List.nodup_nil⟩
  methods := ⟨[], List.nodup_nil⟩

theorem Crate.fileText_header_annotated :
    ∃ b files m f, (Bindings.ofDocument (some annotated)).1 = .ok b ∧ render b = .ok files ∧
      f ∈ files ∧ f.1 = "lib.rs" ∧ f.2 = header annotated.version ++ printItems m ∧
      (∀ l ∈ pieces '\n' (header annotated.version).toList, IsRemark l) ∧
      skipTrivia f.2.toList = skipTrivia (printItems m).toList := by
  have h : (Bindings.ofDocument (some annotated)).1 = .ok annotated.bindings :=
    Bindings.ofDocument_of_check rfl (by decide)
  obtain ⟨files, hr⟩ : ∃ files, render annotated.bindings = .ok files :=
    exists_eq_ok (by decide +kernel)
  obtain ⟨hremarks, htexts, hmodules⟩ := fileText_header annotated.version
  obtain ⟨ms, -, hfiles⟩ := hmodules _ _ _ rfl h hr
  have hnames : files.map Prod.fst = ["lib.rs", "bot.rs", "types.rs", "methods.rs"] :=
    names_of_modules hr
  cases hfiles with
  | nil => cases hnames
  | @cons m f _ rest hf _ =>
    obtain ⟨-, htext, hskip⟩ := htexts _ _ hf.2
    have hlater : ∀ v ∈ annotated.version, ∀ l ∈ laterLines v, l = "// of May".toList := by
      rintro v ⟨⟩
      decide
    refine ⟨_, _, m.2, f, h, hr, List.mem_cons_self, (List.cons.inj hnames).1, htext,
      hremarks.2 fun v hv l hl => ?_, hskip fun v hv l hl => ?_⟩
    · rw [hlater v hv l hl]
      exact .inr (by decide)
    · rw [hlater v hv l hl]
      exact .inr (by decide)

/-- The version goes on with an item. -/
def escaped : Document where
  version := some "9.0\nmod extra;"
  types := ⟨[], List.nodup_nil⟩
  methods := ⟨[], List.nodup_nil⟩

/-- Not every file is behind a header of comments. -/
theorem Bindings.exists_escaped_version :
    ¬ ∀ (d : Document) (b : Bindings) (files : List (String × String)),
      (ofDocument (some d)).1 = .ok b → render b = .ok files →
      ∀ ms, modules b = .ok ms →
        List.Forall₂ (fun m f => ∃ head, f.2 = head ++ printItems m.2 ∧
          ∀ l ∈ pieces '\n' head.toList, IsRemark l) ms files := by
  intro hall
  have h : (ofDocument (some escaped)).1 = .ok escaped.bindings :=
    ofDocument_of_check rfl (by decide)
  obtain ⟨files, hr⟩ : ∃ files, render escaped.bindings = .ok files :=
    exists_eq_ok (by decide +kernel)
  obtain ⟨ms, hms, hfiles⟩ := fileText_of_render hr
  have hheads := hall _ _ _ h hr ms hms
  cases hfiles with
  | nil => cases names_of_modules hr
  | @cons m f _ _ hf _ =>
    obtain ⟨-, htext⟩ := fileText_eq_ok hf.2
    obtain ⟨⟨head, hhead, hlines⟩, -⟩ := List.forall₂_cons.1 hheads
    have he : head = header (some "9.0\nmod extra;") := by
      rw [htext, ← String.toList_inj, String.toList_append, String.toList_append,
        List.append_cancel_right_eq] at hhead
      exact String.toList_inj.1 hhead.symm
    rw [he] at hlines
    have hline : IsRemark "mod extra;".toList :=
      isRemark_header_iff.1 hlines _ rfl _ (by decide)
    rcases hline with hline | hline
    · cases hline
    · exact absurd hline (by decide)

end BotBindings
