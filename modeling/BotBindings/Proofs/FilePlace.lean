import BotBindings.Proofs.FileName
import BotBindings.Proofs.FileTree

namespace BotBindings

variable {t t' : Tree} {path name p : String} {place dir : List String} {content : List UInt8}

namespace Tree

/-- The path means this place for a file. -/
def Means (t : Tree) (p : String) (place : List String) : Prop :=
  ∃ dir name, t.spot p = .ok ⟨dir, some name⟩ ∧ place = dir ++ [name]

theorem LeadsTo.means (h : t.LeadsTo p dir name) : t.Means p (dir ++ [name]) :=
  ⟨dir, name, h.spot, rfl⟩

theorem Means.exists_leadsTo (h : t.Means p place) :
    ∃ dir name, t.LeadsTo p dir name ∧ place = dir ++ [name] := by
  obtain ⟨dir, name, hspot, hplace⟩ := h
  exact ⟨dir, name, leadsTo_of_spot hspot, hplace⟩

theorem Means.mono (h : t.Means p place) (hk : KeepsDirectories t t') : t'.Means p place := by
  obtain ⟨dir, name, hl, rfl⟩ := h.exists_leadsTo
  exact (hl.mono hk).means

theorem Means.unique {place' : List String} (h : t.Means p place) (h' : t.Means p place') :
    place' = place := by
  obtain ⟨dir, name, hl, rfl⟩ := h.exists_leadsTo
  obtain ⟨dir', name', hl', rfl⟩ := h'.exists_leadsTo
  obtain ⟨rfl, rfl⟩ := hl.unique hl'
  rfl

theorem Means.read_of_none (h : t.Means p place) (hs : Path.endsInSlash p = false)
    (he : t.entry? place = none) : t.read p = .error .notFound := by
  obtain ⟨dir, name, hl, rfl⟩ := h.exists_leadsTo
  exact hl.read_of_none hs he

/-- A path with a file name that leads to a file leads to that name. -/
theorem LeadsTo.eq_fileName {last : String} (h : t.LeadsTo path dir last)
    (hname : Path.fileName? path = some name) :
    last = name ∧ (Path.names path).dropLast = Path.namesOf (Path.front path) := by
  obtain ⟨k, hk⟩ := Path.names_of_fileName? hname
  have hlast := h.last
  rw [hk] at hlast ⊢
  cases k with
  | zero =>
    rw [List.replicate_zero, List.getLast?_concat] at hlast
    rw [List.replicate_zero, List.dropLast_concat]
    exact ⟨(Option.some.inj hlast).symm, rfl⟩
  | succ k =>
    rw [List.replicate_succ', ← List.cons_append, ← List.append_assoc,
      List.getLast?_concat] at hlast
    exact absurd (Option.some.inj hlast).symm h.plain.1

theorem LeadsTo.eq_temporaryName {last : String} (h : t.LeadsTo (Path.temporary path) dir last)
    (hname : Path.fileName? path = some name) :
    last = Path.temporaryName name ∧
      (Path.names (Path.temporary path)).dropLast = Path.namesOf (Path.front path) := by
  have hlast := h.last
  rw [Path.names_temporary hname] at hlast ⊢
  rw [List.getLast?_concat] at hlast
  rw [List.dropLast_concat]
  exact ⟨(Option.some.inj hlast).symm, rfl⟩

/-- A name that is entered without coming to a directory is the name of a file. -/
theorem eq_append_of_enter {last : String} (h : t.enter dir last = .ok place)
    (hplace : t.entry? place ≠ some .directory) (hlast : last ≠ "..") :
    last ≠ "." ∧ last.utf8ByteSize ≤ nameLimit ∧ place = dir ++ [last] := by
  have hd := directory_of_enter h
  have hdot : last ≠ "." := by
    rintro rfl
    rw [enter, if_neg (not_not_intro hd), if_pos rfl] at h
    cases h
    exact hplace hd
  rw [enter, if_neg (not_not_intro hd), if_neg hdot, if_neg hlast] at h
  split at h
  · cases h
  · next hshort =>
    split at h
    · cases h
    · cases h
      exact ⟨hdot, Nat.not_lt.1 hshort, rfl⟩

/-- What is found by a path with a file name is no directory only if the path leads to it. -/
theorem leadsTo_of_find (hname : Path.fileName? p = some name) (h : t.find p = .ok place)
    (hplace : t.entry? place ≠ some .directory) :
    Path.endsInSlash p = false ∧ ∃ dir last, t.LeadsTo p dir last ∧ place = dir ++ [last] := by
  obtain ⟨hcheck, h⟩ := unit_bind_eq_ok_iff.1 h
  obtain ⟨place', hfold, h⟩ := bind_eq_ok_iff.1 h
  split at h
  · cases h
  · next hs =>
    cases h
    have hslash : Path.endsInSlash p = false := by simpa [hplace] using hs
    obtain ⟨k, hk⟩ := Path.names_of_fileName? hname
    obtain ⟨names, last, hnames, hdots⟩ : ∃ names last, Path.names p = names ++ [last] ∧
        last ≠ ".." := by
      cases k with
      | zero => exact ⟨_, name, hk, (Path.isFileName_of_fileName? hname).1.ne_dots⟩
      | succ k =>
        refine ⟨Path.namesOf (Path.front p) ++ name :: List.replicate k ".", ".", ?_, by decide⟩
        rw [hk, List.replicate_succ', List.append_assoc, List.cons_append]
    rw [hnames, List.foldlM_append] at hfold
    obtain ⟨dir, habove, hfold⟩ := bind_eq_ok_iff.1 hfold
    have henter : t.enter dir last = .ok place := (bind_pure (t.enter dir last)).symm.trans hfold
    obtain ⟨hdot, hshort, rfl⟩ := eq_append_of_enter henter hplace hdots
    refine ⟨hslash, dir, last, ?_, rfl⟩
    refine ⟨hcheck, ?_, directory_of_enter henter, ?_, ⟨hdot, hdots⟩, hshort⟩
    · rwa [hnames, List.dropLast_concat]
    · rw [hnames, List.getLast?_concat]

theorem read_eq_ok_iff (hname : Path.fileName? p = some name) :
    t.read p = .ok content ↔
      Path.endsInSlash p = false ∧ ∃ place, t.Means p place ∧ t.file? place = some content := by
  constructor
  · intro h
    obtain ⟨place, hfind, h⟩ := bind_eq_ok_iff.1 h
    split at h
    · next he =>
      cases h
      obtain ⟨hs, dir, last, hl, rfl⟩ := leadsTo_of_find hname hfind (by rw [he]; exact nofun)
      exact ⟨hs, _, hl.means, file?_of_entry? he⟩
    · cases h
  · rintro ⟨hs, place, hm, hf⟩
    obtain ⟨dir, last, hl, rfl⟩ := hm.exists_leadsTo
    exact hl.read_of_file? hs hf

/-- The temporary file is in the directory of the file. -/
theorem Means.eq_sibling {place' : List String} (h : t.Means path place)
    (h' : t.Means (Path.temporary path) place') (hname : Path.fileName? path = some name) :
    ∃ dir, place = dir ++ [name] ∧ place' = dir ++ [Path.temporaryName name] := by
  obtain ⟨dir, last, hl, rfl⟩ := h.exists_leadsTo
  obtain ⟨dir', last', hl', rfl⟩ := h'.exists_leadsTo
  obtain ⟨rfl, hnames⟩ := hl.eq_fileName hname
  obtain ⟨rfl, hnames'⟩ := hl'.eq_temporaryName hname
  -- both paths start at the same place and go through the same names
  have habove := hl.above
  have habove' := hl'.above
  rw [hnames, start] at habove
  rw [hnames', start, Path.isAbsolute_temporary hname, habove] at habove'
  obtain rfl := Except.ok.inj habove'
  exact ⟨_, rfl, rfl⟩

theorem Means.eq_directory_append (h : t.Means path place)
    (hname : Path.fileName? path = some name) : ∃ dir, place = dir ++ [name] := by
  obtain ⟨dir, last, hl, rfl⟩ := h.exists_leadsTo
  exact ⟨dir, by rw [(hl.eq_fileName hname).1]⟩

theorem Means.eq_directory_append_temporary (h : t.Means (Path.temporary path) place)
    (hname : Path.fileName? path = some name) :
    ∃ dir, place = dir ++ [Path.temporaryName name] := by
  obtain ⟨dir, last, hl, rfl⟩ := h.exists_leadsTo
  exact ⟨dir, by rw [(hl.eq_temporaryName hname).1]⟩

/-- No temporary file is at the place of a file without the extension `tmp`, whatever else has
happened in between. -/
theorem Means.ne_of_temporary {p' name' : String} {place' : List String}
    (h : t.Means (Path.temporary p) place) (h' : t'.Means p' place')
    (hname : Path.fileName? p = some name) (hname' : Path.fileName? p' = some name')
    (hext : Path.extension? name' ≠ some "tmp") : place ≠ place' := by
  obtain ⟨dir, rfl⟩ := h.eq_directory_append_temporary hname
  obtain ⟨dir', rfl⟩ := h'.eq_directory_append hname'
  intro hplace
  have hlast := List.append_inj_right' hplace rfl
  exact Path.temporaryName_ne (Path.isFileName_of_fileName? hname).1 hext
    (List.singleton_inj.1 hlast)

end Tree

end BotBindings
