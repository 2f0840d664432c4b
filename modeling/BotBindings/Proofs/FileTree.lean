import BotBindings.Files.Tree
import BotBindings.Proofs.Except

namespace BotBindings.Tree

variable {t t' : Tree} {place place' dir : List String} {p name : String} {e : Entry}
  {content : List UInt8}

/-- The content of the file at a place. -/
def file? (t : Tree) (place : List String) : Option (List UInt8) :=
  match t.entry? place with
  | some (.file content) => some content
  | _ => none

theorem file?_congr (h : t'.entry? place = t.entry? place) : t'.file? place = t.file? place := by
  rw [file?, h, file?]

theorem file?_of_entry? (h : t.entry? place = some (.file content)) :
    t.file? place = some content := by
  rw [file?, h]

theorem entry?_of_file? (h : t.file? place = some content) :
    t.entry? place = some (.file content) := by
  unfold file? at h
  split at h
  · next content' he =>
    cases h
    exact he
  · cases h

theorem lookup_filter_ne {entries : List (List String × Entry)} (h : place' ≠ place) :
    (entries.filter (·.1 ≠ place)).lookup place' = entries.lookup place' := by
  induction entries with
  | nil => rfl
  | cons entry rest ih =>
    obtain ⟨key, e⟩ := entry
    by_cases hk : key = place
    · have hne : (place' == key) = false := beq_false_of_ne (hk ▸ h)
      rw [List.filter_cons_of_neg (by simpa using hk), ih, List.lookup_cons, hne]
    · rw [List.filter_cons_of_pos (by simpa using hk), List.lookup_cons, List.lookup_cons, ih]

theorem lookup_filter_self (entries : List (List String × Entry)) (place : List String) :
    (entries.filter (·.1 ≠ place)).lookup place = none := by
  rw [List.lookup_eq_none_iff]
  intro entry hm
  have hne : entry.1 ≠ place := of_decide_eq_true (List.mem_filter.1 hm).2
  exact bne_iff_ne.2 hne.symm

theorem entry?_put_self (hne : place ≠ []) : entry? (t.put place e) place = some e := by
  unfold entry?
  rw [if_neg hne, put, List.lookup_append, lookup_filter_self, Option.none_or,
    List.lookup_cons_self]

theorem entry?_put_of_ne (h : place' ≠ place) :
    entry? (t.put place e) place' = t.entry? place' := by
  have hlast : [(place, e)].lookup place' = none := by
    rw [List.lookup_cons, beq_false_of_ne h]
    rfl
  unfold entry?
  rw [put, List.lookup_append, lookup_filter_ne h, hlast, Option.or_none]

theorem entry?_remove_self (hne : place ≠ []) : entry? (t.remove place) place = none := by
  unfold entry?
  rw [if_neg hne, remove, lookup_filter_self]

theorem entry?_remove_of_ne (h : place' ≠ place) :
    entry? (t.remove place) place' = t.entry? place' := by
  unfold entry?
  rw [remove, lookup_filter_ne h]

/-- The directories of the one tree are directories of the other. -/
structure KeepsDirectories (t t' : Tree) : Prop where
  home : t'.home = t.home
  directory : ∀ place, t.entry? place = some .directory → t'.entry? place = some .directory

namespace KeepsDirectories

variable {t'' : Tree}

theorem refl (t : Tree) : KeepsDirectories t t := ⟨rfl, fun _ => id⟩

theorem trans (h : KeepsDirectories t t') (h' : KeepsDirectories t' t'') :
    KeepsDirectories t t'' :=
  ⟨h'.home.trans h.home, fun place hd => h'.directory place (h.directory place hd)⟩

/-- Another entry for what is no directory. -/
theorem put (t : Tree) (hne : place ≠ []) (h : t.entry? place ≠ some .directory) (e : Entry) :
    KeepsDirectories t (t.put place e) := by
  refine ⟨rfl, fun place' hd => ?_⟩
  have hplace : place' ≠ place := by
    rintro rfl
    exact h hd
  rwa [entry?_put_of_ne hplace]

theorem remove (t : Tree) (h : t.entry? place ≠ some .directory) :
    KeepsDirectories t (t.remove place) := by
  refine ⟨rfl, fun place' hd => ?_⟩
  have hplace : place' ≠ place := by
    rintro rfl
    exact h hd
  rwa [entry?_remove_of_ne hplace]

theorem start (h : KeepsDirectories t t') (p : String) : t'.start p = t.start p := by
  rw [Tree.start, Tree.start, h.home]

theorem enter (h : KeepsDirectories t t') (he : t.enter place name = .ok place')
    (hd : t.entry? place' = some .directory) : t'.enter place name = .ok place' := by
  have hplace := h.directory place
  have hend := h.directory place' hd
  unfold Tree.enter at he ⊢
  grind

end KeepsDirectories

theorem directory_of_enter (h : t.enter place name = .ok place') :
    t.entry? place = some .directory := by
  unfold enter at h
  split at h
  · cases h
  · next hplace => exact not_not.1 hplace

/-- On the way to a directory there are directories only. -/
theorem directory_of_foldlM {names : List String} (h : names.foldlM t.enter place = .ok dir)
    (hd : t.entry? dir = some .directory) : t.entry? place = some .directory := by
  cases names with
  | nil =>
    obtain rfl := Except.ok.inj h
    exact hd
  | cons name names =>
    obtain ⟨next, hn, -⟩ := bind_eq_ok_iff.1 h
    exact directory_of_enter hn

theorem KeepsDirectories.foldlM (h : KeepsDirectories t t') {names : List String}
    (hf : names.foldlM t.enter place = .ok dir) (hd : t.entry? dir = some .directory) :
    names.foldlM t'.enter place = .ok dir := by
  induction names generalizing place with
  | nil => exact hf
  | cons name names ih =>
    obtain ⟨next, hn, hf⟩ := bind_eq_ok_iff.1 hf
    exact bind_eq_ok_iff.2 ⟨next, h.enter hn (directory_of_foldlM hf hd), ih hf⟩

/-- The path leads to a name in a directory, where a file can have it. -/
structure LeadsTo (t : Tree) (p : String) (dir : List String) (name : String) : Prop where
  check : Path.check p = .ok ()
  above : (Path.names p).dropLast.foldlM t.enter (t.start p) = .ok dir
  directory : t.entry? dir = some .directory
  last : (Path.names p).getLast? = some name
  plain : name ≠ "." ∧ name ≠ ".."
  short : name.utf8ByteSize ≤ nameLimit

theorem leadsTo_of_spot (h : t.spot p = .ok ⟨dir, some name⟩) : t.LeadsTo p dir name := by
  unfold spot at h
  obtain ⟨hcheck, h⟩ := unit_bind_eq_ok_iff.1 h
  obtain ⟨dir', habove, h⟩ := bind_eq_ok_iff.1 h
  by_cases hd : t.entry? dir' = some .directory
  · rw [if_neg (not_not_intro hd)] at h
    cases hlast : (Path.names p).getLast? with
    | none =>
      rw [hlast] at h
      cases h
    | some last =>
      simp only [hlast, Bool.or_eq_true, decide_eq_true_eq] at h
      split at h
      · cases h
      · next hplain =>
        split at h
        · cases h
        · next hshort =>
          cases h
          exact ⟨hcheck, habove, hd, hlast, not_or.1 hplain, Nat.not_lt.1 hshort⟩
  · rw [if_pos hd] at h
    cases h

namespace LeadsTo

theorem spot (h : t.LeadsTo p dir name) : t.spot p = .ok ⟨dir, some name⟩ := by
  have hplain : ¬(decide (name = ".") || decide (name = "..")) = true := by simpa using h.plain
  unfold Tree.spot
  rw [h.check]
  refine bind_eq_ok_iff.2 ⟨(), rfl, bind_eq_ok_iff.2 ⟨dir, h.above, ?_⟩⟩
  rw [if_neg (not_not_intro h.directory), h.last]
  simp only
  rw [if_neg hplain, if_neg (Nat.not_lt.2 h.short)]
  rfl

/-- It goes on leading there while the directories stay. -/
theorem mono (h : t.LeadsTo p dir name) (hk : KeepsDirectories t t') : t'.LeadsTo p dir name where
  check := h.check
  above := by
    rw [hk.start]
    exact hk.foldlM h.above h.directory
  directory := hk.directory dir h.directory
  last := h.last
  plain := h.plain
  short := h.short

theorem unique {dir' : List String} {name' : String} (h : t.LeadsTo p dir name)
    (h' : t.LeadsTo p dir' name') : dir' = dir ∧ name' = name := by
  have hspot := h'.spot.symm.trans h.spot
  injection hspot with hspot
  injection hspot with hdir hname
  exact ⟨hdir, Option.some.inj hname⟩

theorem place_ne_nil (_ : t.LeadsTo p dir name) : dir ++ [name] ≠ [] := by simp

theorem find_eq (h : t.LeadsTo p dir name) (hs : Path.endsInSlash p = false) :
    t.find p = t.enter dir name := by
  have hfold : (Path.names p).foldlM t.enter (t.start p) = t.enter dir name := by
    rw [← List.dropLast_append_getLast? name h.last, List.foldlM_append, h.above]
    exact bind_pure (t.enter dir name)
  unfold find
  rw [h.check, hfold, hs]
  cases t.enter dir name <;> rfl

theorem enter_eq (h : t.LeadsTo p dir name) :
    t.enter dir name =
      if (t.entry? (dir ++ [name])).isNone then .error .notFound else .ok (dir ++ [name]) := by
  rw [enter, if_neg (not_not_intro h.directory), if_neg h.plain.1, if_neg h.plain.2,
    if_neg (Nat.not_lt.2 h.short)]

theorem read_of_file? (h : t.LeadsTo p dir name) (hs : Path.endsInSlash p = false)
    (hf : t.file? (dir ++ [name]) = some content) : t.read p = .ok content := by
  have he := entry?_of_file? hf
  rw [read, h.find_eq hs, h.enter_eq, he]
  change (match t.entry? (dir ++ [name]) with
    | some (.file content) => Except.ok content
    | _ => .error FileError.isDirectory) = .ok content
  rw [he]

theorem read_of_none (h : t.LeadsTo p dir name) (hs : Path.endsInSlash p = false)
    (he : t.entry? (dir ++ [name]) = none) : t.read p = .error .notFound := by
  rw [read, h.find_eq hs, h.enter_eq, he]
  rfl

end LeadsTo

/-- What a write that succeeds has done. -/
theorem put_of_write (h : t.write p content = .ok t') :
    ∃ dir name, t.LeadsTo p dir name ∧ Path.endsInSlash p = false ∧
      t.entry? (dir ++ [name]) ≠ some .directory ∧
      t' = t.put (dir ++ [name]) (.file content) := by
  obtain ⟨⟨dir, name?⟩, hspot, h⟩ := bind_eq_ok_iff.1 h
  cases name? with
  | none => cases h
  | some name =>
    dsimp only at h
    split at h
    · cases h
    · next hfree =>
      simp only [Bool.or_eq_true, decide_eq_true_eq, not_or, Bool.not_eq_true] at hfree
      cases h
      exact ⟨dir, name, leadsTo_of_spot hspot, hfree.1, hfree.2, rfl⟩

/-- What a renaming that succeeds has done. -/
theorem put_of_rename {source target : String} (h : t.rename source target = .ok t') :
    ∃ dir name dir' name' content, t.LeadsTo source dir name ∧ t.LeadsTo target dir' name' ∧
      Path.endsInSlash source = false ∧ Path.endsInSlash target = false ∧
      t.file? (dir ++ [name]) = some content ∧ t.entry? (dir' ++ [name']) ≠ some .directory ∧
      t' = (t.remove (dir ++ [name])).put (dir' ++ [name']) (.file content) := by
  obtain ⟨⟨dir, name?⟩, hspot, h⟩ := bind_eq_ok_iff.1 h
  obtain ⟨⟨dir', name'?⟩, hspot', h⟩ := bind_eq_ok_iff.1 h
  cases name? with
  | none => cases h
  | some name =>
    cases name'? with
    | none => cases h
    | some name' =>
      cases he : t.entry? (dir ++ [name]) with
      | none => simp [he] at h
      | some e =>
        cases e with
        | directory => simp [he] at h
        | file content =>
          simp only [he] at h
          split at h
          · cases h
          · next hslash =>
            split at h
            · cases h
            · next hfree =>
              simp only [Bool.or_eq_true, not_or, Bool.not_eq_true] at hslash
              cases h
              exact ⟨dir, name, dir', name', content, leadsTo_of_spot hspot,
                leadsTo_of_spot hspot', hslash.1, hslash.2, file?_of_entry? he, hfree, rfl⟩

/-- Directories have come, and nothing else has changed. -/
structure Grows (t t' : Tree) : Prop extends KeepsDirectories t t' where
  file? : ∀ place, t'.file? place = t.file? place

namespace Grows

theorem refl (t : Tree) : t.Grows t := ⟨.refl t, fun _ => rfl⟩

theorem trans {t'' : Tree} (h : t.Grows t') (h' : t'.Grows t'') : t.Grows t'' :=
  ⟨h.toKeepsDirectories.trans h'.toKeepsDirectories,
    fun place => (h'.file? place).trans (h.file? place)⟩

theorem makeDir (h : t.makeDir p = .ok t') : t.Grows t' := by
  obtain ⟨⟨dir, name?⟩, hspot, h⟩ := bind_eq_ok_iff.1 h
  cases name? with
  | none => cases h
  | some name =>
    dsimp only at h
    split at h
    · cases h
    · next hfree =>
      have hnone : t.entry? (dir ++ [name]) = none := by simpa using hfree
      have hne := (leadsTo_of_spot hspot).place_ne_nil
      cases h
      refine ⟨.put t hne (by rw [hnone]; exact nofun) _, fun place => ?_⟩
      by_cases hp : place = dir ++ [name]
      · rw [hp, Tree.file?, Tree.file?, entry?_put_self hne, hnone]
      · exact file?_congr (entry?_put_of_ne hp)

theorem makeDirsOf (root : String) (names : List String) (t : Tree) :
    t.Grows (makeDirsOf root names t).2 := by
  induction names generalizing t with
  | nil => exact .refl t
  | cons name above ih =>
    unfold Tree.makeDirsOf
    dsimp only
    split
    · next made => exact .makeDir made
    · have habove := ih t
      split
      · next hmade => rwa [hmade] at habove
      · next t₁ hmade =>
        rw [hmade] at habove
        split
        · next made => exact habove.trans (.makeDir made)
        · split <;> exact habove
    · split <;> exact .refl t

theorem makeDirs (t : Tree) (p : String) : t.Grows (t.makeDirs p).2 := by
  unfold Tree.makeDirs
  split
  · exact .refl t
  · exact .refl t
  · exact makeDirsOf _ _ t

end Grows

end BotBindings.Tree
