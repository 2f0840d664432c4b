import BotBindings.Proofs.FilePlace
import BotBindings.Proofs.Run

namespace BotBindings

variable {t t' : Tree} {path name p : String} {place dir : List String} {content : List UInt8}

namespace Tree

/-- A write is tried: if it fails, it has done nothing or has left any content. -/
inductive WriteTried (t : Tree) (p : String) (content : List UInt8) :
    Except FileError Unit → Tree → Prop
  | done {after : Tree} (h : t.write p content = .ok after) : WriteTried t p content (.ok ()) after
  | refused (e : FileError) : WriteTried t p content (.error e) t
  | cut {after : Tree} (e : FileError) (left : List UInt8) (h : t.write p left = .ok after) :
    WriteTried t p content (.error e) after

/-- A renaming is tried: if it fails, it has done nothing. -/
inductive RenameTried (t : Tree) (source target : String) : Except FileError Unit → Tree → Prop
  | done {after : Tree} (h : t.rename source target = .ok after) : RenameTried t source target (.ok ()) after
  | refused (e : FileError) : RenameTried t source target (.error e) t

/-- A file is put at its path: it fails before the temporary file takes the path, or not at all. -/
inductive PutTried (t : Tree) (path : String) (content : List UInt8) :
    Except WriteFailure Unit → Tree → Prop
  | prepared {after : Tree} (f : WriteFailure) (hg : t.Grows after) : PutTried t path content (.error f) after
  | written {t₁ after : Tree} (f : WriteFailure) (left : List UInt8) (hg : t.Grows t₁)
    (hw : t₁.write (Path.temporary path) left = .ok after) : PutTried t path content (.error f) after
  | done {t₁ t₂ after : Tree} (hg : t.Grows t₁) (hw : t₁.write (Path.temporary path) content = .ok t₂)
    (hr : t₂.rename (Path.temporary path) path = .ok after) : PutTried t path content (.ok ()) after

theorem WriteTried.eq_of_ok (h : t.WriteTried p content (.ok ()) t') :
    t.write p content = .ok t' := by
  cases h with
  | done h => exact h

theorem PutTried.of_write {t₁ : Tree} {e : FileError} (hg : t.Grows t₁)
    (h : t₁.WriteTried (Path.temporary path) content (.error e) t') (f : WriteFailure) :
    t.PutTried path content (.error f) t' := by
  cases h with
  | refused => exact .prepared f hg
  | cut _ left h => exact .written f left hg h

theorem PutTried.of_rename {t₁ t₂ : Tree} {r : Except FileError Unit} (hg : t.Grows t₁)
    (hw : t₁.write (Path.temporary path) content = .ok t₂)
    (h : t₂.RenameTried (Path.temporary path) path r t') :
    t.PutTried path content (r.mapError (⟨path, ·⟩)) t' := by
  cases h with
  | done h => exact .done hg hw h
  | refused e => exact .written _ content hg hw

/-- What a write changes: the one place that its path means. -/
theorem file?_of_write (h : t.write p content = .ok t') :
    KeepsDirectories t t' ∧ ∃ written, t'.Means p written ∧ Path.endsInSlash p = false ∧
      t'.file? written = some content ∧ ∀ place ≠ written, t'.file? place = t.file? place := by
  obtain ⟨dir, last, hl, hs, hfree, rfl⟩ := put_of_write h
  have hk := KeepsDirectories.put t hl.place_ne_nil hfree (.file content)
  exact ⟨hk, _, (hl.mono hk).means, hs, file?_of_entry? (entry?_put_self hl.place_ne_nil),
    fun place hp => file?_congr (entry?_put_of_ne hp)⟩

/-- What a renaming changes: the file at the one place goes to the other. -/
theorem file?_of_rename {source target : String} (h : t.rename source target = .ok t') :
    KeepsDirectories t t' ∧ ∃ old new, t'.Means source old ∧ t'.Means target new ∧
      Path.endsInSlash target = false ∧ t'.file? new = t.file? old ∧ t'.file? new ≠ none ∧
      (old ≠ new → t'.entry? old = none) ∧
      ∀ place, place ≠ old → place ≠ new → t'.file? place = t.file? place := by
  obtain ⟨dir, last, dir', last', content, hl, hl', hs, hs', hfile, hfree, rfl⟩ := put_of_rename h
  have hplace : t.entry? (dir ++ [last]) ≠ some .directory := by
    rw [entry?_of_file? hfile]
    exact nofun
  have hremove := KeepsDirectories.remove t hplace
  have hfree' : Tree.entry? (t.remove (dir ++ [last])) (dir' ++ [last']) ≠ some .directory := by
    by_cases heq : dir' ++ [last'] = dir ++ [last]
    · rw [heq, entry?_remove_self hl.place_ne_nil]
      exact nofun
    · rwa [entry?_remove_of_ne heq]
  have hk := hremove.trans (.put _ hl'.place_ne_nil hfree' (.file content))
  have hnew := file?_of_entry? (entry?_put_self (t := t.remove (dir ++ [last]))
    (e := .file content) hl'.place_ne_nil)
  refine ⟨hk, _, _, (hl.mono hk).means, (hl'.mono hk).means, hs', hnew.trans hfile.symm, ?_, ?_, ?_⟩
  · rw [hnew]
    exact nofun
  · intro hne
    rw [entry?_put_of_ne hne, entry?_remove_self hl.place_ne_nil]
  · intro place hold hnew
    exact file?_congr ((entry?_put_of_ne hnew).trans (entry?_remove_of_ne hold))

namespace PutTried

variable {r : Except WriteFailure Unit}

theorem keepsDirectories (h : t.PutTried path content r t') : KeepsDirectories t t' := by
  cases h with
  | prepared f hg => exact hg.toKeepsDirectories
  | written f left hg hw => exact hg.toKeepsDirectories.trans (file?_of_write hw).1
  | done hg hw hr =>
    exact (hg.toKeepsDirectories.trans (file?_of_write hw).1).trans (file?_of_rename hr).1

/-- The only files that change are those at the two places. -/
theorem means_of_file?_ne (h : t.PutTried path content r t')
    (hne : t'.file? place ≠ t.file? place) :
    t'.Means path place ∨ t'.Means (Path.temporary path) place := by
  cases h with
  | prepared f hg => exact absurd (hg.file? place) hne
  | written f left hg hw =>
    obtain ⟨-, written, hmeans, -, -, hother⟩ := file?_of_write hw
    by_cases hp : place = written
    · exact .inr (hp ▸ hmeans)
    · exact absurd ((hother place hp).trans (hg.file? place)) hne
  | done hg hw hr =>
    -- the write changes one place, and the renaming this place and the one of the path
    obtain ⟨-, written, hmeans, -, -, hother⟩ := file?_of_write hw
    obtain ⟨hk, old, new, hold, hnew, -, -, -, -, hothers⟩ := file?_of_rename hr
    by_cases hpo : place = old
    · exact .inr (hpo ▸ hold)
    · by_cases hpn : place = new
      · exact .inl (hpn ▸ hnew)
      · by_cases hpw : place = written
        · exact .inr (hpw ▸ hmeans.mono hk)
        · have hsame := (hother place hpw).trans (hg.file? place)
          exact absurd ((hothers place hpo hpn).trans hsame) hne

/-- A failure leaves the file at the path as it was. -/
theorem file?_of_error {f : WriteFailure} (h : t.PutTried path content (.error f) t')
    (hname : Path.fileName? path = some name) (hext : Path.extension? name ≠ some "tmp")
    (hm : t'.Means path place) : t'.file? place = t.file? place := by
  cases h with
  | prepared f hg => exact hg.file? place
  | written f left hg hw =>
    obtain ⟨-, written, hmeans, -, -, hother⟩ := file?_of_write hw
    have hne := (hmeans.ne_of_temporary hm hname hname hext).symm
    exact (hother place hne).trans (hg.file? place)

/-- Behind a success the file has the content, and there is no temporary file. -/
theorem read_of_ok (h : t.PutTried path content (.ok ()) t')
    (hname : Path.fileName? path = some name) (hext : Path.extension? name ≠ some "tmp") :
    t'.read path = .ok content ∧ t'.read (Path.temporary path) = .error .notFound := by
  cases h with
  | done hg hw hr =>
    obtain ⟨-, written, hmeans, hs, hwritten, -⟩ := file?_of_write hw
    obtain ⟨hk, old, new, hold, hnew, hs', hmoved, -, hgone, -⟩ := file?_of_rename hr
    have hne := hold.ne_of_temporary hnew hname hname hext
    have hfile : t'.file? new = some content := by
      rw [hmoved, (hmeans.mono hk).unique hold, hwritten]
    exact ⟨(read_eq_ok_iff hname).2 ⟨hs', new, hnew, hfile⟩, hold.read_of_none hs (hgone hne)⟩

end PutTried

/-- The directories stay, and of the files without the extension `tmp` only those with these names
change. -/
structure ChangesOnly (names : List String) (t t' : Tree) : Prop extends KeepsDirectories t t' where
  file? : ∀ dir name, Path.extension? name ≠ some "tmp" → name ∉ names →
    t'.file? (dir ++ [name]) = t.file? (dir ++ [name])

theorem PutTried.changesOnly {r : Except WriteFailure Unit} (h : t.PutTried path content r t')
    (hname : Path.fileName? path = some name) : ChangesOnly [name] t t' := by
  refine ⟨h.keepsDirectories, fun dir last hext hlast => ?_⟩
  by_contra hne
  rcases h.means_of_file?_ne hne with hm | hm
  · obtain ⟨dir', hplace⟩ := hm.eq_directory_append hname
    exact hlast (List.mem_singleton.2 (List.singleton_inj.1 (List.append_inj_right' hplace rfl)))
  · obtain ⟨dir', hplace⟩ := hm.eq_directory_append_temporary hname
    obtain rfl := List.singleton_inj.1 (List.append_inj_right' hplace rfl)
    exact hext (Path.extension?_temporaryName (Path.isFileName_of_fileName? hname).1.ne_empty)

namespace ChangesOnly

variable {names names' : List String} {t'' : Tree}

theorem refl (t : Tree) : ChangesOnly [] t t := ⟨.refl t, fun _ _ _ _ => rfl⟩

theorem trans (h : ChangesOnly names t t') (h' : ChangesOnly names' t' t'') :
    ChangesOnly (names ++ names') t t'' := by
  refine ⟨h.toKeepsDirectories.trans h'.toKeepsDirectories, fun dir name hext hname => ?_⟩
  obtain ⟨hn, hn'⟩ := not_or.1 (mt List.mem_append.2 hname)
  exact (h'.file? dir name hext hn').trans (h.file? dir name hext hn)

theorem file?_of_means (h : ChangesOnly names t t') (hname : Path.fileName? path = some name)
    (hext : Path.extension? name ≠ some "tmp") (hn : name ∉ names) (hm : t''.Means path place) :
    t'.file? place = t.file? place := by
  obtain ⟨dir, rfl⟩ := hm.eq_directory_append hname
  exact h.file? dir name hext hn

theorem read (h : ChangesOnly names t t') (hname : Path.fileName? path = some name)
    (hext : Path.extension? name ≠ some "tmp") (hn : name ∉ names)
    (hread : t.read path = .ok content) : t'.read path = .ok content := by
  obtain ⟨hs, place, hm, hfile⟩ := (read_eq_ok_iff hname).1 hread
  exact (read_eq_ok_iff hname).2
    ⟨hs, place, hm.mono h.toKeepsDirectories, (h.file?_of_means hname hext hn hm).trans hfile⟩

end ChangesOnly

end Tree

variable {W : Type} {tree : W → Tree} {d : Disk (StateM W)}

/-- A disk that keeps a tree. Each of its steps may fail, and the tree shows what is left then. -/
structure Disk.Keeps (d : Disk (StateM W)) (tree : W → Tree) : Prop where
  makeDirs : ∀ p w, (tree w).Grows (tree ((d.makeDirs p).run w).2)
  write : ∀ p content w, (tree w).WriteTried p content.toUTF8.toList
    ((d.write p content).run w).1 (tree ((d.write p content).run w).2)
  rename : ∀ source target w, (tree w).RenameTried source target
    ((d.rename source target).run w).1 (tree ((d.rename source target).run w).2)

theorem run_bind {α β : Type} (x : StateM W α) (f : α → StateM W β) (w : W) :
    (x >>= f).run w = (f (x.run w).1).run (x.run w).2 := rfl

theorem Disk.run_attempt (p : String) (step : StateM W (Except FileError Unit)) (w : W) :
    (Disk.attempt p step).run w = ((step.run w).1.mapError (⟨p, ·⟩), (step.run w).2) := by
  rw [Disk.attempt, run_bind]
  cases (step.run w).1 <;> rfl

namespace Disk.Keeps

theorem prepare (hd : d.Keeps tree) (path : String) (w : W) :
    (tree w).Grows (tree ((d.prepare path).run w).2) := by
  unfold Disk.prepare
  split
  · exact .refl _
  · split
    · exact .refl _
    · rw [Disk.run_attempt]
      exact hd.makeDirs _ w

theorem writeAtomic (hd : d.Keeps tree) (path content : String) (w : W) :
    (tree w).PutTried path content.toUTF8.toList ((d.writeAtomic path content).run w).1
      (tree ((d.writeAtomic path content).run w).2) := by
  have hprepare := hd.prepare path w
  rw [Disk.writeAtomic, run_bind]
  rcases hp : (d.prepare path).run w with ⟨prepared, w₁⟩
  rw [hp] at hprepare
  cases prepared with
  | error f => exact .prepared f hprepare
  | ok _ =>
    have hwrite := hd.write (Path.temporary path) content w₁
    dsimp only
    rw [run_bind, Disk.run_attempt]
    rcases hw : (d.write (Path.temporary path) content).run w₁ with ⟨written, w₂⟩
    rw [hw] at hwrite
    cases written with
    | error e => exact .of_write hprepare hwrite _
    | ok _ =>
      have hrename := hd.rename (Path.temporary path) path w₂
      change (tree w).PutTried path content.toUTF8.toList
        ((Disk.attempt path (d.rename (Path.temporary path) path)).run w₂).1
        (tree ((Disk.attempt path (d.rename (Path.temporary path) path)).run w₂).2)
      rw [Disk.run_attempt]
      exact .of_rename hprepare hwrite.eq_of_ok hrename

end Disk.Keeps

/-- Each file that is written for a crate has the extension of a source file. -/
theorem exists_fileName_of_module {b : Bindings} {modules : List (String × String)}
    (hm : Crate.render b = .ok modules) {m : String × String} (h : m ∈ modules) (dir : String) :
    Path.fileName? (Path.inside dir m.1) = some m.1 ∧ Path.extension? m.1 ≠ some "tmp" := by
  have hname : m.1 ∈ ["lib.rs", "bot.rs", "types.rs", "methods.rs"] := by
    rw [← Crate.names_of_modules hm]
    exact List.mem_map_of_mem h
  have hall : ∀ name ∈ ["lib.rs", "bot.rs", "types.rs", "methods.rs"],
      ('/' ∉ name.toList ∧ name ≠ "" ∧ name ≠ "." ∧ name ≠ "..") ∧
        Path.extension? name ≠ some "tmp" := by decide
  obtain ⟨⟨hslash, hempty, hdot, hdots⟩, hext⟩ := hall m.1 hname
  exact ⟨Path.fileName?_inside dir ⟨hslash, hempty, hdot, hdots⟩, hext⟩

theorem exists_fileName_of_write {b : Bindings} {modules : List (String × String)}
    (hm : Crate.render b = .ok modules) {dryRun : Bool} {dir : String} {f : String × String}
    (hf : f ∈ (moduleActions dryRun dir modules).filterMap Action.file?) :
    ∃ name, Path.fileName? f.1 = some name ∧ Path.extension? name ≠ some "tmp" := by
  rw [files_moduleActions] at hf
  split at hf
  · cases hf
  · obtain ⟨m, hmem, rfl⟩ := List.mem_map.1 hf
    exact ⟨m.1, exists_fileName_of_module hm hmem dir⟩

/-- On a disk whose steps may fail, a file is put at its path at once or not at all. A failure leaves
what was at the path, a success leaves the content there and no temporary file, and no other files
change than those two, which are siblings. Of the files that are written for a crate, no temporary
path is the path of one, nor does it ever mean the place of one. -/
theorem Disk.writeAtomic_allOrNothing (hd : d.Keeps tree) :
    (∀ path name, Path.fileName? path = some name → Path.extension? name ≠ some "tmp" →
      ∀ content w,
        let t := tree w
        let run := (d.writeAtomic path content).run w
        let t' := tree run.2
        (∀ f, run.1 = .error f →
          (∀ place, t.Means path place ∨ t'.Means path place → t'.file? place = t.file? place) ∧
          ∀ bytes, t.read path = .ok bytes → t'.read path = .ok bytes) ∧
        (run.1 = .ok () →
          t'.read path = .ok content.toUTF8.toList ∧
          t'.read (Path.temporary path) = .error .notFound) ∧
        (∀ place, t'.file? place ≠ t.file? place →
          t'.Means path place ∨ t'.Means (Path.temporary path) place) ∧
        ∀ place place', t'.Means path place → t'.Means (Path.temporary path) place' →
          ∃ dir, place = dir ++ [name] ∧ place' = dir ++ [Path.temporaryName name]) ∧
    ∀ b dryRun dir modules, Crate.render b = .ok modules →
      let files := (moduleActions dryRun dir modules).filterMap Action.file?
      ∀ f ∈ files, ∀ f' ∈ files, Path.temporary f.1 ≠ f'.1 ∧
        ∀ t t' place, Tree.Means t (Path.temporary f.1) place → ¬Tree.Means t' f'.1 place := by
  constructor
  · intro path name hname hext content w
    have hput := hd.writeAtomic path content w
    have hk := hput.keepsDirectories
    dsimp only
    refine ⟨fun f hf => ?_, fun hok => ?_, fun place hne => hput.means_of_file?_ne hne,
      fun place place' hm hm' => hm.eq_sibling hm' hname⟩
    · rw [hf] at hput
      have hsame (place : List String) (h : (tree w).Means path place ∨
          (tree ((d.writeAtomic path content).run w).2).Means path place) :=
        hput.file?_of_error hname hext (h.elim (·.mono hk) id)
      refine ⟨hsame, fun bytes hread => ?_⟩
      obtain ⟨hs, place, hm, hfile⟩ := (Tree.read_eq_ok_iff hname).1 hread
      exact (Tree.read_eq_ok_iff hname).2
        ⟨hs, place, hm.mono hk, (hsame place (.inl hm)).trans hfile⟩
    · rw [hok] at hput
      exact hput.read_of_ok hname hext
  · intro b dryRun dir modules hm files f hf f' hf'
    obtain ⟨name, hname, -⟩ := exists_fileName_of_write hm hf
    obtain ⟨name', hname', hext⟩ := exists_fileName_of_write hm hf'
    exact ⟨Path.temporary_ne hname hname' hext,
      fun t t' place h h' => h.ne_of_temporary h' hname hname' hext rfl⟩

/-- Of these files in `dir` the first have been written, and all of them if the run has succeeded; the
others are as they were. -/
structure WrittenInOrder (dir : String) (files : List (String × String)) (t : Tree)
    (r : Except WriteFailure Unit) (t' : Tree) : Prop where
  changesOnly : Tree.ChangesOnly (files.map Prod.fst) t t'
  split : ∃ done todo, files = done ++ todo ∧ (r = .ok () → todo = []) ∧
    (∀ m ∈ done, t'.read (Path.inside dir m.1) = .ok m.2.toUTF8.toList) ∧
    ∀ m ∈ todo, ∀ place, t'.Means (Path.inside dir m.1) place → t'.file? place = t.file? place

namespace WrittenInOrder

variable {files : List (String × String)} {m : String × String} {root : String} {t₁ : Tree}

theorem of_error {f : WriteFailure}
    (hplain : ∀ m' ∈ m :: files, Path.fileName? (Path.inside root m'.1) = some m'.1 ∧
      Path.extension? m'.1 ≠ some "tmp")
    (hdistinct : m.1 ∉ files.map Prod.fst)
    (h : t.PutTried (Path.inside root m.1) content (.error f) t') :
    WrittenInOrder root (m :: files) t (.error f) t' := by
  obtain ⟨⟨hname, hext⟩, hrest⟩ := List.forall_mem_cons.1 hplain
  have hchanges := h.changesOnly hname
  constructor
  · refine ⟨hchanges.toKeepsDirectories, fun dir name hext' hn => hchanges.file? dir name hext' ?_⟩
    exact fun hm => hn (List.mem_cons.2 (.inl (List.mem_singleton.1 hm)))
  · refine ⟨[], m :: files, rfl, nofun, nofun, List.forall_mem_cons.2 ⟨?_, ?_⟩⟩
    · exact fun place hm => h.file?_of_error hname hext hm
    · intro m' hm' place hm
      obtain ⟨hname', hext'⟩ := hrest m' hm'
      have hne : m'.1 ∉ [m.1] := by
        rw [List.mem_singleton]
        intro heq
        exact hdistinct (heq ▸ List.mem_map_of_mem hm')
      exact hchanges.file?_of_means hname' hext' hne hm

theorem cons {r : Except WriteFailure Unit}
    (hplain : ∀ m' ∈ m :: files, Path.fileName? (Path.inside root m'.1) = some m'.1 ∧
      Path.extension? m'.1 ≠ some "tmp")
    (hdistinct : m.1 ∉ files.map Prod.fst)
    (h : t.PutTried (Path.inside root m.1) m.2.toUTF8.toList (.ok ()) t₁)
    (hrest : WrittenInOrder root files t₁ r t') : WrittenInOrder root (m :: files) t r t' := by
  obtain ⟨⟨hname, hext⟩, hplain⟩ := List.forall_mem_cons.1 hplain
  have hchanges := h.changesOnly hname
  obtain ⟨hlater, done, todo, rfl, hall, hdone, htodo⟩ := hrest
  refine ⟨hchanges.trans hlater, m :: done, todo, rfl, hall, List.forall_mem_cons.2 ⟨?_, hdone⟩, ?_⟩
  · exact hlater.read hname hext hdistinct (h.read_of_ok hname hext).1
  · intro m' hm' place hm
    obtain ⟨hname', hext'⟩ := hplain m' (List.mem_append_right done hm')
    have hne : m'.1 ∉ [m.1] := by
      rw [List.mem_singleton]
      intro heq
      exact hdistinct (heq ▸ List.mem_map_of_mem (List.mem_append_right done hm'))
    exact (htodo m' hm' place hm).trans (hchanges.file?_of_means hname' hext' hne hm)

end WrittenInOrder

theorem Host.run_perform_write (h : Host (StateM W)) (path content : String) (rest : List Action)
    (w : W) :
    (h.perform (.write path content :: rest)).run w =
      match (h.toDisk.writeAtomic path content).run w with
      | (.ok (), w₁) => (h.perform rest).run w₁
      | (.error f, w₁) => (.error f, w₁) := by
  rw [perform, run_bind]
  rcases (h.toDisk.writeAtomic path content).run w with ⟨_ | _, w₁⟩ <;> rfl

theorem Host.writtenInOrder {h : Host (StateM W)} (hd : h.toDisk.Keeps tree)
    (htell : ∀ e w, tree ((h.tell e).run w).2 = tree w) (e : Event) (dir : String)
    {files : List (String × String)}
    (hplain : ∀ m ∈ files, Path.fileName? (Path.inside dir m.1) = some m.1 ∧
      Path.extension? m.1 ≠ some "tmp")
    (hdistinct : (files.map Prod.fst).Nodup) (w : W) :
    let run := (h.perform
      (files.map (fun m => .write (Path.inside dir m.1) m.2) ++ [.tell e])).run w
    WrittenInOrder dir files (tree w) run.1 (tree run.2) := by
  induction files generalizing w with
  | nil =>
    have htree : tree ((h.perform [.tell e]).run w).2 = tree w := htell e w
    change WrittenInOrder dir [] (tree w) _ (tree ((h.perform [.tell e]).run w).2)
    rw [htree]
    exact ⟨.refl _, [], [], rfl, fun _ => rfl, nofun, nofun⟩
  | cons m files ih =>
    obtain ⟨hm, hfiles⟩ := List.nodup_cons.1 hdistinct
    have hput := hd.writeAtomic (Path.inside dir m.1) m.2 w
    dsimp only
    rw [List.map_cons, List.cons_append, Host.run_perform_write]
    rcases hw : (h.toDisk.writeAtomic (Path.inside dir m.1) m.2).run w with ⟨r, w₁⟩
    rw [hw] at hput
    cases r with
    | error f => exact .of_error hplain hm hput
    | ok _ => exact .cons hplain hm hput (ih (List.forall_mem_cons.1 hplain).2 hfiles w₁)

/-- A crate is written file by file. Wherever a run ends, the files in front have their contents, and
those behind are what they were before. -/
theorem Host.writtenInOrder_modules {h : Host (StateM W)} (hd : h.toDisk.Keeps tree)
    (htell : ∀ e w, tree ((h.tell e).run w).2 = tree w) {b : Bindings}
    {modules : List (String × String)} (hm : Crate.render b = .ok modules) (dir : String) (w : W) :
    let run := (h.perform (moduleActions false dir modules)).run w
    WrittenInOrder dir modules (tree w) run.1 (tree run.2) := by
  have hdistinct : (modules.map Prod.fst).Nodup := by
    rw [Crate.names_of_modules hm]
    decide
  exact h.writtenInOrder hd htell _ dir
    (fun m hmem => exists_fileName_of_module hm hmem dir) hdistinct w

/-- A tree on a disk that fails now and then, as is known for its next steps. A write that is cut
short leaves so many bytes. -/
structure Flaky where
  tree : Tree
  cuts : List (Option Nat) := []

namespace Flaky

def step (f : Option Nat → Tree → Except FileError Unit × Tree) : StateM Flaky (Except FileError Unit) :=
  fun w =>
    let (r, tree) := f (w.cuts.headD none) w.tree
    (r, { tree, cuts := w.cuts.tail })

/-- The tree behind an operation, or the one before it if the operation fails. -/
def settle (result : Except FileError Tree) (t : Tree) : Except FileError Unit × Tree :=
  match result with
  | .ok t' => (.ok (), t')
  | .error e => (.error e, t)

def cutWrite (p : String) (content : List UInt8) : Option Nat → Tree → Except FileError Unit × Tree
  | none, t => settle (t.write p content) t
  | some n, t => (.error .denied, (settle (t.write p (content.take n)) t).2)

def disk : Disk (StateM Flaky) where
  makeDirs p := step fun cut t => if cut.isSome then (.error .denied, t) else t.makeDirs p
  write p content := step (cutWrite p content.toUTF8.toList)
  rename source target :=
    step fun cut t => if cut.isSome then (.error .busy, t) else settle (t.rename source target) t

theorem writeTried_cutWrite (p : String) (content : List UInt8) (cut : Option Nat) (t : Tree) :
    t.WriteTried p content (cutWrite p content cut t).1 (cutWrite p content cut t).2 := by
  cases cut with
  | none =>
    cases h : t.write p content with
    | ok t' =>
      rw [cutWrite, h]
      exact .done h
    | error e =>
      rw [cutWrite, h]
      exact .refused e
  | some n =>
    cases h : t.write p (content.take n) with
    | ok t' =>
      rw [cutWrite, h]
      exact .cut _ _ h
    | error e =>
      rw [cutWrite, h]
      exact .refused _

theorem keeps_disk : disk.Keeps Flaky.tree where
  makeDirs p w := by
    change w.tree.Grows
      (if (w.cuts.headD none).isSome then (.error .denied, w.tree) else w.tree.makeDirs p).2
    split
    · exact .refl _
    · exact .makeDirs _ p
  write p content w := writeTried_cutWrite p _ (w.cuts.headD none) w.tree
  rename source target w := by
    let done := if (w.cuts.headD none).isSome then (.error .busy, w.tree)
      else settle (w.tree.rename source target) w.tree
    change w.tree.RenameTried source target done.1 done.2
    unfold done
    split
    · exact .refused _
    · cases h : w.tree.rename source target with
      | ok t' => exact .done h
      | error e => exact .refused e

end Flaky

/-- A crate is in `out`. -/
def crateTree : Tree where
  entries := [(["out"], .directory), (["out", "lib.rs"], .file [111, 108, 100])]

def sound : Flaky := { tree := crateTree }

/-- The next write is cut short. -/
def torn : Flaky := { sound with cuts := [none, some 3] }

/-- A write that is cut short behind three bytes leaves the old content, and the write succeeds when
it is tried again. A crate can be written, with two files or more. -/
theorem Disk.writeAtomic_allOrNothing_flaky :
    Flaky.disk.Keeps Flaky.tree ∧
    Path.fileName? "out/lib.rs" = some "lib.rs" ∧ Path.extension? "lib.rs" ≠ some "tmp" ∧
    (let run := (Flaky.disk.writeAtomic "out/lib.rs" "// hi\n").run torn;
      run.1 = .error ⟨"out/lib.tmp", .denied⟩ ∧
        run.2.tree.read "out/lib.rs" = .ok [111, 108, 100] ∧
        run.2.tree.read "out/lib.tmp" = .ok [47, 47, 32]) ∧
    (let run := (Flaky.disk.writeAtomic "out/lib.rs" "// hi\n").run sound;
      run.1 = .ok () ∧ run.2.tree.read "out/lib.rs" = .ok "// hi\n".toUTF8.toList ∧
        run.2.tree.read "out/lib.tmp" = .error .notFound) ∧
    ∃ modules, Crate.render {} = .ok modules ∧
      let files := (moduleActions false "out" modules).filterMap Action.file?
      files.map Prod.fst = ["out/lib.rs", "out/bot.rs", "out/types.rs", "out/methods.rs"] ∧
        ∀ f ∈ files, ∀ f' ∈ files, Path.temporary f.1 ≠ f'.1 := by
  obtain ⟨hput, hcrate⟩ := writeAtomic_allOrNothing Flaky.keeps_disk
  have hname : Path.fileName? "out/lib.rs" = some "lib.rs" := by decide
  have hext : Path.extension? "lib.rs" ≠ some "tmp" := by decide
  have hlib := hput "out/lib.rs" "lib.rs" hname hext "// hi\n"
  refine ⟨Flaky.keeps_disk, hname, hext, ?_, ?_, ?_⟩
  · obtain ⟨herror, -, -⟩ := hlib torn
    have hfailed : ((Flaky.disk.writeAtomic "out/lib.rs" "// hi\n").run torn).1 =
        .error ⟨"out/lib.tmp", .denied⟩ := by
      decide +kernel
    exact ⟨hfailed, (herror _ hfailed).2 _ (by decide +kernel), by decide +kernel⟩
  · obtain ⟨-, hok, -⟩ := hlib sound
    have hdone : ((Flaky.disk.writeAtomic "out/lib.rs" "// hi\n").run sound).1 = .ok () := by
      decide +kernel
    exact ⟨hdone, hok hdone⟩
  · obtain ⟨modules, hm⟩ : ∃ modules, Crate.render {} = .ok modules :=
      exists_eq_ok (by decide +kernel)
    refine ⟨modules, hm, ?_, fun f hf f' hf' => (hcrate {} false "out" modules hm f hf f' hf').1⟩
    have hnames := congrArg (List.map (Path.inside "out")) (Crate.names_of_modules hm)
    rw [List.map_map] at hnames
    rw [files_moduleActions, if_neg Bool.false_ne_true, List.map_map]
    exact hnames

end BotBindings
