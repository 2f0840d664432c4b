import BotBindings.Proofs.DiskTrace
import BotBindings.Proofs.Render

namespace BotBindings

open Schema (Document LoadError Source)

variable {W : Type} {log : W → List DiskStep}

namespace Plan

def files (p : Plan) : List (String × String) := p.actions.filterMap Action.file?

def outcome (p : Plan) : Except RunError Unit :=
  match p.failure? with
  | some e => .error e
  | none => .ok ()

/-- The plan ends with this outcome and has put just these files at their paths. -/
structure Leaves (p : Plan) (files : List (String × String)) (outcome : Except RunError Unit) :
    Prop where
  files : p.files = files
  outcome : p.outcome = outcome

variable {p : Plan} {files : List (String × String)} {outcome : Except RunError Unit}

theorem files_behind (events : List Event) (p : Plan) : (p.behind events).files = p.files := by
  have htells : (events.map Action.tell).filterMap Action.file? = [] := by
    rw [List.filterMap_map, List.filterMap_eq_nil_iff]
    exact fun _ _ => rfl
  unfold Plan.files behind
  rw [List.filterMap_append, htells, List.nil_append]

/-- Events in front change nothing. -/
theorem Leaves.behind (h : p.Leaves files outcome) (events : List Event) :
    (p.behind events).Leaves files outcome :=
  ⟨(files_behind events p).trans h.files, h.outcome⟩

end Plan

theorem Host.Logs.carryOut {h : Host (StateM W)} (hl : h.Logs log) {p : Plan}
    {files : List (String × String)} {outcome : Except RunError Unit}
    (hp : p.Leaves files outcome) :
    Takes log (h.carryOut p) (files.flatMap fileSteps) outcome := by
  obtain ⟨rfl, rfl⟩ := hp
  have hend : Takes log (match p.failure? with
      | some e => return .error e
      | none => return .ok ()) [] p.outcome := by
    unfold Plan.outcome
    cases p.failure? with
    | some e => exact .pure
    | none => exact .pure
  have hrun : Takes log (h.carryOut p) (p.files.flatMap fileSteps ++ []) p.outcome :=
    (hl.perform p.actions).bind hend
  rwa [List.append_nil] at hrun

section

variable {s : Settings} {document : Option Document} {b : Bindings}

theorem planFor_of_error {e : BindError} (h : (Bindings.ofDocument document).1 = .error e) :
    (planFor s document).Leaves [] (.error (.bind e)) := by
  have hd : Bindings.ofDocument document = (.error e, (Bindings.ofDocument document).2) :=
    Prod.ext h rfl
  have hnone : Plan.Leaves { actions := [], failure? := some (.bind e) } [] (.error (.bind e)) :=
    ⟨rfl, rfl⟩
  unfold planFor
  rw [hd]
  exact hnone.behind _

theorem planFor_of_ok (h : (Bindings.ofDocument document).1 = .ok b) :
    (∀ e, outputActions s b = .error e → (planFor s document).Leaves [] (.error e)) ∧
    ∀ actions, outputActions s b = .ok actions →
      (planFor s document).Leaves (actions.filterMap Action.file?) (.ok ()) := by
  have hd : Bindings.ofDocument document = (.ok b, (Bindings.ofDocument document).2) :=
    Prod.ext h rfl
  unfold planFor
  rw [hd]
  constructor
  · intro e he
    have hnone : Plan.Leaves { actions := [], failure? := some e } [] (.error e) := ⟨rfl, rfl⟩
    simp only [he]
    exact (hnone.behind _).behind _
  · intro actions ha
    have hall : Plan.Leaves { actions } (actions.filterMap Action.file?) (.ok ()) := ⟨rfl, rfl⟩
    simp only [ha]
    exact (hall.behind _).behind _

/-- The document that a run goes on with: none behind a failed load, unless the run is strict. -/
inductive Settings.GoesOn (s : Settings) : Except LoadError Document → Option Document → Prop
  | loaded (d : Document) : GoesOn s (.ok d) (some d)
  | unavailable (e : LoadError) (h : s.strict = false) : GoesOn s (.error e) none

theorem Settings.GoesOn.leaves {loaded : Except LoadError Document}
    (h : s.GoesOn loaded document) {files : List (String × String)}
    {outcome : Except RunError Unit} (hp : (planFor s document).Leaves files outcome) :
    (plan s loaded).Leaves files outcome := by
  cases h with
  | loaded d => exact hp
  | unavailable e h =>
    rw [plan, if_neg (by simp [h])]
    exact hp.behind _

/-- The files of a crate whose modules are in `dir`. -/
def crateFiles (dir : String) (modules : List (String × String)) : List (String × String) :=
  modules.map (fun m => (Path.inside dir m.1, m.2)) ++
    [(Path.inside ((Path.parent? dir).getD "bindings") "Cargo.toml",
      Crate.manifest Crate.defaultPackage)]

theorem files_recordsActions (dryRun : Bool) (dir : String) (b : Bindings) :
    (recordsActions dryRun dir b).filterMap Action.file? =
      if dryRun then [] else [(Path.inside dir "bindings.json", b.records)] := by
  cases dryRun <;> rfl

theorem files_moduleActions (dryRun : Bool) (dir : String) (modules : List (String × String)) :
    (moduleActions dryRun dir modules).filterMap Action.file? =
      if dryRun then [] else modules.map fun m => (Path.inside dir m.1, m.2) := by
  cases dryRun with
  | true =>
    rw [moduleActions, if_pos rfl, if_pos rfl, List.filterMap_map, List.filterMap_eq_nil_iff]
    exact fun _ _ => rfl
  | false =>
    rw [moduleActions, if_neg Bool.false_ne_true, if_neg Bool.false_ne_true,
      List.filterMap_append, List.filterMap_map]
    exact (List.append_nil _).trans (congrFun List.filterMap_eq_map modules)

theorem files_crateActions (dryRun : Bool) (dir : String) (modules : List (String × String)) :
    (moduleActions dryRun dir modules ++
        manifestActions dryRun (crateDir dir) Crate.defaultPackage).filterMap Action.file? =
      if dryRun then [] else crateFiles dir modules := by
  rw [List.filterMap_append, files_moduleActions]
  cases dryRun <;> rfl

theorem leaves_of_rust (hf : s.format = .rust) (h : (Bindings.ofDocument document).1 = .ok b) :
    (∀ e, Crate.render b = .error e → (planFor s document).Leaves [] (.error (.render e))) ∧
    ∀ modules, Crate.render b = .ok modules →
      (planFor s document).Leaves (if s.dryRun then [] else crateFiles s.output modules)
        (.ok ()) := by
  constructor
  · intro e he
    apply (planFor_of_ok h).1
    rw [outputActions, hf, he]
    rfl
  · intro modules hm
    rw [← files_crateActions]
    apply (planFor_of_ok h).2
    rw [outputActions, hf, hm]
    rfl

theorem leaves_of_records (hf : s.format = .records)
    (h : (Bindings.ofDocument document).1 = .ok b) :
    (planFor s document).Leaves
      (if s.dryRun then [] else [(Path.inside s.output "bindings.json", b.records)]) (.ok ()) := by
  rw [← files_recordsActions]
  apply (planFor_of_ok h).2
  rw [outputActions, hf]

end

/-- A run touches the disk only after everything has been made. If the schema cannot be had in a
strict run, or has no bindings, or no crate can be made of them, there are no files; else there are
those of the crate, each as it was rendered and then the manifest, or the records. A failed load is
as good as no document in any other run. Nothing is written before the schema has been loaded. -/
theorem Host.run_leaves {h : Host (StateM W)} (hl : h.Logs log) (s : Settings) :
    (∀ e, s.strict = true →
      Takes log (h.carryOut (plan s (.error e))) [] (.error (.load e))) ∧
    (∀ loaded document, s.GoesOn loaded document →
      let run := h.carryOut (plan s loaded)
      (∀ e, (Bindings.ofDocument document).1 = .error e → Takes log run [] (.error (.bind e))) ∧
      ∀ b, (Bindings.ofDocument document).1 = .ok b →
        (s.format = .rust →
          ((∃ e, Crate.render b = .error e) ↔
            ∀ ms, Crate.modules b = .ok ms → ∃ m ∈ ms, ∃ f, Code.checkItems m.2 = .error f) ∧
          (∀ e, Crate.render b = .error e → Takes log run [] (.error (.render e))) ∧
          ∀ modules, Crate.render b = .ok modules →
            modules.map Prod.fst = ["lib.rs", "bot.rs", "types.rs", "methods.rs"] ∧
            Takes log run
              ((if s.dryRun then [] else crateFiles s.output modules).flatMap fileSteps)
              (.ok ())) ∧
        (s.format = .records →
          Takes log run
            ((if s.dryRun then [] else
              [(Path.inside s.output "bindings.json", b.records)]).flatMap fileSteps)
            (.ok ()))) ∧
    ∀ w, ∃ w' loaded w'', ((Source.parse s.source).load h.toReach).run w' = (loaded, w'') ∧
      log w'' = log w ∧ (h.run s).run w = (h.carryOut (plan s loaded)).run w'' := by
  refine ⟨fun e hs => ?_, fun loaded document hd => ⟨fun e he => ?_, fun b hb => ⟨?_, ?_⟩⟩,
    fun w => ?_⟩
  · have hstrict : (plan s (.error e)).Leaves [] (.error (.load e)) := by
      rw [plan, if_pos hs]
      exact ⟨rfl, rfl⟩
    exact hl.carryOut hstrict
  · exact hl.carryOut (hd.leaves (planFor_of_error he))
  · intro hf
    obtain ⟨herror, hok⟩ := leaves_of_rust hf hb
    refine ⟨Crate.exists_error_render_iff, fun e he => ?_, fun modules hm => ?_⟩
    · exact hl.carryOut (hd.leaves (herror e he))
    · exact ⟨Crate.names_of_modules hm, hl.carryOut (hd.leaves (hok modules hm))⟩
  · intro hf
    exact hl.carryOut (hd.leaves (leaves_of_records hf hb))
  · let start := h.tell (.starting (Source.parse s.source).text s.format.title s.dryRun)
    let load := (Source.parse s.source).load h.toReach
    have hlog : log (load.run (start.run w).2).2 = log w := by
      rw [hl.load (Source.parse s.source) _]
      exact (hl.tell _).untouched w
    exact ⟨(start.run w).2, _, _, rfl, hlog, rfl⟩

/-- Surroundings with no schema in reach, which log what is done to the disk. -/
def recorder : Host (StateM (List DiskStep)) where
  read _ := return .error .notFound
  send _ := return none
  tell _ := return ()
  makeDirs path := do
    modify (· ++ [.makeDirs path])
    return .ok ()
  write path content := do
    modify (· ++ [.write path content])
    return .ok ()
  rename source target := do
    modify (· ++ [.rename source target])
    return .ok ()
  print _ := return ()

theorem logs_recorder : recorder.Logs id where
  makeDirs _ := ⟨fun _ => rfl, fun _ => rfl⟩
  write _ _ := ⟨fun _ => rfl, fun _ => rfl⟩
  rename _ _ := ⟨fun _ => rfl, fun _ => rfl⟩
  tell _ := .pure
  print _ := .pure
  read _ := .pure
  send _ := .pure

/-- A method returns a type whose key, but not its name, is a keyword. -/
def keyworded : Document where
  types := ⟨[("fn", { name := "Function" })], by decide⟩
  methods := ⟨[("call", { name := "call", returns := ["fn"] })], by decide⟩

/-- The types are all right, but not the methods, and there is no trace of either. Without a schema
there is a crate, unless the run is strict. -/
theorem Host.run_leaves_recorder :
    recorder.Logs id ∧
    (∃ b types e, (Bindings.ofDocument (some keyworded)).1 = .ok b ∧
      Crate.typesModule b = .ok types ∧ Code.checkItems types = .ok () ∧
      Crate.render b = .error e ∧
      Takes id (recorder.carryOut (plan {} (.ok keyworded))) [] (.error (.render e))) ∧
    ∃ modules, Crate.render {} = .ok modules ∧
      (crateFiles "bindings/src" modules).map Prod.fst =
        ["bindings/src/lib.rs", "bindings/src/bot.rs", "bindings/src/types.rs",
          "bindings/src/methods.rs", "bindings/Cargo.toml"] ∧
      Takes id (recorder.carryOut (plan {} (.error (.status "" 404))))
        ((crateFiles "bindings/src" modules).flatMap fileSteps) (.ok ()) := by
  obtain ⟨-, hrun, -⟩ := run_leaves logs_recorder {}
  refine ⟨logs_recorder, ?_, ?_⟩
  · have hb : (Bindings.ofDocument (some keyworded)).1 = .ok keyworded.bindings :=
      Bindings.ofDocument_of_check rfl (by decide)
    have hfault :
        Crate.render keyworded.bindings = .error (.code (.keywordType "parentheses")) := by
      decide +kernel
    obtain ⟨-, hok⟩ := hrun _ _ (.loaded keyworded)
    have hnone := ((hok _ hb).1 rfl).2.1 _ hfault
    exact ⟨_, _, _, hb, rfl, by decide, hfault, hnone⟩
  · obtain ⟨modules, hm⟩ : ∃ modules, Crate.render {} = .ok modules :=
      exists_eq_ok (by decide +kernel)
    obtain ⟨-, hok⟩ := hrun _ _ (.unavailable (.status "" 404) rfl)
    obtain ⟨hnames, hleaves⟩ := ((hok {} rfl).1 rfl).2.2 modules hm
    have hpaths : (crateFiles "bindings/src" modules).map Prod.fst =
        (modules.map Prod.fst).map (Path.inside "bindings/src") ++ ["bindings/Cargo.toml"] := by
      simp only [crateFiles, List.map_append, List.map_map, Function.comp_def]
      rfl
    rw [hnames] at hpaths
    exact ⟨modules, hm, hpaths, hleaves⟩

end BotBindings
