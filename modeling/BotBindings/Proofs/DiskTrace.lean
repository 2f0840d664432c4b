import BotBindings.Command.Run

namespace BotBindings

/-- A change that is asked of a disk. -/
inductive DiskStep where
  | makeDirs (path : String)
  | write (path content : String)
  | rename (source target : String)
  deriving DecidableEq, Repr

/-- The steps that put a content at its path. -/
def fileSteps (file : String × String) : List DiskStep :=
  ((Path.parent? file.1).filter (· ≠ "")).toList.map .makeDirs ++
    [.write (Path.temporary file.1) file.2, .rename (Path.temporary file.1) file.1]

variable {W α β : Type} {log : W → List DiskStep}

/-- From every state the computation gives `a`, with just these steps taken on the disk. -/
structure Takes (log : W → List DiskStep) (x : StateM W α) (steps : List DiskStep) (a : α) :
    Prop where
  value : ∀ w, (x.run w).1 = a
  steps : ∀ w, log (x.run w).2 = log w ++ steps

/-- The computation takes no step on the disk. -/
def Untouched (log : W → List DiskStep) (x : StateM W α) : Prop := ∀ w, log (x.run w).2 = log w

namespace Takes

variable {x : StateM W α} {f : α → StateM W β} {steps steps' : List DiskStep} {a : α} {b : β}

theorem pure : Takes log (pure a) [] a := ⟨fun _ => rfl, fun _ => (List.append_nil _).symm⟩

theorem bind (hx : Takes log x steps a) (hf : Takes log (f a) steps' b) :
    Takes log (x >>= f) (steps ++ steps') b := by
  have hrun (w : W) : (x >>= f).run w = (f a).run (x.run w).2 := by
    rw [← hx.value w]
    rfl
  constructor
  · intro w
    rw [hrun, hf.value]
  · intro w
    rw [hrun, hf.steps, hx.steps, List.append_assoc]

theorem untouched (h : Takes log x [] a) : Untouched log x := fun w =>
  (h.steps w).trans (List.append_nil _)

end Takes

namespace Untouched

variable {x : StateM W α} {f : α → StateM W β} {a : α}

theorem pure : Untouched log (pure a) := fun _ => rfl

theorem bind (hx : Untouched log x) (hf : ∀ a, Untouched log (f a)) : Untouched log (x >>= f) :=
  fun w => (hf _ _).trans (hx w)

end Untouched

/-- Surroundings in which every step on the disk succeeds and is logged. -/
structure Host.Logs (h : Host (StateM W)) (log : W → List DiskStep) : Prop where
  makeDirs : ∀ path, Takes log (h.makeDirs path) [.makeDirs path] (.ok ())
  write : ∀ path content, Takes log (h.write path content) [.write path content] (.ok ())
  rename : ∀ source target, Takes log (h.rename source target) [.rename source target] (.ok ())
  tell : ∀ e, Takes log (h.tell e) [] ()
  print : ∀ text, Takes log (h.print text) [] ()
  read : ∀ path, Untouched log (h.read path)
  send : ∀ url, Untouched log (h.send url)

/-- The file that an action puts at its path. -/
def Action.file? : Action → Option (String × String)
  | write path content => some (path, content)
  | tell _ | print _ => none

theorem Takes.attempt {step : StateM W (Except FileError Unit)} {steps : List DiskStep}
    (h : Takes log step steps (.ok ())) (path : String) :
    Takes log (Disk.attempt path step) steps (.ok ()) := by
  have hok : Takes log (Disk.attempt path step) (steps ++ []) (.ok ()) := h.bind .pure
  rwa [List.append_nil] at hok

namespace Host.Logs

variable {h : Host (StateM W)}

theorem prepare (hl : h.Logs log) (path : String) :
    Takes log (h.toDisk.prepare path)
      (((Path.parent? path).filter (· ≠ "")).toList.map .makeDirs) (.ok ()) := by
  unfold Disk.prepare
  cases Path.parent? path with
  | none => exact .pure
  | some dir =>
    by_cases hd : dir = ""
    · subst hd
      exact .pure
    · have hfilter : (some dir).filter (· ≠ "") = some dir := by simp [hd]
      simp only [if_neg hd, hfilter]
      exact (hl.makeDirs dir).attempt dir

theorem writeAtomic (hl : h.Logs log) (path content : String) :
    Takes log (h.toDisk.writeAtomic path content) (fileSteps (path, content)) (.ok ()) := by
  have hwrite := (hl.write (Path.temporary path) content).attempt (Path.temporary path)
  have hrename := (hl.rename (Path.temporary path) path).attempt path
  exact (hl.prepare path).bind (hwrite.bind hrename)

theorem perform (hl : h.Logs log) (actions : List Action) :
    Takes log (h.perform actions) ((actions.filterMap Action.file?).flatMap fileSteps)
      (.ok ()) := by
  induction actions with
  | nil => exact .pure
  | cons action rest ih =>
    cases action with
    | tell e => exact (hl.tell e).bind ih
    | print text => exact (hl.print text).bind ih
    | write path content => exact (hl.writeAtomic path content).bind ih

/-- Asking for one page leaves the disk alone if going on from its answer does. -/
theorem follow_step (hl : h.Logs log) {origin url : Fetch.Url} {left : Nat}
    (hnext : ∀ n next, left = n + 1 → Untouched log (Fetch.follow h.send origin n next)) :
    Untouched log (Fetch.follow h.send origin left url) := by
  unfold Fetch.follow
  refine (hl.send url).bind fun answer => ?_
  split
  · exact .pure
  · split
    · exact .pure
    · split
      · exact .pure
      · exact .pure
      · split
        · exact .pure
        · exact hnext _ _ rfl

theorem follow (hl : h.Logs log) (origin : Fetch.Url) (left : Nat) (url : Fetch.Url) :
    Untouched log (Fetch.follow h.send origin left url) := by
  induction left generalizing url with
  | zero => exact hl.follow_step fun n next hn => absurd hn n.succ_ne_zero.symm
  | succ left ih =>
    apply hl.follow_step
    rintro _ next ⟨⟩
    exact ih next

theorem load (hl : h.Logs log) (source : Schema.Source) :
    Untouched log (source.load h.toReach) := by
  have htell (e : Event) : Untouched log (h.tell e) := (hl.tell e).untouched
  cases source with
  | path location =>
    refine (htell _).bind fun _ => (hl.read location).bind fun content => ?_
    split
    · exact .pure
    · split
      · exact .pure
      · exact (htell _).bind fun _ => .pure
  | url address =>
    have hget : Untouched log (Fetch.get h.send address) := by
      unfold Fetch.get
      split
      · exact .pure
      · exact hl.follow _ _ _
    refine (htell _).bind fun _ => hget.bind fun answer => ?_
    split
    · exact .pure
    · exact (htell _).bind fun _ => .pure

end Host.Logs

end BotBindings
