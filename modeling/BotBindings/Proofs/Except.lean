import Mathlib.Data.List.Forall2

namespace BotBindings

variable {ε α β γ : Type}

theorem exists_eq_ok {x : Except ε α} (h : x.isOk = true) : ∃ a, x = .ok a := by
  cases x with
  | error e => cases h
  | ok a => exact ⟨a, rfl⟩

theorem bind_eq_ok_iff {x : Except ε α} {f : α → Except ε β} {b : β} :
    (x >>= f) = .ok b ↔ ∃ a, x = .ok a ∧ f a = .ok b := by
  cases x <;> simp [bind, Except.bind]

theorem unit_bind_eq_ok_iff {x : Except ε Unit} {f : Unit → Except ε β} {b : β} :
    (x >>= f) = .ok b ↔ x = .ok () ∧ f () = .ok b := by
  cases x <;> simp [bind, Except.bind]

theorem map_eq_ok_iff {x : Except ε α} {f : α → β} {b : β} :
    x.map f = .ok b ↔ ∃ a, x = .ok a ∧ f a = b := by
  cases x <;> simp [Except.map]

theorem map_eq_error_iff {x : Except ε α} {f : α → β} {e : ε} :
    x.map f = .error e ↔ x = .error e := by
  cases x <;> simp [Except.map]

theorem toOption_eq_some_iff {x : Except ε α} {a : α} : x.toOption = some a ↔ x = .ok a := by
  cases x with
  | error e => exact ⟨nofun, nofun⟩
  | ok b =>
    constructor
    · intro h
      exact congrArg Except.ok (Option.some.inj h)
    · intro h
      exact congrArg some (Except.ok.inj h)

theorem toOption_eq_none_iff {x : Except ε α} : x.toOption = none ↔ ∃ e, x = .error e := by
  cases x with
  | error e => exact ⟨fun _ => ⟨e, rfl⟩, fun _ => rfl⟩
  | ok a => exact ⟨nofun, nofun⟩

theorem mapM_eq_ok_iff {f : α → Except ε β} {xs : List α} {ys : List β} :
    xs.mapM f = .ok ys ↔ List.Forall₂ (fun x y => f x = .ok y) xs ys := by
  induction xs generalizing ys with
  | nil =>
    rw [List.forall₂_nil_left_iff]
    exact ⟨fun h => (Except.ok.inj h).symm, fun h => h ▸ rfl⟩
  | cons x xs ih =>
    rw [List.mapM_cons, bind_eq_ok_iff]
    constructor
    · rintro ⟨y, hy, h⟩
      obtain ⟨zs, hzs, h⟩ := bind_eq_ok_iff.1 h
      cases h
      exact .cons hy (ih.1 hzs)
    · rintro (_ | ⟨hy, h⟩)
      exact ⟨_, hy, bind_eq_ok_iff.2 ⟨_, ih.2 h, rfl⟩⟩

theorem exists_of_mem_mapM {f : α → Except ε β} {xs : List α} {ys : List β}
    (hm : xs.mapM f = .ok ys) {x : α} (hx : x ∈ xs) : ∃ y ∈ ys, f x = .ok y := by
  rw [mapM_eq_ok_iff] at hm
  induction hm with
  | nil => cases hx
  | @cons a b xs ys hab _ ih =>
    rcases List.mem_cons.1 hx with rfl | hx
    · exact ⟨b, List.mem_cons_self, hab⟩
    · obtain ⟨y, hy, hxy⟩ := ih hx
      exact ⟨y, List.mem_cons_of_mem b hy, hxy⟩

theorem exists_source_of_mapM {f : α → Except ε β} {xs : List α} {ys : List β}
    (hm : xs.mapM f = .ok ys) {y : β} (hy : y ∈ ys) : ∃ x ∈ xs, f x = .ok y := by
  rw [mapM_eq_ok_iff] at hm
  induction hm with
  | nil => cases hy
  | @cons a b xs ys hab _ ih =>
    rcases List.mem_cons.1 hy with rfl | hy
    · exact ⟨a, List.mem_cons_self, hab⟩
    · obtain ⟨x, hx, hxy⟩ := ih hy
      exact ⟨x, List.mem_cons_of_mem a hx, hxy⟩

/-- Many computations fail as one of them does. -/
theorem exists_error_of_mapM {f : α → Except ε β} {xs : List α} {e : ε}
    (h : xs.mapM f = .error e) : ∃ x ∈ xs, f x = .error e := by
  induction xs with
  | nil => cases h
  | cons x xs ih =>
    rw [List.mapM_cons] at h
    cases hx : f x with
    | error e' =>
      rw [hx] at h
      cases h
      exact ⟨x, List.mem_cons_self, hx⟩
    | ok y =>
      rw [hx] at h
      cases hxs : xs.mapM f with
      | error e' =>
        obtain ⟨z, hz, he⟩ := ih (hxs.trans (by rw [hxs] at h; cases h; rfl))
        exact ⟨z, List.mem_cons_of_mem x hz, he⟩
      | ok ys =>
        rw [hxs] at h
        cases h

/-- What is read off each value is read off all of them in their order. -/
theorem flatMap_of_mapM {f : α → Except ε β} {view : β → List γ} {image : α → List γ}
    {xs : List α} {ys : List β} (hm : xs.mapM f = .ok ys)
    (h : ∀ x ∈ xs, ∀ y, f x = .ok y → view y = image x) :
    ys.flatMap view = xs.flatMap image := by
  rw [mapM_eq_ok_iff] at hm
  induction hm with
  | nil => rfl
  | @cons x y xs ys hx _ ih =>
    have hy : view y = image x := h x List.mem_cons_self y hx
    have hys : ys.flatMap view = xs.flatMap image :=
      ih fun z hz => h z (List.mem_cons_of_mem x hz)
    rw [List.flatMap_cons, List.flatMap_cons, hy, hys]

theorem forM_eq_ok {f : α → Except ε PUnit} {xs : List α} (h : ∀ x ∈ xs, f x = .ok ()) :
    xs.forM f = .ok () := by
  induction xs with
  | nil => rfl
  | cons x xs ih =>
    have hx : f x = .ok () := h x List.mem_cons_self
    have hxs : xs.forM f = .ok () := ih fun y hy => h y (List.mem_cons_of_mem x hy)
    change (f x >>= fun _ => xs.forM f) = .ok ()
    rw [hx]
    exact hxs

/-- The computation gives a value, and one with a property. -/
def Makes (x : Except ε α) (Q : α → Prop) : Prop := ∃ a, x = .ok a ∧ Q a

namespace Makes

variable {x : Except ε α} {P Q : α → Prop} {R : β → Prop}

theorem pure {a : α} (h : Q a) : Makes (ε := ε) (Pure.pure a) Q := ⟨a, rfl, h⟩

theorem bind {f : α → Except ε β} (hx : Makes x Q) (hf : ∀ a, Q a → Makes (f a) R) :
    Makes (x >>= f) R := by
  obtain ⟨a, rfl, ha⟩ := hx
  exact hf a ha

theorem map {f : α → β} (hx : Makes x Q) (hf : ∀ a, Q a → R (f a)) : Makes (x.map f) R := by
  obtain ⟨a, rfl, ha⟩ := hx
  exact ⟨f a, rfl, hf a ha⟩

theorem mono (hx : Makes x P) (h : ∀ a, P a → Q a) : Makes x Q := by
  obtain ⟨a, hx, ha⟩ := hx
  exact ⟨a, hx, h a ha⟩

theorem mapM {f : α → Except ε β} {xs : List α} (h : ∀ x ∈ xs, Makes (f x) R) :
    Makes (xs.mapM f) fun ys => ∀ y ∈ ys, R y := by
  induction xs with
  | nil => exact pure fun y hy => by cases hy
  | cons x xs ih =>
    have hxs : Makes (xs.mapM f) fun ys => ∀ y ∈ ys, R y :=
      ih fun y hy => h y (List.mem_cons_of_mem x hy)
    rw [List.mapM_cons]
    refine (h x List.mem_cons_self).bind fun y hy => hxs.bind fun ys hys => pure ?_
    exact List.forall_mem_cons.2 ⟨hy, hys⟩

end Makes

end BotBindings
