namespace BotBindings

/-- Names in ascending order, each of them once. -/
structure NameSet where
  names : List String := []
  sorted : names.Pairwise (· < ·) := by simp

namespace NameSet

def empty : NameSet := {}

def place (name : String) : List String → List String
  | [] => [name]
  | n :: ns => if name < n then name :: n :: ns else if n < name then n :: place name ns else n :: ns

theorem mem_place {name x : String} {ns : List String} :
    x ∈ place name ns ↔ x = name ∨ x ∈ ns := by
  induction ns with
  | nil => simp [place]
  | cons n ns ih =>
    unfold place
    split
    · simp
    · split
      · simp only [List.mem_cons, ih]; grind
      · next h₁ h₂ =>
        have : name = n := by grind
        simp [this]

theorem sorted_place {name : String} {ns : List String} (h : ns.Pairwise (· < ·)) :
    (place name ns).Pairwise (· < ·) := by
  induction ns with
  | nil => simp [place]
  | cons n ns ih =>
    rw [List.pairwise_cons] at h
    unfold place
    split
    · next hn =>
      rw [List.pairwise_cons, List.pairwise_cons]
      refine ⟨fun x hx => ?_, h⟩
      rcases List.mem_cons.1 hx with rfl | hx
      · exact hn
      · exact String.lt_trans hn (h.1 x hx)
    · split
      · next hn =>
        rw [List.pairwise_cons]
        refine ⟨fun x hx => ?_, ih h.2⟩
        rcases mem_place.1 hx with rfl | hx
        · exact hn
        · exact h.1 x hx
      · exact List.pairwise_cons.2 h

def has (s : NameSet) (name : String) : Bool := s.names.contains name

def insert (s : NameSet) (name : String) : NameSet := ⟨place name s.names, sorted_place s.sorted⟩

def ofList (names : List String) : NameSet := names.foldl insert empty

@[simp] theorem has_insert {s : NameSet} {name x : String} :
    (s.insert name).has x = (x == name || s.has x) := by
  rw [Bool.eq_iff_iff]
  simp [has, insert, mem_place]

end NameSet

end BotBindings
