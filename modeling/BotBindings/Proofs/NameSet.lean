import BotBindings.NameSet

namespace BotBindings.NameSet

variable {s t : NameSet} {name x : String}

theorem has_iff : s.has x = true ↔ x ∈ s.names := by
  simp [has]

theorem mem_insert : x ∈ (s.insert name).names ↔ x = name ∨ x ∈ s.names := mem_place

theorem nodup : s.names.Nodup := s.sorted.imp String.ne_of_lt

/-- Names stand in ascending order, so there is one list for the same members. -/
theorem eq_of_mem_iff (h : ∀ x, x ∈ s.names ↔ x ∈ t.names) : s = t := by
  have hp : s.names.Perm t.names := (List.perm_ext_iff_of_nodup s.nodup t.nodup).2 h
  have he : s.names = t.names :=
    hp.eq_of_pairwise (fun _ _ _ _ h h' => absurd h' (String.lt_asymm h)) s.sorted t.sorted
  cases s
  cases t
  simpa using he

theorem insert_of_mem (h : name ∈ s.names) : s.insert name = s := by
  apply eq_of_mem_iff
  intro x
  rw [mem_insert]
  exact or_iff_right_of_imp fun hx => hx ▸ h

/-- Adds names one after the other. -/
def insertAll (s : NameSet) (names : List String) : NameSet := names.foldl insert s

theorem insertAll_append (ns ns' : List String) :
    s.insertAll (ns ++ ns') = (s.insertAll ns).insertAll ns' := List.foldl_append

theorem mem_insertAll {ns : List String} :
    x ∈ (s.insertAll ns).names ↔ x ∈ s.names ∨ x ∈ ns := by
  induction ns generalizing s with
  | nil => simp [insertAll]
  | cons n ns ih =>
    change x ∈ ((s.insert n).insertAll ns).names ↔ _
    rw [ih, mem_insert, List.mem_cons, or_assoc, or_left_comm]

theorem mem_ofList {ns : List String} : x ∈ (ofList ns).names ↔ x ∈ ns := by
  change x ∈ (insertAll empty ns).names ↔ _
  simp [mem_insertAll, empty]

/-- Neither order nor repetition of the names matters. -/
theorem ofList_congr {ns ns' : List String} (h : ∀ x, x ∈ ns ↔ x ∈ ns') :
    ofList ns = ofList ns' := by
  apply eq_of_mem_iff
  intro x
  rw [mem_ofList, mem_ofList, h]

end BotBindings.NameSet
