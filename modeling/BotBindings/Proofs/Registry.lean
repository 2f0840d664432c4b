import BotBindings.Binding.Registry
import BotBindings.Proofs.NameSet
import BotBindings.Proofs.Token

namespace BotBindings

/-- No parent but this one has a claim on the subtype. -/
def Free (claims : List (String × String)) (parent s : String) : Prop :=
  ∀ p, claims.lookup s = some p → p = parent

namespace Registry

/-- The name in a token is that of a scalar or of a known type. -/
def knows (r : Registry) (token : String) : Bool :=
  (Descriptor.ofToken token).elementObject?.all r.known.has

theorem ofToken?_known (r : Registry) (token : String) :
    Descriptor.ofToken? r.known.has token =
      if r.knows token then some (Descriptor.ofToken token) else none :=
  Descriptor.ofToken?_eq _ _

def firstUnknown? (r : Registry) (tokens : List String) : Option String :=
  tokens.find? (!r.knows ·)

theorem firstUnknown?_append (r : Registry) (ts us : List String) :
    r.firstUnknown? (ts ++ us) = (r.firstUnknown? ts).or (r.firstUnknown? us) := List.find?_append

theorem firstUnknown?_congr {r r' : Registry} (h : r'.known = r.known) (ts : List String) :
    r'.firstUnknown? ts = r.firstUnknown? ts := by
  unfold firstUnknown? knows
  rw [h]

theorem firstUnknown?_eq_none_iff {r : Registry} {ts : List String} :
    r.firstUnknown? ts = none ↔ ∀ t ∈ ts, Descriptor.ofToken? r.known.has t ≠ none := by
  simp [firstUnknown?, ofToken?_known]

/-- The registry after tokens: the objects in their lists are noted. -/
def visit (r : Registry) (tokens : List String) : Registry :=
  { r with
    arrays := r.arrays.insertAll (Descriptor.arrayObjects tokens)
    arraysOfArrays := r.arraysOfArrays.insertAll (Descriptor.arrayOfArrayObjects tokens) }

theorem visit_append (r : Registry) (ts us : List String) :
    r.visit (ts ++ us) = (r.visit ts).visit us := by
  simp only [visit, Descriptor.arrayObjects, Descriptor.arrayOfArrayObjects,
    List.filterMap_append, NameSet.insertAll_append]

theorem visit_cons (r : Registry) (t : String) (ts : List String) :
    r.visit (t :: ts) = (r.visit [t]).visit ts := visit_append r [t] ts

theorem has_arrays_visit {r : Registry} {ts : List String} {name : String} :
    (r.visit ts).arrays.has name = true ↔
      r.arrays.has name = true ∨ ∃ t ∈ ts, Descriptor.ofToken t = .array (.object name) := by
  rw [NameSet.has_iff, NameSet.has_iff]
  change name ∈ (r.arrays.insertAll _).names ↔ _
  rw [NameSet.mem_insertAll, Descriptor.mem_arrayObjects]

theorem has_arraysOfArrays_visit {r : Registry} {ts : List String} {name : String} :
    (r.visit ts).arraysOfArrays.has name = true ↔ r.arraysOfArrays.has name = true ∨
      ∃ t ∈ ts, Descriptor.ofToken t = .arrayOfArray (.object name) := by
  rw [NameSet.has_iff, NameSet.has_iff]
  change name ∈ (r.arraysOfArrays.insertAll _).names ↔ _
  rw [NameSet.mem_insertAll, Descriptor.mem_arrayOfArrayObjects]

/-- Pairs of a subtype and its parent, without those whose subtype stands earlier. -/
def merge (parents : List (String × String)) : List (String × String) → List (String × String)
  | [] => parents
  | c :: cs => if (parents.lookup c.1).isSome then merge parents cs else merge (parents ++ [c]) cs

/-- The registry after parents are named. -/
def claim (r : Registry) (cs : List (String × String)) : Registry :=
  { r with parents := merge r.parents cs }

theorem claim_claim (r : Registry) (cs cs' : List (String × String)) :
    (r.claim cs).claim cs' = r.claim (cs ++ cs') := by
  have h (ps : List (String × String)) : merge (merge ps cs) cs' = merge ps (cs ++ cs') := by
    induction cs generalizing ps with
    | nil => rfl
    | cons c cs ih =>
      simp only [List.cons_append, merge]
      split <;> exact ih _
  simp only [claim, h]

theorem claim_cons (r : Registry) (c : String × String) (cs : List (String × String)) :
    r.claim (c :: cs) = (r.claim [c]).claim cs := (claim_claim r [c] cs).symm

theorem claim_visit (r : Registry) (ts : List String) (cs : List (String × String)) :
    (r.visit ts).claim cs = (r.claim cs).visit ts := rfl

theorem lookup_merge (ps cs : List (String × String)) (s : String) :
    (merge ps cs).lookup s = (ps ++ cs).lookup s := by
  induction cs generalizing ps with
  | nil => simp [merge]
  | cons c cs ih =>
    obtain ⟨x, parent⟩ := c
    unfold merge
    split
    · next h =>
      -- the pair that is left out stands behind one for the same subtype
      rw [ih, List.lookup_append, List.lookup_append]
      by_cases hs : s = x
      · obtain ⟨p, hp⟩ := Option.isSome_iff_exists.1 h
        rw [hs, hp]
        rfl
      · have he : (s == x) = false := beq_false_of_ne hs
        rw [List.lookup_cons, he]
    · rw [ih]
      simp

theorem parent?_claim (r : Registry) (cs : List (String × String)) (s : String) :
    (r.claim cs).parent? s = (r.parents ++ cs).lookup s := lookup_merge r.parents cs s

theorem free_claim {r : Registry} {cs : List (String × String)} {parent s : String}
    (hr : Free r.parents parent s) (hc : ∀ c ∈ cs, c.1 = s → c.2 = parent) :
    Free (r.claim cs).parents parent s := by
  intro p hp
  change (r.claim cs).parent? s = some p at hp
  rw [parent?_claim, List.lookup_append, Option.or_eq_some_iff] at hp
  rcases hp with hp | ⟨-, hp⟩
  · exact hr p hp
  · obtain ⟨l, l', hl, -⟩ := List.lookup_eq_some_iff.1 hp
    exact hc (s, p) (by simp [hl]) rfl

/-- Naming parents that are there changes nothing. -/
theorem claim_eq_self {r : Registry} {cs : List (String × String)}
    (h : ∀ c ∈ cs, (r.parent? c.1).isSome) : r.claim cs = r := by
  have hm : merge r.parents cs = r.parents := by
    induction cs with
    | nil => rfl
    | cons c cs ih =>
      unfold merge
      rw [if_pos (show (r.parents.lookup c.1).isSome from h c List.mem_cons_self)]
      exact ih fun c' hc => h c' (List.mem_cons_of_mem _ hc)
  unfold claim
  rw [hm]

theorem addParent_eq {r : Registry} {s parent : String} (h : Free r.parents parent s) :
    r.addParent s parent = .ok (r.claim [(s, parent)]) := by
  unfold addParent
  cases hp : r.parent? s with
  | none =>
    have hl : r.parents.lookup s = none := hp
    simp [claim, merge, hl]
  | some p =>
    have hs : (r.parent? s).isSome := by rw [hp]; rfl
    rw [claim_eq_self (by simpa using hs)]
    exact if_pos (h p hp)

end Registry

end BotBindings
