namespace BotBindings.Schema

/-- Entries under distinct keys, in an order of their own. -/
structure Table (α : Type) where
  entries : List (String × α) := []
  nodup : (entries.map Prod.fst).Nodup := by simp

namespace Table

variable {α : Type}

instance : Inhabited (Table α) := ⟨{}⟩

def keys (t : Table α) : List String := t.entries.map Prod.fst

def values (t : Table α) : List α := t.entries.map Prod.snd

def size (t : Table α) : Nat := t.entries.length

def has (t : Table α) (key : String) : Bool := t.keys.contains key

def get? (t : Table α) (key : String) : Option α := t.entries.lookup key

/-- Puts `a` at the place of an entry with this key, else at the end. -/
def put (key : String) (a : α) : List (String × α) → List (String × α)
  | [] => [(key, a)]
  | (k, b) :: rest => if k = key then (key, a) :: rest else (k, b) :: put key a rest

theorem mem_keys_put {key k : String} {a : α} {entries : List (String × α)} :
    k ∈ (put key a entries).map Prod.fst ↔ k = key ∨ k ∈ entries.map Prod.fst := by
  induction entries with
  | nil => simp [put]
  | cons e rest ih =>
    unfold put
    split
    · next h => simp [← h]
    · rw [List.map_cons, List.mem_cons, ih, List.map_cons, List.mem_cons]
      grind

theorem nodup_put {key : String} {a : α} {entries : List (String × α)}
    (h : (entries.map Prod.fst).Nodup) : ((put key a entries).map Prod.fst).Nodup := by
  induction entries with
  | nil => simp [put]
  | cons e rest ih =>
    rw [List.map_cons, List.nodup_cons] at h
    unfold put
    split
    · next he => simpa [← he] using h
    · next he =>
      rw [List.map_cons, List.nodup_cons, mem_keys_put]
      exact ⟨fun hk => hk.elim he h.1, ih h.2⟩

/-- A key keeps its first place and takes its last entry. -/
def insert (t : Table α) (key : String) (a : α) : Table α :=
  ⟨put key a t.entries, nodup_put t.nodup⟩

def ofList (entries : List (String × α)) : Table α :=
  entries.foldl (fun t (k, a) => t.insert k a) {}

end Table

end BotBindings.Schema
