import BotBindings.Proofs.Except
import BotBindings.Proofs.SchemaForm
import Mathlib.Data.List.Pairwise
import Mathlib.Logic.Relation

namespace BotBindings

namespace Json

open Value

/-- A kind of edit of a tree. -/
abbrev Change := Value → Value → Prop

/-- A tree that stays as it is. -/
def Fixed : Change := fun _ _ => False

/-- One edit of a record. `known` has the known keys in their order, each with the edits that its value
may undergo. -/
inductive RecordEdit (known : List (String × Change)) : Change where
  | insert (before behind : List (String × Value)) {k : String} (v : Value)
      (hk : known.lookup k = none) :
      RecordEdit known (.object (before ++ behind)) (.object (before ++ (k, v) :: behind))
  | permute {ms ms' : List (String × Value)} (h : ms.Perm ms') :
      RecordEdit known (.object ms) (.object ms')
  | member (before behind : List (String × Value)) {k : String} {R : Change} {v v' : Value}
      (hk : known.lookup k = some R) (hv : R v v') :
      RecordEdit known (.object (before ++ (k, v) :: behind))
        (.object (before ++ (k, v') :: behind))
  | item (before behind : List Value) {k : String} {R : Change} {v v' : Value}
      (hk : known[before.length]? = some (k, R)) (hv : R v v') :
      RecordEdit known (.array (before ++ v :: behind)) (.array (before ++ v' :: behind))

/-- One edit in an item of a list. -/
inductive ItemEdit (R : Change) : Change where
  | item (before behind : List Value) {v v' : Value} (hv : R v v') :
      ItemEdit R (.array (before ++ v :: behind)) (.array (before ++ v' :: behind))

/-- One edit in an entry of a map. -/
inductive EntryEdit (R : Change) : Change where
  | entry (before behind : List (String × Value)) (k : String) {v v' : Value} (hv : R v v') :
      EntryEdit R (.object (before ++ (k, v) :: behind)) (.object (before ++ (k, v') :: behind))

variable {δ α β : Type} {R : Change} {decode : Value → Option α}

/-- A decoder does not notice edits of a kind. -/
def Unnoticed (R : Change) (decode : Value → Option α) : Prop :=
  ∀ v v', R v v' → decode v = decode v'

theorem unnoticed_fixed : Unnoticed Fixed decode := fun _ _ h => h.elim

namespace Unnoticed

theorem itemsAs (h : Unnoticed R decode) {v v' : Value} (hv : R v v') (before behind : List Value) :
    itemsAs decode (before ++ v :: behind) = itemsAs decode (before ++ v' :: behind) := by
  induction before with
  | nil => rw [List.nil_append, List.nil_append, Value.itemsAs, Value.itemsAs, h v v' hv]
  | cons w before ih => rw [List.cons_append, List.cons_append, Value.itemsAs, Value.itemsAs, ih]

theorem entriesAs (h : Unnoticed R decode) {v v' : Value} (hv : R v v') (k : String)
    (before behind : List (String × Value)) :
    entriesAs decode (before ++ (k, v) :: behind) =
      entriesAs decode (before ++ (k, v') :: behind) := by
  induction before with
  | nil => rw [List.nil_append, List.nil_append, Value.entriesAs, Value.entriesAs, h v v' hv]
  | cons m before ih =>
    rw [List.cons_append, List.cons_append, Value.entriesAs, Value.entriesAs, ih]

/-- A list is no `null`, so that it does not matter whether there may be none. -/
theorem optionalList (h : Unnoticed R decode) :
    Unnoticed (ItemEdit R) (asOption (asList decode)) := by
  intro v v' hv
  cases hv with
  | item before behind hv =>
    change (Value.itemsAs decode _).map some = (Value.itemsAs decode _).map some
    rw [h.itemsAs hv]

theorem map (h : Unnoticed R decode) : Unnoticed (EntryEdit R) (asMap decode) := by
  intro v v' hv
  cases hv with
  | entry before behind k hv => exact h.entriesAs hv k before behind

end Unnoticed

namespace Slot

variable {s t : Slot δ}

/-- A slot of a key that does not notice the edits which its value may undergo. -/
structure Ignores (s : Slot δ) (e : String × Change) : Prop where
  key_eq : s.key = e.1
  unnoticed : Unnoticed e.2 s.decode

theorem ignores_fixed (s : Slot δ) : s.Ignores (s.key, Fixed) := ⟨rfl, unnoticed_fixed⟩

theorem ignores_of (h : Unnoticed R decode) {key : String} {get : δ → Option α} {put : α → δ → δ}
    {value : Reader α} {hreads : Reads value decode} {hput : ∀ a draft, get (put a draft) = some a} :
    (Slot.of key get put hreads hput).Ignores (key, R) where
  key_eq := rfl
  unnoticed v v' hv := congrArg (Option.map put) (h v v' hv)

/-- A member that comes twice is refused. -/
theorem take_take (s : Slot δ) (draft : δ) (v w : Value) :
    ((s.take draft v).bind fun d => s.take d w) = none := by
  rw [take]
  split
  · rfl
  · cases hp : s.decode v with
    | none => rfl
    | some put =>
      change s.take (put draft) w = none
      rw [take, if_pos (s.given_put v put draft hp)]

theorem Independent.take_comm (h : Independent s t) (draft : δ) (v w : Value) :
    ((s.take draft v).bind fun d => t.take d w) = (t.take draft w).bind fun d => s.take d v := by
  cases hp : s.decode v with
  | none =>
    have hs (d : δ) : s.take d v = none := by rw [take, hp, Option.map_none, ite_self]
    rw [hs, Option.bind_none]
    simp only [hs, Option.bind_fun_none]
  | some p =>
    cases hq : t.decode w with
    | none =>
      have ht (d : δ) : t.take d w = none := by rw [take, hq, Option.map_none, ite_self]
      rw [ht, Option.bind_none]
      simp only [ht, Option.bind_fun_none]
    | some q =>
      have hs (d : δ) : s.take d v = if s.member.given d then none else some (p d) := by
        rw [take, hp, Option.map_some]
      have ht (d : δ) : t.take d w = if t.member.given d then none else some (q d) := by
        rw [take, hq, Option.map_some]
      have hleft : s.member.given (q draft) = s.member.given draft := h.left w q draft hq
      have hright : t.member.given (p draft) = t.member.given draft := h.right v p draft hp
      have hcomm : p (q draft) = q (p draft) := h.comm v w p q draft hp hq
      rw [hs, ht]
      by_cases hgs : s.member.given draft = true
      · by_cases hgt : t.member.given draft = true
        · rw [if_pos hgs, if_pos hgt]
          rfl
        · rw [if_pos hgs, if_neg hgt, Option.bind_some, hs, hleft, if_pos hgs]
          rfl
      · by_cases hgt : t.member.given draft = true
        · rw [if_neg hgs, if_pos hgt, Option.bind_some, ht, hright, if_pos hgt]
          rfl
        · rw [if_neg hgs, if_neg hgt, Option.bind_some, Option.bind_some, hs, ht, hleft, hright,
            if_neg hgs, if_neg hgt, hcomm]

end Slot

namespace Form

variable {f : Form δ α}

theorem take_of_find {m : String × Value} {s : Slot δ} (hs : f.slots.find? (·.key = m.1) = some s)
    (draft : δ) : f.take draft m = s.take draft m.2 := by
  rw [take, hs]

theorem take_of_unknown {m : String × Value} (hm : f.slots.find? (·.key = m.1) = none)
    (draft : δ) : f.take draft m = some draft := by
  rw [take, hm]

/-- Two members make the same of a draft in either order. -/
theorem take_comm (draft : δ) (m m' : String × Value) :
    ((f.take draft m).bind fun d => f.take d m') = (f.take draft m').bind fun d => f.take d m := by
  cases hs : f.slots.find? (·.key = m.1) with
  | none =>
    simp only [take_of_unknown hs, Option.bind_some, Option.bind_fun_some]
  | some s =>
    cases ht : f.slots.find? (·.key = m'.1) with
    | none =>
      simp only [take_of_unknown ht, Option.bind_some, Option.bind_fun_some]
    | some t =>
      simp only [take_of_find hs, take_of_find ht]
      by_cases hst : s = t
      · -- one key twice is refused in either order
        rw [hst, t.take_take, t.take_take]
      · have hms : s ∈ f.slots := List.mem_of_find?_eq_some hs
        have hmt : t ∈ f.slots := List.mem_of_find?_eq_some ht
        have h : Slot.Independent s t := f.independent.forall hms hmt hst
        exact h.take_comm draft m.2 m'.2

theorem fill_perm {ms ms' : List (String × Value)} (h : ms.Perm ms') (draft : δ) :
    f.fill draft ms = f.fill draft ms' := by
  induction h generalizing draft with
  | nil => rfl
  | cons m _ ih =>
    rw [fill_cons, fill_cons]
    congr 1
    funext d
    exact ih d
  | swap m m' ms =>
    have hcomm : ((f.take draft m').bind fun d => f.take d m) =
        (f.take draft m).bind fun d => f.take d m' := take_comm draft m' m
    simp only [fill_cons]
    rw [← Option.bind_assoc, hcomm, Option.bind_assoc]
  | trans _ _ ih ih' => rw [ih, ih']

/-- The items of a list fill a draft as they did before an edit of one of them. -/
theorem fillItems_edit {slots : List (Slot δ)} {known : List (String × Change)}
    (h : List.Forall₂ Slot.Ignores slots known)
    {before behind : List Value} {k : String} {v v' : Value}
    (hk : known[before.length]? = some (k, R)) (hv : R v v') (draft : δ) :
    fillItems draft slots (before ++ v :: behind) = fillItems draft slots (before ++ v' :: behind) := by
  induction h generalizing before draft with
  | nil => cases hk
  | @cons s e slots known hse _ ih =>
    cases before with
    | nil =>
      have he : e = (k, R) := Option.some.inj hk
      have hR : Unnoticed R s.decode := by
        rw [he] at hse
        exact hse.unnoticed
      rw [List.nil_append, List.nil_append, fillItems, fillItems, hR v v' hv]
    | cons w before =>
      rw [List.cons_append, List.cons_append, fillItems, fillItems]
      congr 1
      funext put
      exact ih hk (put draft)

/-- The slot of a key does not notice the edits that its value may undergo. -/
theorem find?_rel_lookup {slots : List (Slot δ)} {known : List (String × Change)}
    (h : List.Forall₂ Slot.Ignores slots known) (k : String) :
    Option.Rel (fun s R => Unnoticed R s.decode) (slots.find? (·.key = k)) (known.lookup k) := by
  induction h with
  | nil => exact .none
  | @cons s e slots known hse _ ih =>
    obtain ⟨l, R⟩ := e
    have hl : s.key = l := hse.key_eq
    by_cases hk : s.key = k
    · have hlookup : List.lookup k ((l, R) :: known) = some R := by
        rw [← hk, hl]
        exact List.lookup_cons_self
      rw [List.find?_cons_of_pos (by exact decide_eq_true hk), hlookup]
      exact .some hse.unnoticed
    · have hlookup : List.lookup k ((l, R) :: known) = known.lookup k := by
        rw [List.lookup_cons, beq_false_of_ne]
        exact fun h => hk (hl.trans h.symm)
      rw [List.find?_cons_of_neg (by exact fun h => hk (of_decide_eq_true h)), hlookup]
      exact ih

/-- A record is decoded as it was before an edit, as long as no slot notices the edits of its value. -/
theorem unnoticed_edit {known : List (String × Change)}
    (h : List.Forall₂ Slot.Ignores f.slots known) :
    Unnoticed (RecordEdit known) f.decode := by
  intro v v' hv
  cases hv with
  | @insert before behind k v hk =>
    have hrel : Option.Rel (fun s R => Unnoticed R s.decode) (f.slots.find? (·.key = k))
        (known.lookup k) := find?_rel_lookup h k
    have hfind : f.slots.find? (·.key = k) = none := by
      cases hs : f.slots.find? (·.key = k) with
      | none => rfl
      | some s =>
        rw [hs, hk] at hrel
        cases hrel
    -- an unknown key leaves any draft as it is
    have hskip (d : δ) : f.fill d ((k, v) :: behind) = f.fill d behind := by
      rw [fill_cons, take_of_unknown hfind, Option.bind_some]
    change (f.fill f.shape.blank (before ++ behind)).bind f.finish =
      (f.fill f.shape.blank (before ++ (k, v) :: behind)).bind f.finish
    simp only [fill_append, hskip]
  | permute hms => exact congrArg (Option.bind · f.finish) (fill_perm hms f.shape.blank)
  | @member before behind k R v v' hk hv =>
    have hrel : Option.Rel (fun s R => Unnoticed R s.decode) (f.slots.find? (·.key = k))
        (known.lookup k) := find?_rel_lookup h k
    have htake (d : δ) : f.take d (k, v) = f.take d (k, v') := by
      cases hs : f.slots.find? (·.key = k) with
      | none => rw [take_of_unknown hs, take_of_unknown hs]
      | some s =>
        rw [hs, hk] at hrel
        cases hrel with
        | some hR => rw [take_of_find hs, take_of_find hs, Slot.take, Slot.take, hR v v' hv]
    change (f.fill f.shape.blank (before ++ (k, v) :: behind)).bind f.finish =
      (f.fill f.shape.blank (before ++ (k, v') :: behind)).bind f.finish
    simp only [fill_append, fill_cons, htake]
  | item before behind hk hv =>
    exact congrArg (Option.bind · f.finish) (fillItems_edit h hk hv f.shape.blank)

end Form

end Json

end BotBindings
