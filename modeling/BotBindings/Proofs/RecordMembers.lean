import BotBindings.Proofs.RecordReader
import Mathlib.Data.List.Nodup
import Mathlib.Data.List.Pairwise

namespace BotBindings.Json

variable {δ α β : Type}

/-- The members of a record, which is an object, or else the list of the values under its first keys. -/
def Value.members? (keys : List String) : Value → Option (List (String × Value))
  | .object ms => some ms
  | .array vs => if vs.length ≤ keys.length then some (keys.zip vs) else none
  | _ => none

namespace Slot

variable {s t : Slot δ} {draft draft' : δ} {k : String} {v : Value}

theorem take_eq_some_iff : s.take draft v = some draft' ↔
    s.member.given draft = false ∧ ∃ put, s.decode v = some put ∧ put draft = draft' := by
  unfold take
  cases s.member.given draft <;> simp

/-- The members hold nothing that this one could not take: no value that it cannot read, and at most one
in all with what the draft already has. -/
structure Fits (s : Slot δ) (draft : δ) (ms : List (String × Value)) : Prop where
  once : (ms.map Prod.fst).count s.key + (s.member.given draft).toNat ≤ 1
  readable : ∀ v, (s.key, v) ∈ ms → (s.decode v).isSome

variable {ms : List (String × Value)}

theorem fits_nil (s : Slot δ) (draft : δ) : s.Fits draft [] where
  once := (Nat.zero_add _).symm ▸ Bool.toNat_le _
  readable := nofun

theorem fits_congr (h : s.member.given draft = s.member.given draft') :
    s.Fits draft ms ↔ s.Fits draft' ms :=
  ⟨fun hf => ⟨h ▸ hf.once, hf.readable⟩, fun hf => ⟨h ▸ hf.once, hf.readable⟩⟩

theorem fits_cons_of_ne (h : s.key ≠ k) : s.Fits draft ((k, v) :: ms) ↔ s.Fits draft ms := by
  have hcount : (((k, v) :: ms).map Prod.fst).count s.key = (ms.map Prod.fst).count s.key :=
    List.count_cons_of_ne (Ne.symm h)
  have hmem (w : Value) : (s.key, w) ∈ (k, v) :: ms ↔ (s.key, w) ∈ ms := by
    simp [h]
  constructor
  · exact fun hf => ⟨hcount ▸ hf.once, fun w hw => hf.readable w ((hmem w).2 hw)⟩
  · exact fun hf => ⟨hcount ▸ hf.once, fun w hw => hf.readable w ((hmem w).1 hw)⟩

/-- A member that fits is taken, and then those behind it fit as well. -/
theorem fits_cons_self : s.Fits draft ((s.key, v) :: ms) ↔
    ∃ draft', s.take draft v = some draft' ∧ s.Fits draft' ms := by
  have hcount : (((s.key, v) :: ms).map Prod.fst).count s.key = (ms.map Prod.fst).count s.key + 1 :=
    List.count_cons_self
  constructor
  · rintro ⟨honce, hread⟩
    obtain ⟨put, hput⟩ := Option.isSome_iff_exists.1 (hread v List.mem_cons_self)
    have hgiven : s.member.given draft = false := by
      cases hg : s.member.given draft with
      | false => rfl
      | true => simp [hg] at honce
    have hafter : s.member.given (put draft) = true := s.given_put v put draft hput
    -- the member counts among `ms` before it is taken, and as given behind
    refine ⟨put draft, take_eq_some_iff.2 ⟨hgiven, put, hput, rfl⟩, ?_, fun w hw =>
      hread w (List.mem_cons_of_mem _ hw)⟩
    rw [hcount, hgiven] at honce
    rw [hafter]
    exact honce
  · rintro ⟨draft', htake, honce, hread⟩
    obtain ⟨hgiven, put, hput, rfl⟩ := take_eq_some_iff.1 htake
    rw [s.given_put v put draft hput] at honce
    refine ⟨?_, fun w hw => ?_⟩
    · rw [hcount, hgiven]
      exact honce
    · rcases List.mem_cons.1 hw with heq | hw
      · rw [(Prod.mk.inj heq).2, hput]
        rfl
      · exact hread w hw

/-- A part of a blank record is filled from members that have its key once at most and can be read. -/
theorem fits_of_iff {key : String} {get : δ → Option β} {put : β → δ → δ}
    {value : Reader β} {decode : Value → Option β} (h : Reads value decode)
    (hput : ∀ b draft, get (put b draft) = some b) {draft : δ} (hnone : get draft = none)
    {ms : List (String × Value)} : (Slot.of key get put h hput).Fits draft ms ↔
      (ms.map Prod.fst).count key ≤ 1 ∧ ∀ v, (key, v) ∈ ms → (decode v).isSome := by
  have hgiven : (Slot.of key get put h hput).member.given draft = false :=
    congrArg Option.isSome hnone
  have hread (v : Value) : ((Slot.of key get put h hput).decode v).isSome = (decode v).isSome :=
    Option.isSome_map
  constructor
  · rintro ⟨honce, hreadable⟩
    rw [hgiven] at honce
    exact ⟨honce, fun v hv => hread v ▸ hreadable v hv⟩
  · rintro ⟨honce, hreadable⟩
    refine ⟨?_, fun v hv => (hread v).symm ▸ hreadable v hv⟩
    rw [hgiven]
    exact honce

/-- What a member puts is found in one part of the draft, by which it counts as given. -/
structure Fills (s : Slot δ) (get : δ → Option β) (decode : Value → Option β) : Prop where
  given : ∀ draft, s.member.given draft = (get draft).isSome
  put : ∀ v p draft, s.decode v = some p → get (p draft) = decode v

/-- What a member puts leaves a part of the draft as it is. -/
def Leaves (s : Slot δ) (get : δ → β) : Prop :=
  ∀ v p draft, s.decode v = some p → get (p draft) = get draft

/-- A member that is taken was not there before. -/
theorem Fills.of_take {get : δ → Option β} {decode : Value → Option β} (h : s.Fills get decode)
    (htake : s.take draft v = some draft') :
    get draft = none ∧ ∃ b, decode v = some b ∧ get draft' = some b := by
  obtain ⟨hgiven, put, hput, rfl⟩ := take_eq_some_iff.1 htake
  have hafter := s.given_put v put draft hput
  rw [h.given, h.put v put draft hput] at hafter
  obtain ⟨b, hb⟩ := Option.isSome_iff_exists.1 hafter
  rw [h.given] at hgiven
  exact ⟨Option.not_isSome_iff_eq_none.1 (Bool.eq_false_iff.1 hgiven), b, hb,
    (h.put v put draft hput).trans hb⟩

theorem Leaves.of_take {get : δ → β} (h : s.Leaves get) (htake : s.take draft v = some draft') :
    get draft' = get draft := by
  obtain ⟨-, put, hput, rfl⟩ := take_eq_some_iff.1 htake
  exact h v put draft hput

theorem fills_of {key : String} {get : δ → Option β} {put : β → δ → δ} {value : Reader β}
    {decode : Value → Option β} (h : Reads value decode)
    (hput : ∀ b draft, get (put b draft) = some b) :
    (Slot.of key get put h hput).Fills get decode where
  given _ := rfl
  put v p draft hp := by
    obtain ⟨b, hb, rfl⟩ := Option.map_eq_some_iff.1 hp
    rw [hput, hb]

theorem leaves_of {γ : Type} {key : String} {get : δ → Option β} {put : β → δ → δ}
    {value : Reader β} {decode : Value → Option β} {h : Reads value decode}
    {hput : ∀ b draft, get (put b draft) = some b} {get' : δ → γ}
    (hleft : ∀ b draft, get' (put b draft) = get' draft) :
    (Slot.of key get put h hput).Leaves get' := by
  intro v p draft hp
  obtain ⟨b, -, rfl⟩ := Option.map_eq_some_iff.1 hp
  exact hleft b draft

end Slot

namespace Form

variable {f : Form δ α} {s : Slot δ} {draft draft' : δ} {k : String} {ms : List (String × Value)}

def keys (f : Form δ α) : List String := f.slots.map (·.key)

theorem take_of_notMem (h : k ∉ f.keys) (draft : δ) (v : Value) :
    f.take draft (k, v) = some draft := by
  have hfind : f.slots.find? (·.key = k) = none := by
    rw [List.find?_eq_none]
    intro s hs hk
    exact h (List.mem_map.2 ⟨s, hs, by simpa using hk⟩)
  rw [take, hfind]

/-- Taking one member does not touch what another one needs to fit. -/
theorem fits_take {t : Slot δ} {v : Value} (hs : s ∈ f.slots) (ht : t ∈ f.slots)
    (hne : t.key ≠ s.key) (h : s.take draft v = some draft') :
    t.Fits draft ms ↔ t.Fits draft' ms := by
  obtain ⟨-, put, hput, rfl⟩ := Slot.take_eq_some_iff.1 h
  have hapart : Slot.Independent t s := by
    apply f.independent.forall ht hs
    rintro rfl
    exact hne rfl
  exact Slot.fits_congr (hapart.left v put draft hput).symm

/-- No two members have the same key, and the blank record has none of them. -/
structure Proper (f : Form δ α) : Prop where
  nodup_keys : f.keys.Nodup
  given_blank : ∀ s ∈ f.slots, s.member.given f.shape.blank = false

namespace Proper

variable (hf : f.Proper)
include hf

theorem eq_of_key_eq {t : Slot δ} (hs : s ∈ f.slots) (ht : t ∈ f.slots) (h : s.key = t.key) :
    s = t := List.inj_on_of_nodup_map hf.nodup_keys hs ht h

theorem take_key (hs : s ∈ f.slots) (draft : δ) (v : Value) :
    f.take draft (s.key, v) = s.take draft v := by
  have hfind : f.slots.find? (·.key = s.key) = some s := by
    cases h : f.slots.find? (·.key = s.key) with
    | none => simpa using List.find?_eq_none.1 h s hs
    | some t =>
      have hkey : t.key = s.key := by simpa using List.find?_some h
      rw [hf.eq_of_key_eq (List.mem_of_find?_eq_some h) hs hkey]
  rw [take, hfind]

theorem forall_fits_cons {v : Value} (hs : s ∈ f.slots) :
    (∀ t ∈ f.slots, t.Fits draft ((s.key, v) :: ms)) ↔
      ∃ draft', s.take draft v = some draft' ∧ ∀ t ∈ f.slots, t.Fits draft' ms := by
  constructor
  · intro h
    obtain ⟨draft', htake, hfits⟩ := Slot.fits_cons_self.1 (h s hs)
    refine ⟨draft', htake, fun t ht => ?_⟩
    by_cases hkey : t.key = s.key
    · rwa [hf.eq_of_key_eq ht hs hkey]
    · rw [← fits_take hs ht hkey htake, ← Slot.fits_cons_of_ne hkey]
      exact h t ht
  · rintro ⟨draft', htake, h⟩ t ht
    by_cases hkey : t.key = s.key
    · rw [hf.eq_of_key_eq ht hs hkey]
      exact Slot.fits_cons_self.2 ⟨draft', htake, h s hs⟩
    · rw [Slot.fits_cons_of_ne hkey, fits_take hs ht hkey htake]
      exact h t ht

/-- Members fill a draft if they fit each slot. -/
theorem isSome_fill_iff (draft : δ) (ms : List (String × Value)) :
    (f.fill draft ms).isSome ↔ ∀ s ∈ f.slots, s.Fits draft ms := by
  induction ms generalizing draft with
  | nil => exact ⟨fun _ s _ => s.fits_nil draft, fun _ => rfl⟩
  | cons m ms ih =>
    obtain ⟨k, v⟩ := m
    rw [fill_cons]
    by_cases hk : k ∈ f.keys
    · obtain ⟨s, hs, rfl⟩ := List.mem_map.1 hk
      rw [hf.take_key hs, hf.forall_fits_cons hs]
      cases s.take draft v with
      | none => simp
      | some draft' => simpa using ih draft'
    · rw [take_of_notMem hk, Option.bind_some, ih]
      refine forall₂_congr fun s hs => (Slot.fits_cons_of_ne ?_).symm
      rintro rfl
      exact hk (List.mem_map.2 ⟨s, hs, rfl⟩)

/-- What members leave in one part of a draft is what the member for this part has, if it is there. -/
theorem get_fill {get : δ → Option β} {decode : Value → Option β} (hs : s ∈ f.slots)
    (hfills : s.Fills get decode) (hleaves : ∀ t ∈ f.slots, t.key ≠ s.key → t.Leaves get)
    (h : f.fill draft ms = some draft') :
    get draft' = (get draft).or ((ms.lookup s.key).bind decode) := by
  induction ms generalizing draft with
  | nil =>
    obtain rfl : draft = draft' := Option.some.inj h
    exact (Option.or_none).symm
  | cons m ms ih =>
    obtain ⟨k, v⟩ := m
    rw [fill_cons] at h
    obtain ⟨next, htake, hfill⟩ := Option.bind_eq_some_iff.1 h
    rw [ih hfill]
    by_cases hkey : s.key = k
    · -- the part was empty before, and what comes behind cannot fill it again
      subst hkey
      rw [hf.take_key hs] at htake
      obtain ⟨hnone, b, hb, hnext⟩ := hfills.of_take htake
      rw [hnext, hnone, List.lookup_cons_self, Option.bind_some, hb]
      rfl
    · have hget : get next = get draft := by
        by_cases hk : k ∈ f.keys
        · obtain ⟨t, ht, rfl⟩ := List.mem_map.1 hk
          rw [hf.take_key ht] at htake
          exact (hleaves t ht (Ne.symm hkey)).of_take htake
        · rw [take_of_notMem hk] at htake
          rw [Option.some.inj htake]
      rw [hget, List.lookup_cons, beq_false_of_ne hkey]

end Proper

theorem fillItems_of_length_lt {slots : List (Slot δ)} {vs : List Value}
    (hl : slots.length < vs.length) : fillItems draft slots vs = none := by
  induction slots generalizing draft vs with
  | nil =>
    cases vs with
    | nil => exact absurd hl (Nat.lt_irrefl 0)
    | cons v vs => rfl
  | cons s slots ih =>
    cases vs with
    | nil => exact absurd hl (Nat.not_lt_zero _)
    | cons v vs =>
      rw [fillItems]
      exact Option.bind_eq_none_iff.2 fun put _ => ih (Nat.lt_of_succ_lt_succ hl)

namespace Proper

variable (hf : f.Proper)
include hf

theorem fillItems_eq_fill {slots : List (Slot δ)} {vs : List Value} (hs : slots <:+ f.slots)
    (hgiven : ∀ s ∈ slots, s.member.given draft = false) (hl : vs.length ≤ slots.length) :
    fillItems draft slots vs = f.fill draft ((slots.map (·.key)).zip vs) := by
  induction slots generalizing draft vs with
  | nil =>
    obtain rfl := List.eq_nil_of_length_eq_zero (Nat.le_zero.1 hl)
    rfl
  | cons s slots ih =>
    cases vs with
    | nil => rfl
    | cons v vs =>
      have hbehind : slots <:+ f.slots := (List.suffix_cons s slots).trans hs
      have htake : f.take draft (s.key, v) = (s.decode v).map fun put => put draft := by
        rw [hf.take_key (hs.mem List.mem_cons_self), Slot.take, hgiven s List.mem_cons_self,
          if_neg Bool.false_ne_true]
      rw [fillItems, List.map_cons, List.zip_cons_cons, fill_cons, htake, Option.bind_map]
      refine Option.bind_congr fun put hput =>
        ih hbehind (fun t ht => ?_) (Nat.le_of_succ_le_succ hl)
      have hslots := List.pairwise_cons.1 (f.independent.sublist hs.sublist)
      have hapart : Slot.Independent s t := hslots.1 t ht
      rw [hapart.right v put draft hput]
      exact hgiven t (List.mem_cons_of_mem s ht)

/-- A record is made by its members, whichever way it is written. -/
theorem decode_eq (v : Value) : f.decode v =
    (v.members? f.keys).bind fun ms => (f.fill f.shape.blank ms).bind f.finish := by
  cases v with
  | null | bool b | number n | string s => rfl
  | object ms => rfl
  | array vs =>
    have hlength : f.keys.length = f.slots.length := List.length_map ..
    rw [decode, Value.members?, hlength]
    split
    · next hl =>
      rw [hf.fillItems_eq_fill List.suffix_rfl hf.given_blank hl]
      rfl
    · next hl =>
      rw [fillItems_of_length_lt (Nat.lt_of_not_le hl)]
      rfl

end Proper

end Form

end BotBindings.Json
