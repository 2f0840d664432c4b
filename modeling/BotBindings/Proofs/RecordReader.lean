import BotBindings.Json.Record
import BotBindings.Proofs.TreeReader
import Mathlib.Data.List.Basic

namespace BotBindings.Json

variable {δ α β : Type} {rest : List Char}

/-- A member of a record together with what it takes from a tree. A member that has been put counts as
given. -/
structure Slot (δ : Type) where
  member : Member δ
  decode : Value → Option (δ → δ)
  reads : Reads member.read decode
  given_put : ∀ v put draft, decode v = some put → member.given (put draft) = true

namespace Slot

def key (s : Slot δ) : String := s.member.key

/-- A member whose value goes into an optional part of the draft. -/
def of (key : String) (get : δ → Option β) (put : β → δ → δ) {value : Reader β}
    {decode : Value → Option β} (h : Reads value decode)
    (hput : ∀ b draft, get (put b draft) = some b) : Slot δ where
  member := .of key get put value
  decode v := (decode v).map put
  reads w sp n rest hn := (h w sp n rest hn).map put
  given_put v f draft hf := by
    obtain ⟨b, -, rfl⟩ := Option.map_eq_some_iff.1 hf
    change (get (put b draft)).isSome = true
    rw [hput]
    rfl

/-- The draft with one more member, which may not come twice. -/
def take (s : Slot δ) (draft : δ) (v : Value) : Option δ :=
  if s.member.given draft then none else (s.decode v).map fun put => put draft

/-- What one member puts leaves the other as it was, and it does not matter which is put first. -/
structure Independent (s t : Slot δ) : Prop where
  left : ∀ w q draft, t.decode w = some q → s.member.given (q draft) = s.member.given draft
  right : ∀ v p draft, s.decode v = some p → t.member.given (p draft) = t.member.given draft
  comm : ∀ v w p q draft, s.decode v = some p → t.decode w = some q → p (q draft) = q (p draft)

instance : Std.Symm (Independent (δ := δ)) where
  symm _ _ h := ⟨h.right, h.left, fun v w p q draft hp hq => (h.comm w v q p draft hq hp).symm⟩

end Slot

/-- A record with the slots of its members, of which no two touch the same part of the draft. -/
structure Form (δ α : Type) where
  shape : Shape δ α
  slots : List (Slot δ)
  members : shape.members = slots.map (·.member)
  independent : slots.Pairwise Slot.Independent

namespace Form

variable (f : Form δ α)

/-- The record that a draft makes. -/
def finish (draft : δ) : Option α := (f.shape.finish draft).toOption

/-- The draft with one more member of an object. An unknown member is passed over. -/
def take (draft : δ) (m : String × Value) : Option δ :=
  match f.slots.find? (·.key = m.1) with
  | none => some draft
  | some s => s.take draft m.2

/-- The draft that the members of an object fill. -/
def fill (draft : δ) (ms : List (String × Value)) : Option δ := ms.foldlM f.take draft

/-- The draft that the items of a list fill, one for each of the slots in front. -/
def fillItems (draft : δ) : List (Slot δ) → List Value → Option δ
  | _, [] => some draft
  | [], _ :: _ => none
  | s :: ss, v :: vs => (s.decode v).bind fun put => fillItems (put draft) ss vs

/-- The record that a tree holds. -/
def decode : Value → Option α
  | .object ms => (f.fill f.shape.blank ms).bind f.finish
  | .array vs => (fillItems f.shape.blank f.slots vs).bind f.finish
  | _ => none

theorem find?_members (k : String) :
    f.shape.members.find? (fun m => m.key = k) = (f.slots.find? (·.key = k)).map (·.member) := by
  rw [f.members, List.find?_map]
  rfl

theorem fill_cons (draft : δ) (m : String × Value) (ms : List (String × Value)) :
    f.fill draft (m :: ms) = (f.take draft m).bind fun d => f.fill d ms := rfl

theorem fill_append (draft : δ) (ms ms' : List (String × Value)) :
    f.fill draft (ms ++ ms') = (f.fill draft ms).bind fun d => f.fill d ms' := List.foldlM_append

end Form

/-- The member in front is taken first, whatever the others are. -/
theorem Form.bind_fill_cons (f : Form δ α) (draft : δ) (m : String × Value)
    (o : Option (List (String × Value))) :
    (o.map (m :: ·)).bind (f.fill draft) = (f.take draft m).bind fun d => o.bind (f.fill d) := by
  cases o with
  | none => cases f.take draft m <;> rfl
  | some ms => rfl

namespace Form

variable {f : Form δ α}

/-- How a record goes on behind a key. -/
theorem reads_member {k : KeyText} {w : Written} {members : List (KeyText × Written)}
    {close : Space} {bound n : Nat} {draft : δ} (key : List Char) (hb : w.text.length ≤ bound)
    (hrest : ∀ draft, Agrees rest (((memberValues? members).bind (f.fill draft)).bind f.finish)
      (readMembers f.shape bound n true draft (membersText close true members ++ rest))) :
    Agrees rest
      (((f.take draft (String.ofList key, w.value)).bind fun d =>
        (memberValues? members).bind (f.fill d)).bind f.finish)
      (match f.shape.members.find? fun m => m.key = String.ofList key with
        | none => do
          let rest ← readColon (k.before.1 ++ ':' :: (k.behind.1 ++
            (w.text ++ (membersText close true members ++ rest))))
          let rest ← passValue bound rest
          readMembers f.shape bound n true draft rest
        | some m =>
          let cs := k.before.1 ++ ':' :: (k.behind.1 ++
            (w.text ++ (membersText close true members ++ rest)))
          if m.given draft then .error (refuseRepeat m.key cs)
          else do
            let rest ← readColon cs
            let (put, rest) ← m.read bound rest
            readMembers f.shape bound n true (put draft) rest) := by
  rw [readColon_space, find?_members, take]
  cases f.slots.find? (·.key = String.ofList key) with
  | none =>
    -- the key is unknown: its value is passed over, and the draft stays as it is
    have hpass : passValue bound (k.behind.1 ++ (w.text ++ (membersText close true members ++ rest))) =
        .ok (membersText close true members ++ rest) :=
      passValue_text w k.behind bound _ hb (endsNumber_membersText close members rest)
    change Agrees rest _ (passValue bound _ >>= _)
    rw [hpass]
    exact hrest draft
  | some s =>
    have hv : Agrees (membersText close true members ++ rest) (s.decode w.value)
        (s.member.read bound (k.behind.1 ++ (w.text ++ (membersText close true members ++ rest)))) :=
      s.reads w k.behind bound _ hb
    rw [Option.map_some]
    dsimp only
    rw [Slot.take]
    split
    · exact ⟨_, rfl⟩
    · rw [readColon_space, Option.bind_map, Option.bind_assoc]
      change Agrees rest _ (s.member.read bound (k.behind.1 ++
        (w.text ++ (membersText close true members ++ rest))) >>= _)
      refine hv.bind fun put => ?_
      exact hrest (put draft)

theorem reads_members {members : List (KeyText × Written)} {close : Space} {behind : Bool}
    {bound n : Nat} (draft : δ) (hn : (membersText close behind members).length ≤ n)
    (hb : (membersText close behind members).length ≤ bound) :
    Agrees rest (((memberValues? members).bind (f.fill draft)).bind f.finish)
      (readMembers f.shape bound n behind draft (membersText close behind members ++ rest)) := by
  have hpos : 0 < (membersText close behind members).length :=
    membersText_pos close behind members
  obtain ⟨n, rfl⟩ : ∃ m, n = m + 1 := ⟨n - 1, by omega⟩
  induction members generalizing draft n behind with
  | nil =>
    rw [readMembers, nextKey_nil]
    change Agrees rest (f.shape.finish draft).toOption _
    cases f.shape.finish draft with
    | ok a => rfl
    | error key => exact ⟨_, rfl⟩
  | cons m members ih =>
    obtain ⟨k, w⟩ := m
    have hlength : w.text.length + (membersText close true members).length ≤ _ :=
      length_membersText_cons behind k w members close
    have hw : 0 < w.text.length := w.text_pos
    have hmembers : 0 < (membersText close true members).length :=
      membersText_pos close true members
    obtain ⟨n, rfl⟩ : ∃ m, n = m + 1 := ⟨n - 1, by omega⟩
    have htail (draft : δ) : Agrees rest (((memberValues? members).bind (f.fill draft)).bind f.finish)
        (readMembers f.shape bound (n + 1) true draft (membersText close true members ++ rest)) :=
      @ih true draft (by omega) hmembers n (by omega)
    rw [readMembers, nextKey_cons, memberValues?, Option.bind_assoc, Option.bind_assoc]
    refine (agrees_string k.glyphs _).bind fun key => ?_
    rw [← Option.bind_assoc, bind_fill_cons]
    exact reads_member key (by omega) htail

/-- No more items are due. -/
theorem readListEnd_error (a : α) (behind : Bool) (g : Gap) (w : Written)
    (items : List (Gap × Written)) (close : Space) (rest : List Char) :
    ∃ e, readListEnd a (itemsText close behind ((g, w) :: items) ++ rest) = .error e := by
  obtain ⟨c, cs, hw, hc⟩ := w.exists_text_cons
  rw [readListEnd, itemsText, List.append_assoc, List.append_assoc]
  cases behind with
  | true =>
    rw [skipSpace_gap_true]
    dsimp only
    rw [if_neg (by decide), if_pos rfl, skipSpace_space_text, hw, List.cons_append]
    split
    · next h => exact absurd (List.cons.inj h).1 hc.listEnd
    · exact ⟨_, rfl⟩
  | false =>
    rw [skipSpace_gap_false, skipSpace_text, hw, List.cons_append]
    dsimp only
    rw [if_neg hc.listEnd, if_neg hc.comma]
    exact ⟨_, rfl⟩

theorem readListEnd_nil (a : α) (behind : Bool) (close : Space) (rest : List Char) :
    readListEnd a (itemsText close behind [] ++ rest) = .ok (a, rest) := by
  rw [readListEnd, itemsText, skipSpace_close close (by decide)]
  rfl

theorem reads_values {items : List (Gap × Written)} {close : Space} {slots : List (Slot δ)}
    {behind : Bool} {bound : Nat} (draft : δ)
    (hb : (itemsText close behind items).length ≤ bound) :
    Agrees rest ((fillItems draft slots (itemValues items)).bind f.finish)
      (readValues f.shape bound (slots.map (·.member)) behind draft
        (itemsText close behind items ++ rest)) := by
  induction slots generalizing draft items behind with
  | nil =>
    rw [List.map_nil, readValues]
    cases items with
    | nil =>
      change Agrees rest (f.shape.finish draft).toOption _
      cases f.shape.finish draft with
      | ok a => exact readListEnd_nil a behind close rest
      | error key => exact ⟨_, rfl⟩
    | cons i items =>
      change ∃ e, _ = Except.error e
      cases f.shape.finish draft with
      | ok a => exact readListEnd_error a behind i.1 i.2 items close rest
      | error key => exact ⟨_, rfl⟩
  | cons s slots ih =>
    rw [List.map_cons, readValues]
    cases items with
    | nil =>
      rw [nextItem_nil]
      change Agrees rest (f.shape.finish draft).toOption _
      cases f.shape.finish draft with
      | ok a => rfl
      | error key => exact ⟨_, rfl⟩
    | cons i items =>
      obtain ⟨g, w⟩ := i
      have hlength : w.text.length + (itemsText close true items).length ≤ _ :=
        length_itemsText_cons behind g w items close
      have hv : Agrees (itemsText close true items ++ rest) (s.decode w.value)
          (s.member.read bound (w.text ++ (itemsText close true items ++ rest))) :=
        s.reads w Space.none bound _ (by omega)
      rw [nextItem_cons, itemValues, fillItems, Option.bind_assoc]
      exact hv.bind fun put => ih (put draft) (by omega)

/-- A record is read as its form decodes it, as an object or as a list. -/
theorem reads_record (f : Form δ α) : Reads (readRecord f.shape) f.decode := by
  intro w sp n rest hn
  unfold readRecord
  rw [skipSpace_space_text]
  cases w with
  | null => exact ⟨_, rfl⟩
  | bool b => cases b <;> exact ⟨_, rfl⟩
  | number m =>
    rw [Written.text]
    split
    · next h => exact absurd h (number_ne_cons m (by decide) rest _)
    · next h => exact absurd h (number_ne_cons m (by decide) rest _)
    · exact ⟨_, rfl⟩
  | string gs =>
    rw [Written.value]
    cases Glyph.chars? gs <;> exact ⟨_, rfl⟩
  | array items close =>
    rw [Written.text] at hn ⊢
    have hl : (itemsText close false items).length ≤ n := Nat.le_of_succ_le hn
    have hitems : Agrees rest ((fillItems f.shape.blank f.slots (itemValues items)).bind f.finish)
        (readValues f.shape n (f.slots.map (·.member)) false f.shape.blank
          (itemsText close false items ++ rest)) := reads_values f.shape.blank hl
    rw [← f.members] at hitems
    exact hitems
  | object members close =>
    have hvalue : f.decode (Written.object members close).value =
        ((memberValues? members).bind (f.fill f.shape.blank)).bind f.finish := by
      rw [Written.value]
      cases memberValues? members <;> rfl
    rw [hvalue]
    rw [Written.text] at hn ⊢
    have hl : (membersText close false members).length ≤ n := Nat.le_of_succ_le hn
    exact reads_members f.shape.blank hl hl

end Form

end BotBindings.Json
