import BotBindings.Proofs.Skip

/-!
What readers make of the text of a JSON tree, told from the tree alone. A tree that a decoder takes is
read as the same value however it is written, with nothing behind its text touched, and any other is
refused.
-/
namespace BotBindings.Json

variable {α β : Type} {mid rest : List Char}

/-- A reader reads the text of each tree as a decoder takes the tree. The length of the text is enough
of a bound. -/
def Reads (read : Reader α) (decode : Value → Option α) : Prop :=
  ∀ (w : Written) (sp : Space) (n : Nat) (rest : List Char), w.text.length ≤ n →
    Agrees rest (decode w.value) (read n (sp.1 ++ (w.text ++ rest)))

namespace Value

def asString : Value → Option String
  | .string s => some s
  | _ => none

def asBool : Value → Option Bool
  | .bool b => some b
  | _ => none

def asOption (item : Value → Option α) : Value → Option (Option α)
  | .null => some none
  | v => (item v).map some

/-- The values that all items of a list have. -/
def itemsAs (item : Value → Option α) : List Value → Option (List α)
  | [] => some []
  | v :: vs => (item v).bind fun a => (itemsAs item vs).map (a :: ·)

def asList (item : Value → Option α) : Value → Option (List α)
  | .array vs => itemsAs item vs
  | _ => none

/-- The values that all members of an object have, beside their keys. -/
def entriesAs (item : Value → Option α) : List (String × Value) → Option (List (String × α))
  | [] => some []
  | (k, v) :: ms => (item v).bind fun a => (entriesAs item ms).map ((k, a) :: ·)

def asMap (item : Value → Option α) : Value → Option (List (String × α))
  | .object ms => entriesAs item ms
  | _ => none

end Value

open Value

theorem number_ne_cons (m : NumberText) {d : Char} (hd : d ∈ ['n', 't', 'f', '"', '[', '\x7b'])
    (rest text : List Char) : m.text ++ rest ≠ d :: text := by
  obtain ⟨c, cs, hm, hc⟩ := m.exists_text_cons
  obtain ⟨hminus, hdigit⟩ : d ≠ '-' ∧ d.isDigit = false := by
    simp only [List.mem_cons, List.not_mem_nil, or_false] at hd
    rcases hd with rfl | rfl | rfl | rfl | rfl | rfl <;> exact ⟨by decide, rfl⟩
  rw [hm, List.cons_append]
  intro h
  obtain rfl := (List.cons.inj h).1
  rcases hc with hc | hc
  · exact hminus hc
  · rw [hc] at hdigit
    cases hdigit

theorem reads_string : Reads readString asString := by
  intro w sp n rest _
  unfold readString
  rw [skipSpace_space_text]
  cases w with
  | null => exact ⟨_, rfl⟩
  | bool b => cases b <;> exact ⟨_, rfl⟩
  | number m =>
    rw [Written.text]
    split
    · next h => exact absurd h (number_ne_cons m (by decide) rest _)
    · exact ⟨_, rfl⟩
  | string gs =>
    have hs : asString (Written.string gs).value = (Glyph.chars? gs).map String.ofList := by
      rw [Written.value]
      cases Glyph.chars? gs <;> rfl
    rw [hs]
    exact (agrees_string gs rest).map String.ofList
  | array items close => exact ⟨_, rfl⟩
  | object members close =>
    rw [Written.value]
    cases memberValues? members <;> exact ⟨_, rfl⟩

theorem reads_bool : Reads readBool asBool := by
  intro w sp n rest _
  unfold readBool
  rw [skipSpace_space_text]
  cases w with
  | null => exact ⟨_, rfl⟩
  | bool b => cases b <;> rfl
  | number m =>
    rw [Written.text]
    split
    · next h => exact absurd h (number_ne_cons m (by decide) rest _)
    · next h => exact absurd h (number_ne_cons m (by decide) rest _)
    · exact ⟨_, rfl⟩
  | string gs =>
    rw [Written.value]
    cases Glyph.chars? gs <;> exact ⟨_, rfl⟩
  | array items close => exact ⟨_, rfl⟩
  | object members close =>
    rw [Written.value]
    cases memberValues? members <;> exact ⟨_, rfl⟩

/-- What is not `null` is read as the item is. -/
theorem readOption_eq {item : Reader α} {w : Written} (hw : w ≠ .null) (sp : Space) (n : Nat)
    (rest : List Char) :
    readOption item n (sp.1 ++ (w.text ++ rest)) =
      (item n (sp.1 ++ (w.text ++ rest))).map fun (a, rest) => (some a, rest) := by
  unfold readOption
  rw [skipSpace_space_text]
  split
  · next h =>
    cases w with
    | null => exact absurd rfl hw
    | bool b => cases b <;> cases h
    | number m => exact absurd h (number_ne_cons m (by decide) rest _)
    | string gs => cases h
    | array items close => cases h
    | object members close => cases h
  · rfl

theorem value_ne_null {w : Written} (hw : w ≠ .null) : w.value ≠ .null := by
  cases w with
  | null => exact absurd rfl hw
  | bool b | number m | array items close => exact nofun
  | string gs =>
    rw [Written.value]
    cases Glyph.chars? gs <;> exact nofun
  | object members close =>
    rw [Written.value]
    cases memberValues? members <;> exact nofun

theorem asOption_of_ne_null {decode : Value → Option α} {v : Value} (hv : v ≠ .null) :
    asOption decode v = (decode v).map some := by
  cases v with
  | null => exact absurd rfl hv
  | bool b | number m | string s | array vs | object ms => rfl

theorem Reads.option {item : Reader α} {decode : Value → Option α} (h : Reads item decode) :
    Reads (readOption item) (asOption decode) := by
  intro w sp n rest hn
  by_cases hw : w = .null
  · rw [hw]
    unfold readOption
    rw [skipSpace_space_text]
    exact rfl
  · rw [asOption_of_ne_null (value_ne_null hw), readOption_eq hw]
    exact (h w sp n rest hn).map some

theorem nextItem_nil (behind : Bool) (close : Space) (rest : List Char) :
    nextItem behind (itemsText close behind [] ++ rest) = .ok (false, ']' :: rest) := by
  rw [nextItem, itemsText, skipSpace_close close (by decide)]
  rfl

theorem nextItem_cons (behind : Bool) (g : Gap) (w : Written) (items : List (Gap × Written))
    (close : Space) (rest : List Char) :
    nextItem behind (itemsText close behind ((g, w) :: items) ++ rest) =
      .ok (true, w.text ++ (itemsText close true items ++ rest)) := by
  obtain ⟨c, cs, hw, hc⟩ := w.exists_text_cons
  rw [nextItem, itemsText, List.append_assoc, List.append_assoc]
  cases behind with
  | true =>
    rw [skipSpace_gap_true]
    dsimp only
    rw [if_neg (by decide), if_neg (by decide), if_pos rfl, skipSpace_space_text, hw,
      List.cons_append]
    dsimp only
    rw [if_neg hc.listEnd]
  | false =>
    rw [skipSpace_gap_false, skipSpace_text, hw, List.cons_append]
    dsimp only
    rw [if_neg hc.listEnd]
    rfl

theorem length_itemsText_cons (behind : Bool) (g : Gap) (w : Written)
    (items : List (Gap × Written)) (close : Space) :
    w.text.length + (itemsText close true items).length ≤
      (itemsText close behind ((g, w) :: items)).length := by
  rw [itemsText, List.length_append, List.length_append]
  omega

/-- The items behind those of `acc`, of which the last one read comes first. -/
theorem Reads.items {item : Reader α} {decode : Value → Option α} (h : Reads item decode)
    {items : List (Gap × Written)} {close : Space} {behind : Bool} {bound n : Nat} (acc : List α)
    (hacc : (!acc.isEmpty) = behind) (hn : (itemsText close behind items).length ≤ n)
    (hb : (itemsText close behind items).length ≤ bound) :
    Agrees rest ((itemsAs decode (itemValues items)).map (acc.reverse ++ ·))
      (readItems item bound acc n (itemsText close behind items ++ rest)) := by
  have hpos : 0 < (itemsText close behind items).length := itemsText_pos close behind items
  obtain ⟨n, rfl⟩ : ∃ m, n = m + 1 := ⟨n - 1, by omega⟩
  -- `acc` is not empty from the second item on, and just then a comma is due
  induction items generalizing acc n behind with
  | nil =>
    rw [readItems, hacc, nextItem_nil]
    exact congrArg (fun as => Except.ok (as, rest)) (List.append_nil acc.reverse).symm
  | cons i items ih =>
    obtain ⟨g, w⟩ := i
    have hlength : w.text.length + (itemsText close true items).length ≤ _ :=
      length_itemsText_cons behind g w items close
    have hw : 0 < w.text.length := w.text_pos
    have hitems : 0 < (itemsText close true items).length := itemsText_pos close true items
    have hvalue : Agrees (itemsText close true items ++ rest) (decode w.value)
        (item bound (w.text ++ (itemsText close true items ++ rest))) :=
      h w Space.none bound _ (by omega)
    have hread : readItems item bound acc (n + 1) (itemsText close behind ((g, w) :: items) ++ rest) =
        (item bound (w.text ++ (itemsText close true items ++ rest)) >>= fun x =>
          readItems item bound (x.1 :: acc) n x.2) := by
      rw [readItems, hacc, nextItem_cons]
      dsimp only
      cases item bound (w.text ++ (itemsText close true items ++ rest)) with
      | error e => rfl
      | ok x => rfl
    obtain ⟨n, rfl⟩ : ∃ m, n = m + 1 := ⟨n - 1, by omega⟩
    have htail (a : α) :
        Agrees rest ((itemsAs decode (itemValues items)).map ((a :: acc).reverse ++ ·))
          (readItems item bound (a :: acc) (n + 1) (itemsText close true items ++ rest)) :=
      ih (a :: acc) (show (!(a :: acc).isEmpty) = true from rfl) (by omega) hitems n (by omega)
    rw [hread, itemValues, itemsAs, Option.map_bind]
    refine hvalue.bind fun a => ?_
    rw [Function.comp_apply, map_append_cons]
    exact htail a

theorem Reads.list {item : Reader α} {decode : Value → Option α} (h : Reads item decode) :
    Reads (readList item) (asList decode) := by
  intro w sp n rest hn
  unfold readList
  rw [skipSpace_space_text]
  cases w with
  | null => exact ⟨_, rfl⟩
  | bool b => cases b <;> exact ⟨_, rfl⟩
  | number m =>
    rw [Written.text]
    split
    · next h => exact absurd h (number_ne_cons m (by decide) rest _)
    · exact ⟨_, rfl⟩
  | string gs =>
    rw [Written.value]
    cases Glyph.chars? gs <;> exact ⟨_, rfl⟩
  | array items close =>
    rw [Written.text] at hn ⊢
    have hl : (itemsText close false items).length ≤ n := Nat.le_of_succ_le hn
    have hitems : Agrees rest ((itemsAs decode (itemValues items)).map ([].reverse ++ ·))
        (readItems item n [] n (itemsText close false items ++ rest)) := h.items [] rfl hl hl
    rwa [List.reverse_nil, Option.map_congr fun as _ => List.nil_append as, Option.map_id'] at hitems
  | object members close =>
    rw [Written.value]
    cases memberValues? members <;> exact ⟨_, rfl⟩

theorem nextKey_nil (behind : Bool) (close : Space) (rest : List Char) :
    nextKey behind (membersText close behind [] ++ rest) = .ok (false, '}' :: rest) := by
  rw [nextKey, membersText, skipSpace_close close (by decide)]
  rfl

theorem nextKey_cons (behind : Bool) (k : KeyText) (w : Written) (members : List (KeyText × Written))
    (close : Space) (rest : List Char) :
    nextKey behind (membersText close behind ((k, w) :: members) ++ rest) =
      .ok (true, Glyph.tail k.glyphs ++ (k.before.1 ++ ':' :: (k.behind.1 ++
        (w.text ++ (membersText close true members ++ rest))))) := by
  let value := w.text ++ (membersText close true members ++ rest)
  have hkey : nextKey behind (k.gap.text behind ++ (k.text ++ value)) =
      .ok (true, Glyph.tail k.glyphs ++ (k.before.1 ++ ':' :: (k.behind.1 ++ value))) := by
    rw [nextKey, keyText_append]
    cases behind with
    | true =>
      rw [skipSpace_gap_true]
      dsimp only
      rw [if_neg (by decide), if_neg (by decide), if_pos rfl, skipSpace_space,
        skipSpace_cons (by decide)]
      rfl
    | false =>
      rw [skipSpace_gap_false, skipSpace_cons (by decide)]
      rfl
  rw [membersText, List.append_assoc, List.append_assoc, List.append_assoc]
  exact hkey

theorem length_membersText_cons (behind : Bool) (k : KeyText) (w : Written)
    (members : List (KeyText × Written)) (close : Space) :
    w.text.length + (membersText close true members).length ≤
      (membersText close behind ((k, w) :: members)).length := by
  rw [membersText, List.length_append, List.length_append, List.length_append]
  omega

theorem bind_entriesAs_cons (decode : Value → Option α) (k : String) (v : Value)
    (o : Option (List (String × Value))) :
    (o.map ((k, v) :: ·)).bind (entriesAs decode) =
      (decode v).bind fun a => (o.bind (entriesAs decode)).map ((k, a) :: ·) := by
  cases o with
  | none => cases decode v <;> rfl
  | some ms => rfl

theorem Reads.entries {item : Reader α} {decode : Value → Option α} (h : Reads item decode)
    {members : List (KeyText × Written)} {close : Space} {behind : Bool} {bound n : Nat}
    (acc : List (String × α)) (hacc : (!acc.isEmpty) = behind)
    (hn : (membersText close behind members).length ≤ n)
    (hb : (membersText close behind members).length ≤ bound) :
    Agrees rest (((memberValues? members).bind (entriesAs decode)).map (acc.reverse ++ ·))
      (readEntries item bound acc n (membersText close behind members ++ rest)) := by
  have hpos : 0 < (membersText close behind members).length :=
    membersText_pos close behind members
  obtain ⟨n, rfl⟩ : ∃ m, n = m + 1 := ⟨n - 1, by omega⟩
  induction members generalizing acc n behind with
  | nil =>
    rw [readEntries, hacc, nextKey_nil]
    exact congrArg (fun as => Except.ok (as, rest)) (List.append_nil acc.reverse).symm
  | cons m members ih =>
    obtain ⟨k, w⟩ := m
    have hlength : w.text.length + (membersText close true members).length ≤ _ :=
      length_membersText_cons behind k w members close
    have hw : 0 < w.text.length := w.text_pos
    have hmembers : 0 < (membersText close true members).length :=
      membersText_pos close true members
    have hvalue : Agrees (membersText close true members ++ rest) (decode w.value)
        (item bound (k.behind.1 ++ (w.text ++ (membersText close true members ++ rest)))) :=
      h w k.behind bound _ (by omega)
    obtain ⟨n, rfl⟩ : ∃ m, n = m + 1 := ⟨n - 1, by omega⟩
    have htail (e : String × α) :
        Agrees rest (((memberValues? members).bind (entriesAs decode)).map
            ((e :: acc).reverse ++ ·))
          (readEntries item bound (e :: acc) (n + 1) (membersText close true members ++ rest)) :=
      ih (e :: acc) (show (!(e :: acc).isEmpty) = true from rfl) (by omega) hmembers n (by omega)
    rw [readEntries, hacc, nextKey_cons, memberValues?, Option.bind_assoc, Option.map_bind]
    refine (agrees_string k.glyphs _).bind fun key => ?_
    change Agrees rest _ (readColon _ >>= _)
    rw [readColon_space]
    change Agrees rest _
      (item bound (k.behind.1 ++ (w.text ++ (membersText close true members ++ rest))) >>= _)
    rw [Function.comp_apply, bind_entriesAs_cons, Option.map_bind]
    refine hvalue.bind fun a => ?_
    rw [Function.comp_apply, map_append_cons]
    exact htail (String.ofList key, a)

theorem Reads.map {item : Reader α} {decode : Value → Option α} (h : Reads item decode) :
    Reads (readMap item) (asMap decode) := by
  intro w sp n rest hn
  unfold readMap
  rw [skipSpace_space_text]
  cases w with
  | null => exact ⟨_, rfl⟩
  | bool b => cases b <;> exact ⟨_, rfl⟩
  | number m =>
    rw [Written.text]
    split
    · next h => exact absurd h (number_ne_cons m (by decide) rest _)
    · exact ⟨_, rfl⟩
  | string gs =>
    rw [Written.value]
    cases Glyph.chars? gs <;> exact ⟨_, rfl⟩
  | array items close => exact ⟨_, rfl⟩
  | object members close =>
    have hvalue : asMap decode (Written.object members close).value =
        (memberValues? members).bind (entriesAs decode) := by
      rw [Written.value]
      cases memberValues? members <;> rfl
    rw [hvalue]
    rw [Written.text] at hn ⊢
    have hl : (membersText close false members).length ≤ n := Nat.le_of_succ_le hn
    have hms : Agrees rest (((memberValues? members).bind (entriesAs decode)).map
        ([].reverse ++ ·)) (readEntries item n [] n (membersText close false members ++ rest)) :=
      h.entries [] rfl hl hl
    rwa [List.reverse_nil, Option.map_congr fun as _ => List.nil_append as, Option.map_id'] at hms

/-- A tree as a whole text, with white space around it. -/
def Written.whole (before : Space) (w : Written) (behind : Space) : String :=
  String.ofList (before.1 ++ (w.text ++ behind.1))

/-- A whole text is read as its tree is decoded. -/
theorem Reads.whole {read : Reader α} {decode : Value → Option α} (h : Reads read decode)
    (before : Space) (w : Written) (behind : Space) :
    (readAll read (w.whole before behind)).toOption = decode w.value := by
  have hlength : w.text.length ≤ 2 * (before.1 ++ (w.text ++ behind.1)).length + 2 := by
    rw [List.length_append, List.length_append]
    omega
  have hw := h w before _ behind.1 hlength
  have hend : skipSpace behind.1 = [] := by
    rw [← List.append_nil behind.1, skipSpace_space]
    rfl
  unfold readAll Written.whole
  rw [String.toList_ofList]
  dsimp only
  cases hd : decode w.value with
  | some a =>
    rw [hd] at hw
    rw [show read _ _ = .ok (a, behind.1) from hw]
    dsimp only
    rw [hend]
    rfl
  | none =>
    rw [hd] at hw
    obtain ⟨e, he⟩ := hw
    rw [he]
    rfl

mutual

theorem exists_written (v : Value) : ∃ w : Written, w.text = v.compact ∧ w.value = v := by
  match v with
  | .null => exact ⟨.null, rfl, rfl⟩
  | .bool true => exact ⟨.bool true, rfl, rfl⟩
  | .bool false => exact ⟨.bool false, rfl, rfl⟩
  | .number m =>
    obtain ⟨n, htext, hvalue⟩ := exists_numberText m
    exact ⟨.number n, htext, congrArg Value.number hvalue⟩
  | .string s =>
    obtain ⟨gs, htail, hchars⟩ := exists_tail s
    refine ⟨.string gs, congrArg ('"' :: ·) htail, ?_⟩
    rw [Written.value, hchars]
    exact congrArg Value.string String.ofList_toList
  | .array vs =>
    obtain ⟨items, hvalue, -, htext⟩ := exists_items vs
    exact ⟨.array items Space.none, htext, congrArg Value.array hvalue⟩
  | .object ms =>
    obtain ⟨members, hvalue, -, htext⟩ := exists_members ms
    refine ⟨.object members Space.none, htext, ?_⟩
    rw [Written.value, hvalue]
    rfl

theorem exists_items (vs : List Value) : ∃ items, itemValues items = vs ∧
    itemsText Space.none true items = compactItems vs ∧
    '[' :: itemsText Space.none false items = (Value.array vs).compact := by
  match vs with
  | [] => exact ⟨[], rfl, rfl, rfl⟩
  | v :: vs =>
    obtain ⟨w, hw, hv⟩ := exists_written v
    obtain ⟨items, hvalues, htext, -⟩ := exists_items vs
    refine ⟨(⟨Space.none, Space.none⟩, w) :: items, ?_, ?_, ?_⟩
    · rw [itemValues, hv, hvalues]
    · rw [itemsText, hw, htext]
      rfl
    · rw [itemsText, hw, htext]
      rfl

theorem exists_members (ms : List (String × Value)) : ∃ members, memberValues? members = some ms ∧
    membersText Space.none true members = compactMembers ms ∧
    '\x7b' :: membersText Space.none false members = (Value.object ms).compact := by
  match ms with
  | [] => exact ⟨[], rfl, rfl, rfl⟩
  | (k, v) :: ms =>
    obtain ⟨w, hw, hv⟩ := exists_written v
    obtain ⟨gs, htail, hchars⟩ := exists_tail k
    obtain ⟨members, hvalues, htext, -⟩ := exists_members ms
    have hkey : (KeyText.mk ⟨Space.none, Space.none⟩ gs Space.none Space.none).text =
        stringText k ++ [':'] := congrArg ('"' :: · ++ [':']) htail
    have hrest : stringText k ++ [':'] ++ (v.compact ++ compactMembers ms) =
        stringText k ++ ':' :: (v.compact ++ compactMembers ms) := by
      rw [List.append_assoc, List.singleton_append]
    refine ⟨(⟨⟨Space.none, Space.none⟩, gs, Space.none, Space.none⟩, w) :: members, ?_, ?_, ?_⟩
    · rw [memberValues?, hchars, hvalues, hv]
      exact congrArg (fun k => some ((k, v) :: ms)) String.ofList_toList
    · rw [membersText, hw, htext, hkey, hrest]
      rfl
    · rw [membersText, hw, htext, hkey, hrest]
      rfl

end

/-- The compact text of a tree is read as the tree is decoded. -/
theorem Reads.all {read : Reader α} {decode : Value → Option α} (h : Reads read decode)
    (v : Value) : (readAll read (String.ofList v.compact)).toOption = decode v := by
  obtain ⟨w, htext, hvalue⟩ := exists_written v
  have hwhole := h.whole Space.none w Space.none
  have hcompact : w.whole Space.none Space.none = String.ofList v.compact := by
    change String.ofList (w.text ++ []) = _
    rw [List.append_nil, htext]
  rwa [hcompact, hvalue] at hwhole

end BotBindings.Json
