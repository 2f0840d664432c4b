import BotBindings.Proofs.Document
import BotBindings.Proofs.RecordMembers
import BotBindings.Proofs.RoundTrip
import Mathlib.Data.List.Forall2
import Mathlib.Data.List.Induction

namespace BotBindings.Schema

open Json Json.Value

section

variable {α β : Type}

/-- The keys of entries, each where it comes first. -/
def distinctKeys (es : List (String × α)) : List String := (es.map Prod.fst).eraseDups

def lastUnder? (es : List (String × α)) (k : String) : Option α := es.reverse.lookup k

theorem distinctKeys_append (es : List (String × α)) (e : String × α) :
    distinctKeys (es ++ [e]) =
      if e.1 ∈ distinctKeys es then distinctKeys es else distinctKeys es ++ [e.1] := by
  have hmem : e.1 ∈ distinctKeys es ↔ e.1 ∈ es.map Prod.fst := List.mem_eraseDups
  have happend : distinctKeys (es ++ [e]) =
      distinctKeys es ++ ([e.1].removeAll (es.map Prod.fst)).eraseDups := by
    rw [distinctKeys, List.map_append, List.eraseDups_append]
    rfl
  rw [happend]
  split
  · next h => simp [List.removeAll, hmem.1 h]
  · next h =>
    have hnew : e.1 ∉ es.map Prod.fst := fun hk => h (hmem.2 hk)
    rw [List.removeAll, List.filter_cons_of_pos (by simpa using hnew)]
    rfl

theorem lastUnder?_append (es : List (String × α)) (e : String × α) (k : String) :
    lastUnder? (es ++ [e]) k = if k = e.1 then some e.2 else lastUnder? es k := by
  obtain ⟨key, a⟩ := e
  rw [lastUnder?, List.reverse_append, List.reverse_singleton, List.singleton_append,
    List.lookup_cons]
  split
  · next h => rw [if_pos (eq_of_beq h)]
  · next h => rw [if_neg (ne_of_beq_false h), lastUnder?]

namespace Table

theorem keys_put (key : String) (a : α) (es : List (String × α)) :
    (put key a es).map Prod.fst =
      if key ∈ es.map Prod.fst then es.map Prod.fst else es.map Prod.fst ++ [key] := by
  by_cases h : key ∈ es.map Prod.fst
  · rw [if_pos h]
    induction es with
    | nil => cases h
    | cons e es ih =>
      rw [put]
      split
      · next he => rw [List.map_cons, List.map_cons, he]
      · next he =>
        rcases List.mem_cons.1 h with rfl | hes
        · exact absurd rfl he
        · rw [List.map_cons, List.map_cons, ih hes]
  · rw [if_neg h, put_of_notMem h, List.map_append]
    rfl

theorem lookup_put (key : String) (a : α) (es : List (String × α)) (k : String) :
    (put key a es).lookup k = if k = key then some a else es.lookup k := by
  induction es with
  | nil => grind [put]
  | cons e es ih => grind [put]

theorem ofList_append (es : List (String × α)) (e : String × α) :
    ofList (es ++ [e]) = (ofList es).insert e.1 e.2 := List.foldl_append

theorem keys_ofList (es : List (String × α)) : (ofList es).keys = distinctKeys es := by
  -- from the end, since each insertion sees the table of all entries before it
  induction es using List.reverseRecOn with
  | nil => rfl
  | append_singleton es e ih =>
    rw [ofList_append, distinctKeys_append, ← ih]
    exact keys_put e.1 e.2 (ofList es).entries

theorem get?_ofList (es : List (String × α)) (k : String) : (ofList es).get? k = lastUnder? es k := by
  induction es using List.reverseRecOn with
  | nil => rfl
  | append_singleton es e ih =>
    rw [ofList_append, lastUnder?_append, ← ih]
    exact lookup_put e.1 e.2 (ofList es).entries k

end Table

variable {decode : Value → Option α} {es : List (String × Value)} {as : List (String × α)}

theorem forall₂_entriesAs (h : entriesAs decode es = some as) :
    List.Forall₂ (fun e a => e.1 = a.1 ∧ decode e.2 = some a.2) es as := by
  induction es generalizing as with
  | nil =>
    obtain rfl : [] = as := Option.some.inj h
    exact .nil
  | cons e es ih =>
    obtain ⟨a, ha, hrest⟩ := Option.bind_eq_some_iff.1 h
    obtain ⟨rest, hes, rfl⟩ := Option.map_eq_some_iff.1 hrest
    exact .cons ⟨rfl, ha⟩ (ih hes)

theorem isSome_entriesAs_iff : (entriesAs decode es).isSome ↔ ∀ e ∈ es, (decode e.2).isSome := by
  induction es with
  | nil => exact ⟨fun _ => nofun, fun _ => rfl⟩
  | cons e es ih =>
    rw [List.forall_mem_cons, ← ih, entriesAs]
    cases decode e.2 <;> cases entriesAs decode es <;> simp

theorem isSome_asMap_iff {v : Value} : (v.asMap decode).isSome ↔
    ∃ es, v = .object es ∧ ∀ e ∈ es, (decode e.2).isSome := by
  cases v with
  | object es => simpa [asMap] using isSome_entriesAs_iff
  | null | bool b | number n | string s | array vs => simp [asMap]

theorem distinctKeys_entriesAs (h : entriesAs decode es = some as) :
    distinctKeys as = distinctKeys es := by
  have hkeys : es.map Prod.fst = as.map Prod.fst := by
    rw [← List.forall₂_eq_eq_eq, List.forall₂_map_left_iff, List.forall₂_map_right_iff]
    exact (forall₂_entriesAs h).imp fun _ _ he => he.1
  rw [distinctKeys, distinctKeys, hkeys]

theorem lookup_of_forall₂ (h : List.Forall₂ (fun e a => e.1 = a.1 ∧ decode e.2 = some a.2) es as)
    (k : String) : as.lookup k = (es.lookup k).bind decode := by
  induction h with
  | nil => rfl
  | @cons e a es as he _ ih =>
    rw [List.lookup_cons, List.lookup_cons, ← he.1]
    split
    · exact he.2.symm
    · exact ih

theorem lastUnder?_entriesAs (h : entriesAs decode es = some as) (k : String) :
    lastUnder? as k = (lastUnder? es k).bind decode :=
  lookup_of_forall₂ (List.forall₂_reverse_iff.2 (forall₂_entriesAs h)) k

/-- A table that holds entries: each key stands where it comes first and has what its last entry holds. -/
structure Table.Holds (t : Table α) (decode : Value → Option α) (es : List (String × Value)) : Prop where
  keys : t.keys = distinctKeys es
  get? : ∀ k, t.get? k = (lastUnder? es k).bind decode

theorem Table.holds_ofList (h : entriesAs decode es = some as) : (ofList as).Holds decode es where
  keys := (keys_ofList as).trans (distinctKeys_entriesAs h)
  get? k := (get?_ofList as k).trans (lastUnder?_entriesAs h k)

/-- Items in the order of the distinct keys of entries, one for each, made from the last entry under it. -/
def OnePerKey (es : List (String × Value)) (Made : Value → β → Prop) (bs : List β) : Prop :=
  List.Forall₂ (fun k b => ∃ v, lastUnder? es k = some v ∧ Made v b) (distinctKeys es) bs

theorem Table.Holds.onePerKey {t : Table α} (h : t.Holds decode es) (make : α → β) :
    OnePerKey es (fun v b => ∃ a, decode v = some a ∧ b = make a) (t.values.map make) := by
  rw [OnePerKey, ← h.keys, Table.keys, Table.values, List.forall₂_map_left_iff,
    List.forall₂_map_right_iff, List.forall₂_map_right_iff, List.forall₂_same]
  rintro ⟨k, a⟩ ha
  have hget : t.get? k = some a := (lookup_eq_some_iff_of_nodup t.nodup).2 ha
  rw [h.get? k] at hget
  obtain ⟨v, hv, hdecode⟩ := Option.bind_eq_some_iff.1 hget
  exact ⟨v, hv, a, hdecode, rfl⟩

end

def documentKeys : List String := ["version", "release_date", "changelog", "types", "methods"]

/-- The entries of the object under a key, none if there is no such key. -/
def entriesUnder (key : String) (ms : List (String × Value)) : List (String × Value) :=
  match ms.lookup key with
  | some (.object es) => es
  | _ => []

/-- Members from which a document can be read. Others than the known ones may have any key and hold
anything. -/
structure Readable (ms : List (String × Value)) : Prop where
  once : ∀ key ∈ documentKeys, (ms.map Prod.fst).count key ≤ 1
  labels : ∀ key ∈ ["version", "release_date", "changelog"], ∀ v, (key, v) ∈ ms →
    v = .null ∨ ∃ s, v = .string s
  types : ∀ v, ("types", v) ∈ ms → ∃ es, v = .object es ∧ ∀ e ∈ es, (typeForm.decode e.2).isSome
  methods : ∀ v, ("methods", v) ∈ ms →
    ∃ es, v = .object es ∧ ∀ e ∈ es, (methodForm.decode e.2).isSome

theorem isSome_asText_iff {v : Value} :
    (v.asOption asString).isSome ↔ v = .null ∨ ∃ s, v = .string s := by
  cases v <;> simp [asOption, asString]

theorem forall_mem_five {α : Type} {a b c d e : α} {P : α → Prop} :
    (∀ x ∈ [a, b, c, d, e], P x) ↔ P a ∧ P b ∧ P c ∧ P d ∧ P e := by
  simp only [List.forall_mem_cons, List.not_mem_nil, false_imp_iff, implies_true, and_true]

theorem documentForm_proper : documentForm.Proper where
  nodup_keys := by decide
  given_blank := forall_mem_five.2 ⟨rfl, rfl, rfl, rfl, rfl⟩

theorem readable_iff {ms : List (String × Value)} :
    Readable ms ↔ ∀ s ∈ documentForm.slots, s.Fits documentForm.shape.blank ms := by
  refine Iff.trans ?_ forall_mem_five.symm
  rw [Slot.fits_of_iff _ _ rfl, Slot.fits_of_iff _ _ rfl, Slot.fits_of_iff _ _ rfl,
    Slot.fits_of_iff _ _ rfl, Slot.fits_of_iff _ _ rfl]
  simp only [isSome_asText_iff, isSome_asMap_iff]
  constructor
  · rintro ⟨honce, hlabels, htypes, hmethods⟩
    exact ⟨⟨honce _ (by decide), hlabels _ (by decide)⟩, ⟨honce _ (by decide), hlabels _ (by decide)⟩,
      ⟨honce _ (by decide), hlabels _ (by decide)⟩, ⟨honce _ (by decide), htypes⟩,
      honce _ (by decide), hmethods⟩
  · rintro ⟨⟨hversion, hversions⟩, ⟨hdate, hdates⟩, ⟨hlink, hlinks⟩, ⟨htype, htypes⟩, hmethod, hmethods⟩
    refine ⟨?_, ?_, htypes, hmethods⟩
    · exact forall_mem_five.2 ⟨hversion, hdate, hlink, htype, hmethod⟩
    · simp only [List.forall_mem_cons, List.not_mem_nil, false_imp_iff, implies_true, and_true]
      exact ⟨hversions, hdates, hlinks⟩

theorem isSome_decode_iff {v : Value} : (documentForm.decode v).isSome ↔
    ∃ ms, v.members? documentKeys = some ms ∧ Readable ms := by
  rw [documentForm_proper.decode_eq]
  change ((v.members? documentKeys).bind _).isSome ↔ _
  cases v.members? documentKeys with
  | none => simp
  | some ms =>
    -- a draft of a document lacks nothing
    have hfinish (o : Option DocumentDraft) : (o.bind documentForm.finish).isSome = o.isSome := by
      cases o <;> rfl
    rw [Option.bind_some, hfinish, documentForm_proper.isSome_fill_iff, ← readable_iff]
    simp

/-- The table in one part of a draft holds the entries under the key of its slot. -/
theorem holds_of_fill {α : Type} {key : String} {get : DocumentDraft → Option (List (String × α))}
    {put : List (String × α) → DocumentDraft → DocumentDraft} {value : Reader (List (String × α))}
    {decode : Value → Option α} {ms : List (String × Value)} {draft : DocumentDraft}
    (h : Reads value (asMap decode)) (hput : ∀ b draft, get (put b draft) = some b)
    (hs : Slot.of key get put h hput ∈ documentForm.slots)
    (hleaves : ∀ s ∈ documentForm.slots, s.key ≠ key → s.Leaves get)
    (hblank : get documentForm.shape.blank = none)
    (hread : ∀ v, (key, v) ∈ ms → ∃ es, v = .object es ∧ ∀ e ∈ es, (decode e.2).isSome)
    (hfill : documentForm.fill documentForm.shape.blank ms = some draft) :
    (Table.ofList ((get draft).getD [])).Holds decode (entriesUnder key ms) := by
  have hget : get draft = (ms.lookup key).bind (asMap decode) := by
    rw [documentForm_proper.get_fill hs (Slot.fills_of h hput) hleaves hfill, hblank]
    rfl
  rw [hget, entriesUnder]
  cases hv : ms.lookup key with
  | none => exact Table.holds_ofList rfl
  | some v =>
    obtain ⟨l, l', rfl, -⟩ := List.lookup_eq_some_iff.1 hv
    obtain ⟨es, rfl, hes⟩ := hread v (List.mem_append_right l List.mem_cons_self)
    obtain ⟨as, has⟩ := Option.isSome_iff_exists.1 (isSome_entriesAs_iff.2 hes)
    have hmap : (some (Value.object es)).bind (asMap decode) = some as := has
    rw [hmap]
    exact Table.holds_ofList has

theorem holds_of_decode {v : Value} {d : Document} (h : documentForm.decode v = some d)
    {ms : List (String × Value)} (hms : v.members? documentKeys = some ms) :
    d.types.Holds typeForm.decode (entriesUnder "types" ms) ∧
      d.methods.Holds methodForm.decode (entriesUnder "methods" ms) := by
  have hread : Readable ms := by
    obtain ⟨ms', hms', hread⟩ := isSome_decode_iff.1 (Option.isSome_of_eq_some h)
    obtain rfl := Option.some.inj (hms.symm.trans hms')
    exact hread
  rw [documentForm_proper.decode_eq] at h
  change ((v.members? documentKeys).bind _) = _ at h
  rw [hms, Option.bind_some] at h
  obtain ⟨draft, hfill, hfinish⟩ := Option.bind_eq_some_iff.1 h
  obtain rfl := Option.some.inj hfinish
  have hslot (i : Nat) (hi : i < documentForm.slots.length) :
      documentForm.slots[i] ∈ documentForm.slots := List.getElem_mem hi
  constructor
  · refine holds_of_fill typeForm.reads_record.map (fun _ _ => rfl) (hslot 3 (by decide))
      (forall_mem_five.2 ⟨?_, ?_, ?_, fun hkey => absurd rfl hkey, ?_⟩) rfl hread.types hfill
    all_goals exact fun _ => Slot.leaves_of fun _ _ => rfl
  · refine holds_of_fill methodForm.reads_record.map (fun _ _ => rfl) (hslot 4 (by decide))
      (forall_mem_five.2 ⟨?_, ?_, ?_, ?_, fun hkey => absurd rfl hkey⟩) rfl hread.methods hfill
    all_goals exact fun _ => Slot.leaves_of fun _ _ => rfl

/-- A text in whatever writing is read if its members are readable. A key of its tables stands where it
comes first and has what its last entry holds, and the bindings come in this order, one for each key. -/
theorem Document.parse_inOrder (before : Space) (w : Written) (behind : Space) :
    ((∃ d, Document.parse (w.whole before behind) = .ok d) ↔
      ∃ ms, w.value.members? documentKeys = some ms ∧ Readable ms) ∧
    ∀ d ms, Document.parse (w.whole before behind) = .ok d →
      w.value.members? documentKeys = some ms →
      d.types.Holds typeForm.decode (entriesUnder "types" ms) ∧
      d.methods.Holds methodForm.decode (entriesUnder "methods" ms) ∧
      ∀ b, (Bindings.ofDocument (some d)).1 = .ok b →
        OnePerKey (entriesUnder "types" ms) (fun v made => ∃ t, typeForm.decode v = some t ∧
          made = t.binding d.types (d.supertype? t.name)) b.types ∧
        OnePerKey (entriesUnder "methods" ms) (fun v made => ∃ m, methodForm.decode v = some m ∧
          made = m.binding) b.methods := by
  have hparse (d : Document) : Document.parse (w.whole before behind) = .ok d ↔
      documentForm.decode w.value = some d := by
    rw [← toOption_eq_some_iff, Document.toOption_parse_whole]
  constructor
  · simp only [hparse]
    rw [← Option.isSome_iff_exists, isSome_decode_iff]
  · intro d ms hd hms
    obtain ⟨htypes, hmethods⟩ := holds_of_decode ((hparse d).1 hd) hms
    refine ⟨htypes, hmethods, fun b hb => ?_⟩
    obtain ⟨-, -, rfl⟩ := Bindings.ofDocument_eq_ok_iff.1 hb
    exact ⟨htypes.onePerKey _, hmethods.onePerKey _⟩

/-- Characters that are written as they are; the others are left out. -/
def plainGlyphs (cs : String) : List Glyph :=
  cs.toList.filterMap fun c =>
    if h : c ≠ '"' ∧ c ≠ '\\' ∧ ¬c.toNat < 0x20 then some (.plain c h) else none

/-- A `C` by its number. -/
def numberedC : Glyph := .digits '0' '0' '4' '3' 0x43 rfl

/-- A key with a blank behind its colon. -/
def spacedKey (gs : List Glyph) : KeyText :=
  ⟨⟨Space.none, Space.none⟩, gs, Space.none, [' '], List.forall_mem_singleton.2 rfl⟩

def petTypeText (name : List Glyph) : Written :=
  .object [(spacedKey (plainGlyphs "name"), .string name)] Space.none

def petMethodText (name returns : List Glyph) : Written :=
  .object [(spacedKey (plainGlyphs "name"), .string name),
    (spacedKey (plainGlyphs "returns"),
      .array [(⟨Space.none, Space.none⟩, .string returns)] Space.none)] Space.none

/-- A document in which a type and a method come twice, the second time in another spelling. -/
def pets : Written := .object [
  (spacedKey (plainGlyphs "types"), .object [
    (spacedKey (plainGlyphs "Cat"), petTypeText (plainGlyphs "Kitten")),
    (spacedKey (plainGlyphs "Dog"), petTypeText (plainGlyphs "Dog")),
    (spacedKey (numberedC :: plainGlyphs "at"), petTypeText (plainGlyphs "Cat"))]
    Space.none),
  (spacedKey (plainGlyphs "methods"), .object [
    (spacedKey (plainGlyphs "getCat"),
      petMethodText (plainGlyphs "getCat") (plainGlyphs "Dog")),
    (spacedKey (plainGlyphs "getDog"),
      petMethodText (plainGlyphs "getDog") (plainGlyphs "Dog")),
    (spacedKey (plainGlyphs "get" ++ numberedC :: plainGlyphs "at"),
      petMethodText (plainGlyphs "getCat") (plainGlyphs "Array of Cat"))] Space.none)]
  Space.none

def petTypes : List (String × Value) := [
  ("Cat", .object [("name", .string "Kitten")]),
  ("Dog", .object [("name", .string "Dog")]),
  ("Cat", .object [("name", .string "Cat")])]

def petMethods : List (String × Value) := [
  ("getCat", .object [("name", .string "getCat"), ("returns", .array [.string "Dog"])]),
  ("getDog", .object [("name", .string "getDog"), ("returns", .array [.string "Dog"])]),
  ("getCat", .object [("name", .string "getCat"), ("returns", .array [.string "Array of Cat"])])]

def petDocument : Document where
  types := ⟨[("Cat", { name := "Cat" }), ("Dog", { name := "Dog" })], by decide⟩
  methods := ⟨[("getCat", { name := "getCat", returns := ["Array of Cat"] }),
    ("getDog", { name := "getDog", returns := ["Dog"] })], by decide⟩

def petBindings : List MethodBinding := [
  { name := "getCat", description := [], signature := {}, requiredStatements := []
    returns := ⟨.array (.object "Cat"), .null, .arrayHelper "Cat"⟩ },
  { name := "getDog", description := [], signature := {}, requiredStatements := []
    returns := ⟨.object "Dog", .null, .generic (.object "Dog")⟩ }]

theorem Document.parse_inOrder_pets :
    pets.whole Space.none Space.none =
      "\x7b\"types\": \x7b\"Cat\": \x7b\"name\": \"Kitten\"\x7d," ++
      "\"Dog\": \x7b\"name\": \"Dog\"\x7d,\"\\u0043at\": \x7b\"name\": \"Cat\"\x7d\x7d," ++
      "\"methods\": \x7b\"getCat\": \x7b\"name\": \"getCat\",\"returns\": [\"Dog\"]\x7d," ++
      "\"getDog\": \x7b\"name\": \"getDog\",\"returns\": [\"Dog\"]\x7d," ++
      "\"get\\u0043at\": \x7b\"name\": \"getCat\",\"returns\": [\"Array of Cat\"]\x7d\x7d\x7d" ∧
    Readable [("types", .object petTypes), ("methods", .object petMethods)] ∧
    Document.parse (pets.whole Space.none Space.none) = .ok petDocument ∧
    petDocument.types.Holds typeForm.decode petTypes ∧
    petDocument.methods.Holds methodForm.decode petMethods ∧
    ∃ b, (Bindings.ofDocument (some petDocument)).1 = .ok b ∧ b.methods = petBindings ∧
      OnePerKey petTypes (fun v made => ∃ t, typeForm.decode v = some t ∧
        made = t.binding petDocument.types (petDocument.supertype? t.name)) b.types ∧
      OnePerKey petMethods (fun v made => ∃ m, methodForm.decode v = some m ∧
        made = m.binding) b.methods := by
  have hms : pets.value.members? documentKeys =
      some [("types", .object petTypes), ("methods", .object petMethods)] := rfl
  have hparse : Document.parse (pets.whole Space.none Space.none) = .ok petDocument :=
    toOption_eq_some_iff.1 ((Document.toOption_parse_whole _ pets _).trans rfl)
  obtain ⟨hreadable, hholds⟩ := Document.parse_inOrder Space.none pets Space.none
  obtain ⟨ms, hms', hread⟩ := hreadable.1 ⟨petDocument, hparse⟩
  obtain rfl := Option.some.inj (hms.symm.trans hms')
  obtain ⟨htypes, hmethods, hbindings⟩ := hholds petDocument _ hparse hms
  have hb := Bindings.ofDocument_of_check (d := petDocument) rfl (by decide)
  have hmade : petDocument.bindings.methods = petBindings := by decide
  exact ⟨by decide +kernel, hread, hparse, htypes, hmethods, _, hb, hmade, hbindings _ hb⟩

end BotBindings.Schema
