import BotBindings.Proofs.Except
import BotBindings.Proofs.SchemaForm
import BotBindings.Schema.Writer

namespace BotBindings

namespace Json

variable {δ α β : Type} {item : Value → Option α} {write : α → Value}

theorem itemsAs_map (h : ∀ a, item (write a) = some a) (as : List α) :
    Value.itemsAs item (as.map write) = some as := by
  induction as with
  | nil => rfl
  | cons a as ih =>
    rw [List.map_cons, Value.itemsAs, h, ih]
    rfl

theorem entriesAs_map (h : ∀ a, item (write a) = some a) (es : List (String × α)) :
    Value.entriesAs item (es.map fun (k, a) => (k, write a)) = some es := by
  induction es with
  | nil => rfl
  | cons e es ih =>
    rw [List.map_cons, Value.entriesAs, h, ih]
    rfl

theorem asList_texts (ss : List String) : (texts ss).asList Value.asString = some ss := by
  have h (s : String) : (Value.string s).asString = some s := rfl
  exact itemsAs_map h ss

theorem Slot.decode_of {key : String} {get : δ → Option β} {put : β → δ → δ} {value : Reader β}
    {decode : Value → Option β} {h : Reads value decode}
    {hput : ∀ b draft, get (put b draft) = some b} {v : Value} {b : β} (hv : decode v = some b) :
    (Slot.of key get put h hput).decode v = some (put b) := by
  change (decode v).map put = some (put b)
  rw [hv]
  rfl

namespace Form

variable {f : Form δ α} {s : Slot δ} {key : String} {draft draft' : δ}

/-- A member in front that has not been given yet. -/
theorem fill_given {v : Value} {put : δ → δ} (hs : f.slots.find? (·.key = key) = some s)
    (hgiven : s.member.given draft = false) (hv : s.decode v = some put)
    (hput : put draft = draft') (ms : List (String × Value)) :
    f.fill draft ((key, v) :: ms) = f.fill draft' ms := by
  have htake : f.take draft (key, v) = some draft' := by
    rw [take, hs]
    dsimp only
    rw [Slot.take, hgiven, if_neg Bool.false_ne_true, hv, Option.map_some, hput]
  rw [fill_cons, htake, Option.bind_some]

/-- A member in front that may be left out. `set` makes the draft with it and without. -/
theorem fill_present (set : Option (Option β) → δ) {write : β → Value} {put : β → δ → δ}
    (hs : f.slots.find? (·.key = key) = some s) (hgiven : s.member.given (set none) = false)
    (hv : ∀ b, s.decode (write b) = some (put b))
    (hset : ∀ b, put b (set none) = set (some (some b))) (o : Option β)
    (ms : List (String × Value)) :
    f.fill (set none) (present key write o ++ ms) = f.fill (set (o.map some)) ms := by
  cases o with
  | none => rfl
  | some b => exact fill_given hs hgiven (hv b) (hset b) ms

end Form

end Json

namespace Schema

open Json Json.Value

namespace Table

variable {α : Type}

theorem put_of_notMem {key : String} {entries : List (String × α)}
    (h : key ∉ entries.map Prod.fst) (a : α) : put key a entries = entries ++ [(key, a)] := by
  induction entries with
  | nil => rfl
  | cons e entries ih =>
    rw [List.map_cons, List.mem_cons, not_or] at h
    rw [put, if_neg (Ne.symm h.1), ih h.2]
    rfl

theorem entries_foldl_insert {entries : List (String × α)} {t : Table α}
    (h : ((t.entries ++ entries).map Prod.fst).Nodup) :
    (entries.foldl (fun t (k, a) => t.insert k a) t).entries = t.entries ++ entries := by
  induction entries generalizing t with
  | nil => exact (List.append_nil t.entries).symm
  | cons e entries ih =>
    -- no entry before `e` has its key, so `e` goes to the end
    have hfresh : e.1 ∉ t.entries.map Prod.fst := by
      intro he
      rw [List.map_append, List.nodup_append] at h
      exact h.2.2 e.1 he e.1 List.mem_cons_self rfl
    have hinsert : (t.insert e.1 e.2).entries = t.entries ++ [e] := put_of_notMem hfresh e.2
    have hsplit : t.entries ++ e :: entries = (t.insert e.1 e.2).entries ++ entries := by
      rw [hinsert, List.append_assoc]
      rfl
    rw [hsplit] at h ⊢
    exact ih h

/-- The entries of a table make the table again, in their order. -/
theorem ofList_entries (t : Table α) : ofList t.entries = t := by
  have h : (ofList t.entries).entries = t.entries := entries_foldl_insert (t := {}) t.nodup
  cases t with
  | mk entries nodup =>
    generalize ofList entries = u at h ⊢
    subst h
    rfl

theorem asMap_toJson {item : Value → Option α} {write : α → Value}
    (h : ∀ a, item (write a) = some a) (t : Table α) :
    (t.toJson write).asMap item = some t.entries :=
  entriesAs_map h t.entries

end Table

theorem getD_map_some {β : Type} (o : Option β) : (o.map some).getD none = o := by
  cases o with
  | none => rfl
  | some b => rfl

theorem asOption_string (s : String) : asOption asString (.string s) = some (some s) := rfl

theorem asOption_texts (ss : List String) :
    asOption (asList asString) (texts ss) = some (some ss) := by
  change ((texts ss).asList asString).map some = some (some ss)
  rw [asList_texts]
  rfl

theorem Field.decode_toJson (f : Field) : fieldForm.decode f.toJson = some f := by
  have hname (ms : List (String × Value)) : fieldForm.fill {} (("name", .string f.name) :: ms) =
      fieldForm.fill { name := some f.name } ms := rfl
  have htypes (ms : List (String × Value)) :
      fieldForm.fill { name := some f.name } (("types", texts f.types) :: ms) =
        fieldForm.fill { name := some f.name, types := some f.types } ms :=
    Form.fill_given rfl rfl (Slot.decode_of (asList_texts f.types)) (by rfl) ms
  change (fieldForm.fill {} (("name", .string f.name) :: ("types", texts f.types) :: _)).bind
    fieldForm.finish = some f
  rw [hname, htypes]
  rfl

theorem asOption_fields (fs : List Field) :
    asOption (asList fieldForm.decode) (fieldsToJson fs) = some (some fs) := by
  change (itemsAs fieldForm.decode (fs.map Field.toJson)).map some = some (some fs)
  rw [itemsAs_map Field.decode_toJson]
  rfl

/-- A type in the making, whose name and description have been given. -/
def TypeEntry.draft (t : TypeEntry) (href : Option (Option String))
    (subtypes subtypeOf : Option (Option (List String))) (fields : Option (Option (List Field))) :
    TypeDraft :=
  { name := some t.name, description := some t.description, href, subtypes, subtypeOf, fields }

theorem TypeEntry.decode_toJson (t : TypeEntry) : typeForm.decode t.toJson = some t := by
  have hname (ms : List (String × Value)) : typeForm.fill {} (("name", .string t.name) :: ms) =
      typeForm.fill { name := some t.name } ms := rfl
  have hdescription (ms : List (String × Value)) :
      typeForm.fill { name := some t.name } (("description", texts t.description) :: ms) =
        typeForm.fill (t.draft none none none none) ms :=
    Form.fill_given rfl rfl (Slot.decode_of (asList_texts t.description)) (by rfl) ms
  have hhref (ms : List (String × Value)) :
      typeForm.fill (t.draft none none none none) (present "href" .string t.href ++ ms) =
        typeForm.fill (t.draft (t.href.map some) none none none) ms :=
    Form.fill_present (t.draft · none none none) rfl rfl
      (fun b => Slot.decode_of (asOption_string b)) (fun _ => rfl) t.href ms
  have hsubtypes (href) (ms : List (String × Value)) :
      typeForm.fill (t.draft href none none none) (present "subtypes" texts t.subtypes ++ ms) =
        typeForm.fill (t.draft href (t.subtypes.map some) none none) ms :=
    Form.fill_present (t.draft href · none none) rfl rfl
      (fun b => Slot.decode_of (asOption_texts b)) (fun _ => rfl) t.subtypes ms
  have hsubtypeOf (href subtypes) (ms : List (String × Value)) :
      typeForm.fill (t.draft href subtypes none none)
          (present "subtype_of" texts t.subtypeOf ++ ms) =
        typeForm.fill (t.draft href subtypes (t.subtypeOf.map some) none) ms :=
    Form.fill_present (t.draft href subtypes · none) rfl rfl
      (fun b => Slot.decode_of (asOption_texts b)) (fun _ => rfl) t.subtypeOf ms
  have hfields (href subtypes subtypeOf) (ms : List (String × Value)) :
      typeForm.fill (t.draft href subtypes subtypeOf none)
          (present "fields" fieldsToJson t.fields ++ ms) =
        typeForm.fill (t.draft href subtypes subtypeOf (t.fields.map some)) ms :=
    Form.fill_present (t.draft href subtypes subtypeOf ·) rfl rfl
      (fun b => Slot.decode_of (asOption_fields b)) (fun _ => rfl) t.fields ms
  have hmembers : t.toJson = .object (("name", .string t.name) ::
      ("description", texts t.description) :: (present "href" .string t.href ++
        (present "subtypes" texts t.subtypes ++ (present "subtype_of" texts t.subtypeOf ++
          (present "fields" fieldsToJson t.fields ++ []))))) := by
    rw [TypeEntry.toJson, List.append_nil]
    simp only [List.append_assoc, List.cons_append, List.nil_append]
  rw [hmembers]
  change (typeForm.fill {} _).bind typeForm.finish = some t
  rw [hname, hdescription, hhref, hsubtypes, hsubtypeOf, hfields]
  change some (TypeEntry.mk _ _ ((t.href.map some).getD none) ((t.subtypes.map some).getD none)
    ((t.subtypeOf.map some).getD none) ((t.fields.map some).getD none)) = some t
  rw [getD_map_some, getD_map_some, getD_map_some, getD_map_some]
  rfl

/-- A method in the making, whose name and description have been given. -/
def MethodEntry.draft (m : MethodEntry) (href : Option (Option String))
    (fields : Option (Option (List Field))) (returns : Option (List String)) : MethodDraft :=
  { name := some m.name, description := some m.description, href, fields, returns }

theorem MethodEntry.decode_toJson (m : MethodEntry) : methodForm.decode m.toJson = some m := by
  have hname (ms : List (String × Value)) : methodForm.fill {} (("name", .string m.name) :: ms) =
      methodForm.fill { name := some m.name } ms := rfl
  have hdescription (ms : List (String × Value)) :
      methodForm.fill { name := some m.name } (("description", texts m.description) :: ms) =
        methodForm.fill (m.draft none none none) ms :=
    Form.fill_given rfl rfl (Slot.decode_of (asList_texts m.description)) (by rfl) ms
  have hhref (ms : List (String × Value)) :
      methodForm.fill (m.draft none none none) (present "href" .string m.href ++ ms) =
        methodForm.fill (m.draft (m.href.map some) none none) ms :=
    Form.fill_present (m.draft · none none) rfl rfl
      (fun b => Slot.decode_of (asOption_string b)) (fun _ => rfl) m.href ms
  have hfields (href) (ms : List (String × Value)) :
      methodForm.fill (m.draft href none none) (present "fields" fieldsToJson m.fields ++ ms) =
        methodForm.fill (m.draft href (m.fields.map some) none) ms :=
    Form.fill_present (m.draft href · none) rfl rfl
      (fun b => Slot.decode_of (asOption_fields b)) (fun _ => rfl) m.fields ms
  have hreturns (href fields) (ms : List (String × Value)) :
      methodForm.fill (m.draft href fields none) (("returns", texts m.returns) :: ms) =
        methodForm.fill (m.draft href fields (some m.returns)) ms :=
    Form.fill_given rfl rfl (Slot.decode_of (asList_texts m.returns)) (by rfl) ms
  have hmembers : m.toJson = .object (("name", .string m.name) ::
      ("description", texts m.description) :: (present "href" .string m.href ++
        (present "fields" fieldsToJson m.fields ++ [("returns", texts m.returns)]))) := by
    rw [MethodEntry.toJson]
    simp only [List.append_assoc, List.cons_append, List.nil_append]
  rw [hmembers]
  change (methodForm.fill {} _).bind methodForm.finish = some m
  rw [hname, hdescription, hhref, hfields, hreturns]
  change some (MethodEntry.mk _ _ ((m.href.map some).getD none) ((m.fields.map some).getD none)
    _) = some m
  rw [getD_map_some, getD_map_some]
  rfl

theorem Document.decode_toJson (d : Document) : documentForm.decode d.toJson = some d := by
  have htable : (d.types.toJson TypeEntry.toJson).asMap typeForm.decode = some d.types.entries :=
    d.types.asMap_toJson TypeEntry.decode_toJson
  have htable' : (d.methods.toJson MethodEntry.toJson).asMap methodForm.decode =
      some d.methods.entries := d.methods.asMap_toJson MethodEntry.decode_toJson
  have hversion (ms : List (String × Value)) :
      documentForm.fill (.mk none none none none none) (present "version" .string d.version ++ ms) =
        documentForm.fill { version := d.version.map some } ms :=
    Form.fill_present (DocumentDraft.mk · none none none none) rfl rfl
      (fun b => Slot.decode_of (asOption_string b)) (fun _ => rfl) d.version ms
  have hreleaseDate (version) (ms : List (String × Value)) :
      documentForm.fill { version } (present "release_date" .string d.releaseDate ++ ms) =
        documentForm.fill { version, releaseDate := d.releaseDate.map some } ms :=
    Form.fill_present (DocumentDraft.mk version · none none none) rfl rfl
      (fun b => Slot.decode_of (asOption_string b)) (fun _ => rfl) d.releaseDate ms
  have hchangelog (version releaseDate) (ms : List (String × Value)) :
      documentForm.fill { version, releaseDate } (present "changelog" .string d.changelog ++ ms) =
        documentForm.fill { version, releaseDate, changelog := d.changelog.map some } ms :=
    Form.fill_present (DocumentDraft.mk version releaseDate · none none) rfl rfl
      (fun b => Slot.decode_of (asOption_string b)) (fun _ => rfl) d.changelog ms
  have htypes (version releaseDate changelog) (ms : List (String × Value)) :
      documentForm.fill { version, releaseDate, changelog }
          (("types", d.types.toJson TypeEntry.toJson) :: ms) =
        documentForm.fill { version, releaseDate, changelog, types := some d.types.entries } ms :=
    Form.fill_given rfl rfl (Slot.decode_of htable) (by rfl) ms
  have hmethods (version releaseDate changelog types) (ms : List (String × Value)) :
      documentForm.fill { version, releaseDate, changelog, types }
          (("methods", d.methods.toJson MethodEntry.toJson) :: ms) =
        documentForm.fill ⟨version, releaseDate, changelog, types, some d.methods.entries⟩ ms :=
    Form.fill_given rfl rfl (Slot.decode_of htable') (by rfl) ms
  have hmembers : d.toJson = .object (present "version" .string d.version ++
      (present "release_date" .string d.releaseDate ++
        (present "changelog" .string d.changelog ++
          [("types", d.types.toJson TypeEntry.toJson),
            ("methods", d.methods.toJson MethodEntry.toJson)]))) := by
    rw [Document.toJson]
    simp only [List.append_assoc]
  rw [hmembers]
  change (documentForm.fill {} _).bind documentForm.finish = some d
  rw [hversion, hreleaseDate, hchangelog, htypes, hmethods]
  change some (Document.mk ((d.version.map some).getD none) ((d.releaseDate.map some).getD none)
    ((d.changelog.map some).getD none) (.ofList d.types.entries) (.ofList d.methods.entries)) =
      some d
  rw [getD_map_some, getD_map_some, getD_map_some, Table.ofList_entries, Table.ofList_entries]

/-- A document is the one that its text holds. -/
theorem Document.parse_text (d : Document) : Document.parse d.text = .ok d := by
  have h : (Document.parse d.text).toOption = some d := by
    rw [Document.text, Document.toOption_parse_compact, Document.decode_toJson]
  exact toOption_eq_some_iff.1 h

end Schema

end BotBindings
