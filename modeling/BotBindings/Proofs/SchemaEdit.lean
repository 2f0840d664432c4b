import BotBindings.Proofs.Edit

namespace BotBindings.Schema

open Json Json.Value

/-- One edit of a tree that is read as a field. -/
def FieldEdit : Change :=
  RecordEdit [("name", Fixed), ("types", Fixed), ("required", Fixed), ("description", Fixed)]

def TypeEdit : Change :=
  RecordEdit [("name", Fixed), ("description", Fixed), ("href", Fixed), ("subtypes", Fixed),
    ("subtype_of", Fixed), ("fields", ItemEdit FieldEdit)]

def MethodEdit : Change :=
  RecordEdit [("name", Fixed), ("description", Fixed), ("href", Fixed),
    ("fields", ItemEdit FieldEdit), ("returns", Fixed)]

/-- One edit of a tree that is read as a document, be it in one of its types, methods and fields. -/
def DocumentEdit : Change :=
  RecordEdit [("version", Fixed), ("release_date", Fixed), ("changelog", Fixed),
    ("types", EntryEdit TypeEdit), ("methods", EntryEdit MethodEdit)]

theorem unnoticed_fieldEdit : Unnoticed FieldEdit fieldForm.decode := by
  apply Form.unnoticed_edit
  exact .cons (Slot.ignores_fixed _) <| .cons (Slot.ignores_fixed _) <|
    .cons (Slot.ignores_fixed _) <| .cons (Slot.ignores_fixed _) .nil

theorem unnoticed_typeEdit : Unnoticed TypeEdit typeForm.decode := by
  have hfields : Unnoticed (ItemEdit FieldEdit) (asOption (asList fieldForm.decode)) :=
    unnoticed_fieldEdit.optionalList
  apply Form.unnoticed_edit
  exact .cons (Slot.ignores_fixed _) <| .cons (Slot.ignores_fixed _) <|
    .cons (Slot.ignores_fixed _) <| .cons (Slot.ignores_fixed _) <|
    .cons (Slot.ignores_fixed _) <| .cons (Slot.ignores_of hfields) .nil

theorem unnoticed_methodEdit : Unnoticed MethodEdit methodForm.decode := by
  have hfields : Unnoticed (ItemEdit FieldEdit) (asOption (asList fieldForm.decode)) :=
    unnoticed_fieldEdit.optionalList
  apply Form.unnoticed_edit
  exact .cons (Slot.ignores_fixed _) <| .cons (Slot.ignores_fixed _) <|
    .cons (Slot.ignores_fixed _) <| .cons (Slot.ignores_of hfields) <|
    .cons (Slot.ignores_fixed _) .nil

theorem unnoticed_documentEdit : Unnoticed DocumentEdit documentForm.decode := by
  have htypes : Unnoticed (EntryEdit TypeEdit) (asMap typeForm.decode) := unnoticed_typeEdit.map
  have hmethods : Unnoticed (EntryEdit MethodEdit) (asMap methodForm.decode) :=
    unnoticed_methodEdit.map
  apply Form.unnoticed_edit
  exact .cons (Slot.ignores_fixed _) <| .cons (Slot.ignores_fixed _) <|
    .cons (Slot.ignores_fixed _) <| .cons (Slot.ignores_of htypes) <|
    .cons (Slot.ignores_of hmethods) .nil

theorem Document.decode_eq_of_edits {v v' : Value} (h : Relation.ReflTransGen DocumentEdit v v') :
    documentForm.decode v = documentForm.decode v' := by
  induction h with
  | refl => rfl
  | tail _ hedit ih => exact ih.trans (unnoticed_documentEdit _ _ hedit)

/-- Any number of edits leaves the document that is read as it was, or there is none before and after. -/
theorem Document.parse_of_edits {v v' : Value} (h : Relation.ReflTransGen DocumentEdit v v') :
    (∃ d, Document.parse (String.ofList v.compact) = .ok d ∧
      Document.parse (String.ofList v'.compact) = .ok d) ∨
    (∃ e, Document.parse (String.ofList v.compact) = .error e) ∧
      ∃ e, Document.parse (String.ofList v'.compact) = .error e := by
  have hv : (Document.parse (String.ofList v.compact)).toOption = documentForm.decode v :=
    Document.toOption_parse_compact v
  have hv' : (Document.parse (String.ofList v'.compact)).toOption = documentForm.decode v := by
    rw [Document.decode_eq_of_edits h]
    exact Document.toOption_parse_compact v'
  cases hd : documentForm.decode v with
  | some d =>
    rw [hd] at hv hv'
    exact .inl ⟨d, toOption_eq_some_iff.1 hv, toOption_eq_some_iff.1 hv'⟩
  | none =>
    rw [hd] at hv hv'
    exact .inr ⟨toOption_eq_none_iff.1 hv, toOption_eq_none_iff.1 hv'⟩

/-- A document of one type with one field. `extra` goes in front of the members of the field. -/
def oneField (extra : List (String × Value)) : Value :=
  .object [("Chat", .object [("name", .string "Chat"),
    ("fields", .array [.object (extra ++ [("name", .string "id"), ("types", texts ["Integer"])])])])]

/-- A field gains a member, and the maps of the document change places. -/
theorem Document.parse_of_edits_field : ∃ d,
    Document.parse (String.ofList
      (Value.object [("types", oneField []), ("methods", .object [])]).compact) = .ok d ∧
    Document.parse (String.ofList (Value.object [("methods", .object []),
      ("types", oneField [("since", .array [.nat 7, .object []])])]).compact) = .ok d := by
  have hfield : FieldEdit (.object ([] ++ [("name", .string "id"), ("types", texts ["Integer"])]))
      (.object ([] ++ ("since", .array [.nat 7, .object []]) ::
        [("name", .string "id"), ("types", texts ["Integer"])])) :=
    .insert [] _ _ rfl
  have htypes : EntryEdit TypeEdit (oneField []) (oneField [("since", .array [.nat 7, .object []])]) :=
    .entry [] [] "Chat" (.member [("name", .string "Chat")] [] rfl (.item [] [] hfield))
  have hgain : DocumentEdit (.object [("types", oneField []), ("methods", .object [])])
      (.object [("types", oneField [("since", .array [.nat 7, .object []])]),
        ("methods", .object [])]) := .member [] _ rfl htypes
  have hswap : DocumentEdit
      (.object [("types", oneField [("since", .array [.nat 7, .object []])]),
        ("methods", .object [])])
      (.object [("methods", .object []),
        ("types", oneField [("since", .array [.nat 7, .object []])])]) :=
    .permute (List.Perm.swap _ _ [])
  rcases Document.parse_of_edits ((Relation.ReflTransGen.single hgain).tail hswap) with h | ⟨h, -⟩
  · exact h
  · rw [← toOption_eq_none_iff, Document.toOption_parse_compact] at h
    cases h

end BotBindings.Schema
