import BotBindings.Proofs.Document
import BotBindings.Proofs.FieldIdent
import BotBindings.Proofs.Outline

namespace BotBindings

namespace Code

/-- Gives members names of their own. -/
def Attribute.renames (a : Attribute) : Bool := a.args.any (Text.begins "rename")

/-- The text of an identifier without the mark of a raw one. -/
def Ident.plainText (i : Ident) : String :=
  match Text.behind? ['r', '#'] i.text.toList with
  | some rest => String.ofList rest
  | none => i.text

/-- The name of a member that no attribute names. -/
def FieldDef.memberName (f : FieldDef) : String := f.name.plainText

theorem Ident.Legal.plainText {i : Ident} (h : i.Legal) : i.plainText = i.name := by
  obtain ⟨raw, name⟩ := i
  cases raw with
  | false =>
    have hb : Text.behind? ['r', '#'] name.toList = none := Text.behind?_raw h.isIdent
    rw [Ident.plainText, Ident.text, if_neg Bool.false_ne_true, hb]
  | true =>
    have hb : Text.behind? ['r', '#'] ("r#" ++ name).toList = some name.toList := by
      rw [Text.behind?_eq_some_iff, String.toList_append]
      rfl
    rw [Ident.plainText, Ident.text, if_pos rfl, hb]
    exact String.ofList_toList

end Code

namespace Crate

open Code

/-- The attributes of a declaration. -/
def containerAttributes (t : TypeBinding) : List Attribute :=
  ⟨"derive", ["Debug", "Clone", "Default", "PartialEq", "Serialize", "Deserialize"]⟩ ::
    if t.variantParent then [⟨"serde", ["default"]⟩] else []

/-- A field as it is declared: under no other name than its identifier's. -/
structure Declares (f : DeclaredField) (g : FieldDef) : Prop where
  renames : ∀ a ∈ g.attributes, a.renames = false
  memberName : g.memberName = (fieldIdent f.wireName).name

theorem declares_fieldDef {f : DeclaredField} {g : FieldDef} (h : fieldDef f = .ok g) :
    Declares f g := by
  have hname : (fieldIdent f.wireName).plainText = (fieldIdent f.wireName).name :=
    (legal_fieldIdent f.wireName).1.plainText
  have hskip : skipIfEmpty.renames = false ∧ skipIfNone.renames = false := by decide
  obtain ⟨t, -, h⟩ := bind_eq_ok_iff.1 h
  split_ifs at h
  all_goals
    cases h
    refine ⟨fun a ha => ?_, hname⟩
  · cases ha
  · rw [List.mem_singleton.1 ha]
    exact hskip.1
  · rw [List.mem_singleton.1 ha]
    exact hskip.2

/-- A field keeps the name that the interface has for it if that is an identifier with a raw form. -/
theorem Declares.memberName_eq_iff {f : DeclaredField} {g : FieldDef} (h : Declares f g) :
    g.memberName = f.wireName ↔ Text.isIdent f.wireName.toList = true ∧ f.wireName ∉ neverRaw := by
  rw [h.memberName]
  exact name_fieldIdent_iff

variable {b : Bindings} {items : List Item} {t : TypeBinding}

theorem renames_containerAttributes (t : TypeBinding) : ∀ a ∈ containerAttributes t,
    a.renames = false := by
  intro a ha
  unfold containerAttributes at ha
  rcases List.mem_cons.1 ha with rfl | ha
  · decide
  · split at ha
    · rw [List.mem_singleton.1 ha]
      decide
    · cases ha

theorem typeItems_eq_ok (h : typeItems t = .ok items) (hk : t.kind ≠ .fileUpload) :
    ∃ name fields, typeIdent t.name = .ok name ∧ t.fields.mapM fieldDef = .ok fields ∧
      items = [.struct (docLines t.description) (containerAttributes t) name fields] := by
  rw [typeItems, if_neg hk] at h
  obtain ⟨name, hn, h⟩ := bind_eq_ok_iff.1 h
  obtain ⟨fields, hf, h⟩ := bind_eq_ok_iff.1 h
  exact ⟨name, fields, hn, hf, (Except.ok.inj h).symm⟩

theorem typeItems_subset (h : typesModule b = .ok items) (ht : t ∈ b.types) :
    ∃ declared, typeItems t = .ok declared ∧ declared ⊆ items := by
  obtain ⟨declarations, markup, traits, helpers, hd, -, -, -, rfl⟩ := typesModule_eq_ok h
  obtain ⟨declared, hmem, hitems⟩ := exists_of_mem_mapM hd ht
  refine ⟨declared, hitems, fun item hi => ?_⟩
  have hflat : item ∈ declarations.flatten := List.mem_flatten.2 ⟨declared, hmem, hi⟩
  refine List.mem_cons_of_mem _ (List.mem_cons_of_mem _ ?_)
  exact List.mem_append_left _ (List.mem_append_left _ (List.mem_append_left _ hflat))

/-- A type that is no file to upload is a struct of the module of types. -/
theorem exists_struct_of_mem (h : typesModule b = .ok items) (ht : t ∈ b.types)
    (hk : t.kind ≠ .fileUpload) :
    ∃ docs attributes name fields, .struct docs attributes name fields ∈ items ∧
      name.text = t.name ∧ (∀ a ∈ attributes, a.renames = false) ∧
      List.Forall₂ Declares t.fields fields := by
  obtain ⟨declared, hdeclared, hsub⟩ := typeItems_subset h ht
  obtain ⟨name, fields, hn, hf, rfl⟩ := typeItems_eq_ok hdeclared hk
  have hfields : List.Forall₂ Declares t.fields fields :=
    (mapM_eq_ok_iff.1 hf).imp fun f g => declares_fieldDef
  exact ⟨_, _, name, fields, hsub (List.mem_singleton_self _), Ident.text_of_ofString hn,
    renames_containerAttributes t, hfields⟩

/-- Every field of a generated struct is a member under its identifier, which is the name that the
interface has for it just if that name is an identifier and no keyword without a raw form. -/
theorem memberNames_typesModule (h : typesModule b = .ok items) (ht : t ∈ b.types)
    (hk : t.kind ≠ .fileUpload) :
    ∃ docs attributes name fields, .struct docs attributes name fields ∈ items ∧
      name.text = t.name ∧ (∀ a ∈ attributes, a.renames = false) ∧
      List.Forall₂ (fun f g => (∀ a ∈ g.attributes, a.renames = false) ∧
        (g.memberName = f.wireName ↔
          Text.isIdent f.wireName.toList = true ∧ f.wireName ∉ neverRaw)) t.fields fields := by
  obtain ⟨docs, attributes, name, fields, hmem, hname, hattributes, hfields⟩ :=
    exists_struct_of_mem h ht hk
  refine ⟨docs, attributes, name, fields, hmem, hname, hattributes, ?_⟩
  exact hfields.imp fun f g hg => ⟨hg.renames, hg.memberName_eq_iff⟩

end Crate

open Schema Code Crate

/-- Fields under a keyword, and under two words joined by a hyphen. -/
def hyphenated : Document where
  types := ⟨[("Chat", {
    name := "Chat"
    fields := some [⟨"type", ["String"], true, ""⟩, ⟨"file-id", ["String"], false, ""⟩] })],
    List.nodup_singleton "Chat"⟩
  methods := ⟨[], List.nodup_nil⟩

/-- The only type of the document. -/
def chat : TypeBinding where
  name := "Chat"
  description := []
  kind := .struct
  fields := [⟨"type", "Type", .scalar .string, false, true, some ""⟩,
    ⟨"file-id", "File-id", .scalar .string, false, false, some ""⟩]
  replyMarkupVariant := false
  variantParent := false

theorem mem_types_hyphenated : chat ∈ hyphenated.bindings.types := by decide

theorem Crate.memberNames_typesModule_hyphenated :
    ∃ items docs attributes name f g, typesModule hyphenated.bindings = .ok items ∧
      .struct docs attributes name [f, g] ∈ items ∧ name.text = "Chat" ∧
      f.memberName = "type" ∧ g.memberName ≠ "file-id" := by
  obtain ⟨items, hi⟩ : ∃ items, typesModule hyphenated.bindings = .ok items :=
    exists_eq_ok (by decide +kernel)
  obtain ⟨docs, attributes, name, fields, hmem, hname, -, hfields⟩ :=
    memberNames_typesModule hi mem_types_hyphenated (by decide)
  obtain _ | ⟨hf, _ | ⟨hg, _ | _⟩⟩ := hfields
  refine ⟨items, docs, attributes, name, _, _, hi, hmem, hname, hf.2.2 (by decide), fun h => ?_⟩
  exact absurd (hg.2.1 h).1 (by decide)

/-- Not every field keeps the name that the interface has for it. -/
theorem Bindings.exists_lost_name :
    ¬ ∀ (d : Document) (b : Bindings), (ofDocument (some d)).1 = .ok b →
      ∀ items, typesModule b = .ok items →
      ∀ t ∈ b.types, t.kind ≠ .fileUpload →
      ∀ docs attributes name fields, .struct docs attributes name fields ∈ items →
        name.text = t.name → fields.map (·.memberName) = t.fields.map (·.wireName) := by
  intro h
  have hb : (ofDocument (some hyphenated)).1 = .ok hyphenated.bindings :=
    ofDocument_of_check rfl (by decide)
  obtain ⟨items, hi⟩ : ∃ items, typesModule hyphenated.bindings = .ok items :=
    exists_eq_ok (by decide +kernel)
  obtain ⟨docs, attributes, name, fields, hmem, hname, -, hfields⟩ :=
    exists_struct_of_mem hi mem_types_hyphenated (by decide)
  have hnames : fields.map (·.memberName) = chat.fields.map (·.wireName) :=
    h hyphenated _ hb items hi chat mem_types_hyphenated (by decide) docs attributes name fields hmem
      hname
  obtain _ | ⟨hf, _ | ⟨hg, _ | _⟩⟩ := hfields
  have hlost : _ = "file-id" := (List.cons.inj (List.cons.inj hnames).2).1
  exact absurd (hg.memberName_eq_iff.1 hlost).1 (by decide)

end BotBindings
