import BotBindings.Crate.Types
import BotBindings.Proofs.Except

namespace BotBindings

namespace Code

/-- What stands at a leaf of a type: an object, or a type of the language or of a library. -/
inductive Leaf where
  | object (name : String)
  | builtin (name : String)
  deriving DecidableEq

def Leaf.name : Leaf → String
  | object name | builtin name => name

def Ty.leaves : Ty → List Leaf
  | named i => [.object i.text]
  | path text => [.builtin text]
  | apply _ arg => arg.leaves
  | result ok err => ok.leaves ++ err.leaves
  | ref t | slice t => t.leaves

@[simp] theorem leaves_vec (t : Ty) : t.vec.leaves = t.leaves := rfl

@[simp] theorem leaves_boxed (t : Ty) : t.boxed.leaves = t.leaves := rfl

inductive OutlineEntry where
  | struct (name : String)
  | trait (name : String)
  /-- An implementation of an interface that has a name of its own, with its number of functions. -/
  | implements (interface self : String) (functions : Nat)
  | use (path : String)
  | mention (leaf : Leaf)
  deriving DecidableEq

def OutlineEntry.isMention : OutlineEntry → Bool
  | mention _ => true
  | _ => false

def mentions (ls : List Leaf) : List OutlineEntry := ls.map .mention

theorem mem_mentions {l : Leaf} {ls : List Leaf} : .mention l ∈ mentions ls ↔ l ∈ ls := by
  simp [mentions]

def Fn.outline (f : Fn) : List OutlineEntry :=
  f.args.flatMap (fun a => mentions a.type.leaves) ++ mentions f.result.leaves

def Item.outline : Item → List OutlineEntry
  | .innerDoc _ | .modDecl _ | .listing _ => []
  | .useDecl path => [.use path]
  | .struct _ _ name fields => .struct name.text :: fields.flatMap fun f => mentions f.type.leaves
  | .sum _ _ _ variants => variants.map fun v => .mention (.object v.text)
  | .impl (some (.named i)) self fns =>
    .implements i.text self.text fns.length :: mentions self.leaves ++ fns.flatMap Fn.outline
  | .impl interface self fns =>
    interface.toList.flatMap (fun t => mentions t.leaves) ++ mentions self.leaves ++
      fns.flatMap Fn.outline
  | .trait _ name _ fns => .trait name.text :: fns.flatMap Fn.outline
  | .fn f => f.outline

def outline (items : List Item) : List OutlineEntry := items.flatMap Item.outline

theorem outline_append (items items' : List Item) :
    outline (items ++ items') = outline items ++ outline items' := List.flatMap_append

theorem outline_flatten (ls : List (List Item)) : outline ls.flatten = ls.flatMap outline := by
  induction ls with
  | nil => rfl
  | cons items ls ih => rw [List.flatten_cons, outline_append, ih, List.flatMap_cons]

/-- An identifier is written as the text that spells it. -/
theorem Ident.text_of_ofString {s : String} {i : Ident} (h : ofString s = .ok i) : i.text = s := by
  unfold ofString at h
  split at h
  · next rest hr =>
    rw [Text.behind?_eq_some_iff] at hr
    obtain ⟨-, h⟩ := unit_bind_eq_ok_iff.1 h
    dsimp only at h
    split at h
    · cases h
    · cases h
      rw [Ident.text, if_pos rfl, ← String.toList_inj, String.toList_append, hr]
      exact congrArg ("r#".toList ++ ·) String.toList_ofList
  · obtain ⟨-, h⟩ := unit_bind_eq_ok_iff.1 h
    cases h
    rfl

end Code

open Code

/-- The leaves of the type of a descriptor. -/
def Descriptor.leaves : Descriptor → List Leaf
  | scalar kind => kind.ty.leaves
  | object name => [.object name]
  | array d | arrayOfArray d => d.leaves

theorem leaves_objectTy {name : String} {t : Ty} (h : objectTy name = .ok t) :
    t.leaves = [.object name] := by
  obtain ⟨i, hi, rfl⟩ := map_eq_ok_iff.1 h
  rw [Ty.leaves, Ident.text_of_ofString hi]

namespace Descriptor

theorem leaves_ty {d : Descriptor} {t : Ty} (h : d.ty = .ok t) : t.leaves = d.leaves := by
  induction d generalizing t with
  | scalar kind =>
    cases h
    rfl
  | object name => exact leaves_objectTy h
  | array d ih | arrayOfArray d ih =>
    obtain ⟨u, hu, rfl⟩ := map_eq_ok_iff.1 h
    simpa [leaves] using ih hu

theorem leaves_fieldTy {d : Descriptor} {indirect : Bool} {t : Ty}
    (h : d.fieldTy indirect = .ok t) : t.leaves = d.leaves := by
  unfold fieldTy at h
  split at h
  · obtain ⟨u, hu, rfl⟩ := map_eq_ok_iff.1 h
    simpa using leaves_ty hu
  · exact leaves_ty h

theorem object_mem_leaves {d : Descriptor} {name : String} :
    .object name ∈ d.leaves ↔ d.elementObject? = some name := by
  induction d with
  | scalar kind => cases kind <;> simp [leaves, Scalar.ty, Ty.leaves, elementObject?, element]
  | object n => simp [leaves, elementObject?, element, eq_comm]
  | array d ih | arrayOfArray d ih => exact ih

/-- No scalar goes by the name of the files to upload. -/
theorem uploadType_mem_leaves {d : Descriptor} :
    (∃ l ∈ d.leaves, l.name = uploadType) ↔ d.isUpload = true := by
  induction d with
  | scalar kind => cases kind <;> decide
  | object n => simp [leaves, Leaf.name, isUpload, elementObject?, element]
  | array d ih | arrayOfArray d ih => exact ih

end Descriptor

namespace Crate

/-- The outline of a declaration. -/
def typeOutline (t : TypeBinding) : List OutlineEntry :=
  if t.kind = .fileUpload then []
  else .struct t.name :: t.fields.flatMap fun f => mentions f.descriptor.leaves

theorem leaves_fieldDef {f : DeclaredField} {g : FieldDef} (h : fieldDef f = .ok g) :
    g.type.leaves = f.descriptor.leaves := by
  obtain ⟨t, ht, h⟩ := bind_eq_ok_iff.1 h
  have hl : t.leaves = f.descriptor.leaves := Descriptor.leaves_fieldTy ht
  split_ifs at h
  all_goals
    cases h
    exact hl

theorem outline_typeItems {t : TypeBinding} {items : List Item} (h : typeItems t = .ok items) :
    outline items = typeOutline t := by
  unfold typeItems at h
  unfold typeOutline
  split at h
  · next hk =>
    cases h
    rw [if_pos hk]
    rfl
  · next hk =>
    obtain ⟨name, hn, h⟩ := bind_eq_ok_iff.1 h
    obtain ⟨fields, hf, h⟩ := bind_eq_ok_iff.1 h
    cases h
    have hfields : (fields.flatMap fun f => mentions f.type.leaves) =
        t.fields.flatMap fun f => mentions f.descriptor.leaves :=
      flatMap_of_mapM hf fun f _ g hg => congrArg mentions (leaves_fieldDef hg)
    rw [if_neg hk, ← hfields, ← Ident.text_of_ofString hn]
    exact List.flatMap_singleton _ _

/-- The outline of the sum of the reply markups and its conversions. -/
def markupOutline (variants : List String) : List OutlineEntry :=
  variants.flatMap (fun v => mentions [.object v]) ++ variants.flatMap fun v =>
    mentions [.object v, .builtin "ReplyMarkup", .object v, .builtin "Self"]

theorem outline_markupItems {variants : List String} {items : List Item}
    (h : markupItems variants = .ok items) : outline items = markupOutline variants := by
  unfold markupItems at h
  unfold markupOutline
  split at h
  · next he =>
    cases h
    rw [List.isEmpty_iff.1 he]
    rfl
  · obtain ⟨idents, hi, h⟩ := bind_eq_ok_iff.1 h
    cases h
    have hs : (idents.flatMap fun i => mentions [.object i.text]) =
        variants.flatMap fun v => mentions [.object v] :=
      flatMap_of_mapM hi fun v _ i hv => by rw [Ident.text_of_ofString hv]
    have hc : (idents.flatMap fun i => (markupConversion i).outline) =
        variants.flatMap fun v =>
          mentions [.object v, .builtin "ReplyMarkup", .object v, .builtin "Self"] :=
      flatMap_of_mapM hi fun v _ i hv => by
        rw [← Ident.text_of_ofString hv]
        rfl
    rw [← hs, ← hc, outline, List.flatMap_cons, List.flatMap_map]
    congr 1
    exact List.map_eq_flatMap

/-- The outline of the trait of a union and its implementations. -/
def variantOutline (parent : String) (subtypes : List String) : List OutlineEntry :=
  .trait (parent ++ "Variant") :: mentions [.object parent, .builtin "serde_json::Error"] ++
    subtypes.flatMap fun s => [.implements (parent ++ "Variant") s 0, .mention (.object s)]

theorem outline_variantItems {parent : String} {subtypes : List String} {items : List Item}
    (h : variantItems parent subtypes = .ok items) :
    outline items = variantOutline parent subtypes := by
  obtain ⟨p, hp, h⟩ := bind_eq_ok_iff.1 h
  obtain ⟨trait, ht, h⟩ := bind_eq_ok_iff.1 h
  obtain ⟨method, -, h⟩ := bind_eq_ok_iff.1 h
  obtain ⟨impls, hi, h⟩ := bind_eq_ok_iff.1 h
  cases h
  have htrait : trait.text = parent ++ "Variant" := Ident.text_of_ofString ht
  have himpls : impls.flatMap Item.outline = subtypes.flatMap fun s =>
      [.implements (parent ++ "Variant") s 0, .mention (.object s)] := by
    refine flatMap_of_mapM hi fun s _ item hitem => ?_
    obtain ⟨i, hs, hitem⟩ := bind_eq_ok_iff.1 hitem
    cases hitem
    rw [← htrait, ← Ident.text_of_ofString hs]
    rfl
  rw [outline, List.flatMap_cons, himpls, variantOutline, ← htrait, ← Ident.text_of_ofString hp]
  rfl

/-- The outline of a helper. -/
def helperOutline (element : String) : List OutlineEntry :=
  mentions [.builtin "serde_json::Value", .object element, .builtin "serde_json::Error"]

theorem arrayHelper_eq_ok {element : String} {item : Item} (h : arrayHelper element = .ok item) :
    ∃ doc name t, arrayHelperIdent element = .ok name ∧ objectTy element = .ok t ∧
      item = helperItem doc name t.vec := by
  obtain ⟨name, hn, h⟩ := bind_eq_ok_iff.1 h
  obtain ⟨t, ht, h⟩ := bind_eq_ok_iff.1 h
  cases h
  exact ⟨_, name, t, hn, ht, rfl⟩

theorem arrayOfArrayHelper_eq_ok {element : String} {item : Item}
    (h : arrayOfArrayHelper element = .ok item) :
    ∃ doc name t, arrayOfArrayHelperIdent element = .ok name ∧ objectTy element = .ok t ∧
      item = helperItem doc name t.vec.vec := by
  obtain ⟨name, hn, h⟩ := bind_eq_ok_iff.1 h
  obtain ⟨t, ht, h⟩ := bind_eq_ok_iff.1 h
  cases h
  exact ⟨_, name, t, hn, ht, rfl⟩

theorem outline_helperItem {doc element : String} {name : Ident} {result : Ty}
    (h : result.leaves = [.object element]) :
    (helperItem doc name result).outline = helperOutline element := by
  simp [helperItem, Item.outline, Fn.outline, Ty.leaves, jsonError, h, helperOutline, mentions]

theorem outline_arrayHelper {element : String} {item : Item}
    (h : arrayHelper element = .ok item) : item.outline = helperOutline element := by
  obtain ⟨doc, name, t, -, ht, rfl⟩ := arrayHelper_eq_ok h
  have hl : t.leaves = [.object element] := leaves_objectTy ht
  exact outline_helperItem hl

theorem outline_arrayOfArrayHelper {element : String} {item : Item}
    (h : arrayOfArrayHelper element = .ok item) : item.outline = helperOutline element := by
  obtain ⟨doc, name, t, -, ht, rfl⟩ := arrayOfArrayHelper_eq_ok h
  have hl : t.leaves = [.object element] := leaves_objectTy ht
  exact outline_helperItem hl

theorem outline_helperItems {arrays arraysOfArrays : List String} {items : List Item}
    (h : helperItems arrays arraysOfArrays = .ok items) :
    outline items = ((arrays ++ arraysOfArrays).filter (· ≠ uploadType)).flatMap helperOutline := by
  obtain ⟨singles, hs, h⟩ := bind_eq_ok_iff.1 h
  obtain ⟨doubles, hd, h⟩ := bind_eq_ok_iff.1 h
  cases h
  rw [List.filter_append, List.flatMap_append, outline_append, outline, outline,
    flatMap_of_mapM hs fun _ _ _ => outline_arrayHelper,
    flatMap_of_mapM hd fun _ _ _ => outline_arrayOfArrayHelper]

/-- The parts of the module of types, in their order. -/
theorem typesModule_eq_ok {b : Bindings} {items : List Item} (h : typesModule b = .ok items) :
    ∃ declarations markup traits helpers, b.types.mapM typeItems = .ok declarations ∧
      markupItems b.replyMarkupVariants = .ok markup ∧
      b.variantParents.mapM (fun p => variantItems p.name (variantsOf b p.name)) = .ok traits ∧
      helperItems b.arrayHelpers b.arrayOfArrayHelpers = .ok helpers ∧
      items = .innerDoc " Bot API object types." ::
        .useDecl "serde::\x7bDeserialize, Serialize\x7d" ::
          (declarations.flatten ++ markup ++ traits.flatten ++ helpers) := by
  obtain ⟨declarations, hd, h⟩ := bind_eq_ok_iff.1 h
  obtain ⟨markup, hm, h⟩ := bind_eq_ok_iff.1 h
  obtain ⟨traits, ht, h⟩ := bind_eq_ok_iff.1 h
  obtain ⟨helpers, hh, h⟩ := bind_eq_ok_iff.1 h
  exact ⟨declarations, markup, traits, helpers, hd, hm, ht, hh, (Except.ok.inj h).symm⟩

/-- The outline of the module of types. -/
theorem outline_typesModule {b : Bindings} {items : List Item} (h : typesModule b = .ok items) :
    outline items = .use "serde::\x7bDeserialize, Serialize\x7d" ::
      (b.types.flatMap typeOutline ++ markupOutline b.replyMarkupVariants ++
        b.variantParents.flatMap (fun p => variantOutline p.name (variantsOf b p.name)) ++
        ((b.arrayHelpers ++ b.arrayOfArrayHelpers).filter (· ≠ uploadType)).flatMap
          helperOutline) := by
  obtain ⟨declarations, markup, traits, helpers, hd, hm, ht, hh, rfl⟩ := typesModule_eq_ok h
  change _ :: outline (declarations.flatten ++ markup ++ traits.flatten ++ helpers) = _
  rw [outline_append, outline_append, outline_append, outline_flatten, outline_flatten,
    flatMap_of_mapM hd fun _ _ _ => outline_typeItems, outline_markupItems hm,
    flatMap_of_mapM ht fun _ _ _ => outline_variantItems, outline_helperItems hh]

end Crate

end BotBindings
