import BotBindings.Proofs.MemberName
import BotBindings.Proofs.Render

namespace BotBindings

namespace Descriptor

variable {keys : List String} {d : Descriptor}

/-- Lists hold no lists, and objects are known. -/
structure Resolved (keys : List String) (d : Descriptor) : Prop where
  flat : ∀ e, d = array e ∨ d = arrayOfArray e → e.isArray = false
  within : d.Within keys

theorem isArray_ofName (name : String) : (ofName name).isArray = false := by
  unfold ofName
  split <;> rfl

theorem isArray_of_list_ofToken {token : String} {e : Descriptor}
    (h : ofToken token = array e ∨ ofToken token = arrayOfArray e) : e.isArray = false := by
  unfold ofToken at h
  split at h
  · obtain h | h := h
    · cases h
    · rw [← arrayOfArray.inj h]
      exact isArray_ofName _
  · split at h
    · obtain h | h := h
      · rw [← array.inj h]
        exact isArray_ofName _
      · cases h
    · obtain h | h := h
      · exact absurd h (ofName_ne_array token e)
      · exact absurd h (ofName_ne_arrayOfArray token e)

theorem isObject_iff : d.isObject = true ↔ ∃ name, d = object name := by
  cases d <;> simp [isObject]

end Descriptor

/-- A field is held indirectly just if it is an object, and is neither a file to upload nor the text
of a number. -/
structure DeclaredField.WellFormed (keys : List String) (f : DeclaredField) : Prop where
  resolved : f.descriptor.Resolved keys
  indirect : f.indirect = true ↔ ∃ name, f.descriptor = .object name
  upload : f.descriptor.element ≠ .object uploadType
  number : f.wireName = "chat_id" → f.descriptor ≠ .scalar .string

namespace Schema

/-- A type as its entry has it: with fields only in a struct, and with variants if it has
subtypes. -/
structure TypeEntry.DeclaredAs (keys : List String) (t : TypeEntry) (b : TypeBinding) : Prop where
  name : b.name = t.name
  fields : ∀ f ∈ b.fields, f.WellFormed keys
  empty : b.kind = .marker ∨ b.kind = .fileUpload → b.fields = []
  variants : b.variantParent = true ↔ t.subtypeList ≠ []

/-- A method as its entry has it. -/
structure MethodEntry.BoundAs (keys : List String) (m : MethodEntry) (b : MethodBinding) : Prop where
  name : b.name = m.name
  params : ∀ p ∈ b.signature.params, p.descriptor.Resolved keys
  options : ∀ o ∈ b.options, ∀ p ∈ o.fields, p.descriptor.Resolved keys
  returns : b.returns.descriptor.Resolved keys
  decode : ∀ target, b.returns.decode = .generic target → target.Resolved keys

namespace Document

variable {d : Document}

theorem resolved_of_visited (hd : d.firstUnresolvable? = none) {token : String}
    (ht : token ∈ d.visited) : (Descriptor.ofToken token).Resolved d.types.keys :=
  ⟨fun _ => Descriptor.isArray_of_list_ofToken, fun _ => mem_keys_of_visited hd ht⟩

theorem wellFormed_of_declaration? (hd : d.firstUnresolvable? = none) {t : TypeEntry}
    (ht : t ∈ d.types.values) {f : Field} (hf : f ∈ t.sources d.types) {keep : Bool}
    {df : DeclaredField} (h : f.declaration? keep = some df) : df.WellFormed d.types.keys := by
  obtain ⟨token, htoken, hdesc, hdecl, hindirect⟩ := Field.exists_token_of_declaration? h
  rw [Field.declares_eq, Bool.and_eq_true, Bool.not_eq_true', Bool.not_eq_true'] at hdecl
  refine ⟨?_, ?_, fun he => ?_, fun hw hs => ?_⟩
  · rw [hdesc]
    exact resolved_of_visited hd (mem_visited_of_source ht hf htoken)
  · rw [hindirect, Descriptor.isObject_iff]
  · -- an alternative with files to upload is passed over
    have hu : df.descriptor.isUpload = true := by
      rw [Descriptor.isUpload_iff, Descriptor.elementObject?, he]
    rw [hu] at hdecl
    cases hdecl.1
  · rw [Field.wireName_of_declaration? h] at hw
    have hnumber : (Compile.integerOnly.contains f.name &&
        decide (df.descriptor = .scalar .string)) = true := by
      rw [hw, hs]
      decide
    rw [hnumber] at hdecl
    cases hdecl.2

theorem fields_eq_nil_of_kind {t : TypeEntry} (table : Table TypeEntry)
    (h : t.kind = .marker ∨ t.kind = .fileUpload) : t.sources table = [] := by
  have hm : t.isUnion = false ∧ t.isMarker = true := by
    unfold TypeEntry.kind at h
    split at h
    · next hm => simpa using hm
    · simp at h
  rw [TypeEntry.isMarker, Bool.and_eq_true, Option.isNone_iff_eq_none] at hm
  rw [TypeEntry.sources, if_neg (by simp [hm.1]), TypeEntry.fieldList, hm.2.2]
  rfl

theorem declaredAs_binding (hd : d.firstUnresolvable? = none) {t : TypeEntry}
    (ht : t ∈ d.types.values) (supertype : Option String) :
    t.DeclaredAs d.types.keys (t.binding d.types supertype) where
  name := rfl
  fields := by
    intro df hdf
    obtain ⟨f, hf, hdf⟩ := List.mem_filterMap.1 hdf
    exact wellFormed_of_declaration? hd ht hf hdf
  empty := by
    intro hk
    rw [TypeEntry.binding, fields_eq_nil_of_kind d.types hk]
    rfl
  variants := by simp [TypeEntry.binding, TypeEntry.isUnion]

theorem boundAs_binding (hs : d.Sound) (hd : d.firstUnresolvable? = none) {m : MethodEntry}
    (hm : m ∈ d.methods.values) : m.BoundAs d.types.keys m.binding := by
  have hparams : ∀ p ∈ m.binding.allParams, p.descriptor.Resolved d.types.keys := by
    intro p hp
    obtain ⟨f, hf, rfl⟩ := MethodEntry.exists_field_of_mem_allParams hp
    exact resolved_of_visited hd (hs.head_mem_visited hm hf)
  have hreturns : m.binding.returns.descriptor.Resolved d.types.keys := by
    obtain ⟨-, token, ht, he⟩ := exists_visited_of_method hs (List.mem_map_of_mem hm)
    rw [← he]
    exact resolved_of_visited hd ht
  refine ⟨rfl, fun p hp => hparams p ?_, fun o ho p hp => hparams p ?_, hreturns, fun e he => ?_⟩
  · exact MethodBinding.mem_allParams.2 (.inl hp)
  · exact MethodBinding.mem_allParams.2 (.inr ⟨o, ho, hp⟩)
  · rw [(Descriptor.decode_eq_generic_iff.1 he).1]
    exact hreturns

end Document

end Schema

namespace Code

/-- The leaves of a type that stand in no box and no list. -/
def Ty.held : Ty → List Leaf
  | named i => [.object i.text]
  | path text => [.builtin text]
  | apply head arg => if head = "Box" ∨ head = "Vec" then [] else arg.held
  | result ok err => ok.held ++ err.held
  | ref t | slice t => t.held

/-- A type whose values have a finite size: those of a path do, a box, a list or a reference is a
pointer, and a struct holds its fields in place. -/
inductive FiniteSize (items : List Item) : Ty → Prop
  | path (text : String) : FiniteSize items (.path text)
  | pointer {head : String} (h : head = "Box" ∨ head = "Vec") (arg : Ty) :
    FiniteSize items (.apply head arg)
  | apply (head : String) {arg : Ty} (h : FiniteSize items arg) : FiniteSize items (.apply head arg)
  | result {ok err : Ty} (hok : FiniteSize items ok) (herr : FiniteSize items err) :
    FiniteSize items (.result ok err)
  | ref (t : Ty) : FiniteSize items (.ref t)
  | slice {t : Ty} (h : FiniteSize items t) : FiniteSize items (.slice t)
  | named {i : Ident}
    (h : ∀ docs attributes name fields, .struct docs attributes name fields ∈ items →
      name.text = i.text → ∀ f ∈ fields, FiniteSize items f.type) :
    FiniteSize items (.named i)

variable {items : List Item}

theorem Ty.finiteSize_of_held {t : Ty} (h : ∀ name, .object name ∉ t.held) :
    FiniteSize items t := by
  induction t with
  | named i => exact absurd (List.mem_singleton_self _) (h i.text)
  | path text => exact .path text
  | apply head arg ih =>
    by_cases hp : head = "Box" ∨ head = "Vec"
    · exact .pointer hp arg
    · rw [Ty.held, if_neg hp] at h
      exact .apply head (ih h)
  | result ok err ihok iherr =>
    refine .result (ihok fun name hn => ?_) (iherr fun name hn => ?_)
    · exact h name (List.mem_append_left _ hn)
    · exact h name (List.mem_append_right _ hn)
  | ref t => exact .ref t
  | slice t ih => exact .slice (ih h)

end Code

open Code

theorem Scalar.object_notMem_held (kind : Scalar) (name : String) :
    .object name ∉ kind.ty.held := by
  cases kind <;> simp [ty, Ty.held]

namespace Crate

variable {b : Bindings} {items : List Item} {docs : List String} {attributes : List Attribute}
  {name : Ident} {fields : List FieldDef}

theorem held_vec (t : Ty) : t.vec.held = [] := rfl

theorem held_boxed (t : Ty) : t.boxed.held = [] := rfl

/-- A field that holds its objects indirectly has them in boxes and lists only. -/
theorem object_notMem_held_fieldTy {d : Descriptor} {indirect : Bool} {t : Ty}
    (h : d.fieldTy indirect = .ok t) (hi : indirect = true ↔ ∃ name, d = .object name)
    (name : String) : .object name ∉ t.held := by
  unfold Descriptor.fieldTy at h
  split at h
  · obtain ⟨u, -, rfl⟩ := map_eq_ok_iff.1 h
    rw [held_boxed]
    exact List.not_mem_nil
  · next hdirect =>
    cases d with
    | scalar kind =>
      cases h
      exact kind.object_notMem_held name
    | object n => exact absurd (hi.2 ⟨n, rfl⟩) hdirect
    | array e | arrayOfArray e =>
      obtain ⟨u, -, rfl⟩ := map_eq_ok_iff.1 h
      rw [held_vec]
      exact List.not_mem_nil

theorem object_notMem_held_fieldDef {keys : List String} {f : DeclaredField} {g : FieldDef}
    (h : fieldDef f = .ok g) (hf : f.WellFormed keys) (name : String) :
    .object name ∉ g.type.held := by
  obtain ⟨t, ht, h⟩ := bind_eq_ok_iff.1 h
  -- an option holds what its value holds
  have hheld : .object name ∉ t.held := object_notMem_held_fieldTy ht hf.indirect name
  split_ifs at h
  all_goals
    cases h
    exact hheld

/-- The structs of a module of types are its declarations. -/
theorem exists_type_of_struct (h : typesModule b = .ok items)
    (hs : .struct docs attributes name fields ∈ items) :
    ∃ t ∈ b.types, t.fields.mapM fieldDef = .ok fields := by
  obtain ⟨declarations, markup, traits, helpers, hd, hm, ht, hh, rfl⟩ := typesModule_eq_ok h
  -- whatever holds the struct has it in its outline
  have houtline {is : List Item} (hmem : .struct docs attributes name fields ∈ is) :
      .struct name.text ∈ outline is := List.mem_flatMap.2 ⟨_, hmem, List.mem_cons_self⟩
  simp only [List.mem_cons, reduceCtorEq, false_or, List.mem_append, or_assoc] at hs
  rcases hs with hs | hs | hs | hs
  · obtain ⟨declared, hdeclared, hs⟩ := List.mem_flatten.1 hs
    obtain ⟨t, htypes, hitems⟩ := exists_source_of_mapM hd hdeclared
    have hk : t.kind ≠ .fileUpload := by
      intro hk
      rw [typeItems, if_pos hk] at hitems
      cases hitems
      cases hs
    obtain ⟨name', fields', -, hf, rfl⟩ := typeItems_eq_ok hitems hk
    cases List.mem_singleton.1 hs
    exact ⟨t, htypes, hf⟩
  · have hmarkup := houtline hs
    rw [outline_markupItems hm] at hmarkup
    simp [markupOutline, mentions] at hmarkup
  · have htraits := houtline hs
    rw [outline_flatten, flatMap_of_mapM ht fun _ _ _ => outline_variantItems] at htraits
    simp [variantOutline, mentions] at htraits
  · have hhelpers := houtline hs
    rw [outline_helperItems hh] at hhelpers
    simp [helperOutline, mentions] at hhelpers

end Crate

open Schema Crate

/-- Bindings are well formed: types and methods stand for the entries of their document in order,
and no struct of the module of types holds an object but in a box or a list. -/
theorem Bindings.ofDocument_wellFormed {d : Document} {b : Bindings}
    (h : (ofDocument (some d)).1 = .ok b) :
    List.Forall₂ (TypeEntry.DeclaredAs d.types.keys) d.types.values b.types ∧
    List.Forall₂ (MethodEntry.BoundAs d.types.keys) d.methods.values b.methods ∧
    ∀ items, typesModule b = .ok items →
      ∀ docs attributes name fields, .struct docs attributes name fields ∈ items →
        (∀ f ∈ fields, ∀ object, .object object ∉ f.type.held) ∧
        FiniteSize items (.named name) := by
  obtain ⟨hs, hd, rfl⟩ := ofDocument_eq_ok_iff.1 h
  have htypes : List.Forall₂ (TypeEntry.DeclaredAs d.types.keys) d.types.values
      d.bindings.types := by
    refine List.forall₂_map_right_iff.2 (List.forall₂_same.2 fun t ht => ?_)
    exact Document.declaredAs_binding hd ht _
  have hmethods : List.Forall₂ (MethodEntry.BoundAs d.types.keys) d.methods.values
      d.bindings.methods := by
    refine List.forall₂_map_right_iff.2 (List.forall₂_same.2 fun m hm => ?_)
    exact Document.boundAs_binding hs hd hm
  refine ⟨htypes, hmethods, fun items hi => ?_⟩
  have hheld : ∀ docs attributes name fields, .struct docs attributes name fields ∈ items →
      ∀ f ∈ fields, ∀ object, .object object ∉ f.type.held := by
    intro docs attributes name fields hstruct g hg
    obtain ⟨t, ht, hf⟩ := exists_type_of_struct hi hstruct
    obtain ⟨u, hu, rfl⟩ := List.mem_map.1 ht
    obtain ⟨f, hmem, hf⟩ := exists_source_of_mapM hf hg
    exact object_notMem_held_fieldDef hf ((Document.declaredAs_binding hd hu _).fields f hmem)
  intro docs attributes name fields hstruct
  refine ⟨hheld docs attributes name fields hstruct, .named ?_⟩
  intro docs attributes name' fields hstruct' _ f hf
  exact Ty.finiteSize_of_held (hheld docs attributes name' fields hstruct' f hf)

/-- A post holds the post that it answers and those that answer it. -/
def forum : Document where
  types := ⟨[
    ("Entry", { name := "Entry", subtypes := some ["Post"] }),
    ("Post", {
      name := "Post"
      fields := some [⟨"chat_id", ["String", "Integer"], true, ""⟩,
        ⟨"parent", ["Post"], false, ""⟩, ⟨"replies", ["Array of Array of Post"], true, ""⟩,
        ⟨"cover", ["InputFile", "String"], true, ""⟩] }),
    ("InputFile", { name := "InputFile" })], by decide⟩
  methods := ⟨[("answer", {
    name := "answer"
    fields := some [⟨"text", ["String"], true, ""⟩, ⟨"cover", ["InputFile"], false, ""⟩]
    returns := ["Post"] })], by decide⟩

theorem Bindings.ofDocument_wellFormed_forum :
    ∃ b items, (ofDocument (some forum)).1 = .ok b ∧ typesModule b = .ok items ∧
      List.Forall₂ (TypeEntry.DeclaredAs forum.types.keys) forum.types.values b.types ∧
      ∃ docs attributes fields, .struct docs attributes ⟨false, "Post"⟩ fields ∈ items ∧
        (∃ f ∈ fields, f.type = (Ty.named ⟨false, "Post"⟩).boxed.option) ∧
        (∀ f ∈ fields, .object "Post" ∉ f.type.held) ∧
        FiniteSize items (.named ⟨false, "Post"⟩) := by
  have h : (ofDocument (some forum)).1 = .ok forum.bindings :=
    ofDocument_of_check rfl (by decide)
  obtain ⟨items, hi⟩ : ∃ items, typesModule forum.bindings = .ok items :=
    exists_eq_ok (by decide +kernel)
  obtain ⟨htypes, -, hstructs⟩ := ofDocument_wellFormed h
  have hpost : ∃ t ∈ forum.bindings.types, ∃ docs attributes fields,
      typeItems t = .ok [.struct docs attributes ⟨false, "Post"⟩ fields] ∧
      ∃ f ∈ fields, f.type = (Ty.named ⟨false, "Post"⟩).boxed.option := by
    refine ⟨_, List.mem_cons_of_mem _ List.mem_cons_self, _, _, _, rfl, ?_⟩
    exact ⟨_, List.mem_cons_of_mem _ List.mem_cons_self, rfl⟩
  obtain ⟨t, ht, docs, attributes, fields, hdeclared, hf⟩ := hpost
  obtain ⟨declared, hitems, hsub⟩ := typeItems_subset hi ht
  rw [hdeclared] at hitems
  cases hitems
  have hmem := hsub List.mem_cons_self
  obtain ⟨hheld, hsize⟩ := hstructs items hi docs attributes _ fields hmem
  exact ⟨_, items, h, hi, htypes, docs, attributes, fields, hmem, hf,
    fun f hf => hheld f hf "Post", hsize⟩

end BotBindings
