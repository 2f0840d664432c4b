import BotBindings.Binding.Declaration
import BotBindings.Proofs.Token

namespace BotBindings

/-- Values are files to upload, or lists of them. -/
def Descriptor.holdsUploads : Descriptor → Bool
  | scalar _ => false
  | object name => name = uploadType
  | array d | arrayOfArray d => d.holdsUploads

theorem Descriptor.isUpload_eq (d : Descriptor) : d.isUpload = d.holdsUploads := by
  induction d with
  | scalar kind => rfl
  | object name => exact Bool.eq_iff_iff.2 (by simp [isUpload, holdsUploads, elementObject?, element])
  | array d ih | arrayOfArray d ih => exact ih

namespace Schema

namespace Field

/-- A field of this name can be declared as `d`: no file to upload, nor the text of a number. -/
def declares (name : String) (d : Descriptor) : Bool :=
  !d.holdsUploads && !(name = "chat_id" && d = .scalar .string)

theorem declares_eq (name : String) (d : Descriptor) : declares name d =
    (!d.isUpload && !(Compile.integerOnly.contains name && d = .scalar .string)) := by
  have hname : Compile.integerOnly.contains name = decide (name = "chat_id") := by
    simp [Compile.integerOnly]
  rw [declares, Descriptor.isUpload_eq, hname]

/-- The first descriptor that can be declared. -/
def declared? (f : Field) : Option Descriptor :=
  (f.types.map Descriptor.ofToken).find? (declares f.name)

def declaration? (f : Field) (keepDescription : Bool) : Option DeclaredField :=
  f.declared?.map fun d => {
    wireName := f.name
    bindingName := upperCamel f.name
    descriptor := d
    indirect := d.isObject
    required := f.required
    description := if keepDescription then some f.description else none }

theorem wireName_of_declaration? {f : Field} {keep : Bool} {df : DeclaredField}
    (h : f.declaration? keep = some df) : df.wireName = f.name := by
  obtain ⟨d, -, rfl⟩ := Option.map_eq_some_iff.1 h
  rfl

/-- A field is declared as one of its alternatives. -/
theorem exists_token_of_declaration? {f : Field} {keep : Bool} {df : DeclaredField}
    (h : f.declaration? keep = some df) :
    ∃ token ∈ f.types, df.descriptor = Descriptor.ofToken token ∧
      declares f.name df.descriptor = true ∧ df.indirect = df.descriptor.isObject := by
  obtain ⟨d, hd, rfl⟩ := Option.map_eq_some_iff.1 h
  obtain ⟨token, ht, rfl⟩ := List.mem_map.1 (List.mem_of_find?_eq_some hd)
  exact ⟨token, ht, rfl, List.find?_some hd, rfl⟩

end Field

/-- The first field of each name. -/
def firstByName : List Field → List Field
  | [] => []
  | f :: rest => f :: (firstByName rest).filter (·.name ≠ f.name)

theorem firstByName_append (fs gs : List Field) :
    firstByName (fs ++ gs) =
      firstByName fs ++ (firstByName gs).filter (·.name ∉ fs.map Field.name) := by
  induction fs with
  | nil => exact (List.filter_eq_self.2 (by simp)).symm
  | cons f fs ih =>
    rw [List.cons_append, firstByName, ih, List.filter_append, List.filter_filter, firstByName,
      List.cons_append]
    congr 3
    funext g
    simp [not_or]

theorem mem_firstByName {fs : List Field} {f : Field} :
    f ∈ firstByName fs ↔ fs.find? (·.name = f.name) = some f := by
  induction fs with
  | nil => simp [firstByName]
  | cons g fs ih =>
    rw [firstByName, List.mem_cons, List.mem_filter, ih, List.find?_cons]
    by_cases h : g.name = f.name
    · simp [h, eq_comm]
    · have hf : f ≠ g := fun he => h (he ▸ rfl)
      simp [h, hf, Ne.symm h]

/-- Fields whose names are new, each name once. -/
def unseen (seen : List String) (fs : List Field) : List Field :=
  (firstByName fs).filter (·.name ∉ seen)

theorem unseen_nil (fs : List Field) : unseen [] fs = firstByName fs := by
  simp [unseen]

theorem unseen_congr {seen seen' : List String} (h : ∀ x, x ∈ seen ↔ x ∈ seen') (fs : List Field) :
    unseen seen fs = unseen seen' fs := by
  simp only [unseen, h]

theorem unseen_append (seen : List String) (fs gs : List Field) :
    unseen seen (fs ++ gs) = unseen seen fs ++ unseen (seen ++ fs.map Field.name) gs := by
  unfold unseen
  rw [firstByName_append, List.filter_append, List.filter_filter]
  congr 2
  funext g
  simp [not_or]

theorem unseen_cons_of_mem {seen : List String} {f : Field} (h : f.name ∈ seen) (fs : List Field) :
    unseen seen (f :: fs) = unseen seen fs := by
  have hp : (fun g : Field => decide (g.name ∉ seen) && decide (g.name ≠ f.name)) =
      fun g => decide (g.name ∉ seen) := by
    funext g
    by_cases hg : g.name ∈ seen
    · simp [hg]
    · have hn : g.name ≠ f.name := fun he => hg (he ▸ h)
      simp [hg, hn]
  rw [unseen, firstByName, List.filter_cons_of_neg (by simpa using h), List.filter_filter, hp]
  rfl

theorem unseen_cons_of_not_mem {seen : List String} {f : Field} (h : f.name ∉ seen)
    (fs : List Field) : unseen seen (f :: fs) = f :: unseen (f.name :: seen) fs := by
  rw [unseen, firstByName, List.filter_cons_of_pos (by simpa using h), List.filter_filter, unseen]
  congr 2
  funext g
  simp [Bool.and_comm]

/-- The fields of the type under a key. -/
def Table.fieldsOf (table : Table TypeEntry) (key : String) : List Field :=
  ((table.get? key).map TypeEntry.fieldList).getD []

namespace TypeEntry

/-- The fields of all subtypes, in the order in which they are listed. -/
def memberFields (t : TypeEntry) (table : Table TypeEntry) : List Field :=
  t.subtypeList.flatMap table.fieldsOf

/-- The fields from which a type is declared. -/
def sources (t : TypeEntry) (table : Table TypeEntry) : List Field :=
  if t.isUnion then firstByName (t.memberFields table) else t.fieldList

theorem mem_sources {t : TypeEntry} {table : Table TypeEntry} {f : Field} :
    f ∈ t.sources table ↔ t.isUnion = false ∧ f ∈ t.fieldList ∨
      t.isUnion = true ∧ (t.memberFields table).find? (·.name = f.name) = some f := by
  unfold sources
  cases t.isUnion <;> simp [mem_firstByName]

def kind (t : TypeEntry) : Kind :=
  if !t.isUnion && t.isMarker then if t.name = uploadType then .fileUpload else .marker else .struct

/-- The declaration of a type under a given parent. -/
def binding (t : TypeEntry) (table : Table TypeEntry) (supertype : Option String) :
    TypeBinding where
  name := t.name
  description := t.description
  kind := t.kind
  fields := (t.sources table).filterMap (·.declaration? !t.isUnion)
  supertype := supertype
  replyMarkupVariant := markupVariants.contains t.name
  variantParent := t.isUnion

end TypeEntry

end Schema

end BotBindings
