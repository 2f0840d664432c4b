import BotBindings.Crate.Module
import BotBindings.Proofs.Closure
import BotBindings.Proofs.PlainName
import BotBindings.Proofs.TreeIdent
import BotBindings.Proofs.Upload

namespace BotBindings

open Code

variable {names : List String}

/-- An identifier that may stand in code, and that is a keyword only as one of the names. -/
structure Code.Ident.Fits (names : List String) (i : Ident) : Prop where
  legal : i.Legal
  keyword : i.isKeyword = true → i.name ∈ names

def Code.FitAll (names : List String) (is : List Ident) : Prop := ∀ i ∈ is, i.Fits names

namespace Code

variable {i : Ident} {is js : List Ident}

theorem Ident.Fits.of_not_keyword (h : i.Legal ∧ i.isKeyword = false) : i.Fits names := by
  refine ⟨h.1, fun hk => ?_⟩
  rw [h.2] at hk
  cases hk

theorem Ident.fits_fieldIdent (name : String) : (fieldIdent name).Fits names :=
  .of_not_keyword (legal_fieldIdent name)

/-- A word of a template. -/
theorem Ident.Fits.word {w : String} (h : Text.isIdent w.toList = true ∧ w ∉ keywords) :
    Ident.Fits names ⟨false, w⟩ := by
  exact .of_not_keyword ⟨Ident.legal_of_isIdent h.1, Ident.isKeyword_eq_false_iff.2 h.2⟩

theorem FitAll.nil : FitAll names [] := fun _ h => by cases h

theorem FitAll.cons (hi : i.Fits names) (h : FitAll names is) : FitAll names (i :: is) :=
  List.forall_mem_cons.2 ⟨hi, h⟩

theorem FitAll.append (hi : FitAll names is) (hj : FitAll names js) : FitAll names (is ++ js) :=
  List.forall_mem_append.2 ⟨hi, hj⟩

theorem FitAll.flatMap {α : Type} {f : α → List Ident} {as : List α}
    (h : ∀ a ∈ as, FitAll names (f a)) : FitAll names (as.flatMap f) :=
  List.forall_mem_flatMap.2 h

theorem FitAll.flatten {ls : List (List Item)} (h : ∀ items ∈ ls, FitAll names (idents items)) :
    FitAll names (idents ls.flatten) := by
  intro i hi
  obtain ⟨item, hitem, hi⟩ := List.mem_flatMap.1 hi
  obtain ⟨items, hitems, hitem⟩ := List.mem_flatten.1 hitem
  exact h items hitems i (List.mem_flatMap.2 ⟨item, hitem, hi⟩)

theorem idents_append (items items' : List Item) :
    idents (items ++ items') = idents items ++ idents items' := List.flatMap_append

theorem bodyIdents_eq (ss : List Stmt) : bodyIdents ss = ss.flatMap Stmt.idents := by
  induction ss with
  | nil => rfl
  | cons s ss ih => rw [bodyIdents, ih, List.flatMap_cons]

end Code

/-- The objects that a descriptor refers to are among the names. -/
def Descriptor.Within (names : List String) (d : Descriptor) : Prop :=
  ∀ n, d.elementObject? = some n → n ∈ names

/-- The name of the options of a method whose name is plain. -/
def IsOptionsName (n : String) : Prop := ∃ s, PlainName s ∧ optionsName s = n

/-- The names that bindings use are plain, and the types among them are the given ones. -/
structure Bindings.Within (names : List String) (b : Bindings) : Prop where
  plain : ∀ n ∈ names, PlainName n
  types : ∀ t ∈ b.types, t.name ∈ names
  fields : ∀ t ∈ b.types, ∀ f ∈ t.fields, f.descriptor.Within names
  markup : ∀ n ∈ b.replyMarkupVariants, n ∈ names
  arrays : ∀ n ∈ b.arrayHelpers, n ∈ names
  arraysOfArrays : ∀ n ∈ b.arrayOfArrayHelpers, n ∈ names
  params : ∀ m ∈ b.methods, ∀ p ∈ m.allParams, p.descriptor.Within names
  returns : ∀ m ∈ b.methods, m.returns.descriptor.Within names
  decode : ∀ m ∈ b.methods, m.returns.decode = m.returns.descriptor.decode
  options : ∀ m ∈ b.methods, ∀ o ∈ m.options, IsOptionsName o.name
  optionsParam : ∀ m ∈ b.methods, ∀ n ∈ m.signature.optionsParam, IsOptionsName n

namespace Crate

section

variable (hp : ∀ n ∈ names, PlainName n) {n : String} {d : Descriptor}

include hp

theorem makes_typeIdent (hn : n ∈ names) : Makes (typeIdent n) fun i => i.Fits names :=
  ⟨_, (hp n hn).ofString, (hp n hn).legal, fun _ => hn⟩

theorem makes_objectTy (hn : n ∈ names) : Makes (objectTy n) fun t => FitAll names t.idents :=
  (makes_typeIdent hp hn).map fun _ hi => .cons hi .nil

theorem makes_ty (hd : d.Within names) : Makes d.ty fun t => FitAll names t.idents := by
  induction d with
  | scalar kind => cases kind <;> exact .pure .nil
  | object name => exact makes_objectTy hp (hd name rfl)
  | array d ih | arrayOfArray d ih => exact (ih hd).map fun _ ht => ht

theorem makes_fieldTy (hd : d.Within names) (indirect : Bool) :
    Makes (d.fieldTy indirect) fun t => FitAll names t.idents := by
  unfold Descriptor.fieldTy
  split
  · exact (makes_ty hp hd).map fun _ ht => ht
  · exact makes_ty hp hd

theorem makes_paramTy (passing : Passing) (hd : d.Within names) :
    Makes (paramTy passing d) fun t => FitAll names t.idents := by
  unfold paramTy
  split
  · exact .pure .nil
  · exact .pure .nil
  · split
    · exact .pure .nil
    · next kind _ => cases kind <;> exact .pure .nil
    · next name => exact (makes_objectTy hp (hd name rfl)).map fun _ ht => ht
    · next d => exact (makes_ty hp (d := d) hd).map fun _ ht => ht
    · next d => exact (makes_ty hp (d := d) hd).map fun _ ht => ht

theorem makes_optionTy (passing : Passing) (hd : d.Within names) :
    Makes (optionTy passing d) fun t => FitAll names t.idents := by
  unfold optionTy
  split
  · exact .pure .nil
  · exact .pure .nil
  · exact makes_ty hp hd

theorem makes_fieldDef {f : DeclaredField} (hd : f.descriptor.Within names) :
    Makes (fieldDef f) fun g => FitAll names g.idents := by
  refine (makes_fieldTy hp hd f.indirect).bind fun t ht => ?_
  split_ifs
  all_goals exact .pure (.cons (Ident.fits_fieldIdent f.wireName) ht)

theorem makes_typeItems {t : TypeBinding} (hn : t.name ∈ names)
    (hf : ∀ f ∈ t.fields, f.descriptor.Within names) :
    Makes (typeItems t) fun items => FitAll names (idents items) := by
  unfold typeItems
  split
  · exact .pure .nil
  · refine (makes_typeIdent hp hn).bind fun name hname => ?_
    refine (Makes.mapM fun f h => makes_fieldDef hp (hf f h)).bind fun fields hfields => ?_
    exact .pure (.append (.cons hname (.flatMap hfields)) .nil)

omit hp in
theorem fitAll_markupConversion {variant : Ident} (hv : variant.Fits names) :
    FitAll names (markupConversion variant).idents := by
  have hfrom : Ident.Fits names ⟨false, "from"⟩ := .word (by decide)
  have hmarkup : Ident.Fits names ⟨false, "markup"⟩ := .word (by decide)
  exact .cons hv (.cons hfrom (.cons hmarkup (.cons hv .nil)))

theorem makes_markupItems {variants : List String} (hv : ∀ v ∈ variants, v ∈ names) :
    Makes (markupItems variants) fun items => FitAll names (idents items) := by
  unfold markupItems
  split
  · exact .pure .nil
  · refine (Makes.mapM fun v h => makes_typeIdent hp (hv v h)).bind fun is his => ?_
    refine .pure (.append his (.flatMap fun item hitem => ?_))
    obtain ⟨variant, hvariant, rfl⟩ := List.mem_map.1 hitem
    exact fitAll_markupConversion (his variant hvariant)

theorem makes_variantItems {parent : String} {subtypes : List String} (hn : parent ∈ names)
    (hs : ∀ s ∈ subtypes, s ∈ names) :
    Makes (variantItems parent subtypes) fun items => FitAll names (idents items) := by
  have hplain : PlainName parent := hp parent hn
  refine (makes_typeIdent hp hn).bind fun parentIdent hparent => ?_
  refine hplain.variantTraitIdent.bind fun traitIdent htrait => ?_
  refine hplain.variantMethodIdent.bind fun method hmethod => ?_
  have htraitFits : traitIdent.Fits names := .of_not_keyword htrait
  have himpls : Makes (subtypes.mapM fun s => do
      return Item.impl (some (.named traitIdent)) (.named (← typeIdent s)) [])
      fun items => ∀ item ∈ items, FitAll names item.idents := by
    refine .mapM fun s h => (makes_typeIdent hp (hs s h)).bind fun i hi => .pure ?_
    exact .cons htraitFits (.cons hi .nil)
  refine himpls.bind fun impls himpls => .pure ?_
  have hmethodFits : method.Fits names := .of_not_keyword hmethod
  exact .append (.cons htraitFits (.cons hmethodFits (.cons hparent .nil))) (.flatMap himpls)

omit hp in
theorem fitAll_helperItem {doc : String} {name : Ident} {t : Ty}
    (hn : name.Legal ∧ name.isKeyword = false) (ht : FitAll names t.idents) :
    FitAll names (helperItem doc name t).idents := by
  have hvalue : Ident.Fits names ⟨false, "value"⟩ := .word (by decide)
  exact .append (.append (.cons (.of_not_keyword hn) (.cons hvalue .nil)) (.append ht .nil)) .nil

theorem makes_arrayHelper (hn : n ∈ names) :
    Makes (arrayHelper n) fun item => FitAll names item.idents := by
  refine (hp n hn).arrayHelperIdent.bind fun name hname => ?_
  exact (makes_objectTy hp hn).bind fun t ht => .pure (fitAll_helperItem hname ht)

theorem makes_arrayOfArrayHelper (hn : n ∈ names) :
    Makes (arrayOfArrayHelper n) fun item => FitAll names item.idents := by
  refine (hp n hn).arrayOfArrayHelperIdent.bind fun name hname => ?_
  exact (makes_objectTy hp hn).bind fun t ht => .pure (fitAll_helperItem hname ht)

theorem makes_helperItems {arrays arraysOfArrays : List String} (ha : ∀ n ∈ arrays, n ∈ names)
    (hb : ∀ n ∈ arraysOfArrays, n ∈ names) :
    Makes (helperItems arrays arraysOfArrays) fun items => FitAll names (idents items) := by
  have hsingles : Makes ((arrays.filter (· ≠ uploadType)).mapM arrayHelper)
      fun items => ∀ item ∈ items, FitAll names item.idents :=
    .mapM fun n h => makes_arrayHelper hp (ha n (List.mem_filter.1 h).1)
  have hdoubles : Makes ((arraysOfArrays.filter (· ≠ uploadType)).mapM arrayOfArrayHelper)
      fun items => ∀ item ∈ items, FitAll names item.idents :=
    .mapM fun n h => makes_arrayOfArrayHelper hp (hb n (List.mem_filter.1 h).1)
  refine hsingles.bind fun singles hs => hdoubles.bind fun doubles hd => .pure ?_
  rw [idents_append]
  exact .append (.flatMap hs) (.flatMap hd)

theorem makes_optionField {p : Parameter} (hd : p.descriptor.Within names) :
    Makes (optionField p) fun f => FitAll names f.idents := by
  refine (makes_optionTy hp p.passing hd).bind fun t ht => .pure ?_
  exact .cons (Ident.fits_fieldIdent p.wireName) ht

theorem makes_paramArg {p : Parameter} (hd : p.descriptor.Within names) :
    Makes (paramArg p) fun a => FitAll names a.idents := by
  refine (makes_paramTy hp p.passing hd).bind fun t ht => .pure ?_
  exact .cons (Ident.fits_fieldIdent p.wireName) ht

omit hp in
theorem makes_optionsIdent (h : IsOptionsName n) :
    Makes (typeIdent n) fun i => i.Fits names := by
  obtain ⟨s, hs, rfl⟩ := h
  exact hs.optionsIdent.mono fun i hi => .of_not_keyword hi

theorem makes_optionsItem {method : String} {o : Options}
    (hn : IsOptionsName o.name)
    (hf : ∀ p ∈ o.fields, p.descriptor.Within names) :
    Makes (optionsItem method o) fun item => FitAll names item.idents := by
  have hname : Makes (typeIdent o.name) fun i => i.Fits names := makes_optionsIdent hn
  refine hname.bind fun name hname => ?_
  refine (Makes.mapM fun p h => makes_optionField hp (hf p h)).bind fun fields hfields => .pure ?_
  exact .cons hname (.flatMap hfields)

theorem makes_methodArgs {s : Signature} (hd : ∀ p ∈ s.params, p.descriptor.Within names)
    (ho : ∀ n ∈ s.optionsParam, IsOptionsName n) :
    Makes (methodArgs s) fun args => FitAll names (args.flatMap Arg.idents) := by
  refine (Makes.mapM fun p h => makes_paramArg hp (hd p h)).bind fun args hargs => ?_
  split
  · exact .pure (.flatMap hargs)
  · next n hn =>
    have hident : Makes (typeIdent n) fun i => i.Fits names := makes_optionsIdent (ho n hn)
    refine hident.bind fun i hi => .pure ?_
    have hopts : Ident.Fits names ⟨false, "opts"⟩ := .word (by decide)
    rw [List.flatMap_append]
    exact .append (.flatMap hargs) (.cons hopts (.cons hi .nil))

theorem makes_decodeCall (hd : d.Within names) : Makes (decodeCall d.decode) fun _ => True := by
  unfold Descriptor.decode
  split
  · next n =>
    have hn : PlainName n := hp n (hd n rfl)
    rw [decodeCall]
    exact hn.arrayHelperIdent.map fun _ _ => trivial
  · next n =>
    have hn : PlainName n := hp n (hd n rfl)
    rw [decodeCall]
    exact hn.arrayOfArrayHelperIdent.map fun _ _ => trivial
  · exact .pure trivial

omit hp in
theorem idents_insertion (s : Statement) (source : String) : (insertion s source).idents = [] := by
  obtain ⟨wireName, name, strategy, guarded⟩ := s
  cases strategy <;> rfl

omit hp in
theorem fitAll_optionalStmt (ss : List Statement) : FitAll names (optionalStmt ss).idents := by
  have hbinding : ∀ s : Statement, FitAll names (optionBinding s).value.idents :=
    fun s => .cons (Ident.fits_fieldIdent s.wireName) .nil
  unfold optionalStmt
  split
  · next s =>
    rw [Stmt.idents, bodyIdents, idents_insertion]
    exact .append (.append .nil (.append (hbinding s) .nil)) .nil
  · rw [Stmt.idents, bodyIdents_eq]
    refine .append .nil (.flatMap fun stmt hstmt => ?_)
    obtain ⟨s, -, rfl⟩ := List.mem_map.1 hstmt
    rw [Stmt.idents, bodyIdents, idents_insertion]
    exact .append (.append (hbinding s) .nil) .nil

omit hp in
theorem fitAll_methodBody (m : MethodBinding) (decode : String) :
    FitAll names (bodyIdents (methodBody m decode)) := by
  have hrequired : FitAll names ((m.requiredStatements.map requiredStmt).flatMap Stmt.idents) := by
    refine .flatMap fun stmt hstmt => ?_
    obtain ⟨s, -, rfl⟩ := List.mem_map.1 hstmt
    rw [requiredStmt, idents_insertion]
    exact .nil
  have hoptional :
      FitAll names ((m.optionalStatements.map optionalStmt).toList.flatMap Stmt.idents) := by
    refine .flatMap fun stmt hstmt => ?_
    rw [Option.mem_toList] at hstmt
    obtain ⟨ss, -, rfl⟩ := Option.map_eq_some_iff.1 hstmt
    exact fitAll_optionalStmt ss
  rw [bodyIdents_eq]
  unfold methodBody
  simp only [List.flatMap_append]
  refine .append (.append (.append (.append ?_ ?_) hrequired) hoptional) ?_
  · exact .nil
  · cases m.hasUpload <;> exact .nil
  · cases m.hasUpload <;> exact .nil

theorem makes_methodFn {m : MethodBinding} (hd : m.returns.descriptor.Within names)
    (hdecode : m.returns.decode = m.returns.descriptor.decode)
    (hargs : ∀ p ∈ m.signature.params, p.descriptor.Within names)
    (ho : ∀ n ∈ m.signature.optionsParam, IsOptionsName n) :
    Makes (methodFn m) fun f => FitAll names f.idents := by
  refine (makes_ty hp hd).bind fun returned hreturned => ?_
  refine (makes_methodArgs hp hargs ho).bind fun args hargs => ?_
  have hcall : Makes (decodeCall m.returns.decode) fun _ => True := by
    rw [hdecode]
    exact makes_decodeCall hp hd
  refine hcall.bind fun decode _ => .pure ?_
  have hname : (methodIdent m.name).Fits names := by
    rw [methodIdent]
    exact Ident.fits_fieldIdent (snakeCase m.name)
  have hresult : FitAll names (Ty.result returned (.path "BotError")).idents :=
    .append hreturned .nil
  have hbody : FitAll names (bodyIdents (methodBody m decode)) := fitAll_methodBody m decode
  dsimp only [Fn.idents]
  exact .append (.append (.cons hname hargs) hresult) hbody

end

variable {b : Bindings}

theorem makes_methodItems (h : b.Within names) {m : MethodBinding} (hm : m ∈ b.methods) :
    Makes (methodItems m) fun items => FitAll names (idents items) := by
  have hparams : ∀ p ∈ m.signature.params, p.descriptor.Within names :=
    fun p hp => h.params m hm p (MethodBinding.mem_allParams.2 (.inl hp))
  have hf : Makes (methodFn m) fun f => FitAll names f.idents :=
    makes_methodFn h.plain (h.returns m hm) (h.decode m hm) hparams (h.optionsParam m hm)
  have hoptions : Makes (m.options.toList.mapM (optionsItem m.name))
      fun items => ∀ item ∈ items, FitAll names item.idents := by
    refine .mapM fun o ho => ?_
    rw [Option.mem_toList] at ho
    refine makes_optionsItem h.plain (h.options m hm o ho) fun p hp => ?_
    exact h.params m hm p (MethodBinding.mem_allParams.2 (.inr ⟨o, ho, hp⟩))
  refine hf.bind fun f hf => hoptions.bind fun options hoptions => .pure ?_
  rw [idents_append]
  have himpl : FitAll names (Item.impl none (.path "Bot") [f]).idents := .append .nil (.append hf .nil)
  exact .append (.flatMap hoptions) (.append himpl .nil)

theorem makes_typesModule (h : b.Within names) :
    Makes (typesModule b) fun items => FitAll names (idents items) := by
  have hdeclarations : Makes (b.types.mapM typeItems)
      fun ls => ∀ items ∈ ls, FitAll names (idents items) :=
    .mapM fun t ht => makes_typeItems h.plain (h.types t ht) (h.fields t ht)
  have htraits : Makes (b.variantParents.mapM fun p => variantItems p.name (variantsOf b p.name))
      fun ls => ∀ items ∈ ls, FitAll names (idents items) := by
    refine .mapM fun p hp => makes_variantItems h.plain ?_ fun s hs => ?_
    · exact h.types p (List.mem_filter.1 hp).1
    · obtain ⟨t, ht, rfl⟩ := List.mem_map.1 hs
      exact h.types t (List.mem_filter.1 ht).1
  refine hdeclarations.bind fun declarations hdeclarations => ?_
  refine (makes_markupItems h.plain h.markup).bind fun markup hmarkup => ?_
  refine htraits.bind fun traits htraits => ?_
  refine (makes_helperItems h.plain h.arrays h.arraysOfArrays).bind fun helpers hhelpers => ?_
  refine .pure ?_
  change FitAll names (idents (declarations.flatten ++ markup ++ traits.flatten ++ helpers))
  rw [idents_append, idents_append, idents_append]
  exact .append (.append (.append (.flatten hdeclarations) hmarkup) (.flatten htraits)) hhelpers

theorem makes_methodsModule (h : b.Within names) :
    Makes (methodsModule b) fun items => FitAll names (idents items) := by
  have hmethods : Makes (b.methods.mapM methodItems)
      fun ls => ∀ items ∈ ls, FitAll names (idents items) :=
    .mapM fun m hm => makes_methodItems h hm
  refine hmethods.bind fun methods hmethods => .pure ?_
  have himports : ∀ imports : List Item, idents imports = [] →
      FitAll names (idents (imports ++ methods.flatten)) := by
    intro imports hi
    rw [idents_append, hi]
    exact .flatten hmethods
  apply himports (_ :: _ :: _)
  cases b.hasUpload <;> cases b.types.isEmpty || b.methods.isEmpty <;> rfl

/-- A module as a file. -/
def file (version : Option String) (m : String × List Item) :
    Except RenderError (String × String) := do
  return (m.1, ← fileText version m.2)

variable {ms : List (String × List Item)} {files : List (String × String)}

theorem render_eq (h : modules b = .ok ms) : render b = ms.mapM (file b.metadata.version) := by
  unfold render
  rw [h]
  rfl

theorem names_of_render (h : modules b = .ok ms) (hr : render b = .ok files) :
    files.map Prod.fst = ms.map Prod.fst := by
  rw [render_eq h, mapM_eq_ok_iff] at hr
  clear h
  induction hr with
  | nil => rfl
  | cons hm _ ih =>
    obtain ⟨text, -, hm⟩ := bind_eq_ok_iff.1 hm
    cases hm
    rw [List.map_cons, List.map_cons, ih]

/-- Where there are modules, no identifier is at fault. -/
theorem render_ne_ident (h : modules b = .ok ms) (f : IdentFault) :
    render b ≠ .error (.ident f) := by
  intro hr
  rw [render_eq h] at hr
  obtain ⟨m, -, hm⟩ := exists_error_of_mapM hr
  unfold file fileText at hm
  cases hc : checkItems m.2 with
  | ok =>
    rw [hc] at hm
    cases hm
  | error f' =>
    rw [hc] at hm
    cases hm

theorem render_outcome (h : modules b = .ok ms) :
    (∃ files, render b = .ok files ∧ files.map Prod.fst = ms.map Prod.fst) ∨
      ∃ f, render b = .error (.code f) := by
  cases hr : render b with
  | ok files => exact .inl ⟨files, rfl, names_of_render h hr⟩
  | error e =>
    cases e with
    | ident f => exact absurd hr (render_ne_ident h f)
    | code f => exact .inr ⟨f, rfl⟩

theorem render_of_check (h : modules b = .ok ms) (hc : ∀ m ∈ ms, checkItems m.2 = .ok ()) :
    ∃ files, render b = .ok files ∧ files.map Prod.fst = ms.map Prod.fst := by
  have hfiles : Makes (ms.mapM (file b.metadata.version)) fun _ => True := by
    refine (Makes.mapM (R := fun _ => True) fun m hm => ?_).mono fun _ _ => trivial
    unfold file fileText
    rw [hc m hm]
    exact .pure trivial
  obtain ⟨files, hfiles, -⟩ := hfiles
  have hr : render b = .ok files := (render_eq h).trans hfiles
  exact ⟨files, hr, names_of_render h hr⟩

/-- Rendering fails if the modules cannot be made, or if one of them does not pass its check. -/
theorem exists_error_render_iff :
    (∃ e, render b = .error e) ↔
      ∀ ms, modules b = .ok ms → ∃ m ∈ ms, ∃ f, checkItems m.2 = .error f := by
  constructor
  · rintro ⟨e, he⟩ ms hms
    rw [render_eq hms] at he
    obtain ⟨m, hm, hfile⟩ := exists_error_of_mapM he
    refine ⟨m, hm, ?_⟩
    cases hc : checkItems m.2 with
    | error f => exact ⟨f, rfl⟩
    | ok =>
      rw [file, fileText, hc] at hfile
      cases hfile
  · intro h
    cases hms : modules b with
    | error f => exact ⟨.ident f, by rw [render, hms]⟩
    | ok ms =>
      obtain ⟨m, hm, f, hf⟩ := h ms hms
      cases hr : render b with
      | error e => exact ⟨e, rfl⟩
      | ok files =>
        rw [render_eq hms] at hr
        obtain ⟨_, -, hfile⟩ := exists_of_mem_mapM hr hm
        rw [file, fileText, hf] at hfile
        cases hfile

theorem names_of_modules (h : render b = .ok files) :
    files.map Prod.fst = ["lib.rs", "bot.rs", "types.rs", "methods.rs"] := by
  cases hms : modules b with
  | error f =>
    rw [render, hms] at h
    cases h
  | ok ms =>
    rw [names_of_render hms h]
    obtain ⟨types, -, hms⟩ := bind_eq_ok_iff.1 hms
    obtain ⟨methods, -, hms⟩ := bind_eq_ok_iff.1 hms
    cases hms
    rfl

end Crate

namespace Schema.Document

open Crate

variable {d : Document}

/-- The keys and the names of the types. -/
def typeNames (d : Document) : List String := d.types.keys ++ d.types.values.map (·.name)

/-- Types and methods go by plain names; fields may have any. -/
structure PlainNames (d : Document) : Prop where
  types : ∀ n ∈ d.typeNames, PlainName n
  methods : ∀ m ∈ d.methods.values, PlainName m.name

theorem mem_typeNames_of_mem_keys {n : String} (h : n ∈ d.types.keys) : n ∈ d.typeNames :=
  List.mem_append_left _ h

theorem within_parameter (hs : d.Sound) (hd : d.firstUnresolvable? = none) {m : MethodEntry}
    (hm : m ∈ d.methods.values) {f : Field} (hf : f ∈ m.fieldList) :
    f.parameter.descriptor.Within d.typeNames := by
  intro n hn
  exact mem_typeNames_of_mem_keys (mem_keys_of_visited hd (hs.head_mem_visited hm hf) hn)

/-- The bindings of a document use the names of its types. -/
theorem PlainNames.within_bindings (hp : d.PlainNames) (hs : d.Sound)
    (hd : d.firstUnresolvable? = none) : d.bindings.Within d.typeNames where
  plain := hp.types
  types := by
    intro t ht
    obtain ⟨u, hu, rfl⟩ := List.mem_map.1 ht
    exact List.mem_append_right _ (List.mem_map_of_mem hu)
  fields := fun t ht f hf n hn => mem_typeNames_of_mem_keys (known_of_field hd ht hf hn).1
  markup := by
    intro n hn
    exact mem_typeNames_of_mem_keys (List.contains_iff_mem.1 (List.mem_filter.1 hn).2)
  arrays := fun n hn => mem_typeNames_of_mem_keys ((mem_arrayHelpers_iff hd).1 hn).1
  arraysOfArrays := fun n hn => mem_typeNames_of_mem_keys ((mem_arrayOfArrayHelpers_iff hd).1 hn).1
  params := by
    intro m hm p hp
    obtain ⟨e, he, rfl⟩ := List.mem_map.1 hm
    obtain ⟨f, hf, rfl⟩ := MethodEntry.exists_field_of_mem_allParams hp
    exact within_parameter hs hd he hf
  returns := by
    intro m hm n hn
    obtain ⟨-, token, ht, hr⟩ := exists_visited_of_method hs hm
    exact mem_typeNames_of_mem_keys (mem_keys_of_visited hd ht (by rw [hr, hn]))
  decode := fun m hm => (exists_visited_of_method hs hm).1
  options := by
    intro m hm o ho
    obtain ⟨e, he, rfl⟩ := List.mem_map.1 hm
    exact ⟨e.name, hp.methods e he, (MethodEntry.name_options_binding ho).symm⟩
  optionsParam := by
    intro m hm n hn
    obtain ⟨e, he, rfl⟩ := List.mem_map.1 hm
    exact ⟨e.name, hp.methods e he, (MethodEntry.name_optionsParam_binding hn).symm⟩

end Schema.Document

open Schema Crate

/-- The bindings of a document with plain names have all their modules, in which each identifier can
be made and only names of types are keywords. Rendering gives the four files unless the check of the
code fails, and always if no type goes by a keyword. -/
theorem Bindings.ofDocument_renders {d : Document} {b : Bindings}
    (h : (ofDocument (some d)).1 = .ok b) (hp : d.PlainNames) :
    (∃ types methods,
      modules b = .ok [("lib.rs", frontModule b), ("bot.rs", [.listing clientModule]),
        ("types.rs", types), ("methods.rs", methods)] ∧
      ∀ i ∈ idents types ++ idents methods,
        Ident.ofString i.text = .ok i ∧ (i.isKeyword = true → i.name ∈ d.typeNames)) ∧
    ((∃ files, render b = .ok files ∧
        files.map Prod.fst = ["lib.rs", "bot.rs", "types.rs", "methods.rs"]) ∨
      ∃ f, render b = .error (.code f)) ∧
    ((∀ n ∈ d.typeNames, n ∉ keywords) →
      ∃ files, render b = .ok files ∧
        files.map Prod.fst = ["lib.rs", "bot.rs", "types.rs", "methods.rs"]) := by
  obtain ⟨hs, hd, rfl⟩ := ofDocument_eq_ok_iff.1 h
  have hw : d.bindings.Within d.typeNames := hp.within_bindings hs hd
  obtain ⟨types, ht, hfitTypes⟩ := makes_typesModule hw
  obtain ⟨methods, hm, hfitMethods⟩ := makes_methodsModule hw
  have hfit : FitAll d.typeNames (idents types ++ idents methods) := hfitTypes.append hfitMethods
  have hmodules : modules d.bindings = .ok [("lib.rs", frontModule d.bindings),
      ("bot.rs", [.listing clientModule]), ("types.rs", types), ("methods.rs", methods)] := by
    rw [modules, ht, hm]
    rfl
  refine ⟨⟨types, methods, hmodules, fun i hi => ?_⟩, render_outcome hmodules, fun hk => ?_⟩
  · exact ⟨(hfit i hi).legal.ofString_text, (hfit i hi).keyword⟩
  · have hplain : ∀ i ∈ idents types ++ idents methods, i.isKeyword = false := by
      intro i hi
      rw [← Bool.not_eq_true]
      intro hi'
      have hn : i.name ∈ keywords := by
        rw [Ident.isKeyword, Bool.and_eq_true] at hi'
        exact List.contains_iff_mem.1 hi'.2
      exact hk i.name ((hfit i hi).keyword hi') hn
    obtain ⟨htypes, hmethods⟩ := List.forall_mem_append.1 hplain
    apply render_of_check hmodules
    intro m hm
    simp only [List.mem_cons, List.not_mem_nil, or_false] at hm
    rcases hm with rfl | rfl | rfl | rfl
    -- the first two files hold no identifier of the document
    · exact checkItems_eq_ok fun i hi => by cases hi
    · exact checkItems_eq_ok fun i hi => by cases hi
    · exact checkItems_eq_ok htypes
    · exact checkItems_eq_ok hmethods

/-- Fields go by a keyword, by a keyword that has no raw form and by two words, and the key of a method
is no name. -/
def odd : Document where
  types := ⟨[("Chat", { name := "Chat", fields := some [⟨"type", ["String"], true, ""⟩,
      ⟨"reply to", ["Array of Chat"], false, ""⟩] }),
    ("Update", { name := "Update", subtypes := some ["Chat"] })], by decide⟩
  methods := ⟨[("send*", {
    name := "sendChat"
    fields := some [⟨"self", ["Chat"], false, ""⟩]
    returns := ["Array of Update"] })], by decide⟩

theorem Bindings.ofDocument_renders_odd :
    (ofDocument (some odd)).1 = .ok odd.bindings ∧
      ∃ files, render odd.bindings = .ok files ∧
        files.map Prod.fst = ["lib.rs", "bot.rs", "types.rs", "methods.rs"] := by
  have h : (ofDocument (some odd)).1 = .ok odd.bindings := ofDocument_of_check rfl (by decide)
  have hp : odd.PlainNames := by
    constructor <;> unfold PlainName <;> decide
  exact ⟨h, (ofDocument_renders h hp).2.2 (by decide)⟩

end BotBindings
