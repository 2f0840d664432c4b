import BotBindings.Proofs.Helpers
import BotBindings.Proofs.MethodOutline

namespace BotBindings

open Code

namespace Crate

/-- A function by whose name a result is decoded, into what the result is described as. -/
structure Decodes (f : Fn) (r : Return) : Prop where
  call : decodeCall r.decode = .ok f.name.text
  result : ∃ t, r.descriptor.ty = .ok t ∧ f.result = .result t jsonError

variable {r : Return} {x : String} {items : List Item}

theorem decodes_helperItem {doc : String} {name : Ident} {t : Ty}
    (hc : decodeCall r.decode = .ok name.text) (ht : r.descriptor.ty = .ok t) :
    ∃ f, helperItem doc name t = .fn f ∧ Decodes f r :=
  ⟨_, rfl, hc, t, ht, rfl⟩

theorem decodes_arrayHelper {item : Item} (h : arrayHelper x = .ok item)
    (hd : r.descriptor = .array (.object x)) (hr : r.decode = .arrayHelper x) :
    ∃ f, item = .fn f ∧ Decodes f r := by
  obtain ⟨doc, name, t, hn, ht, rfl⟩ := arrayHelper_eq_ok h
  have hc : decodeCall r.decode = .ok name.text := by rw [hr, decodeCall, hn, Except.map]
  have hty : r.descriptor.ty = .ok t.vec := by
    rw [hd, Descriptor.ty, Descriptor.ty, ht, Except.map]
  exact decodes_helperItem hc hty

theorem decodes_arrayOfArrayHelper {item : Item} (h : arrayOfArrayHelper x = .ok item)
    (hd : r.descriptor = .arrayOfArray (.object x)) (hr : r.decode = .arrayOfArrayHelper x) :
    ∃ f, item = .fn f ∧ Decodes f r := by
  obtain ⟨doc, name, t, hn, ht, rfl⟩ := arrayOfArrayHelper_eq_ok h
  have hc : decodeCall r.decode = .ok name.text := by rw [hr, decodeCall, hn, Except.map]
  have hty : r.descriptor.ty = .ok t.vec.vec := by
    rw [hd, Descriptor.ty, Descriptor.ty, ht, Except.map]
  exact decodes_helperItem hc hty

/-- Every object of the lists but files to upload has its helpers. -/
theorem exists_helper_of_helperItems {arrays arraysOfArrays : List String}
    (h : helperItems arrays arraysOfArrays = .ok items) (hn : x ≠ uploadType) :
    (x ∈ arrays → ∃ item ∈ items, arrayHelper x = .ok item) ∧
      (x ∈ arraysOfArrays → ∃ item ∈ items, arrayOfArrayHelper x = .ok item) := by
  obtain ⟨singles, hs, h⟩ := bind_eq_ok_iff.1 h
  obtain ⟨doubles, hd, h⟩ := bind_eq_ok_iff.1 h
  cases h
  have hf (xs : List String) (hx : x ∈ xs) : x ∈ xs.filter (· ≠ uploadType) :=
    List.mem_filter.2 ⟨hx, decide_eq_true hn⟩
  constructor
  · intro hx
    obtain ⟨item, hi, he⟩ := exists_of_mem_mapM hs (hf arrays hx)
    exact ⟨item, List.mem_append_left _ hi, he⟩
  · intro hx
    obtain ⟨item, hi, he⟩ := exists_of_mem_mapM hd (hf arraysOfArrays hx)
    exact ⟨item, List.mem_append_right _ hi, he⟩

/-- The helpers stand at the end of the module of types. -/
theorem helperItems_of_typesModule {b : Bindings} (h : typesModule b = .ok items) :
    ∃ helpers, helperItems b.arrayHelpers b.arrayOfArrayHelpers = .ok helpers ∧
      helpers <:+ items := by
  obtain ⟨declarations, markup, traits, helpers, -, -, -, hh, rfl⟩ := typesModule_eq_ok h
  refine ⟨helpers, hh, ?_⟩
  exact (List.suffix_append _ helpers).trans ((List.suffix_cons _ _).trans (List.suffix_cons _ _))

/-- The last statement of a function that is decoded by a call. -/
def decodeStmt (decode : String) : Stmt :=
  .result (.call "Ok" [.attempt (.call decode [.word "result"])])

theorem body_of_methodFn {m : MethodBinding} {g : Fn} (h : methodFn m = .ok g) :
    ∃ decode, decodeCall m.returns.decode = .ok decode ∧
      g.body.getLast? = some (decodeStmt decode) := by
  obtain ⟨-, -, decode, hd, hbody⟩ := methodFn_eq_ok h
  refine ⟨decode, hd, ?_⟩
  rw [hbody, methodBody, List.getLast?_append]
  rfl

theorem result_of_methodFn {m : MethodBinding} {g : Fn} (h : methodFn m = .ok g) :
    ∃ t, m.returns.descriptor.ty = .ok t ∧ g.result = .result t (.path "BotError") :=
  (methodFn_eq_ok h).1

theorem methodFn_of_methodsModule {b : Bindings} (h : methodsModule b = .ok items)
    {m : MethodBinding} (hm : m ∈ b.methods) :
    ∃ g, methodFn m = .ok g ∧ .impl none (.path "Bot") [g] ∈ items := by
  obtain ⟨methods, hms, h⟩ := bind_eq_ok_iff.1 h
  cases h
  obtain ⟨its, hits, hm⟩ := exists_of_mem_mapM hms hm
  obtain ⟨g, options, hg, -, rfl⟩ := methodItems_eq_ok hm
  refine ⟨g, hg, ?_⟩
  have hi : .impl none (.path "Bot") [g] ∈ methods.flatten :=
    List.mem_flatten.2 ⟨_, hits, List.mem_append_right _ (List.mem_singleton_self _)⟩
  exact List.mem_cons_of_mem _ (List.mem_cons_of_mem _ (List.mem_append_right _ hi))

end Crate

open Schema Crate

/-- A list of objects that are not files to upload is decoded by a helper among the items. -/
theorem Schema.Document.Sound.exists_helper {d : Document} (hd : d.Sound) {helpers : List Item}
    (hh : helperItems d.bindings.arrayHelpers d.bindings.arrayOfArrayHelpers = .ok helpers)
    {m : MethodBinding} (hm : m ∈ d.bindings.methods) {x : String}
    (hx : m.returns.decode = .arrayHelper x ∨ m.returns.decode = .arrayOfArrayHelper x)
    (hn : x ≠ uploadType) : ∃ f, .fn f ∈ helpers ∧ Decodes f m.returns := by
  -- the token of the result is visited, so its element is among those that have helpers
  obtain ⟨he, token, ht, hr⟩ := exists_visited_of_method hd hm
  rcases hx with hx | hx
  · have hdesc : m.returns.descriptor = .array (.object x) :=
      Descriptor.decode_eq_arrayHelper_iff.1 (he.symm.trans hx)
    have hmem : x ∈ d.bindings.arrayHelpers := mem_arrayHelpers.2 ⟨token, ht, hr.trans hdesc⟩
    obtain ⟨item, hi, hitem⟩ := (exists_helper_of_helperItems hh hn).1 hmem
    obtain ⟨f, rfl, hf⟩ := decodes_arrayHelper hitem hdesc hx
    exact ⟨f, hi, hf⟩
  · have hdesc : m.returns.descriptor = .arrayOfArray (.object x) :=
      Descriptor.decode_eq_arrayOfArrayHelper_iff.1 (he.symm.trans hx)
    have hmem : x ∈ d.bindings.arrayOfArrayHelpers :=
      mem_arrayOfArrayHelpers.2 ⟨token, ht, hr.trans hdesc⟩
    obtain ⟨item, hi, hitem⟩ := (exists_helper_of_helperItems hh hn).2 hmem
    obtain ⟨f, rfl, hf⟩ := decodes_arrayOfArrayHelper hitem hdesc hx
    exact ⟨f, hi, hf⟩

/-- The helper that a method calls for a list of objects, other than files to upload, is a function
of the module of types, and its result is that of the method. -/
theorem Bindings.ofDocument_helperCalls {d : Document} {b : Bindings}
    (h : (ofDocument (some d)).1 = .ok b) {types methods : List Item}
    (ht : typesModule b = .ok types) (hm : methodsModule b = .ok methods) :
    ∃ helpers, helperItems b.arrayHelpers b.arrayOfArrayHelpers = .ok helpers ∧
      helpers <:+ types ∧
      ∀ m ∈ b.methods, ∀ x,
        m.returns.decode = .arrayHelper x ∨ m.returns.decode = .arrayOfArrayHelper x →
        x ≠ uploadType →
        ∃ f g t, .fn f ∈ helpers ∧ f.result = .result t jsonError ∧
          methodFn m = .ok g ∧ .impl none (.path "Bot") [g] ∈ methods ∧
          g.body.getLast? = some (decodeStmt f.name.text) ∧
          g.result = .result t (.path "BotError") := by
  obtain ⟨hd, -, rfl⟩ := ofDocument_eq_ok_iff.1 h
  obtain ⟨helpers, hh, hsuffix⟩ := helperItems_of_typesModule ht
  refine ⟨helpers, hh, hsuffix, fun m hmem x hx hn => ?_⟩
  obtain ⟨f, hf, hcall, t, hty, hresult⟩ := hd.exists_helper hh hmem hx hn
  obtain ⟨g, hg, himpl⟩ := methodFn_of_methodsModule hm hmem
  obtain ⟨decode, hdecode, hbody⟩ := body_of_methodFn hg
  obtain ⟨t', hty', hresult'⟩ := result_of_methodFn hg
  -- the call and the type of the result are computed once for the helper and once for the method
  have hname : f.name.text = decode := Except.ok.inj (hcall.symm.trans hdecode)
  have ht' : t = t' := Except.ok.inj (hty.symm.trans hty')
  subst hname ht'
  exact ⟨f, g, t, hf, hresult, hg, himpl, hbody, hresult'⟩

theorem Bindings.ofDocument_helperCalls_album :
    ∃ b types methods, (ofDocument (some album)).1 = .ok b ∧ typesModule b = .ok types ∧
      methodsModule b = .ok methods ∧
      ∃ m ∈ b.methods, ∃ f g, .fn f ∈ types ∧ methodFn m = .ok g ∧
        .impl none (.path "Bot") [g] ∈ methods ∧
        g.body.getLast? = some (decodeStmt f.name.text) := by
  have h : (ofDocument (some album)).1 = .ok album.bindings :=
    ofDocument_of_check rfl (by decide)
  obtain ⟨types, ht⟩ : ∃ types, typesModule album.bindings = .ok types :=
    exists_eq_ok (by decide +kernel)
  obtain ⟨methods, hm⟩ : ∃ methods, methodsModule album.bindings = .ok methods :=
    exists_eq_ok (by decide +kernel)
  obtain ⟨helpers, -, hsuffix, hall⟩ := ofDocument_helperCalls h ht hm
  obtain ⟨f, g, t, hf, -, hg, himpl, hbody, -⟩ :=
    hall _ (.head _) "Photo" (.inl rfl) (by decide)
  exact ⟨_, types, methods, h, ht, hm, _, .head _, f, g, hsuffix.mem hf, hg, himpl, hbody⟩

/-- A method returns a list of files to upload. -/
def dropbox : Document where
  types := ⟨[("InputFile", { name := "InputFile" })], by decide⟩
  methods := ⟨[("list", { name := "list", returns := ["Array of InputFile"] })], by decide⟩

/-- Not every helper that is called is a function of the module of types. -/
theorem Bindings.exists_missing_helper :
    ¬ ∀ (d : Document) (b : Bindings), (ofDocument (some d)).1 = .ok b →
      ∀ types methods, typesModule b = .ok types → methodsModule b = .ok methods →
      ∀ m ∈ b.methods, ∀ x,
        m.returns.decode = .arrayHelper x ∨ m.returns.decode = .arrayOfArrayHelper x →
        ∃ f, .fn f ∈ types ∧ decodeCall m.returns.decode = .ok f.name.text := by
  intro h
  have hb : (ofDocument (some dropbox)).1 = .ok dropbox.bindings :=
    ofDocument_of_check rfl (by decide)
  obtain ⟨methods, hm⟩ : ∃ methods, methodsModule dropbox.bindings = .ok methods :=
    exists_eq_ok (by decide +kernel)
  obtain ⟨f, hf, -⟩ := h dropbox dropbox.bindings hb
    [.innerDoc " Bot API object types.", .useDecl "serde::\x7bDeserialize, Serialize\x7d"] methods
    rfl hm _ (.head _) "InputFile" (.inl rfl)
  simp at hf

end BotBindings
