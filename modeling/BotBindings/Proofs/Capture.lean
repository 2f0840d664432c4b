import BotBindings.Proofs.MemberName
import BotBindings.Proofs.MethodBody

namespace BotBindings

namespace Text

/-- A letter or the underscore of ASCII, then letters, digits and underscores. -/
def isAsciiIdent : List Char → Bool
  | [] => false
  | c :: rest => isPlain c && !c.isDigit && rest.all isPlain

theorem isIdent_of_isAsciiIdent {cs : List Char} (h : isAsciiIdent cs = true) :
    isIdent cs = true := by
  cases cs with
  | nil => cases h
  | cons c rest =>
    rw [isAsciiIdent, Bool.and_eq_true, Bool.and_eq_true, Bool.not_eq_true', List.all_eq_true] at h
    obtain ⟨⟨hc, hd⟩, hrest⟩ := h
    exact isIdent_cons.2 ⟨isIdentStart_of_isPlain hc hd, fun x hx =>
      isIdentRest_of_isPlain (hrest x hx)⟩

end Text

namespace Code

/-- Where a variable comes from: the argument or the statement at a position. -/
inductive Origin where
  | arg (position : Nat)
  | stmt (position : Nat)
  deriving DecidableEq, Repr

/-- The variable that a binder declares. It may be marked as mutable. -/
def variableOf (binder : String) : String :=
  match Text.behind? "mut ".toList binder.toList with
  | some rest => String.ofList rest
  | none => binder

/-- The last statement that declares a variable. -/
def lastDeclaration? (name : String) : List Stmt → Option Nat
  | [] => none
  | s :: ss =>
    match lastDeclaration? name ss with
    | some i => some (i + 1)
    | none => if s.binder?.map variableOf = some name then some 0 else none

/-- What a name means in the statement at a position: the last declaration in front of it, or else
the argument of that name. -/
def Fn.origin? (g : Fn) (position : Nat) (name : String) : Option Origin :=
  match lastDeclaration? name (g.body.take position) with
  | some i => some (.stmt i)
  | none => (g.args.findIdx? (·.name.name = name)).map .arg

/-- What the words mean that are read by the statement at a position, in their order. Words that are
no variables mean nothing. -/
def Fn.meanings (g : Fn) (position : Nat) : List Origin :=
  ((g.body[position]?.map Stmt.reads).getD []).filterMap fun word =>
    g.origin? position (Ident.plainText ⟨false, word⟩)

theorem lastDeclaration?_eq_none {name : String} {ss : List Stmt} (h : ∀ s ∈ ss, s.binder? = none) :
    lastDeclaration? name ss = none := by
  induction ss with
  | nil => rfl
  | cons s ss ih =>
    obtain ⟨hs, hss⟩ := List.forall_mem_cons.1 h
    rw [lastDeclaration?, ih hss, hs]
    rfl

/-- Statements that declare nothing leave names as they are. -/
theorem lastDeclaration?_append {name : String} {ss ss' : List Stmt}
    (h : ∀ s ∈ ss', s.binder? = none) :
    lastDeclaration? name (ss ++ ss') = lastDeclaration? name ss := by
  induction ss with
  | nil => exact lastDeclaration?_eq_none h
  | cons s ss ih => rw [List.cons_append, lastDeclaration?, ih, lastDeclaration?]

theorem plainText_text {i : Ident} (h : i.Legal) : Ident.plainText ⟨false, i.text⟩ = i.name := by
  rw [← h.plainText]
  rfl

/-- A literal is no identifier. -/
theorem isIdent_plainText_literal (cs : List Char) :
    Text.isIdent (Ident.plainText ⟨false, String.ofList (Text.literal cs)⟩).toList = false := by
  have hl : (Ident.text ⟨false, String.ofList (Text.literal cs)⟩).toList = Text.literal cs :=
    String.toList_ofList
  have hb : Text.behind? ['r', '#'] (Text.literal cs) = none := rfl
  rw [Ident.plainText, hl, hb]
  change Text.isIdent (String.ofList (Text.literal cs)).toList = false
  rw [String.toList_ofList, Text.literal, Text.isIdent]
  rfl

section

variable {g : Fn} {position k : Nat} {i : Ident}

/-- If nothing in front declares its name, an argument goes by it. -/
theorem Fn.origin?_arg (hd : (g.args.map (·.name.name)).Nodup)
    (hk : (g.args.map (·.name.name))[k]? = some i.name)
    (hl : lastDeclaration? i.name (g.body.take position) = none) :
    g.origin? position i.name = some (.arg k) := by
  obtain ⟨hlt, hname⟩ := List.getElem?_eq_some_iff.1 hk
  have hlt' : k < g.args.length := by rwa [List.length_map] at hlt
  have hfind : g.args.findIdx? (·.name.name = i.name) = some k := by
    rw [List.findIdx?_eq_some_iff_getElem]
    refine ⟨hlt', ?_, fun j hj => ?_⟩
    · rw [decide_eq_true_eq, ← hname, List.getElem_map]
    · rw [decide_eq_true_eq, ← hname]
      intro he
      have hjlt : j < (g.args.map (·.name.name)).length := hj.trans hlt
      have hjk : (g.args.map (·.name.name))[j] = (g.args.map (·.name.name))[k] := by
        rw [← he, List.getElem_map]
      exact hj.ne ((hd.getElem_inj_iff).1 hjk)
  rw [origin?, hl, hfind]
  rfl

/-- A name means nothing if no argument has it and nothing in front declares it. -/
theorem Fn.origin?_eq_none {name : String} (hn : ∀ a ∈ g.args, a.name.name ≠ name)
    (hl : lastDeclaration? name (g.body.take position) = none) :
    g.origin? position name = none := by
  have hfind : g.args.findIdx? (·.name.name = name) = none := by
    rw [List.findIdx?_eq_none_iff]
    exact fun a ha => decide_eq_false (hn a ha)
  rw [origin?, hl, hfind]
  rfl

end

/-- The name of the identifier for an identifier. Words without a raw form take an underscore. -/
def escapedName (name : String) : String := if name ∈ neverRaw then name ++ "_" else name

theorem name_fieldIdent_eq {s : String} (h : Text.isIdent s.toList = true) :
    (fieldIdent s).name = escapedName s := by
  unfold escapedName
  split
  · next hn => rw [fieldIdent, if_pos (List.contains_iff_mem.2 hn)]
  · next hn => rw [fieldIdent_of_isIdent h hn]

theorem escapedName_eq_iff {name word : String} (hw : word ∉ neverRaw)
    (hu : ∀ n ∈ neverRaw, n ++ "_" ≠ word) : escapedName name = word ↔ name = word := by
  unfold escapedName
  split
  · next hn =>
    refine ⟨fun h => absurd h (hu name hn), ?_⟩
    rintro rfl
    exact absurd hn hw
  · exact Iff.rfl

theorem mem_map_escapedName_iff {names : List String} {word : String} (hw : word ∉ neverRaw)
    (hu : ∀ n ∈ neverRaw, n ++ "_" ≠ word) : word ∈ names.map escapedName ↔ word ∈ names := by
  simp only [List.mem_map, escapedName_eq_iff hw hu, exists_eq_right]

/-- Distinct names have distinct identifiers if none is what another one escapes to. -/
theorem nodup_map_escapedName_iff {names : List String} (hd : names.Nodup) :
    (names.map escapedName).Nodup ↔ ∀ n ∈ neverRaw, n ∈ names → n ++ "_" ∉ names := by
  have hfree : ∀ n ∈ neverRaw, n ++ "_" ∉ neverRaw ∧ n ++ "_" ≠ n := by decide
  constructor
  · intro h n hn hm hm'
    have he : escapedName n = escapedName (n ++ "_") := by
      rw [escapedName, escapedName, if_pos hn, if_neg (hfree n hn).1]
    exact (hfree n hn).2 (List.inj_on_of_nodup_map h hm hm' he).symm
  · intro h
    refine hd.map_on fun a ha b hb he => ?_
    unfold escapedName at he
    split_ifs at he with hna hnb hnb
    · exact (String.append_left_inj "_").1 he
    · exact absurd (he ▸ hb) (h a hna ha)
    · exact absurd (he ▸ ha) (h b hnb hb)
    · exact he

end Code

namespace Crate

open Code

/-- The functions in an item. -/
def functions : Item → List Fn
  | .impl _ _ fns | .trait _ _ _ fns => fns
  | .fn f => [f]
  | _ => []

theorem functions_methodItems {m : MethodBinding} {items : List Item}
    (h : methodItems m = .ok items) : ∃ g, methodFn m = .ok g ∧ items.flatMap functions = [g] := by
  obtain ⟨g, options, hg, ho, rfl⟩ := methodItems_eq_ok h
  have hnil : options.flatMap functions = [] := by
    rw [List.flatMap_eq_nil_iff]
    intro item hitem
    obtain ⟨o, -, hitem⟩ := exists_source_of_mapM ho hitem
    obtain ⟨docs, attributes, name, fields, -, rfl, -⟩ := optionsItem_eq_ok hitem
    rfl
  refine ⟨g, hg, ?_⟩
  rw [List.flatMap_append, hnil]
  rfl

theorem functions_flatten {ms : List MethodBinding} {methods : List (List Item)}
    (h : ms.mapM methodItems = .ok methods) :
    List.Forall₂ (fun m g => methodFn m = .ok g) ms (methods.flatten.flatMap functions) := by
  rw [mapM_eq_ok_iff] at h
  induction h with
  | nil => exact .nil
  | cons hitems _ ih =>
    obtain ⟨g, hg, hfunctions⟩ := functions_methodItems hitems
    rw [List.flatten_cons, List.flatMap_append, hfunctions]
    exact .cons hg ih

/-- The functions of the module of methods are those of the methods in their order. -/
theorem functions_methodsModule {b : Bindings} {items : List Item}
    (h : methodsModule b = .ok items) :
    List.Forall₂ (fun m g => methodFn m = .ok g) b.methods (items.flatMap functions) := by
  obtain ⟨methods, hm, h⟩ := bind_eq_ok_iff.1 h
  cases h
  -- what stands in front of the methods holds no function
  split_ifs <;> exact functions_flatten hm

/-- The declarations in front of the statements: of the parameters, and of the files if any. -/
def locals (m : MethodBinding) : List Stmt :=
  .letIn (paramsBinder m) none (.call "Params::new" []) :: filesStmts m

theorem lastDeclaration?_locals (m : MethodBinding) (name : String) :
    lastDeclaration? name (locals m) =
      if m.hasUpload ∧ name = "files" then some 1
      else if name = "params" then some 0 else none := by
  have hparams : variableOf (paramsBinder m) = "params" := by
    unfold paramsBinder
    split <;> decide
  have hfiles : variableOf "mut files" = "files" := by decide
  have hbinder (binder : String) (t : Option Ty) (e : Expr) :
      (Stmt.letIn binder t e).binder? = some binder := rfl
  unfold locals filesStmts
  cases m.hasUpload with
  | false => simp [lastDeclaration?, hbinder, hparams, eq_comm (b := name)]
  | true =>
    by_cases hf : name = "files" <;>
      simp [lastDeclaration?, hbinder, hparams, hfiles, hf, eq_comm (b := name)]

theorem binder?_requiredStmt {ss : List Statement} :
    ∀ s ∈ ss.map requiredStmt, s.binder? = none := by
  rw [List.forall_mem_map]
  exact fun s _ => rfl

theorem reads_requiredStmt (s : Statement) : (requiredStmt s).reads =
    "params" :: String.ofList (Text.literal s.wireName.toList) :: (fieldIdent s.wireName).text ::
      if s.strategy = .fileUpload then
        [String.ofList (Text.literal s.wireName.toList), "files"]
      else [] := by
  unfold requiredStmt insertion sentValue literal
  cases s.strategy <;> rfl

section

variable {m : MethodBinding} {decode : String} {k : Nat}

theorem take_methodBody (hk : k ≤ m.requiredStatements.length) :
    (methodBody m decode).take ((locals m).length + k) =
      locals m ++ (m.requiredStatements.take k).map requiredStmt := by
  rw [methodBody_eq, ← List.cons_append]
  change (locals m ++ _).take _ = _
  rw [List.take_length_add_append, List.take_append_of_le_length (by rwa [List.length_map]),
    List.map_take]

theorem locals_prefix_methodBody : locals m <+: methodBody m decode := by
  rw [methodBody_eq, ← List.cons_append]
  exact List.prefix_append _ _

theorem getElem?_methodBody {s : Statement} (hk : m.requiredStatements[k]? = some s) :
    (methodBody m decode)[(locals m).length + k]? = some (requiredStmt s) := by
  have hlt : k < (m.requiredStatements.map requiredStmt).length := by
    rw [List.length_map]
    exact (List.getElem?_eq_some_iff.1 hk).1
  rw [methodBody_eq, ← List.cons_append]
  change (locals m ++ _)[_]? = _
  rw [List.getElem?_append_right (Nat.le_add_right _ _), Nat.add_sub_cancel_left,
    List.getElem?_append_left hlt, List.getElem?_map, hk]
  rfl

variable {g : Fn} {s : Statement}

/-- In front of a statement that sends a required parameter there are only the declarations. -/
theorem lastDeclaration?_methodFn (hg : methodFn m = .ok g) (name : String)
    (hk : k ≤ m.requiredStatements.length) :
    lastDeclaration? name (g.body.take ((locals m).length + k)) =
      lastDeclaration? name (locals m) := by
  obtain ⟨-, -, decode, -, hbody⟩ := methodFn_eq_ok hg
  rw [hbody, take_methodBody hk, lastDeclaration?_append binder?_requiredStmt]

theorem origin?_params (hg : methodFn m = .ok g) (hk : k ≤ m.requiredStatements.length) :
    g.origin? ((locals m).length + k) "params" = some (.stmt 0) := by
  have hl : lastDeclaration? "params" (locals m) = some 0 := by
    rw [lastDeclaration?_locals, if_neg fun h => absurd h.2 (by decide), if_pos rfl]
  rw [Fn.origin?, lastDeclaration?_methodFn hg _ hk, hl]

theorem origin?_files (hg : methodFn m = .ok g) (hk : k ≤ m.requiredStatements.length)
    (hu : m.hasUpload = true) :
    g.origin? ((locals m).length + k) "files" = some (.stmt 1) := by
  have hl : lastDeclaration? "files" (locals m) = some 1 := by
    rw [lastDeclaration?_locals, if_pos ⟨hu, rfl⟩]
  rw [Fn.origin?, lastDeclaration?_methodFn hg _ hk, hl]

theorem legal_args (hg : methodFn m = .ok g) : ∀ a ∈ g.args, a.name.Legal := by
  obtain ⟨-, hargs, -⟩ := methodFn_eq_ok hg
  obtain ⟨params, hp, hargs⟩ := methodArgs_eq_ok hargs
  have hparams : ∀ a ∈ params, a.name.Legal := by
    intro a ha
    have hmem : a.name ∈ m.signature.params.map fun p => fieldIdent p.wireName :=
      hp ▸ List.mem_map_of_mem ha
    obtain ⟨p, -, he⟩ := List.mem_map.1 hmem
    exact he ▸ (legal_fieldIdent p.wireName).1
  have hopts : Ident.Legal ⟨false, "opts"⟩ := Ident.legal_of_isIdent (by decide)
  rcases hargs with ⟨-, he⟩ | ⟨o, name, -, -, he⟩
  · rwa [he]
  · rw [he, List.forall_mem_append, List.forall_mem_singleton]
    exact ⟨hparams, hopts⟩

theorem name_methodFn (hg : methodFn m = .ok g) : g.name = methodIdent m.name := by
  obtain ⟨returned, -, hg⟩ := bind_eq_ok_iff.1 hg
  obtain ⟨args, -, hg⟩ := bind_eq_ok_iff.1 hg
  obtain ⟨decode, -, hg⟩ := bind_eq_ok_iff.1 hg
  cases hg
  dsimp only

/-- A word that is no identifier is no variable. -/
theorem origin?_of_isIdent_eq_false (hg : methodFn m = .ok g)
    (hk : k ≤ m.requiredStatements.length) {name : String}
    (hn : Text.isIdent name.toList = false) :
    g.origin? ((locals m).length + k) name = none := by
  have hne (word : String) (hw : Text.isIdent word.toList = true) : word ≠ name := by
    rintro rfl
    rw [hn] at hw
    cases hw
  have hl : lastDeclaration? name (locals m) = none := by
    rw [lastDeclaration?_locals, if_neg fun h => hne "files" (by decide) h.2.symm,
      if_neg (hne "params" (by decide)).symm]
  refine Fn.origin?_eq_none (fun a ha => hne _ (legal_args hg a ha).isIdent) ?_
  rw [lastDeclaration?_methodFn hg name hk, hl]

/-- The meanings of the words in the statement of a required parameter. -/
theorem meanings_methodFn (hg : methodFn m = .ok g) (hk : m.requiredStatements[k]? = some s)
    (hu : s.strategy = .fileUpload → m.hasUpload = true) {o : Origin}
    (ho : g.origin? ((locals m).length + k) (fieldIdent s.wireName).name = some o) :
    g.meanings ((locals m).length + k) =
      .stmt 0 :: o :: if s.strategy = .fileUpload then [.stmt 1] else [] := by
  obtain ⟨-, -, decode, -, hbody⟩ := methodFn_eq_ok hg
  have hle : k ≤ m.requiredStatements.length := (List.getElem?_eq_some_iff.1 hk).1.le
  have hword (word : String) (hw : Text.isIdent word.toList = true) :
      Ident.plainText ⟨false, word⟩ = word := (Ident.legal_of_isIdent hw).plainText
  have hlit := origin?_of_isIdent_eq_false hg hle (isIdent_plainText_literal s.wireName.toList)
  have hsource : Ident.plainText ⟨false, (fieldIdent s.wireName).text⟩ =
      (fieldIdent s.wireName).name := plainText_text (legal_fieldIdent s.wireName).1
  rw [Fn.meanings, hbody, getElem?_methodBody hk, Option.map_some, Option.getD_some,
    reads_requiredStmt]
  simp only [List.filterMap_cons, hword "params" (by decide), hsource, hlit, ho,
    origin?_params hg hle]
  split
  · next hs =>
    simp only [List.filterMap_cons, hword "files" (by decide), hlit, origin?_files hg hle (hu hs)]
    rfl
  · rfl

end

end Crate

namespace Schema.MethodEntry

open Code Crate

/-- The names of the required parameters. -/
def requiredNames (m : MethodEntry) : List String := m.requiredFields.map (·.name)

/-- The parameters go by distinct identifiers of ASCII. -/
structure AsciiNames (m : MethodEntry) : Prop where
  isAsciiIdent : ∀ f ∈ m.fieldList, Text.isAsciiIdent f.name.toList = true
  distinct : (m.fieldList.map (·.name)).Nodup

/-- No required parameter takes a name that the function has for a variable of its own, and none
the name that another one escapes to. -/
structure Unambiguous (m : MethodEntry) : Prop where
  params : "params" ∉ m.requiredNames
  files : m.binding.hasUpload → "files" ∉ m.requiredNames
  opts : m.optionalFields ≠ [] → "opts" ∉ m.requiredNames
  escaped : ∀ n ∈ neverRaw, n ∈ m.requiredNames → n ++ "_" ∉ m.requiredNames

/-- No argument is captured: the arguments have names of their own, which the declarations in front
of the statements leave to them, and each statement that sends a required parameter reads the
parameters of the form, the argument that the parameter comes in and, for a file, the files. -/
structure KeepsApart (m : MethodEntry) (g : Fn) : Prop where
  distinct : (g.args.map (·.name.name)).Nodup
  apart : ∀ a ∈ g.args, lastDeclaration? a.name.name (locals m.binding) = none
  reads : ∀ k f, m.requiredFields[k]? = some f →
    g.body[(locals m.binding).length + k]? = some (requiredStmt (.ofParameter f.parameter)) ∧
    g.meanings ((locals m.binding).length + k) = .stmt 0 :: .arg k ::
      if f.parameter.strategy = .fileUpload then [.stmt 1] else []

variable {m : MethodEntry} {g : Fn}

theorem AsciiNames.isIdent (h : m.AsciiNames) {f : Field} (hf : f ∈ m.requiredFields) :
    Text.isIdent f.name.toList = true :=
  Text.isIdent_of_isAsciiIdent (h.isAsciiIdent f (List.mem_of_mem_filter hf))

theorem AsciiNames.nodup_requiredNames (h : m.AsciiNames) : m.requiredNames.Nodup :=
  h.distinct.sublist (List.filter_sublist.map _)

theorem argNames_methodFn (h : m.AsciiNames) (hg : methodFn m.binding = .ok g) :
    g.args.map (·.name.name) = m.requiredNames.map escapedName ++
      if m.optionalFields = [] then [] else ["opts"] := by
  obtain ⟨-, ha, -⟩ := methodFn_eq_ok hg
  have hnames : g.args.map (·.name.name) = (g.args.map (·.name)).map (·.name) := by
    rw [List.map_map]
    rfl
  have hrequired : (m.requiredFields.map fun f => (fieldIdent f.name).name) =
      m.requiredNames.map escapedName := by
    rw [requiredNames, List.map_map]
    exact List.map_congr_left fun f hf => name_fieldIdent_eq (h.isIdent hf)
  rw [hnames, argNames_binding ha, List.map_append, List.map_map, ← hrequired]
  congr 1
  split <;> rfl

/-- When the arguments have names of their own. -/
theorem nodup_argNames_iff (h : m.AsciiNames) (hg : methodFn m.binding = .ok g) :
    (g.args.map (·.name.name)).Nodup ↔
      (m.optionalFields ≠ [] → "opts" ∉ m.requiredNames) ∧
        ∀ n ∈ neverRaw, n ∈ m.requiredNames → n ++ "_" ∉ m.requiredNames := by
  have hopts : "opts" ∈ m.requiredNames.map escapedName ↔ "opts" ∈ m.requiredNames :=
    mem_map_escapedName_iff (by decide) (by decide)
  rw [argNames_methodFn h hg, ← nodup_map_escapedName_iff h.nodup_requiredNames, ← hopts]
  split
  · next hnil => simp [hnil]
  · next hne =>
    rw [← List.concat_eq_append, List.nodup_concat]
    constructor
    · exact fun ⟨ho, hd⟩ => ⟨fun _ => ho, hd⟩
    · exact fun ⟨ho, hd⟩ => ⟨ho hne, hd⟩

theorem mem_argNames_iff (h : m.AsciiNames) (hg : methodFn m.binding = .ok g) {word : String}
    (hw : word ∉ neverRaw) (hu : ∀ n ∈ neverRaw, n ++ "_" ≠ word) (ho : word ≠ "opts") :
    word ∈ g.args.map (·.name.name) ↔ word ∈ m.requiredNames := by
  have hopts : word ∉ (if m.optionalFields = [] then [] else ["opts"]) := by
    split
    · exact List.not_mem_nil
    · exact fun hm => ho (List.mem_singleton.1 hm)
  rw [argNames_methodFn h hg, List.mem_append, or_iff_left hopts, mem_map_escapedName_iff hw hu]

/-- When the declarations leave the arguments their names. -/
theorem apart_iff (h : m.AsciiNames) (hg : methodFn m.binding = .ok g) :
    (∀ a ∈ g.args, lastDeclaration? a.name.name (locals m.binding) = none) ↔
      "params" ∉ m.requiredNames ∧ (m.binding.hasUpload → "files" ∉ m.requiredNames) := by
  have hfree (name : String) : lastDeclaration? name (locals m.binding) = none ↔
      name ≠ "params" ∧ (m.binding.hasUpload → name ≠ "files") := by
    rw [lastDeclaration?_locals]
    split_ifs <;> simp_all
  have hparams : "params" ∈ g.args.map (·.name.name) ↔ "params" ∈ m.requiredNames :=
    mem_argNames_iff h hg (by decide) (by decide) (by decide)
  have hfiles : "files" ∈ g.args.map (·.name.name) ↔ "files" ∈ m.requiredNames :=
    mem_argNames_iff h hg (by decide) (by decide) (by decide)
  rw [← hparams, ← hfiles]
  simp only [hfree, List.mem_map, not_exists, not_and]
  exact ⟨fun ha => ⟨fun a hm => (ha a hm).1, fun hu a hm => (ha a hm).2 hu⟩,
    fun ⟨hp, hf⟩ a hm => ⟨hp a hm, fun hu => hf hu a hm⟩⟩

theorem getElem?_requiredStatements {k : Nat} {f : Field} (hk : m.requiredFields[k]? = some f) :
    m.binding.requiredStatements[k]? = some (.ofParameter f.parameter) := by
  rw [requiredStatements_binding, List.getElem?_map, List.getElem?_map, hk]
  rfl

theorem getElem?_args (hg : methodFn m.binding = .ok g) {k : Nat} {f : Field}
    (hk : m.requiredFields[k]? = some f) : ∃ a, g.args[k]? = some a ∧ a.name = fieldIdent f.name := by
  obtain ⟨-, hargs, -⟩ := methodFn_eq_ok hg
  have hlt : k < (m.requiredFields.map fun f => fieldIdent f.name).length := by
    rw [List.length_map]
    exact (List.getElem?_eq_some_iff.1 hk).1
  have hname : (g.args.map (·.name))[k]? = some (fieldIdent f.name) := by
    rw [argNames_binding hargs, List.getElem?_append_left hlt, List.getElem?_map, hk]
    rfl
  rwa [List.getElem?_map, Option.map_eq_some_iff] at hname

/-- A required parameter is read from the argument it comes in if none is captured. -/
theorem reads_of_apart (hg : methodFn m.binding = .ok g)
    (hd : (g.args.map (·.name.name)).Nodup)
    (ha : ∀ a ∈ g.args, lastDeclaration? a.name.name (locals m.binding) = none)
    {k : Nat} {f : Field} (hk : m.requiredFields[k]? = some f) :
    g.body[(locals m.binding).length + k]? = some (requiredStmt (.ofParameter f.parameter)) ∧
    g.meanings ((locals m.binding).length + k) = .stmt 0 :: .arg k ::
      if f.parameter.strategy = .fileUpload then [.stmt 1] else [] := by
  obtain ⟨-, -, decode, -, hbody⟩ := methodFn_eq_ok hg
  have hs : m.binding.requiredStatements[k]? = some (.ofParameter f.parameter) :=
    getElem?_requiredStatements hk
  have hle : k ≤ m.binding.requiredStatements.length := (List.getElem?_eq_some_iff.1 hs).1.le
  obtain ⟨a, hak, hname⟩ := getElem?_args hg hk
  have horigin : g.origin? ((locals m.binding).length + k) (fieldIdent f.name).name =
      some (.arg k) := by
    refine Fn.origin?_arg hd ?_ ?_
    · rw [List.getElem?_map, hak, Option.map_some, hname]
    · rw [lastDeclaration?_methodFn hg _ hle, ← hname]
      exact ha a (List.mem_of_getElem? hak)
  have hupload : f.parameter.strategy = .fileUpload → m.binding.hasUpload = true := by
    intro hf
    rw [← Bool.not_eq_false, hasUpload_binding_eq_false_iff]
    have hmem : f ∈ m.fieldList := List.mem_of_mem_filter (List.mem_of_getElem? hk)
    exact fun hall => hall f hmem hf
  exact ⟨by rw [hbody, getElem?_methodBody hs], meanings_methodFn hg hs hupload horigin⟩

/-- Arguments are captured just if a required parameter takes one of the names that are not free. -/
theorem keepsApart_iff (h : m.AsciiNames) (hg : methodFn m.binding = .ok g) :
    m.KeepsApart g ↔ m.Unambiguous := by
  constructor
  · rintro ⟨hdistinct, hapart, -⟩
    obtain ⟨hopts, hescaped⟩ := (nodup_argNames_iff h hg).1 hdistinct
    obtain ⟨hparams, hfiles⟩ := (apart_iff h hg).1 hapart
    exact ⟨hparams, hfiles, hopts, hescaped⟩
  · rintro ⟨hparams, hfiles, hopts, hescaped⟩
    have hdistinct : (g.args.map (·.name.name)).Nodup :=
      (nodup_argNames_iff h hg).2 ⟨hopts, hescaped⟩
    have hapart := (apart_iff h hg).2 ⟨hparams, hfiles⟩
    exact ⟨hdistinct, hapart, fun k f => reads_of_apart hg hdistinct hapart⟩

end Schema.MethodEntry

open Schema Code Crate

/-- Every method has a function among those of the module. Its body begins with declarations, and if
the parameters of the method go by distinct identifiers of ASCII, then no argument is captured just
if no required parameter takes a name that is not free. -/
theorem Bindings.ofDocument_capture {d : Document} {b : Bindings}
    (h : (ofDocument (some d)).1 = .ok b) {items : List Item} (hi : methodsModule b = .ok items) :
    List.Forall₂ (fun m g => g.name = methodIdent m.name ∧ locals m.binding <+: g.body ∧
        (m.AsciiNames → (m.KeepsApart g ↔ m.Unambiguous)))
      d.methods.values (items.flatMap functions) := by
  obtain ⟨-, -, rfl⟩ := ofDocument_eq_ok_iff.1 h
  have hfns : List.Forall₂ (fun m g => methodFn m = .ok g) (d.methods.values.map (·.binding))
      (items.flatMap functions) := functions_methodsModule hi
  rw [List.forall₂_map_left_iff] at hfns
  refine hfns.imp fun m g hg => ?_
  obtain ⟨-, -, decode, -, hbody⟩ := methodFn_eq_ok hg
  have hname : m.binding.name = m.name := rfl
  refine ⟨?_, ?_, fun hm => MethodEntry.keepsApart_iff hm hg⟩
  · rw [name_methodFn hg, hname]
  · rw [hbody]
    exact locals_prefix_methodBody

/-- A photo under a keyword and with an option, and a note whose parameter goes by the name of its
options. -/
def board : Document where
  types := ⟨[("InputFile", { name := "InputFile" })], List.nodup_singleton "InputFile"⟩
  methods := ⟨[
    ("pinPhoto", {
      name := "pinPhoto"
      fields := some [⟨"type", ["String"], true, ""⟩, ⟨"caption", ["String"], false, ""⟩,
        ⟨"photo", ["InputFile", "String"], true, ""⟩]
      returns := ["Boolean"] }),
    ("pinNote", {
      name := "pinNote"
      fields := some [⟨"opts", ["String"], true, ""⟩, ⟨"title", ["String"], false, ""⟩]
      returns := ["Boolean"] })], by decide⟩

theorem Bindings.ofDocument_capture_board :
    ∃ b items photo note f g, (ofDocument (some board)).1 = .ok b ∧
      methodsModule b = .ok items ∧ board.methods.values = [photo, note] ∧
      items.flatMap functions = [f, g] ∧ photo.KeepsApart f ∧ ¬ note.KeepsApart g := by
  have h : (ofDocument (some board)).1 = .ok board.bindings := ofDocument_of_check rfl (by decide)
  obtain ⟨items, hi⟩ : ∃ items, methodsModule board.bindings = .ok items :=
    exists_eq_ok (by decide +kernel)
  have hall := ofDocument_capture h hi
  generalize hf : items.flatMap functions = fs at hall
  obtain _ | ⟨⟨-, -, hphoto⟩, _ | ⟨⟨-, -, hnote⟩, _ | _⟩⟩ := hall
  refine ⟨_, items, _, _, _, _, h, hi, rfl, hf, ?_, ?_⟩
  · exact (hphoto ⟨by decide, by decide⟩).2 ⟨by decide, by decide, by decide, by decide⟩
  · intro hk
    exact absurd ((hnote ⟨by decide, by decide⟩).1 hk).opts (by decide)

/-- A parameter goes by the name that the body has for the parameters of the form. -/
def formEntry : MethodEntry where
  name := "send"
  fields := some [⟨"params", ["String"], true, ""⟩]
  returns := ["Boolean"]

/-- The only method of the document sends the parameter. -/
def form : Document where
  types := ⟨[], List.nodup_nil⟩
  methods := ⟨[("send", formEntry)], List.nodup_singleton "send"⟩

/-- Not every argument is read by the statement that sends it. -/
theorem Bindings.exists_captured_argument :
    ¬ ∀ (d : Document) (b : Bindings), (ofDocument (some d)).1 = .ok b →
      (∀ m ∈ d.methods.values, m.AsciiNames) →
      ∀ items, methodsModule b = .ok items →
      List.Forall₂ (fun m g => m.KeepsApart g) d.methods.values (items.flatMap functions) := by
  intro h
  have hb : (ofDocument (some form)).1 = .ok form.bindings := ofDocument_of_check rfl (by decide)
  obtain ⟨items, hi⟩ : ∃ items, methodsModule form.bindings = .ok items :=
    exists_eq_ok (by decide +kernel)
  have hnames : ∀ m ∈ form.methods.values, m.AsciiNames := by
    intro m hm
    rw [List.mem_singleton.1 hm]
    exact ⟨by decide, by decide⟩
  have hkept := h form _ hb hnames items hi
  have hfns := functions_methodsModule hi
  generalize items.flatMap functions = fs at hkept hfns
  obtain _ | ⟨hk, _ | _⟩ := hkept
  obtain _ | ⟨hg, _ | _⟩ := hfns
  have hfield : formEntry.requiredFields[0]? = some ⟨"params", ["String"], true, ""⟩ := rfl
  have hstatement : formEntry.binding.requiredStatements[0]? =
      some ⟨"params", "params", .direct, false⟩ := by decide
  -- the statement sends what is declared in front of it, and not the argument
  have hdeclared := meanings_methodFn hg hstatement (by decide)
    (origin?_params hg (Nat.zero_le _))
  rw [(hk.reads 0 _ hfield).2] at hdeclared
  exact absurd (List.cons.inj (List.cons.inj hdeclared).2).1 (by decide)

end BotBindings
