import BotBindings.Proofs.CamelCase
import BotBindings.Proofs.Capture
import BotBindings.Proofs.Helpers
import BotBindings.Proofs.PlainName

namespace BotBindings

open Schema Text

variable {s t : String}

theorem upperCamel_snakeCase (h : IsCamelCase Char.isUpper s.toList) :
    upperCamel (snakeCase s) = s := by
  rw [upperCamel, toList_snakeCase, h.upperCamel_snakeCase, h.upperCamel_eq_self,
    String.ofList_toList]

theorem lowerCamel_snakeCase (h : IsCamelCase Char.isLower s.toList) :
    lowerCamel (snakeCase s) = s := by
  rw [lowerCamel, toList_snakeCase, h.lowerCamel_snakeCase, h.lowerCamel_eq_self,
    String.ofList_toList]

theorem lowerCamel_eq_self (h : IsCamelCase Char.isLower s.toList) : lowerCamel s = s := by
  rw [lowerCamel, h.lowerCamel_eq_self, String.ofList_toList]

theorem lowerCamel_congr (h : upperCamel s = upperCamel t) : lowerCamel s = lowerCamel t := by
  have hl : Text.upperCamel s.toList = Text.upperCamel t.toList := String.ofList_injective h
  rw [lowerCamel, lowerCamel, Text.lowerCamel, Text.lowerCamel, hl]

theorem optionsName_inj (hs : IsCamelCase Char.isLower s.toList)
    (ht : IsCamelCase Char.isLower t.toList) (h : optionsName s = optionsName t) : s = t := by
  have hu : upperCamel s = upperCamel t := (String.append_left_inj "Opts").1 h
  rw [← lowerCamel_eq_self hs, lowerCamel_congr hu, lowerCamel_eq_self ht]

theorem Text.IsCamelCase.plainName {first : Char → Bool} (hf : ∀ c, first c = true → c.isAlpha = true)
    (h : IsCamelCase first s.toList) : Code.PlainName s := by
  obtain ⟨c, rest, hc, hfirst⟩ := h.exists_cons
  have hplain : ∀ x ∈ s.toList, isPlain x = true := fun x hx => by
    rw [isPlain, h.alphanum x hx, Bool.true_or]
  rw [hc] at hplain
  rw [Code.PlainName, hc]
  exact isPlainName_cons.2 ⟨hf c hfirst, (List.forall_mem_cons.1 hplain).2⟩

namespace Code

/-- Names that do not end in an underscore are not what others escape to. -/
theorem escapedName_inj (hs : s.toList.getLast? ≠ some '_') (ht : t.toList.getLast? ≠ some '_')
    (h : escapedName s = escapedName t) : s = t := by
  have hlast (w : String) : (w ++ "_").toList.getLast? = some '_' := by
    rw [String.toList_append]
    exact List.getLast?_concat
  unfold escapedName at h
  split_ifs at h
  · exact (String.append_left_inj "_").1 h
  · exact absurd (h ▸ hlast s) ht
  · exact absurd (h ▸ hlast t) hs
  · exact h

/-- The function of a method is called after its name. -/
theorem methodIdent_inj (hs : IsCamelCase Char.isLower s.toList)
    (ht : IsCamelCase Char.isLower t.toList) (h : (methodIdent s).name = (methodIdent t).name) :
    s = t := by
  have hname {m : String} (hm : IsCamelCase Char.isLower m.toList) :
      (methodIdent m).name = escapedName (snakeCase m) :=
    name_fieldIdent_eq (isIdent_of_isPlainName (hm.plainName fun _ => isAlpha_of_isLower).snakeCase)
  have hlast {m : String} (hm : IsCamelCase Char.isLower m.toList) :
      (snakeCase m).toList.getLast? ≠ some '_' := by
    rw [toList_snakeCase]
    exact (isSnakeCase_snakeCase hm.ascii).getLast?
  rw [hname hs, hname ht] at h
  have he : snakeCase s = snakeCase t := escapedName_inj (hlast hs) (hlast ht) h
  rw [← lowerCamel_snakeCase hs, he, lowerCamel_snakeCase ht]

/-- Each of the names has an identifier, and no other of them has the same. -/
def TellsApart (ident : String → Except IdentFault Ident) (names : List String) : Prop :=
  ∀ s ∈ names, ∃ i, ident s = .ok i ∧
    ∀ t ∈ names, ∀ j, ident t = .ok j → j.name = i.name → t = s

variable {ident : String → Except IdentFault Ident} {called : String → Ident} {names : List String}

theorem tellsApart_of_inj (h : ∀ s ∈ names, ident s = .ok (called s))
    (hinj : ∀ s ∈ names, ∀ t ∈ names, (called t).name = (called s).name → t = s) :
    TellsApart ident names := by
  intro s hs
  refine ⟨called s, h s hs, fun t ht j hj hn => hinj s hs t ht ?_⟩
  rw [h t ht] at hj
  cases hj
  exact hn

theorem tellsApart_methodIdent (h : ∀ s ∈ names, IsCamelCase Char.isLower s.toList) :
    TellsApart (fun s => .ok (methodIdent s)) names :=
  tellsApart_of_inj (fun _ _ => rfl) fun s hs t ht => methodIdent_inj (h t ht) (h s hs)

theorem tellsApart_optionsName (h : ∀ s ∈ names, IsCamelCase Char.isLower s.toList) :
    TellsApart (fun s => typeIdent (optionsName s)) names := by
  have hplain (s : String) (hs : s ∈ names) : PlainName (optionsName s) :=
    ((h s hs).plainName fun _ => isAlpha_of_isLower).upperCamel.append (by decide)
  exact tellsApart_of_inj (fun s hs => (hplain s hs).ofString) fun s hs t ht =>
    optionsName_inj (h t ht) (h s hs)

/-- Helpers are told apart by their elements, whatever stands behind these. -/
theorem tellsApart_helper (h : ∀ s ∈ names, IsCamelCase Char.isUpper s.toList) {w : String}
    (hw : w.toList.all isPlain = true) :
    TellsApart (fun s => Ident.ofString ("unmarshal_" ++ snakeCase s ++ w)) names := by
  have hident (s : String) (hs : s ∈ names) :
      Ident.ofString ("unmarshal_" ++ snakeCase s ++ w) =
        .ok ⟨false, "unmarshal_" ++ snakeCase s ++ w⟩ :=
    (((h s hs).plainName fun _ => isAlpha_of_isUpper).helper hw).ofString
  refine tellsApart_of_inj hident fun s hs t ht he => ?_
  have hsnake : snakeCase t = snakeCase s :=
    (String.append_right_inj "unmarshal_").1 ((String.append_left_inj w).1 he)
  rw [← upperCamel_snakeCase (h t ht), hsnake, upperCamel_snakeCase (h s hs)]

theorem tellsApart_arrayHelperIdent (h : ∀ s ∈ names, IsCamelCase Char.isUpper s.toList) :
    TellsApart arrayHelperIdent names :=
  tellsApart_helper h (w := "_array") (by decide)

theorem tellsApart_arrayOfArrayHelperIdent (h : ∀ s ∈ names, IsCamelCase Char.isUpper s.toList) :
    TellsApart arrayOfArrayHelperIdent names :=
  tellsApart_helper h (w := "_array_of_array") (by decide)

end Code

def Code.OutlineEntry.struct? : OutlineEntry → Option String
  | struct name => some name
  | _ => none

/-- The names of the structs that items declare. -/
def Code.structNames (items : List Item) : List String :=
  (outline items).filterMap OutlineEntry.struct?

def Schema.Document.methodNames (d : Document) : List String := d.methods.values.map (·.name)

namespace Crate

open Code

variable {b : Bindings} {items : List Item}

theorem names_functions_methodsModule (h : methodsModule b = .ok items) :
    (items.flatMap functions).map (·.name) = b.methods.map fun m => methodIdent m.name := by
  have hnames : List.Forall₂ (· = ·) (b.methods.map fun m => methodIdent m.name)
      ((items.flatMap functions).map (·.name)) := by
    rw [List.forall₂_map_left_iff, List.forall₂_map_right_iff]
    exact (functions_methodsModule h).imp fun m g hg => (name_methodFn hg).symm
  rw [List.forall₂_eq_eq_eq] at hnames
  exact hnames.symm

theorem filterMap_struct?_mentions (ls : List Leaf) :
    (mentions ls).filterMap OutlineEntry.struct? = [] := by
  rw [mentions, List.filterMap_map, List.filterMap_eq_nil_iff]
  exact fun l _ => rfl

theorem structNames_methodOutline (m : MethodBinding) :
    (methodOutline m).filterMap OutlineEntry.struct? = m.options.toList.map (·.name) := by
  have hoptions (o : Options) : (optionsOutline o).filterMap OutlineEntry.struct? = [o.name] := by
    have hnil : (o.fields.flatMap fun p => mentions p.optionLeaves).filterMap
        OutlineEntry.struct? = [] := by
      rw [List.filterMap_flatMap]
      simp only [filterMap_struct?_mentions, List.flatMap_eq_nil_iff, implies_true]
    have hname : (OutlineEntry.struct o.name).struct? = some o.name := rfl
    rw [optionsOutline, List.filterMap_cons_some hname, hnil]
  have hargs : (argsOutline m.signature).filterMap OutlineEntry.struct? = [] := by
    rw [argsOutline, List.filterMap_append, List.filterMap_flatMap, filterMap_struct?_mentions]
    simp only [filterMap_struct?_mentions, List.append_nil, List.flatMap_eq_nil_iff, implies_true]
  rw [methodOutline, List.filterMap_append, List.filterMap_append, List.filterMap_append, hargs,
    filterMap_struct?_mentions, filterMap_struct?_mentions, List.filterMap_flatMap]
  simp only [hoptions, List.append_nil, List.map_eq_flatMap]

/-- The structs of a module of methods are the options of the methods. -/
theorem structNames_methodsModule (h : methodsModule b = .ok items) :
    structNames items = b.methods.flatMap fun m => m.options.toList.map (·.name) := by
  rw [structNames, outline_methodsModule h]
  have hmethods : (b.methods.flatMap methodOutline).filterMap OutlineEntry.struct? =
      b.methods.flatMap fun m => m.options.toList.map (·.name) := by
    rw [List.filterMap_flatMap]
    exact List.flatMap_congr fun m _ => structNames_methodOutline m
  rw [← hmethods]
  split_ifs <;> rfl

end Crate

namespace Schema.Document

open Code Crate

variable {d : Document} {items : List Item}

theorem nodup_functionNames_iff (h : ∀ s ∈ d.methodNames, IsCamelCase Char.isLower s.toList)
    (hi : methodsModule d.bindings = .ok items) :
    ((items.flatMap functions).map (·.name.name)).Nodup ↔ d.methodNames.Nodup := by
  have hnames : (items.flatMap functions).map (·.name.name) =
      d.methodNames.map fun s => (methodIdent s).name := by
    have hm : ((items.flatMap functions).map (·.name)).map (·.name) =
        (d.bindings.methods.map fun m => methodIdent m.name).map (·.name) :=
      congrArg _ (names_functions_methodsModule hi)
    rw [List.map_map, bindings, List.map_map, List.map_map] at hm
    rw [methodNames, List.map_map]
    exact hm
  rw [hnames]
  exact ⟨fun hd => hd.of_map _, fun hd => hd.map_on fun s hs t ht => methodIdent_inj (h s hs) (h t ht)⟩

theorem nodup_structNames (h : ∀ s ∈ d.methodNames, IsCamelCase Char.isLower s.toList)
    (hi : methodsModule d.bindings = .ok items) (hd : d.methodNames.Nodup) :
    (structNames items).Nodup := by
  have hone (m : MethodEntry) : (m.binding.options.toList.map (·.name)).Nodup := by
    cases m.binding.options with
    | none => exact List.nodup_nil
    | some o => exact List.nodup_singleton o.name
  have hname {m : MethodEntry} {x : String} (hx : x ∈ m.binding.options.toList.map (·.name)) :
      x = optionsName m.name := by
    obtain ⟨o, ho, rfl⟩ := List.mem_map.1 hx
    exact m.name_options_binding (Option.mem_toList.1 ho)
  have hcamel {m : MethodEntry} (hm : m ∈ d.methods.values) : IsCamelCase Char.isLower m.name.toList :=
    h m.name (List.mem_map_of_mem hm)
  have hpair : d.methods.values.Pairwise fun m n => m.name ≠ n.name := List.pairwise_map.1 hd
  rw [structNames_methodsModule hi, bindings, List.flatMap_map, List.nodup_flatMap]
  refine ⟨fun m _ => hone m, hpair.imp_of_mem fun hm hn hne x hx hx' => hne ?_⟩
  exact optionsName_inj (hcamel hm) (hcamel hn) ((hname hx).symm.trans (hname hx'))

end Schema.Document

open Code Crate

/-- Names in camel case come back from `send_photo`. So methods with such names are told apart by
their functions and by their options, and elements with such names by each kind of helper. -/
theorem Bindings.ofDocument_tellsApart :
    (∀ s, IsCamelCase Char.isLower s.toList → lowerCamel (snakeCase s) = s) ∧
    (∀ s, IsCamelCase Char.isUpper s.toList → upperCamel (snakeCase s) = s) ∧
    ∀ (d : Document) (b : Bindings), (ofDocument (some d)).1 = .ok b →
      ((∀ s ∈ d.methodNames, IsCamelCase Char.isLower s.toList) →
        TellsApart (fun s => .ok (methodIdent s)) d.methodNames ∧
        TellsApart (fun s => typeIdent (optionsName s)) d.methodNames ∧
        ∀ items, methodsModule b = .ok items →
          (((items.flatMap functions).map (·.name.name)).Nodup ↔ d.methodNames.Nodup) ∧
          (d.methodNames.Nodup → (structNames items).Nodup)) ∧
      ((∀ s ∈ d.types.keys, IsCamelCase Char.isUpper s.toList) →
        TellsApart arrayHelperIdent b.arrayHelpers ∧
        TellsApart arrayOfArrayHelperIdent b.arrayOfArrayHelpers) := by
  refine ⟨fun s => lowerCamel_snakeCase, fun s => upperCamel_snakeCase, fun d b hb => ?_⟩
  obtain ⟨-, hknown, rfl⟩ := ofDocument_eq_ok_iff.1 hb
  refine ⟨fun h => ⟨tellsApart_methodIdent h, tellsApart_optionsName h, fun items hi => ?_⟩,
    fun h => ⟨?_, ?_⟩⟩
  · exact ⟨Document.nodup_functionNames_iff h hi, Document.nodup_structNames h hi⟩
  · exact tellsApart_arrayHelperIdent fun s hs =>
      h s ((Document.mem_arrayHelpers_iff hknown).1 hs).1
  · exact tellsApart_arrayOfArrayHelperIdent fun s hs =>
      h s ((Document.mem_arrayOfArrayHelpers_iff hknown).1 hs).1

/-- The two kinds of helpers are not told from each other. -/
example : arrayHelperIdent "UserArrayOf" = arrayOfArrayHelperIdent "User" := by rfl

/-- Two methods with options, one of which has a digit in front of a capital, and lists of an
element that has one too. -/
def gifs : Document where
  types := ⟨[("Mpeg4Gif", { name := "Mpeg4Gif" }), ("Gif", { name := "Gif" })], by decide⟩
  methods := ⟨[
    ("sendMpeg4Gif", {
      name := "sendMpeg4Gif"
      fields := some [⟨"caption", ["String"], false, ""⟩]
      returns := ["Array of Mpeg4Gif"] }),
    ("sendGif", {
      name := "sendGif"
      fields := some [⟨"caption", ["String"], false, ""⟩]
      returns := ["Array of Gif"] })], by decide⟩

theorem Bindings.ofDocument_tellsApart_gifs :
    ∃ items, (ofDocument (some gifs)).1 = .ok gifs.bindings ∧
      methodsModule gifs.bindings = .ok items ∧
      lowerCamel (snakeCase "sendMpeg4Gif") = "sendMpeg4Gif" ∧
      upperCamel (snakeCase "Mpeg4Gif") = "Mpeg4Gif" ∧
      ((items.flatMap functions).map (·.name.name)).Nodup ∧ (structNames items).Nodup ∧
      TellsApart arrayHelperIdent gifs.bindings.arrayHelpers := by
  have h : (ofDocument (some gifs)).1 = .ok gifs.bindings := ofDocument_of_check rfl (by decide)
  obtain ⟨items, hi⟩ : ∃ items, methodsModule gifs.bindings = .ok items :=
    exists_eq_ok (by decide +kernel)
  obtain ⟨hlower, hupper, hdocument⟩ := ofDocument_tellsApart
  obtain ⟨hmethods, htypes⟩ := hdocument gifs _ h
  obtain ⟨-, -, hmodule⟩ := hmethods (by decide)
  obtain ⟨hfunctions, hstructs⟩ := hmodule items hi
  have hnames : gifs.methodNames.Nodup := by decide
  exact ⟨items, h, hi, hlower "sendMpeg4Gif" (by decide), hupper "Mpeg4Gif" (by decide),
    hfunctions.2 hnames, hstructs hnames, (htypes (by decide)).1⟩

end BotBindings
