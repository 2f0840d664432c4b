import BotBindings.Proofs.CamelCase
import BotBindings.Proofs.Parameters

namespace BotBindings

namespace Text

variable {c d : Char} {cs ds rest w : List Char} {ws vs : List (List Char)}

def isSmall (c : Char) : Bool := c.isLower || c.isDigit

/-- A small letter, then small letters and digits. -/
def isWireWord : List Char → Bool
  | [] => false
  | c :: rest => c.isLower && rest.all isSmall

theorem lt_of_isSmall (h : isSmall c = true) : c.toNat < 128 := by
  rw [isSmall, Bool.or_eq_true] at h
  exact h.elim lt_of_isLower lt_of_isDigit

theorem isAlphanum_of_isSmall (h : isSmall c = true) : c.isAlphanum = true := by
  rw [isSmall, Bool.or_eq_true] at h
  exact isAlphanum_iff.2 (h.imp_left .inr)

theorem isUpper_of_isSmall (h : isSmall c = true) : c.isUpper = false := by
  rw [isSmall, Bool.or_eq_true] at h
  exact h.elim isUpper_of_isLower isUpper_of_isDigit

theorem not_upper_of_isSmall (h : isSmall c = true) : isUpper c = false :=
  (isUpper_of_ascii (lt_of_isSmall h)).trans (isUpper_of_isSmall h)

theorem isSmall_of_isLower (h : c.isLower = true) : isSmall c = true := by
  rw [isSmall, h, Bool.true_or]

theorem exists_of_isWireWord (h : isWireWord w = true) :
    ∃ c rest, w = c :: rest ∧ c.isLower = true ∧ ∀ x ∈ rest, isSmall x = true := by
  cases w with
  | nil => cases h
  | cons c rest =>
    rw [isWireWord, Bool.and_eq_true, List.all_eq_true] at h
    exact ⟨c, rest, rfl, h.1, h.2⟩

theorem isSmall_of_mem (h : isWireWord w = true) : ∀ x ∈ w, isSmall x = true := by
  obtain ⟨c, rest, rfl, hc, hrest⟩ := exists_of_isWireWord h
  exact List.forall_mem_cons.2 ⟨isSmall_of_isLower hc, hrest⟩

theorem nil_notMem_of_isWireWord (h : ∀ w ∈ ws, isWireWord w = true) : [] ∉ ws :=
  fun hm => absurd (h [] hm) (by decide)

theorem underscore_notMem_of_isWireWord (h : isWireWord w = true) : '_' ∉ w :=
  fun hm => absurd (isSmall_of_mem h '_' hm) (by decide)

/-- A name of these words, of which there is at least one. -/
structure Spells (ws : List (List Char)) (cs : List Char) : Prop where
  ne_nil : ws ≠ []
  isWireWord : ∀ w ∈ ws, isWireWord w = true
  joined : cs = ['_'].intercalate ws

/-- The words one behind the other, each with a capital. -/
def capitalized (ws : List (List Char)) : List Char := ws.flatMap (mapHead toUpper)

theorem Spells.upperCamel (h : Spells ws cs) : upperCamel cs = capitalized ws := by
  rw [h.joined, upperCamel_intercalate (nil_notMem_of_isWireWord h.isWireWord) fun w hw =>
    underscore_notMem_of_isWireWord (h.isWireWord w hw), capitalized]

theorem capitalized_cons (hc : c.isLower = true) :
    capitalized ((c :: rest) :: ws) = c.toUpper :: rest ++ capitalized ws := by
  rw [capitalized, List.flatMap_cons, mapHead_toUpper (lt_of_isLower hc), capitalized]

/-- A word ends in front of the next capital. -/
theorem takeWhile_capitalized (hr : ∀ x ∈ rest, isSmall x = true)
    (hw : ∀ w ∈ ws, isWireWord w = true) :
    (rest ++ capitalized ws).takeWhile (!·.isUpper) = rest := by
  have hnil : (capitalized ws).takeWhile (!·.isUpper) = [] := by
    cases ws with
    | nil => rfl
    | cons w ws =>
      obtain ⟨c, rest, rfl, hc, -⟩ := exists_of_isWireWord (hw w List.mem_cons_self)
      rw [capitalized_cons hc, List.cons_append, List.takeWhile_cons_of_neg]
      rw [isUpper_toUpper hc]
      decide
  rw [List.takeWhile_append_of_pos fun x hx => by rw [isUpper_of_isSmall (hr x hx)]; rfl, hnil,
    List.append_nil]

theorem capitalized_inj (hw : ∀ w ∈ ws, isWireWord w = true) (hv : ∀ v ∈ vs, isWireWord v = true)
    (h : capitalized ws = capitalized vs) : ws = vs := by
  induction ws generalizing vs with
  | nil =>
    cases vs with
    | nil => rfl
    | cons v vs =>
      obtain ⟨d, s, rfl, hd, -⟩ := exists_of_isWireWord (hv v List.mem_cons_self)
      rw [capitalized_cons hd] at h
      cases h
  | cons w ws ih =>
    obtain ⟨hword, hws⟩ := List.forall_mem_cons.1 hw
    obtain ⟨c, r, rfl, hc, hr⟩ := exists_of_isWireWord hword
    rw [capitalized_cons hc] at h
    cases vs with
    | nil => cases h
    | cons v vs =>
      obtain ⟨hword', hvs⟩ := List.forall_mem_cons.1 hv
      obtain ⟨d, s, rfl, hd, hs⟩ := exists_of_isWireWord hword'
      rw [capitalized_cons hd, List.cons_append, List.cons_append, List.cons.injEq] at h
      obtain ⟨hfirst, hrest⟩ := h
      have hcd : c = d := by rw [← toLower_toUpper hc, hfirst, toLower_toUpper hd]
      have hrs : r = s := by
        rw [← takeWhile_capitalized hr hws, hrest, takeWhile_capitalized hs hvs]
      rw [hrs, List.append_cancel_left_eq] at hrest
      rw [hcd, hrs, ih hws hvs hrest]

theorem ne_nil_of_two_le (h : 2 ≤ (c :: rest).length) : rest ≠ [] := by
  rintro rfl
  exact absurd h (Nat.not_le_of_lt (Nat.lt_succ_self 1))

/-- Behind small letters or digits a capital begins a word. -/
theorem words_append_capital (hr : ∀ x ∈ rest, isSmall x = true) (hne : rest ≠ [])
    (hd : d.isUpper = true) (ds : List Char) :
    words (c :: rest ++ d :: ds) = (c :: rest) :: words (d :: ds) := by
  induction rest generalizing c with
  | nil => exact absurd rfl hne
  | cons e rest ih =>
    obtain ⟨he, hrest⟩ := List.forall_mem_cons.1 hr
    have hgo (next : Option Char) : beginsWord c e next = false :=
      beginsWord_of_isUpper_eq_false (not_upper_of_isSmall he) next
    cases rest with
    | nil =>
      -- `e` ends the word, so the capital is not the second of two in a row
      have hb : beginsWord e d ds.head? = true :=
        beginsWord_of_isUpper (isAlphanum_of_isSmall he) hd
          (fun h => absurd h.1 (by rw [isUpper_of_isSmall he]; decide)) _
      exact words_of_goesOn (hgo _) (words_of_begins hb)
    | cons f rest => exact words_of_goesOn (hgo _) (ih hrest (List.cons_ne_nil f rest))

/-- Words of two characters or more are found again behind the first one. -/
theorem words_append_capitalized (hr : ∀ x ∈ rest, isSmall x = true) (hne : rest ≠ [])
    (hw : ∀ w ∈ ws, isWireWord w = true) (hlen : ∀ w ∈ ws, 2 ≤ w.length) :
    words (c :: rest ++ capitalized ws) = (c :: rest) :: ws.map (mapHead toUpper) := by
  induction ws generalizing c rest with
  | nil =>
    have hupper : ∀ x ∈ rest, isUpper x = false := fun x hx => not_upper_of_isSmall (hr x hx)
    have hempty : capitalized [] = [] := rfl
    rw [hempty, List.append_nil, words_of_noUpper hupper, List.map_nil]
  | cons w ws ih =>
    obtain ⟨hword, hws⟩ := List.forall_mem_cons.1 hw
    obtain ⟨hlong, hlens⟩ := List.forall_mem_cons.1 hlen
    obtain ⟨d, s, rfl, hd, hs⟩ := exists_of_isWireWord hword
    have hsne : s ≠ [] := ne_nil_of_two_le hlong
    have hcat : capitalized ((d :: s) :: ws) = d.toUpper :: (s ++ capitalized ws) :=
      capitalized_cons hd
    rw [hcat, words_append_capital hr hne (isUpper_toUpper hd), List.map_cons,
      mapHead_toUpper (lt_of_isLower hd)]
    exact congrArg ((c :: rest) :: ·) (ih hs hsne hws hlens)

theorem lowercase_of_isSmall (h : ∀ x ∈ w, isSmall x = true) : lowercase w = w :=
  lowercase_eq_self fun x hx =>
    ⟨lt_of_isSmall (h x hx), isUpper_of_isSmall (h x hx)⟩

theorem lowercase_mapHead_toUpper (h : isWireWord w = true) :
    lowercase (mapHead toUpper w) = w := by
  obtain ⟨c, rest, rfl, hc, hrest⟩ := exists_of_isWireWord h
  have hascii : ∀ x ∈ c.toUpper :: rest, x.toNat < 128 := List.forall_mem_cons.2
    ⟨lt_of_isUpper (isUpper_toUpper hc), fun x hx => lt_of_isSmall (hrest x hx)⟩
  rw [mapHead_toUpper (lt_of_isLower hc), lowercase_cons hascii, toLower_toUpper hc,
    lowercase_of_isSmall hrest]

theorem isAlphanum_of_mem_capitalized (hw : ∀ w ∈ ws, isWireWord w = true)
    (hx : c ∈ capitalized ws) : c.isAlphanum = true := by
  obtain ⟨w, hmem, hx⟩ := List.mem_flatMap.1 hx
  obtain ⟨d, rest, rfl, hd, hrest⟩ := exists_of_isWireWord (hw w hmem)
  rw [mapHead_toUpper (lt_of_isLower hd)] at hx
  rcases List.mem_cons.1 hx with rfl | hx
  · exact isAlphanum_iff.2 (.inl (.inl (isUpper_toUpper hd)))
  · exact isAlphanum_of_isSmall (hrest c hx)

/-- A name comes back whichever case its first letter has. -/
theorem Spells.snakeCase_append (h : Spells ((c :: rest) :: ws) cs)
    (hlen : ∀ w ∈ (c :: rest) :: ws, 2 ≤ w.length) (hd : d.isAlphanum = true)
    (hcd : d.toLower = c) : snakeCase (d :: rest ++ capitalized ws) = cs := by
  obtain ⟨hword, hws⟩ := List.forall_mem_cons.1 h.isWireWord
  obtain ⟨hlong, hlens⟩ := List.forall_mem_cons.1 hlen
  have hrest : ∀ x ∈ rest, isSmall x = true := fun x hx =>
    isSmall_of_mem hword x (List.mem_cons_of_mem c hx)
  have hne : rest ≠ [] := ne_nil_of_two_le hlong
  have hall : ∀ x ∈ d :: rest ++ capitalized ws, x.isAlphanum = true := by
    intro x hx
    rcases List.mem_append.1 hx with hx | hx
    · rcases List.mem_cons.1 hx with rfl | hx
      · exact hd
      · exact isAlphanum_of_isSmall (hrest x hx)
    · exact isAlphanum_of_mem_capitalized hws hx
  have hunder : '_' ∉ d :: rest ++ capitalized ws := fun hm => absurd (hall '_' hm) (by decide)
  have hfirst : lowercase (d :: rest) = c :: rest := by
    have hascii : ∀ x ∈ d :: rest, x.toNat < 128 := fun x hx =>
      lt_of_isAlphanum (hall x (List.mem_append_left _ hx))
    rw [lowercase_cons hascii, hcd, lowercase_of_isSmall hrest]
  have hothers : (ws.map (mapHead toUpper)).map lowercase = ws := by
    rw [List.map_map]
    refine (List.map_congr_left fun w hw => ?_).trans (List.map_id ws)
    exact lowercase_mapHead_toUpper (hws w hw)
  have hcamel : d :: rest ++ capitalized ws ≠ [] := List.cons_ne_nil d _
  have hsnake : snakeWords (d :: rest ++ capitalized ws) = (c :: rest) :: ws := by
    rw [snakeWords_of_notMem hcamel hunder,
      words_append_capitalized hrest hne hws hlens, List.map_cons, hfirst, hothers]
  rw [snakeCase_eq, hsnake, h.joined]

section

variable (h : Spells ws cs)

include h

theorem Spells.exists_cons :
    ∃ c rest vs, ws = (c :: rest) :: vs ∧ c.isLower = true ∧
      Text.upperCamel cs = c.toUpper :: (rest ++ capitalized vs) ∧
      lowerCamel cs = c :: (rest ++ capitalized vs) := by
  obtain ⟨w, vs, rfl⟩ := List.exists_cons_of_ne_nil h.ne_nil
  obtain ⟨c, rest, rfl, hc, -⟩ := exists_of_isWireWord (h.isWireWord w List.mem_cons_self)
  have hcamel : Text.upperCamel cs = c.toUpper :: (rest ++ capitalized vs) :=
    h.upperCamel.trans (capitalized_cons hc)
  refine ⟨c, rest, vs, rfl, hc, hcamel, ?_⟩
  rw [lowerCamel, hcamel, mapHead_toLower (lt_of_isUpper (isUpper_toUpper hc)), toLower_toUpper hc]

theorem Spells.snakeCase_upperCamel (hlen : ∀ w ∈ ws, 2 ≤ w.length) :
    snakeCase (Text.upperCamel cs) = cs := by
  obtain ⟨c, rest, vs, rfl, hc, hcamel, -⟩ := h.exists_cons
  have hu : c.toUpper.isAlphanum = true := isAlphanum_iff.2 (.inl (.inl (isUpper_toUpper hc)))
  rw [hcamel]
  exact h.snakeCase_append hlen hu (toLower_toUpper hc)

theorem Spells.snakeCase_lowerCamel (hlen : ∀ w ∈ ws, 2 ≤ w.length) :
    snakeCase (lowerCamel cs) = cs := by
  obtain ⟨c, rest, vs, rfl, hc, -, hcamel⟩ := h.exists_cons
  have hlow : c.toLower = c :=
    toLower_of_isUpper_eq_false (lt_of_isLower hc) (isUpper_of_isLower hc)
  rw [hcamel]
  exact h.snakeCase_append hlen (isAlphanum_iff.2 (.inl (.inr hc))) hlow

/-- The capital of the first word is put back. -/
theorem Spells.mapHead_lowerCamel : mapHead toUpper (lowerCamel cs) = Text.upperCamel cs := by
  obtain ⟨c, rest, vs, rfl, hc, hupper, hlower⟩ := h.exists_cons
  rw [hlower, hupper, mapHead_toUpper (lt_of_isLower hc)]

end

end Text

open Schema Text

variable {s t : String}

def WireName (s : String) : Prop := ∃ ws, Spells ws s.toList

theorem upperCamel_inj (hs : WireName s) (ht : WireName t) (h : upperCamel s = upperCamel t) :
    s = t := by
  obtain ⟨ws, hs⟩ := hs
  obtain ⟨vs, ht⟩ := ht
  have hcamel : Text.upperCamel s.toList = Text.upperCamel t.toList := String.ofList_injective h
  rw [hs.upperCamel, ht.upperCamel] at hcamel
  have hwords : ws = vs := capitalized_inj hs.isWireWord ht.isWireWord hcamel
  rw [← String.toList_inj, hs.joined, ht.joined, hwords]

theorem lowerCamel_inj (hs : WireName s) (ht : WireName t) (h : lowerCamel s = lowerCamel t) :
    s = t := by
  have hcamel : Text.lowerCamel s.toList = Text.lowerCamel t.toList := String.ofList_injective h
  have hupper {r : String} (hr : WireName r) :
      Text.upperCamel r.toList = mapHead toUpper (Text.lowerCamel r.toList) :=
    hr.elim fun _ h => h.mapHead_lowerCamel.symm
  refine upperCamel_inj hs ht (congrArg String.ofList ?_)
  rw [hupper hs, hupper ht, hcamel]

theorem snakeCase_upperCamel {ws : List (List Char)} (h : Spells ws s.toList)
    (hlen : ∀ w ∈ ws, 2 ≤ w.length) : snakeCase (upperCamel s) = s := by
  rw [snakeCase, toList_upperCamel, h.snakeCase_upperCamel hlen, String.ofList_toList]

theorem snakeCase_lowerCamel {ws : List (List Char)} (h : Spells ws s.toList)
    (hlen : ∀ w ∈ ws, 2 ≤ w.length) : snakeCase (lowerCamel s) = s := by
  rw [snakeCase, toList_lowerCamel, h.snakeCase_lowerCamel hlen, String.ofList_toList]

namespace Schema.MethodEntry

variable {fs : List Field} {m : MethodEntry}

/-- The fields of a struct are told apart, since all of them take the same case. -/
theorem nodup_bindingNames {required : Bool} (hreq : ∀ f ∈ fs, f.required = required)
    (hwire : ∀ f ∈ fs, WireName f.name) (h : (fs.map (·.name)).Nodup) :
    ((fs.map Field.parameter).map (·.bindingName)).Nodup := by
  rw [List.map_map]
  have hpair : fs.Pairwise fun f g => f.name ≠ g.name := List.pairwise_map.1 h
  refine List.pairwise_map.2 (hpair.imp_of_mem fun {f g} hf hg hne he => hne ?_)
  change (if f.required then lowerCamel f.name else upperCamel f.name) =
    (if g.required then lowerCamel g.name else upperCamel g.name) at he
  rw [hreq f hf, hreq g hg] at he
  cases required with
  | true => exact lowerCamel_inj (hwire f hf) (hwire g hg) he
  | false => exact upperCamel_inj (hwire f hf) (hwire g hg) he

variable (hwire : ∀ f ∈ m.fieldList, WireName f.name) (h : (m.fieldList.map (·.name)).Nodup)

include hwire h

theorem nodup_bindingNames_params :
    (m.binding.signature.params.map (·.bindingName)).Nodup := by
  rw [params_binding]
  exact nodup_bindingNames (fun f hf => (List.mem_filter.1 hf).2)
    (fun f hf => hwire f (List.mem_filter.1 hf).1) (h.sublist (List.filter_sublist.map _))

theorem nodup_bindingNames_options :
    ∀ o ∈ m.binding.options, (o.fields.map (·.bindingName)).Nodup := by
  intro o ho
  rw [options_binding_eq] at ho
  split at ho
  · cases ho
  · have hoptional : ∀ f ∈ m.optionalFields, f.required = false := fun f hf => by
      simpa using (List.mem_filter.1 hf).2
    cases ho
    exact nodup_bindingNames hoptional (fun f hf => hwire f (List.mem_filter.1 hf).1)
      (h.sublist (List.filter_sublist.map _))

end Schema.MethodEntry

open Compile

/-- Names as in `chat_id` are told apart in both cases, so a method whose parameters have such names
has no two of one name in its signature, nor in its options. Those of longer words come back from
both. -/
theorem wireName_tellsApart :
    (∀ s t, WireName s → WireName t → upperCamel s = upperCamel t → s = t) ∧
    (∀ s t, WireName s → WireName t → lowerCamel s = lowerCamel t → s = t) ∧
    (∀ (r : Session) (m : MethodEntry) (b : MethodBinding), (exec (bindMethod m) r).1 = .ok b →
      (∀ f ∈ m.fieldList, WireName f.name) → (m.fieldList.map (·.name)).Nodup →
        (b.signature.params.map (·.bindingName)).Nodup ∧
        ∀ o ∈ b.options, (o.fields.map (·.bindingName)).Nodup) ∧
    ∀ s ws, Spells ws s.toList → (∀ w ∈ ws, 2 ≤ w.length) →
      snakeCase (upperCamel s) = s ∧ snakeCase (lowerCamel s) = s := by
  refine ⟨fun s t => upperCamel_inj, fun s t => lowerCamel_inj, fun r m b hb hwire h => ?_,
    fun s ws h hlen => ⟨snakeCase_upperCamel h hlen, snakeCase_lowerCamel h hlen⟩⟩
  obtain ⟨-, -, rfl⟩ := exec_bindMethod_eq_ok_iff.1 hb
  exact ⟨MethodEntry.nodup_bindingNames_params hwire h,
    MethodEntry.nodup_bindingNames_options hwire h⟩

/-- Words of one letter are not found again. -/
example : snakeCase (upperCamel "a_b") = "ab" := by decide

/-- Words that end in a digit or have one letter, in the signature and in the options. -/
def moveSticker : MethodEntry where
  name := "moveSticker"
  fields := some [⟨"chat_id", ["Integer"], true, ""⟩, ⟨"x_shift", ["Float"], false, ""⟩,
    ⟨"set2_id", ["String"], true, ""⟩, ⟨"y_shift", ["Float"], false, ""⟩]
  returns := ["Boolean"]

theorem wireName_tellsApart_moveSticker :
    ∃ b, (exec (bindMethod moveSticker) ⟨.ofNames [], []⟩).1 = .ok b ∧
      b.signature.params.map (·.bindingName) = ["chatId", "set2Id"] ∧
      (b.options.toList.flatMap fun o => o.fields.map (·.bindingName)) = ["XShift", "YShift"] ∧
      (b.signature.params.map (·.bindingName)).Nodup ∧
      (∀ o ∈ b.options, (o.fields.map (·.bindingName)).Nodup) ∧
      (upperCamel "x_shift" = upperCamel "y_shift" → "x_shift" = "y_shift") ∧
      (lowerCamel "x_shift" = lowerCamel "y_shift" → "x_shift" = "y_shift") ∧
      snakeCase (upperCamel "set2_id") = "set2_id" := by
  have h : (exec (bindMethod moveSticker) ⟨.ofNames [], []⟩).1 = .ok moveSticker.binding :=
    exec_bindMethod_eq_ok_iff.2 ⟨⟨by decide, by decide⟩, by decide, rfl⟩
  have hx : WireName "x_shift" :=
    ⟨["x".toList, "shift".toList], by decide, by decide, by decide⟩
  have hy : WireName "y_shift" :=
    ⟨["y".toList, "shift".toList], by decide, by decide, by decide⟩
  have hset : Spells ["set2".toList, "id".toList] "set2_id".toList :=
    ⟨by decide, by decide, by decide⟩
  have hchat : WireName "chat_id" :=
    ⟨["chat".toList, "id".toList], by decide, by decide, by decide⟩
  have hwire : ∀ f ∈ moveSticker.fieldList, WireName f.name := by
    simpa [moveSticker, MethodEntry.fieldList] using ⟨hchat, hx, ⟨_, hset⟩, hy⟩
  obtain ⟨hupper, hlower, hmethod, hback⟩ := wireName_tellsApart
  obtain ⟨hparams, hoptions⟩ := hmethod _ moveSticker _ h hwire (by decide)
  exact ⟨_, h, by decide, by decide, hparams, hoptions, hupper _ _ hx hy, hlower _ _ hx hy,
    (hback _ _ hset (by decide)).1⟩

end BotBindings
