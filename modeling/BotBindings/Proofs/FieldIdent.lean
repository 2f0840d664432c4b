import BotBindings.Proofs.Ident

namespace BotBindings.Code

open Text

variable {i : Ident} {s : String} {cs : List Char} {parse : List Char → Option Ident}

theorem isPlain_of_mem_underscored {c : Char} (h : c ∈ underscored cs) : isPlain c = true := by
  obtain ⟨d, -, rfl⟩ := List.mem_map.1 h
  split
  · next hd => exact hd
  · rfl

/-- An underscore stands for each character that is left out. -/
theorem underscored_eq_self (h : '_' ∉ underscored cs) : underscored cs = cs := by
  have hid : ∀ c ∈ cs, (if c.isAlphanum || c == '_' then c else '_') = c := by
    intro c hc
    split
    · rfl
    · next hd =>
      refine absurd (List.mem_map.2 ⟨c, hc, ?_⟩) h
      exact if_neg hd
  exact (List.map_congr_left hid).trans (List.map_id cs)

/-- The text with an underscore in front of it if it is empty or starts with a digit. -/
def fronted (cs : List Char) : List Char :=
  if cs.isEmpty || cs.head?.any Char.isDigit then '_' :: cs else cs

theorem completed_eq :
    completed cs =
      if (fronted cs).all (· == '_') then fronted cs ++ "field".toList else fronted cs := rfl

theorem isIdent_fronted (h : ∀ c ∈ cs, isPlain c = true) : Text.isIdent (fronted cs) = true := by
  unfold fronted
  split
  · exact isIdent_cons.2 ⟨rfl, fun x hx => isIdentRest_of_isPlain (h x hx)⟩
  · next hd =>
    cases cs with
    | nil => exact absurd rfl hd
    | cons c rest =>
      have hc : c.isDigit = false := by simpa using hd
      refine isIdent_cons.2 ⟨isIdentStart_of_isPlain (h c List.mem_cons_self) hc, fun x hx => ?_⟩
      exact isIdentRest_of_isPlain (h x (List.mem_cons_of_mem c hx))

theorem isIdent_completed (h : ∀ c ∈ cs, isPlain c = true) :
    Text.isIdent (completed cs) = true := by
  have hfield : ∀ x ∈ "field".toList, isIdentRest x = true := List.all_eq_true.1 (by decide)
  rw [completed_eq]
  split
  · exact isIdent_append (isIdent_fronted h) hfield
  · exact isIdent_fronted h

/-- What is completed has an underscore. -/
theorem completed_eq_self (h : '_' ∉ completed cs) : completed cs = cs := by
  have hf : '_' ∉ fronted cs := by
    rw [completed_eq] at h
    split at h
    · exact fun hm => h (List.mem_append_left _ hm)
    · exact h
  have hcs : fronted cs = cs ∧ cs ≠ [] := by
    unfold fronted at hf ⊢
    split at hf
    · exact absurd List.mem_cons_self hf
    · next hd =>
      rw [if_neg hd]
      refine ⟨rfl, ?_⟩
      rintro rfl
      exact hd rfl
  have hall : ¬ (fronted cs).all (· == '_') = true := by
    rw [hcs.1] at hf ⊢
    obtain ⟨c, rest, rfl⟩ := List.exists_cons_of_ne_nil hcs.2
    intro ha
    rw [List.all_cons, Bool.and_eq_true, beq_iff_eq] at ha
    exact hf (ha.1 ▸ List.mem_cons_self)
  rw [completed_eq, if_neg hall, hcs.1]

theorem completed_ne : completed cs ≠ ['_'] := by
  rw [completed_eq]
  split
  · intro h
    have hl := congrArg List.length h
    simp at hl
  · next ha =>
    intro h
    rw [h] at ha
    exact ha rfl

/-- What is no identifier of its own makes one that is no keyword. -/
theorem isKeyword_completed (h : Text.isIdent cs = false) :
    Ident.isKeyword ⟨false, String.ofList (completed (underscored cs))⟩ = false := by
  have hk : ∀ k ∈ keywords, '_' ∈ k.toList → k.toList = ['_'] := by decide
  apply Ident.isKeyword_eq_false_iff.2
  intro hm
  by_cases hu : '_' ∈ completed (underscored cs)
  · have he := hk _ hm (by rwa [String.toList_ofList])
    rw [String.toList_ofList] at he
    exact completed_ne he
  · -- nothing was replaced or added, so the text was an identifier before
    have he : completed (underscored cs) = underscored cs := completed_eq_self hu
    have hs : underscored cs = cs := underscored_eq_self (he ▸ hu)
    have hi : Text.isIdent (completed (underscored cs)) = true :=
      isIdent_completed fun c => isPlain_of_mem_underscored
    rw [he, hs, h] at hi
    cases hi

/-- The identifier of these letters, which may spell a keyword. -/
def Ident.ofLetters (s : String) : Except IdentFault Ident := do
  checkIdent s.toList
  return ⟨false, s⟩

theorem Ident.ofLetters_of_isIdent (h : Text.isIdent s.toList = true) :
    ofLetters s = .ok ⟨false, s⟩ := by
  rw [ofLetters, checkIdent_eq_ok_iff.2 h]
  rfl

theorem Ident.eq_of_ofLetters (h : ofLetters s = .ok i) : i = ⟨false, s⟩ := by
  obtain ⟨-, h⟩ := unit_bind_eq_ok_iff.1 h
  cases h
  rfl

/-- A reader of identifiers that are no keywords. It reads each of them from its text, and gives no
others, whatever it leaves out around them. -/
structure ReadsIdents (parse : List Char → Option Ident) : Prop where
  reads : ∀ i : Ident, i.Legal → i.isKeyword = false → parse i.text.toList = some i
  legal : ∀ cs i, parse cs = some i → i.Legal ∧ i.isKeyword = false
  keyword : ∀ s ∈ keywords, parse s.toList = none

/-- The identifier for a name by a reader. It fails where letters are taken for an identifier and
are none. -/
def fieldIdentBy (parse : List Char → Option Ident) (name : String) : Except IdentFault Ident :=
  if neverRaw.contains name then Ident.ofLetters (name ++ "_")
  else
    match parse name.toList with
    | some i => .ok i
    | none =>
      match parse ("r#" ++ name).toList with
      | some i => .ok i
      | none => Ident.ofLetters (String.ofList (completed (underscored name.toList)))

section

variable (h : ReadsIdents parse)

include h

/-- An identifier is found for any name. -/
theorem ReadsIdents.exists_fieldIdentBy (name : String) :
    ∃ i, fieldIdentBy parse name = .ok i ∧ i.Legal ∧ i.isKeyword = false := by
  -- the words that have no raw form take an underscore
  have hbare : ∀ n ∈ neverRaw, Text.isIdent (n ++ "_").toList = true ∧ n ++ "_" ∉ keywords := by
    decide
  unfold fieldIdentBy
  split
  · next hn =>
    obtain ⟨hi, hk⟩ := hbare name (List.contains_iff_mem.1 hn)
    exact ⟨_, Ident.ofLetters_of_isIdent hi, Ident.legal_of_isIdent hi,
      Ident.isKeyword_eq_false_iff.2 hk⟩
  · next hn =>
    split
    · next i hi => exact ⟨i, rfl, h.legal _ _ hi⟩
    · split
      · next i hi => exact ⟨i, rfl, h.legal _ _ hi⟩
      · next hraw =>
        -- an identifier would have had its raw form here
        have hname : Text.isIdent name.toList = false := by
          rw [← Bool.not_eq_true]
          intro hi
          have hlegal : Ident.Legal ⟨true, name⟩ :=
            ⟨hi, fun _ hm => hn (List.contains_iff_mem.2 hm)⟩
          have hread := h.reads _ hlegal (Ident.isKeyword_of_raw rfl)
          rw [Ident.text, if_pos rfl, hraw] at hread
          cases hread
        have hletters :
            Text.isIdent (String.ofList (completed (underscored name.toList))).toList = true := by
          rw [String.toList_ofList]
          exact isIdent_completed fun c => isPlain_of_mem_underscored
        exact ⟨_, Ident.ofLetters_of_isIdent hletters, Ident.legal_of_isIdent hletters,
          isKeyword_completed hname⟩

/-- An identifier that has a raw form stays as it is, which is raw just for a keyword. -/
theorem ReadsIdents.fieldIdentBy_of_isIdent (hi : Text.isIdent s.toList = true)
    (hn : s ∉ neverRaw) : fieldIdentBy parse s = .ok ⟨keywords.contains s, s⟩ := by
  rw [fieldIdentBy, if_neg fun hm => hn (List.contains_iff_mem.1 hm)]
  cases hk : keywords.contains s with
  | true =>
    have hraw : parse ("r#" ++ s).toList = some ⟨true, s⟩ :=
      h.reads ⟨true, s⟩ ⟨hi, fun _ => hn⟩ (Ident.isKeyword_of_raw rfl)
    rw [h.keyword s (List.contains_iff_mem.1 hk), hraw]
  | false =>
    have hplain : parse s.toList = some ⟨false, s⟩ :=
      h.reads _ (Ident.legal_of_isIdent hi) (by rw [Ident.isKeyword, hk, Bool.and_false])
    rw [hplain]

end

theorem soleIdent?_append (name : String) :
    soleIdent? ("r#" ++ name).toList = rawIdent? name.toList := by
  rw [String.toList_append]
  exact soleIdent?_raw name.toList

theorem readsIdents_soleIdent? : ReadsIdents soleIdent? where
  reads := by
    rintro ⟨raw, name⟩ hlegal hk
    cases raw with
    | true =>
      rw [Ident.text, if_pos rfl, soleIdent?_append,
        rawIdent?_of_isIdent hlegal.isIdent (hlegal.hasRawForm rfl)]
    | false =>
      rw [Ident.isKeyword, Bool.not_false, Bool.true_and] at hk
      rw [Ident.text, if_neg Bool.false_ne_true, soleIdent?_of_isIdent hlegal.isIdent, hk]
      rfl
  legal _ _ := soleIdent?_eq_some
  keyword := by
    intro s hs
    have hi : ∀ k ∈ keywords, Text.isIdent k.toList = true := by decide
    rw [soleIdent?_of_isIdent (hi s hs), if_pos (List.contains_iff_mem.2 hs)]

theorem fieldIdentBy_soleIdent? (name : String) :
    fieldIdentBy soleIdent? name = .ok (fieldIdent name) := by
  obtain ⟨i, hi, -⟩ := readsIdents_soleIdent?.exists_fieldIdentBy name
  have he : i = fieldIdent name := by
    rw [fieldIdentBy, soleIdent?_append] at hi
    unfold fieldIdent
    split_ifs at hi ⊢
    · exact Ident.eq_of_ofLetters hi
    · cases hsole : soleIdent? name.toList with
      | some j =>
        rw [hsole] at hi
        exact (Except.ok.inj hi).symm
      | none =>
        rw [hsole] at hi
        cases hraw : rawIdent? name.toList with
        | some j =>
          rw [hraw] at hi
          exact (Except.ok.inj hi).symm
        | none =>
          rw [hraw] at hi
          exact Ident.eq_of_ofLetters hi
  rw [hi, he]

/-- The identifier for any name may stand in code, and is no keyword. -/
theorem legal_fieldIdent (name : String) :
    (fieldIdent name).Legal ∧ (fieldIdent name).isKeyword = false := by
  obtain ⟨i, hi, hlegal⟩ := readsIdents_soleIdent?.exists_fieldIdentBy name
  rw [fieldIdentBy_soleIdent?] at hi
  cases hi
  exact hlegal

theorem fieldIdent_of_isIdent (h : Text.isIdent s.toList = true) (hn : s ∉ neverRaw) :
    fieldIdent s = ⟨keywords.contains s, s⟩ := by
  have hi := readsIdents_soleIdent?.fieldIdentBy_of_isIdent h hn
  rw [fieldIdentBy_soleIdent?] at hi
  exact Except.ok.inj hi

/-- A name is the name of its identifier if it is an identifier and has a raw form. -/
theorem name_fieldIdent_iff :
    (fieldIdent s).name = s ↔ Text.isIdent s.toList = true ∧ s ∉ neverRaw := by
  constructor
  · intro h
    have hi : Text.isIdent (fieldIdent s).name.toList = true := (legal_fieldIdent s).1.isIdent
    rw [h] at hi
    refine ⟨hi, fun hm => ?_⟩
    rw [fieldIdent, if_pos (List.contains_iff_mem.2 hm)] at h
    have hl := congrArg String.length h
    simp at hl
  · rintro ⟨hi, hn⟩
    rw [fieldIdent_of_isIdent hi hn]

theorem Ident.name_ne_underscore (h : i.Legal) (hk : i.isKeyword = false) : i.name ≠ "_" := by
  obtain ⟨raw, name⟩ := i
  rintro rfl
  cases raw with
  | true => exact absurd (h.hasRawForm rfl) (by decide)
  | false => exact absurd hk (by decide)

theorem Ident.Legal.name_ne_empty (h : i.Legal) : i.name ≠ "" := by
  intro he
  have hi : Text.isIdent i.name.toList = true := h.isIdent
  rw [he] at hi
  cases hi

/-- However identifiers are read, one is found for any name, and code may hold it where no keyword
is meant. The identifier for a name that is one already, and has a raw form, goes by the same name. -/
theorem fieldIdent_total :
    ReadsIdents soleIdent? ∧
    (∀ name, fieldIdentBy soleIdent? name = .ok (fieldIdent name)) ∧
    ∀ parse, ReadsIdents parse →
      (∀ name, ∃ i, fieldIdentBy parse name = .ok i ∧ i.name ≠ "" ∧
        Text.isIdent i.name.toList = true ∧ i.name ≠ "_" ∧
        (i.raw = true ∧ i.name ∉ neverRaw ∨ i.raw = false ∧ i.name ∉ keywords)) ∧
      (∀ s, Text.isIdent s.toList = true → s ∉ neverRaw →
        ∃ i, fieldIdentBy parse s = .ok i ∧ i.name = s ∧
          i.text = if s ∈ keywords then "r#" ++ s else s) ∧
      ∀ s t i j, Text.isIdent s.toList = true → s ∉ neverRaw →
        Text.isIdent t.toList = true → t ∉ neverRaw →
        fieldIdentBy parse s = .ok i → fieldIdentBy parse t = .ok j → i.name = j.name → s = t := by
  refine ⟨readsIdents_soleIdent?, fieldIdentBy_soleIdent?, fun parse h => ⟨fun name => ?_,
    fun s hs hn => ?_, fun s t i j hs hn ht hn' hi hj he => ?_⟩⟩
  · obtain ⟨i, hi, hlegal, hk⟩ := h.exists_fieldIdentBy name
    refine ⟨i, hi, hlegal.name_ne_empty, hlegal.isIdent, Ident.name_ne_underscore hlegal hk, ?_⟩
    obtain ⟨raw, word⟩ := i
    cases raw with
    | true => exact .inl ⟨rfl, hlegal.hasRawForm rfl⟩
    | false => exact .inr ⟨rfl, Ident.isKeyword_eq_false_iff.1 hk⟩
  · refine ⟨_, h.fieldIdentBy_of_isIdent hs hn, rfl, ?_⟩
    simp only [Ident.text, List.contains_iff_mem]
  · rw [h.fieldIdentBy_of_isIdent hs hn] at hi
    rw [h.fieldIdentBy_of_isIdent ht hn'] at hj
    cases hi
    cases hj
    exact he

/-- A keyword, and a text that only ends in one. -/
theorem fieldIdent_total_type :
    ∃ i j, fieldIdentBy soleIdent? "type" = .ok i ∧ i.text = "r#type" ∧
      fieldIdentBy soleIdent? "2 /* of */ type" = .ok j ∧ j.text = "_2____of____type" ∧
      Text.isIdent j.name.toList = true ∧ j.name ≠ "_" ∧
      (fieldIdent "type").name ≠ (fieldIdent "chat_id").name := by
  obtain ⟨hreads, hsteps, hall⟩ := fieldIdent_total
  obtain ⟨hlegal, hkept, hapart⟩ := hall soleIdent? hreads
  obtain ⟨i, hi, -, htext⟩ := hkept "type" (by decide) (by decide)
  obtain ⟨j, hj, -, hident, hne, -⟩ := hlegal "2 /* of */ type"
  have hname : j.text = "_2____of____type" := by
    rw [hsteps] at hj
    cases hj
    decide +kernel
  refine ⟨i, j, hi, htext.trans (by decide), hj, hname, hident, hne, fun he => ?_⟩
  exact absurd (hapart "type" "chat_id" _ _ (by decide) (by decide) (by decide) (by decide)
    (hsteps "type") (hsteps "chat_id") he) (by decide)

end BotBindings.Code
