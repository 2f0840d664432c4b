import BotBindings.Proofs.NumberText
import BotBindings.Proofs.StringText

namespace BotBindings.Json

variable {c : Char} {cs rest : List Char} {n : Nat} {behind : Bool}

/-- A character that begins a value, and so neither stands between the items of a list nor ends it. -/
structure Opens (c : Char) : Prop where
  space : isSpace c = false
  listEnd : c ≠ ']'
  comma : c ≠ ','

theorem isSpace_cases (h : isSpace c = true) : c = ' ' ∨ c = '\t' ∨ c = '\n' ∨ c = '\r' := by
  simpa [isSpace, or_assoc] using h

theorem opens_of_isDigit (hc : c.isDigit = true) : Opens c where
  space := by
    rw [Bool.eq_false_iff]
    intro hs
    rcases isSpace_cases hs with rfl | rfl | rfl | rfl <;> cases hc
  listEnd := ne_of_isDigit hc (by decide)
  comma := ne_of_isDigit hc (by decide)

theorem Numeral.exists_magnitude_cons (m : Numeral) :
    ∃ c cs, m.magnitude = c :: cs ∧ c.isDigit = true := by
  obtain ⟨c, ds, hn, hc, -⟩ := decimal_cases m.whole
  exact ⟨c, _, by rw [magnitude, hn, List.cons_append], hc⟩

theorem NumberText.exists_magnitude_cons (m : NumberText) :
    ∃ c cs, m.magnitude = c :: cs ∧ c.isDigit = true := by
  obtain ⟨c, ds, hn, hc, -⟩ := m.whole.exists_cons
  exact ⟨c, _, by rw [magnitude, hn, List.cons_append], hc⟩

/-- A number begins with its sign or a digit. -/
theorem NumberText.exists_text_cons (m : NumberText) :
    ∃ c cs, m.text = c :: cs ∧ (c = '-' ∨ c.isDigit = true) := by
  unfold text
  cases m.negative with
  | true => exact ⟨'-', _, rfl, .inl rfl⟩
  | false =>
    obtain ⟨c, cs, hm, hc⟩ := m.exists_magnitude_cons
    exact ⟨c, cs, hm, .inr hc⟩

theorem Written.exists_text_cons (w : Written) : ∃ c cs, w.text = c :: cs ∧ Opens c := by
  have hword : ∀ c ∈ ['n', 't', 'f', '"', '-', '[', '\x7b'], Opens c := by
    intro c hc
    simp only [List.mem_cons, List.not_mem_nil, or_false] at hc
    rcases hc with rfl | rfl | rfl | rfl | rfl | rfl | rfl <;> constructor <;> decide
  match w with
  | .null => exact ⟨_, _, rfl, hword 'n' (by decide)⟩
  | .bool true => exact ⟨_, _, rfl, hword 't' (by decide)⟩
  | .bool false => exact ⟨_, _, rfl, hword 'f' (by decide)⟩
  | .string gs => exact ⟨_, _, rfl, hword '"' (by decide)⟩
  | .array items close => exact ⟨_, _, rfl, hword '[' (by decide)⟩
  | .object members close => exact ⟨_, _, rfl, hword '\x7b' (by decide)⟩
  | .number m =>
    obtain ⟨c, cs, hm, hc⟩ := m.exists_text_cons
    refine ⟨c, cs, hm, ?_⟩
    rcases hc with rfl | hc
    · exact hword '-' (by decide)
    · exact opens_of_isDigit hc

theorem Written.text_pos (w : Written) : 0 < w.text.length := by
  obtain ⟨c, cs, hw, -⟩ := w.exists_text_cons
  rw [hw]
  exact Nat.succ_pos _

theorem skipSpace_cons (hc : isSpace c = false) : skipSpace (c :: cs) = c :: cs := by
  rw [skipSpace, List.dropWhile_cons, hc]
  rfl

theorem skipSpace_space (sp : Space) (cs : List Char) : skipSpace (sp.1 ++ cs) = skipSpace cs :=
  List.dropWhile_append_of_pos sp.2

theorem skipSpace_text (w : Written) (rest : List Char) :
    skipSpace (w.text ++ rest) = w.text ++ rest := by
  obtain ⟨c, cs, hw, hc⟩ := w.exists_text_cons
  rw [hw, List.cons_append, skipSpace_cons hc.space]

theorem skipSpace_space_text (sp : Space) (w : Written) (rest : List Char) :
    skipSpace (sp.1 ++ (w.text ++ rest)) = w.text ++ rest := by
  rw [skipSpace_space, skipSpace_text]

theorem skipSpace_gap_true (g : Gap) (cs : List Char) :
    skipSpace (g.text true ++ cs) = ',' :: (g.behind.1 ++ cs) := by
  rw [Gap.text, List.append_assoc, skipSpace_space]
  rfl

theorem skipSpace_gap_false (g : Gap) (cs : List Char) :
    skipSpace (g.text false ++ cs) = skipSpace cs := by
  rw [Gap.text, List.append_assoc, skipSpace_space]
  exact skipSpace_space g.behind cs

theorem skipSpace_close (close : Space) {c : Char} (hc : isSpace c = false) (rest : List Char) :
    skipSpace (close.1 ++ [c] ++ rest) = c :: rest := by
  rw [List.append_assoc, skipSpace_space]
  exact skipSpace_cons hc

theorem keyText_append (k : KeyText) (cs : List Char) :
    k.text ++ cs = '"' :: (Glyph.tail k.glyphs ++ (k.before.1 ++ ':' :: (k.behind.1 ++ cs))) := by
  rw [KeyText.text, List.cons_append, List.append_assoc, List.append_assoc, List.cons_append]

theorem readColon_space (before : Space) (cs : List Char) :
    readColon (before.1 ++ ':' :: cs) = .ok cs := by
  rw [readColon, skipSpace_space]
  rfl

theorem endsNumber_cons_of_isSpace (hc : isSpace c = true) : EndsNumber (c :: cs) := by
  intro d hd
  obtain rfl := Option.some.inj hd
  rcases isSpace_cases hc with rfl | rfl | rfl | rfl <;> decide

theorem endsNumber_space (sp : Space) (h : EndsNumber rest) : EndsNumber (sp.1 ++ rest) := by
  obtain ⟨cs, hcs⟩ := sp
  cases cs with
  | nil => exact h
  | cons c cs => exact endsNumber_cons_of_isSpace (hcs c List.mem_cons_self)

theorem endsNumber_gap (g : Gap) (cs : List Char) : EndsNumber (g.text true ++ cs) := by
  rw [Gap.text, List.append_assoc]
  exact endsNumber_space g.before fun c hc => by cases hc; decide

theorem endsNumber_itemsText (close : Space) (items : List (Gap × Written)) (rest : List Char) :
    EndsNumber (itemsText close true items ++ rest) := by
  cases items with
  | nil =>
    rw [itemsText, List.append_assoc]
    exact endsNumber_space close fun c hc => by cases hc; decide
  | cons i items =>
    rw [itemsText, List.append_assoc]
    exact endsNumber_gap i.1 _

theorem endsNumber_membersText (close : Space) (members : List (KeyText × Written))
    (rest : List Char) : EndsNumber (membersText close true members ++ rest) := by
  cases members with
  | nil =>
    rw [membersText, List.append_assoc]
    exact endsNumber_space close fun c hc => by cases hc; decide
  | cons m members =>
    rw [membersText, List.append_assoc]
    exact endsNumber_gap m.1.gap _

theorem itemsText_pos (close : Space) (behind : Bool) (items : List (Gap × Written)) :
    0 < (itemsText close behind items).length := by
  cases items with
  | nil =>
    rw [itemsText, List.length_append]
    exact Nat.succ_pos _
  | cons i items =>
    have hw : 0 < i.2.text.length := i.2.text_pos
    rw [itemsText, List.length_append, List.length_append]
    omega

theorem membersText_pos (close : Space) (behind : Bool) (members : List (KeyText × Written)) :
    0 < (membersText close behind members).length := by
  cases members with
  | nil =>
    rw [membersText, List.length_append]
    exact Nat.succ_pos _
  | cons m members =>
    have hw : 0 < m.2.text.length := m.2.text_pos
    rw [membersText, List.length_append, List.length_append, List.length_append]
    omega

theorem passValue_space (sp : Space) (n : Nat) (w : Written) (rest : List Char) :
    passValue (n + 1) (sp.1 ++ (w.text ++ rest)) = passValue (n + 1) (w.text ++ rest) := by
  rw [passValue, passValue, skipSpace_space]

theorem passValue_digit (hc : c.isDigit = true) :
    passValue (n + 1) (c :: cs) = passNumber (c :: cs) := by
  have hs : skipSpace (c :: cs) = c :: cs := skipSpace_cons (opens_of_isDigit hc).space
  rw [passValue, hs]
  dsimp only
  rw [if_neg (ne_of_isDigit hc (by decide)), if_neg (ne_of_isDigit hc (by decide)),
    if_neg (ne_of_isDigit hc (by decide)), if_neg (ne_of_isDigit hc (by decide)),
    if_neg (ne_of_isDigit hc (by decide)), if_pos hc]

theorem passValue_number (m : NumberText) (h : EndsNumber rest) :
    passValue (n + 1) (m.text ++ rest) = .ok rest := by
  have hm : passNumber (m.magnitude ++ rest) = .ok rest := passNumber_magnitude m h
  unfold NumberText.text
  cases m.negative with
  | true => exact hm
  | false =>
    obtain ⟨c, cs, hcs, hc⟩ := m.exists_magnitude_cons
    rw [hcs] at hm ⊢
    exact (passValue_digit hc).trans hm

theorem passItems_true (g : Gap) (n : Nat) (cs : List Char) :
    passItems (n + 1) true (g.text true ++ cs) =
      (passValue n (g.behind.1 ++ cs) >>= fun rest => passItems n true rest) := by
  rw [passItems, skipSpace_gap_true]
  rfl

/-- Without a comma in front, it takes a look at the value to see that the list is not empty. -/
theorem passItems_false (g : Gap) (n : Nat) (w : Written) (cs : List Char) :
    passItems (n + 1) false (g.text false ++ (w.text ++ cs)) =
      (passValue n (w.text ++ cs) >>= fun rest => passItems n true rest) := by
  obtain ⟨c, ds, hw, hc⟩ := w.exists_text_cons
  rw [passItems, skipSpace_gap_false, skipSpace_text, hw, List.cons_append]
  dsimp only
  rw [if_neg hc.listEnd]
  rfl

theorem passMember_text (k : KeyText) (n : Nat) (cs : List Char) :
    passMember (n + 1) (k.text ++ cs) =
      (passValue n (k.behind.1 ++ cs) >>= fun rest => passMembers n true rest) := by
  rw [keyText_append, passMember, if_pos rfl, passString_tail]
  change (readColon _ >>= _) = _
  rw [readColon_space]
  rfl

theorem passMembers_text (k : KeyText) (n : Nat) (behind : Bool) (cs : List Char) :
    passMembers (n + 1) behind (k.gap.text behind ++ (k.text ++ cs)) =
      passMember n (k.text ++ cs) := by
  have hkey : skipSpace (k.text ++ cs) = k.text ++ cs := skipSpace_cons (by decide)
  cases behind with
  | true =>
    rw [passMembers, skipSpace_gap_true]
    change passMember n (skipSpace (k.gap.behind.1 ++ (k.text ++ cs))) = _
    rw [skipSpace_space, hkey]
  | false =>
    rw [passMembers, skipSpace_gap_false, hkey]
    rfl

/-! The induction is on the tree. At each part of it the bound is at least the length of the text that
the part has, and no part is without text. -/

mutual

theorem passValue_text (w : Written) (sp : Space) (n : Nat) (rest : List Char)
    (hn : w.text.length ≤ n) (h : EndsNumber rest) :
    passValue n (sp.1 ++ (w.text ++ rest)) = .ok rest := by
  have hpos : 0 < w.text.length := w.text_pos
  obtain ⟨n, rfl⟩ : ∃ m, n = m + 1 := ⟨n - 1, by omega⟩
  rw [passValue_space]
  match w with
  | .null => rfl
  | .bool true => rfl
  | .bool false => rfl
  | .number m => exact passValue_number m h
  | .string gs => exact passString_tail gs rest
  | .array items close =>
    rw [Written.text] at hn ⊢
    exact passItems_itemsText items close false n rest (Nat.le_of_succ_le_succ hn)
  | .object members close =>
    rw [Written.text] at hn ⊢
    exact passMembers_membersText members close false n rest (Nat.le_of_succ_le_succ hn)

theorem passItems_itemsText (items : List (Gap × Written)) (close : Space) (behind : Bool) (n : Nat)
    (rest : List Char) (hn : (itemsText close behind items).length ≤ n) :
    passItems n behind (itemsText close behind items ++ rest) = .ok rest := by
  have hpos : 0 < (itemsText close behind items).length := itemsText_pos close behind items
  obtain ⟨n, rfl⟩ : ∃ m, n = m + 1 := ⟨n - 1, by omega⟩
  match items with
  | [] =>
    rw [itemsText, passItems, skipSpace_close close (by decide)]
    rfl
  | (g, w) :: items =>
    have hitems : 0 < (itemsText close true items).length := itemsText_pos close true items
    have hw : 0 < w.text.length := w.text_pos
    rw [itemsText, List.length_append, List.length_append] at hn
    have hvalue (sp : Space) : passValue n (sp.1 ++ (w.text ++ (itemsText close true items ++ rest))) =
        .ok (itemsText close true items ++ rest) :=
      passValue_text w sp n _ (by omega) (endsNumber_itemsText close items rest)
    have hrest : passItems n true (itemsText close true items ++ rest) = .ok rest :=
      passItems_itemsText items close true n rest (by omega)
    rw [itemsText, List.append_assoc, List.append_assoc]
    cases behind with
    | true =>
      rw [passItems_true, hvalue]
      exact hrest
    | false =>
      have hplain : passValue n (w.text ++ (itemsText close true items ++ rest)) = _ :=
        hvalue Space.none
      rw [passItems_false, hplain]
      exact hrest

theorem passMembers_membersText (members : List (KeyText × Written)) (close : Space)
    (behind : Bool) (n : Nat) (rest : List Char)
    (hn : (membersText close behind members).length ≤ n) :
    passMembers n behind (membersText close behind members ++ rest) = .ok rest := by
  have hpos : 0 < (membersText close behind members).length :=
    membersText_pos close behind members
  obtain ⟨n, rfl⟩ : ∃ m, n = m + 1 := ⟨n - 1, by omega⟩
  match members with
  | [] =>
    rw [membersText, passMembers, skipSpace_close close (by decide)]
    rfl
  | (k, w) :: members =>
    have hmembers : 0 < (membersText close true members).length :=
      membersText_pos close true members
    have hw : 0 < w.text.length := w.text_pos
    have hkey : 0 < k.text.length := Nat.succ_pos _
    rw [membersText, List.length_append, List.length_append, List.length_append] at hn
    obtain ⟨n, rfl⟩ : ∃ m, n = m + 1 := ⟨n - 1, by omega⟩
    have hvalue : passValue n (k.behind.1 ++ (w.text ++ (membersText close true members ++ rest))) =
        .ok (membersText close true members ++ rest) :=
      passValue_text w k.behind n _ (by omega) (endsNumber_membersText close members rest)
    have hrest : passMembers n true (membersText close true members ++ rest) = .ok rest :=
      passMembers_membersText members close true n rest (by omega)
    rw [membersText, List.append_assoc, List.append_assoc, List.append_assoc, passMembers_text,
      passMember_text, hvalue]
    exact hrest

end

end BotBindings.Json
