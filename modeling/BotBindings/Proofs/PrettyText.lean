import BotBindings.Proofs.Skip
import Mathlib.Data.List.Basic

/-!
The indented text of a JSON tree determines the tree. Each part of a text shows where it ends, so it
can be told from any other part whatever comes behind.
-/
namespace BotBindings.Json

variable {α : Type} {rest rest' : List Char}

/-- Whatever comes behind it, the text of `a` tells `a`, and what comes behind. It must not go on
the digits of a number. -/
def Determines (text : α → List Char) (a : α) : Prop :=
  ∀ b rest rest', EndsNumber rest → EndsNumber rest' →
    text a ++ rest = text b ++ rest' → a = b ∧ rest = rest'

theorem decimal_injective : Function.Injective decimal := by
  intro m n h
  have hm : Nat.ofDigitChars 10 (decimal m) 0 = m := Nat.ofDigitChars_ten_toDigits
  have hn : Nat.ofDigitChars 10 (decimal n) 0 = n := Nat.ofDigitChars_ten_toDigits
  rw [← hm, h, hn]

theorem digits_append_inj {ds es : List Char} (hd : ∀ d ∈ ds, d.isDigit = true)
    (he : ∀ d ∈ es, d.isDigit = true) (hr : ∀ c ∈ rest.head?, c.isDigit = false)
    (hr' : ∀ c ∈ rest'.head?, c.isDigit = false) (h : ds ++ rest = es ++ rest') :
    ds = es ∧ rest = rest' := by
  have hrest : rest = rest' := by
    rw [← dropDigits_append hd hr, h, dropDigits_append he hr']
  subst hrest
  exact ⟨List.append_cancel_right h, rfl⟩

theorem decimal_append_inj {m n : Nat} (hr : ∀ c ∈ rest.head?, c.isDigit = false)
    (hr' : ∀ c ∈ rest'.head?, c.isDigit = false) (h : decimal m ++ rest = decimal n ++ rest') :
    m = n ∧ rest = rest' := by
  obtain ⟨hmn, hrest⟩ := digits_append_inj (fun d hd => isDigit_of_mem_decimal hd)
    (fun d hd => isDigit_of_mem_decimal hd) hr hr' h
  exact ⟨decimal_injective hmn, hrest⟩

/-- A sign is told from a digit. -/
theorem sign_append_inj {p q : Prop} [Decidable p] [Decidable q]
    (hr : ∀ c ∈ rest.head?, c.isDigit = true) (hr' : ∀ c ∈ rest'.head?, c.isDigit = true)
    (h : (if p then ['-'] else []) ++ rest = (if q then ['-'] else []) ++ rest') :
    (p ↔ q) ∧ rest = rest' := by
  by_cases hp : p
  · by_cases hq : q
    · rw [if_pos hp, if_pos hq] at h
      exact ⟨iff_of_true hp hq, (List.cons.inj h).2⟩
    · rw [if_pos hp, if_neg hq] at h
      change '-' :: rest = rest' at h
      rw [← h] at hr'
      have hminus := hr' '-' rfl
      exact absurd hminus (by decide)
  · by_cases hq : q
    · rw [if_neg hp, if_pos hq] at h
      change rest = '-' :: rest' at h
      rw [h] at hr
      have hminus := hr '-' rfl
      exact absurd hminus (by decide)
    · rw [if_neg hp, if_neg hq] at h
      exact ⟨iff_of_false hp hq, h⟩

theorem isDigit_head_decimal (n : Nat) (rest : List Char) :
    ∀ c ∈ (decimal n ++ rest).head?, c.isDigit = true := by
  obtain ⟨d, ds, hn, hd, -⟩ := decimal_cases n
  rw [hn]
  rintro c ⟨⟩
  exact hd

theorem determines_powerText (e : Int) : Determines powerText e := by
  intro e' rest rest' hr hr' h
  rw [powerText, powerText, List.append_assoc, List.append_assoc] at h
  obtain ⟨hsign, h⟩ := sign_append_inj (isDigit_head_decimal _ _) (isDigit_head_decimal _ _) h
  obtain ⟨habs, hrest⟩ := decimal_append_inj hr.isDigit hr'.isDigit h
  exact ⟨by omega, hrest⟩

theorem determines_exponentText (e : Option Int) : Determines exponentText e := by
  intro e' rest rest' hr hr' h
  cases e with
  | none =>
    cases e' with
    | none => exact ⟨rfl, h⟩
    | some e' =>
      change rest = 'e' :: _ at h
      rw [h] at hr
      have he := hr 'e' rfl
      exact absurd rfl he.2.2.1
  | some e =>
    cases e' with
    | none =>
      change 'e' :: _ = rest' at h
      rw [← h] at hr'
      have he := hr' 'e' rfl
      exact absurd rfl he.2.2.1
    | some e' =>
      obtain ⟨rfl, hrest⟩ := determines_powerText e e' rest rest' hr hr' (List.cons.inj h).2
      exact ⟨rfl, hrest⟩

/-- A text that goes on neither the digits of a number nor with a point. -/
def EndsDigits (rest : List Char) : Prop := ∀ c ∈ rest.head?, c.isDigit = false ∧ c ≠ '.'

theorem EndsNumber.endsDigits (e : Option Int) (h : EndsNumber rest) :
    EndsDigits (exponentText e ++ rest) := by
  cases e with
  | none => exact fun c hc => ⟨(h c hc).1, (h c hc).2.1⟩
  | some e =>
    rintro c ⟨⟩
    decide

theorem digitChar_injective : Function.Injective fun d : Fin 10 => Nat.digitChar d.val := by
  have hinj : ∀ d e : Fin 10, Nat.digitChar d.val = Nat.digitChar e.val → d = e := by decide
  exact fun d e => hinj d e

theorem fractionText_append_inj {ds es : List (Fin 10)} (hr : EndsDigits rest)
    (hr' : EndsDigits rest') (h : fractionText ds ++ rest = fractionText es ++ rest') :
    ds = es ∧ rest = rest' := by
  cases ds with
  | nil =>
    cases es with
    | nil => exact ⟨rfl, h⟩
    | cons e es =>
      change rest = '.' :: _ at h
      rw [h] at hr
      have hpoint := hr '.' rfl
      exact absurd rfl hpoint.2
  | cons d ds =>
    cases es with
    | nil =>
      change '.' :: _ = rest' at h
      rw [← h] at hr'
      have hpoint := hr' '.' rfl
      exact absurd rfl hpoint.2
    | cons e es =>
      obtain ⟨hds, hrest⟩ := digits_append_inj isDigit_of_mem_digits isDigit_of_mem_digits
        (fun c hc => (hr c hc).1) (fun c hc => (hr' c hc).1) (List.cons.inj h).2
      exact ⟨digitChar_injective.list_map hds, hrest⟩

theorem isDigit_head_fractionText (ds : List (Fin 10)) (h : EndsDigits rest) :
    ∀ c ∈ (fractionText ds ++ rest).head?, c.isDigit = false := by
  cases ds with
  | nil => exact fun c hc => (h c hc).1
  | cons d ds =>
    rintro c ⟨⟩
    decide

theorem Numeral.determines_text (m : Numeral) : Determines Numeral.text m := by
  intro n rest rest' hr hr' h
  rw [m.text_eq, n.text_eq, magnitude, magnitude] at h
  simp only [List.append_assoc] at h
  have he := hr.endsDigits m.exponent
  have he' := hr'.endsDigits n.exponent
  obtain ⟨hsign, h⟩ := sign_append_inj (isDigit_head_decimal _ _) (isDigit_head_decimal _ _) h
  obtain ⟨hwhole, h⟩ := decimal_append_inj (isDigit_head_fractionText _ he)
    (isDigit_head_fractionText _ he') h
  obtain ⟨hfraction, h⟩ := fractionText_append_inj he he' h
  obtain ⟨hexponent, hrest⟩ := determines_exponentText _ _ _ _ hr hr' h
  refine ⟨?_, hrest⟩
  rw [Numeral.mk.injEq]
  exact ⟨Bool.eq_iff_iff.2 hsign, hwhole, hfraction, hexponent⟩

theorem stringText_append_inj {s t : String} (h : stringText s ++ rest = stringText t ++ rest') :
    s = t ∧ rest = rest' := by
  rw [stringText_eq, stringText_eq] at h
  -- reading gives both strings back from the one text
  have htail : stringTail s ++ rest = stringTail t ++ rest' := (List.cons.inj h).2
  have hs := stringBody_stringTail s rest
  rw [htail, stringBody_stringTail] at hs
  obtain ⟨hst, hrest⟩ := Prod.mk.inj (Except.ok.inj hs)
  exact ⟨(String.toList_inj.1 hst).symm, hrest.symm⟩

/-- The lines behind the first one, and the end. -/
def linesTail (level : Nat) (close : Char) : List (List Char) → List Char
  | [] => newLine level ++ [close]
  | t :: ts => ',' :: (newLine (level + 1) ++ (t ++ linesTail level close ts))

/-- What stands behind an opening bracket, each text on a line of its own. -/
def linesText (level : Nat) (close : Char) : List (List Char) → List Char
  | [] => [close]
  | t :: ts => newLine (level + 1) ++ (t ++ linesTail level close ts)

section

variable {text : α → List Char} {level : Nat} {close : Char} {xs ys : List α}

theorem endsNumber_linesTail (level : Nat) (close : Char) (ts : List (List Char))
    (rest : List Char) : EndsNumber (linesTail level close ts ++ rest) := by
  cases ts with
  | nil =>
    rintro c ⟨⟩
    decide
  | cons t ts =>
    rintro c ⟨⟩
    decide

theorem linesTail_append_inj (hx : ∀ x ∈ xs, Determines text x)
    (h : linesTail level close (xs.map text) ++ rest =
      linesTail level close (ys.map text) ++ rest') : xs = ys ∧ rest = rest' := by
  induction xs generalizing ys with
  | nil =>
    cases ys with
    | nil => exact ⟨rfl, List.append_cancel_left h⟩
    | cons y ys => exact absurd (List.cons.inj h).1 (by decide)
  | cons x xs ih =>
    cases ys with
    | nil => exact absurd (List.cons.inj h).1 (by decide)
    | cons y ys =>
      obtain ⟨hhead, hxs⟩ := List.forall_mem_cons.1 hx
      simp only [List.map_cons, linesTail, List.cons_append, List.append_assoc] at h
      obtain ⟨hxy, htail⟩ := hhead y _ _ (endsNumber_linesTail _ _ _ _)
        (endsNumber_linesTail _ _ _ _) (List.append_cancel_left (List.cons.inj h).2)
      obtain ⟨htails, hrest⟩ := ih hxs htail
      exact ⟨by rw [hxy, htails], hrest⟩

theorem linesText_append_inj (hclose : close ≠ '\n') (hx : ∀ x ∈ xs, Determines text x)
    (h : linesText level close (xs.map text) ++ rest =
      linesText level close (ys.map text) ++ rest') : xs = ys ∧ rest = rest' := by
  cases xs with
  | nil =>
    cases ys with
    | nil => exact ⟨rfl, (List.cons.inj h).2⟩
    | cons y ys => exact absurd (List.cons.inj h).1 hclose
  | cons x xs =>
    cases ys with
    | nil => exact absurd (List.cons.inj h).1.symm hclose
    | cons y ys =>
      obtain ⟨hhead, hxs⟩ := List.forall_mem_cons.1 hx
      simp only [List.map_cons, linesText, List.append_assoc] at h
      obtain ⟨hxy, htail⟩ := hhead y _ _ (endsNumber_linesTail _ _ _ _)
        (endsNumber_linesTail _ _ _ _) (List.append_cancel_left h)
      obtain ⟨htails, hrest⟩ := linesTail_append_inj hxs htail
      exact ⟨by rw [hxy, htails], hrest⟩

end

def memberText (level : Nat) (m : String × Value) : List Char :=
  stringText m.1 ++ ':' :: ' ' :: m.2.prettyAt level

theorem prettyItems_eq (level : Nat) (vs : List Value) :
    prettyItems level vs = linesTail level ']' (vs.map (·.prettyAt (level + 1))) := by
  induction vs with
  | nil => rfl
  | cons v vs ih => rw [prettyItems, ih, List.map_cons, linesTail]

theorem prettyMembers_eq (level : Nat) (ms : List (String × Value)) :
    prettyMembers level ms = linesTail level '\x7d' (ms.map (memberText (level + 1))) := by
  induction ms with
  | nil => rfl
  | cons m ms ih =>
    rw [prettyMembers, ih, List.map_cons, linesTail, memberText, List.append_assoc,
      List.cons_append, List.cons_append]

theorem prettyAt_array (level : Nat) (vs : List Value) :
    (Value.array vs).prettyAt level =
      '[' :: linesText level ']' (vs.map (·.prettyAt (level + 1))) := by
  cases vs with
  | nil => rfl
  | cons v vs => rw [Value.prettyAt, prettyItems_eq, List.map_cons, linesText]

theorem prettyAt_object (level : Nat) (ms : List (String × Value)) :
    (Value.object ms).prettyAt level =
      '\x7b' :: linesText level '\x7d' (ms.map (memberText (level + 1))) := by
  cases ms with
  | nil => rfl
  | cons m ms =>
    rw [Value.prettyAt, prettyMembers_eq, List.map_cons, linesText, memberText, List.append_assoc,
      List.cons_append, List.cons_append]

theorem determines_memberText {level : Nat} {m : String × Value}
    (h : Determines (Value.prettyAt level) m.2) : Determines (memberText level) m := by
  intro m' rest rest' hr hr' ht
  simp only [memberText, List.append_assoc, List.cons_append] at ht
  obtain ⟨hkey, ht⟩ := stringText_append_inj ht
  obtain ⟨hvalue, hrest⟩ := h m'.2 _ _ hr hr' (List.cons.inj (List.cons.inj ht).2).2
  exact ⟨Prod.ext hkey hvalue, hrest⟩

/-- Items and members of a tree are smaller trees. -/
@[elab_as_elim]
theorem Value.tree_induction {P : Value → Prop} (null : P .null) (bool : ∀ b, P (.bool b))
    (number : ∀ n, P (.number n)) (string : ∀ s, P (.string s))
    (array : ∀ vs, (∀ v ∈ vs, P v) → P (.array vs))
    (object : ∀ ms, (∀ m ∈ ms, P m.2) → P (.object ms)) : ∀ v, P v
  | .null => null
  | .bool b => bool b
  | .number n => number n
  | .string s => string s
  | .array vs => array vs fun v _ => tree_induction null bool number string array object v
  | .object ms => object ms fun (_, v) _ => tree_induction null bool number string array object v
termination_by v => sizeOf v
decreasing_by
  · have hv : sizeOf v < sizeOf vs := List.sizeOf_lt_of_mem ‹_›
    simp only [Value.array.sizeOf_spec]
    omega
  · have hm : sizeOf (_, v) < sizeOf ms := List.sizeOf_lt_of_mem ‹_›
    simp only [Prod.mk.sizeOf_spec] at hm
    simp only [Value.object.sizeOf_spec]
    omega

/-- What a value is, as far as its first character shows it. -/
inductive Mark where
  | null
  | bool (b : Bool)
  | number
  | string
  | array
  | object

def Value.mark : Value → Mark
  | null => .null
  | bool b => .bool b
  | number _ => .number
  | string _ => .string
  | array _ => .array
  | object _ => .object

def Mark.ofChar (c : Char) : Mark :=
  if c = 'n' then null
  else if c = 't' then bool true
  else if c = 'f' then bool false
  else if c = '"' then string
  else if c = '[' then array
  else if c = '\x7b' then object
  else number

theorem Mark.ofChar_digit {c : Char} (h : c.isDigit = true) : ofChar c = number := by
  unfold ofChar
  rw [if_neg (ne_of_isDigit h (by decide)), if_neg (ne_of_isDigit h (by decide)),
    if_neg (ne_of_isDigit h (by decide)), if_neg (ne_of_isDigit h (by decide)),
    if_neg (ne_of_isDigit h (by decide)), if_neg (ne_of_isDigit h (by decide))]

theorem Value.exists_prettyAt_cons (v : Value) (level : Nat) :
    ∃ c cs, v.prettyAt level = c :: cs ∧ Mark.ofChar c = v.mark := by
  match v with
  | .null => exact ⟨_, _, rfl, rfl⟩
  | .bool true => exact ⟨_, _, rfl, rfl⟩
  | .bool false => exact ⟨_, _, rfl, rfl⟩
  | .string s => exact ⟨_, _, rfl, rfl⟩
  | .array vs => exact ⟨_, _, prettyAt_array level vs, rfl⟩
  | .object ms => exact ⟨_, _, prettyAt_object level ms, rfl⟩
  | .number m =>
    rw [prettyAt, m.text_eq]
    cases m.negative with
    | true => exact ⟨_, _, rfl, rfl⟩
    | false =>
      obtain ⟨c, cs, hm, hc⟩ := m.exists_magnitude_cons
      exact ⟨c, cs, hm, Mark.ofChar_digit hc⟩

theorem Value.mark_eq {v w : Value} {level : Nat}
    (h : v.prettyAt level ++ rest = w.prettyAt level ++ rest') : v.mark = w.mark := by
  obtain ⟨c, cs, hv, hc⟩ := v.exists_prettyAt_cons level
  obtain ⟨d, ds, hw, hd⟩ := w.exists_prettyAt_cons level
  rw [hv, hw] at h
  rw [← hc, ← hd, (List.cons.inj h).1]

theorem Value.determines_prettyAt (v : Value) (level : Nat) :
    Determines (Value.prettyAt level) v := by
  induction v using tree_induction generalizing level with
  | null =>
    intro w rest rest' hr hr' h
    cases w <;> cases mark_eq h
    exact ⟨rfl, List.append_cancel_left h⟩
  | bool b =>
    intro w rest rest' hr hr' h
    cases w <;> cases mark_eq h
    exact ⟨rfl, List.append_cancel_left h⟩
  | number m =>
    intro w rest rest' hr hr' h
    cases w <;> cases mark_eq h
    obtain ⟨rfl, hrest⟩ := m.determines_text _ _ _ hr hr' h
    exact ⟨rfl, hrest⟩
  | string s =>
    intro w rest rest' hr hr' h
    cases w <;> cases mark_eq h
    obtain ⟨rfl, hrest⟩ := stringText_append_inj h
    exact ⟨rfl, hrest⟩
  | array vs ih =>
    intro w rest rest' hr hr' h
    cases w <;> cases mark_eq h
    rw [prettyAt_array, prettyAt_array] at h
    obtain ⟨rfl, hrest⟩ :=
      linesText_append_inj (by decide) (fun v hv => ih v hv _) (List.cons.inj h).2
    exact ⟨rfl, hrest⟩
  | object ms ih =>
    intro w rest rest' hr hr' h
    cases w <;> cases mark_eq h
    rw [prettyAt_object, prettyAt_object] at h
    obtain ⟨rfl, hrest⟩ := linesText_append_inj (by decide)
      (fun m hm => determines_memberText (ih m hm _)) (List.cons.inj h).2
    exact ⟨rfl, hrest⟩

/-- No two trees have the same text. -/
theorem Value.pretty_injective : Function.Injective Value.pretty := by
  intro v w h
  have hend : EndsNumber [] := fun c hc => by cases hc
  have hrest : v.prettyAt 0 ++ [] = w.prettyAt 0 ++ [] := congrArg (· ++ []) h
  exact (v.determines_prettyAt 0 w [] [] hend hend hrest).1

end BotBindings.Json
