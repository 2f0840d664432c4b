import BotBindings.Proofs.Spelling

namespace BotBindings.Json

variable {n : Nat} {rest : List Char}

/-- A text at which a number has ended. -/
def EndsNumber (rest : List Char) : Prop :=
  ∀ c ∈ rest.head?, c.isDigit = false ∧ c ≠ '.' ∧ c ≠ 'e' ∧ c ≠ 'E'

theorem isDigit_of_mem_decimal {c : Char} (h : c ∈ decimal n) : c.isDigit = true :=
  Nat.isDigit_of_mem_toDigits (by decide) (by decide) h

/-- A positive number is not written with a zero in front. -/
theorem exists_decimal_cons (h : 0 < n) : ∃ c ds, decimal n = c :: ds ∧ c ≠ '0' := by
  induction n using Nat.strongRecOn with
  | ind n ih =>
    by_cases hn : n < 10
    · have hone : ∀ m < 10, 0 < m → Nat.digitChar m ≠ '0' := by decide
      exact ⟨Nat.digitChar n, [], Nat.toDigits_of_lt_base hn, hone n hn h⟩
    · have hlt : n / 10 < n := by omega
      have hpos : 0 < n / 10 := by omega
      obtain ⟨c, ds, hc, hne⟩ := ih (n / 10) hlt hpos
      have hn : decimal n = decimal (n / 10) ++ [Nat.digitChar (n % 10)] :=
        Nat.toDigits_of_base_le (by decide) (by omega)
      exact ⟨c, ds ++ [Nat.digitChar (n % 10)], by rw [hn, hc, List.cons_append], hne⟩

/-- A number is written in digits, and only zero with a zero in front. -/
theorem decimal_cases (n : Nat) : ∃ c ds, decimal n = c :: ds ∧ c.isDigit = true ∧
    (∀ d ∈ ds, d.isDigit = true) ∧ (c = '0' → ds = []) := by
  obtain ⟨c, ds, hn⟩ := List.exists_cons_of_ne_nil (l := decimal n) Nat.toDigits_ne_nil
  have hall : ∀ d ∈ c :: ds, d.isDigit = true := fun d hd => isDigit_of_mem_decimal (hn ▸ hd)
  refine ⟨c, ds, hn, hall c List.mem_cons_self, fun d hd => hall d (List.mem_cons_of_mem c hd), ?_⟩
  rintro rfl
  by_cases hz : n = 0
  · have hzero : decimal 0 = ['0'] := rfl
    rw [hz, hzero] at hn
    exact (List.cons.inj hn).2.symm
  · obtain ⟨c, ds', hc, hne⟩ := exists_decimal_cons (Nat.pos_of_ne_zero hz)
    rw [hn] at hc
    exact absurd (List.cons.inj hc).1.symm hne

theorem dropDigits_append {ds : List Char} (hd : ∀ d ∈ ds, d.isDigit = true)
    (hr : ∀ c ∈ rest.head?, c.isDigit = false) : dropDigits (ds ++ rest) = rest := by
  rw [dropDigits, List.dropWhile_append_of_pos hd]
  cases rest with
  | nil => rfl
  | cons c rest =>
    have hc : c.isDigit = false := hr c rfl
    rw [List.dropWhile_cons, hc]
    rfl

theorem ne_of_isDigit {c d : Char} (hc : c.isDigit = true) (hd : d.isDigit = false) : c ≠ d := by
  rintro rfl
  rw [hc] at hd
  cases hd

theorem EndsNumber.isDigit (h : EndsNumber rest) : ∀ c ∈ rest.head?, c.isDigit = false :=
  fun c hc => (h c hc).1

theorem Digits.exists_cons (ds : Digits) :
    ∃ c cs, ds.chars = c :: cs ∧ c.isDigit = true ∧ ∀ d ∈ cs, d.isDigit = true := by
  obtain ⟨c, cs, hc⟩ := List.exists_cons_of_ne_nil ds.ne_nil
  obtain ⟨hdigit, hdigits⟩ := List.forall_mem_cons.1 (hc ▸ ds.isDigit)
  exact ⟨c, cs, hc, hdigit, hdigits⟩

theorem passExponent_tail (p : PowerText) (h : EndsNumber rest) :
    passExponent (p.tail ++ rest) = .ok rest := by
  obtain ⟨upper, sign, ds⟩ := p
  obtain ⟨c, cs, hcs, hc, hdigits⟩ := ds.exists_cons
  have hdrop : dropDigits (cs ++ rest) = rest := dropDigits_append hdigits h.isDigit
  rw [PowerText.tail, hcs, List.append_assoc, List.cons_append]
  cases sign with
  | none =>
    change passExponent (c :: (cs ++ rest)) = _
    unfold passExponent
    split
    · next he => exact absurd (List.cons.inj he).1 (ne_of_isDigit hc (by decide))
    · next he => exact absurd (List.cons.inj he).1 (ne_of_isDigit hc (by decide))
    · dsimp only
      rw [if_pos hc, hdrop]
  | plus =>
    change passExponent ('+' :: c :: (cs ++ rest)) = _
    simp only [passExponent, hc, hdrop]
    rfl
  | minus =>
    change passExponent ('-' :: c :: (cs ++ rest)) = _
    simp only [passExponent, hc, hdrop]
    rfl

/-- What is left of a number behind its whole part. -/
def passTail : List Char → Except Failure (List Char)
  | '.' :: rest => passFraction rest
  | 'e' :: rest | 'E' :: rest => passExponent rest
  | rest => .ok rest

theorem passTail_of_endsNumber (h : EndsNumber rest) : passTail rest = .ok rest := by
  unfold passTail
  split
  · exact absurd rfl (h '.' rfl).2.1
  · exact absurd rfl (h 'e' rfl).2.2.1
  · exact absurd rfl (h 'E' rfl).2.2.2
  · rfl

theorem passTail_powerText (n : NumberText) (h : EndsNumber rest) :
    passTail (n.powerText ++ rest) = .ok rest := by
  unfold NumberText.powerText
  cases n.power? with
  | none => exact passTail_of_endsNumber h
  | some p =>
    have hp : passExponent (p.tail ++ rest) = .ok rest := passExponent_tail p h
    obtain ⟨upper, sign, ds⟩ := p
    cases upper <;> exact hp

theorem isDigit_head_powerText (n : NumberText) (h : EndsNumber rest) :
    ∀ c ∈ (n.powerText ++ rest).head?, c.isDigit = false := by
  unfold NumberText.powerText
  cases n.power? with
  | none => exact h.isDigit
  | some p =>
    obtain ⟨upper, sign, ds⟩ := p
    cases upper <;> exact fun c hc => by cases hc; rfl

theorem passFraction_chars (ds : Digits) (n : NumberText) (h : EndsNumber rest) :
    passFraction (ds.chars ++ (n.powerText ++ rest)) = .ok rest := by
  obtain ⟨c, cs, hcs, hc, hdigits⟩ := ds.exists_cons
  rw [hcs, List.cons_append, passFraction, if_pos hc,
    dropDigits_append hdigits (isDigit_head_powerText n h)]
  unfold NumberText.powerText
  cases n.power? with
  | none =>
    rw [Option.elim_none, List.nil_append]
    split
    · exact absurd rfl (h 'e' rfl).2.2.1
    · exact absurd rfl (h 'E' rfl).2.2.2
    · rfl
  | some p =>
    have hp : passExponent (p.tail ++ rest) = .ok rest := passExponent_tail p h
    obtain ⟨upper, sign, ds⟩ := p
    cases upper <;> exact hp

theorem passNumber_digits {c : Char} {ds tail : List Char} (hc : c.isDigit = true)
    (hds : ∀ d ∈ ds, d.isDigit = true) (hz : c = '0' → ds = [])
    (ht : ∀ d ∈ tail.head?, d.isDigit = false) :
    passNumber (c :: (ds ++ tail)) = passTail tail := by
  have hrest : (if c = '0' then ds ++ tail else dropDigits (ds ++ tail)) = tail := by
    split
    · next h =>
      rw [hz h]
      rfl
    · exact dropDigits_append hds ht
  rw [passNumber, if_pos hc]
  simp only [hrest]
  unfold passTail
  split
  · rfl
  · rfl
  · rfl
  · next d tail hdot he hE =>
    have hd : d.isDigit = false := ht d rfl
    rw [if_neg (by simp [hd])]
    split
    · next heq => exact (hdot (List.cons.inj heq).1).elim
    · next heq => exact (he (List.cons.inj heq).1).elim
    · next heq => exact (hE (List.cons.inj heq).1).elim
    · rfl
  · rfl

theorem passNumber_magnitude (n : NumberText) (h : EndsNumber rest) :
    passNumber (n.magnitude ++ rest) = .ok rest := by
  obtain ⟨c, cs, hcs, hc, hdigits⟩ := n.whole.exists_cons
  have hz : c = '0' → cs = [] := by
    rintro rfl
    have hplain := n.plain (by rw [hcs]; rfl)
    rw [hcs] at hplain
    exact (List.cons.inj hplain).2
  have htail : n.magnitude ++ rest =
      c :: (cs ++ (n.fractionText ++ (n.powerText ++ rest))) := by
    rw [NumberText.magnitude, hcs, List.cons_append, List.cons_append, List.append_assoc,
      List.append_assoc]
  rw [htail]
  unfold NumberText.fractionText
  cases n.fraction? with
  | none =>
    rw [List.nil_append, passNumber_digits hc hdigits hz (isDigit_head_powerText n h)]
    exact passTail_powerText n h
  | some ds =>
    rw [passNumber_digits hc hdigits hz fun d hd => by cases hd; rfl]
    exact passFraction_chars ds n h

/-- The power of ten behind its `e`. -/
def powerText (e : Int) : List Char := (if e < 0 then ['-'] else []) ++ decimal e.natAbs

def exponentText : Option Int → List Char
  | none => []
  | some e => 'e' :: powerText e

def fractionText (ds : List (Fin 10)) : List Char :=
  if ds.isEmpty then [] else '.' :: ds.map fun d => Nat.digitChar d.val

theorem isDigit_of_mem_digits {ds : List (Fin 10)} :
    ∀ c ∈ ds.map fun d => Nat.digitChar d.val, c.isDigit = true := by
  have hdigit : ∀ d : Fin 10, (Nat.digitChar d.val).isDigit = true := by decide
  intro c hc
  obtain ⟨d, -, rfl⟩ := List.mem_map.1 hc
  exact hdigit d

/-- A number without its sign. -/
def Numeral.magnitude (m : Numeral) : List Char :=
  decimal m.whole ++ (fractionText m.fraction ++ exponentText m.exponent)

theorem Numeral.text_eq (m : Numeral) :
    m.text = (if m.negative then ['-'] else []) ++ m.magnitude := by
  obtain ⟨negative, whole, fraction, exponent⟩ := m
  cases exponent <;>
    simp [text, magnitude, fractionText, exponentText, powerText, List.append_assoc]

def decimalDigits (n : Nat) : Digits where
  chars := decimal n
  ne_nil := Nat.toDigits_ne_nil
  isDigit := fun _ => isDigit_of_mem_decimal

theorem value_decimalDigits (n : Nat) : (decimalDigits n).value = n :=
  Nat.ofDigitChars_ten_toDigits

theorem exists_fractionDigits {ds : List (Fin 10)} (hne : ds ≠ []) :
    ∃ f : Digits, '.' :: f.chars = fractionText ds ∧
      f.chars.map (fun d => Fin.ofNat 10 (d.toNat - 48)) = ds := by
  have hdigit : ∀ d : Fin 10, Fin.ofNat 10 ((Nat.digitChar d.val).toNat - 48) = d := by decide
  refine ⟨⟨ds.map fun d => Nat.digitChar d.val, by simpa using hne, isDigit_of_mem_digits⟩, ?_, ?_⟩
  · rw [fractionText, if_neg (by simpa using hne)]
  · rw [List.map_map]
    exact (List.map_congr_left fun d _ => hdigit d).trans (List.map_id ds)

theorem exists_powerText (e : Int) : ∃ p : PowerText, p.text = 'e' :: powerText e ∧ p.value = e := by
  by_cases he : e < 0
  · refine ⟨⟨false, .minus, decimalDigits e.natAbs⟩, ?_, ?_⟩
    · rw [powerText, if_pos he]
      rfl
    · change -((decimalDigits e.natAbs).value : Int) = e
      rw [value_decimalDigits]
      omega
  · refine ⟨⟨false, .none, decimalDigits e.natAbs⟩, ?_, ?_⟩
    · rw [powerText, if_neg he]
      rfl
    · change ((decimalDigits e.natAbs).value : Int) = e
      rw [value_decimalDigits]
      omega

/-- A number can be written as it is in compact text. -/
theorem exists_numberText (m : Numeral) :
    ∃ n : NumberText, n.text = m.text ∧ n.value = m := by
  obtain ⟨negative, whole, fraction, exponent⟩ := m
  have hplain : (decimalDigits whole).chars.head? = some '0' →
      (decimalDigits whole).chars = ['0'] := by
    obtain ⟨c, ds, hn, -, -, hz⟩ := decimal_cases whole
    change (decimal whole).head? = some '0' → decimal whole = ['0']
    rw [hn]
    intro hc
    obtain rfl := Option.some.inj hc
    rw [hz rfl]
  obtain ⟨fraction?, hfraction, hdigits⟩ : ∃ f? : Option Digits,
      f?.elim [] (fun f => '.' :: f.chars) = fractionText fraction ∧
        f?.elim [] (fun f => f.chars.map fun d => Fin.ofNat 10 (d.toNat - 48)) = fraction := by
    by_cases hne : fraction = []
    · exact ⟨none, by rw [hne]; rfl, hne.symm⟩
    · obtain ⟨f, htext, hvalue⟩ := exists_fractionDigits hne
      exact ⟨some f, htext, hvalue⟩
  obtain ⟨power?, hpower, hexponent⟩ : ∃ p? : Option PowerText,
      p?.elim [] PowerText.text = exponentText exponent ∧ p?.map PowerText.value = exponent := by
    cases exponent with
    | none => exact ⟨none, rfl, rfl⟩
    | some e =>
      obtain ⟨p, htext, hvalue⟩ := exists_powerText e
      exact ⟨some p, htext, congrArg some hvalue⟩
  refine ⟨⟨negative, decimalDigits whole, hplain, fraction?, power?⟩, ?_, ?_⟩
  · rw [Numeral.text_eq, Numeral.magnitude, ← hfraction, ← hpower]
    cases fraction? <;> rfl
  · change Numeral.mk negative (decimalDigits whole).value _ _ = _
    rw [value_decimalDigits, hdigits, hexponent]

end BotBindings.Json
