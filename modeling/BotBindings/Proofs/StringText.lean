import BotBindings.Proofs.Spelling
import Mathlib.Tactic.SplitIfs

namespace BotBindings.Json

variable {α β : Type} {c : Char} {acc mid rest : List Char} {n : Nat}

/-- The outcome of a reader that should read what a decoder made of a text, up to `rest`. -/
def Agrees (rest : List Char) : Option α → Except Failure (α × List Char) → Prop
  | some a, r => r = .ok (a, rest)
  | none, r => ∃ e, r = .error e

namespace Agrees

variable {o : Option α} {r : Except Failure (α × List Char)}

theorem map (f : α → β) (h : Agrees rest o r) :
    Agrees rest (o.map f) (r.map fun (a, rest) => (f a, rest)) := by
  cases o with
  | some a =>
    rw [show r = .ok (a, rest) from h]
    rfl
  | none =>
    obtain ⟨e, rfl⟩ := h
    exact ⟨e, rfl⟩

theorem bind {g : α → Option β} {k : α × List Char → Except Failure (β × List Char)}
    (h : Agrees mid o r) (hk : ∀ a, Agrees rest (g a) (k (a, mid))) :
    Agrees rest (o.bind g) (r >>= k) := by
  cases o with
  | some a =>
    rw [show r = .ok (a, mid) from h]
    exact hk a
  | none =>
    obtain ⟨e, rfl⟩ := h
    exact ⟨e, rfl⟩

end Agrees

/-- What is in front of a list can be put there at once. -/
theorem map_append_cons (a : α) (acc : List α) (o : Option (List α)) :
    (o.map (a :: ·)).map (acc.reverse ++ ·) = o.map ((a :: acc).reverse ++ ·) := by
  rw [Option.map_map]
  congr 1
  funext as
  rw [Function.comp_apply, List.reverse_cons, List.append_assoc]
  rfl

theorem Glyph.tail_cons (g : Glyph) (gs : List Glyph) (rest : List Char) :
    tail (g :: gs) ++ rest = g.text ++ (tail gs ++ rest) := by
  rw [tail, tail, List.flatMap_cons, List.append_assoc, List.append_assoc, List.append_assoc]

/-- Four digits are read as they are by themselves. -/
theorem hexFour_append {a b c d : Char} (h : hexFour [a, b, c, d] = .ok n) (rest : List Char) :
    hexFour (a :: b :: c :: d :: rest) = .ok n := by
  unfold hexFour at h ⊢
  dsimp only at h ⊢
  split at h
  · exact h
  · cases h

/-- A letter behind a backslash is no `u`. -/
theorem ne_u_of_shortEscape {c d : Char} (h : shortEscape d = some c) : d ≠ 'u' := by
  rintro rfl
  cases h

theorem passString_text (g : Glyph) (rest : List Char) :
    passString 0 (g.text ++ rest) = passString 0 rest := by
  cases g with
  | plain c h =>
    obtain ⟨hquote, hslash, hcontrol⟩ := h
    rw [Glyph.text, List.singleton_append, passString, if_neg hquote, if_neg hslash,
      if_neg hcontrol]
  | letter c d h =>
    have hpass : passEscape (d :: rest) = .ok 1 := by
      rw [passEscape, if_neg (ne_u_of_shortEscape h), h]
      rfl
    rw [Glyph.text, List.cons_append, passString, if_neg (by decide), if_pos rfl,
      List.singleton_append, hpass]
    rfl
  | digits a b c d n h =>
    have hpass : passEscape ('u' :: a :: b :: c :: d :: rest) = .ok 5 := by
      rw [passEscape, if_pos rfl, hexFour_append h]
      rfl
    change passString 0 ('\\' :: 'u' :: a :: b :: c :: d :: rest) = _
    rw [passString, if_neg (by decide), if_pos rfl, hpass]
    rfl

theorem passString_tail (gs : List Glyph) (rest : List Char) :
    passString 0 (Glyph.tail gs ++ rest) = .ok rest := by
  induction gs with
  | nil => rfl
  | cons g gs ih => rw [Glyph.tail_cons, passString_text, ih]

theorem stringBody_plain (h : c ≠ '"' ∧ c ≠ '\\' ∧ ¬c.toNat < 0x20) (acc rest : List Char) :
    stringBody acc 0 (c :: rest) = stringBody (c :: acc) 0 rest := by
  rw [stringBody, if_neg h.1, if_neg h.2.1, if_neg h.2.2]

theorem stringBody_letter {d : Char} (h : shortEscape d = some c) (acc rest : List Char) :
    stringBody acc 0 ('\\' :: d :: rest) = stringBody (c :: acc) 0 rest := by
  have hread : readEscape (d :: rest) = .ok (c, 1) := by
    rw [readEscape, if_neg (ne_u_of_shortEscape h), h]
  rw [stringBody, if_neg (by decide), if_pos rfl, hread]
  rfl

/-- Behind `\u` the text is read as the escape is. -/
theorem stringBody_hex (acc cs : List Char) :
    stringBody acc 0 ('\\' :: 'u' :: cs) =
      (hexEscape cs >>= fun (d, n) => stringBody (d :: acc) n cs) := by
  rw [stringBody, if_neg (by decide), if_pos rfl, readEscape, if_pos rfl]
  cases hexEscape cs with
  | error e => rfl
  | ok x => rfl

/-- A character of which `n` is the first half, from the text behind the digits of this half. -/
def otherHalf (n : Nat) : List Char → Except Failure (Char × Nat)
  | [] => .error (.before .endInString [])
  | '\\' :: [] => .error (.before .endInString [])
  | '\\' :: 'u' :: rest => do
    let low ← hexFour rest
    if isLowSurrogate low then
      .ok (Char.ofNat ((n - 0xD800) * 0x400 + (low - 0xDC00) + 0x10000), 10)
    else .error (.before .loneSurrogate (rest.drop 4))
  | '\\' :: rest => .error (.onto .halfEscape rest)
  | rest => .error (.onto .halfEscape rest)

theorem exists_error_otherHalf_of_ne (h : c ≠ '\\') (n : Nat) (rest : List Char) :
    ∃ f, otherHalf n (c :: rest) = .error f := by
  unfold otherHalf
  split
  · exact ⟨_, rfl⟩
  · exact ⟨_, rfl⟩
  · next heq => exact absurd (List.cons.inj heq).1 h
  · exact ⟨_, rfl⟩
  · exact ⟨_, rfl⟩

theorem exists_error_otherHalf_of_ne_u (h : c ≠ 'u') (n : Nat) (rest : List Char) :
    ∃ f, otherHalf n ('\\' :: c :: rest) = .error f := by
  unfold otherHalf
  split
  · exact ⟨_, rfl⟩
  · exact ⟨_, rfl⟩
  · next heq => exact absurd (List.cons.inj (List.cons.inj heq).2).1 h
  · exact ⟨_, rfl⟩
  · exact ⟨_, rfl⟩

theorem otherHalf_digits {a b d e : Char} {m : Nat} (h : hexFour [a, b, d, e] = .ok m) (n : Nat)
    (rest : List Char) : otherHalf n ('\\' :: 'u' :: a :: b :: d :: e :: rest) =
      if isLowSurrogate m then
        .ok (Char.ofNat ((n - 0xD800) * 0x400 + (m - 0xDC00) + 0x10000), 10)
      else .error (.before .loneSurrogate rest) := by
  change (hexFour (a :: b :: d :: e :: rest) >>= _) = _
  rw [hexFour_append h]
  rfl

theorem hexEscape_digits {a b d e : Char} (h : hexFour [a, b, d, e] = .ok n) (rest : List Char) :
    hexEscape (a :: b :: d :: e :: rest) =
      if isLowSurrogate n then .error (.before .loneSurrogate rest)
      else if isHighSurrogate n then otherHalf n rest
      else .ok (Char.ofNat n, 4) := by
  rw [hexEscape, hexFour_append h]
  rfl

theorem Glyph.chars?_digits {a b d e : Char} (h : hexFour [a, b, d, e] = .ok n) (gs : List Glyph) :
    chars? (.digits a b d e n h :: gs) =
      if isLowSurrogate n then none
      else if isHighSurrogate n then
        match gs with
        | digits _ _ _ _ m _ :: gs =>
          if isLowSurrogate m then
            (chars? gs).map (Char.ofNat ((n - 0xD800) * 0x400 + (m - 0xDC00) + 0x10000) :: ·)
          else none
        | _ => none
      else (chars? gs).map (Char.ofNat n :: ·) := chars?.eq_def _

/-- The first half of a character is not read if the other half is not behind it. -/
theorem exists_error_otherHalf {gs : List Glyph}
    (hgs : ∀ a b c d m h gs', gs = Glyph.digits a b c d m h :: gs' → isLowSurrogate m = false)
    (n : Nat) (rest : List Char) : ∃ f, otherHalf n (Glyph.tail gs ++ rest) = .error f := by
  cases gs with
  | nil => exact ⟨_, rfl⟩
  | cons g gs =>
    rw [Glyph.tail_cons]
    cases g with
    | plain c hc => exact exists_error_otherHalf_of_ne hc.2.1 n _
    | letter c d hd => exact exists_error_otherHalf_of_ne_u (ne_u_of_shortEscape hd) n _
    | digits a b c d m hm =>
      have hlow : isLowSurrogate m = false := hgs _ _ _ _ _ _ _ rfl
      have hread := otherHalf_digits hm n (Glyph.tail gs ++ rest)
      rw [hlow, if_neg Bool.false_ne_true] at hread
      exact ⟨_, hread⟩

theorem stringBody_digits {a b d e : Char} (h : hexFour [a, b, d, e] = .ok n) (gs : List Glyph)
    (acc rest : List Char) :
    stringBody acc 0 (Glyph.tail (.digits a b d e n h :: gs) ++ rest) =
      (hexEscape (a :: b :: d :: e :: (Glyph.tail gs ++ rest)) >>= fun (x, k) =>
        stringBody (x :: acc) k (a :: b :: d :: e :: (Glyph.tail gs ++ rest))) := by
  rw [Glyph.tail_cons]
  exact stringBody_hex acc _

/-- A string is read as the characters that its glyphs name, behind those of `acc`. -/
theorem agrees_tail (gs : List Glyph) (acc rest : List Char) :
    Agrees rest ((Glyph.chars? gs).map (acc.reverse ++ ·))
      (stringBody acc 0 (Glyph.tail gs ++ rest)) := by
  -- the cases are those of `chars?`: it takes two glyphs at once where they are halves of a character
  induction gs using Glyph.chars?.induct generalizing acc with
  | case1 =>
    exact congrArg (fun s => Except.ok (s, rest)) (List.append_nil acc.reverse).symm
  | case2 c h gs ih =>
    rw [Glyph.tail_cons, Glyph.chars?, map_append_cons]
    change Agrees rest _ (stringBody acc 0 (c :: (Glyph.tail gs ++ rest)))
    rw [stringBody_plain h]
    exact ih (c :: acc)
  | case3 c d h gs ih =>
    rw [Glyph.tail_cons, Glyph.chars?, map_append_cons]
    change Agrees rest _ (stringBody acc 0 ('\\' :: d :: (Glyph.tail gs ++ rest)))
    rw [stringBody_letter h]
    exact ih (c :: acc)
  | case4 a b c d n h gs hlow =>
    rw [Glyph.chars?_digits, if_pos hlow, stringBody_digits, hexEscape_digits h, if_pos hlow]
    exact ⟨_, rfl⟩
  | case5 a b c d n h hlow hhigh a' b' c' d' m h' gs hm ih =>
    let x := Char.ofNat ((n - 0xD800) * 0x400 + (m - 0xDC00) + 0x10000)
    have hescape : hexEscape (a :: b :: c :: d ::
        (Glyph.tail (.digits a' b' c' d' m h' :: gs) ++ rest)) = .ok (x, 10) := by
      rw [hexEscape_digits h, if_neg hlow, if_pos hhigh, Glyph.tail_cons]
      exact (otherHalf_digits h' n _).trans (if_pos hm)
    rw [Glyph.chars?_digits, if_neg hlow, if_pos hhigh]
    dsimp only
    rw [if_pos hm, map_append_cons, stringBody_digits, hescape, Glyph.tail_cons]
    exact ih (x :: acc)
  | case6 a b c d n h hlow hhigh a' b' c' d' m h' gs hm =>
    have hfirst : ∀ a b c d k hk gs', Glyph.digits a' b' c' d' m h' :: gs =
        Glyph.digits a b c d k hk :: gs' → isLowSurrogate k = false := by
      intro _ _ _ _ _ _ _ heq
      cases heq
      simpa using hm
    obtain ⟨f, hf⟩ := exists_error_otherHalf hfirst n rest
    rw [Glyph.chars?_digits, if_neg hlow, if_pos hhigh]
    dsimp only
    rw [if_neg hm, stringBody_digits, hexEscape_digits h, if_neg hlow, if_pos hhigh, hf]
    exact ⟨f, rfl⟩
  | case7 a b c d n h gs hlow hhigh hgs =>
    obtain ⟨f, hf⟩ := exists_error_otherHalf
      (fun a b c d m h gs' heq => (hgs a b c d m h gs' heq).elim) n rest
    have hnone : Glyph.chars? (.digits a b c d n h :: gs) = none := by
      rw [Glyph.chars?_digits, if_neg hlow, if_pos hhigh]
      split
      · next heq => exact (hgs _ _ _ _ _ _ _ rfl).elim
      · rfl
    rw [hnone, stringBody_digits, hexEscape_digits h, if_neg hlow, if_pos hhigh, hf]
    exact ⟨f, rfl⟩
  | case8 a b c d n h gs hlow hhigh ih =>
    rw [Glyph.chars?_digits, if_neg hlow, if_neg hhigh, map_append_cons, stringBody_digits,
      hexEscape_digits h, if_neg hlow, if_neg hhigh]
    exact ih (Char.ofNat n :: acc)

theorem agrees_string (gs : List Glyph) (rest : List Char) :
    Agrees rest (Glyph.chars? gs) (stringBody [] 0 (Glyph.tail gs ++ rest)) := by
  have h := agrees_tail gs [] rest
  rwa [List.reverse_nil, Option.map_congr fun cs _ => List.nil_append cs, Option.map_id'] at h

/-- The four digits of a control character. -/
theorem hexFour_control (h : n < 32) :
    hexFour ['0', '0', Nat.digitChar (n / 16), Nat.digitChar (n % 16)] = .ok n := by
  have hdigits : ∀ m < 32, hexValue (Nat.digitChar (m / 16)) = some (m / 16) ∧
      hexValue (Nat.digitChar (m % 16)) = some (m % 16) := by decide
  obtain ⟨hhigh, hlow⟩ := hdigits n h
  have hzero : hexValue '0' = some 0 := by decide
  have hn : ((0 * 16 + 0) * 16 + n / 16) * 16 + n % 16 = n := by omega
  simp only [hexFour, hzero, hhigh, hlow, hn]

theorem not_surrogate_of_control (h : n < 32) :
    isLowSurrogate n = false ∧ isHighSurrogate n = false := by
  rw [isLowSurrogate, isHighSurrogate, Bool.and_eq_false_iff, Bool.and_eq_false_iff]
  simp only [decide_eq_false_iff_not]
  omega

/-- A character is written as a short escape, as a control character by its digits, or as it is. -/
theorem exists_glyph (c : Char) : ∃ g, Glyph.text g = escape c ∧
    ∀ gs, Glyph.chars? (g :: gs) = (Glyph.chars? gs).map (c :: ·) := by
  have hletter (d : Char) (hd : shortEscape d = some c) (he : escape c = ['\\', d]) :
      ∃ g, Glyph.text g = escape c ∧
        ∀ gs, Glyph.chars? (g :: gs) = (Glyph.chars? gs).map (c :: ·) :=
    ⟨.letter c d hd, he.symm, fun gs => by rw [Glyph.chars?]⟩
  unfold escape at hletter ⊢
  split_ifs at hletter ⊢ with hquote hslash hb hf hn hr ht hcontrol
  · exact hletter '"' (by rw [hquote]; rfl) rfl
  · exact hletter '\\' (by rw [hslash]; rfl) rfl
  · exact hletter 'b' (by rw [hb]; rfl) rfl
  · exact hletter 'f' (by rw [hf]; rfl) rfl
  · exact hletter 'n' (by rw [hn]; rfl) rfl
  · exact hletter 'r' (by rw [hr]; rfl) rfl
  · exact hletter 't' (by rw [ht]; rfl) rfl
  · obtain ⟨hlow, hhigh⟩ := not_surrogate_of_control hcontrol
    refine ⟨.digits _ _ _ _ c.toNat (hexFour_control hcontrol), rfl, fun gs => ?_⟩
    rw [Glyph.chars?_digits, hlow, hhigh, Char.ofNat_toNat]
    rfl
  · exact ⟨.plain c ⟨hquote, hslash, hcontrol⟩, rfl, fun gs => by rw [Glyph.chars?]⟩

/-- The text of a string behind its opening quote. -/
def stringTail (s : String) : List Char := s.toList.flatMap escape ++ ['"']

theorem stringText_eq (s : String) : stringText s = '"' :: stringTail s := rfl

theorem exists_glyphs (cs : List Char) :
    ∃ gs, gs.flatMap Glyph.text = cs.flatMap escape ∧ Glyph.chars? gs = some cs := by
  induction cs with
  | nil => exact ⟨[], rfl, by rw [Glyph.chars?]⟩
  | cons c cs ih =>
    obtain ⟨gs, htext, hchars⟩ := ih
    obtain ⟨g, hg, hcons⟩ := exists_glyph c
    refine ⟨g :: gs, ?_, ?_⟩
    · rw [List.flatMap_cons, List.flatMap_cons, hg, htext]
    · rw [hcons, hchars]
      rfl

/-- A string has glyphs that name its characters and make up its compact text. -/
theorem exists_tail (s : String) :
    ∃ gs, Glyph.tail gs = stringTail s ∧ Glyph.chars? gs = some s.toList := by
  obtain ⟨gs, htext, hchars⟩ := exists_glyphs s.toList
  exact ⟨gs, by rw [Glyph.tail, htext, stringTail], hchars⟩

theorem stringBody_stringTail (s : String) (rest : List Char) :
    stringBody [] 0 (stringTail s ++ rest) = .ok (s.toList, rest) := by
  obtain ⟨gs, htail, hchars⟩ := exists_tail s
  have hread := agrees_string gs rest
  rw [hchars, htail] at hread
  exact hread

end BotBindings.Json
