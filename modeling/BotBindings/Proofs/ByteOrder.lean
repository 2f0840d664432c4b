import Mathlib.Tactic.SplitIfs

namespace BotBindings.Text

/-- The UTF-8 bytes of a text. -/
def bytes (s : String) : List UInt8 := s.toUTF8.data.toList

theorem bytes_eq (s : String) : bytes s = s.toList.flatMap String.utf8EncodeChar := by
  have h : (String.ofList s.toList).toByteArray = _ := String.toByteArray_ofList
  rw [String.ofList_toList, List.utf8Encode] at h
  simp [bytes, h]

theorem char_lt (c : Char) : c.val.toNat < 0x110000 := by
  have h : c.val.toNat.isValidChar := c.valid
  simp only [Nat.isValidChar] at h
  omega

/-- The bits of a character in the four groups that its bytes carry. -/
theorem exists_groups {n : Nat} (h : n < 0x110000) : ∃ a b c d,
    (a < 5 ∧ b < 64 ∧ c < 64 ∧ d < 64) ∧ n = 0x40000 * a + 0x1000 * b + 0x40 * c + d ∧
      n / 0x40000 % 0x08 = a ∧ n / 0x1000 % 0x40 = b ∧ n / 0x1000 % 0x10 = b % 0x10 ∧
      n / 0x40 % 0x40 = c ∧ n / 0x40 % 0x20 = c % 0x20 ∧ n % 0x40 = d :=
  ⟨n / 0x40000, n / 0x1000 % 0x40, n / 0x40 % 0x40, n % 0x40, by omega⟩

theorem utf8EncodeChar_append_lt {c d : Char} (h : c < d) (x y : List UInt8) :
    String.utf8EncodeChar c ++ x < String.utf8EncodeChar d ++ y := by
  have hlt : c.val.toNat < d.val.toNat := h
  obtain ⟨a, b, e, f, hc, hm, hg⟩ := exists_groups (char_lt c)
  obtain ⟨a', b', e', f', hd, hn, hg'⟩ := exists_groups (char_lt d)
  simp only [String.utf8EncodeChar, hg, hg']
  rw [hm, hn] at hlt ⊢
  clear hm hn hg hg'
  -- one goal for each pair of lengths that can occur
  split_ifs <;>
    simp [List.cons_lt_cons_iff, UInt8.lt_iff_toNat_lt, ← UInt8.toNat_inj] <;> omega

theorem flatMap_utf8EncodeChar_lt {cs ds : List Char} (h : cs < ds) :
    cs.flatMap String.utf8EncodeChar < ds.flatMap String.utf8EncodeChar := by
  induction h with
  | @nil d ds =>
    rw [List.flatMap_nil, List.flatMap_cons]
    cases hd : String.utf8EncodeChar d with
    | nil => exact absurd hd String.utf8EncodeChar_ne_nil
    | cons b bs => exact List.nil_lt_cons _ _
  | rel h => exact utf8EncodeChar_append_lt h _ _
  | cons _ ih =>
    rw [List.flatMap_cons, List.flatMap_cons]
    exact List.append_left_lt ih

theorem bytes_lt {s t : String} (h : s < t) : bytes s < bytes t := by
  rw [bytes_eq, bytes_eq]
  exact flatMap_utf8EncodeChar_lt h

end BotBindings.Text
