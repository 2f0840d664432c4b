namespace BotBindings.Text

/-- The rest of a text that begins with `front`. -/
def behind? : (front cs : List Char) → Option (List Char)
  | [], cs => some cs
  | _ :: _, [] => none
  | f :: front, c :: cs => if c = f then behind? front cs else none

theorem behind?_eq_some_iff {front cs rest : List Char} :
    behind? front cs = some rest ↔ cs = front ++ rest := by
  induction front generalizing cs with
  | nil => simp [behind?, eq_comm]
  | cons f front ih =>
    cases cs with
    | nil => simp [behind?]
    | cons c cs =>
      unfold behind?
      split
      · next h => simp [ih, h]
      · next h => simp [h]

def begins (front : String) (s : String) : Bool := (behind? front.toList s.toList).isSome

end BotBindings.Text
