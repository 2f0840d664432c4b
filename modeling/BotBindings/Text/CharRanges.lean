namespace BotBindings.Text

/-- Closed ranges of code points, in ascending order. -/
abbrev CharRanges := List (Nat × Nat)

def CharRanges.has (r : CharRanges) (c : Char) : Bool :=
  r.any fun (lo, hi) => lo ≤ c.toNat && c.toNat ≤ hi

end BotBindings.Text
