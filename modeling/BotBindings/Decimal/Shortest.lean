/-!
The shortest decimal that reads back as a given binary fraction, in exact arithmetic.
-/
namespace BotBindings.Decimal

/-- A positive number `mantissa * 2 ^ exponent` with the reals that round to it: from half a step
below, or a quarter of one where the steps below are half as wide, to half a step above. -/
structure Binary where
  mantissa : Nat
  exponent : Int
  narrowBelow : Bool

/-- `digits * 10 ^ exponent`. -/
structure Scaled where
  digits : Nat
  exponent : Int

/-- The number of a finite positive double. -/
def Binary.ofBits (bits : Nat) : Binary :=
  let fraction : Nat := bits % Nat.pow 2 52
  let biased : Nat := bits / Nat.pow 2 52 % Nat.pow 2 11
  if biased = 0 then ⟨fraction, -1074, false⟩
  else ⟨fraction + Nat.pow 2 52, biased - 1075, fraction == 0 && biased != 1⟩

/-- Four times the number and the bounds of its interval, all over one denominator. -/
structure Quarters where
  value : Nat
  low : Nat
  high : Nat
  den : Nat
  closed : Bool

def Binary.quarters (b : Binary) : Quarters :=
  let scale := if 0 ≤ b.exponent then Nat.pow 2 b.exponent.toNat else 1
  let den := if 0 ≤ b.exponent then 4 else 4 * Nat.pow 2 (-b.exponent).toNat
  { value := 4 * b.mantissa * scale
    low := (4 * b.mantissa - if b.narrowBelow then 1 else 2) * scale
    high := (4 * b.mantissa + 2) * scale
    den
    closed := b.mantissa % 2 == 0 }

def Quarters.holds (q : Quarters) (num den : Nat) : Bool :=
  if q.closed then q.low * den ≤ num * q.den && num * q.den ≤ q.high * den
  else q.low * den < num * q.den && num * q.den < q.high * den

/-- `n * 10 ^ e` as numerator and denominator. -/
def atPower (n : Nat) (e : Int) : Nat × Nat :=
  if 0 ≤ e then (n * Nat.pow 10 e.toNat, 1) else (n, Nat.pow 10 (-e).toNat)

/-- The neighbour of the number on the grid `10 ^ e` that reads back and lies nearest, if any. -/
def Quarters.onGrid? (q : Quarters) (e : Int) : Option Scaled :=
  let (unit, per) := atPower 1 e
  let below := q.value * per / (q.den * unit)
  let fits := fun n => let (num, den) := atPower n e; q.holds num den
  let toBelow := q.value * per - below * q.den * unit
  let toAbove := (below + 1) * q.den * unit - q.value * per
  match 0 < below && fits below, fits (below + 1) with
  | true, true => some ⟨if toBelow ≤ toAbove then below else below + 1, e⟩
  | true, false => some ⟨below, e⟩
  | false, true => some ⟨below + 1, e⟩
  | false, false => none

/-- The coarsest of the grids `10 ^ e`, `10 ^ (e - 1)`, … with a hit. -/
def Quarters.search (q : Quarters) : Nat → Int → Scaled
  | 0, e => ⟨0, e⟩
  | n + 1, e => (q.onGrid? e).getD (q.search n (e - 1))

/-- Removes the zeros at the end of the digits. -/
def Scaled.trimmed (s : Scaled) : Nat → Scaled
  | 0 => s
  | n + 1 =>
    if s.digits % 10 = 0 && s.digits != 0 then (Scaled.mk (s.digits / 10) (s.exponent + 1)).trimmed n
    else s

/-- No decimal of fewer digits lies in the interval of `b`, and none of as many lies nearer. -/
def Binary.shortest (b : Binary) : Scaled :=
  (b.quarters.search 700 310).trimmed 20

end BotBindings.Decimal
