import BotBindings.Decimal.Shortest
import BotBindings.Json.Value

/-!
Numbers as a reader takes them: an integer if it is written as one and fits in 64 bits, else a
double. Digits beyond 64 bits of precision only count towards the power of ten.
-/
namespace BotBindings.Json

/-- `significand * 10 ^ exponent`, negated if so. -/
structure Scientific where
  negative : Bool
  significand : Nat
  exponent : Int

def tenTo (n : Nat) : Float := Float.ofScientific 1 false n

/-- Divides by powers of ten up to `10 ^ 308` until the exponent is used up. -/
def divideDown : Nat → Float → Nat → Float
  | 0, f, _ => f
  | n + 1, f, e => if e ≤ 308 then f / tenTo e else divideDown n (f / tenTo 308) (e - 308)

/-- The double of a decimal, or nothing when it is too large. -/
def Scientific.toFloat? (d : Scientific) : Option Float :=
  let f := d.significand.toUInt64.toFloat
  let scaled :=
    if d.exponent < 0 then some (divideDown 4 f d.exponent.natAbs)
    else if d.exponent ≤ 308 then
      let g := f * tenTo d.exponent.toNat
      if g.isInf then none else some g
    else if d.significand = 0 then some f
    else none
  scaled.map fun f => if d.negative then -f else f

/-- Digits with the point inside or behind them up to sixteen places, up to four zeros in front of
them, and a power of ten beyond. -/
def floatText (f : Float) : String :=
  let bits := f.toBits.toNat
  let sign := if bits / Nat.pow 2 63 = 1 then "-" else ""
  let magnitude := bits % Nat.pow 2 63
  if magnitude = 0 then sign ++ "0.0"
  else
    let s := (Decimal.Binary.ofBits magnitude).shortest
    let digits := decimal s.digits
    let point := digits.length + s.exponent
    let body :=
      if 0 ≤ s.exponent && point ≤ 16 then
        digits ++ List.replicate s.exponent.toNat '0' ++ ['.', '0']
      else if 0 < point && point ≤ 16 then
        digits.take point.toNat ++ '.' :: digits.drop point.toNat
      else if -5 < point && point ≤ 0 then
        ['0', '.'] ++ List.replicate (-point).toNat '0' ++ digits
      else
        let e := point - 1
        digits.take 1 ++ (if digits.length = 1 then [] else '.' :: digits.drop 1) ++
          'e' :: (if e < 0 then ['-'] else []) ++ decimal e.natAbs
    sign ++ String.ofList body

end BotBindings.Json
