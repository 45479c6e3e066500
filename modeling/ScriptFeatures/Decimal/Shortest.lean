import ScriptFeatures.Decimal.Magnitude

namespace ScriptFeatures.Decimal

/-- The decimal `digits * 10 ^ exponent`. -/
structure Scaled where
  digits : Nat
  exponent : Int
deriving DecidableEq, Repr

/-- The reals that round to a number, in quarters of a unit: the ends belong to them when the
number's significand is even. Below a power of two the numbers lie twice as close. -/
structure Interval where
  value : Nat
  low : Nat
  high : Nat
  closed : Bool

namespace Interval

/-- The interval of `n` units. -/
def ofUnits (n : Nat) : Interval :=
  let step := Magnitude.spacing n
  let below := if step ≠ 1 ∧ n = Nat.pow 2 n.log2 then step else 2 * step
  { value := 4 * n, low := 4 * n - below, high := 4 * n + 2 * step, closed := (n / step) % 2 = 0 }

/-- Whether `x / scale` quarters lie in the interval. -/
def contains (i : Interval) (x scale : Nat) : Bool :=
  if i.closed then i.low * scale ≤ x && x ≤ i.high * scale
  else i.low * scale < x && x < i.high * scale

/-- The multiple of `10 ^ exponent` that is nearest to the value, if one lies in the interval. -/
def decimalAt? (i : Interval) (exponent : Int) : Option Scaled :=
  let scale := Nat.pow 10 (-exponent).toNat
  let grid := Nat.pow 10 exponent.toNat * Nat.pow 2 1076
  let k := i.value * scale / grid
  let lower := i.contains (k * grid) scale
  let upper := i.contains ((k + 1) * grid) scale
  if lower && upper then
    if (i.value * scale - k * grid) * 2 < grid then some ⟨k, exponent⟩ else some ⟨k + 1, exponent⟩
  else if lower then some ⟨k, exponent⟩
  else if upper then some ⟨k + 1, exponent⟩
  else none

end Interval

/-- The exponents at which a shortest decimal may stand, the largest first: no finite number
reaches 10^309, and every one is a multiple of 10^-1074. -/
def candidateExponents : List Int := (List.range (309 + 1074 + 1)).map fun i : Nat => 309 - (i : Int)

/-- The shortest decimal that reads back as `n` units; of those with the fewest digits the nearest
one. -/
def shortest (n : Nat) : Scaled :=
  if n = 0 then ⟨0, 0⟩
  else (candidateExponents.findSome? (Interval.ofUnits n).decimalAt?).getD ⟨0, 0⟩

/-- The digits of a number in base ten. -/
def digitsText (n : Nat) : List Char := Nat.toDigits 10 n

/-- Writes a decimal positionally. -/
def Scaled.text (d : Scaled) : List Char :=
  if 0 ≤ d.exponent then digitsText d.digits ++ List.replicate d.exponent.toNat '0'
  else
    let places := (-d.exponent).toNat
    digitsText (d.digits / Nat.pow 10 places) ++ '.' ::
      let fraction := digitsText (d.digits % Nat.pow 10 places)
      List.replicate (places - fraction.length) '0' ++ fraction

/-- The text of a number: its shortest decimal, or `inf`. -/
def Magnitude.text : Magnitude → String
  | .finite n => String.ofList (shortest n).text
  | .infinite => "inf"

end ScriptFeatures.Decimal
