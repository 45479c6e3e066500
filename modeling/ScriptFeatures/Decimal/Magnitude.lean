namespace ScriptFeatures.Decimal

/-- A non-negative binary64 number. -/
inductive Magnitude where
  /-- `n` units of 2^-1074. -/
  | finite (n : Nat)
  | infinite
deriving DecidableEq, Inhabited, Repr

/-- The quotient rounded to the nearest whole number; of two equally near ones the even one. -/
def roundQuotient (num den : Nat) : Nat :=
  let q := num / den
  let r := num % den
  if 2 * r < den then q
  else if den < 2 * r then q + 1
  else if q % 2 = 0 then q
  else q + 1

namespace Magnitude

/-- The spacing, in units, of the binary64 numbers from `n` units up to the next power of two. A
number has at most 53 significant bits. -/
def spacing (n : Nat) : Nat := if n < Nat.pow 2 53 then 1 else Nat.pow 2 (n.log2 - 52)

/-- The number of units at which the finite numbers end. -/
def limit : Nat := Nat.pow 2 (1024 + 1074)

/-- The number nearest to `digits / 10 ^ places`, with ties going to the even neighbour; past the
largest finite number lies infinity. -/
def ofDecimal (digits places : Nat) : Magnitude :=
  let num := digits * Nat.pow 2 1074
  let den := Nat.pow 10 places
  let step := spacing (num / den)
  let n := roundQuotient num (den * step) * step
  if n < limit then .finite n else .infinite

/-- The order of the numbers, infinity last. -/
def le : Magnitude → Magnitude → Bool
  | .finite m, .finite n => m ≤ n
  | _, .infinite => true
  | .infinite, .finite _ => false

instance : LE Magnitude := ⟨fun a b => a.le b = true⟩

instance (a b : Magnitude) : Decidable (a ≤ b) := inferInstanceAs (Decidable (a.le b = true))

/-- The larger of two numbers. -/
protected def max (a b : Magnitude) : Magnitude := if a ≤ b then b else a

instance : Max Magnitude := ⟨Magnitude.max⟩

end Magnitude
end ScriptFeatures.Decimal
