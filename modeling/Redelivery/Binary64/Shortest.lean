import Redelivery.Binary64

/-!
# The shortest decimal that reads back

A finite number is the nearest one to every real in an interval around it; the
ends belong to the interval exactly when the mantissa is even.  The shortest
decimal of the number is the one of fewest digits inside the interval, and of
those the one nearest to the number.

All comparisons are between natural numbers.  The number and the ends of its
interval are counted in quarters of the last place, so that the nearer lower
neighbour of a power of two is covered too.
-/

namespace Redelivery.Binary64

/-- A decimal `digits * 10 ^ exponent`. -/
structure DecimalNumeral where
  digits : Nat
  exponent : Int
  deriving DecidableEq, Repr

namespace DecimalNumeral

/-- Drop the zeros at the end of the digits, at most `bound` of them. -/
def trim (numeral : DecimalNumeral) : (bound : Nat) → DecimalNumeral
  | 0 => numeral
  | bound + 1 =>
      if numeral.digits % 10 = 0 then
        trim ⟨numeral.digits / 10, numeral.exponent + 1⟩ bound
      else numeral

end DecimalNumeral

/-- The reals that read as one number, in quarters of its last place. -/
structure RoundingInterval where
  low : Nat
  value : Nat
  high : Nat
  closed : Bool
  /-- The quarter of the last place is `2 ^ quarter`. -/
  quarter : Int
  deriving Repr

namespace RoundingInterval

/-- The interval of `mantissa * 2 ^ exponent`. -/
def around (mantissa : Nat) (exponent : Int) : RoundingInterval :=
  let halfBelow :=
    if mantissa = leastNormal ∧ leastExponent < exponent then 1 else 2
  { low := 4 * mantissa - halfBelow
    value := 4 * mantissa
    high := 4 * mantissa + 2
    closed := mantissa % 2 = 0
    quarter := exponent - 2 }

/-- A quarter of the last place in units of `10 ^ grid`, as a fraction. -/
def quarterOn (interval : RoundingInterval) (grid : Int) : Nat × Nat :=
  (Nat.pow 2 interval.quarter.toNat * Nat.pow 10 (-grid).toNat,
    Nat.pow 2 (-interval.quarter).toNat * Nat.pow 10 grid.toNat)

/-- Whether `count * 10 ^ grid` lies in the interval. -/
def holds (interval : RoundingInterval) (grid : Int) (count : Nat) : Bool :=
  let (numerator, denominator) := interval.quarterOn grid
  let point := count * denominator
  let low := interval.low * numerator
  let high := interval.high * numerator
  if interval.closed then decide (low ≤ point ∧ point ≤ high)
  else decide (low < point ∧ point < high)

/-- The point of a grid that lies in the interval nearest to the value.  If any
point does, one of the value's two neighbours does. -/
def nearestOn? (interval : RoundingInterval) (grid : Int) : Option Nat :=
  let (numerator, denominator) := interval.quarterOn grid
  let below := interval.value * numerator / denominator
  let belowGap := interval.value * numerator - below * denominator
  let aboveGap := (below + 1) * denominator - interval.value * numerator
  let belowFits := interval.holds grid below
  let aboveFits := interval.holds grid (below + 1)
  if belowFits && (!aboveFits || decide (belowGap < aboveGap)) then some below
  else if aboveFits then some (below + 1)
  else none

/-- The decimal exponent of the leading digit of the value. -/
def leading (interval : RoundingInterval) : Int :=
  -- no positive number is below `10 ^ (-324)`
  let (numerator, denominator) := interval.quarterOn (-340)
  ((Nat.toDigits 10 (interval.value * numerator / denominator)).length : Int) - 341

/-- Try grids from coarse to fine. -/
def firstFrom (interval : RoundingInterval) (grid : Int) :
    (attempts : Nat) → DecimalNumeral
  | 0 => ⟨interval.value, 0⟩
  | attempts + 1 =>
      match interval.nearestOn? grid with
      | some count => ⟨count, grid⟩
      | none => firstFrom interval (grid - 1) attempts

end RoundingInterval

/-- The shortest decimal that reads as `mantissa * 2 ^ exponent`; 17 digits
always suffice. -/
def shortest (mantissa : Nat) (exponent : Int) : DecimalNumeral :=
  if mantissa = 0 then ⟨0, 0⟩
  else
    let interval := RoundingInterval.around mantissa exponent
    (interval.firstFrom interval.leading 18).trim 20

end Redelivery.Binary64
