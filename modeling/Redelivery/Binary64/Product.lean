import Redelivery.Binary64

/-!
# Whole numbers times a floating factor

A whole number is brought to 53 significant bits, multiplied by the factor, and
the product is brought to 53 bits again.  The result is the nearest whole
number, a half going away from zero.  Exponents are not bounded on the way: a
product past the largest finite number is a whole number above every limit that
a caller sets, and a product too small for 53 bits rounds to zero either way.
-/

namespace Redelivery.Binary64

/-- The whole number nearest to `mantissa * 2 ^ exponent`; the half goes up. -/
def wholeNearest (mantissa : Nat) (exponent : Int) : Nat :=
  let unit := Nat.pow 2 (-exponent).toNat
  (2 * (mantissa * Nat.pow 2 exponent.toNat) + unit) / (2 * unit)

/-- A whole number times a factor, as a whole number.  There is none when the
product is not a number, infinite, or negative after the rounding. -/
def timesWhole (factor : Binary64) (whole : Nat) : Option Nat :=
  match factor.reading with
  | .finite negative mantissa exponent =>
      let (wholeMantissa, wholeShift) := significant whole
      let (productMantissa, productShift) := significant (wholeMantissa * mantissa)
      let product := wholeNearest productMantissa (exponent + wholeShift + productShift)
      if negative && product != 0 then none else some product
  | _ => none

end Redelivery.Binary64
