/-!
# Binary floating-point numbers of 64 bits

A number is its 64 bits in the binary64 interchange format.  Reading the bits
gives a sign, a whole mantissa and a power of two, so that every statement
about a finite number is one about natural numbers.  The module defines the
reading, the classes of numbers, the order against one, and the nearest number
to a positive fraction, ties going to the even mantissa.
-/

namespace Redelivery

/-- A number in the binary64 interchange format, as its bits. -/
structure Binary64 where
  bits : UInt64
  deriving DecidableEq, Repr

namespace Binary64

/-- What the bits of a number say.  A finite number is
`± mantissa * 2 ^ exponent`. -/
inductive Reading where
  | nan (negative : Bool)
  | infinite (negative : Bool)
  | finite (negative : Bool) (mantissa : Nat) (exponent : Int)
  deriving DecidableEq, Repr

/-- The first mantissa that has all 53 bits. -/
def leastNormal : Nat :=
  Nat.pow 2 52

/-- The exponent of the numbers nearest to zero. -/
def leastExponent : Int :=
  -1074

/-- Read sign, mantissa and exponent off the bits. -/
def reading (number : Binary64) : Reading :=
  let bits := number.bits.toNat
  let negative := bits / Nat.pow 2 63 == 1
  let biased := bits / Nat.pow 2 52 % 2048
  let fraction := bits % Nat.pow 2 52
  if biased = 2047 then
    if fraction = 0 then .infinite negative else .nan negative
  else if biased = 0 then
    .finite negative fraction leastExponent
  else
    .finite negative (leastNormal + fraction) (leastExponent + (biased - 1 : Nat))

/-- The bits of a sign and a magnitude, which are below `2 ^ 63`. -/
def ofMagnitude (negative : Bool) (magnitude : Nat) : Binary64 :=
  ⟨UInt64.ofNat (if negative then Nat.pow 2 63 + magnitude else magnitude)⟩

/-- The bits of infinity without its sign. -/
def infiniteMagnitude : Nat :=
  2047 * Nat.pow 2 52

/-- The infinity of either sign. -/
def infinity (negative : Bool) : Binary64 :=
  ofMagnitude negative infiniteMagnitude

/-- The quiet value that is not a number. -/
def nan (negative : Bool) : Binary64 :=
  ofMagnitude negative (infiniteMagnitude + Nat.pow 2 51)

/-- The zero of either sign. -/
def zero (negative : Bool) : Binary64 :=
  ofMagnitude negative 0

/-- The number with these bytes, the most significant one first. -/
def ofBytes (bytes : List UInt8) : Binary64 :=
  ⟨bytes.foldl (fun bits byte => bits * 256 + byte.toUInt64) 0⟩

/-- The same number, with one representation of the value that is not a number. -/
def canonical (number : Binary64) : Binary64 :=
  match number.reading with
  | .nan _ => nan false
  | _ => number

/-- Neither infinite nor a value that is not a number. -/
def isFinite (number : Binary64) : Bool :=
  match number.reading with
  | .finite .. => true
  | _ => false

/-- Whether a number is below one.  Nothing is below one or above it that is
not a number. -/
def isBelowOne (number : Binary64) : Bool :=
  match number.reading with
  | .nan _ => false
  | .infinite negative => negative
  | .finite negative mantissa exponent =>
      negative || decide (mantissa * Nat.pow 2 exponent.toNat < Nat.pow 2 (-exponent).toNat)

/-! ## Rounding to whole mantissas -/

/-- Divide, rounding to the nearest whole number; the half goes to the even
neighbour. -/
def divideToEven (numerator denominator : Nat) : Nat :=
  let quotient := numerator / denominator
  let doubled := 2 * (numerator % denominator)
  if doubled < denominator then quotient
  else if denominator < doubled then quotient + 1
  else quotient + quotient % 2

/-- A whole number to 53 significant bits: a mantissa and the power of two that
it stands for.  The mantissa is `2 ^ 53` when the rounding carries. -/
def significant (whole : Nat) : Nat × Nat :=
  let excess := whole.log2 - 52
  (divideToEven whole (Nat.pow 2 excess), excess)

/-- The magnitude bits of the number nearest to a fraction. A fraction that is
too large for every finite number gives infinity. -/
def magnitudeNearest (numerator denominator : Nat) : Nat :=
  if numerator = 0 then 0
  else
    let scaled (exponent : Int) : Nat × Nat :=
      (numerator * Nat.pow 2 (-exponent).toNat, denominator * Nat.pow 2 exponent.toNat)
    let guess := max leastExponent
      ((numerator.log2 : Int) - (denominator.log2 : Int) - 52)
    let below := scaled guess
    let exponent :=
      if below.1 / below.2 < leastNormal then max leastExponent (guess - 1)
      else guess
    let parts := scaled exponent
    let mantissa := divideToEven parts.1 parts.2
    let magnitude := mantissa + (exponent - leastExponent).toNat * Nat.pow 2 52
    min magnitude infiniteMagnitude

/-- The number nearest to `± numerator / denominator`. -/
def nearest (negative : Bool) (numerator denominator : Nat) : Binary64 :=
  ofMagnitude negative (magnitudeNearest numerator denominator)

/-- The number nearest to the decimal `± digits * 10 ^ exponent`. -/
def ofDecimal (negative : Bool) (digits : Nat) (exponent : Int) : Binary64 :=
  -- past these exponents every numeral is infinite, or zero
  if digits = 0 ∨ exponent < -(400 + digits.log2 : Nat) then zero negative
  else if 400 < exponent then infinity negative
  else nearest negative (digits * Nat.pow 10 exponent.toNat) (Nat.pow 10 (-exponent).toNat)

end Binary64

end Redelivery
