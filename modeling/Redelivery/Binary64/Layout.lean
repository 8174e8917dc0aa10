import Redelivery.Binary64.Shortest

/-!
# Layouts of floating-point text

A layout says how the shortest digits of a number are written: which exponents
are written out in places, whether a whole number keeps a fraction, and how a
value that is not a number shows its sign.  Two layouts are in use, the one of
messages and the one of configuration text.
-/

namespace Redelivery.Binary64

/-- The decisions of a written form. -/
structure Layout where
  /-- Numbers from `10 ^ least` on are written in places. -/
  least : Option Int
  /-- Numbers below `10 ^ bound` are written in places. -/
  bound : Option Int
  /-- A whole number written in places ends in `.0`. -/
  wholeFraction : Bool
  /-- A value that is not a number shows a minus sign. -/
  signedNan : Bool
  deriving DecidableEq, Repr

namespace Layout

/-- Messages write every number in places, and whole numbers without a
fraction. -/
def message : Layout :=
  { least := none, bound := none, wholeFraction := false, signedNan := false }

/-- Configuration text writes an exponent below `1e-5` and from `1e16` on, and
a fraction after every whole number in places. -/
def notation16 : Layout :=
  { least := some (-5), bound := some 16, wholeFraction := true, signedNan := true }

/-- Whether digits that start at `10 ^ leading` are written in places. -/
def inPlaces (layout : Layout) (leading : Int) : Bool :=
  layout.least.all (fun least => decide (least ≤ leading)) &&
    layout.bound.all (fun bound => decide (leading < bound))

/-- Digits in places, the point `point` digits after their start. -/
def places (layout : Layout) (digits : List Char) (point : Int) : List Char :=
  if point ≤ 0 then
    '0' :: '.' :: List.replicate (-point).toNat '0' ++ digits
  else if digits.length ≤ point.toNat then
    digits ++ List.replicate (point.toNat - digits.length) '0' ++
      (if layout.wholeFraction then ['.', '0'] else [])
  else
    digits.take point.toNat ++ '.' :: digits.drop point.toNat

/-- One digit, the rest as its fraction, and the exponent of that digit. -/
def scientific (digits : List Char) (leading : Int) : List Char :=
  let fraction := digits.drop 1
  digits.take 1 ++ (if fraction.isEmpty then [] else '.' :: fraction) ++
    'e' :: (toString leading).toList

/-- The text of a magnitude. -/
def magnitude (layout : Layout) (numeral : DecimalNumeral) : List Char :=
  if numeral.digits = 0 then
    if layout.wholeFraction then ['0', '.', '0'] else ['0']
  else
    let digits := Nat.toDigits 10 numeral.digits
    let point := digits.length + numeral.exponent
    if layout.inPlaces (point - 1) then layout.places digits point
    else scientific digits (point - 1)

/-- The text of a number. -/
def render (layout : Layout) (number : Binary64) : String :=
  let signed (negative : Bool) (text : List Char) : String :=
    String.ofList (if negative then '-' :: text else text)
  match number.reading with
  | .nan negative => signed (negative && layout.signedNan) "NaN".toList
  | .infinite negative => signed negative "inf".toList
  | .finite negative mantissa exponent =>
      signed negative (layout.magnitude (shortest mantissa exponent))

end Layout

end Redelivery.Binary64
