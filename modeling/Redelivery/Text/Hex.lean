/-!
# Hexadecimal text

Lower-case hexadecimal digits of numbers and bytes, and bytes read back from
them.
-/

namespace Redelivery.Text

/-- The lower-case hexadecimal digits of a number, without zeros in front. -/
def hexDigits (number : Nat) : List Char :=
  Nat.toDigits 16 number

/-- Digits filled up to a width with zeros in front. -/
def padZeros (width : Nat) (digits : List Char) : List Char :=
  List.replicate (width - digits.length) '0' ++ digits

/-- The value of a hexadecimal digit of either case. -/
def hexValue? (char : Char) : Option Nat :=
  let point := char.toNat
  if 48 ≤ point ∧ point ≤ 57 then some (point - 48)
  else if 97 ≤ point ∧ point ≤ 102 then some (point - 87)
  else if 65 ≤ point ∧ point ≤ 70 then some (point - 55)
  else none

/-- Two digits a byte. -/
def hexOfBytes (bytes : List UInt8) : List Char :=
  bytes.flatMap fun byte => padZeros 2 (hexDigits byte.toNat)

/-- Bytes from pairs of digits. -/
def bytesOfHex? : List Char → Option (List UInt8)
  | [] => some []
  | [_] => none
  | first :: second :: rest => do
      let high ← hexValue? first
      let low ← hexValue? second
      let bytes ← bytesOfHex? rest
      pure (UInt8.ofNat (16 * high + low) :: bytes)

end Redelivery.Text
