import Redelivery.Binary64
import Redelivery.Notation.Reader
import Redelivery.Text.Hex

/-!
# Numbers in configuration text

Whole numbers in four bases, with underscores between their digits and with the
width of their type behind them, and decimal numbers.
-/

namespace Redelivery.Notation

namespace Reader

/-- Digits of any base and the underscores between them. -/
def isDigitChar (char : Char) : Bool :=
  (Text.hexValue? char).isSome || char == '_'

/-- The characters of a decimal number. -/
def isDecimalChar (char : Char) : Bool :=
  char.isDigit || char == 'e' || char == 'E' || char == '.' || char == '+' || char == '-' ||
    char == '_'

/-- The base that a number is written in. -/
def base : Reader Nat := do
  if ← accept ['0', 'x'] then pure 16
  else if ← accept ['0', 'b'] then pure 2
  else if ← accept ['0', 'o'] then pure 8
  else pure 10

/-- The value of digits in a base; underscores between them do not count. -/
def digitsValue? (base : Nat) (digits : List Char) : Option Nat :=
  (digits.filter (· ≠ '_')).foldlM
    (fun value char => do
      let digit ← Text.hexValue? char
      guard (digit < base)
      pure (value * base + digit))
    0

/-- A whole number with its sign, without what may stand behind its digits. -/
def wholeDigits : Reader (Bool × Nat) := do
  let negative ← acceptChar '-'
  if !negative then let _ ← acceptChar '+'
  let base ← base
  let digits ← takeWhile isDigitChar
  guard (!digits.isEmpty && digits.head? ≠ some '_')
  let value ← StateT.lift (digitsValue? base digits)
  pure (negative, value)

/-- A whole number of a width in bits, which may be named behind it. -/
def unsigned (bits : Nat) : Reader Nat := do
  let (negative, value) ← wholeDigits
  guard (value < Nat.pow 2 bits && !(negative && value ≠ 0))
  let _ ← acceptWord ('u' :: (toString bits).toList)
  pure value

/-! ## Decimal numbers -/

/-- Drop the underscores of a decimal number.  One may only stand behind a digit,
behind the mark of the exponent or behind another one. -/
def dropUnderscores (allowed : Bool) : List Char → Option (List Char)
  | [] => some []
  | '_' :: rest => if allowed then dropUnderscores true rest else none
  | char :: rest =>
      (dropUnderscores (char.isDigit || char == 'e' || char == 'E') rest).map (char :: ·)

/-- The number of decimal digits. -/
def decimalValue (digits : List Char) : Nat :=
  digits.foldl (fun value char => value * 10 + (char.toNat - 48)) 0

/-- The exponent of a decimal number, zero if there is none. -/
def exponent? : List Char → Option Int
  | [] => some 0
  | mark :: rest =>
      let (negative, digits) := match rest with
        | '-' :: digits => (true, digits)
        | '+' :: digits => (false, digits)
        | _ => (false, rest)
      if (mark ≠ 'e' ∧ mark ≠ 'E') ∨ digits.isEmpty ∨ digits.any (fun char => !char.isDigit) then
        none
      else
        let value := decimalValue digits
        some (if negative then -(value : Int) else value)

/-- The number nearest to a decimal numeral: a sign, digits with a point among
them or at either end, and an exponent. -/
def decimal? (numeral : List Char) : Option Binary64 := do
  let (negative, unsigned) := match numeral with
    | '-' :: rest => (true, rest)
    | '+' :: rest => (false, rest)
    | _ => (false, numeral)
  let whole := unsigned.takeWhile Char.isDigit
  let afterWhole := unsigned.dropWhile Char.isDigit
  let (fraction, afterFraction) := match afterWhole with
    | '.' :: rest => (rest.takeWhile Char.isDigit, rest.dropWhile Char.isDigit)
    | _ => ([], afterWhole)
  guard !(whole.isEmpty && fraction.isEmpty)
  let exponent ← exponent? afterFraction
  pure (Binary64.ofDecimal negative (decimalValue (whole ++ fraction)) (exponent - fraction.length))

/-- Values that are named and not written in digits. -/
def namedNumbers : List (List Char × Binary64) :=
  [("inf".toList, Binary64.infinity false), ("+inf".toList, Binary64.infinity false),
    ("-inf".toList, Binary64.infinity true), ("NaN".toList, Binary64.nan false),
    ("+NaN".toList, Binary64.nan false), ("-NaN".toList, Binary64.nan true)]

/-- A named value, with or without the width of its type. -/
def namedNumber (suffix : List Char) : List (List Char × Binary64) → Reader Binary64
  | [] => failure
  | (word, value) :: others => do
      if ← acceptWord word then pure value
      else if ← acceptWord (word ++ suffix) then pure value
      else namedNumber suffix others

/-- A number with an optional suffix for its width. -/
def float (suffix : List Char) : Reader Binary64 := do
  match ← optional (namedNumber suffix namedNumbers) with
  | some value => pure value
  | none =>
      let characters ← takeWhile isDecimalChar
      guard (!characters.isEmpty && characters.head? ≠ some '_')
      let numeral ← StateT.lift (dropUnderscores false characters)
      let value ← StateT.lift (decimal? numeral)
      let _ ← acceptWord suffix
      pure value

end Reader

end Redelivery.Notation
