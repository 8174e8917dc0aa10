/-!
# Blank characters

The blank characters of every script, and text without the blanks around it.
-/

namespace Redelivery.Text

/-- Whether a character is white space in the sense of the Unicode property. -/
def isBlank (char : Char) : Bool :=
  let point := char.toNat
  decide ((9 ≤ point ∧ point ≤ 13) ∨ point = 0x20 ∨ point = 0x85 ∨ point = 0xa0 ∨
    point = 0x1680 ∨ (0x2000 ≤ point ∧ point ≤ 0x200a) ∨ point = 0x2028 ∨
    point = 0x2029 ∨ point = 0x202f ∨ point = 0x205f ∨ point = 0x3000)

/-- Text without the blanks at its start and its end. -/
def trimBlanks (text : List Char) : List Char :=
  ((text.dropWhile isBlank).reverse.dropWhile isBlank).reverse

end Redelivery.Text
