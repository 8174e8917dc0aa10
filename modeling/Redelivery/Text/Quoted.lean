import Redelivery.Text.Hex
import Redelivery.Text.Printable

/-!
# Quoted text

Text between double quotes.  Characters with a short name are written with a
backslash and the name; characters without a picture of their own are written
with their code point in braces.
-/

namespace Redelivery.Text

/-- The code point of a character in braces. -/
def bracedEscape (char : Char) : List Char :=
  '\\' :: 'u' :: '\x7b' :: hexDigits char.toNat ++ ['\x7d']

/-- One character of quoted text.  A single quote needs no backslash between
double quotes, but some writers give it one. -/
def quoteChar (escapeSingle : Bool) (char : Char) : List Char :=
  match char with
  | '\x00' => ['\\', '0']
  | '\t' => ['\\', 't']
  | '\r' => ['\\', 'r']
  | '\n' => ['\\', 'n']
  | '\\' => ['\\', '\\']
  | '"' => ['\\', '"']
  | '\'' => if escapeSingle then ['\\', '\''] else ['\'']
  | char =>
      if isExtending char || !isPrintable char then bracedEscape char else [char]

/-- Text in double quotes. -/
def quote (escapeSingle : Bool) (text : List Char) : List Char :=
  '"' :: text.flatMap (quoteChar escapeSingle) ++ ['"']

end Redelivery.Text
