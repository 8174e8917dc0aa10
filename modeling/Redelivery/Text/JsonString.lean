import Redelivery.Text.Hex

/-!
# Strings of the JSON format

The writer gives a backslash to the quote, the backslash and the control
characters, and writes all else as it is.  The reader takes every escape of the
format, pairs of surrogates included.
-/

namespace Redelivery.Text.JsonString

/-- One character of a written string. -/
def encodeChar (char : Char) : List Char :=
  match char with
  | '"' => ['\\', '"']
  | '\\' => ['\\', '\\']
  | '\n' => ['\\', 'n']
  | '\r' => ['\\', 'r']
  | '\t' => ['\\', 't']
  | '\x08' => ['\\', 'b']
  | '\x0c' => ['\\', 'f']
  | char =>
      if char.toNat < 0x20 then
        '\\' :: 'u' :: padZeros 4 (hexDigits char.toNat)
      else [char]

/-- A string with its quotes. -/
def encode (text : List Char) : List Char :=
  '"' :: text.flatMap encodeChar ++ ['"']

/-- The number of four hexadecimal digits. -/
def unit? (first second third fourth : Char) : Option Nat := do
  let a ← hexValue? first
  let b ← hexValue? second
  let c ← hexValue? third
  let d ← hexValue? fourth
  pure (((a * 16 + b) * 16 + c) * 16 + d)

/-- The character that a backslash and this one stand for. -/
def shortEscape? (char : Char) : Option Char :=
  match char with
  | '"' => some '"'
  | '\\' => some '\\'
  | '/' => some '/'
  | 'b' => some '\x08'
  | 'f' => some '\x0c'
  | 'n' => some '\n'
  | 'r' => some '\r'
  | 't' => some '\t'
  | _ => none

/-- The characters up to the closing quote, and what follows it. -/
def decodeBody : List Char → Option (List Char × List Char)
  | [] => none
  | '"' :: rest => some ([], rest)
  | '\\' :: 'u' :: a :: b :: c :: d :: '\\' :: 'u' :: e :: f :: g :: h :: rest => do
      let first ← unit? a b c d
      if 0xd800 ≤ first ∧ first < 0xdc00 then
        let second ← unit? e f g h
        if 0xdc00 ≤ second ∧ second < 0xe000 then
          let (text, after) ← decodeBody rest
          pure (Char.ofNat (0x10000 + (first - 0xd800) * 0x400 + (second - 0xdc00)) :: text, after)
        else none
      else if 0xdc00 ≤ first ∧ first < 0xe000 then none
      else
        let (text, after) ← decodeBody ('\\' :: 'u' :: e :: f :: g :: h :: rest)
        pure (Char.ofNat first :: text, after)
  | '\\' :: 'u' :: a :: b :: c :: d :: rest => do
      let unit ← unit? a b c d
      if 0xd800 ≤ unit ∧ unit < 0xe000 then none
      else
        let (text, after) ← decodeBody rest
        pure (Char.ofNat unit :: text, after)
  | '\\' :: char :: rest => do
      let meant ← shortEscape? char
      let (text, after) ← decodeBody rest
      pure (meant :: text, after)
  | char :: rest => do
      if char.toNat < 0x20 ∨ char = '\\' then none
      else
        let (text, after) ← decodeBody rest
        pure (char :: text, after)

/-- A whole string with its quotes, and nothing after it. -/
def decode? : List Char → Option (List Char)
  | '"' :: rest =>
      match decodeBody rest with
      | some (text, []) => some text
      | _ => none
  | _ => none

end Redelivery.Text.JsonString
