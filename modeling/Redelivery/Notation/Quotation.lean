import Redelivery.Notation.Reader
import Redelivery.Text.Hex

/-!
# Quoted text in configuration text

Text between double quotes with escapes, raw text without them, and single
characters between single quotes.
-/

namespace Redelivery.Notation

namespace Reader

/-- Up to six hexadecimal digits between braces, as a character. -/
def bracedChar : Reader Char := do
  expect '\x7b'
  let text ← get
  let digits := (text.takeWhile (· ≠ '\x7d')).take 6
  guard !digits.isEmpty
  let point ← StateT.lift (digits.foldlM (fun value char => do
    pure (value * 16 + (← Text.hexValue? char))) 0)
  set (text.drop digits.length)
  expect '\x7d'
  guard (point < 0xd800 || (0xe000 ≤ point && point < 0x110000))
  pure (Char.ofNat point)

/-- A byte in two hexadecimal digits. -/
def hexByte : Reader UInt8 := do
  let high ← StateT.lift (Text.hexValue? (← char))
  let low ← StateT.lift (Text.hexValue? (← char))
  pure (UInt8.ofNat (16 * high + low))

/-- The character that a list of bytes encodes. -/
def encodedChar? (bytes : List UInt8) : Option Char := do
  let text ← String.fromUTF8? ⟨bytes.toArray⟩
  text.toList.head?

/-- The rest of a character that is spelled byte by byte, after some of its bytes;
every byte but the first brings its own mark along. -/
def spelledChar (bytes : List UInt8) : (more : Nat) → Reader Char
  | 0 => StateT.lift (encodedChar? bytes)
  | more + 1 =>
      match encodedChar? bytes with
      | some whole => pure whole
      | none => do
          guard (← accept ['\\', 'x'])
          spelledChar (bytes ++ [← hexByte]) more

/-- Where an escape stands. -/
inductive Context where
  /-- In text, where several bytes may spell one character. -/
  | text
  /-- In a single character, where they may not. -/
  | single
  /-- Among bytes, where every byte stands for itself. -/
  | binary
  deriving DecidableEq, Repr

/-- The character that a spelled byte begins. -/
def byteEscape : Context → Reader Char
  | .text => do spelledChar [← hexByte] 3
  | .single => do spelledChar [← hexByte] 0
  | .binary => do pure (Char.ofNat (← hexByte).toNat)

/-- The character that an escape means; the backslash is read already. -/
def escaped (context : Context) : Reader Char := do
  match ← char with
  | 'n' => pure '\n'
  | 'r' => pure '\r'
  | 't' => pure '\t'
  | '0' => pure '\x00'
  | '\\' => pure '\\'
  | '"' => pure '"'
  | '\'' => pure '\''
  | 'x' => byteEscape context
  | 'u' => bracedChar
  | _ => failure

/-- The rest of a quoted text and the quote that ends it. -/
def quotedRest (context : Context) : (most : Nat) → Reader (List Char)
  | 0 => failure
  | most + 1 => do
      match ← char with
      | '"' => pure []
      | '\\' =>
          let meant ← escaped context
          return meant :: (← quotedRest context most)
      | plain => return plain :: (← quotedRest context most)

/-- The rest of a raw text up to the first place where its ending stands. -/
def rawRest (ending : List Char) : Reader (List Char) := fun text =>
  go text
where
  /-- The text before the ending and the text after it. -/
  go : List Char → Option (List Char × List Char)
    | [] => none
    | char :: rest =>
        if ending.isPrefixOf (char :: rest) then some ([], (char :: rest).drop ending.length)
        else (go rest).map fun (before, after) => (char :: before, after)

/-- A raw text after its mark: hashes, a quote, and the text up to a quote with as
many hashes. -/
def rawText : Reader (List Char) := do
  let hashes ← takeWhile (· == '#')
  expect '"'
  rawRest ('"' :: hashes)

/-- A quoted or a raw text. -/
def textIn (context : Context) : Reader (List Char) := do
  if ← acceptChar '"' then
    let text ← get
    quotedRest context (text.length + 1)
  else
    expect 'r'
    rawText

/-- A text, quoted or raw. -/
def text : Reader (List Char) :=
  textIn .text

/-- Bytes, quoted or raw. -/
def bytes : Reader (List Char) := do
  expect 'b'
  textIn .binary

/-- A character between single quotes. -/
def character : Reader Char := do
  expect '\''
  let first ← char
  let meant ← if first = '\\' then escaped .single else pure first
  expect '\''
  pure meant

/-- A byte between single quotes.  It is spelled in ASCII, and not by a code
point. -/
def byte : Reader Char := do
  expect 'b'
  expect '\''
  let first ← char
  guard (first.toNat < 0x80)
  let meant ←
    if first = '\\' then do
      guard !(← isNext ['u'])
      escaped .binary
    else pure first
  expect '\''
  pure meant

end Reader

end Redelivery.Notation
