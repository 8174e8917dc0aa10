import Redelivery.Text.Identifier

/-!
# Reading configuration text

The elements of the configuration notation that have no value of their own:
blanks and comments, single characters, names, and items between commas.  A
reader either takes a part off the front of the text or fails.
-/

namespace Redelivery.Notation

/-- Takes a part off the front of a text, or fails. -/
abbrev Reader := StateT (List Char) Option

/-- Characters between the elements of a text. -/
def isSpacing (char : Char) : Bool :=
  let point := char.toNat
  decide ((9 ≤ point ∧ point ≤ 13) ∨ point = 0x20 ∨ point = 0x85 ∨
    (0x200e ≤ point ∧ point ≤ 0x200f) ∨ (0x2028 ≤ point ∧ point ≤ 0x2029))

/-- Where a position is, as far as comments matter. -/
inductive Surrounding where
  | plain
  /-- In a comment up to the end of the line. -/
  | lineComment
  /-- In a comment between marks, within so many other ones. -/
  | blockComment (outer : Nat)
  deriving DecidableEq, Repr

/-- The text without the spacing and the comments at its front.  A slash begins a
comment or is an error, and a comment between marks has to end. -/
def dropSpacing : Surrounding → List Char → Option (List Char)
  | .plain, '/' :: '/' :: rest => dropSpacing .lineComment rest
  | .plain, '/' :: '*' :: rest => dropSpacing (.blockComment 0) rest
  | .plain, '/' :: _ => none
  | .plain, char :: rest => if isSpacing char then dropSpacing .plain rest else some (char :: rest)
  | .plain, [] => some []
  | .lineComment, '\n' :: rest => dropSpacing .plain rest
  | .lineComment, _ :: rest => dropSpacing .lineComment rest
  | .lineComment, [] => some []
  | .blockComment outer, '/' :: '*' :: rest => dropSpacing (.blockComment (outer + 1)) rest
  | .blockComment 0, '*' :: '/' :: rest => dropSpacing .plain rest
  | .blockComment (outer + 1), '*' :: '/' :: rest => dropSpacing (.blockComment outer) rest
  | .blockComment outer, _ :: rest => dropSpacing (.blockComment outer) rest
  | .blockComment _, [] => none

namespace Reader

/-- Skip spacing and comments. -/
def spacing : Reader Unit := fun text =>
  (dropSpacing .plain text).map fun rest => ((), rest)

/-- Skip a text if it comes next, and say whether it did. -/
def accept (expected : List Char) : Reader Bool := fun text =>
  if expected.isPrefixOf text then some (true, text.drop expected.length)
  else some (false, text)

/-- Skip a character if it comes next, and say whether it did. -/
def acceptChar (expected : Char) : Reader Bool :=
  accept [expected]

/-- Skip a character, which has to come next. -/
def expect (expected : Char) : Reader Unit := do
  guard (← acceptChar expected)

/-- The next character, which is not skipped. -/
def peek? : Reader (Option Char) := fun text =>
  some (text.head?, text)

/-- Whether a text comes next. -/
def isNext (expected : List Char) : Reader Bool := fun text =>
  some (expected.isPrefixOf text, text)

/-- Take the characters up to the first one that is not wanted. -/
def takeWhile (wanted : Char → Bool) : Reader (List Char) := fun text =>
  some (text.takeWhile wanted, text.dropWhile wanted)

/-- Take one character. -/
def char : Reader Char
  | [] => none
  | first :: rest => some (first, rest)

/-- Read something, or leave the text as it is. -/
def optional {α : Type} (reader : Reader α) : Reader (Option α) := fun text =>
  match reader text with
  | none => some (none, text)
  | some (value, rest) => some (some value, rest)

/-- Read something without taking it off the text. -/
def lookahead {α : Type} (reader : Reader α) : Reader α := fun text =>
  (reader text).map fun (value, _) => (value, text)

/-- A comma with the spacing around it, if there is one. -/
def comma : Reader Bool := do
  spacing
  if ← acceptChar ',' then
    spacing
    pure true
  else pure false

/-! ## Names -/

/-- Whether a character can stand at the start of a name. -/
def startsName (char : Char) : Bool :=
  Text.startsIdentifier char || char == '_'

/-- Whether a character can stand in a name that is marked as raw. -/
def isRawNameChar (char : Char) : Bool :=
  Text.continuesIdentifier char || char == '.' || char == '+' || char == '-'

/-- The beginnings of quoted text and quoted bytes. -/
def quotations : List (List Char) :=
  [['b', '"'], ['b', '\''], ['b', 'r', '"'], ['b', 'r', '#', '"'], ['b', 'r', '#', '#'],
    ['r', '"'], ['r', '#', '"'], ['r', '#', '#']]

/-- A name.  Characters that only raw names may hold must not follow it. -/
def name : Reader (List Char) := fun text => do
  let first ← text.head?
  guard (startsName first && !quotations.any fun quotation => quotation.isPrefixOf text)
  match text with
  | 'r' :: '#' :: rest =>
      let raw := rest.takeWhile isRawNameChar
      guard !raw.isEmpty
      pure (raw, rest.dropWhile isRawNameChar)
  | _ =>
      let rest := text.dropWhile Text.continuesIdentifier
      guard !(rest.head?.any isRawNameChar)
      pure (text.takeWhile Text.continuesIdentifier, rest)

/-- Skip a word, which no character of a name may follow, and say whether it
came next. -/
def acceptWord (word : List Char) : Reader Bool := fun text =>
  let rest := text.drop word.length
  if word.isPrefixOf text && !(rest.head?.any Text.continuesIdentifier) then some (true, rest)
  else some (false, text)

/-! ## Items between commas -/

/-- Items up to a closing character, which is not skipped.  A comma may follow
the last item.  A state is handed on from item to item. -/
def itemsWithin {σ : Type} (closing : Char) (item : σ → Reader σ) : (most : Nat) → σ → Reader σ
  | 0, _ => failure
  | most + 1, state => do
      spacing
      if ← isNext [closing] then pure state
      else
        let next ← item state
        if ← comma then itemsWithin closing item most next
        else
          guard (← isNext [closing])
          pure next

/-- Items and the closing character after them. -/
def items {σ : Type} (closing : Char) (item : σ → Reader σ) (start : σ) : Reader σ := do
  -- every item takes up a character at least
  let text ← get
  let final ← itemsWithin closing item (text.length + 1) start
  spacing
  expect closing
  pure final

end Reader

end Redelivery.Notation
