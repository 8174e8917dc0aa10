import Redelivery.Notation.Number
import Redelivery.Notation.Quotation

/-!
# Values that nobody asked for

A field that is not known is skipped together with its value, whatever the value
is.  How deep values may be nested is bounded, since every level of a text takes
up one or two levels of the reader.
-/

namespace Redelivery.Notation

/-- What a text may leave out, as it declares at its start. -/
structure Dialect where
  /-- Records of a type have to be written with its name. -/
  namesRequired : Bool
  /-- A present value need not be marked as present. -/
  implicitPresence : Bool
  deriving DecidableEq, Repr

namespace Reader

/-! ## Numbers of any type -/

/-- The widths of whole numbers. -/
def widths : List Nat :=
  [8, 16, 32, 64]

/-- Whether a whole number fits a signed or unsigned type. -/
def fits (signed : Bool) (bits : Nat) (negative : Bool) (value : Nat) : Bool :=
  if signed then
    decide (if negative then value ≤ Nat.pow 2 (bits - 1) else value < Nat.pow 2 (bits - 1))
  else decide (value < Nat.pow 2 bits && !(negative && value ≠ 0))

/-- The rest of a whole number, which may name its type. -/
def wholeType (negative : Bool) (value : Nat) : List (Bool × Nat) → Reader Unit
  | [] => guard (fits false 64 negative value || fits true 64 negative value)
  | (signed, bits) :: others => do
      if ← acceptWord ((if signed then 'i' else 'u') :: (toString bits).toList) then
        guard (fits signed bits negative value)
      else wholeType negative value others

/-- Skip a whole number of any type. -/
def skipWhole : Reader Unit := do
  let (negative, value) ← wholeDigits
  wholeType negative value (widths.flatMap fun bits => [(true, bits), (false, bits)])

/-- Skip a decimal number of either width. -/
def skipDecimal : Reader Unit := do
  let _ ← float "f64".toList
  let _ ← acceptWord "f32".toList

/-- Whether the next number goes on behind its digits. -/
def isDecimalNext : Reader Bool := fun text =>
  let unsigned := match text with
    | '+' :: rest | '-' :: rest => rest
    | _ => text
  some
    (decide ((unsigned.takeWhile isDigitChar).length < (unsigned.takeWhile isDecimalChar).length),
      text)

/-- Skip a number.  A whole number that fits no type is a decimal number. -/
def skipNumber : Reader Unit := do
  if ← isDecimalNext then skipDecimal
  else
    match ← optional skipWhole with
    | some _ => pure ()
    | none => skipDecimal

/-! ## Compound values -/

/-- Read the inside of a compound value, unless the bound on the depth forbids
it. -/
def within {α : Type} (inner : Option (Reader Unit)) (body : Reader Unit → Reader α) :
    Reader α :=
  match inner with
  | none => failure
  | some element => body element

/-- Skip values up to a closing character. -/
def skipItems (closing : Char) (element : Reader Unit) : Reader Unit :=
  items closing (fun _ => element) ()

/-- Skip a name or a value, a colon and a value. -/
def skipEntry (key element : Reader Unit) : Reader Unit := do
  key
  spacing
  expect ':'
  spacing
  element

/-- Skip entries up to a closing character. -/
def skipEntries (closing : Char) (key element : Reader Unit) : Reader Unit :=
  items closing (fun _ => skipEntry key element) ()

/-- Whether a parenthesis is followed by a named field. -/
def isRecordNext : Reader Bool := do
  let field : Reader Unit := do
    expect '('
    spacing
    let _ ← name
    spacing
    expect ':'
  pure ((← optional (lookahead field)).isSome)

/-- Skip what stands between parentheses: named fields or values. -/
def skipGroup (inner : Option (Reader Unit)) : Reader Unit := do
  if ← isRecordNext then
    expect '('
    within inner fun element => skipEntries ')' (do let _ ← name) element
  else
    expect '('
    within inner fun element => skipItems ')' element

/-- Words that stand for values of their own. -/
def wordValues : List (List Char) :=
  ["true", "false", "None", "inf", "inff32", "inff64", "NaN", "NaNf32", "NaNf64"].map
    String.toList

/-- Skip a word that stands for a value, if one comes next. -/
def acceptWordValue : List (List Char) → Reader Bool
  | [] => pure false
  | word :: others => do
      if ← acceptWord word then pure true else acceptWordValue others

/-- Skip a value that is marked as present, or one that need not be. -/
def skipPresent (dialect : Dialect) (value : Option (Reader Unit)) : Reader Unit := do
  spacing
  if ← acceptChar '(' then
    spacing
    within value id
    let _ ← comma
    expect ')'
  else
    guard dialect.implicitPresence
    within value id

/-- Skip a value, given how to skip the values that are nested in it: those marked
as present are one level deeper, all others two. -/
def skipOne (dialect : Dialect) (present : Option (Reader Unit))
    (inner : Option (Reader Unit)) (outermost : Bool) : Reader Unit := do
  -- an empty group needs no level of its own
  let nested := if outermost then none else some (inner.getD failure)
  if ← acceptWordValue wordValues then pure ()
  else if ← acceptWord "Some".toList then skipPresent dialect present
  else if ← accept ['(', ')'] then pure ()
  else if (← optional name).isSome then
    spacing
    if ← isNext ['('] then skipGroup nested
  else
    match ← peek? with
    | some '(' => skipGroup nested
    | some '[' =>
        expect '['
        within nested fun element => skipItems ']' element
    | some '\x7b' =>
        expect '\x7b'
        within nested fun element => skipEntries '\x7d' element element
    | some '"' | some 'r' => do let _ ← text
    | some '\'' => do let _ ← character
    | some 'b' =>
        if ← isNext ['b', '\''] then do let _ ← byte
        else do let _ ← bytes
    | _ => skipNumber

/-- Skip a value that is nested no deeper than a number of levels. -/
def skipValue (dialect : Dialect) : (levels : Nat) → Reader Unit
  | 0 => skipOne dialect none none true
  | 1 => skipOne dialect (some (skipValue dialect 0)) none false
  | levels + 2 =>
      skipOne dialect (some (skipValue dialect (levels + 1)))
        (some (skipValue dialect levels)) false

end Reader

end Redelivery.Notation
