import Redelivery.Notation.Skip

/-!
# Records in configuration text

A record is a list of named fields between parentheses.  The name of its type
may stand before it.  Fields come in any order, each known one at most once;
unknown ones are skipped.
-/

namespace Redelivery.Notation

/-- How a field of a record is read: its value changes what is known of the
record. -/
structure FieldReader (σ : Type) where
  name : List Char
  read : Reader (σ → σ)

namespace Reader

/-- The name of the type of a record, which may be left out unless the dialect
requires it. -/
def recordName (dialect : Dialect) (typeName : List Char) : Reader Unit := do
  if (← peek?).any Text.continuesIdentifier then
    guard ((← name) = typeName)
  else guard !dialect.namesRequired

/-- One field and its value.  The names of the known fields so far are kept
along. -/
def recordField {σ : Type} (fields : List (FieldReader σ)) (skip : Reader Unit)
    (state : σ × List (List Char)) : Reader (σ × List (List Char)) := do
  let field ← name
  spacing
  expect ':'
  spacing
  match fields.find? fun known => known.name = field with
  | none =>
      skip
      pure state
  | some known =>
      guard !state.2.contains field
      let update ← known.read
      pure (update state.1, field :: state.2)

/-- A record, read into what is known of it from the start. -/
def record {σ : Type} (dialect : Dialect) (typeName : List Char)
    (fields : List (FieldReader σ)) (skip : Reader Unit) (start : σ) : Reader σ := do
  recordName dialect typeName
  spacing
  expect '('
  let (final, _) ← items ')' (recordField fields skip) (start, [])
  pure final

/-! ## Whole texts -/

/-- Expect texts one after the other, each with the spacing behind it. -/
def expectAll : List (List Char) → Reader Unit
  | [] => pure ()
  | expected :: others => do
      guard (← accept expected)
      spacing
      expectAll others

/-- What the extension of a name adds to a dialect. -/
def extension? (dialect : Dialect) (extension : List Char) : Option Dialect :=
  if extension = "implicit_some".toList then some { dialect with implicitPresence := true }
  else if extension = "explicit_struct_names".toList then
    some { dialect with namesRequired := true }
  else if extension = "unwrap_newtypes".toList ∨ extension = "unwrap_variant_newtypes".toList then
    some dialect
  else none

/-- Names of extensions between commas. -/
def extensionNames : (most : Nat) → Dialect → Reader Dialect
  | 0, _ => failure
  | most + 1, dialect => do
      let extended ← StateT.lift (extension? dialect (← name))
      let more ← comma
      if (← peek?).any startsName then
        guard more
        extensionNames most extended
      else pure extended

/-- The declarations of extensions at the start of a text. -/
def declarations : (most : Nat) → Dialect → Reader Dialect
  | 0, _ => failure
  | most + 1, dialect => do
      if ← isNext ['#'] then
        expectAll [['#'], ['!'], ['['], "enable".toList, ['(']]
        let text ← get
        let extended ← extensionNames (text.length + 1) dialect
        spacing
        expectAll [[')'], [']']]
        declarations most extended
      else pure dialect

end Reader

/-- Values are nested no deeper than so many levels. -/
def deepest : Nat :=
  128

/-- The value that a whole text stands for. -/
def read? {α : Type} (value : Dialect → Reader α) (text : List Char) : Option α := do
  let whole : Reader α := do
    Reader.spacing
    let dialect ← Reader.declarations (text.length + 1)
      { namesRequired := false, implicitPresence := false }
    let result ← value dialect
    Reader.spacing
    guard (← get).isEmpty
    pure result
  (whole text).map Prod.fst

end Redelivery.Notation
