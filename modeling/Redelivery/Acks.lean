/-!
# Acknowledged message numbers

The receiver acknowledges inclusive ranges of message numbers.  They are kept
sorted, and ranges that overlap or touch are one range, so that every set of
numbers has one form.
-/

namespace Redelivery

/-- The greatest message number. -/
def greatestNumber : Nat :=
  Nat.pow 2 64 - 1

/-- An inclusive range of message numbers. -/
structure NumberRange where
  lower : Nat
  upper : Nat
  deriving DecidableEq, Repr

namespace NumberRange

/-- Membership in the range. -/
def contains (range : NumberRange) (number : Nat) : Bool :=
  decide (range.lower ≤ number ∧ number ≤ range.upper)

/-- The least range that covers both. -/
def cover (first second : NumberRange) : NumberRange :=
  { lower := min first.lower second.lower, upper := max first.upper second.upper }

/-- The number behind the range.  Nothing comes behind the greatest number, which
stands for what would follow it. -/
def following (range : NumberRange) : Nat :=
  min (range.upper + 1) greatestNumber

/-- The range ends before `other` begins, with a number between them. -/
def isApartBefore (range other : NumberRange) : Bool :=
  decide (range.following < other.lower)

end NumberRange

/-- Acknowledged numbers as ranges from low to high. -/
structure Acks where
  ranges : List NumberRange
  deriving DecidableEq, Repr

namespace Acks

/-- Nothing is acknowledged. -/
def empty : Acks :=
  ⟨[]⟩

/-- Swallow the leading ranges that overlap or touch `range`, whose own ends
decide; what is left starts past it. -/
def absorb (range grown : NumberRange) : List NumberRange → List NumberRange
  | [] => [grown]
  | next :: rest =>
      if range.isApartBefore next then grown :: next :: rest
      else absorb range (grown.cover next) rest

/-- Put a range among sorted ranges: those before it stay, the others are
merged with it as far as they touch it. -/
def place (range : NumberRange) : List NumberRange → List NumberRange
  | [] => [range]
  | next :: rest =>
      if next.isApartBefore range then next :: place range rest
      else absorb range range (next :: rest)

/-- Acknowledge every number of a range.  A range whose ends are in the wrong
order holds no number and changes nothing. -/
def insertRange (acks : Acks) (lower upper : Nat) : Acks :=
  if upper < lower then acks else ⟨place ⟨lower, upper⟩ acks.ranges⟩

/-- Acknowledge one number. -/
def insert (acks : Acks) (number : Nat) : Acks :=
  acks.insertRange number number

/-- Acknowledge ranges one after the other. -/
def ofRanges (ranges : List (Nat × Nat)) : Acks :=
  ranges.foldl (fun acks range => acks.insertRange range.1 range.2) empty

/-- Whether a number is acknowledged: the first range that does not end before
it decides. -/
def contains (acks : Acks) (number : Nat) : Bool :=
  match acks.ranges.dropWhile (fun range => decide (range.upper < number)) with
  | [] => false
  | range :: _ => range.contains number

/-- The number of ranges. -/
def size (acks : Acks) : Nat :=
  acks.ranges.length

/-- Whether nothing is acknowledged. -/
def isEmpty (acks : Acks) : Bool :=
  acks.ranges.isEmpty

/-- The highest acknowledged number. -/
def greatest? (acks : Acks) : Option Nat :=
  acks.ranges.getLast?.map NumberRange.upper

end Acks

end Redelivery
