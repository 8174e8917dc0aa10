import Redelivery.Text.JsonString
import Redelivery.Text.Quoted

/-!
# Sequence keys

A sequence is a logical, ordered channel between a sender and a receiver.  Its
key is opaque text.  Keys are ordered by their bytes, which for encoded text is
the order of code points.
-/

namespace Redelivery

/-- The key of a sequence. -/
structure SequenceKey where
  text : String
  deriving DecidableEq, Repr

namespace SequenceKey

/-- An empty key does not name any sequence. -/
def isEmpty (key : SequenceKey) : Bool :=
  key.text == ""

/-- The order of keys. -/
def precedes (first second : SequenceKey) : Bool :=
  decide (first.text ≤ second.text)

/-- Keys in order, each once. -/
def distinctSorted (keys : List SequenceKey) : List SequenceKey :=
  keys.eraseDups.mergeSort precedes

/-- The key as one quoted field of its type. -/
def debugText (key : SequenceKey) : String :=
  "SequenceKey(" ++ String.ofList (Text.quote false key.text.toList) ++ ")"

/-- The key as a string of the JSON format. -/
def toJsonText (key : SequenceKey) : String :=
  String.ofList (Text.JsonString.encode key.text.toList)

/-- The key that a string of the JSON format stands for. -/
def ofJsonText? (text : String) : Option SequenceKey :=
  (Text.JsonString.decode? text.toList).map fun key => ⟨String.ofList key⟩

end SequenceKey

end Redelivery
