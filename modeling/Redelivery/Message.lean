import Redelivery.Policy
import Redelivery.SequenceKey

/-!
# Outbound messages

A message that has been sent once and may be replayed until the receiver
acknowledges it.
-/

namespace Redelivery

/-- Where a message is sent. -/
inductive Destination where
  | address (text : String)
  /-- The reply path is anonymous: there is nowhere to resend to. -/
  | anonymous
  deriving DecidableEq, Repr

namespace Destination

/-- Whether there is somewhere to resend to. -/
def isAddressable : Destination → Bool
  | address _ => true
  | anonymous => false

end Destination

/-- A message that has been sent once. -/
structure Message where
  sequence : SequenceKey
  /-- The number within the sequence; numbering starts at one. -/
  number : Nat
  payload : List UInt8
  destination : Destination
  policy : Policy
  /-- The name that selects an executor for resends. -/
  owner : Option String
  deriving DecidableEq, Repr

end Redelivery
