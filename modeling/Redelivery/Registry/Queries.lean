import Redelivery.Registry.Membership

/-!
# What can be seen of a registry

Counts, lists and statuses of the messages that await acknowledgment.
-/

namespace Redelivery.Registry

/-- The number of messages of a sequence, active or suspended. -/
def countOf (registry : Registry) (sequence : SequenceKey) : Nat :=
  (registry.roster.listOf sequence).length

/-- The number of messages of all sequences. -/
def countAll (registry : Registry) : Nat :=
  registry.roster.count

/-- Whether no message awaits acknowledgment. -/
def isEmpty (registry : Registry) : Bool :=
  decide (registry.countAll = 0)

/-- The sequences that have a message, in order. -/
def sequences (registry : Registry) : List SequenceKey :=
  registry.roster.sequences

/-- Whether a sequence is suspended. -/
def isSuspended (registry : Registry) (sequence : SequenceKey) : Bool :=
  registry.roster.isSuspended sequence

/-- The message numbers of a sequence, ascending. -/
def numbers (registry : Registry) (sequence : SequenceKey) : List Nat :=
  ((registry.roster.listOf sequence).filterMap registry.numberOf).mergeSort

/-- The phase of a candidate. -/
def phase? (registry : Registry) (identity : Nat) : Option Phase :=
  (registry.candidate? identity).map Candidate.phase

/-- The status of a message. -/
def status? (registry : Registry) (sequence : SequenceKey) (number : Nat) :
    Option RetryStatus :=
  ((registry.find? sequence number).bind registry.candidate?).map Candidate.status

/-- The statuses of the messages of a sequence, by ascending number. -/
def statuses (registry : Registry) (sequence : SequenceKey) : List (Nat × RetryStatus) :=
  let listed := (registry.roster.listOf sequence).filterMap registry.candidate?
  (listed.map fun candidate => (candidate.number, candidate.status)).mergeSort
    fun first second => decide (first.1 ≤ second.1)

end Redelivery.Registry
