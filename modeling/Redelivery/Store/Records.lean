import Redelivery.Keyed
import Redelivery.SequenceKey

/-!
# Stored messages

Records of sent messages, grouped by sequence and ordered by message number.  A
capacity bounds the number of all records.  A sequence without records is not
kept.
-/

namespace Redelivery.Store

/-- Why a store does not do what it was asked for. -/
inductive Failure where
  /-- The sequence has a record with this number. -/
  | alreadyExists (sequence : SequenceKey) (number : Nat)
  /-- All records that the capacity allows are held. -/
  | full (held capacity : Nat)
  /-- A failure on demand. -/
  | injected
  /-- The time to wait for removals is over. -/
  | timedOut
  deriving DecidableEq, Repr

/-- The failure in words. -/
def Failure.message : Failure → String
  | alreadyExists sequence number =>
      "Message " ++ toString number ++ " already stored for sequence " ++ sequence.text
  | full held capacity =>
      "Store unavailable: Memory store capacity exceeded: " ++ toString held ++ "/" ++
        toString capacity ++ " messages"
  | injected => "Store unavailable: injected failure"
  | timedOut =>
      "Store unavailable: Timeout waiting for removals: deadline has elapsed"

/-- A stored message. -/
structure Record where
  number : Nat
  payload : List UInt8
  deriving DecidableEq, Repr

/-- The records of every sequence. -/
structure Records where
  sequences : Keyed SequenceKey (List Record)
  capacity : Option Nat
  deriving DecidableEq, Repr

namespace Records

/-- No record, and room for as many as the capacity says. -/
def empty (capacity : Option Nat) : Records :=
  { sequences := Keyed.empty, capacity }

/-- The records of a sequence, by ascending number. -/
def recordsOf (records : Records) (sequence : SequenceKey) : List Record :=
  (records.sequences.find? sequence).getD []

/-- The numbers of the records of a sequence, ascending. -/
def numbers (records : Records) (sequence : SequenceKey) : List Nat :=
  (records.recordsOf sequence).map Record.number

/-- The record of a message. -/
def find? (records : Records) (sequence : SequenceKey) (number : Nat) : Option Record :=
  (records.recordsOf sequence).find? fun record => record.number = number

/-- Whether a message has a record. -/
def contains (records : Records) (sequence : SequenceKey) (number : Nat) : Bool :=
  (records.find? sequence number).isSome

/-- The number of all records. -/
def size (records : Records) : Nat :=
  records.sequences.values.flatten.length

/-- Whether there is no record. -/
def isEmpty (records : Records) : Bool :=
  decide (records.size = 0)

/-- Whether the capacity is used up. -/
def isFull (records : Records) : Bool :=
  records.capacity.any fun capacity => decide (capacity ≤ records.size)

/-- Put a record before the first one with a greater number. -/
def place (record : Record) : List Record → List Record
  | [] => [record]
  | next :: rest =>
      if record.number < next.number then record :: next :: rest
      else next :: place record rest

/-- Store a message.  A full store refuses it, whether or not it has a record
already. -/
def insert (records : Records) (sequence : SequenceKey) (number : Nat)
    (payload : List UInt8) : Except Failure Records :=
  if records.isFull then .error (.full records.size (records.capacity.getD 0))
  else if records.contains sequence number then .error (.alreadyExists sequence number)
  else
    .ok
      { records with
        sequences := records.sequences.put sequence
          (place { number, payload } (records.recordsOf sequence)) }

/-- Put the records of a sequence in the place of those it has, and drop the
sequence if there are none. -/
def replace (records : Records) (sequence : SequenceKey) (list : List Record) : Records :=
  if list.isEmpty then { records with sequences := records.sequences.remove sequence }
  else { records with sequences := records.sequences.put sequence list }

/-- Drop records of a sequence by number and count them.  Numbers without a
record do not matter. -/
def remove (records : Records) (sequence : SequenceKey) (numbers : List Nat) :
    Nat × Records :=
  let old := records.recordsOf sequence
  let kept := old.filter fun record => !numbers.contains record.number
  (old.length - kept.length, records.replace sequence kept)

end Records

end Redelivery.Store
