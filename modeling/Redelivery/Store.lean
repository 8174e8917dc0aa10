import Redelivery.Store.Watched

/-!
# Kinds of stores

A registry only ever asks its store to remove records; which kind of store it
has does not matter to it.
-/

namespace Redelivery

/-- A store of sent messages. -/
inductive Store where
  | plain (records : Store.Records)
  | watched (store : Store.Watched)
  deriving DecidableEq, Repr

namespace Store

/-- The records of a store. -/
def records : Store → Records
  | plain records => records
  | watched store => store.records

/-- Store a message. -/
def insert (store : Store) (sequence : SequenceKey) (number : Nat) (payload : List UInt8) :
    Except Failure Store :=
  match store with
  | plain records => (records.insert sequence number payload).map plain
  | watched store =>
      (store.records.insert sequence number payload).map fun records =>
        watched { store with records }

/-- Drop records of a sequence by number and count them. -/
def remove (store : Store) (sequence : SequenceKey) (numbers : List Nat) :
    Except Failure Nat × Store :=
  match store with
  | plain records =>
      let (removed, kept) := records.remove sequence numbers
      (.ok removed, plain kept)
  | watched store =>
      let (result, kept) := store.remove sequence numbers
      (result, watched kept)

/-- Make the next `count` removals fail, if the store can be told to. -/
def failNext (store : Store) (count : Nat) : Store :=
  match store with
  | plain records => plain records
  | watched store => watched (store.failNext count)

/-- The removals asked for so far, as far as they are noted. -/
def removals : Store → List (SequenceKey × List Nat)
  | plain _ => []
  | watched store => store.removals

end Store

end Redelivery
