import Redelivery.Store.Records

/-!
# A store under observation

A store that notes every request to remove records, and that can be told to
fail some of them.
-/

namespace Redelivery.Store

/-- Records, the removals asked for so far, oldest first, and how many of the
removals to come fail. -/
structure Watched where
  records : Records
  removals : List (SequenceKey × List Nat)
  failures : Nat
  deriving DecidableEq, Repr

namespace Watched

/-- No record, no removal, and nothing is going to fail. -/
def empty : Watched :=
  { records := Records.empty none, removals := [], failures := 0 }

/-- Make the next `count` removals fail. -/
def failNext (store : Watched) (count : Nat) : Watched :=
  { store with failures := count }

/-- Drop records, unless the removal is to fail.  The request is noted in
either case. -/
def remove (store : Watched) (sequence : SequenceKey) (numbers : List Nat) :
    Except Failure Nat × Watched :=
  let noted := { store with removals := store.removals ++ [(sequence, numbers)] }
  match store.failures with
  | failures + 1 => (.error .injected, { noted with failures })
  | 0 =>
      let (removed, records) := store.records.remove sequence numbers
      (.ok removed, { noted with records })

/-- Whether at least `expected` removals were asked for. -/
def hasSeen (store : Watched) (expected : Nat) : Bool :=
  decide (expected ≤ store.removals.length)

/-- Every request to remove records is noted, whether or not it fails. -/
@[simp]
theorem removals_remove (store : Watched) (sequence : SequenceKey) (numbers : List Nat) :
    (store.remove sequence numbers).2.removals = store.removals ++ [(sequence, numbers)] := by
  unfold remove
  split <;> rfl

/-- A removal that is to fail leaves the records alone. -/
theorem records_remove_of_failures_pos {store : Watched} (failing : 0 < store.failures)
    (sequence : SequenceKey) (numbers : List Nat) :
    (store.remove sequence numbers).2.records = store.records := by
  unfold remove
  split
  · rfl
  · omega

end Watched

end Redelivery.Store
