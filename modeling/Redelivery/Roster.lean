import Redelivery.Keyed
import Redelivery.SequenceKey

/-!
# Which messages await acknowledgment

The roster lists, for every sequence, the candidates that belong to it in the
order of their registration.  A sequence is active or suspended; it may be
suspended without having a candidate.  The number of all listed candidates is
kept along.

Candidates are named by their identities, which are never used twice.
-/

namespace Redelivery

/-- Identities of candidates by sequence. -/
structure Roster where
  active : Keyed SequenceKey (List Nat)
  /-- A sequence is suspended if and only if it is present here. -/
  suspended : Keyed SequenceKey (List Nat)
  count : Nat
  deriving DecidableEq, Repr

namespace Roster

/-- No sequence at all. -/
def empty : Roster :=
  { active := Keyed.empty, suspended := Keyed.empty, count := 0 }

/-- The active candidates of a sequence. -/
def activeOf (roster : Roster) (sequence : SequenceKey) : List Nat :=
  (roster.active.find? sequence).getD []

/-- The suspended candidates of a sequence. -/
def suspendedOf (roster : Roster) (sequence : SequenceKey) : List Nat :=
  (roster.suspended.find? sequence).getD []

/-- The candidates of a sequence. -/
def listOf (roster : Roster) (sequence : SequenceKey) : List Nat :=
  roster.activeOf sequence ++ roster.suspendedOf sequence

/-- Whether a sequence is suspended. -/
def isSuspended (roster : Roster) (sequence : SequenceKey) : Bool :=
  roster.suspended.has sequence

/-- The candidates of all active sequences. -/
def allActive (roster : Roster) : List Nat :=
  roster.active.values.flatten

/-- All candidates. -/
def all (roster : Roster) : List Nat :=
  roster.allActive ++ roster.suspended.values.flatten

/-- Whether the count is the number of listed candidates. -/
def isCountExact (roster : Roster) : Bool :=
  decide (roster.all.length = roster.count)

/-- The sequences that have a candidate, in order. -/
def sequences (roster : Roster) : List SequenceKey :=
  let present := (roster.active.entries ++ roster.suspended.entries).filter fun entry =>
    !entry.2.isEmpty
  SequenceKey.distinctSorted (present.map Prod.fst)

/-! ## Changes -/

/-- List a new candidate at the end of its sequence. -/
def add (roster : Roster) (sequence : SequenceKey) (identity : Nat) : Roster :=
  if roster.isSuspended sequence then
    { roster with
      suspended := roster.suspended.put sequence (roster.suspendedOf sequence ++ [identity])
      count := roster.count + 1 }
  else
    { roster with
      active := roster.active.put sequence (roster.activeOf sequence ++ [identity])
      count := roster.count + 1 }

/-- Put a list in the place of one that is present; an active sequence is
dropped together with its last candidate. -/
def replaceActive (active : Keyed SequenceKey (List Nat)) (sequence : SequenceKey)
    (list : List Nat) : Keyed SequenceKey (List Nat) :=
  if list.isEmpty then active.remove sequence else active.put sequence list

/-- Strike candidates of a sequence off the roster.  A suspended sequence stays
suspended. -/
def strike (roster : Roster) (sequence : SequenceKey) (struck : Nat → Bool) : Roster :=
  let keep := List.filter fun identity => !struck identity
  { active :=
      if roster.active.has sequence then
        replaceActive roster.active sequence (keep (roster.activeOf sequence))
      else roster.active
    suspended :=
      if roster.isSuspended sequence then
        roster.suspended.put sequence (keep (roster.suspendedOf sequence))
      else roster.suspended
    count := roster.count - ((roster.listOf sequence).filter struck).length }

/-- Forget a sequence, its suspension included. -/
def forget (roster : Roster) (sequence : SequenceKey) : Roster :=
  { active := roster.active.remove sequence
    suspended := roster.suspended.remove sequence
    count := roster.count - (roster.listOf sequence).length }

/-- Suspend a sequence, with or without candidates. -/
def suspend (roster : Roster) (sequence : SequenceKey) : Roster :=
  { roster with
    active := roster.active.remove sequence
    suspended := roster.suspended.put sequence
      (roster.suspendedOf sequence ++ roster.activeOf sequence) }

/-- Make a suspended sequence active again. -/
def resume (roster : Roster) (sequence : SequenceKey) : Roster :=
  let list := roster.activeOf sequence ++ roster.suspendedOf sequence
  { roster with
    active := if list.isEmpty then roster.active else roster.active.put sequence list
    suspended := roster.suspended.remove sequence }

/-! ## Laws -/

/-- A suspended sequence is suspended. -/
@[simp]
theorem isSuspended_suspend (roster : Roster) (sequence : SequenceKey) :
    (roster.suspend sequence).isSuspended sequence = true := by
  simp [isSuspended, suspend, Keyed.has]

/-- A resumed sequence is not suspended. -/
@[simp]
theorem isSuspended_resume (roster : Roster) (sequence : SequenceKey) :
    (roster.resume sequence).isSuspended sequence = false := by
  simp [isSuspended, resume, Keyed.has]

/-- A forgotten sequence has no candidate. -/
@[simp]
theorem listOf_forget (roster : Roster) (sequence : SequenceKey) :
    (roster.forget sequence).listOf sequence = [] := by
  simp [listOf, activeOf, suspendedOf, forget]

/-- Suspending a sequence moves its candidates and loses none of them. -/
theorem suspendedOf_suspend (roster : Roster) (sequence : SequenceKey) :
    (roster.suspend sequence).suspendedOf sequence =
      roster.suspendedOf sequence ++ roster.activeOf sequence := by
  simp [suspendedOf, suspend]

end Roster

end Redelivery
