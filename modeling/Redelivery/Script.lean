import Redelivery.Keyed
import Redelivery.SequenceKey
import Redelivery.Transport

/-!
# A scripted transport

A transport whose outcomes are fixed in advance, message by message.  A message
without a script is delivered at once.  Outcomes are used up in order, and the
last one is used again and again.
-/

namespace Redelivery

/-- How one resend goes: how long it takes, and whether it fails. -/
structure Outcome where
  takes : Nat
  failure : Option TransportFailure
  deriving DecidableEq, Repr

/-- Delivered at once. -/
def Outcome.delivered : Outcome :=
  { takes := 0, failure := none }

/-- The outcomes to come, by sequence and message number. -/
structure Script where
  outcomes : Keyed (SequenceKey × Nat) (List Outcome)
  deriving DecidableEq, Repr

namespace Script

/-- The message that is named by its sequence and its number, with a slash between
them. -/
def message? (text : String) : Option (SequenceKey × Nat) :=
  match (text.splitOn "/").reverse with
  | number :: parts@(_ :: _) =>
      number.toNat?.map fun value => (⟨"/".intercalate parts.reverse⟩, value)
  | _ => none

/-- Everything is delivered at once. -/
def empty : Script :=
  ⟨Keyed.empty⟩

/-- Fix the outcomes of a message, in place of those it had left. -/
def prepare (script : Script) (message : SequenceKey × Nat) (outcomes : List Outcome) :
    Script :=
  ⟨script.outcomes.put message outcomes⟩

/-- The outcome of the next resend of a message. -/
def next (script : Script) (message : SequenceKey × Nat) : Outcome × Script :=
  match script.outcomes.find? message with
  | none | some [] => (.delivered, script)
  | some [last] => (last, script)
  | some (outcome :: rest) => (outcome, script.prepare message rest)

end Script

end Redelivery
