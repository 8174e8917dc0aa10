import Redelivery.Executor.Routing
import Redelivery.Message

/-!
# The retry state of one message

A candidate owns one unacknowledged message and its retry schedule.  The
functions of this module are its transitions; what they need of the scheduler
and the transport is done around them.

With base interval `b` and intervals `i₁, i₂, …`, the first resend of a message
registered at `r` is due at `r + b`, and every completed resend moves the due
instant on by the next interval, counted from the due instant before it and not
from the clock.
-/

namespace Redelivery

/-- Why a message is no longer resent. -/
inductive Ending where
  /-- The receiver acknowledged it. -/
  | resolved
  /-- It was given up. -/
  | cancelled
  deriving DecidableEq, Repr

/-- Where a candidate is in its life. -/
inductive Phase where
  /-- A timer is armed for the next retry. -/
  | scheduled
  /-- A resend has been handed over and has not completed. -/
  | pending
  /-- The retry limit is reached; the candidate waits to be purged. -/
  | exhausted
  | resolved
  | cancelled
  /-- The sequence is suspended. -/
  | suspended
  /-- There is nowhere to resend to. -/
  | unaddressable
  /-- No timer is armed. -/
  | unscheduled
  deriving DecidableEq, Repr

/-- No phase follows a terminal one. -/
def Phase.isTerminal : Phase → Bool
  | resolved | cancelled => true
  | _ => false

/-- A message under retransmission. -/
structure Candidate where
  sequence : SequenceKey
  number : Nat
  policy : Policy
  owner : Option String
  addressable : Bool
  /-- The executors in force when the message was registered. -/
  routing : Executor.Routing
  /-- The message itself, until it is released. -/
  message : Option Message
  retries : Nat
  /-- The instant from which the next resend is due. -/
  next : Nat
  /-- The instant at which the latest resend completed. -/
  previous : Option Nat
  /-- The interval between the next resend and the one after it. -/
  interval : Nat
  /-- A resend has been handed over and has neither completed nor been
  skipped. -/
  pending : Bool
  suspended : Bool
  exhausted : Bool
  ending : Option Ending
  /-- The ticket of the armed timer. -/
  timer : Option Nat
  /-- Counts the timers that were given up, so that a late one is known. -/
  generation : UInt64
  /-- The next resend asks for a prompt acknowledgment. -/
  requestAck : Bool
  deriving Repr

/-- One resend, ready to be run. -/
structure Job where
  candidate : Nat
  message : Message
  requestAck : Bool
  deriving DecidableEq, Repr

/-- What can be seen of a candidate. -/
structure RetryStatus where
  retries : Nat
  next : Nat
  previous : Option Nat
  interval : Nat
  backoff : Binary64
  limit : RetryLimit
  pending : Bool
  suspended : Bool
  phase : Phase
  deriving DecidableEq, Repr

namespace Candidate

/-- The largest number of retries that is counted. -/
def greatestRetries : Nat :=
  Nat.pow 2 32 - 1

/-- A candidate for a message registered at `now`.  Without a first interval
there is no schedule: the first resend is due at once, but nothing arms a
timer for it. -/
def register (now : Nat) (routing : Executor.Routing) (suspended : Bool)
    (message : Message) : Candidate :=
  let schedule := match message.policy.initialInterval with
    | some interval => (now + message.policy.baseInterval, interval)
    | none => (now, message.policy.baseInterval)
  { sequence := message.sequence
    number := message.number
    policy := message.policy
    owner := message.owner
    addressable := message.destination.isAddressable
    routing
    message := some message
    retries := 0
    next := schedule.1
    previous := none
    interval := schedule.2
    pending := false
    suspended
    exhausted := !message.policy.shouldRetry 0
    ending := none
    timer := none
    generation := 0
    requestAck := true }

/-- No further resend can happen without outside intervention. -/
def isInert (candidate : Candidate) : Bool :=
  candidate.ending.isSome || candidate.exhausted || candidate.message.isNone

/-- The phase.  A terminal phase hides all others, then exhaustion does, then
the lack of an address, then a pending resend, then suspension. -/
def phase (candidate : Candidate) : Phase :=
  match candidate.ending with
  | some .resolved => .resolved
  | some .cancelled => .cancelled
  | none =>
      if candidate.exhausted then .exhausted
      else if !candidate.addressable then .unaddressable
      else if candidate.pending then .pending
      else if candidate.suspended then .suspended
      else if candidate.timer.isSome then .scheduled
      else .unscheduled

/-- What can be seen of the candidate. -/
def status (candidate : Candidate) : RetryStatus :=
  { retries := candidate.retries
    next := candidate.next
    previous := candidate.previous
    interval := candidate.interval
    backoff := candidate.policy.backoff
    limit := candidate.policy.limit
    pending := candidate.pending
    suspended := candidate.suspended
    phase := candidate.phase }

/-- Forget the armed timer, if there is one, and disown it. -/
def disarm (candidate : Candidate) : Candidate :=
  { candidate with timer := none, generation := candidate.generation + 1 }

/-- Whether the candidate takes part in the schedule: it has an address, is not
suspended, and has not reached its limit. -/
def wantsTimer (candidate : Candidate) : Bool :=
  candidate.addressable && !candidate.suspended && !candidate.exhausted

/-! ## Resending -/

/-- Whether a resend may be handed over now. -/
def isFree (candidate : Candidate) : Bool :=
  !candidate.pending && !candidate.suspended && !candidate.isInert && candidate.addressable

/-- Whether the next resend is due at `now`. -/
def isDue (candidate : Candidate) (now : Nat) : Bool :=
  decide (candidate.next ≤ now)

/-- Hand over a resend: the candidate is pending, and the resend takes the
request for an acknowledgment along.  `identity` names the candidate. -/
def handOver (candidate : Candidate) (identity : Nat) : Option (Job × Candidate) :=
  candidate.message.map fun message =>
    ({ candidate := identity, message, requestAck := candidate.requestAck },
      { candidate with pending := true, requestAck := false })

/-- Whether a resend that was handed over may still go out.  A purge, a
cancellation or a suspension since then forbids it. -/
def maySend (candidate : Candidate) : Bool :=
  candidate.pending && !candidate.suspended && !candidate.isInert

/-- A resend is skipped, and hands its request for an acknowledgment back. -/
def abandon (candidate : Candidate) (requestAck : Bool) : Candidate :=
  { candidate with
    pending := false
    requestAck := candidate.requestAck || requestAck }

/-- What a completed resend leads to. -/
inductive Sequel where
  /-- The candidate had ended in the meantime. -/
  | ended
  /-- It was the last resend that the limit allows. -/
  | exhausted
  /-- The sequence is suspended, so the schedule stands still. -/
  | held
  /-- The next resend is due. -/
  | next (due : Nat)
  /-- The next interval overflows, so the schedule ends.  Instants themselves have no bound here. -/
  | overflow
  deriving DecidableEq, Repr

/-- A resend has completed at `now`. -/
def complete (candidate : Candidate) (now : Nat) : Candidate × Sequel :=
  let idle := { candidate with pending := false }
  if candidate.ending.isSome then (idle, .ended)
  else
    let counted :=
      { idle with
        retries := min (candidate.retries + 1) greatestRetries
        previous := some now }
    if !candidate.policy.shouldRetry counted.retries then
      ({ counted with exhausted := true }, .exhausted)
    else if candidate.suspended then (counted, .held)
    else
      match candidate.policy.nextInterval candidate.interval with
      | some interval =>
          let due := candidate.next + candidate.interval
          ({ counted with next := due, interval }, .next due)
      | none => (counted, .overflow)

/-! ## Ending, suspending, resuming -/

/-- End the candidate and release its message.  The first ending stands. -/
def finish (candidate : Candidate) (ending : Ending) : Candidate :=
  { candidate.disarm with
    pending := false
    message := none
    ending := candidate.ending.or (some ending) }

/-- Stop the schedule but keep its progress. -/
def suspend (candidate : Candidate) : Candidate :=
  if candidate.ending.isSome then candidate
  else { candidate.disarm with suspended := true }

/-- Leave suspension.  The next resend asks for an acknowledgment again. -/
def unsuspend (candidate : Candidate) : Candidate :=
  { candidate with suspended := false, requestAck := true }

/-! ## Laws -/

/-- The first ending stands. -/
theorem ending_finish_of_ending {candidate : Candidate} {first : Ending}
    (ended : candidate.ending = some first) (second : Ending) :
    (candidate.finish second).ending = some first := by
  simp [finish, disarm, ended]

/-- A finished candidate has ended and released its message. -/
theorem message_finish (candidate : Candidate) (ending : Ending) :
    (candidate.finish ending).message = none ∧ (candidate.finish ending).ending.isSome := by
  cases ended : candidate.ending <;> simp [finish, disarm, ended]

end Candidate

end Redelivery
