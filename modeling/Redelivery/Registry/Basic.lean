import Redelivery.Calls
import Redelivery.Executor.Pool
import Redelivery.Journal
import Redelivery.Roster
import Redelivery.Schedule.Agenda
import Redelivery.Script
import Redelivery.Store

/-!
# The state of a registry

A registry keeps the candidates of all sequences, the timers that are armed for
them, and everything that their resends run on.  It starts activities but does
not run them: the programs of activities to be started are collected, oldest
first, until the timeline takes them over.
-/

namespace Redelivery

/-- Why a registry refuses an operation on a message. -/
inductive Rejection where
  /-- The message has an empty sequence key. -/
  | missingSequence (number : Nat)
  /-- Message numbers start at one. -/
  | invalidNumber (sequence : SequenceKey) (number : Nat)
  /-- The sequence has a message with this number. -/
  | duplicateNumber (sequence : SequenceKey) (number : Nat)
  | unusablePolicy (defect : Policy.Defect)
  /-- The sequence has no message with this number. -/
  | unknownMessage (sequence : SequenceKey) (number : Nat)
  deriving DecidableEq, Repr

/-- The rejection in words. -/
def Rejection.message : Rejection → String
  | missingSequence number => "Message " ++ toString number ++ " has no sequence"
  | invalidNumber sequence number =>
      "Invalid message number " ++ toString number ++ " for sequence " ++ sequence.text
  | duplicateNumber sequence number =>
      "Message " ++ toString number ++ " is already awaiting acknowledgment on sequence " ++
        sequence.text
  | unusablePolicy defect => "Invalid retry policy: " ++ defect.message
  | unknownMessage sequence number =>
      "No message " ++ toString number ++ " awaiting acknowledgment on sequence " ++
        sequence.text

/-- Why a message cannot be registered, told whether its number is in use.  The key is looked at
first, then the number, the policy, and the messages that are registered already. -/
def Message.rejection? (message : Message) (isInUse : Bool) : Option Rejection :=
  if message.sequence.isEmpty then some (.missingSequence message.number)
  else if message.number = 0 then some (.invalidNumber message.sequence message.number)
  else
    match message.policy.defect? with
    | some defect => some (.unusablePolicy defect)
    | none => if isInUse then some (.duplicateNumber message.sequence message.number) else none

theorem Message.rejection?_eq_none_iff {message : Message} {isInUse : Bool} :
    message.rejection? isInUse = none ↔
      message.sequence.isEmpty = false ∧ message.number ≠ 0 ∧ message.policy.defect? = none ∧
        isInUse = false := by
  unfold rejection?
  cases message.sequence.isEmpty with
  | true => simp
  | false =>
      by_cases zero : message.number = 0
      · simp [zero]
      · cases message.policy.defect? with
        | some defect => simp [zero]
        | none => simp [zero]

/-- What becomes of those who wait for a shutdown signal. -/
inductive ShutdownNews where
  | signalled
  /-- Signals came faster than they were received, so that some were lost. -/
  | lagged (lost : Nat)
  /-- No signal can come any more. -/
  | closed
  deriving DecidableEq, Repr

/-- The result of a call. -/
inductive Answer where
  | count (number : Nat)
  | attempted (result : Except Rejection Bool)
  | served

/-- What an activity of a registry does next. -/
inductive Instruction where
  /-- Wait for the timer of a ticket and let it fire. -/
  | ring (ticket : Nat)
  /-- Hand a message to the transport. -/
  | send (job : Job)
  /-- The transport is done with a message. -/
  | conclude (job : Job) (failure : Option TransportFailure)
  /-- Hand a job to a pool. -/
  | enqueue (pool : Nat) (job : Job)
  | acquire (pool : Nat)
  | release (pool : Nat)
  /-- Resend what is due. -/
  | driveDue (upTo call : Nat)
  /-- Resend one message. -/
  | attempt (sequence : SequenceKey) (number call : Nat)
  /-- Run the waiting tasks that are due, after `ran` of them. -/
  | runDue (upTo ran call : Nat)
  /-- Wait for a shutdown signal. -/
  | serve (call : Nat)
  /-- Shut down on the news about the signal. -/
  | hear (news : ShutdownNews)
  /-- Report the end of an operation. -/
  | leave (operation : String)
  | reply (call : Nat) (answer : Answer)

/-- What an activity of a registry does, instruction by instruction. -/
abbrev Program := List Instruction

/-- Who makes candidates resend their messages. -/
inductive Driving where
  /-- The caller alone. -/
  | byHand
  /-- A queue of tasks, which the caller runs. -/
  | byQueue
  /-- Timers, if there is something that hosts them. -/
  | byTimers (hosted : Bool)
  deriving DecidableEq, Repr

/-- What a timer delivers to a candidate.  The generation tells whether the
timer has been superseded. -/
structure Alarm where
  candidate : Nat
  generation : UInt64
  deriving DecidableEq, Repr

/-- Everything a registry consists of. -/
structure Registry where
  /-- Every candidate ever registered, by identity. -/
  candidates : List Candidate
  roster : Roster
  /-- The executors for candidates to come, and for resends that the caller
  drives. -/
  routing : Executor.Routing
  driving : Driving
  /-- The armed timers. -/
  agenda : Schedule.Agenda Alarm
  /-- Every pool, by index. -/
  pools : List (Executor.Pool Program)
  script : Script
  store : Option Store
  journal : Journal
  calls : Calls Answer
  /-- The call that waits for a shutdown signal. -/
  listener : Option Nat
  /-- Activities to be started. -/
  starting : List Program

namespace Registry

/-- A registry without a message, an executor or a store. -/
def empty (driving : Driving) : Registry :=
  { candidates := []
    roster := Roster.empty
    routing := Executor.Routing.inlineOnly
    driving
    agenda := Schedule.Agenda.empty
    pools := []
    script := Script.empty
    store := none
    journal := Journal.empty
    calls := Calls.empty
    listener := none
    starting := [] }

/-- Whether candidates are only driven by the caller. -/
def isManual (registry : Registry) : Bool :=
  decide (registry.driving = .byHand)

/-- The candidate of an identity. -/
def candidate? (registry : Registry) (identity : Nat) : Option Candidate :=
  registry.candidates[identity]?

/-- Change the candidate of an identity. -/
def modify (registry : Registry) (identity : Nat) (change : Candidate → Candidate) :
    Registry :=
  { registry with candidates := registry.candidates.modify identity change }

/-- Report an event. -/
def report (registry : Registry) (event : Log.Event) : Registry :=
  { registry with journal := registry.journal.report event }

/-- Start an activity. -/
def start (registry : Registry) (program : Program) : Registry :=
  { registry with starting := registry.starting ++ [program] }

/-- A call ends. -/
def reply (registry : Registry) (call : Nat) (answer : Answer) : Registry :=
  { registry with calls := registry.calls.reply call answer }

/-- Carry out an operation within a span, and report its beginning and its
end. -/
def traced {α : Type} (operation : String) (fields : List Log.Field)
    (body : Registry → Registry × α) (registry : Registry) : Registry × α :=
  let (after, result) := body { registry with journal := registry.journal.enter operation fields }
  ({ after with journal := after.journal.leave operation }, result)

/-! ## Executors -/

/-- Replace the executors for candidates to come.  A size makes a pool of its
own, `none` runs jobs inline. -/
def setExecutors (registry : Registry) (executors : List (String × Option Nat)) : Registry :=
  executors.foldl
    (fun registry executor =>
      match executor.2 with
      | none => { registry with routing := registry.routing.register executor.1 .inline }
      | some size =>
          { registry with
            routing := registry.routing.register executor.1 (.pooled registry.pools.length)
            pools := registry.pools ++ [Executor.Pool.ofSize size] })
    { registry with routing := Executor.Routing.inlineOnly }

/-- The jobs that hold a permit of a pool. -/
def inFlight (registry : Registry) (pool : Nat) : Nat :=
  (registry.pools[pool]?).elim 0 Executor.Pool.inFlight

/-- The program that hands a job to the executor of its owner. -/
def delivery (routing : Executor.Routing) (job : Job) : Program :=
  match routing.resolve job.message.owner with
  | .inline => [.send job]
  | .pooled pool => [.enqueue pool job]

end Registry

end Redelivery
