import Redelivery.Acks
import Redelivery.Registry.Retry

/-!
# Operations on the messages of a registry

Registering a message, forgetting messages that are acknowledged or given up,
and suspending and resuming a sequence.  Operations on unknown sequences do
nothing.
-/

namespace Redelivery.Registry

/-- The field that names a sequence. -/
def sequenceField (sequence : SequenceKey) : Log.Field :=
  .shown "sequence" sequence.text

/-! ## Queries on the roster -/

/-- The number of the message of a candidate. -/
def numberOf (registry : Registry) (identity : Nat) : Option Nat :=
  (registry.candidate? identity).map Candidate.number

/-- The candidate of a message that awaits acknowledgment. -/
def find? (registry : Registry) (sequence : SequenceKey) (number : Nat) : Option Nat :=
  (registry.roster.listOf sequence).find? fun identity =>
    decide (registry.numberOf identity = some number)

/-! ## Registering -/

/-- Why a message cannot be registered. -/
def rejection? (registry : Registry) (message : Message) : Option Rejection :=
  message.rejection? (registry.find? message.sequence message.number).isSome

/-- Take in a message at `now`, and arm its timer. -/
def enroll (registry : Registry) (now : Nat) (message : Message) : Registry × Nat :=
  let identity := registry.candidates.length
  let suspended := registry.roster.isSuspended message.sequence
  let candidate := Candidate.register now registry.routing suspended message
  let listed :=
    { registry with
      candidates := registry.candidates ++ [candidate]
      roster := registry.roster.add message.sequence identity }
  if message.policy.initialInterval.isNone then
    (listed.report
      { level := .warn
        target := Log.candidateTarget
        message := "Retry schedule overflows, message will not be retransmitted automatically"
        fields := naming candidate
        spans := [] }, identity)
  else if candidate.wantsTimer then (listed.arm identity candidate.next, identity)
  else (listed, identity)

/-- Start to retransmit a message that was sent at `now`, and get the identity of
its candidate. -/
def add (registry : Registry) (now : Nat) (message : Message) :
    Registry × Except Rejection Nat :=
  registry.traced "add_unacknowledged"
    [sequenceField message.sequence, .number "number" message.number]
    fun registry =>
      match registry.rejection? message with
      | some rejection => (registry, .error rejection)
      | none =>
          let (enrolled, identity) := registry.enroll now message
          (enrolled, .ok identity)

/-! ## Forgetting -/

/-- End candidates one after the other. -/
def finishAll (registry : Registry) (ending : Ending) (identities : List Nat) : Registry :=
  identities.foldl
    (fun registry identity =>
      (registry.dropTimer identity).modify identity (Candidate.finish · ending))
    registry

/-- Ask the store to drop the records of acknowledged messages.  A failure is
reported and has no other effect. -/
def dropRecords (registry : Registry) (sequence : SequenceKey) (numbers : List Nat) :
    Registry :=
  match registry.store with
  | none => registry
  | some store =>
      let (result, kept) := store.remove sequence numbers
      let dropped := { registry with store := some kept }
      match result with
      | .ok removed =>
          dropped.report
            { level := .trace
              target := Log.storeTarget
              message := "Removed stored messages"
              fields :=
                [sequenceField sequence, .number "requested" numbers.length,
                  .number "removed" removed]
              spans := [] }
      | .error failure =>
          dropped.report
            { level := .error
              target := Log.registryTarget
              message := "Failed to remove acknowledged messages from store"
              fields := [sequenceField sequence, .shown "error" failure.message]
              spans := [] }

/-- Forget the messages of a sequence that are acknowledged, and count them. -/
def purgeAcknowledged (registry : Registry) (sequence : SequenceKey)
    (acknowledged : Nat → Bool) : Registry × Nat :=
  registry.traced "purge_acknowledged" [sequenceField sequence] fun registry =>
    let isPurged (identity : Nat) := (registry.numberOf identity).any acknowledged
    let purged := (registry.roster.listOf sequence).filter isPurged
    let numbers := (purged.filterMap registry.numberOf).mergeSort
    if purged.isEmpty then (registry, 0)
    else
      let finished :=
        { registry.finishAll .resolved purged with
          roster := registry.roster.strike sequence isPurged }
      let reported := finished.report
        { level := .debug
          target := Log.registryTarget
          message := "Purged acknowledged messages"
          fields := [sequenceField sequence, .number "count" purged.length]
          spans := [] }
      (reported.dropRecords sequence numbers, purged.length)

/-- Forget every message of a sequence and its suspension, and count the
messages. -/
def purgeAll (registry : Registry) (sequence : SequenceKey) : Registry × Nat :=
  registry.traced "purge_all" [sequenceField sequence] fun registry =>
    let removed := registry.roster.listOf sequence
    let finished :=
      { registry.finishAll .cancelled removed with roster := registry.roster.forget sequence }
    if removed.isEmpty then (finished, 0)
    else
      (finished.report
        (.engine .trace
          ("Purged " ++ toString removed.length ++ " messages of sequence " ++ sequence.text)),
        removed.length)

/-- Give up every message of a sequence without forgetting it. -/
def stop (registry : Registry) (sequence : SequenceKey) : Registry :=
  (registry.traced "stop" [sequenceField sequence] fun registry =>
    (registry.finishAll .cancelled (registry.roster.listOf sequence), ())).1

/-- Give up every message without forgetting it, so that an acknowledgment that
is still to come purges it. -/
def shutdown (registry : Registry) : Registry :=
  (registry.traced "shutdown" [] fun registry =>
    ((registry.finishAll .cancelled registry.roster.all).report
      (.engine .info
        ("Retransmission stopped with " ++ toString registry.roster.count ++
          " unacknowledged messages")), ())).1

/-! ## Suspending and resuming -/

/-- The report of an operation on a sequence and so many of its messages. -/
def sequenceReport (verb : String) (sequence : SequenceKey) (count : Nat) : Log.Event :=
  .engine .debug
    (verb ++ " sequence " ++ sequence.text ++ " (" ++ toString count ++ " messages)")

/-- Let the schedules of a sequence stand still.  Messages that are added later
start suspended. -/
def suspend (registry : Registry) (sequence : SequenceKey) : Registry :=
  (registry.traced "suspend" [sequenceField sequence] fun registry =>
    let moved := registry.roster.activeOf sequence
    let paused := moved.foldl
      (fun registry identity => (registry.dropTimer identity).modify identity Candidate.suspend)
      registry
    ({ paused with roster := registry.roster.suspend sequence }.report
      (sequenceReport "Suspended" sequence moved.length), ())).1

/-- Take a candidate out of suspension, and have it resend at once if it still
resends at all. -/
def wake (registry : Registry) (now identity : Nat) : Registry :=
  match registry.candidate? identity with
  | none => registry
  | some candidate =>
      if !candidate.suspended then registry
      else
        let freed := registry.modify identity Candidate.unsuspend
        if candidate.isInert || !candidate.addressable then freed
        else
          let due := freed.modify identity fun candidate => { candidate with next := now }
          due.arm identity now

/-- Resume a suspended sequence at `now`: each of its messages is resent at
once. -/
def resume (registry : Registry) (now : Nat) (sequence : SequenceKey) : Registry :=
  (registry.traced "resume" [sequenceField sequence] fun registry =>
    if !registry.roster.isSuspended sequence then (registry, ())
    else
      let moved := registry.roster.suspendedOf sequence
      let woken := moved.foldl (wake · now ·) registry
      ({ woken with roster := registry.roster.resume sequence }.report
        (sequenceReport "Resumed" sequence moved.length), ())).1

end Redelivery.Registry
