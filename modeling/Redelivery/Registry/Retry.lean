import Redelivery.Registry.Basic

/-!
# Timers and resends

How timers are armed and fire, and how a resend goes.  Every function leads from
one state of the registry to the next; what takes time lies between them.
-/

namespace Redelivery.Registry

/-! ## Timers -/

/-- Take the armed timer of a candidate off the agenda, if there is one. -/
def dropTimer (registry : Registry) (identity : Nat) : Registry :=
  match (registry.candidate? identity).bind Candidate.timer with
  | none => registry
  | some ticket => { registry with agenda := registry.agenda.cancel ticket }

/-- Give up the armed timer of a candidate, if there is one. -/
def disarm (registry : Registry) (identity : Nat) : Registry :=
  (registry.dropTimer identity).modify identity Candidate.disarm

/-- Ask whatever drives the registry to deliver an alarm.  A registry that is
driven by hand takes no note of it. -/
def acceptAlarm (registry : Registry) (due : Nat) (alarm : Alarm) :
    Except Schedule.Refusal (Option Nat × Registry) :=
  match registry.driving with
  | .byHand => .ok (none, registry)
  | .byQueue =>
      (registry.agenda.schedule due alarm).map fun (ticket, agenda) =>
        (some ticket, { registry with agenda })
  | .byTimers hosted =>
      (registry.agenda.scheduleTimer hosted due alarm).map fun (ticket, agenda) =>
        (some ticket, { registry with agenda }.start [.ring ticket])

/-- The fields that name the message of a candidate. -/
def naming (candidate : Candidate) : List Log.Field :=
  [.shown "sequence" candidate.sequence.text, .number "number" candidate.number]

/-- Report that a candidate is left without a timer. -/
def reportUnscheduled (registry : Registry) (candidate : Candidate)
    (refusal : Schedule.Refusal) : Registry :=
  registry.report
    { level := .warn
      target := Log.candidateTarget
      message := "Failed to schedule retransmission"
      fields := naming candidate ++ [.shown "error" refusal.message]
      spans := [] }

/-- Arm the timer of a candidate for an instant, in place of the one that may be
armed. -/
def arm (registry : Registry) (identity due : Nat) : Registry :=
  let disarmed := registry.disarm identity
  match disarmed.candidate? identity with
  | none => disarmed
  | some candidate =>
      let alarm : Alarm := { candidate := identity, generation := candidate.generation }
      match disarmed.acceptAlarm due alarm with
      | .error refusal => disarmed.reportUnscheduled candidate refusal
      | .ok (ticket, accepted) =>
          accepted.modify identity fun candidate => { candidate with timer := ticket }

/-! ## Handing over resends -/

/-- Hand over a resend of a candidate. -/
def handOver (registry : Registry) (identity : Nat) : Registry × Option Job :=
  match registry.candidate? identity with
  | none => (registry, none)
  | some candidate =>
      match candidate.handOver identity with
      | none => (registry, none)
      | some (job, pending) => (registry.modify identity fun _ => pending, some job)

/-- A timer fires.  One that has been superseded is ignored; any other one is
used up, and a resend is handed over if the candidate is free. -/
def fireTimer (registry : Registry) (alarm : Alarm) : Registry × Option Job :=
  match registry.candidate? alarm.candidate with
  | none => (registry, none)
  | some candidate =>
      let reported := registry.report
        { level := .trace
          target := Log.candidateTarget
          message := "Retry timer fired"
          fields := naming candidate ++ [.number "generation" alarm.generation.toNat]
          spans := [] }
      if alarm.generation ≠ candidate.generation then (reported, none)
      else
        let used := reported.modify alarm.candidate fun candidate =>
          { candidate with timer := none }
        if candidate.isFree then used.handOver alarm.candidate else (used, none)

/-- Hand over a resend without a timer, if the candidate is free and, where an
instant is given, due by then.  An armed timer is superseded. -/
def force (registry : Registry) (identity : Nat) (upTo : Option Nat) :
    Registry × Option Job :=
  match registry.candidate? identity with
  | none => (registry, none)
  | some candidate =>
      if candidate.isFree && upTo.all candidate.isDue then
        (registry.disarm identity).handOver identity
      else (registry, none)

/-! ## The course of a resend -/

/-- A resend goes out at `now`: it is reported and noted, and the transport
decides its outcome. -/
def beginSend (registry : Registry) (now : Nat) (job : Job) : Registry × Outcome :=
  let message := job.message
  let reported := registry.report
    (.resend .trace
      ("Resending message " ++ toString message.number ++ " on sequence " ++
        message.sequence.text ++ " (request_ack: " ++ toString job.requestAck ++ ")"))
  let (outcome, script) := reported.script.next (message.sequence, message.number)
  ({ reported with journal := reported.journal.noteResend now job, script }, outcome)

/-- Report a failed resend, loudly unless the failure is expected to clear up. -/
def reportFailure (registry : Registry) (job : Job) (failure : TransportFailure) :
    Registry :=
  registry.report
    { level := if failure.isTransient then .debug else .warn
      target := Log.candidateTarget
      message :=
        if failure.isTransient then "Transient failure resending message"
        else "Failed to resend message"
      fields :=
        [.shown "sequence" job.message.sequence.text, .number "number" job.message.number,
          .shown "error" failure.message]
      spans := [] }

/-- A resend is complete at `now`, whether it failed or not, and the next one is
scheduled. -/
def completeSend (registry : Registry) (now identity : Nat) : Registry :=
  match registry.candidate? identity with
  | none => registry
  | some candidate =>
      let (completed, sequel) := candidate.complete now
      let updated := registry.modify identity fun _ => completed
      match sequel with
      | .ended | .held => updated
      | .exhausted =>
          (updated.disarm identity).report
            { level := .debug
              target := Log.candidateTarget
              message := "Retry limit reached"
              fields := naming completed ++ [.number "retries" completed.retries]
              spans := [] }
      | .next due => updated.arm identity due
      | .overflow => (updated.disarm identity).reportUnscheduled completed .outOfRange

/-- The transport is done with a message at `now`. -/
def concludeSend (registry : Registry) (now : Nat) (job : Job)
    (failure : Option TransportFailure) : Registry :=
  (failure.elim registry (registry.reportFailure job)).completeSend now job.candidate

/-- A resend does not go out after all. -/
def abandonSend (registry : Registry) (job : Job) : Registry :=
  registry.modify job.candidate (Candidate.abandon · job.requestAck)

/-- Whether a resend may go out. -/
def maySend (registry : Registry) (job : Job) : Bool :=
  (registry.candidate? job.candidate).any Candidate.maySend

end Redelivery.Registry
