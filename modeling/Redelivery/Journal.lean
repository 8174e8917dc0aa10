import Redelivery.Candidate
import Redelivery.Log.Event

/-!
# What a registry has done

The journal keeps the log events and the resends of a registry, the newest
first.  It only ever grows, so what happened since an earlier moment is told by
how much it has grown.
-/

namespace Redelivery

/-- A resend that was handed to the transport. -/
structure Resend where
  instant : Nat
  job : Job
  deriving DecidableEq, Repr

/-- Whether a resend comes before another one by instant and sequence.  Numbers
decide last, if they are to. -/
def Resend.precedes (byNumber : Bool) (first second : Resend) : Bool :=
  let message := first.job.message
  let other := second.job.message
  decide (first.instant < second.instant ∨
    (first.instant = second.instant ∧
      (message.sequence.text < other.sequence.text ∨
        (message.sequence = other.sequence ∧ (byNumber → message.number ≤ other.number)))))

/-- Log events and resends, newest first, and the spans that are open, innermost
first. -/
structure Journal where
  events : List Log.Event
  resends : List Resend
  spans : List Log.Span
  deriving DecidableEq, Repr

namespace Journal

/-- Nothing has happened. -/
def empty : Journal :=
  { events := [], resends := [], spans := [] }

/-- Report an event within the spans that are open. -/
def report (journal : Journal) (event : Log.Event) : Journal :=
  { journal with events := journal.spans.foldl Log.Event.within event :: journal.events }

/-- Open a span and report the beginning of an operation in it. -/
def enter (journal : Journal) (operation : String) (fields : List Log.Field) : Journal :=
  { journal with spans := { name := operation, fields } :: journal.spans }.report
    (.enter operation)

/-- Report the end of an operation and close its span. -/
def leave (journal : Journal) (operation : String) : Journal :=
  { journal.report (.leave operation) with spans := journal.spans.tail }

/-- Note a resend. -/
def noteResend (journal : Journal) (instant : Nat) (job : Job) : Journal :=
  { journal with resends := { instant, job } :: journal.resends }

/-- The events that were reported after the first `count`, oldest first. -/
def eventsSince (journal : Journal) (count : Nat) : List Log.Event :=
  (journal.events.take (journal.events.length - count)).reverse

/-- The resends that were noted after the first `count`, oldest first. -/
def resendsSince (journal : Journal) (count : Nat) : List Resend :=
  (journal.resends.take (journal.resends.length - count)).reverse

end Journal

end Redelivery
