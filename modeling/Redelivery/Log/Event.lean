import Redelivery.Log.Level

/-!
# Log events

An event has a level, the target it is reported under, a message and named
fields.  It remembers the spans that were open when it was reported, the
outermost first.
-/

namespace Redelivery.Log

/-- A named value.  Values that are text by nature are quoted when they are
written out, values that have a text form are not. -/
structure Field where
  name : String
  text : String
  quoted : Bool
  deriving DecidableEq, Repr

namespace Field

/-- A value in its text form. -/
def shown (name text : String) : Field :=
  { name, text, quoted := false }

/-- A number. -/
def number (name : String) (value : Nat) : Field :=
  { name, text := toString value, quoted := false }

/-- A value that is text by nature. -/
def literal (name text : String) : Field :=
  { name, text, quoted := true }

end Field

/-- An operation under way, with the fields that tell which one it is. -/
structure Span where
  name : String
  fields : List Field
  deriving DecidableEq, Repr

/-- Something that happened. -/
structure Event where
  level : Level
  target : String
  message : String
  fields : List Field
  spans : List Span
  deriving DecidableEq, Repr

/-! ## Targets -/

/-- Events of the engine's lifecycle. -/
def engineTarget : String :=
  "reliant::engine"

/-- Resends handed to a transport. -/
def resendTarget : String :=
  "reliant::resend"

/-- The beginning and the end of operations. -/
def operationTarget : String :=
  "reliant::operation"

/-- Reports of a registry about its own messages. -/
def registryTarget : String :=
  "reliant_retransmit::registry"

/-- Reports of a message's retry schedule. -/
def candidateTarget : String :=
  "reliant_retransmit::candidate"

/-- Reports of the record store. -/
def storeTarget : String :=
  "reliant_store::backends::memory"

namespace Event

/-- An event of the engine. -/
def engine (level : Level) (message : String) : Event :=
  { level, target := engineTarget, message, fields := [], spans := [] }

/-- A resend. -/
def resend (level : Level) (message : String) : Event :=
  { level, target := resendTarget, message, fields := [], spans := [] }

/-- The beginning of an operation. -/
def enter (operation : String) : Event :=
  { level := .trace
    target := operationTarget
    message := "enter"
    fields := [.literal "operation" operation]
    spans := [] }

/-- The time that an operation took, which is not kept. -/
def elapsed : Field :=
  .shown "elapsed_us" "*"

/-- The end of an operation. -/
def leave (operation : String) : Event :=
  { level := .trace
    target := operationTarget
    message := "leave"
    fields := [.literal "operation" operation, elapsed]
    spans := [] }

/-- The same event within a span. -/
def within (event : Event) (span : Span) : Event :=
  { event with spans := span :: event.spans }

end Event

end Redelivery.Log
