import Redelivery.Config
import Redelivery.Notation.Record

/-!
# Configurations from text

The fields of configurations and policies in the configuration notation.  A
field that is left out keeps its standard value.
-/

namespace Redelivery

open Notation

namespace Config

/-- The way of scheduling that a name stands for. -/
def schedulingName : Reader Scheduling := do
  let name ← Reader.name
  if name = "Timer".toList then pure .timer
  else
    guard (name = "Manual".toList)
    pure .manual

/-- A bound on the number of retries. -/
def retryLimit : Reader RetryLimit := do
  let name ← Reader.name
  if name = "Unlimited".toList then pure .unlimited
  else
    guard (name = "Limited".toList)
    Reader.spacing
    Reader.expect '('
    Reader.spacing
    let most ← Reader.unsigned 32
    let _ ← Reader.comma
    Reader.expect ')'
    pure (.limited most)

/-- The fields of a policy. -/
def policyFields : List (FieldReader Policy) :=
  [{ name := "base_interval_ms".toList
     read := do
       let baseMillis ← Reader.unsigned 64
       pure fun policy => { policy with baseMillis } },
   { name := "backoff".toList
     read := do
       let backoff ← Reader.float "f64".toList
       pure fun policy => { policy with backoff } },
   { name := "max_retries".toList
     read := do
       let limit ← retryLimit
       pure fun policy => { policy with limit } }]

/-- A policy whose values are nested no deeper than a number of levels. -/
def policyRecord (dialect : Dialect) (levels : Nat) : Reader Policy :=
  Reader.record dialect "RetryPolicy".toList policyFields (Reader.skipValue dialect levels)
    Policy.standard

/-- The fields of an executor. -/
def executorFields : List (FieldReader Nat) :=
  [{ name := "max_concurrent".toList
     read := do
       let most ← Reader.unsigned 64
       pure fun _ => most }]

/-- One owner and its executor. -/
def executorEntry (dialect : Dialect) (levels : Nat) (executors : Keyed String Nat) :
    Reader (Keyed String Nat) := do
  let owner ← Reader.text
  Reader.spacing
  Reader.expect ':'
  Reader.spacing
  let most ← Reader.record dialect "ExecutorConfig".toList executorFields
    (Reader.skipValue dialect levels) standardConcurrency
  pure (executors.put (String.ofList owner) most)

/-- The executors by owner. -/
def executorMap (dialect : Dialect) (levels : Nat) : Reader (Keyed String Nat) := do
  Reader.expect '\x7b'
  Reader.items '\x7d' (executorEntry dialect levels) Keyed.empty

/-- The fields of a configuration, whose values are nested no deeper than a
number of levels. -/
def configFields (dialect : Dialect) (levels : Nat) : List (FieldReader Config) :=
  [{ name := "default_policy".toList
     read := do
       let policy ← policyRecord dialect (levels - 2)
       pure fun config => { config with policy } },
   { name := "scheduler".toList
     read := do
       let scheduling ← schedulingName
       pure fun config => { config with scheduling } },
   { name := "executors".toList
     read := do
       let executors ← executorMap dialect (levels - 4)
       pure fun config => { config with executors } }]

/-- The configuration that a text stands for. -/
def ofText? (text : String) : Option Config :=
  read?
    (fun dialect =>
      let levels := deepest - 2
      Reader.record dialect "RetransmissionConfig".toList (configFields dialect levels)
        (Reader.skipValue dialect levels) standard)
    text.toList

end Config

/-- The policy that a text stands for. -/
def Policy.ofText? (text : String) : Option Policy :=
  read? (fun dialect => Config.policyRecord dialect (deepest - 2)) text.toList

end Redelivery
