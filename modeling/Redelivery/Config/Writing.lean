import Redelivery.Binary64.Layout
import Redelivery.Config
import Redelivery.Text.Quoted

/-!
# Configurations as text

The configuration notation without spacing, every field written out.
-/

namespace Redelivery

/-- A record with its fields in order. -/
def recordText (fields : List (String × String)) : String :=
  "(" ++ ",".intercalate (fields.map fun (name, value) => name ++ ":" ++ value) ++ ")"

/-- A bound on the number of retries as text. -/
def RetryLimit.toText : RetryLimit → String
  | unlimited => "Unlimited"
  | limited most => "Limited(" ++ toString most ++ ")"

/-- A policy as text. -/
def Policy.toText (policy : Policy) : String :=
  recordText
    [("base_interval_ms", toString policy.baseMillis),
      ("backoff", Binary64.Layout.notation16.render policy.backoff),
      ("max_retries", policy.limit.toText)]

namespace Config

/-- An owner and its executor as text. -/
def executorText (owner : String) (most : Nat) : String :=
  String.ofList (Text.quote true owner.toList) ++ ":" ++
    recordText [("max_concurrent", toString most)]

/-- A configuration as text. -/
def toText (config : Config) : String :=
  recordText
    [("default_policy", config.policy.toText),
      ("scheduler", config.scheduling.name),
      ("executors",
        "\x7b" ++
          ",".intercalate
            (config.executors.entries.map fun (owner, most) => executorText owner most) ++
          "\x7d")]

end Config

end Redelivery
