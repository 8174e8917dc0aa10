import Redelivery.Keyed
import Redelivery.Log.Event
import Redelivery.Policy

/-!
# Configuration

What a registry can be built from: the policy of messages that bring none along,
what fires the retries, and the owners that have executors of their own.
-/

namespace Redelivery

/-- What fires the retries. -/
inductive Scheduling where
  | timer
  /-- Nothing; the caller drives them. -/
  | manual
  deriving DecidableEq, Repr

/-- The name of a way of scheduling. -/
def Scheduling.name : Scheduling → String
  | timer => "Timer"
  | manual => "Manual"

/-- A configuration.  Executors are given as numbers of resends that may run at
once. -/
structure Config where
  policy : Policy
  scheduling : Scheduling
  executors : Keyed String Nat
  deriving DecidableEq, Repr

namespace Config

/-- What is in force without a configuration. -/
def standard : Config :=
  { policy := Policy.standard, scheduling := .timer, executors := Keyed.empty }

/-- The resends that may run at once where nothing else is said. -/
def standardConcurrency : Nat :=
  16

/-- Why a configuration cannot be used. -/
inductive Failure where
  /-- The file that the environment names does not exist. -/
  | missingFile (path : String)
  /-- None of the files that are looked for exists. -/
  | notFound (tried : List String)
  | unreadable (path reason : String)
  /-- The contents of a file are no configuration. -/
  | unparsable (path : String)
  | unusablePolicy (defect : Policy.Defect)
  /-- The executor of an owner lets no resend run. -/
  | idleExecutor (owner : String)
  deriving DecidableEq, Repr

/-- The failure in words. -/
def Failure.message : Failure → String
  | missingFile path => "RELIANT_CONFIG points to non-existent file: " ++ path
  | notFound tried =>
      "No configuration file found. Tried:\n  - RELIANT_CONFIG environment variable\n" ++
        "\n".intercalate (tried.map fun path => "  - " ++ path)
  | unreadable path reason => "Failed to read config file " ++ path ++ ": " ++ reason
  | unparsable path => "Failed to parse config file " ++ path
  | unusablePolicy defect => "Invalid default retry policy: " ++ defect.message
  | idleExecutor owner =>
      "Executor '" ++ owner ++ "' must allow at least one concurrent resend"

/-- Why a configuration cannot be used; the policy is looked at before the
executors. -/
def failure? (config : Config) : Option Failure :=
  match config.policy.defect? with
  | some defect => some (.unusablePolicy defect)
  | none =>
      (config.executors.entries.find? fun entry => entry.2 = 0).map fun entry =>
        .idleExecutor entry.1

/-- The report that a registry was built. -/
def builtReport (config : Config) : Log.Event :=
  .engine .trace
    ("Retransmission registry built (" ++ config.scheduling.name ++ " scheduler, " ++
      toString config.executors.entries.length ++ " dedicated executors)")

/-- The report that a configuration was read from a file. -/
def loadedReport (path : String) : Log.Event :=
  .engine .trace ("Loaded retransmission config from " ++ path)

end Config

end Redelivery
