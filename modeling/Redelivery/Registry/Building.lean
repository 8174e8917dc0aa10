import Redelivery.Config
import Redelivery.Registry.Basic

/-!
# Registries from configurations

A configuration fixes what drives a registry and which owners have pools.
-/

namespace Redelivery.Registry

/-- What drives the registry of a configuration. -/
def drivingOf : Scheduling → Driving
  | .timer => .byTimers true
  | .manual => .byHand

/-- A registry for a configuration, unless the configuration cannot be used. -/
def build (config : Config) (store : Option Store) : Except Config.Failure Registry :=
  match config.failure? with
  | some failure => .error failure
  | none =>
      let registry := { empty (drivingOf config.scheduling) with store }
      let executors := config.executors.entries.map fun (owner, most) => (owner, some most)
      .ok ((registry.setExecutors executors).report config.builtReport)

end Redelivery.Registry
