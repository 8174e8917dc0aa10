import Redelivery.Keyed

/-!
# Which executor runs a job

A job runs in the activity that hands it over, unless the owner of its message
is registered with an executor of its own.
-/

namespace Redelivery.Executor

/-- Where a job runs: in the activity that hands it over, or in a pool, which
is named by its index. -/
inductive Route where
  | inline
  | pooled (pool : Nat)
  deriving DecidableEq, Repr

/-- The executors of the owners that have one. -/
structure Routing where
  owners : Keyed String Route
  deriving DecidableEq, Repr

namespace Routing

/-- Every job runs where it is handed over. -/
def inlineOnly : Routing :=
  ⟨Keyed.empty⟩

/-- Give an owner an executor, in place of the one it had. -/
def register (routing : Routing) (owner : String) (route : Route) : Routing :=
  ⟨routing.owners.put owner route⟩

/-- The executor of an owner.  Messages without an owner, and owners without a
registration, are served inline. -/
def resolve (routing : Routing) (owner : Option String) : Route :=
  match owner with
  | none => .inline
  | some owner => (routing.owners.find? owner).getD .inline

/-- The owners that have a pool, in order, with their pools. -/
def pooled (routing : Routing) : List (String × Nat) :=
  (routing.owners.entries.filterMap fun (owner, route) =>
    match route with
    | .inline => none
    | .pooled pool => some (owner, pool)).mergeSort
    fun first second => decide (first.1 ≤ second.1)

/-- Whether an owner has an executor of its own. -/
def isRegistered (routing : Routing) (owner : String) : Bool :=
  routing.owners.has owner

end Routing

end Redelivery.Executor
