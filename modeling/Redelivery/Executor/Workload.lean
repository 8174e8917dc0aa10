import Redelivery.Calls
import Redelivery.Executor.Pool
import Redelivery.Executor.Routing
import Redelivery.Timeline

/-!
# Jobs on executors

A workload is a number of jobs, each of which takes some time on the executor of
its owner.  It notes when a job begins and when it ends.
-/

namespace Redelivery.Executor

/-- What a job does next. -/
inductive Work where
  | acquire (pool : Nat)
  | begin (job : String)
  | pause (duration : Nat)
  | finish (job : String)
  | release (pool : Nat)
  | reply (call : Nat)
  deriving DecidableEq, Repr

/-- A job begins or ends. -/
structure Milestone where
  began : Bool
  job : String
  instant : Nat
  deriving DecidableEq, Repr

/-- Executors and what was noted of their jobs, newest first. -/
structure Workload where
  routing : Routing
  pools : List (Pool (List Work))
  milestones : List Milestone
  calls : Calls Unit

namespace Workload

/-- Every owner is served inline. -/
def empty : Workload :=
  { routing := Routing.inlineOnly, pools := [], milestones := [], calls := Calls.empty }

/-- Give an owner a pool of its own, in place of the one it had. -/
def register (workload : Workload) (owner : String) (size : Nat) : Workload :=
  { workload with
    routing := workload.routing.register owner (.pooled workload.pools.length)
    pools := workload.pools ++ [Pool.ofSize size] }

/-- The pool of every owner that has one, in the order of the owners. -/
def ownedPools (workload : Workload) : List (String × Pool (List Work)) :=
  (workload.routing.pooled.filterMap fun (owner, pool) =>
    (workload.pools[pool]?).map fun found => (owner, found))

/-- What was noted after the first `count` milestones, oldest first. -/
def milestonesSince (workload : Workload) (count : Nat) : List Milestone :=
  (workload.milestones.take (workload.milestones.length - count)).reverse

/-- A workload on a clock. -/
abbrev Clocked := Timeline Work Workload

/-- Note a milestone. -/
def note (clocked : Clocked) (began : Bool) (job : String) : Clocked :=
  clocked.mapWorld fun workload =>
    { workload with
      milestones := { began, job, instant := clocked.now } :: workload.milestones }

/-- One instruction of a job. -/
def behave : Behaviour Work Workload := fun work rest clocked =>
  match work with
  | .acquire pool =>
      let (pools, granted) := Pool.requestAt clocked.world.pools pool rest
      (clocked.mapWorld fun workload => { workload with pools },
        if granted then .onward rest else .retire)
  | .begin job => (note clocked true job, .onward rest)
  | .pause duration => (clocked, .sleepUntil (clocked.now + duration) rest)
  | .finish job => (note clocked false job, .onward rest)
  | .release pool =>
      let (pools, heir) := Pool.releaseAt clocked.world.pools pool
      let released := clocked.mapWorld fun workload => { workload with pools }
      (heir.elim released released.spawn, .onward rest)
  | .reply call =>
      (clocked.mapWorld fun workload => { workload with calls := workload.calls.reply call () },
        .onward rest)

/-- The course of a job on its executor. -/
def course (job : String) (takes : Nat) : List Work :=
  .begin job :: ((if takes = 0 then [] else [.pause takes]) ++ [.finish job])

/-- Run a job on the executor of its owner.  A job that runs inline is waited
for. -/
def execute (fuel : Nat) (clocked : Clocked) (job : String) (owner : Option String)
    (takes : Nat) : Clocked :=
  match clocked.world.routing.resolve owner with
  | .pooled pool =>
      (clocked.spawn (.acquire pool :: (course job takes ++ [.release pool]))).settle behave fuel
  | .inline =>
      let (call, calls) := clocked.world.calls.make
      let begun := (clocked.mapWorld fun workload => { workload with calls }).call
        (course job takes ++ [.reply call])
      (begun.await behave (fun workload => (workload.calls.answer? call).isSome) fuel).settle
        behave fuel

end Workload

end Redelivery.Executor
