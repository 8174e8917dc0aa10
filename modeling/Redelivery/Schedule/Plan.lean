import Redelivery.Keyed
import Redelivery.Schedule.Agenda
import Redelivery.Timeline

/-!
# Tasks that schedule and cancel each other

A plan runs named tasks at their instants.  A task notes that it ran, schedules
further tasks, and then cancels tasks by name.  The tasks of a plan wait either
in a queue, until the caller runs those that are due, or for timers.
-/

namespace Redelivery.Schedule

/-- When a task is due: at an instant, or some time after it is scheduled. -/
inductive Due where
  | at (instant : Nat)
  | after (delay : Nat)
  deriving DecidableEq, Repr

/-- The instant that is meant at `now`. -/
def Due.instant (due : Due) (now : Nat) : Nat :=
  match due with
  | .at instant => instant
  | .after delay => now + delay

/-- A task with its name, the tasks it schedules and those it cancels. -/
inductive Task where
  | mk (name : String) (due : Due) (followers : List Task) (cancels : List String)

namespace Task

instance : Inhabited Task :=
  ⟨.mk "" (.at 0) [] []⟩

/-- The name under which the task is noted and can be cancelled. -/
def name : Task → String
  | mk name _ _ _ => name

/-- When the task is due. -/
def due : Task → Due
  | mk _ due _ _ => due

/-- The tasks that it schedules when it runs. -/
def followers : Task → List Task
  | mk _ _ followers _ => followers

/-- The names of the tasks that it cancels when it runs. -/
def cancels : Task → List String
  | mk _ _ _ cancels => cancels

end Task

/-- What is noted of a running task. -/
inductive Firing where
  | ran (name : String) (instant : Nat)
  /-- A follower was not accepted. -/
  | refused (refusal : Refusal)
  deriving DecidableEq, Repr

/-- The state of a plan besides its agenda. -/
structure Ledger where
  /-- The tickets of tasks by name, as far as they are still held. -/
  handles : Keyed String Nat
  /-- What was noted, newest first. -/
  firings : List Firing
  /-- The tickets whose timers are to be started. -/
  starting : List Nat

/-- Tasks that wait, in a queue or for timers, and their ledger. -/
structure Plan where
  timed : Bool
  agenda : Agenda Task
  ledger : Ledger

namespace Plan

/-- A plan without a task. -/
def empty (timed : Bool) : Plan :=
  { timed
    agenda := Agenda.empty
    ledger := { handles := Keyed.empty, firings := [], starting := [] } }

/-- Schedule a task at `now`.  Its ticket takes the place of an older one of the
same name. -/
def scheduleIn (timed : Bool) (now : Nat) (task : Task) :
    Agenda Task × Ledger → Except Refusal (Agenda Task × Ledger)
  | (agenda, ledger) =>
      (agenda.schedule (task.due.instant now) task).map fun (ticket, agenda) =>
        (agenda,
          { ledger with
            handles := ledger.handles.put task.name ticket
            starting := if timed then ledger.starting ++ [ticket] else ledger.starting })

/-- Cancel a task by name, if its ticket is held. -/
def cancelIn (name : String) : Agenda Task × Ledger → Agenda Task × Ledger
  | (agenda, ledger) =>
      match ledger.handles.find? name with
      | none => (agenda, ledger)
      | some ticket =>
          (agenda.cancel ticket, { ledger with handles := ledger.handles.remove name })

/-- Note a firing. -/
def note (firing : Firing) : Agenda Task × Ledger → Agenda Task × Ledger
  | (agenda, ledger) => (agenda, { ledger with firings := firing :: ledger.firings })

/-- A task runs at `now`. -/
def runTask (timed : Bool) (now : Nat) (task : Task) (state : Agenda Task × Ledger) :
    Agenda Task × Ledger :=
  let noted := note (.ran task.name now) state
  let followed := task.followers.foldl
    (fun state follower =>
      match scheduleIn timed now follower state with
      | .ok accepted => accepted
      | .error refusal => note (.refused refusal) state)
    noted
  task.cancels.foldl (fun state name => cancelIn name state) followed

/-! ## Operations -/

/-- Schedule a task at `now`. -/
def schedule (plan : Plan) (now : Nat) (task : Task) : Except Refusal Plan :=
  (scheduleIn plan.timed now task (plan.agenda, plan.ledger)).map fun (agenda, ledger) =>
    { plan with agenda, ledger }

/-- Whether the ticket of a task is held. -/
def holds (plan : Plan) (name : String) : Bool :=
  plan.ledger.handles.has name

/-- Cancel a task by name, if its ticket is held. -/
def cancel (plan : Plan) (name : String) : Plan :=
  let (agenda, ledger) := cancelIn name (plan.agenda, plan.ledger)
  { plan with agenda, ledger }

/-- Let go of a ticket; the task stays scheduled. -/
def release (plan : Plan) (name : String) : Plan :=
  { plan with ledger := { plan.ledger with handles := plan.ledger.handles.remove name } }

/-- Accept no task any more. -/
def close (plan : Plan) : Plan :=
  { plan with agenda := plan.agenda.close }

/-- Run the tasks that are due by an instant, at `now`, and count them. -/
def runDue (fuel : Nat) (plan : Plan) (now upTo : Nat) : Nat × Plan :=
  match Agenda.catchUp (runTask plan.timed now) upTo fuel (plan.agenda, plan.ledger) with
  | none => (0, plan)
  | some (ran, agenda, ledger) => (ran, { plan with agenda, ledger })

/-- What was noted after the first `count` firings, oldest first. -/
def firingsSince (plan : Plan) (count : Nat) : List Firing :=
  (plan.ledger.firings.take (plan.ledger.firings.length - count)).reverse

/-! ## On a clock -/

/-- A plan on a clock; an instruction names the ticket of a timer. -/
abbrev Clocked := Timeline Nat Plan

/-- Start the timers of the tasks that were accepted. -/
def launch (clocked : Clocked) : Clocked :=
  (clocked.spawnAll (clocked.world.ledger.starting.map fun ticket => [ticket])).mapWorld
    fun plan => { plan with ledger := { plan.ledger with starting := [] } }

/-- A timer runs its task once the instant has come, unless the task was
cancelled. -/
def behave : Behaviour Nat Plan := fun ticket _ clocked =>
  let plan := clocked.world
  match plan.agenda.find? ticket with
  | none => (clocked, .retire)
  | some entry =>
      if Time.wake entry.due ≤ clocked.now then
        let (agenda, ledger) :=
          runTask plan.timed clocked.now entry.task (plan.agenda.cancel ticket, plan.ledger)
        (launch { clocked with world := { plan with agenda, ledger } }, .retire)
      else (clocked, .sleepUntil entry.due [ticket])

end Plan

end Redelivery.Schedule
