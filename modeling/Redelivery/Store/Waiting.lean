import Redelivery.Calls
import Redelivery.Store.Watched
import Redelivery.Timeline

/-!
# Waiting for removals

Whoever wants to know that a store under observation was asked for enough
removals waits for it, up to a deadline.  Every removal gives notice to all who
wait.  They listen for notices before they look at the number of removals, so
that none is lost in between, and they look at it before they look at the clock.
-/

namespace Redelivery.Store

/-- What an activity that waits for removals does. -/
inductive Watch where
  /-- Wait from now on, no longer than `patience`. -/
  | begin (expected patience call : Nat)
  /-- Listen for notices from now on. -/
  | listen (expected deadline call : Nat)
  /-- Look at the removals; `heard` notices were given before it listened. -/
  | look (expected deadline heard call : Nat)
  /-- Wait for a notice, up to the deadline. -/
  | linger (expected deadline heard call : Nat)
  deriving DecidableEq, Repr

/-- How a wait ended, and when. -/
structure Wait where
  result : Except Failure Unit
  ended : Nat

/-- A store with the number of notices that were given, and the waits that were
begun. -/
structure Watchroom where
  store : Watched
  notices : Nat
  calls : Calls Wait

/-- A store and those who wait, on a clock. -/
abbrev Waiting := Timeline Watch Watchroom

namespace Watchroom

/-- An empty store, and nobody waits. -/
def empty : Watchroom :=
  { store := Watched.empty, notices := 0, calls := Calls.empty }

/-- A wait ends. -/
def settleWait (room : Watchroom) (call : Nat) (wait : Wait) : Watchroom :=
  { room with calls := room.calls.reply call wait }

/-- A wait ends at once. -/
def finish (timeline : Waiting) (call : Nat) (result : Except Failure Unit) :
    Waiting × Pace Watch :=
  (timeline.mapWorld (settleWait · call { result, ended := timeline.now }), .retire)

/-- One instruction of an activity that waits. -/
def behave : Behaviour Watch Watchroom := fun watch _ timeline =>
  match watch with
  | .begin expected patience call =>
      (timeline, .onward [.listen expected (timeline.now + patience) call])
  | .listen expected deadline call =>
      (timeline, .onward [.look expected deadline timeline.world.notices call])
  | .look expected deadline heard call =>
      if timeline.world.store.hasSeen expected then finish timeline call (.ok ())
      else (timeline, .onward [.linger expected deadline heard call])
  | .linger expected deadline heard call =>
      if heard < timeline.world.notices then
        (timeline, .onward [.listen expected deadline call])
      else if Time.wake deadline ≤ timeline.now then finish timeline call (.error .timedOut)
      else (timeline, .sleepUntil deadline [.linger expected deadline heard call])

/-- Remove records, and give notice to all who wait for removals. -/
def remove (waiting : Waiting) (sequence : SequenceKey) (numbers : List Nat) :
    Except Failure Nat × Waiting :=
  let (result, store) := waiting.world.store.remove sequence numbers
  let notified := waiting.mapWorld fun room => { room with store, notices := room.notices + 1 }
  (result, notified.rouseWhere fun _ => true)

/-- Begin to wait for removals.  Under a name, the wait goes on by itself, and
without one a caller waits for its end. -/
def begin (waiting : Waiting) (name : Option String) (expected patience : Nat) :
    Nat × Waiting :=
  match name with
  | some name =>
      let (call, calls) := waiting.world.calls.makeNamed name
      (call, (waiting.mapWorld fun room => { room with calls }).spawn
        [.begin expected patience call])
  | none =>
      let (call, calls) := waiting.world.calls.make
      (call, (waiting.mapWorld fun room => { room with calls }).call
        [.begin expected patience call])

/-- Wait for removals, and let time pass until the wait ends, unless it goes on
by itself. -/
def wait (fuel : Nat) (waiting : Waiting) (name : Option String) (expected patience : Nat) :
    Waiting × Option Wait :=
  let (call, begun) := begin waiting name expected patience
  if name.isSome then (begun.settle behave fuel, none)
  else
    let ended := begun.await behave (fun room => (room.calls.answer? call).isSome) fuel
    (ended, ended.world.calls.answer? call)

/-- Ask how a named wait ended. -/
def join (waiting : Waiting) (name : String) : Waiting × Outlook Wait :=
  let (outlook, calls) := waiting.world.calls.join name
  (waiting.mapWorld fun room => { room with calls }, outlook)

end Watchroom

end Redelivery.Store
