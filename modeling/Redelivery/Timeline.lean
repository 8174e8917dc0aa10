import Redelivery.Time

/-!
# Activities on one clock

An activity is a program: a list of instructions that are carried out one after
the other.  Activities take turns.  One that is ready runs until it has to
wait: for an instant, or for something that another activity does.  Time stands
still while an activity is ready, and then moves to the next instant for which
one waits.

What an instruction does is given by a behaviour.  It sees the whole timeline,
so that it may start other activities, and the instructions that follow it, so
that it may put the rest of its activity aside.

`stepAt` and `rouseAt` let any activity go on that can; all possible orders are
runs of these two.  `settle` and `elapse` are one order of them: activities run
in the order in which they became ready, and an activity in the foreground, for
whose end a caller waits, is the first to wake up.
-/

namespace Redelivery

/-- A program, and whether a caller waits for its end. -/
structure Activity (ι : Type) where
  program : List ι
  foreground : Bool
  deriving Repr

/-- An activity that waits for an instant. -/
structure Sleeper (ι : Type) where
  wake : Nat
  activity : Activity ι
  deriving Repr

/-- Activities, the instant they have reached, and what they work on. -/
structure Timeline (ι σ : Type) where
  now : Nat
  /-- In the order in which they became ready. -/
  ready : List (Activity ι)
  /-- In the order of their instants, and of falling asleep for one instant. -/
  asleep : List (Sleeper ι)
  world : σ

/-- How an activity goes on after an instruction. -/
inductive Pace (ι : Type) where
  /-- With these instructions, at once. -/
  | onward (program : List ι)
  /-- With these instructions, once the instant has come. -/
  | sleepUntil (instant : Nat) (program : List ι)
  /-- Not at all, or not before somebody starts it again. -/
  | retire

/-- What an instruction does, given the instructions after it and the timeline
without its own activity. -/
abbrev Behaviour (ι σ : Type) :=
  ι → List ι → Timeline ι σ → Timeline ι σ × Pace ι

namespace Timeline

variable {ι σ : Type}

/-- A world at the start of the clock, without an activity. -/
def start (world : σ) : Timeline ι σ :=
  { now := 0, ready := [], asleep := [], world }

/-- Start an activity. -/
def spawn (timeline : Timeline ι σ) (program : List ι) : Timeline ι σ :=
  { timeline with ready := timeline.ready ++ [⟨program, false⟩] }

/-- Start activities one after the other. -/
def spawnAll (timeline : Timeline ι σ) (programs : List (List ι)) : Timeline ι σ :=
  programs.foldl spawn timeline

/-- Start an activity for whose end a caller waits; it is the first to run. -/
def call (timeline : Timeline ι σ) (program : List ι) : Timeline ι σ :=
  { timeline with ready := ⟨program, true⟩ :: timeline.ready }

/-- Change the world. -/
def mapWorld (timeline : Timeline ι σ) (change : σ → σ) : Timeline ι σ :=
  { timeline with world := change timeline.world }

/-! ## One step of one activity -/

/-- Put a sleeper behind all that do not wake after it. -/
def placeSleeper (sleeper : Sleeper ι) : List (Sleeper ι) → List (Sleeper ι)
  | [] => [sleeper]
  | next :: rest =>
      if next.wake ≤ sleeper.wake then next :: placeSleeper sleeper rest
      else sleeper :: next :: rest

/-- Let an activity go on after an instruction.  It keeps its turn unless it
has to wait. -/
def resume (timeline : Timeline ι σ) (index : Nat) (foreground : Bool) :
    Pace ι → Timeline ι σ
  | .onward program =>
      { timeline with ready := timeline.ready.insertIdx index ⟨program, foreground⟩ }
  | .sleepUntil instant program =>
      if Time.wake instant ≤ timeline.now then
        { timeline with ready := timeline.ready.insertIdx index ⟨program, foreground⟩ }
      else
        { timeline with
          asleep := placeSleeper ⟨Time.wake instant, ⟨program, foreground⟩⟩ timeline.asleep }
  | .retire => timeline

/-- One instruction of the ready activity at an index. -/
def stepAt (behave : Behaviour ι σ) (index : Nat) (timeline : Timeline ι σ) :
    Option (Timeline ι σ) :=
  match timeline.ready[index]? with
  | none => none
  | some activity =>
      let others := { timeline with ready := timeline.ready.eraseIdx index }
      match activity.program with
      | [] => some others
      | instruction :: rest =>
          let (after, pace) := behave instruction rest others
          some (after.resume index activity.foreground pace)

/-- Wake the sleeper at an index, if its instant has come. -/
def rouseAt (index : Nat) (timeline : Timeline ι σ) : Option (Timeline ι σ) :=
  match timeline.asleep[index]? with
  | none => none
  | some sleeper =>
      if sleeper.wake ≤ timeline.now then
        some
          { timeline with
            ready := timeline.ready ++ [sleeper.activity]
            asleep := timeline.asleep.eraseIdx index }
      else none

/-! ## One order of the steps -/

/-- Let ready activities run until none is left, at most `fuel`
instructions. -/
def settle (behave : Behaviour ι σ) : (fuel : Nat) → Timeline ι σ → Timeline ι σ
  | 0, timeline => timeline
  | fuel + 1, timeline =>
      match timeline.stepAt behave 0 with
      | none => timeline
      | some next => settle behave fuel next

/-- Wake everything whose instant has come: the foreground first, the rest in
order. -/
def rouseDue (timeline : Timeline ι σ) : Timeline ι σ :=
  let due := timeline.asleep.takeWhile fun sleeper => decide (sleeper.wake ≤ timeline.now)
  let woken := due.map Sleeper.activity
  { timeline with
    ready := woken.filter Activity.foreground ++ timeline.ready ++
      woken.filter (fun activity => !activity.foreground)
    asleep := timeline.asleep.dropWhile fun sleeper => decide (sleeper.wake ≤ timeline.now) }

/-- Wake sleepers of a kind, whatever they wait for. -/
def rouseWhere (timeline : Timeline ι σ) (wanted : List ι → Bool) : Timeline ι σ :=
  { timeline with
    ready := timeline.ready ++
      (timeline.asleep.filter fun sleeper => wanted sleeper.activity.program).map Sleeper.activity
    asleep := timeline.asleep.filter fun sleeper => !wanted sleeper.activity.program }

/-- Move the clock, which never runs backwards, and wake what is due. -/
def moveTo (timeline : Timeline ι σ) (instant : Nat) : Timeline ι σ :=
  rouseDue { timeline with now := max timeline.now instant }

/-- The next instant for which an activity waits. -/
def nextWake? (timeline : Timeline ι σ) : Option Nat :=
  timeline.asleep.head?.map Sleeper.wake

/-- Let time pass up to an instant; everything due on the way happens at its
own time. -/
def elapse (behave : Behaviour ι σ) (target : Nat) : (fuel : Nat) → Timeline ι σ → Timeline ι σ
  | 0, timeline => timeline
  | fuel + 1, timeline =>
      let settled := timeline.settle behave fuel
      match settled.nextWake? with
      | some wake =>
          if wake ≤ target then elapse behave target fuel (settled.moveTo wake)
          else settled.moveTo target
      | none => settled.moveTo target

/-- Let time pass until something is true of the world. -/
def await (behave : Behaviour ι σ) (finished : σ → Bool) :
    (fuel : Nat) → Timeline ι σ → Timeline ι σ
  | 0, timeline => timeline
  | fuel + 1, timeline =>
      let settled := timeline.settle behave fuel
      if finished settled.world then settled
      else
        match settled.nextWake? with
        | some wake => await behave finished fuel (settled.moveTo wake)
        | none => settled

/-- Sleep for a duration, and let everything happen that is due by then. -/
def advance (behave : Behaviour ι σ) (fuel : Nat) (duration : Nat) (timeline : Timeline ι σ) :
    Timeline ι σ :=
  let settled := timeline.settle behave fuel
  settle behave fuel (elapse behave (Time.wake (settled.now + duration)) fuel settled)

/-- Move the clock at once, and let everything happen that is overdue then. -/
def jump (behave : Behaviour ι σ) (fuel : Nat) (duration : Nat) (timeline : Timeline ι σ) :
    Timeline ι σ :=
  let settled := timeline.settle behave fuel
  settle behave fuel (settled.moveTo (settled.now + duration))

end Timeline

end Redelivery
