import Mathlib.Data.List.Forall2
import Redelivery.Proofs.Rounds
import Redelivery.Proofs.RunningDue

/-!
# Two ways to drive a registry

A script of operations and waits is played twice: by a registry that is driven by a queue, whose
tasks are run after every wait as far as they are due, and by one that is driven by hand, where
calls for what is due are repeated after every wait until there is nothing left to resend.
Unless a schedule overflows, nobody can tell the two apart by the resends of a message, or by its
status.
-/

namespace Redelivery

/-! ## What can be told apart -/

/-- A status apart from the timer: whether one is armed cannot be told. -/
def RetryStatus.untimed (status : RetryStatus) : RetryStatus :=
  { status with
    phase := if status.phase = .scheduled then .unscheduled else status.phase }

theorem Candidate.untimed_status (candidate : Candidate) :
    candidate.status.untimed = candidate.untimed.status := by
  have samePhase : (if candidate.phase = .scheduled then .unscheduled else candidate.phase) =
      candidate.untimed.phase := by
    simp only [phase, untimed]
    repeat' split
    all_goals simp_all
  rw [RetryStatus.untimed, status, samePhase]
  rfl

namespace Service

/-- Two services that cannot be told apart by messages, whatever drives them. -/
structure Matches (service other : Service) : Prop where
  now : other.now = service.now
  suspended : ∀ sequence, other.world.isSuspended sequence = service.world.isSuspended sequence
  numbers : ∀ sequence, other.world.numbers sequence = service.world.numbers sequence
  status : ∀ sequence number, (other.world.status? sequence number).map RetryStatus.untimed =
    (service.world.status? sequence number).map RetryStatus.untimed
  sent : ∀ sequence number,
    ((other.outline.sentOf sequence).filter fun sent => sent.number = number) =
      (service.outline.sentOf sequence).filter fun sent => sent.number = number

/-- The status of a message is told by the excerpt of its sequence, the timer apart. -/
theorem map_status? (service : Service) (sequence : SequenceKey) (number : Nat) :
    (service.world.status? sequence number).map RetryStatus.untimed =
      ((service.outline.excerpt sequence).find? number).map Candidate.status := by
  rw [Outline.find?_excerpt, ← find?_world, Registry.status?]
  cases service.world.find? sequence number with
  | none => rfl
  | some identity =>
      have isOurs : service.outline.candidates[identity]? =
          (service.world.candidate? identity).map Candidate.untimed :=
        service.world.getElem?_outline identity
      rw [Option.bind_some, Option.bind_some, isOurs, Option.map_map, Option.map_map]
      exact Option.map_congr fun candidate _ => candidate.untimed_status

theorem numbers_eq (service : Service) (sequence : SequenceKey) :
    service.world.numbers sequence =
      ((service.outline.excerpt sequence).listed.map Candidate.number).mergeSort := by
  have named : service.world.numberOf = service.outline.numberOf :=
    funext fun identity => (service.world.numberOf_outline identity).symm
  rw [Registry.numbers, named, Outline.excerpt, Outline.candidatesOf, List.map_filterMap]
  rfl

/-! ## Two registries in step -/

/-- A registry that is driven by a queue and one that is driven by hand, with the same of every
sequence. -/
structure Tallies (queue hand : Service) : Prop where
  queued : queue.IsQueued
  orderly : hand.IsOrderly
  now : hand.now = queue.now
  routing : hand.world.routing = queue.world.routing
  excerpts : ∀ sequence, (queue.outline.excerpt sequence).Agrees (hand.outline.excerpt sequence)

namespace Tallies

variable {queue hand queueAfter handAfter : Service}

theorem isMatch (tallies : queue.Tallies hand) : queue.Matches hand where
  now := tallies.now
  suspended := fun sequence => (tallies.excerpts sequence).suspended
  numbers := by
    intro sequence
    rw [numbers_eq, numbers_eq, (tallies.excerpts sequence).listed]
  status := by
    intro sequence number
    rw [map_status?, map_status?, (tallies.excerpts sequence).find?]
  sent := fun sequence => (tallies.excerpts sequence).sent

/-- Both carry out the same operation. -/
theorem operate (tallies : queue.Tallies hand) {command : Command}
    (plain : command.isPlain = true) (enacts : queue.Enacts (.command command) queueAfter)
    (alsoEnacts : hand.Enacts (.command command) handAfter) : queueAfter.Tallies handAfter := by
  obtain ⟨queued, stays, excerpts⟩ := tallies.queued.enacts plain enacts
  obtain ⟨orderly, alsoStays, alsoExcerpts, _⟩ := tallies.orderly.enacts plain alsoEnacts
  refine ⟨queued, orderly, ?_, ?_, fun sequence => ?_⟩
  · rw [alsoStays.now, stays.now, tallies.now]
  · rw [alsoStays.routing, stays.routing, tallies.routing]
  · rw [alsoExcerpts, excerpts, tallies.now, tallies.routing]
    split
    · exact (tallies.excerpts sequence).step _ _ command
    · exact tallies.excerpts sequence

/-- Both wait for the same instant. -/
theorem wait (tallies : queue.Tallies hand) {instant : Nat}
    (enacts : queue.Enacts (.wait instant) queueAfter)
    (alsoEnacts : hand.Enacts (.wait instant) handAfter) : queueAfter.Tallies handAfter := by
  obtain ⟨rfl, queued⟩ := tallies.queued.waits enacts
  obtain ⟨rfl, orderly⟩ := tallies.orderly.waits alsoEnacts
  exact ⟨queued, orderly, rfl, tallies.routing, tallies.excerpts⟩

/-- In what order the maps come does not matter. -/
theorem reorder (tallies : queue.Tallies hand) (shuffles : queue.Shuffled queueAfter)
    (alsoShuffles : hand.Shuffled handAfter) : queueAfter.Tallies handAfter := by
  refine ⟨shuffles.isQueued tallies.queued, alsoShuffles.isOrderly tallies.orderly, ?_, ?_,
    fun sequence => ?_⟩
  · rw [alsoShuffles.now, shuffles.now, tallies.now]
  · rw [alsoShuffles.routing, shuffles.routing, tallies.routing]
  · rw [Outline.excerpt_of_shuffled shuffles tallies.queued.reachable.sound.listed.sound,
      Outline.excerpt_of_shuffled alsoShuffles tallies.orderly.sound.listed.sound]
    exact tallies.excerpts sequence

end Tallies

/-- The tasks that are due are run. -/
def RunsDue (service after : Service) : Prop :=
  service.Enacts (.command (.request none (.runDue service.now))) after

theorem IsQueued.runsDue {service after : Service} (queued : service.IsQueued)
    (runs : service.RunsDue after) :
    after.IsQueued ∧ service.StaysCalm after ∧
      after.world.agenda.takeDue? after.now = none ∧
      ∀ sequence, (service.outline.excerpt sequence).Trail service.now
        (after.outline.excerpt sequence) := by
  obtain ⟨other, alsoRuns, afterQueued, stays, rest, trails⟩ := queued.exists_runDue
  obtain rfl := runs.unique alsoRuns
  exact ⟨afterQueued, stays, stays.now ▸ rest, trails⟩

namespace Tallies

variable {queue hand queueAfter handAfter : Service}

/-- Both catch up, each in its own way. -/
theorem catchUp (tallies : queue.Tallies hand) (runs : queue.RunsDue queueAfter)
    (caughtUp : queueAfter.HasCaughtUp) (drains : hand.Drains handAfter) :
    queueAfter.Tallies handAfter := by
  obtain ⟨queued, stays, _, trails⟩ := tallies.queued.runsDue runs
  obtain ⟨orderly, sameNow, sameRouting, alsoCaughtUp, alsoTrails⟩ := drains.spec tallies.orderly
  refine ⟨queued, orderly, ?_, ?_, fun sequence => ?_⟩
  · rw [sameNow, stays.now, tallies.now]
  · rw [sameRouting, stays.routing, tallies.routing]
  · have done := caughtUp sequence
    have alsoDone := alsoCaughtUp sequence
    have alsoTrail := alsoTrails sequence
    rw [stays.now] at done
    rw [sameNow, tallies.now] at alsoDone
    rw [tallies.now] at alsoTrail
    exact (tallies.excerpts sequence).trails (tallies.queued.isNumbered sequence)
      (trails sequence) alsoTrail done alsoDone

end Tallies

end Service

/-! ## Plays -/

/-- A script is played by a registry that catches up after every wait.  Before every move the maps
may come in another order.  Each move is noted with the service that it has led to. -/
inductive Driven (catchUp : Service → Service → Prop) (first : Service) :
    List (Move × Service) → Service → Prop where
  | start : Driven catchUp first [] first
  | operate {played : List (Move × Service)} {command : Command}
      {middle shuffled last : Service} :
      Driven catchUp first played middle → middle.Shuffled shuffled → command.isPlain = true →
      shuffled.Enacts (.command command) last →
      Driven catchUp first (played ++ [(.command command, last)]) last
  | wait {played : List (Move × Service)} {instant : Nat}
      {middle shuffled waited last : Service} :
      Driven catchUp first played middle → middle.Shuffled shuffled →
      shuffled.Enacts (.wait instant) waited → catchUp waited last →
      Driven catchUp first (played ++ [(.wait instant, last)]) last

namespace Driven

open Service

variable {queue hand last otherLast : Service} {played other : List (Move × Service)}

/-- A play is a run. -/
theorem leads (plays : Driven RunsDue queue played last) : queue.Leads last := by
  induction plays with
  | start => exact .refl queue
  | operate _ shuffles _ enacts inductionHypothesis =>
      exact (inductionHypothesis.trans shuffles.leads).trans enacts.leads
  | wait _ shuffles waits runs inductionHypothesis =>
      exact ((inductionHypothesis.trans shuffles.leads).trans waits.leads).trans runs.leads

theorem isQueued (queued : queue.IsQueued) (plays : Driven RunsDue queue played last) :
    last.IsQueued := by
  induction plays with
  | start => exact queued
  | operate _ shuffles plain enacts inductionHypothesis =>
      exact ((shuffles.isQueued inductionHypothesis).enacts plain enacts).1
  | wait _ shuffles waits runs inductionHypothesis =>
      exact (((shuffles.isQueued inductionHypothesis).waits waits).2.runsDue runs).1

theorem eq_first {catchUp : Service → Service → Prop}
    (plays : Driven catchUp hand [] otherLast) : otherLast = hand := by
  generalize none : [] = played at plays
  cases plays with
  | start => rfl
  | operate _ _ _ _ => cases List.append_ne_nil_of_right_ne_nil _ (by simp) none.symm
  | wait _ _ _ _ => cases List.append_ne_nil_of_right_ne_nil _ (by simp) none.symm

/-- The last move of a play, and the play before it. -/
theorem eq_concat {catchUp : Service → Service → Prop} {moves : List Move} {move : Move}
    (plays : Driven catchUp hand other otherLast)
    (sameMoves : other.map Prod.fst = moves ++ [move]) :
    ∃ earlier middle shuffled, Driven catchUp hand earlier middle ∧
      earlier.map Prod.fst = moves ∧ other = earlier ++ [(move, otherLast)] ∧
      middle.Shuffled shuffled ∧
      match move with
      | .command command => shuffled.Enacts (.command command) otherLast
      | .wait instant => ∃ waited, shuffled.Enacts (.wait instant) waited ∧ catchUp waited otherLast
      | _ => False := by
  cases plays with
  | start => cases (List.append_ne_nil_of_right_ne_nil moves (by simp) sameMoves.symm)
  | @operate earlier command middle shuffled _ plays shuffles _ enacts =>
      rw [List.map_append] at sameMoves
      obtain ⟨sameEarlier, sameMove⟩ := List.append_inj' sameMoves rfl
      obtain rfl := List.singleton_inj.mp sameMove
      exact ⟨earlier, middle, shuffled, plays, sameEarlier, rfl, shuffles, enacts⟩
  | @wait earlier instant middle shuffled waited _ plays shuffles enacts catches =>
      rw [List.map_append] at sameMoves
      obtain ⟨sameEarlier, sameMove⟩ := List.append_inj' sameMoves rfl
      obtain rfl := List.singleton_inj.mp sameMove
      exact ⟨earlier, middle, shuffled, plays, sameEarlier, rfl, shuffles, waited, enacts, catches⟩

/-- After a wait the queue has caught up, unless a schedule has overflowed. -/
theorem hasCaughtUp (initial : queue.IsInitial) (queued : queue.IsQueued)
    {middle shuffled waited : Service} {instant : Nat}
    (plays : Driven RunsDue queue played middle) (shuffles : middle.Shuffled shuffled)
    (waits : shuffled.Enacts (.wait instant) waited) (runs : waited.RunsDue last)
    (finite : queue.StaysFinite last) : last.HasCaughtUp := by
  have waitedQueued := ((shuffles.isQueued (plays.isQueued queued)).waits waits).2
  obtain ⟨lastQueued, _, rest, _⟩ := waitedQueued.runsDue runs
  obtain ⟨moves, run⟩ := (plays.wait shuffles waits runs).leads
  exact lastQueued.hasCaughtUp rest fun identity candidate found =>
    not_neglected_of_run initial run lastQueued finite found

/-- As long as no schedule overflows, the two registries tally after every move. -/
theorem tallies (initial : queue.IsInitial) (tallies : queue.Tallies hand)
    (plays : Driven RunsDue queue played last)
    (finite : queue.StaysFinite last)
    (alsoPlays : Driven Drains hand other otherLast)
    (sameMoves : other.map Prod.fst = played.map Prod.fst) :
    last.Tallies otherLast ∧
      List.Forall₂ (fun step otherStep => step.2.Matches otherStep.2) played other := by
  induction plays generalizing other otherLast with
  | start =>
      obtain rfl := List.map_eq_nil_iff.mp sameMoves
      rw [alsoPlays.eq_first]
      exact ⟨tallies, .nil⟩
  | operate plays shuffles plain enacts inductionHypothesis =>
      rw [List.map_append] at sameMoves
      obtain ⟨earlier, middle, shuffled, earlierPlays, sameEarlier, rfl, alsoShuffles,
        alsoEnacts⟩ := alsoPlays.eq_concat sameMoves
      obtain ⟨middleTallies, matched⟩ := inductionHypothesis
        (finite.earlier initial.isTimed plays.leads (shuffles.leads.trans enacts.leads))
        earlierPlays sameEarlier
      have lastTallies :=
        (middleTallies.reorder shuffles alsoShuffles).operate plain enacts alsoEnacts
      exact ⟨lastTallies, List.rel_append matched (.cons lastTallies.isMatch .nil)⟩
  | wait plays shuffles waits runs inductionHypothesis =>
      rw [List.map_append] at sameMoves
      obtain ⟨earlier, middle, shuffled, earlierPlays, sameEarlier, rfl, alsoShuffles, waited,
        alsoWaits, drains⟩ := alsoPlays.eq_concat sameMoves
      have leads := (shuffles.leads.trans waits.leads).trans runs.leads
      obtain ⟨middleTallies, matched⟩ := inductionHypothesis
        (finite.earlier initial.isTimed plays.leads leads) earlierPlays sameEarlier
      have caughtUp := hasCaughtUp initial tallies.queued plays shuffles waits runs finite
      have waitedTallies := (middleTallies.reorder shuffles alsoShuffles).wait waits alsoWaits
      have lastTallies := waitedTallies.catchUp runs caughtUp drains
      exact ⟨lastTallies, List.rel_append matched (.cons lastTallies.isMatch .nil)⟩

/-- Every script can be played by a queue. -/
theorem exists_further (queued : queue.IsQueued) (plays : Driven RunsDue queue played last)
    {script : List Move} (playable : IsPlayable last.now script) :
    ∃ more later, Driven RunsDue queue more later ∧
      more.map Prod.fst = played.map Prod.fst ++ script := by
  induction script generalizing played last with
  | nil => exact ⟨played, last, plays, (List.append_nil _).symm⟩
  | cons move rest inductionHypothesis =>
      obtain ⟨plain, forward, restPlayable⟩ := playable
      have lastQueued := plays.isQueued queued
      obtain ⟨next, nextPlays, clock⟩ : ∃ next,
          Driven RunsDue queue (played ++ [(move, next)]) next ∧
            next.now = move.clock last.now := by
        cases move with
        | command command =>
            obtain ⟨next, enacts, stays, _⟩ := lastQueued.calm.exists_enacts
              lastQueued.reachable.sound lastQueued.reachable.numbered plain
            exact ⟨next, plays.operate (.refl last) plain enacts, stays.now⟩
        | wait instant =>
            have waits := lastQueued.calm.enacts_wait forward
            obtain ⟨next, runs, _, stays, _⟩ := (lastQueued.waits waits).2.exists_runDue
            exact ⟨next, plays.wait (.refl last) waits runs, stays.now⟩
        | step _ | rouse _ _ | reorder _ => cases plain
      rw [← clock] at restPlayable
      obtain ⟨more, later, playsOn, sameMoves⟩ := inductionHypothesis nextPlays restPlayable
      refine ⟨more, later, playsOn, ?_⟩
      rw [sameMoves, List.map_append, List.append_assoc]
      rfl

end Driven

namespace Service

end Service

namespace Sample

end Sample

end Redelivery
