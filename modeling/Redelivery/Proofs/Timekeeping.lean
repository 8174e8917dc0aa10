import Redelivery.Proofs.Clockwork
import Redelivery.Proofs.Reregistration

/-!
# Timers that keep time

A task begins once at most, when its timer is up, and never after it was cancelled; and whoever was
accepted keeps its timer until then, whatever becomes of its handle and of the scheduler.  If time
only passes when nothing is left to do, each task begins at its instant.
-/

namespace Redelivery.Schedule.Plan

variable {inside : Bool} {allowed : Clocked → Move → Prop} {log : List Event}
  {clocked after : Clocked}

/-! ## What begins -/

/-- What comes of a task that begins: all that it is to do, in one turn. -/
structure Begins (clocked : Clocked) (entry : Entry Task) (happened : List Event)
    (after : Clocked) : Prop where
  waits : entry ∈ clocked.world.agenda.entries
  due : Time.wake entry.due ≤ clocked.now
  /-- Each follower is scheduled, and then tasks are cancelled. -/
  whole : ∃ followed cancelled, happened = .began clocked.now entry :: (followed ++ cancelled) ∧
    followed.map Event.task? = entry.task.followers.map some ∧
    (∀ event ∈ followed, ∃ task agenda, event = outcome true clocked.now task agenda) ∧
    ∀ event ∈ cancelled, ∃ ticket, event = .cancelled ticket
  /-- No handle is left that it was to use, not even its own. -/
  released : ∀ name ∈ entry.task.cancels, after.world.holds name = false

theorem outcome_ne_began {hosted : Bool} {now instant : Nat} {task : Task} {agenda : Agenda Task}
    {entry : Entry Task} : outcome hosted now task agenda ≠ .began instant entry := by
  unfold outcome
  split <;> exact Event.noConfusion

theorem begins_of_runEvents {index : Nat} {entry : Entry Task}
    (waits : entry ∈ clocked.world.agenda.entries) (due : Time.wake entry.due ≤ clocked.now) :
    Begins clocked entry (runEvents clocked.world.timed clocked.now entry
        (clocked.world.agenda.cancel entry.ticket, clocked.world.ledger))
      (launch { others clocked index with world := ran clocked entry }) where
  waits := waits
  due := due
  whole := ⟨_, _, rfl, map_task?_followEvents _ _ _ _, fun _ => eq_of_mem_followEvents,
    fun _ => eq_of_mem_cancelEvents⟩
  released := by
    intro name present
    rw [world_launch]
    exact has_foldl_cancelIn _ (.inl present)

/-- What happens in a move: a task is asked for, a task is cancelled, the scheduler is closed, or a
task begins in a turn of its timer, which does all that it is to do. -/
theorem cases_of_mem_events {move : Move} (sound : clocked.world.agenda.Sound)
    (moved : move? inside clocked move = some after) {event : Event}
    (happened : event ∈ events inside clocked move) :
    (∃ hosted task agenda, event = outcome hosted clocked.now task agenda) ∨
      (∃ ticket, event = .cancelled ticket) ∨ event = .closed ∨
      ∃ entry, event = .began clocked.now entry ∧
        Begins clocked entry (events inside clocked move) after := by
  cases move with
  | schedule task usedInside => exact .inl ⟨_, _, _, List.mem_singleton.mp happened⟩
  | cancel name => exact .inr (.inl (eq_of_mem_cancelEvents happened))
  | close => exact .inr (.inr (.inl (List.mem_singleton.mp happened)))
  | step index =>
      obtain ⟨activity, _, went⟩ := @step_cases inside _ _ _ moved
      rcases went with ⟨_, noEvents, _⟩ |
        ⟨ticket, rest, other, _, isFound, ⟨due, happens, rfl⟩ | ⟨_, noEvents, _⟩⟩
      · rw [noEvents] at happened
        cases happened
      · obtain ⟨waits, rfl⟩ := sound.find?_eq_some_iff.mp isFound
        have begins := @begins_of_runEvents clocked index other waits due
        rw [happens] at happened ⊢
        obtain ⟨followed, cancelled, isWhole, _, areOutcomes, areCancelled⟩ := begins.whole
        rw [isWhole] at happened
        rcases List.mem_cons.mp happened with isFirst | later
        · exact .inr (.inr (.inr ⟨other, isFirst, begins⟩))
        · rcases List.mem_append.mp later with isFollowed | isCancelled
          · obtain ⟨task, agenda, same⟩ := areOutcomes _ isFollowed
            exact .inl ⟨true, task, agenda, same⟩
          · exact .inr (.inl (areCancelled _ isCancelled))
      · rw [noEvents] at happened
        cases happened
  | release _ | rouse _ _ | wait _ => cases happened

/-- A task begins in a turn of its timer alone. -/
theorem begins_of_mem {move : Move} (sound : clocked.world.agenda.Sound)
    (moved : move? inside clocked move = some after) {now : Nat} {entry : Entry Task}
    (began : .began now entry ∈ events inside clocked move) :
    now = clocked.now ∧ Begins clocked entry (events inside clocked move) after := by
  rcases cases_of_mem_events sound moved began with
    ⟨_, _, _, asked⟩ | ⟨_, cancelled⟩ | closed | ⟨other, isBegan, begins⟩
  · exact absurd asked.symm outcome_ne_began
  · cases cancelled
  · cases closed
  · obtain ⟨rfl, rfl⟩ := Event.began.inj isBegan
    exact ⟨rfl, begins⟩

/-- A task whose timer is up can begin in a turn of its timer, after waking it up if need be. -/
theorem Keeps.exists_begins (keeps : Keeps inside log clocked) {entry : Entry Task}
    (waits : entry ∈ clocked.world.agenda.entries) (due : Time.wake entry.due ≤ clocked.now) :
    ∃ moves later last, play inside moves clocked = some (.began clocked.now entry :: later, last) ∧
      moves.length ≤ 2 ∧ ∀ move ∈ moves, move.isTurn = true := by
  have isFound : clocked.world.agenda.find? entry.ticket = some entry :=
    keeps.reflects.sound.find?_eq_some_iff.mpr ⟨waits, rfl⟩
  have steps {roused : Clocked} (sameWorld : roused.world = clocked.world)
      (sameNow : roused.now = clocked.now) {index : Nat} {foreground : Bool}
      (found : roused.ready[index]? = some ⟨[entry.ticket], foreground⟩) :
      ∃ later last, move? inside roused (.step index) = some last ∧
        events inside roused (.step index) = .began clocked.now entry :: later := by
    have happens : events inside roused (.step index) = turnEvents roused entry.ticket := by
      simp only [events, found]
    have begins : turnEvents roused entry.ticket =
        runEvents clocked.world.timed clocked.now entry
          (clocked.world.agenda.cancel entry.ticket, clocked.world.ledger) := by
      simp only [turnEvents, sameWorld, sameNow, isFound, if_pos due]
    obtain ⟨last, moved⟩ : ∃ last, move? inside roused (.step index) = some last := by
      simp only [move?, Timeline.stepAt, found]
      exact ⟨_, rfl⟩
    exact ⟨_, last, moved, happens.trans begins⟩
  rcases keeps.timers entry waits with ⟨foreground, isReady⟩ | ⟨foreground, isAsleep⟩
  · obtain ⟨index, found⟩ := List.mem_iff_getElem?.mp isReady
    obtain ⟨later, last, moved, happens⟩ := steps rfl rfl found
    refine ⟨[.step index], later, last, ?_, Nat.le_succ 1, by simp [Move.isTurn]⟩
    simp [play, moved, happens]
  · obtain ⟨index, found⟩ := List.mem_iff_getElem?.mp isAsleep
    let roused : Clocked :=
      { clocked with
        ready := clocked.ready.insertIdx 0 ⟨[entry.ticket], foreground⟩
        asleep := clocked.asleep.eraseIdx index }
    have wakes : move? inside clocked (.rouse index 0) = some roused := by
      simp only [move?, Timeline.rouseTo, found]
      exact if_pos ⟨due, Nat.zero_le _⟩
    have isFirst : roused.ready[0]? = some ⟨[entry.ticket], foreground⟩ := rfl
    obtain ⟨later, last, moved, happens⟩ := @steps roused rfl rfl 0 foreground isFirst
    refine ⟨[.rouse index 0, .step 0], later, last, ?_, Nat.le_refl 2, by simp [Move.isTurn]⟩
    have none : events inside clocked (.rouse index 0) = [] := rfl
    simp [play, wakes, moved, happens, none]

/-! ## Promptness -/

/-- Nothing is left to do before time passes. -/
def IsIdle (clocked : Clocked) : Prop :=
  clocked.ready = [] ∧ ∀ sleeper ∈ clocked.asleep, clocked.now < sleeper.wake

/-- Time passes only when no timer is ready, and up to the next timer at most. -/
def IsPrompt (clocked : Clocked) : Move → Prop
  | .wait instant => clocked.ready = [] ∧ ∀ sleeper ∈ clocked.asleep, instant ≤ sleeper.wake
  | _ => True

instance (clocked : Clocked) (move : Move) : Decidable (IsPrompt clocked move) :=
  match move with
  | .wait instant =>
      inferInstanceAs (Decidable (clocked.ready = [] ∧
        ∀ sleeper ∈ clocked.asleep, instant ≤ sleeper.wake))
  | .schedule _ _ | .cancel _ | .release _ | .close | .step _ | .rouse _ _ => .isTrue trivial

/-- A task begins at the instant at which its timer is up, or at once if that has passed. -/
def IsExact (past : List Event) : Event → Prop
  | .began now entry =>
      ∃ since, .accepted since entry ∈ past ∧ now = max since (Time.wake entry.due)
  | _ => True

/-- All tasks so far have begun at their instants, and no one that waits is late. -/
structure IsPunctual (log : List Event) (clocked : Clocked) : Prop where
  exact : Each IsExact log
  ahead : ∀ since entry, .accepted since entry ∈ log → entry ∈ clocked.world.agenda.entries →
    clocked.now ≤ max since (Time.wake entry.due)

theorem now_move {move : Move} (moved : move? inside clocked move = some after) :
    after.now = clocked.now ∨ ∃ instant, move = .wait instant ∧ after.now = instant := by
  cases move with
  | schedule task usedInside =>
      simp only [move?] at moved
      split at moved
      · obtain rfl := Option.some.inj moved
        exact .inl (now_launch _)
      · obtain rfl := Option.some.inj moved
        exact .inl rfl
  | cancel name | release name | close =>
      obtain rfl := Option.some.inj moved
      exact .inl rfl
  | step index =>
      obtain ⟨activity, _, went⟩ := @step_cases inside _ _ _ moved
      rcases went with ⟨rfl, _⟩ | ⟨ticket, rest, entry, _, _, ⟨_, _, rfl⟩ | ⟨_, _, rfl⟩⟩
      · exact .inl rfl
      · exact .inl (now_launch _)
      · exact .inl (Timeline.now_resume _ _ _ _)
  | rouse index position =>
      simp only [move?, Timeline.rouseTo] at moved
      split at moved
      · cases moved
      · split at moved
        · obtain rfl := Option.some.inj moved
          exact .inl rfl
        · cases moved
  | wait instant =>
      simp only [move?] at moved
      split at moved
      · obtain rfl := Option.some.inj moved
        exact .inr ⟨instant, rfl, rfl⟩
      · cases moved

theorem accepted_of_outcome {hosted : Bool} {now since : Nat} {task : Task}
    {agenda : Agenda Task} {entry : Entry Task}
    (accepted : Event.accepted since entry = outcome hosted now task agenda) : since = now := by
  unfold outcome at accepted
  split at accepted
  · exact (Event.accepted.inj accepted).1
  · cases accepted

/-- Tasks are accepted at the instant of the move. -/
theorem accepted_of_mem {move : Move} (sound : clocked.world.agenda.Sound)
    (moved : move? inside clocked move = some after) {since : Nat} {entry : Entry Task}
    (accepted : .accepted since entry ∈ events inside clocked move) :
    since = clocked.now ∧ after.now = clocked.now := by
  constructor
  · rcases cases_of_mem_events sound moved accepted with
      ⟨_, _, _, asked⟩ | ⟨_, cancelled⟩ | closed | ⟨_, began, _⟩
    · exact accepted_of_outcome asked
    · cases cancelled
    · cases closed
    · cases began
  · rcases now_move moved with same | ⟨instant, rfl, _⟩
    · exact same
    · cases accepted

theorem IsPunctual.move {move : Move} (punctual : IsPunctual log clocked)
    (keeps : Keeps inside log clocked) (prompt : IsPrompt clocked move)
    (moved : move? inside clocked move = some after) :
    IsPunctual (log ++ events inside clocked move) after where
  exact := by
    refine each_append punctual.exact fun past event later split => ?_
    cases event with
    | began now entry =>
        have present : .began now entry ∈ events inside clocked move :=
          split ▸ List.mem_append_right _ List.mem_cons_self
        obtain ⟨rfl, begins⟩ := begins_of_mem keeps.reflects.sound moved present
        obtain ⟨wasAccepted, _⟩ := (keeps.reflects.waiting entry).mp begins.waits
        obtain ⟨since, accepted⟩ := Event.mem_accepted_iff.mp wasAccepted
        refine ⟨since, List.mem_append_left _ accepted, Nat.le_antisymm ?_ ?_⟩
        · exact punctual.ahead since entry accepted begins.waits
        · exact Nat.max_le.mpr ⟨keeps.reflects.past since entry accepted, begins.due⟩
    | accepted _ _ | refused _ _ _ | cancelled _ | closed => trivial
  ahead := by
    intro since entry accepted present
    have keepsAfter := keeps.move moved
    obtain ⟨_, goesOn⟩ := (keepsAfter.reflects.waiting entry).mp present
    rcases List.mem_append.mp accepted with before | isNow
    · have waits : entry ∈ clocked.world.agenda.entries :=
        (keeps.reflects.waiting entry).mpr ⟨Event.mem_accepted_iff.mpr ⟨since, before⟩,
          fun event happened => goesOn event (List.mem_append_left _ happened)⟩
      rcases now_move moved with same | ⟨instant, rfl, same⟩
      · rw [same]
        exact punctual.ahead since entry before waits
      · obtain ⟨noneReady, soon⟩ := prompt
        rw [same]
        refine Nat.le_trans ?_ (Nat.le_max_right _ _)
        rcases keeps.timers entry waits with ⟨foreground, isReady⟩ | ⟨foreground, isAsleep⟩
        · rw [noneReady] at isReady
          cases isReady
        · exact soon _ isAsleep
    · obtain ⟨rfl, same⟩ := accepted_of_mem keeps.reflects.sound moved isNow
      rw [same]
      exact Nat.le_max_left _ _

theorem History.isPunctual (history : History inside allowed log clocked)
    (prompt : ∀ clocked move, allowed clocked move → IsPrompt clocked move) :
    IsPunctual log clocked := by
  induction history with
  | start => exact ⟨each_nil, fun _ _ accepted => absurd accepted List.not_mem_nil⟩
  | extend history isAllowed moved inductionHypothesis =>
      exact inductionHypothesis.move history.keeps (prompt _ _ isAllowed) moved

/-! ## Histories of a scheduler -/

/-- Inside a runtime it makes no difference where the scheduler was made. -/
theorem History.made_elsewhere (history : History inside allowed log clocked)
    (usedInside : ∀ clocked move, allowed clocked move → move.isInside = true) (other : Bool) :
    History other allowed log clocked := by
  induction history with
  | start => exact .start
  | @extend log clocked after move history isAllowed moved inductionHypothesis =>
      have same : events inside clocked move = events other clocked move ∧
          move? inside clocked move = move? other clocked move := by
        cases move with
        | schedule task isInside =>
            obtain rfl : isInside = true := usedInside _ _ isAllowed
            simp only [events, move?, Bool.or_true, and_self]
        | cancel _ | release _ | close | step _ | rouse _ _ | wait _ => exact ⟨rfl, rfl⟩
      rw [same.1]
      exact inductionHypothesis.extend isAllowed (same.2.symm.trans moved)

/-- What the timers of a plan owe to what happened. -/
structure KeepsTime (inside : Bool) (log : List Event) (clocked : Clocked) : Prop where
  /-- Tasks are accepted until the scheduler is shut down, and refused from then on.  A task begins
  only after it was accepted, when its timer is up, and if it has neither begun nor been cancelled
  before. -/
  lawful : ∀ past event later, log = past ++ event :: later → event.MayFollow inside past
  /-- A handle leads to the task that it was given for. -/
  handles : ∀ name ticket, clocked.world.ledger.handles.find? name = some ticket →
    ∃ since entry, .accepted since entry ∈ log ∧ entry.ticket = ticket ∧ entry.task.name = name
  /-- What has begun is noted. -/
  noted : clocked.world.ledger.firings.reverse.filterMap Firing.ran? = log.filterMap Event.ran?
  /-- Whoever was accepted keeps its timer until it begins or is cancelled. -/
  timer : ∀ since entry, .accepted since entry ∈ log →
    (∀ event ∈ log, event.ended? ≠ some entry.ticket) → HasTimer clocked entry
  /-- Once its timer is up, nothing else needs to happen before it begins. -/
  begins : ∀ since entry, .accepted since entry ∈ log →
    (∀ event ∈ log, event.ended? ≠ some entry.ticket) → Time.wake entry.due ≤ clocked.now →
    ∃ moves later last, play inside moves clocked = some (.began clocked.now entry :: later, last) ∧
      moves.length ≤ 2 ∧ ∀ move ∈ moves, move.isTurn = true
  /-- Before time passes on, it has begun or was cancelled. -/
  settled : IsIdle clocked → ∀ since entry, .accepted since entry ∈ log →
    Time.wake entry.due ≤ clocked.now → ∃ event ∈ log, event.ended? = some entry.ticket
  /-- A task that begins does all it is to do, whatever it cancels. -/
  whole : ∀ move after, move? inside clocked move = some after → ∀ now entry,
    .began now entry ∈ events inside clocked move →
      now = clocked.now ∧ Begins clocked entry (events inside clocked move) after
  /-- Nothing comes of cancelling a task that has begun. -/
  spent : ∀ now entry, .began now entry ∈ log →
    clocked.world.agenda.cancel entry.ticket = clocked.world.agenda

theorem Keeps.keepsTime (keeps : Keeps inside log clocked) : KeepsTime inside log clocked := by
  have waits {since : Nat} {entry : Entry Task} (accepted : .accepted since entry ∈ log)
      (goesOn : ∀ event ∈ log, event.ended? ≠ some entry.ticket) :
      entry ∈ clocked.world.agenda.entries :=
    (keeps.reflects.waiting entry).mpr ⟨Event.mem_accepted_iff.mpr ⟨since, accepted⟩, goesOn⟩
  constructor
  case lawful => exact keeps.reflects.lawful
  case handles =>
    intro name ticket isHeld
    obtain ⟨entry, wasAccepted, own⟩ := keeps.reflects.handles name ticket isHeld
    obtain ⟨since, accepted⟩ := Event.mem_accepted_iff.mp wasAccepted
    exact ⟨since, entry, accepted, own⟩
  case noted => exact keeps.reflects.noted
  case timer =>
    exact fun since entry accepted goesOn => keeps.timers entry (waits accepted goesOn)
  case begins =>
    exact fun since entry accepted goesOn due => keeps.exists_begins (waits accepted goesOn) due
  case settled =>
    intro idle since entry accepted due
    by_contra goesOn
    have stillWaits : ∀ event ∈ log, event.ended? ≠ some entry.ticket :=
      fun event happened ends => goesOn ⟨event, happened, ends⟩
    rcases keeps.timers entry (waits accepted stillWaits) with
      ⟨foreground, isReady⟩ | ⟨foreground, isAsleep⟩
    · rw [idle.1] at isReady
      cases isReady
    · exact Nat.lt_irrefl _ (Nat.lt_of_lt_of_le (idle.2 _ isAsleep) due)
  case whole =>
    exact fun move after moved now entry began =>
      begins_of_mem keeps.reflects.sound moved began
  case spent =>
    intro now entry began
    have gone : ∀ other ∈ clocked.world.agenda.entries, other.ticket ≠ entry.ticket := by
      intro other present same
      exact ((keeps.reflects.waiting other).mp present).2 _ began (congrArg some same.symm)
    rw [Agenda.cancel, List.filter_eq_self.mpr (by simpa using gone)]

/-- Whatever happens to a scheduler with timers, in any order, they keep time.  As long as time only
passes when nothing is left to do, and not beyond the next timer, each task begins at its instant,
or at once if that has passed.  And inside a runtime all of this is the same whether the scheduler
was made in it or before it. -/
theorem History.isTimely (history : History inside allowed log clocked) :
    KeepsTime inside log clocked ∧
      ((∀ clocked move, allowed clocked move → IsPrompt clocked move) →
        ∀ past now entry later, log = past ++ .began now entry :: later →
          ∃ since, .accepted since entry ∈ past ∧ now = max since (Time.wake entry.due)) ∧
      ((∀ clocked move, allowed clocked move → move.isInside = true) →
        ∀ other, History other allowed log clocked ∧ KeepsTime other log clocked) := by
  refine ⟨history.keeps.keepsTime, fun prompt past now entry later split => ?_,
    fun usedInside other => ?_⟩
  · exact (history.isPunctual prompt).exact past (.began now entry) later split
  · have elsewhere := history.made_elsewhere usedInside other
    exact ⟨elsewhere, elsewhere.keeps.keepsTime⟩

end Redelivery.Schedule.Plan

/-! ## Tasks that take their time -/

namespace Redelivery.Service

/-- The timer of a message leaves the agenda when it rings, for good.  Nothing comes of cancelling
it while its resend is under way. -/
theorem cancel_of_rung {service after last : Service} {moves : List Move} {index ticket : Nat}
    {rest : Program} {foreground : Bool} {entry : Schedule.Entry Alarm}
    (reachable : service.IsReachable)
    (ready : service.ready[index]? = some ⟨.ring ticket :: rest, foreground⟩)
    (found : service.world.agenda.find? ticket = some entry)
    (due : Time.wake entry.due ≤ service.now) (stepped : service.move? (.step index) = some after)
    (run : Run after moves last) : last.world.agenda.cancel ticket = last.world.agenda := by
  obtain ⟨first, earlier, initial, toService⟩ := reachable
  have sound := (tends_run initial.isTimed toService).1.timed.agenda
  obtain ⟨waits, rfl⟩ := sound.find?_eq_some_iff.mp found
  have issues : (service.world.agenda.cancel entry.ticket).Issues after.world.agenda := by
    obtain ⟨program, _, isReady, others, sameWorld, sameNow, _, went⟩ := stepAt_eq_some stepped
    obtain ⟨rfl, rfl⟩ := Activity.mk.inj (Option.some.inj (isReady.symm.trans ready))
    rcases went with ⟨ended, _⟩ | ⟨instruction, _, middle, same, isMiddle, world, _⟩
    · cases ended
    · obtain ⟨rfl, rfl⟩ := List.cons.inj same
      rw [world, isMiddle]
      simp only [perform, ring, sameWorld, sameNow, found, if_pos due]
      exact (Registry.abides_fireTimer { service.world with
        agenda := service.world.agenda.cancel entry.ticket } entry.task).issues
  have gone : ∀ other ∈ last.world.agenda.entries, other.ticket ≠ entry.ticket := by
    intro other present
    rcases (issues.trans (issues_run run)).entries other present with old | new
    · exact (Schedule.Agenda.mem_cancel_iff.mp old).2
    · exact Nat.ne_of_gt (Nat.lt_of_lt_of_le (sound.issued entry waits) new)
  rw [Schedule.Agenda.cancel, List.filter_eq_self.mpr (by simpa using gone)]

end Redelivery.Service

/-! ## The main result -/

namespace Redelivery

/-- The timers of a scheduler keep time, whatever happens in any order, and so they do wherever it
was made.  And where a task takes its time, as the resends of a registry do, nothing comes of
cancelling it from the moment at which it begins. -/
theorem timers_keep_time {inside : Bool}
    {allowed : Schedule.Plan.Clocked → Schedule.Plan.Move → Prop}
    {log : List Schedule.Plan.Event} {clocked : Schedule.Plan.Clocked}
    (history : Schedule.Plan.History inside allowed log clocked) :
    Schedule.Plan.KeepsTime inside log clocked ∧
      ((∀ clocked move, allowed clocked move → Schedule.Plan.IsPrompt clocked move) →
        ∀ past now entry later, log = past ++ .began now entry :: later →
          ∃ since, .accepted since entry ∈ past ∧ now = max since (Time.wake entry.due)) ∧
      ((∀ clocked move, allowed clocked move → move.isInside = true) →
        ∀ other, Schedule.Plan.History other allowed log clocked ∧
          Schedule.Plan.KeepsTime other log clocked) ∧
      ∀ (service next last : Service) (moves : List Move) (index ticket : Nat)
        (rest : Program) (foreground : Bool) (entry : Schedule.Entry Alarm), service.IsReachable →
        service.ready[index]? = some ⟨.ring ticket :: rest, foreground⟩ →
        service.world.agenda.find? ticket = some entry → Time.wake entry.due ≤ service.now →
        service.move? (.step index) = some next → Run next moves last →
        last.world.agenda.cancel ticket = last.world.agenda := by
  obtain ⟨keepsTime, punctual, elsewhere⟩ := history.isTimely
  exact ⟨keepsTime, punctual, elsewhere, fun _ _ _ _ _ _ _ _ _ => Service.cancel_of_rung⟩

end Redelivery

namespace Redelivery.Schedule.Plan

/-- Three tasks are up at one instant: the first one schedules another one and cancels the second
one, and the third one cancels itself. -/
def entwined : List Move :=
  [.schedule (.mk "first" (.at 5000000) [.mk "follower" (.after 0) [] []] ["second"]) true,
    .schedule (.mk "second" (.at 5000000) [] []) true,
    .schedule (.mk "third" (.at 4200000) [] ["third"]) true,
    .step 0, .step 0, .step 0, .wait 5000000, .rouse 0 0, .rouse 0 1, .rouse 0 2,
    .step 0, .step 0, .step 0, .step 0, .close,
    .schedule (.mk "late" (.after 0) [] []) true]

/-- The second task never begins, and the third one is not cut short. -/
theorem timers_keep_time_of_entwined :
    ∃ log last, play false entwined (Timeline.start (empty true)) = some (log, last) ∧
      History false (fun clocked move => IsPrompt clocked move ∧ move.isInside = true) log last ∧
      log.filterMap Event.ran? =
        [("first", 5000000), ("third", 5000000), ("follower", 5000000)] ∧
      log.filterMap Event.ended? = [0, 1, 2, 2, 3] ∧
      KeepsTime false log last ∧ KeepsTime true log last ∧
      ∀ past now entry later, log = past ++ .began now entry :: later →
        ∃ since, .accepted since entry ∈ past ∧ now = max since (Time.wake entry.due) := by
  have course : (play false entwined (Timeline.start (empty true))).map (fun played =>
      (played.1.filterMap Event.ran?, played.1.filterMap Event.ended?)) =
        some ([("first", 5000000), ("third", 5000000), ("follower", 5000000)],
          [0, 1, 2, 2, 3]) := by
    decide +kernel
  obtain ⟨⟨log, last⟩, played, looks⟩ := Option.map_eq_some_iff.mp course
  obtain ⟨begun, ended⟩ := Prod.mk.inj looks
  have allows : Allows false (fun clocked move => IsPrompt clocked move ∧ move.isInside = true)
      entwined (Timeline.start (empty true)) := by
    decide +kernel
  have history := History.start.play allows played
  obtain ⟨keepsTime, punctual, elsewhere, _⟩ := timers_keep_time history
  exact ⟨log, last, played, history, begun, ended, keepsTime,
    (elsewhere (fun _ _ both => both.2) true).2, punctual fun _ _ both => both.1⟩

end Redelivery.Schedule.Plan
