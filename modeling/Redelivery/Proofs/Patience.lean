import Redelivery.Proofs.Attendance

/-!
# Waits that end in time

Each wait ends once, and it can end as soon as enough removals were noted or its time is up.  If
time only passes when nothing is left to do, it does: at the instant at which it has begun and its
number of removals is reached, or at its deadline.
-/

namespace Redelivery.Store.Watchroom

variable {allowed : Waiting → Move → Prop} {log later past : List Event} {waiting after : Waiting}
  {since now call expected patience reached : Nat}

/-! ## When a number of removals is reached -/

def Event.removedAt? : Event → Option Nat
  | removed now _ _ => some now
  | asked _ _ _ _ | began _ _ _ _ | slept _ _ | ended _ _ _ => none

/-- The instant from which on so many removals were noted; none are from the start of the clock. -/
def reachedAt? (log : List Event) (expected : Nat) : Option Nat :=
  (0 :: log.filterMap Event.removedAt?)[expected]?

theorem length_removedAt (log : List Event) :
    (log.filterMap Event.removedAt?).length = (removalsIn log).length := by
  induction log with
  | nil => rfl
  | cons event log inductionHypothesis =>
      cases event with
      | removed _ _ _ => exact congrArg Nat.succ inductionHypothesis
      | asked _ _ _ _ => exact inductionHypothesis
      | began _ _ _ _ => exact inductionHypothesis
      | slept _ _ => exact inductionHypothesis
      | ended _ _ _ => exact inductionHypothesis

theorem Event.now_of_removedAt? {event : Event} {instant : Nat}
    (removed : event.removedAt? = some instant) : event.now = instant := by
  cases event with
  | removed _ _ _ => exact Option.some.inj removed
  | asked _ _ _ _ | began _ _ _ _ | slept _ _ | ended _ _ _ => cases removed

theorem reachedAt?_eq_none_iff :
    reachedAt? log expected = none ↔ (removalsIn log).length < expected := by
  rw [reachedAt?, List.getElem?_eq_none_iff, List.length_cons, length_removedAt, Nat.succ_le_iff]

theorem exists_reachedAt? (enough : expected ≤ (removalsIn log).length) :
    ∃ reached, reachedAt? log expected = some reached := by
  rw [← Option.ne_none_iff_exists', ne_eq, reachedAt?_eq_none_iff]
  exact Nat.not_lt.mpr enough

/-- What has been reached stays reached. -/
theorem reachedAt?_append (isReached : reachedAt? log expected = some reached)
    (later : List Event) : reachedAt? (log ++ later) expected = some reached := by
  rw [reachedAt?] at isReached ⊢
  obtain ⟨inside, _⟩ := List.getElem?_eq_some_iff.mp isReached
  rw [List.filterMap_append, ← List.cons_append, List.getElem?_append_left inside, isReached]

/-- What is reached is reached in the course of an event. -/
theorem exists_event_of_reachedAt? (before : reachedAt? log expected = none)
    (isReached : reachedAt? (log ++ later) expected = some reached) :
    ∃ event ∈ later, event.now = reached := by
  rw [reachedAt?] at before isReached
  rw [List.filterMap_append, ← List.cons_append,
    List.getElem?_append_right (List.getElem?_eq_none_iff.mp before)] at isReached
  obtain ⟨event, present, removed⟩ := List.mem_filterMap.mp (List.mem_of_getElem? isReached)
  exact ⟨event, present, Event.now_of_removedAt? removed⟩

theorem reachedAt?_le (isReached : reachedAt? log expected = some reached)
    (before : ∀ event ∈ log, event.now ≤ now) : reached ≤ now := by
  rcases List.mem_cons.mp (List.mem_of_getElem? isReached) with rfl | present
  · exact Nat.zero_le _
  · obtain ⟨event, present, removed⟩ := List.mem_filterMap.mp present
    exact Event.now_of_removedAt? removed ▸ before event present

/-! ## Promptness -/

/-- Nothing is left to do before time passes. -/
def IsIdle (waiting : Waiting) : Prop :=
  waiting.ready = [] ∧ ∀ sleeper ∈ waiting.asleep, waiting.now < sleeper.wake

/-- Time passes only when nobody is ready, but may pass by any number of timers at once. -/
def IsPatient (waiting : Waiting) : Move → Prop
  | .pass _ => waiting.ready = []
  | .begin _ _ _ | .join _ | .demand _ | .step _ | .rouse _ _ => True

/-- Time passes only when nobody is ready, and up to the next timer at most. -/
def IsPrompt (waiting : Waiting) : Move → Prop
  | .pass instant => waiting.ready = [] ∧ ∀ sleeper ∈ waiting.asleep, instant ≤ sleeper.wake
  | .begin _ _ _ | .join _ | .demand _ | .step _ | .rouse _ _ => True

instance (waiting : Waiting) (move : Move) : Decidable (IsPrompt waiting move) :=
  match move with
  | .pass instant =>
      inferInstanceAs (Decidable (waiting.ready = [] ∧
        ∀ sleeper ∈ waiting.asleep, instant ≤ sleeper.wake))
  | .begin _ _ _ | .join _ | .demand _ | .step _ | .rouse _ _ => .isTrue trivial

theorem IsPrompt.isPatient {move : Move} (prompt : IsPrompt waiting move) :
    IsPatient waiting move := by
  cases move with
  | pass _ => exact prompt.1
  | begin _ _ _ | join _ | demand _ | step _ | rouse _ _ => trivial

/-- When nothing is left to do, all have begun. -/
theorem Keeps.began_of_isIdle (keeps : Keeps log waiting) (idle : IsIdle waiting)
    (asked : .asked now call expected patience ∈ log) :
    ∃ since, .began since call expected patience ∈ log := by
  by_contra unbegun
  have noneBegan : ∀ since expectation limit, .began since call expectation limit ∉ log := by
    intro since expectation limit began
    obtain ⟨_, again⟩ := keeps.asked_of_began began
    obtain ⟨_, rfl, rfl⟩ := keeps.chronicle.asked_unique asked again
    exact unbegun ⟨since, began⟩
  obtain ⟨_, isReady⟩ := keeps.mem_ready_of_asked asked noneBegan
  rw [idle.1] at isReady
  cases isReady

/-- When nothing is left to do, all have ended that are due. -/
theorem Keeps.hasEnded_of_isIdle (keeps : Keeps log waiting) (idle : IsIdle waiting)
    (began : .began since call expected patience ∈ log)
    (due : IsDue log waiting.now expected (since + patience)) : HasEnded log call := by
  by_contra goesOn
  rcases keeps.isReady_or_sleepsUntil began goesOn with ⟨_, isReady, _⟩ |
    ⟨few, sleeper, isAsleep, wake, _⟩
  · rw [idle.1] at isReady
    cases isReady
  · rcases due with enough | late
    · exact Nat.not_lt.mpr enough few
    · exact Nat.not_lt.mpr late (wake ▸ idle.2 sleeper isAsleep)

theorem turnEvents_cases (room : Watchroom) (now : Nat) (watch : Watch) :
    turnEvents room now watch = [] ∨ ∃ event, turnEvents room now watch = [event] ∧
      event.now = now := by
  cases watch with
  | begin _ _ _ => exact .inr ⟨_, rfl, rfl⟩
  | listen _ _ _ => exact .inl rfl
  | look expected _ _ _ =>
      by_cases enough : room.store.hasSeen expected = true
      · exact .inr ⟨_, if_pos enough, rfl⟩
      · exact .inl (if_neg enough)
  | linger _ deadline heard _ =>
      by_cases notified : heard < room.notices
      · exact .inl (if_pos notified)
      · by_cases late : Time.wake deadline ≤ now
        · exact .inr ⟨_, (if_neg notified).trans (if_pos late), rfl⟩
        · exact .inr ⟨_, (if_neg notified).trans (if_neg late), rfl⟩

/-- In a move, one thing happens at most. -/
theorem events_cases (waiting : Waiting) (move : Move) :
    events waiting move = [] ∨ ∃ event, events waiting move = [event] ∧
      event.now = waiting.now := by
  cases move with
  | begin _ _ _ => exact .inr ⟨_, rfl, rfl⟩
  | demand demand =>
      cases demand with
      | remove _ _ => exact .inr ⟨_, rfl, rfl⟩
      | insert _ _ _ => exact .inl rfl
      | failNext _ => exact .inl rfl
  | step index =>
      simp only [events]
      split
      · exact turnEvents_cases _ _ _
      · exact .inl rfl
  | join _ | rouse _ _ | pass _ => exact .inl rfl

theorem now_of_mem_events {move : Move} {event : Event} (present : event ∈ events waiting move) :
    event.now = waiting.now := by
  rcases events_cases waiting move with happened | ⟨other, happened, isNow⟩
  · rw [happened] at present
    cases present
  · rw [happened] at present
    exact List.mem_singleton.mp present ▸ isNow

/-- A bound on the instant of the end of a wait, given what happened before. -/
abbrev Bound :=
  (log : List Event) → (since expected patience now : Nat) → Prop

/-- No wait that goes on is beyond the bound. -/
def IsAhead (bound : Bound) (log : List Event) (waiting : Waiting) : Prop :=
  ∀ since call expected patience, .began since call expected patience ∈ log →
    ¬ HasEnded log call → bound log since expected patience waiting.now

/-- No wait ends beyond the bound. -/
def IsWithin (bound : Bound) (past : List Event) : Event → Prop
  | .ended now call _ => ∃ since expected patience,
      .began since call expected patience ∈ past ∧ bound past since expected patience now
  | .asked _ _ _ _ | .began _ _ _ _ | .slept _ _ | .removed _ _ _ => True

/-- Whoever ends in a move was not beyond the bound before. -/
theorem IsAhead.isWithin {bound : Bound} {move : Move} (ahead : IsAhead bound log waiting)
    (keeps : Keeps log waiting) (within : Schedule.Each (IsWithin bound) log)
    (moved : move? waiting move = some after) :
    Schedule.Each (IsWithin bound) (log ++ events waiting move) := by
  have lawful := (keeps.move moved).chronicle.lawful
  rcases events_cases waiting move with happened | ⟨event, happened, isNow⟩
  · rw [happened, List.append_nil]
    exact within
  · rw [happened] at lawful ⊢
    obtain ⟨_, may⟩ := Schedule.each_concat.mp lawful
    refine Schedule.each_concat.mpr ⟨within, ?_⟩
    cases event with
    | ended now call result =>
        obtain rfl : now = waiting.now := isNow
        obtain ⟨goesOn, since, expected, patience, began, _⟩ := may
        exact ⟨since, expected, patience, began,
          ahead since call expected patience began fun ⟨_, _, ended⟩ => goesOn _ _ ended⟩
    | asked _ _ _ _ | began _ _ _ _ | slept _ _ | removed _ _ _ => trivial

/-- No wait goes on beyond the bound, and none ended beyond it. -/
structure IsBounded (bound : Bound) (log : List Event) (waiting : Waiting) : Prop where
  keeps : Keeps log waiting
  ahead : IsAhead bound log waiting
  within : Schedule.Each (IsWithin bound) log

theorem isBounded_start (bound : Bound) : IsBounded bound [] machine.first where
  keeps := keeps_start
  ahead := fun _ _ _ _ began => absurd began List.not_mem_nil
  within := Schedule.each_nil

theorem isBounded_history {bound : Bound}
    (kept : ∀ {log : List Event} {waiting after : Waiting} {move : Move}, Keeps log waiting →
      IsAhead bound log waiting → allowed waiting move → move? waiting move = some after →
      IsAhead bound (log ++ events waiting move) after)
    (history : machine.History allowed log waiting) : IsBounded bound log waiting :=
  history.preserves (isBounded_start bound) fun bounded isAllowed moved =>
    { keeps := bounded.keeps.move moved
      ahead := kept bounded.keeps bounded.ahead isAllowed moved
      within := bounded.ahead.isWithin bounded.keeps bounded.within moved }

/-- No later than the wait has begun and enough removals were noted. -/
def Reached : Bound :=
  fun log since expected _ now =>
    ∀ reached, reachedAt? log expected = some reached → now ≤ max since reached

/-- No later than the deadline. -/
def OnTime : Bound :=
  fun _ since _ patience now => now ≤ Time.wake (since + patience)

/-- As long as somebody has enough removals, no time passes. -/
theorem IsAhead.reached_move {move : Move} (keeps : Keeps log waiting)
    (ahead : IsAhead Reached log waiting) (patient : IsPatient waiting move)
    (moved : move? waiting move = some after) :
    IsAhead Reached (log ++ events waiting move) after := by
  intro since call expected patience began goesOn reached isReached
  rcases now_move moved with same | ⟨instant, rfl, _, rfl⟩
  · rw [same]
    rcases List.mem_append.mp began with before | isNew
    · cases was : reachedAt? log expected with
      | none =>
          obtain ⟨event, present, rfl⟩ := exists_event_of_reachedAt? was isReached
          exact now_of_mem_events present ▸ Nat.le_max_right _ _
      | some instant =>
          obtain rfl := Option.some.inj ((reachedAt?_append was _).symm.trans isReached)
          exact ahead since call expected patience before (fun ended => goesOn (ended.append _))
            instant was
    · obtain rfl : since = waiting.now := now_of_mem_events isNew
      exact Nat.le_max_left _ _
  · rw [events, List.append_nil] at began goesOn isReached
    rcases keeps.isReady_or_sleepsUntil began goesOn with ⟨_, isReady, _⟩ | ⟨few, _⟩
    · rw [show waiting.ready = [] from patient] at isReady
      cases isReady
    · rw [reachedAt?_eq_none_iff.mpr few] at isReached
      cases isReached

/-- As long as the time of somebody is up, no time passes. -/
theorem IsAhead.onTime_move {move : Move} (keeps : Keeps log waiting)
    (ahead : IsAhead OnTime log waiting) (prompt : IsPrompt waiting move)
    (moved : move? waiting move = some after) :
    IsAhead OnTime (log ++ events waiting move) after := by
  intro since call expected patience began goesOn
  rcases now_move moved with same | ⟨instant, rfl, _, rfl⟩
  · rw [OnTime, same]
    rcases List.mem_append.mp began with before | isNew
    · exact ahead since call expected patience before fun ended => goesOn (ended.append _)
    · obtain rfl : since = waiting.now := now_of_mem_events isNew
      exact Nat.le_trans (Nat.le_add_right _ _) (Time.le_wake _)
  · rw [events, List.append_nil] at began goesOn
    obtain ⟨noneReady, soon⟩ := prompt
    rcases keeps.isReady_or_sleepsUntil began goesOn with ⟨_, isReady, _⟩ |
      ⟨_, sleeper, isAsleep, wake, _⟩
    · rw [noneReady] at isReady
      cases isReady
    · exact Nat.le_trans (soon sleeper isAsleep) (Nat.le_of_eq wake)

/-! ## What comes of a wait -/

/-- Nothing more happens at an instant: time has passed on, or nothing is left to do before it
does. -/
def IsOver (waiting : Waiting) (instant : Nat) : Prop :=
  instant < waiting.now ∨ IsIdle waiting

/-- Whatever ended had begun, stood by its law, and was within the bound. -/
theorem IsBounded.began_of_ended {bound : Bound} {result : Except Failure Unit}
    (bounded : IsBounded bound log waiting)
    (isLog : log = past ++ .ended now call result :: later) :
    ∃ since expected patience, .began since call expected patience ∈ past ∧
      bound past since expected patience now ∧
      Decides (removalsIn past).length expected (since + patience) now result := by
  obtain ⟨_, since, expected, patience, began, decides⟩ :=
    bounded.keeps.chronicle.lawful past _ later isLog
  obtain ⟨_, _, _, again, within⟩ := bounded.within past _ later isLog
  obtain ⟨rfl, rfl, rfl⟩ := bounded.keeps.chronicle.began_unique
    (isLog ▸ List.mem_append_left _ began) (isLog ▸ List.mem_append_left _ again)
  exact ⟨since, expected, patience, began, within, decides⟩

theorem IsBounded.exists_ended {bound : Bound} (bounded : IsBounded bound log waiting)
    (began : .began since call expected patience ∈ log) (hasEnded : HasEnded log call) :
    ∃ past now result later, log = past ++ .ended now call result :: later ∧
      .began since call expected patience ∈ past ∧ bound past since expected patience now ∧
      Decides (removalsIn past).length expected (since + patience) now result := by
  obtain ⟨now, result, ended⟩ := hasEnded
  obtain ⟨past, later, isLog⟩ := List.append_of_mem ended
  obtain ⟨first, expectation, limit, before, within, decides⟩ := bounded.began_of_ended isLog
  obtain ⟨rfl, rfl, rfl⟩ := bounded.keeps.chronicle.began_unique began
    (isLog ▸ List.mem_append_left _ before)
  exact ⟨past, now, result, later, isLog, before, within, decides⟩

/-- What was past at an event of the log is not later than it. -/
theorem Keeps.past_le {event : Event} (keeps : Keeps log waiting)
    (isLog : log = past ++ event :: later) : ∀ other ∈ past, other.now ≤ event.now := by
  have ordered := keeps.chronicle.ordered
  rw [isLog] at ordered
  obtain ⟨_, _, before⟩ := List.pairwise_append.mp ordered
  exact fun other present => before other present event List.mem_cons_self

/-- What is reached after an event is not reached earlier than it. -/
theorem Keeps.le_of_reachedAt? {event : Event} (keeps : Keeps log waiting)
    (isLog : log = past ++ event :: later) (before : reachedAt? past expected = none)
    (isReached : reachedAt? log expected = some reached) : event.now ≤ reached := by
  have ordered := keeps.chronicle.ordered
  rw [isLog] at ordered isReached
  obtain ⟨_, ordered, _⟩ := List.pairwise_append.mp ordered
  obtain ⟨other, present, rfl⟩ := exists_event_of_reachedAt? before isReached
  rcases List.mem_cons.mp present with rfl | behind
  · exact Nat.le_refl _
  · exact List.rel_of_pairwise_cons ordered behind

/-- A wait that has enough removals and is not beyond them is at its end. -/
theorem Keeps.eq_max_of_reached (keeps : Keeps log waiting) {event : Event}
    (isLog : log = past ++ event :: later) (began : .began since call expected patience ∈ past)
    (isReached : reachedAt? past expected = some reached)
    (bounded : Reached past since expected patience event.now) : event.now = max since reached := by
  have before := keeps.past_le isLog
  exact Nat.le_antisymm (bounded reached isReached)
    (Nat.max_le.mpr ⟨before _ began, reachedAt?_le isReached before⟩)

theorem IsBounded.hasEnded_of_reached (bounded : IsBounded Reached log waiting)
    (began : .began since call expected patience ∈ log)
    (isReached : reachedAt? log expected = some reached)
    (isOver : IsOver waiting (max since reached)) : HasEnded log call := by
  by_contra goesOn
  rcases isOver with passed | idle
  · have notBehind := bounded.ahead since call expected patience began goesOn reached isReached
    exact Nat.not_lt.mpr notBehind passed
  · refine goesOn (bounded.keeps.hasEnded_of_isIdle idle began (.inl ?_))
    by_contra few
    rw [reachedAt?_eq_none_iff.mpr (Nat.lt_of_not_le few)] at isReached
    cases isReached

theorem IsBounded.hasEnded_of_late (bounded : IsBounded OnTime log waiting)
    (began : .began since call expected patience ∈ log)
    (late : Time.wake (since + patience) ≤ waiting.now)
    (isOver : IsOver waiting (Time.wake (since + patience))) : HasEnded log call := by
  by_contra goesOn
  rcases isOver with passed | idle
  · exact Nat.not_lt.mpr (bounded.ahead since call expected patience began goesOn) passed
  · exact goesOn (bounded.keeps.hasEnded_of_isIdle idle began (.inr late))

theorem IsBounded.ended_of_reached (bounded : IsBounded Reached log waiting)
    (began : .began since call expected patience ∈ log)
    (isReached : reachedAt? log expected = some reached)
    (early : reached < Time.wake (since + patience))
    (isOver : IsOver waiting (max since reached)) :
    .ended (max since reached) call (.ok ()) ∈ log := by
  have hasEnded := bounded.hasEnded_of_reached began isReached isOver
  obtain ⟨past, now, result, later, isLog, before, within, decides⟩ :=
    bounded.exists_ended began hasEnded
  cases result with
  | ok _ =>
      obtain ⟨instant, isInstant⟩ := exists_reachedAt? decides
      obtain rfl := Option.some.inj
        ((reachedAt?_append isInstant _).symm.trans (isLog ▸ isReached))
      obtain rfl : now = _ := bounded.keeps.eq_max_of_reached isLog before isInstant within
      exact isLog ▸ List.mem_append_right _ List.mem_cons_self
  | error failure =>
      -- The removals would have been noted after the end of the wait, and so after its deadline.
      obtain ⟨_, few, late⟩ := decides
      have notBefore : now ≤ reached :=
        bounded.keeps.le_of_reachedAt? isLog (reachedAt?_eq_none_iff.mpr few) isReached
      exact absurd early (Nat.not_lt.mpr (Nat.le_trans late notBefore))

theorem IsBounded.ended_of_enough (bounded : IsBounded Reached log waiting)
    (isLog : log = past ++ .began since call expected patience :: later)
    (enough : expected ≤ (removalsIn past).length) (isOver : IsOver waiting since) :
    .ended since call (.ok ()) ∈ log := by
  obtain ⟨reached, isReached⟩ := exists_reachedAt? enough
  have began : .began since call expected patience ∈ log :=
    isLog ▸ List.mem_append_right _ List.mem_cons_self
  obtain ⟨_, unbegun⟩ := bounded.keeps.chronicle.lawful past _ later isLog
  have sinceThen : max since reached = since :=
    Nat.max_eq_left (reachedAt?_le isReached (bounded.keeps.past_le isLog))
  have hasEnded := bounded.hasEnded_of_reached began
    (isLog ▸ reachedAt?_append isReached _) (sinceThen.symm ▸ isOver)
  obtain ⟨front, now, result, back, isSplit, before, within, decides⟩ :=
    bounded.exists_ended began hasEnded
  -- What happened before the wait began also happened before it ended.
  obtain ⟨between, rfl⟩ : ∃ between, front = past ++ between := by
    rcases List.append_eq_append_iff.mp (isLog.symm.trans isSplit) with
      ⟨between, same, _⟩ | ⟨between, rfl, _⟩
    · exact ⟨between, same⟩
    · exact absurd (List.mem_append_left between before) (unbegun _ _ _)
  have still := reachedAt?_append isReached between
  cases result with
  | ok _ =>
      obtain rfl : now = _ := bounded.keeps.eq_max_of_reached isSplit before still within
      rw [isSplit, sinceThen]
      exact List.mem_append_right _ List.mem_cons_self
  | error failure =>
      obtain ⟨_, few, _⟩ := decides
      rw [reachedAt?_eq_none_iff.mpr few] at still
      cases still

theorem IsBounded.ended_of_late (bounded : IsBounded OnTime log waiting)
    (began : .began since call expected patience ∈ log)
    (few : ∀ reached, reachedAt? log expected = some reached →
      Time.wake (since + patience) < reached)
    (late : Time.wake (since + patience) ≤ waiting.now)
    (isOver : IsOver waiting (Time.wake (since + patience))) :
    .ended (Time.wake (since + patience)) call (.error .timedOut) ∈ log := by
  have hasEnded := bounded.hasEnded_of_late began late isOver
  obtain ⟨past, now, result, later, isLog, before, within, decides⟩ :=
    bounded.exists_ended began hasEnded
  cases result with
  | ok _ =>
      obtain ⟨reached, isReached⟩ := exists_reachedAt? decides
      have isLate := few reached (isLog ▸ reachedAt?_append isReached _)
      have inPast : reached ≤ now := reachedAt?_le isReached (bounded.keeps.past_le isLog)
      exact absurd (Nat.le_trans inPast within) (Nat.not_le.mpr isLate)
  | error failure =>
      obtain ⟨rfl, _, isUp⟩ := decides
      obtain rfl : now = _ := Nat.le_antisymm within isUp
      exact isLog ▸ List.mem_append_right _ List.mem_cons_self

/-! ## The main result -/

/-- When waits end well. -/
structure SucceedsAtOnce (log : List Event) (waiting : Waiting) : Prop where
  /-- At the first instant at which the wait has begun and enough removals were noted. -/
  exact : ∀ past now call later, log = past ++ .ended now call (.ok ()) :: later →
    ∃ since expected patience reached, .began since call expected patience ∈ past ∧
      reachedAt? past expected = some reached ∧ now = max since reached
  /-- If enough are noted before its deadline. -/
  inTime : ∀ since call expected patience reached, .began since call expected patience ∈ log →
    reachedAt? log expected = some reached → reached < Time.wake (since + patience) →
    IsOver waiting (max since reached) → .ended (max since reached) call (.ok ()) ∈ log
  /-- If enough were noted before it began, at once, even without any patience. -/
  atOnce : ∀ past since call expected patience later,
    log = past ++ .began since call expected patience :: later →
    expected ≤ (removalsIn past).length → IsOver waiting since → .ended since call (.ok ()) ∈ log

/-- When waits end without success. -/
structure FailsOnTime (log : List Event) (waiting : Waiting) : Prop where
  /-- No wait goes on beyond its deadline, and those without enough removals end there. -/
  exact : ∀ past now call result later, log = past ++ .ended now call result :: later →
    ∃ since expected patience, .began since call expected patience ∈ past ∧
      now ≤ Time.wake (since + patience) ∧ (result ≠ .ok () → result = .error .timedOut ∧
        reachedAt? past expected = none ∧ now = Time.wake (since + patience))
  /-- All do for which they are not noted by then. -/
  tooLate : ∀ since call expected patience, .began since call expected patience ∈ log →
    (∀ reached, reachedAt? log expected = some reached →
      Time.wake (since + patience) < reached) →
    Time.wake (since + patience) ≤ waiting.now →
    IsOver waiting (Time.wake (since + patience)) →
    .ended (Time.wake (since + patience)) call (.error .timedOut) ∈ log

theorem IsBounded.succeedsAtOnce (bounded : IsBounded Reached log waiting) :
    SucceedsAtOnce log waiting where
  exact := by
    intro past now call later isLog
    obtain ⟨since, expected, patience, began, within, enough⟩ := bounded.began_of_ended isLog
    obtain ⟨reached, isReached⟩ := exists_reachedAt? enough
    exact ⟨since, expected, patience, reached, began, isReached,
      bounded.keeps.eq_max_of_reached isLog began isReached within⟩
  inTime := fun _ _ _ _ _ => bounded.ended_of_reached
  atOnce := fun _ _ _ _ _ _ => bounded.ended_of_enough

theorem IsBounded.failsOnTime (bounded : IsBounded OnTime log waiting) :
    FailsOnTime log waiting where
  exact := by
    intro past now call result later isLog
    obtain ⟨since, expected, patience, began, within, decides⟩ := bounded.began_of_ended isLog
    refine ⟨since, expected, patience, began, within, fun isError => ?_⟩
    cases result with
    | ok _ => exact absurd rfl isError
    | error failure =>
        obtain ⟨rfl, few, late⟩ := decides
        exact ⟨rfl, reachedAt?_eq_none_iff.mpr few, Nat.le_antisymm within late⟩
  tooLate := fun _ _ _ _ => bounded.ended_of_late

/-- What those who wait can rely on, however time passes. -/
structure Attends (log : List Event) (waiting : Waiting) : Prop where
  /-- A wait is asked for, begins and ends once at most, in this order.  In between it sleeps only
  if too few removals were noted and its time is not up.  It ends well only if enough were noted,
  and without success only if too few were although its time is up. -/
  lawful : ∀ past event later, log = past ++ event :: later → event.MayFollow past
  ordered : log.Pairwise fun first second => first.now ≤ second.now
  /-- Removals are noted in the order in which they were asked for. -/
  noted : waiting.world.store.removals = removalsIn log
  /-- The answer of a wait is how it ended, and when. -/
  answers : ∀ call wait, waiting.world.calls.answer? call = some wait ↔
    .ended wait.ended call wait.result ∈ log
  /-- Whoever is asked to wait is ready to begin. -/
  begins : ∀ now call expected patience, .asked now call expected patience ∈ log →
    (∀ since expected patience, .began since call expected patience ∉ log) →
    ∃ foreground, ⟨[.begin expected patience call], foreground⟩ ∈ waiting.ready
  /-- Whoever waits is ready, unless too few removals were noted, and its timer is set. -/
  awake : ∀ since call expected patience, .began since call expected patience ∈ log →
    ¬ HasEnded log call → IsReady waiting call ∨ (removalsIn log).length < expected ∧
      SleepsUntil waiting call (Time.wake (since + patience))
  /-- Once enough removals were noted, or its time is up, a wait can end at once. -/
  ends : ∀ since call expected patience, .began since call expected patience ∈ log →
    IsDue log waiting.now expected (since + patience) → ¬ HasEnded log call →
    ∃ moves result last, machine.Allows IsTurn moves waiting ∧
      machine.play moves waiting = some ([.ended waiting.now call result], last)
  /-- Then it has a few turns more at most, whatever happens, and if enough were noted only three:
  it hears the notice, listens and looks. -/
  soon : ∀ since call expected patience, .began since call expected patience ∈ log →
    IsDue log waiting.now expected (since + patience) → ∀ moves later last,
      machine.play moves waiting = some (later, last) →
      turnsOf call moves waiting ≤
        if expected ≤ (removalsIn log).length then 3 else 3 * expected + 3
  /-- When nothing is left to do, all have begun, and all have ended that are due. -/
  settled : IsIdle waiting →
    (∀ now call expected patience, .asked now call expected patience ∈ log →
      ∃ since, .began since call expected patience ∈ log) ∧
    ∀ since call expected patience, .began since call expected patience ∈ log →
      IsDue log waiting.now expected (since + patience) → HasEnded log call

theorem Keeps.attends (keeps : Keeps log waiting) : Attends log waiting where
  lawful := keeps.chronicle.lawful
  ordered := keeps.chronicle.ordered
  noted := keeps.noted
  answers := keeps.answers
  begins := fun _ _ _ _ => keeps.mem_ready_of_asked
  awake := fun _ _ _ _ => keeps.isReady_or_sleepsUntil
  ends := fun _ _ _ _ => keeps.exists_end
  soon := fun _ _ _ _ began due _ _ _ => keeps.turnsOf_le began due
  settled := fun idle =>
    ⟨fun _ _ _ _ => keeps.began_of_isIdle idle, fun _ _ _ _ => keeps.hasEnded_of_isIdle idle⟩

/-- Whoever waits in the order in which activities settle is told how the wait ended. -/
theorem attends_wait (history : machine.History (fun _ _ => True) log waiting) (fuel : Nat)
    (name : Option String) (expected patience : Nat) :
    ∃ later, machine.History (fun _ _ => True) (log ++ later)
        (wait fuel waiting name expected patience).1 ∧
      Attends (log ++ later) (wait fuel waiting name expected patience).1 ∧
      ∀ answer, (wait fuel waiting name expected patience).2 = some answer →
        .ended answer.ended (begin waiting name expected patience).1 answer.result ∈
          log ++ later := by
  obtain ⟨later, further⟩ := (leads_wait fuel waiting name expected patience).exists_history history
  have attends := (keeps_history further).attends
  refine ⟨later, further, attends, fun answer answered => ?_⟩
  cases name with
  | some name => cases answered
  | none => exact (attends.answers _ answer).mp answered

/-- Whoever waits for removals misses no notice, whatever happens in any order, and ends once.  If
time only passes when nobody is ready, every wait ends well as soon as it can; and if it does not
pass by any timer either, all other waits end at their deadlines. -/
theorem waits_end_in_time (history : machine.History allowed log waiting) :
    Attends log waiting ∧
      ((∀ waiting move, allowed waiting move → IsPatient waiting move) →
        SucceedsAtOnce log waiting) ∧
      ((∀ waiting move, allowed waiting move → IsPrompt waiting move) →
        FailsOnTime log waiting) := by
  refine ⟨(keeps_history history).attends, fun patient => ?_, fun prompt => ?_⟩
  · have bounded : IsBounded Reached log waiting := isBounded_history
      (fun keeps ahead isAllowed => ahead.reached_move keeps (patient _ _ isAllowed)) history
    exact bounded.succeedsAtOnce
  · have bounded : IsBounded OnTime log waiting := isBounded_history
      (fun keeps ahead isAllowed => ahead.onTime_move keeps (prompt _ _ isAllowed)) history
    exact bounded.failsOnTime

/-- One wait needs no removal.  Another one hears of a removal, which fails, between listening and
looking, and wakes up for nothing before the next one; and a third one never has enough. -/
def crowd : List Move :=
  [.begin (some "two") 2 10000000, .begin (some "many") 9 4200000, .begin none 0 0,
    .step 0, .step 0, .step 0, .step 0, .step 0,
    .demand (.failNext 1), .demand (.remove ⟨"S"⟩ [1]),
    .step 0, .step 0, .step 0, .step 0, .step 0, .step 0, .step 0, .step 0, .step 0,
    .pass 3000000, .rouse 1 0, .step 0, .demand (.remove ⟨"S"⟩ [1]),
    .step 1, .step 1, .step 1, .step 0, .step 0, .step 0, .step 0, .join "two",
    .pass 5000000, .rouse 0 0, .step 0, .join "many"]

/-- The first two end well when they have enough removals, and the third one at its deadline. -/
theorem waits_end_in_time_of_crowd :
    ∃ log last, machine.play crowd machine.first = some (log, last) ∧
      machine.History IsPrompt log last ∧
      log = [.asked 0 0 2 10000000, .asked 0 1 9 4200000, .asked 0 2 0 0, .began 0 2 0 0,
        .ended 0 2 (.ok ()), .began 0 0 2 10000000, .removed 0 ⟨"S"⟩ [1], .slept 0 0,
        .began 0 1 9 4200000, .slept 0 1, .slept 3000000 0, .removed 3000000 ⟨"S"⟩ [1],
        .ended 3000000 0 (.ok ()), .slept 3000000 1, .ended 5000000 1 (.error .timedOut)] ∧
      Attends log last ∧ SucceedsAtOnce log last ∧ FailsOnTime log last := by
  have course : (machine.play crowd machine.first).map Prod.fst =
      some [.asked 0 0 2 10000000, .asked 0 1 9 4200000, .asked 0 2 0 0, .began 0 2 0 0,
        .ended 0 2 (.ok ()), .began 0 0 2 10000000, .removed 0 ⟨"S"⟩ [1], .slept 0 0,
        .began 0 1 9 4200000, .slept 0 1, .slept 3000000 0, .removed 3000000 ⟨"S"⟩ [1],
        .ended 3000000 0 (.ok ()), .slept 3000000 1, .ended 5000000 1 (.error .timedOut)] := by
    decide +kernel
  obtain ⟨⟨log, last⟩, played, isLog⟩ := Option.map_eq_some_iff.mp course
  have allows : machine.Allows IsPrompt crowd machine.first := by
    decide +kernel
  have history := Machine.History.start.play allows played
  obtain ⟨attends, succeeds, fails⟩ := waits_end_in_time history
  exact ⟨log, last, played, history, isLog, attends,
    succeeds fun _ _ prompt => prompt.isPatient, fails fun _ _ prompt => prompt⟩

end Redelivery.Store.Watchroom
