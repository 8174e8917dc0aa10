import Redelivery.Proofs.Watching

/-!
# How waits go on

A wait that has begun is ready until it ends, or sleeps until its deadline: then it has heard every
notice, and too few removals were noted.  No move but a turn of its own leads it on.  Once enough
removals were noted, or its time is up, each of these turns brings it closer to its end, so that it
ends after a few of them, whatever happens in between.
-/

namespace Redelivery.Store

/-- How many turns there may still be, `notices` having been given, if the wait does not sleep.
Once there were enough of them, the next look is the last one. -/
def Watch.toGo (notices : Nat) : Watch → Nat
  | begin expected _ _ => 3 * (expected - notices) + 3
  | listen expected _ _ => 3 * (expected - notices) + 2
  | look expected _ heard _ => if expected ≤ notices then 1 else 3 * (expected - heard) + 1
  | linger expected _ heard _ => if expected ≤ notices then 3 else 3 * (expected - heard - 1) + 3

/-- The wait has begun, and is for so many removals up to a deadline. -/
def Watch.IsFor (expected deadline : Nat) : Watch → Prop
  | begin _ _ _ => False
  | listen expectation limit _ | look expectation limit _ _ | linger expectation limit _ _ =>
      expectation = expected ∧ limit = deadline

theorem Watch.toGo_le {watch : Watch} {few many : Nat} (grown : few ≤ many) :
    watch.toGo many ≤ watch.toGo few := by
  cases watch <;> simp only [toGo] <;> (repeat' split) <;> omega

theorem Watch.IsFor.toGo_le {watch : Watch} {expected deadline : Nat}
    (isFor : watch.IsFor expected deadline) (notices : Nat) :
    watch.toGo notices ≤ if expected ≤ notices then 3 else 3 * expected + 3 := by
  cases watch with
  | begin _ _ _ => exact isFor.elim
  | listen _ _ _ | look _ _ _ _ | linger _ _ _ _ =>
      obtain ⟨rfl, _⟩ := isFor
      simp only [toGo]
      split <;> omega

theorem Watch.toGo_pos (watch : Watch) (notices : Nat) : 0 < watch.toGo notices := by
  cases watch <;> simp only [toGo] <;> (repeat' split) <;> omega

namespace Watchroom

variable {log later : List Event} {waiting after last : Waiting} {watch other : Watch} {move : Move}
  {moves : List Move} {since now call expected patience deadline : Nat}

/-- The wait of a call has ended. -/
def HasEnded (log : List Event) (call : Nat) : Prop :=
  ∃ now result, .ended now call result ∈ log

/-- It is time for a wait to end: enough removals were noted, or its time is up. -/
def IsDue (log : List Event) (now expected deadline : Nat) : Prop :=
  expected ≤ (removalsIn log).length ∨ Time.wake deadline ≤ now

theorem HasEnded.append (ended : HasEnded log call) (later : List Event) :
    HasEnded (log ++ later) call := by
  obtain ⟨now, result, present⟩ := ended
  exact ⟨now, result, List.mem_append_left later present⟩

theorem IsDue.append {after : Nat} (due : IsDue log now expected deadline) (later : List Event)
    (notBefore : now ≤ after) : IsDue (log ++ later) after expected deadline := by
  refine due.imp (fun enough => ?_) (Nat.le_trans · notBefore)
  rw [removalsIn, List.filterMap_append, List.length_append]
  exact Nat.le_trans enough (Nat.le_add_right _ _)

/-! ## Who waits -/

theorem IsChronicle.asked_unique (chronicle : IsChronicle log now) {first second : Nat}
    {expectation limit : Nat} (asked : .asked first call expected patience ∈ log)
    (again : .asked second call expectation limit ∈ log) :
    first = second ∧ expected = expectation ∧ patience = limit := by
  obtain ⟨isFirst, _, same⟩ := Event.asked.inj <| chronicle.lawful.eq_of_mem asked again
    (fun _ may => may _ _ _) (fun _ may => may _ _ _)
  exact ⟨isFirst, same⟩

theorem IsChronicle.began_unique (chronicle : IsChronicle log now) {first second : Nat}
    {expectation limit : Nat} (began : .began first call expected patience ∈ log)
    (again : .began second call expectation limit ∈ log) :
    first = second ∧ expected = expectation ∧ patience = limit := by
  obtain ⟨isFirst, _, same⟩ := Event.began.inj <| chronicle.lawful.eq_of_mem began again
    (fun _ may => may.2 _ _ _) (fun _ may => may.2 _ _ _)
  exact ⟨isFirst, same⟩

theorem Keeps.isOpen_of_asked (keeps : Keeps log waiting)
    (asked : .asked now call expected patience ∈ log) (goesOn : ¬ HasEnded log call) :
    waiting.world.calls.IsOpen call := by
  obtain ⟨answer?, found⟩ : ∃ answer?, waiting.world.calls.answers[call]? = some answer? :=
    ⟨_, List.getElem?_eq_getElem (keeps.asked now call expected patience asked)⟩
  cases answer? with
  | none => exact found
  | some wait =>
      have answered : waiting.world.calls.answer? call = some wait := by
        rw [Calls.answer?, found, Option.join_some]
      exact absurd ⟨_, _, (keeps.answers call wait).mp answered⟩ goesOn

/-- Whoever has not ended is somewhere. -/
theorem Keeps.exists_watch (keeps : Keeps log waiting)
    (asked : .asked now call expected patience ∈ log) (goesOn : ¬ HasEnded log call) :
    ∃ watch, [watch] ∈ waiting.running ∧ watch.call = call := by
  have present := (keeps.isOpen call).mpr (keeps.isOpen_of_asked asked goesOn)
  obtain ⟨program, isRunning, sameCall⟩ := Multiset.mem_map.mp present
  obtain ⟨watch, rfl, _⟩ := keeps.programs program isRunning
  exact ⟨watch, isRunning, List.singleton_inj.mp sameCall⟩

theorem Keeps.suits_of_mem (keeps : Keeps log waiting) (present : [watch] ∈ waiting.running) :
    Suits log watch := by
  obtain ⟨others, was⟩ := Multiset.exists_cons_of_mem present
  exact keeps.suits was

/-- What is left of a wait is what it was begun for. -/
theorem Keeps.isFor (keeps : Keeps log waiting)
    (began : .began since call expected patience ∈ log) (present : [watch] ∈ waiting.running)
    (own : watch.call = call) : watch.IsFor expected (since + patience) := by
  subst own
  have isFor {expectation limit : Nat} (waits : Waits log expectation limit watch.call) :
      expectation = expected ∧ limit = since + patience := by
    obtain ⟨first, permitted, again, rfl⟩ := waits
    obtain ⟨rfl, rfl, rfl⟩ := keeps.chronicle.began_unique again began
    exact ⟨rfl, rfl⟩
  have suits := keeps.suits_of_mem present
  cases watch with
  | begin _ _ _ => exact suits.2 _ _ _ began
  | listen _ _ _ => exact isFor suits
  | look _ _ _ _ => exact isFor suits.1
  | linger _ _ _ _ => exact isFor suits.1

/-- An activity of the call is ready. -/
def IsReady (waiting : Waiting) (call : Nat) : Prop :=
  ∃ activity ∈ waiting.ready, ∃ watch, activity.program = [watch] ∧ watch.call = call

/-- An activity of the call sleeps, with its timer set for an instant. -/
def SleepsUntil (waiting : Waiting) (call instant : Nat) : Prop :=
  ∃ sleeper ∈ waiting.asleep, sleeper.wake = instant ∧
    ∃ watch, sleeper.activity.program = [watch] ∧ watch.call = call

/-- Nobody sleeps who could end: no notice is missed. -/
theorem Keeps.isReady_or_sleepsUntil (keeps : Keeps log waiting)
    (began : .began since call expected patience ∈ log) (goesOn : ¬ HasEnded log call) :
    IsReady waiting call ∨ (removalsIn log).length < expected ∧
      SleepsUntil waiting call (Time.wake (since + patience)) := by
  obtain ⟨_, asked⟩ := keeps.asked_of_began began
  obtain ⟨watch, present, own⟩ := keeps.exists_watch asked goesOn
  have isFor := keeps.isFor began present own
  have suits := keeps.suits_of_mem present
  rcases Timeline.mem_running.mp present with ⟨activity, isReady, program⟩ |
    ⟨sleeper, isAsleep, program⟩
  · exact .inl ⟨activity, isReady, watch, program, own⟩
  · obtain ⟨_, _, _, isProgram, wake⟩ := keeps.asleep sleeper isAsleep
    obtain rfl := List.singleton_inj.mp (program.symm.trans isProgram)
    obtain ⟨rfl, rfl⟩ := isFor
    obtain ⟨_, _, fewer⟩ := suits
    exact .inr ⟨keeps.notices ▸ fewer, sleeper, isAsleep, wake, _, program, own⟩

/-- A wait that was asked for but has not begun is ready to begin. -/
theorem Keeps.mem_ready_of_asked (keeps : Keeps log waiting)
    (asked : .asked now call expected patience ∈ log)
    (unbegun : ∀ since expected patience, .began since call expected patience ∉ log) :
    ∃ foreground, ⟨[.begin expected patience call], foreground⟩ ∈ waiting.ready := by
  have goesOn : ¬ HasEnded log call := by
    rintro ⟨_, _, ended⟩
    obtain ⟨past, later, rfl⟩ := List.append_of_mem ended
    obtain ⟨_, since, expected, patience, began, _⟩ := keeps.chronicle.lawful past _ later rfl
    exact unbegun since expected patience (List.mem_append_left _ began)
  obtain ⟨watch, present, own⟩ := keeps.exists_watch asked goesOn
  have suits := keeps.suits_of_mem present
  subst own
  have noWaits {expectation limit : Nat} : ¬ Waits log expectation limit watch.call := by
    rintro ⟨since, permitted, began, _⟩
    exact unbegun since expectation permitted began
  cases watch with
  | begin expectation permitted call =>
      obtain ⟨⟨since, again⟩, _⟩ := suits
      obtain ⟨_, rfl, rfl⟩ := keeps.chronicle.asked_unique asked again
      rcases Timeline.mem_running.mp present with ⟨⟨_, foreground⟩, isReady, rfl⟩ |
        ⟨sleeper, isAsleep, program⟩
      · exact ⟨foreground, isReady⟩
      · obtain ⟨_, _, _, isProgram, _⟩ := keeps.asleep sleeper isAsleep
        cases List.singleton_inj.mp (program.symm.trans isProgram)
  | listen _ _ _ => exact absurd suits noWaits
  | look _ _ _ _ => exact absurd suits.1 noWaits
  | linger _ _ _ _ => exact absurd suits.1 noWaits

/-! ## Turns -/

/-- The call whose turn a move is. -/
def turnOf? (waiting : Waiting) : Move → Option Nat
  | .step index =>
      match waiting.ready[index]? with
      | some ⟨watch :: _, _⟩ => some watch.call
      | _ => none
  | .begin _ _ _ | .join _ | .demand _ | .rouse _ _ | .pass _ => none

/-- How many turns a wait has in the course of several moves. -/
def turnsOf (call : Nat) : List Move → Waiting → Nat
  | [], _ => 0
  | move :: rest, waiting =>
      (if turnOf? waiting move = some call then 1 else 0) +
        (move? waiting move).elim 0 (turnsOf call rest)

/-- A turn, or a timer that is up and wakes somebody up for one. -/
def IsTurn (waiting : Waiting) : Move → Prop
  | .step _ => True
  | .rouse index position => (waiting.rouseTo index position).isSome
  | .begin _ _ _ | .join _ | .demand _ | .pass _ => False

theorem turnOf?_step {index : Nat} {foreground : Bool}
    (found : waiting.ready[index]? = some ⟨[watch], foreground⟩) :
    turnOf? waiting (.step index) = some watch.call := by
  simp only [turnOf?, found]

theorem Turn.notices {room next : Watchroom} {happened : List Event} {pace : Pace Watch}
    (turn : Turn room now watch happened next pace) : next.notices = room.notices := by
  cases turn <;> rfl

theorem now_move (moved : move? waiting move = some after) :
    after.now = waiting.now ∨ ∃ instant, move = .pass instant ∧ waiting.now ≤ instant ∧
      after = { waiting with now := instant } := by
  cases move with
  | begin name expected patience =>
      obtain rfl := Option.some.inj moved
      cases name <;> exact .inl rfl
  | join name =>
      obtain rfl := Option.some.inj moved
      exact .inl rfl
  | demand demand =>
      obtain rfl := Option.some.inj moved
      cases demand <;> exact .inl rfl
  | step index =>
      have stepped : waiting.stepAt behave index = some after := moved
      obtain ⟨_, _, others, rfl, _, went⟩ := Timeline.stepAt_eq_some stepped
      rcases went with ⟨_, rfl⟩ | ⟨watch, rest, _, rfl⟩
      · exact .inl rfl
      · obtain ⟨room, pace, behaves, _⟩ := turn_behave (without waiting index) watch rest
        rw [Timeline.now_resume]
        exact .inl (congrArg (fun behaved => behaved.1.now) behaves)
  | rouse index position =>
      obtain ⟨_, _, sameNow, _⟩ := Timeline.disturb_eq_some moved
      exact .inl sameNow
  | pass instant =>
      exact .inr ⟨instant, rfl, eq_of_pass moved⟩

theorem now_le_move (moved : move? waiting move = some after) : waiting.now ≤ after.now := by
  rcases now_move moved with same | ⟨_, _, later, rfl⟩
  · exact Nat.le_of_eq same.symm
  · exact later

/-- One call has one activity. -/
theorem Keeps.eq_of_call (keeps : Keeps log waiting) (present : [watch] ∈ waiting.running)
    (otherPresent : [other] ∈ waiting.running) (same : other.call = watch.call) :
    other = watch := by
  obtain ⟨others, was⟩ := Multiset.exists_cons_of_mem present
  rw [was] at otherPresent
  rcases Multiset.mem_cons.mp otherPresent with isSame | isOther
  · exact List.singleton_inj.mp isSame
  · have isUnderWay : [other.call] ∈ underWay others := Multiset.mem_map.mpr ⟨_, isOther, rfl⟩
    exact absurd (same ▸ isUnderWay) (keeps.serves was).single.2

/-- What a wait has to do next remains as long as it has no turn. -/
theorem Keeps.mem_running_move (keeps : Keeps log waiting) (present : [watch] ∈ waiting.running)
    (moved : move? waiting move = some after) (notOwn : turnOf? waiting move ≠ some watch.call) :
    [watch] ∈ after.running ∧ waiting.world.notices ≤ after.world.notices := by
  cases move with
  | begin name expected patience =>
      obtain rfl := Option.some.inj moved
      cases name with
      | none =>
          exact ⟨(Timeline.running_call _ _).symm ▸ Multiset.mem_cons_of_mem present, Nat.le_refl _⟩
      | some name =>
          exact ⟨(Timeline.running_spawn _ _).symm ▸ Multiset.mem_cons_of_mem present,
            Nat.le_refl _⟩
  | join name =>
      obtain rfl := Option.some.inj moved
      exact ⟨present, Nat.le_refl _⟩
  | demand demand =>
      obtain rfl := Option.some.inj moved
      cases demand with
      | insert _ _ _ => exact ⟨present, Nat.le_refl _⟩
      | failNext _ => exact ⟨present, Nat.le_refl _⟩
      | remove _ _ => exact ⟨(Timeline.running_rouseWhere _ _).symm ▸ present, Nat.le_succ _⟩
  | step index =>
      obtain ⟨other, foreground, room, pace, found, was, turn, rfl, running⟩ :=
        keeps.step_cases moved
      rw [running, Timeline.world_resume]
      refine ⟨Multiset.mem_add.mpr (.inr ?_), Nat.le_of_eq turn.notices.symm⟩
      rw [was] at present
      rcases Multiset.mem_cons.mp present with same | isOther
      · obtain rfl := List.singleton_inj.mp same
        exact absurd (turnOf?_step found) notOwn
      · exact isOther
  | rouse index position =>
      obtain ⟨sameRunning, sameWorld, _⟩ := Timeline.disturb_eq_some moved
      rw [sameRunning, sameWorld]
      exact ⟨present, Nat.le_refl _⟩
  | pass instant =>
      obtain ⟨_, rfl⟩ := eq_of_pass moved
      exact ⟨present, Nat.le_refl _⟩

/-- A turn of a wait that is due ends it, or brings it closer to its end. -/
theorem Keeps.ends_or_nears {room : Watchroom} {happened : List Event} {pace : Pace Watch}
    (keeps : Keeps log waiting) (suits : Suits log watch) (isFor : watch.IsFor expected deadline)
    (due : IsDue log waiting.now expected deadline)
    (turn : Turn waiting.world waiting.now watch happened room pace) :
    (∃ result, happened = [.ended waiting.now watch.call result]) ∨
      happened = [] ∧ ∃ next, pace = .onward [next] ∧ next.call = watch.call ∧
        next.toGo waiting.world.notices < watch.toGo waiting.world.notices := by
  cases turn with
  | begins _ _ _ => exact isFor.elim
  | listens _ _ _ =>
      refine .inr ⟨rfl, _, rfl, rfl, ?_⟩
      simp only [Watch.toGo]
      split <;> omega
  | @lingers expected _ heard _ few =>
      obtain ⟨_, atMost⟩ := suits
      have sameCount := congrArg List.length keeps.noted
      have notEnough : ¬ expected ≤ waiting.world.notices := by
        rw [keeps.notices]
        omega
      refine .inr ⟨rfl, _, rfl, rfl, ?_⟩
      rw [Watch.toGo, if_neg notEnough, Watch.toGo, if_neg notEnough]
      omega
  | succeeds _ _ _ _ => exact .inl ⟨_, rfl⟩
  | repeats _ _ _ notified =>
      -- `heard` is below `expected`, so that every further notice counts.
      obtain ⟨_, _, fewer⟩ := suits
      refine .inr ⟨rfl, _, rfl, rfl, ?_⟩
      simp only [Watch.toGo]
      split <;> omega
  | fails _ _ _ _ => exact .inl ⟨_, rfl⟩
  | sleeps _ _ unnoticed early =>
      obtain ⟨_, _, fewer⟩ := suits
      obtain ⟨rfl, rfl⟩ := isFor
      have sameCount := keeps.notices
      rcases due with enough | late
      · omega
      · exact absurd early (Nat.not_lt.mpr late)

theorem Keeps.nears (keeps : Keeps log waiting)
    (began : .began since call expected patience ∈ log)
    (due : IsDue log waiting.now expected (since + patience)) (present : [watch] ∈ waiting.running)
    (own : watch.call = call) (moved : move? waiting move = some after) :
    HasEnded (events waiting move) call ∨ ∃ next, [next] ∈ after.running ∧ next.call = call ∧
      (if turnOf? waiting move = some call then 1 else 0) + next.toGo after.world.notices ≤
        watch.toGo waiting.world.notices := by
  by_cases isOwn : turnOf? waiting move = some call
  · cases move with
    | step index =>
        obtain ⟨other, foreground, room, pace, found, was, turn, rfl, running⟩ :=
          keeps.step_cases moved
        have sameCall : other.call = watch.call := by
          rw [turnOf?_step found] at isOwn
          exact (Option.some.inj isOwn).trans own.symm
        obtain rfl := keeps.eq_of_call present (was ▸ Multiset.mem_cons_self _ _) sameCall
        have isFor := keeps.isFor began present own
        rcases keeps.ends_or_nears (keeps.suits was) isFor due turn with
          ⟨result, happened⟩ | ⟨_, next, rfl, nextOwn, less⟩
        · rw [happened, own]
          exact .inl ⟨_, result, List.mem_singleton.mpr rfl⟩
        · refine .inr ⟨next, ?_, nextOwn.trans own, ?_⟩
          · rw [running]
            exact Multiset.mem_add.mpr (.inl (Multiset.mem_singleton_self _))
          · rw [if_pos isOwn, Timeline.world_resume, turn.notices]
            omega
    | begin _ _ _ | join _ | demand _ | rouse _ _ | pass _ => cases isOwn
  · obtain ⟨stays, grown⟩ := keeps.mem_running_move present moved (own ▸ isOwn)
    refine .inr ⟨watch, stays, own, ?_⟩
    rw [if_neg isOwn, Nat.zero_add]
    exact Watch.toGo_le grown

/-- A wait that has ended has no more turns. -/
theorem Keeps.turnOf?_ne (keeps : Keeps log waiting) (ended : HasEnded log call)
    (moved : move? waiting move = some after) : turnOf? waiting move ≠ some call := by
  intro isOwn
  cases move with
  | step index =>
      obtain ⟨watch, _, _, _, found, was, _⟩ := keeps.step_cases moved
      rw [turnOf?_step found] at isOwn
      obtain rfl := Option.some.inj isOwn
      obtain ⟨now, result, ended⟩ := ended
      have answered := (keeps.answers watch.call ⟨result, now⟩).mpr ended
      rw [(keeps.serves was).isOpen_call.answer?_eq_none] at answered
      cases answered
  | begin _ _ _ | join _ | demand _ | rouse _ _ | pass _ => cases isOwn

theorem Keeps.turnsOf_eq_zero (keeps : Keeps log waiting) (ended : HasEnded log call)
    (played : machine.play moves waiting = some (later, last)) :
    turnsOf call moves waiting = 0 := by
  induction moves generalizing log waiting later with
  | nil => rfl
  | cons move rest inductionHypothesis =>
      obtain ⟨after, _, moved, isRest, rfl⟩ := Machine.play_cons_eq_some_iff.mp played
      have goesOn : move? waiting move = some after := moved
      rw [turnsOf, if_neg (keeps.turnOf?_ne ended goesOn), goesOn, Option.elim_some, Nat.zero_add]
      exact inductionHypothesis (keeps.move goesOn) (ended.append _) isRest

theorem Keeps.turnsOf_le_toGo (keeps : Keeps log waiting)
    (began : .began since call expected patience ∈ log)
    (due : IsDue log waiting.now expected (since + patience)) (present : [watch] ∈ waiting.running)
    (own : watch.call = call) (played : machine.play moves waiting = some (later, last)) :
    turnsOf call moves waiting ≤ watch.toGo waiting.world.notices := by
  induction moves generalizing log waiting later watch with
  | nil => exact Nat.zero_le _
  | cons move rest inductionHypothesis =>
      obtain ⟨after, _, moved, isRest, rfl⟩ := Machine.play_cons_eq_some_iff.mp played
      have goesOn : move? waiting move = some after := moved
      have keepsAfter := keeps.move goesOn
      rw [turnsOf, goesOn]
      rcases keeps.nears began due present own goesOn with ⟨now, result, ended⟩ |
        ⟨next, stays, nextOwn, less⟩
      · have hasEnded : HasEnded (log ++ events waiting move) call :=
          ⟨now, result, List.mem_append_right _ ended⟩
        have noMore := keepsAfter.turnsOf_eq_zero hasEnded isRest
        rw [Option.elim_some, noMore, Nat.add_zero]
        have positive := watch.toGo_pos waiting.world.notices
        split <;> omega
      · have further := inductionHypothesis keepsAfter (List.mem_append_left _ began)
          (due.append _ (now_le_move goesOn)) stays nextOwn isRest
        rw [Option.elim_some]
        omega

/-- From the moment at which it is due, a wait has a few more turns at most, whatever happens; and
only three if enough removals were noted. -/
theorem Keeps.turnsOf_le (keeps : Keeps log waiting)
    (began : .began since call expected patience ∈ log)
    (due : IsDue log waiting.now expected (since + patience))
    (played : machine.play moves waiting = some (later, last)) :
    turnsOf call moves waiting ≤
      if expected ≤ (removalsIn log).length then 3 else 3 * expected + 3 := by
  by_cases ended : HasEnded log call
  · rw [keeps.turnsOf_eq_zero ended played]
    exact Nat.zero_le _
  · obtain ⟨_, asked⟩ := keeps.asked_of_began began
    obtain ⟨watch, present, own⟩ := keeps.exists_watch asked ended
    rw [← keeps.notices]
    exact Nat.le_trans (keeps.turnsOf_le_toGo began due present own played)
      ((keeps.isFor began present own).toGo_le _)

/-! ## The end of a wait -/

theorem Keeps.exists_end_of_ready {foreground : Bool} (keeps : Keeps log waiting)
    (began : .began since call expected patience ∈ log)
    (due : IsDue log waiting.now expected (since + patience))
    (isReady : ⟨[watch], foreground⟩ ∈ waiting.ready) (own : watch.call = call) :
    ∃ moves result last, machine.Allows IsTurn moves waiting ∧
      machine.play moves waiting = some ([.ended waiting.now call result], last) := by
  induction left : watch.toGo waiting.world.notices using Nat.strong_induction_on
    generalizing log waiting watch with
  | _ left inductionHypothesis =>
      obtain ⟨index, found⟩ := List.mem_iff_getElem?.mp isReady
      obtain ⟨after, moved⟩ : ∃ after, move? waiting (.step index) = some after := by
        simp only [move?, Timeline.stepAt, found]
        exact ⟨_, rfl⟩
      obtain ⟨other, front, room, pace, foundOther, was, turn, isAfter, _⟩ := keeps.step_cases moved
      obtain ⟨same, rfl⟩ := Activity.mk.inj (Option.some.inj (found.symm.trans foundOther))
      obtain rfl := List.singleton_inj.mp same
      have isFor := keeps.isFor began (was ▸ Multiset.mem_cons_self _ _) own
      have inside : index ≤ (without waiting index).ready.length := by
        obtain ⟨isIndex, _⟩ := List.getElem?_eq_some_iff.mp found
        rw [without, List.length_eraseIdx_of_lt isIndex]
        omega
      have allows {moves : List Move} (rest : machine.Allows IsTurn moves after) :
          machine.Allows IsTurn (.step index :: moves) waiting :=
        Machine.allows_cons moved trivial rest
      have played {moves : List Move} {later : List Event} {last : Waiting}
          (rest : machine.play moves after = some (later, last)) :
          machine.play (.step index :: moves) waiting =
            some (events waiting (.step index) ++ later, last) :=
        Machine.play_cons_eq_some_iff.mpr ⟨after, later, moved, rest, rfl⟩
      rcases keeps.ends_or_nears (keeps.suits was) isFor due turn with
        ⟨result, happened⟩ | ⟨happened, next, rfl, nextOwn, less⟩
      · have only := @played [] [] after rfl
        rw [happened, own] at only
        exact ⟨[.step index], result, after, allows trivial, only⟩
      · subst isAfter
        have keepsAfter := keeps.step moved
        rw [happened, List.append_nil] at keepsAfter
        have nextReady : ⟨[next], foreground⟩ ∈ (({ without waiting index with world := room } :
            Waiting).resume index foreground (.onward [next])).ready :=
          Timeline.mem_ready_resume inside foreground [next]
        obtain ⟨moves, result, last, areTurns, rest⟩ := inductionHypothesis _
          (left ▸ turn.notices ▸ less) keepsAfter began due nextReady (nextOwn.trans own) rfl
        have whole := played rest
        rw [happened] at whole
        exact ⟨.step index :: moves, result, last, allows areTurns, whole⟩

/-- A wait that is due can end at once. -/
theorem Keeps.exists_end (keeps : Keeps log waiting)
    (began : .began since call expected patience ∈ log)
    (due : IsDue log waiting.now expected (since + patience)) (goesOn : ¬ HasEnded log call) :
    ∃ moves result last, machine.Allows IsTurn moves waiting ∧
      machine.play moves waiting = some ([.ended waiting.now call result], last) := by
  rcases keeps.isReady_or_sleepsUntil began goesOn with
    ⟨⟨_, foreground⟩, isReady, watch, rfl, own⟩ |
    ⟨few, ⟨wake, _, foreground⟩, isAsleep, rfl, watch, rfl, own⟩
  · exact keeps.exists_end_of_ready began due isReady own
  · have isUp : Time.wake (since + patience) ≤ waiting.now :=
      due.resolve_left (Nat.not_le.mpr few)
    obtain ⟨index, found⟩ := List.mem_iff_getElem?.mp isAsleep
    have roused : waiting.rouseTo index 0 = some
        { waiting with
          ready := ⟨[watch], foreground⟩ :: waiting.ready
          asleep := waiting.asleep.eraseIdx index } := by
      simp only [Timeline.rouseTo, found]
      exact if_pos ⟨isUp, Nat.zero_le _⟩
    have moved : move? waiting (.rouse index 0) = some _ := Timeline.disturb_of_rouseTo roused
    have keepsAfter := keeps.move moved
    have happened : events waiting (.rouse index 0) = [] := rfl
    rw [happened, List.append_nil] at keepsAfter
    obtain ⟨moves, result, last, areTurns, played⟩ :=
      keepsAfter.exists_end_of_ready began due List.mem_cons_self own
    refine ⟨.rouse index 0 :: moves, result, last, ?_, ?_⟩
    · exact Machine.allows_cons moved (Option.isSome_of_eq_some roused) areTurns
    · exact Machine.play_cons_eq_some_iff.mpr ⟨_, _, moved, played, rfl⟩

end Watchroom

end Redelivery.Store
