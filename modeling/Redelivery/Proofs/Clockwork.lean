import Redelivery.Proofs.Firings
import Redelivery.Proofs.Programs

/-!
# Plans on a clock

A plan on a clock has a timer for each task that it accepts.  Timers, whoever schedules and cancels
tasks, and the clock take turns in any order.  After each turn, the log of what happened tells which
tasks wait, and each of them has its timer.
-/

namespace Redelivery.Schedule.Plan

/-! ## Moves -/

/-- What may happen next to a plan on a clock. -/
inductive Move where
  /-- Somebody asks for a timer, inside a runtime or outside of it. -/
  | schedule (task : Task) (inside : Bool)
  | cancel (name : String)
  /-- A handle is dropped. -/
  | release (name : String)
  | close
  /-- The ready timer at an index has its turn. -/
  | step (index : Nat)
  /-- The sleeper at an index wakes up, and is ready at a position. -/
  | rouse (index position : Nat)
  /-- Time passes until an instant. -/
  | wait (instant : Nat)

/-- Whether a move is made inside a runtime. -/
def Move.isInside : Move → Bool
  | schedule _ inside => inside
  | _ => true

/-- Whether a move is up to the timers alone. -/
def Move.isTurn : Move → Bool
  | step _ | rouse _ _ => true
  | _ => false

/-- Schedule a task, if something can host its timer. -/
def submit (hosted : Bool) (now : Nat) (task : Task) (plan : Plan) : Except Refusal Plan :=
  if !plan.agenda.closed && !hosted then .error .noRuntime else plan.schedule now task

/-- A timer is hosted by the runtime in which the scheduler was made, or else by that in which it is
used. -/
def move? (inside : Bool) (clocked : Clocked) : Move → Option Clocked
  | .schedule task usedInside =>
      match clocked.world.submit (inside || usedInside) clocked.now task with
      | .ok plan => some (launch { clocked with world := plan })
      | .error _ => some clocked
  | .cancel name => some { clocked with world := clocked.world.cancel name }
  | .release name => some { clocked with world := clocked.world.release name }
  | .close => some { clocked with world := clocked.world.close }
  | .step index => clocked.stepAt behave index
  | .rouse index position => clocked.rouseTo index position
  | .wait instant => if clocked.now ≤ instant then some { clocked with now := instant } else none

/-- The turn of a timer: its task begins if it is still wanted and the timer is up. -/
def turnEvents (clocked : Clocked) (ticket : Nat) : List Event :=
  match clocked.world.agenda.find? ticket with
  | none => []
  | some entry =>
      if Time.wake entry.due ≤ clocked.now then
        runEvents clocked.world.timed clocked.now entry
          (clocked.world.agenda.cancel ticket, clocked.world.ledger)
      else []

/-- What happens to tasks in the course of a move. -/
def events (inside : Bool) (clocked : Clocked) : Move → List Event
  | .schedule task usedInside =>
      [outcome (inside || usedInside) clocked.now task clocked.world.agenda]
  | .cancel name => cancelEvents [name] (clocked.world.agenda, clocked.world.ledger)
  | .close => [.closed]
  | .step index =>
      match clocked.ready[index]? with
      | some ⟨ticket :: _, _⟩ => turnEvents clocked ticket
      | _ => []
  | .release _ | .rouse _ _ | .wait _ => []

/-- What happened to tasks from the start to a moment, in moves of a kind. -/
inductive History (inside : Bool) (allowed : Clocked → Move → Prop) :
    List Event → Clocked → Prop where
  | start : History inside allowed [] (Timeline.start (empty true))
  | extend {log : List Event} {clocked after : Clocked} {move : Move} :
      History inside allowed log clocked → allowed clocked move →
      move? inside clocked move = some after →
      History inside allowed (log ++ events inside clocked move) after

/-- What happens in the course of several moves, and what it leads to. -/
def play (inside : Bool) : List Move → Clocked → Option (List Event × Clocked)
  | [], clocked => some ([], clocked)
  | move :: rest, clocked =>
      (move? inside clocked move).bind fun after =>
        (play inside rest after).map fun (later, last) =>
          (events inside clocked move ++ later, last)

variable {inside : Bool} {allowed : Clocked → Move → Prop} {log : List Event}
  {clocked after : Clocked}

/-- All of several moves are of a kind. -/
def Allows (inside : Bool) (allowed : Clocked → Move → Prop) : List Move → Clocked → Prop
  | [], _ => True
  | move :: rest, clocked =>
      allowed clocked move ∧ (move? inside clocked move).elim True (Allows inside allowed rest)

instance decidableAllows (inside : Bool) (allowed : Clocked → Move → Prop)
    [∀ clocked move, Decidable (allowed clocked move)] :
    (moves : List Move) → (clocked : Clocked) → Decidable (Allows inside allowed moves clocked)
  | [], _ => .isTrue trivial
  | move :: rest, clocked =>
      have : Decidable ((move? inside clocked move).elim True (Allows inside allowed rest)) :=
        match move? inside clocked move with
        | none => .isTrue trivial
        | some after => decidableAllows inside allowed rest after
      inferInstanceAs (Decidable (_ ∧ _))

theorem History.play (history : History inside allowed log clocked) {moves : List Move}
    {later : List Event} {last : Clocked} (allows : Allows inside allowed moves clocked)
    (played : Plan.play inside moves clocked = some (later, last)) :
    History inside allowed (log ++ later) last := by
  induction moves generalizing log clocked later with
  | nil =>
      cases played
      rwa [List.append_nil]
  | cons move rest inductionHypothesis =>
      obtain ⟨middle, moved, further⟩ := Option.bind_eq_some_iff.mp played
      obtain ⟨⟨_, _⟩, isRest, same⟩ := Option.map_eq_some_iff.mp further
      obtain ⟨rfl, rfl⟩ := Prod.mk.inj same
      obtain ⟨isAllowed, restAllowed⟩ := allows
      rw [moved] at restAllowed
      rw [← List.append_assoc]
      exact inductionHypothesis (history.extend isAllowed moved) restAllowed isRest

/-! ## Timers -/

/-- The timer of a task is up, or sleeps until its instant. -/
def HasTimer (clocked : Clocked) (entry : Entry Task) : Prop :=
  (∃ foreground, ⟨[entry.ticket], foreground⟩ ∈ clocked.ready) ∨
    ∃ foreground, ⟨Time.wake entry.due, ⟨[entry.ticket], foreground⟩⟩ ∈ clocked.asleep

theorem HasTimer.mono {entry : Entry Task} (timer : HasTimer clocked entry)
    (ready : ∀ foreground, ⟨[entry.ticket], foreground⟩ ∈ clocked.ready →
      ⟨[entry.ticket], foreground⟩ ∈ after.ready)
    (asleep : clocked.asleep ⊆ after.asleep) : HasTimer after entry :=
  timer.imp (fun ⟨foreground, present⟩ => ⟨foreground, ready foreground present⟩)
    fun ⟨foreground, present⟩ => ⟨foreground, asleep present⟩

theorem ready_launch (clocked : Clocked) : (launch clocked).ready =
    clocked.ready ++ clocked.world.ledger.starting.map fun ticket => ⟨[ticket], false⟩ := by
  rw [launch, Timeline.mapWorld, Timeline.ready_spawnAll, List.map_map]
  rfl

theorem asleep_launch (clocked : Clocked) : (launch clocked).asleep = clocked.asleep :=
  Timeline.asleep_spawnAll _ _

theorem now_launch (clocked : Clocked) : (launch clocked).now = clocked.now :=
  Timeline.now_spawnAll _ _

theorem world_launch (clocked : Clocked) : (launch clocked).world =
    { clocked.world with ledger := { clocked.world.ledger with starting := [] } } := by
  rw [launch, Timeline.mapWorld, Timeline.world_spawnAll]

/-! ## What a plan keeps -/

/-- The log tells which tasks wait, and each of them has its timer. -/
structure Keeps (inside : Bool) (log : List Event) (clocked : Clocked) : Prop where
  reflects : Reflects inside clocked.now log (clocked.world.agenda, clocked.world.ledger)
  timed : clocked.world.timed = true
  unstarted : clocked.world.ledger.starting = []
  timers : ∀ entry ∈ clocked.world.agenda.entries, HasTimer clocked entry

theorem keeps_start (inside : Bool) : Keeps inside [] (Timeline.start (empty true)) where
  reflects := .empty inside true 0
  timed := rfl
  unstarted := rfl
  timers := fun _ present => absurd present List.not_mem_nil

/-- The timers of tasks that were accepted start at once. -/
theorem keeps_launch
    (reflects : Reflects inside clocked.now log (clocked.world.agenda, clocked.world.ledger))
    (timed : clocked.world.timed = true)
    (timers : ∀ entry ∈ clocked.world.agenda.entries,
      HasTimer clocked entry ∨ entry.ticket ∈ clocked.world.ledger.starting) :
    Keeps inside log (launch clocked) where
  reflects := by
    rw [now_launch, world_launch]
    exact { reflects with }
  timed := by
    rw [world_launch]
    exact timed
  unstarted := by rw [world_launch]
  timers := by
    intro entry present
    rw [world_launch] at present
    rcases timers entry present with timer | starts
    · refine timer.mono (fun _ isReady => ?_) (asleep_launch clocked ▸ List.Subset.refl _)
      rw [ready_launch]
      exact List.mem_append_left _ isReady
    · refine .inl ⟨false, ?_⟩
      rw [ready_launch]
      exact List.mem_append_right _ (List.mem_map.mpr ⟨entry.ticket, starts, rfl⟩)

/-! ## Turns of timers -/

theorem mem_eraseIdx_of_ne {α : Type} {items : List α} {index : Nat} {item other : α}
    (found : items[index]? = some item) (present : other ∈ items) (differs : other ≠ item) :
    other ∈ items.eraseIdx index := by
  obtain ⟨inBounds, rfl⟩ := List.getElem?_eq_some_iff.mp found
  have perm := List.getElem_cons_eraseIdx_perm inBounds
  exact (List.mem_cons.mp (perm.mem_iff.mpr present)).resolve_left differs

/-- The timer at an index has its turn, and all others stay ready. -/
def others (clocked : Clocked) (index : Nat) : Clocked :=
  { clocked with ready := clocked.ready.eraseIdx index }

/-- The turn of a timer leaves those of other tasks alone. -/
theorem HasTimer.others {index : Nat} {activity : Activity Nat} {entry : Entry Task}
    (timer : HasTimer clocked entry) (found : clocked.ready[index]? = some activity)
    (other : ∀ foreground, activity ≠ ⟨[entry.ticket], foreground⟩) :
    HasTimer (others clocked index) entry :=
  timer.mono (fun foreground present =>
    mem_eraseIdx_of_ne found present (Ne.symm (other foreground))) (List.Subset.refl _)

/-- The plan after a task has run. -/
def ran (clocked : Clocked) (entry : Entry Task) : Plan :=
  let state := runTask clocked.world.timed clocked.now entry.task
    (clocked.world.agenda.cancel entry.ticket, clocked.world.ledger)
  { clocked.world with agenda := state.1, ledger := state.2 }

/-- A timer whose task is not wanted any more stops, one that is up runs its task, and any other one
sleeps until its instant. -/
theorem step_cases {index : Nat} (stepped : clocked.stepAt behave index = some after) :
    ∃ activity, clocked.ready[index]? = some activity ∧
      ((after = others clocked index ∧ events inside clocked (.step index) = [] ∧
          ∀ ticket, activity.program = [ticket] → clocked.world.agenda.find? ticket = none) ∨
        ∃ ticket rest entry, activity.program = ticket :: rest ∧
          clocked.world.agenda.find? ticket = some entry ∧
          ((Time.wake entry.due ≤ clocked.now ∧
              events inside clocked (.step index) =
                runEvents clocked.world.timed clocked.now entry
                  (clocked.world.agenda.cancel ticket, clocked.world.ledger) ∧
              after = launch { others clocked index with world := ran clocked entry }) ∨
            (¬ Time.wake entry.due ≤ clocked.now ∧ events inside clocked (.step index) = [] ∧
              after = (others clocked index).resume index activity.foreground
                (.sleepUntil entry.due [ticket])))) := by
  obtain ⟨⟨program, foreground⟩, found, _, rfl, _, went⟩ := Timeline.stepAt_eq_some stepped
  refine ⟨⟨program, foreground⟩, found, ?_⟩
  rcases went with ⟨ended, isAfter⟩ | ⟨ticket, rest, isHere, isAfter⟩
  · obtain rfl : program = [] := ended
    refine .inl ⟨isAfter, by simp only [events, found], fun ticket same => ?_⟩
    cases same
  · obtain rfl : program = ticket :: rest := isHere
    have happens : events inside clocked (.step index) = turnEvents clocked ticket := by
      simp only [events, found]
    rw [happens]
    cases isFound : clocked.world.agenda.find? ticket with
    | none =>
        simp only [behave, isFound] at isAfter
        refine .inl ⟨isAfter, by simp only [turnEvents, isFound], fun other same => ?_⟩
        obtain ⟨rfl, _⟩ := List.cons.inj same
        exact isFound
    | some entry =>
        refine .inr ⟨ticket, rest, entry, rfl, isFound, ?_⟩
        obtain rfl := Agenda.ticket_of_find? isFound
        by_cases due : Time.wake entry.due ≤ clocked.now
        · simp only [behave, isFound, if_pos due] at isAfter
          refine .inl ⟨due, ?_, isAfter⟩
          simp only [turnEvents, isFound, if_pos due]
        · simp only [behave, isFound, if_neg due] at isAfter
          refine .inr ⟨due, ?_, isAfter⟩
          simp only [turnEvents, isFound, if_neg due]

theorem Keeps.step {index : Nat} (keeps : Keeps inside log clocked)
    (stepped : clocked.stepAt behave index = some after) :
    Keeps inside (log ++ events inside clocked (.step index)) after := by
  have sound : clocked.world.agenda.Sound := keeps.reflects.sound
  obtain ⟨⟨program, foreground⟩, found, went⟩ := @step_cases inside _ _ _ stepped
  rcases went with ⟨rfl, noEvents, unwanted⟩ |
    ⟨ticket, rest, entry, isHere, isFound, ⟨due, happens, rfl⟩ | ⟨early, noEvents, rfl⟩⟩
  · rw [noEvents, List.append_nil]
    refine ⟨keeps.reflects, keeps.timed, keeps.unstarted, fun entry present => ?_⟩
    refine (keeps.timers entry present).others found fun other same => ?_
    have isEntry := sound.find?_eq_some_iff.mpr ⟨present, rfl⟩
    rw [unwanted entry.ticket (congrArg Activity.program same)] at isEntry
    cases isEntry
  · obtain ⟨present, rfl⟩ := sound.find?_eq_some_iff.mp isFound
    rw [happens]
    refine keeps_launch (keeps.reflects.runTask present due) keeps.timed fun other isOther => ?_
    have starts := starts_runTask clocked.now entry.task
      (clocked.world.agenda.cancel entry.ticket, clocked.world.ledger)
    simp only [ran, keeps.timed] at isOther ⊢
    rcases starts.starts other isOther with old | new
    · obtain ⟨wasPresent, differs⟩ := Agenda.mem_cancel_iff.mp old
      refine .inl ((keeps.timers other wasPresent).others found fun _ same => differs ?_)
      have sameProgram := congrArg Activity.program same
      rw [isHere] at sameProgram
      exact (List.cons.inj sameProgram).1.symm
    · exact .inr new
  · rw [noEvents, List.append_nil]
    have sameWorld := Timeline.world_resume (others clocked index) index foreground
      (.sleepUntil entry.due [ticket])
    have sameNow := Timeline.now_resume (others clocked index) index foreground
      (.sleepUntil entry.due [ticket])
    refine ⟨?_, ?_, ?_, fun other present => ?_⟩
    · rw [sameWorld, sameNow]
      exact keeps.reflects
    · rw [sameWorld]
      exact keeps.timed
    · rw [sameWorld]
      exact keeps.unstarted
    · rw [sameWorld] at present
      by_cases same : other.ticket = ticket
      · have isEntry := sound.find?_eq_some_iff.mpr ⟨present, same⟩
        obtain rfl := Option.some.inj (isFound.symm.trans isEntry)
        subst same
        have sleeps := @Timeline.mem_asleep_resume Nat Plan (others clocked index) entry.due early
          index foreground [entry.ticket]
        exact .inr ⟨foreground, sleeps⟩
      · have remains : HasTimer (others clocked index) other :=
          (keeps.timers other present).others found fun _ isSame => same (by
            have sameProgram := congrArg Activity.program isSame
            rw [isHere] at sameProgram
            exact (List.cons.inj sameProgram).1.symm)
        exact remains.mono (fun _ isReady => Timeline.ready_subset_resume _ _ _ _ isReady)
          (Timeline.asleep_subset_resume _ _ _ _)

/-! ## Other moves -/

/-- Whoever is refused a timer finds the scheduler shut down, or no runtime. -/
theorem outcome_of_refused {hosted : Bool} {now : Nat} {task : Task} {plan : Plan}
    {refusal : Refusal} (refused : plan.submit hosted now task = .error refusal) :
    outcome hosted now task plan.agenda = .refused now task refusal ∧
      (plan.agenda.closed = true ∧ refusal = .shutdown ∨
        plan.agenda.closed = false ∧ refusal = .noRuntime ∧ hosted = false) := by
  unfold submit at refused
  unfold outcome Agenda.scheduleTimer
  split at refused
  · next unhosted =>
      obtain rfl := Except.error.inj refused
      rw [if_pos unhosted]
      exact ⟨rfl, .inr (by simpa using unhosted)⟩
  · next free =>
      rw [if_neg free]
      cases scheduled : plan.agenda.schedule (task.due.instant now) task with
      | ok placed =>
          simp only [schedule, scheduleIn, scheduled] at refused
          cases refused
      | error reason =>
          simp only [schedule, scheduleIn, scheduled] at refused
          obtain rfl := Except.error.inj refused
          have isClosed := Agenda.schedule_eq_error scheduled
          rw [Agenda.schedule, if_pos isClosed] at scheduled
          exact ⟨rfl, .inl ⟨isClosed, (Except.error.inj scheduled).symm⟩⟩

/-- Whoever gets a timer gets it as in any runtime. -/
theorem outcome_of_accepted {hosted : Bool} {now : Nat} {task : Task} {plan changed : Plan}
    (accepted : plan.submit hosted now task = .ok changed) :
    outcome hosted now task plan.agenda = outcome true now task plan.agenda ∧
      ∃ state, scheduleIn plan.timed now task (plan.agenda, plan.ledger) = .ok state ∧
        changed = { plan with agenda := state.1, ledger := state.2 } := by
  unfold submit at accepted
  unfold outcome
  rw [Agenda.scheduleTimer_hosted, Agenda.scheduleTimer]
  split at accepted
  · cases accepted
  · next free =>
      rw [if_neg free]
      refine ⟨rfl, ?_⟩
      unfold schedule at accepted
      cases scheduled : scheduleIn plan.timed now task (plan.agenda, plan.ledger) with
      | error refusal =>
          rw [scheduled] at accepted
          cases accepted
      | ok state =>
          rw [scheduled] at accepted
          exact ⟨state, rfl, (Except.ok.inj accepted).symm⟩

/-- Somebody asks for a timer. -/
theorem Keeps.schedule (keeps : Keeps inside log clocked) (task : Task) {usedInside : Bool}
    (moved : move? inside clocked (.schedule task usedInside) = some after) :
    Keeps inside (log ++ events inside clocked (.schedule task usedInside)) after := by
  simp only [move?] at moved
  cases submitted : clocked.world.submit (inside || usedInside) clocked.now task with
  | error refusal =>
      rw [submitted] at moved
      obtain rfl := Option.some.inj moved
      obtain ⟨happens, reason⟩ := outcome_of_refused submitted
      have closes : clocked.world.agenda.closed = true ↔ Event.closed ∈ log :=
        keeps.reflects.closed
      have may : (Event.refused clocked.now task refusal).MayFollow inside log := by
        rcases reason with ⟨isClosed, rfl⟩ | ⟨isOpen, rfl, unhosted⟩
        · exact .inl ⟨closes.mp isClosed, rfl⟩
        · refine .inr ⟨fun wasClosed => ?_, rfl, (Bool.or_eq_false_iff.mp unhosted).1⟩
          cases isOpen.symm.trans (closes.mpr wasClosed)
      rw [events, happens]
      refine ⟨keeps.reflects.quiet may rfl rfl rfl rfl rfl rfl ?_ rfl, keeps.timed,
        keeps.unstarted, keeps.timers⟩
      exact closes.trans (by simp)
  | ok plan =>
      rw [submitted] at moved
      obtain rfl := Option.some.inj moved
      obtain ⟨happens, state, scheduled, rfl⟩ := outcome_of_accepted submitted
      rw [events, happens]
      refine keeps_launch (keeps.reflects.accept scheduled) keeps.timed fun entry present => ?_
      rw [keeps.timed] at scheduled
      exact ((starts_scheduleIn scheduled).starts entry present).imp_left (keeps.timers entry)

theorem starting_cancelIn (name : String) (state : Agenda Task × Ledger) :
    (cancelIn name state).2.starting = state.2.starting := by
  obtain ⟨agenda, ledger⟩ := state
  simp only [cancelIn]
  split <;> rfl

/-- Somebody cancels a task, if its handle is held. -/
theorem Keeps.cancel (keeps : Keeps inside log clocked) (name : String) :
    Keeps inside (log ++ events inside clocked (.cancel name))
      { clocked with world := clocked.world.cancel name } := by
  have starts := starts_cancelIn (clocked.world.agenda, clocked.world.ledger) name
  have unstarted := (starting_cancelIn name (clocked.world.agenda, clocked.world.ledger)).trans
    keeps.unstarted
  refine ⟨keeps.reflects.foldl_cancelIn [name], keeps.timed, unstarted, fun entry present => ?_⟩
  rcases starts.starts entry present with old | new
  · exact keeps.timers entry old
  · rw [unstarted] at new
    cases new

/-- Whoever wakes up is ready. -/
theorem Keeps.rouse {index position : Nat} (keeps : Keeps inside log clocked)
    (roused : clocked.rouseTo index position = some after) : Keeps inside log after := by
  unfold Timeline.rouseTo at roused
  split at roused
  · cases roused
  · next sleeper found =>
      split at roused
      · next allowed =>
          obtain rfl := Option.some.inj roused
          refine ⟨keeps.reflects, keeps.timed, keeps.unstarted, fun entry present => ?_⟩
          have isReady : sleeper.activity ∈
              clocked.ready.insertIdx position sleeper.activity :=
            (List.mem_insertIdx allowed.2).mpr (.inl rfl)
          rcases keeps.timers entry present with ⟨foreground, ready⟩ | ⟨foreground, asleep⟩
          · exact .inl ⟨foreground, (List.mem_insertIdx allowed.2).mpr (.inr ready)⟩
          · by_cases same : (⟨Time.wake entry.due, ⟨[entry.ticket], foreground⟩⟩ : Sleeper Nat) =
                sleeper
            · exact .inl ⟨foreground, same ▸ isReady⟩
            · exact .inr ⟨foreground, mem_eraseIdx_of_ne found asleep same⟩
      · cases roused

theorem Keeps.move {move : Move} (keeps : Keeps inside log clocked)
    (moved : move? inside clocked move = some after) :
    Keeps inside (log ++ events inside clocked move) after := by
  cases move with
  | schedule task usedInside => exact keeps.schedule task moved
  | cancel name =>
      obtain rfl := Option.some.inj moved
      exact keeps.cancel name
  | release name =>
      obtain rfl := Option.some.inj moved
      rw [events, List.append_nil]
      exact ⟨keeps.reflects.release name, keeps.timed, keeps.unstarted, keeps.timers⟩
  | close =>
      obtain rfl := Option.some.inj moved
      exact ⟨keeps.reflects.close, keeps.timed, keeps.unstarted, keeps.timers⟩
  | step index => exact keeps.step moved
  | rouse index position =>
      rw [events, List.append_nil]
      exact keeps.rouse moved
  | wait instant =>
      simp only [move?] at moved
      split at moved
      · next later =>
          obtain rfl := Option.some.inj moved
          rw [events, List.append_nil]
          exact ⟨keeps.reflects.wait later, keeps.timed, keeps.unstarted, keeps.timers⟩
      · cases moved

theorem History.keeps (history : History inside allowed log clocked) :
    Keeps inside log clocked := by
  induction history with
  | start => exact keeps_start inside
  | extend _ _ moved inductionHypothesis => exact inductionHypothesis.move moved

end Redelivery.Schedule.Plan
