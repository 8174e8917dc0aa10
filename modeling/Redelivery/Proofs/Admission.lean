import Redelivery.Proofs.Tasks

/-!
# A pool and its tasks

Permits are given in the order in which the tasks ask for them, no more than the pool has, and a
task waits only while all of them are held.  This balance between the pool, the programs and what
has happened so far is kept by every step, whether or not it is a turn of such a task.
-/

namespace Redelivery.Service

/-! ## The balance -/

/-- A pool serves its tasks: permits were given in the order of submission, those that are not
back yet are held by tasks, and tasks wait only while there is no other one. -/
structure Serves (service : Service) (pool : Nat) (events : List PoolEvent)
    (state : Executor.Pool Program) : Prop where
  found : service.world.pools[pool]? = some state
  unstarted : service.world.starting = []
  tasks : ∀ program ∈ service.running, Task pool program
  resting : ∀ sleeper ∈ service.asleep, asking? pool sleeper.activity.program = none ∧
    admitted? pool sleeper.activity.program = none
  waits : ∀ program ∈ state.waiting, ∃ job, program = [.send job, .release pool]
  others : service.world.IsApartFrom pool
  order : submittedIn events =
    admittedIn events ++ state.waiting.filterMap firstJob? ++ service.asking pool
  held : (admittedIn events).length = endedIn events + state.running
  lent : dues pool service.running = state.running
  bounded : state.running ≤ state.capacity
  full : state.waiting ≠ [] → state.running = state.capacity
  starts : (startedIn events : Multiset Job) + service.running.filterMap (admitted? pool) =
    admittedIn events

variable {service after : Service} {pool : Nat} {events : List PoolEvent}
  {state : Executor.Pool Program}

theorem events_submitted (asked : List Job) :
    submittedIn (asked.map .submitted) = asked ∧ admittedIn (asked.map .submitted) = [] ∧
      startedIn (asked.map .submitted) = [] ∧ endedIn (asked.map .submitted) = 0 := by
  induction asked with
  | nil => exact ⟨rfl, rfl, rfl, rfl⟩
  | cons job rest inductionHypothesis =>
      obtain ⟨submitted, admitted, started, ended⟩ := inductionHypothesis
      exact ⟨congrArg (job :: ·) submitted, admitted, started, ended⟩

theorem events_started (jobs : List Job) :
    submittedIn (jobs.map .started) = [] ∧ admittedIn (jobs.map .started) = [] ∧
      startedIn (jobs.map .started) = jobs ∧ endedIn (jobs.map .started) = 0 := by
  induction jobs with
  | nil => exact ⟨rfl, rfl, rfl, rfl⟩
  | cons job rest inductionHypothesis =>
      obtain ⟨submitted, admitted, started, ended⟩ := inductionHypothesis
      exact ⟨submitted, admitted, congrArg (job :: ·) started, ended⟩

/-- Programs that have nothing to do with a pool may go on, and tasks may begin. -/
theorem Serves.pass (serves : service.Serves pool events state) {gone more kept : Multiset Program}
    {asked : List Job} (found : after.world.pools[pool]? = some state)
    (unstarted : after.world.starting = []) (others : after.world.IsApartFrom pool)
    (before : service.running = gone + kept) (now : after.running = more + kept)
    (apart : ∀ program ∈ gone, IsApartFrom pool program)
    (areNew : ∀ program ∈ more, IsNewTo pool program)
    (asking : after.asking pool = service.asking pool ++ asked)
    (asleep : ∀ sleeper ∈ after.asleep, sleeper ∈ service.asleep ∨
      IsApartFrom pool sleeper.activity.program) :
    after.Serves pool (events ++ asked.map .submitted) state := by
  obtain ⟨submitted, admitted, started, ended⟩ := events_submitted asked
  have goneNew : ∀ program ∈ gone, IsNewTo pool program :=
    fun program present => .inl (apart program present)
  constructor
  case found => exact found
  case unstarted => exact unstarted
  case tasks =>
    intro program present
    rw [now] at present
    rcases Multiset.mem_add.mp present with isNew | old
    · exact (areNew program isNew).task
    · exact serves.tasks program (before ▸ Multiset.mem_add.mpr (.inr old))
  case resting =>
    intro sleeper present
    rcases asleep sleeper present with old | isApart
    · exact serves.resting sleeper old
    · exact ⟨isApart.asking?_eq_none, isApart.admitted?_eq_none⟩
  case waits => exact serves.waits
  case others => exact others
  case order =>
    rw [submittedIn_append, admittedIn_append, submitted, admitted, serves.order, asking]
    simp only [List.append_assoc, List.nil_append]
  case held =>
    rw [admittedIn_append, endedIn_append, admitted, ended, List.append_nil, serves.held]
    rfl
  case lent =>
    rw [now, dues_add, dues_of_new areNew, ← serves.lent, before, dues_add, dues_of_new goneNew]
  case bounded => exact serves.bounded
  case full => exact serves.full
  case starts =>
    have same := serves.starts
    rw [before, Multiset.filterMap_add, filterMap_admitted?_of_new goneNew] at same
    rw [startedIn_append, admittedIn_append, started, admitted, List.append_nil, List.append_nil,
      now, Multiset.filterMap_add, filterMap_admitted?_of_new areNew]
    exact same

/-! ## The turns of a task -/

variable {instruction : Instruction} {rest : Program} {others : Service}

/-- A program that has nothing to do with the pool has its turn. -/
theorem Serves.turn_apart (serves : service.Serves pool events state)
    (steps : service.Steps pool instruction rest others after)
    (apart : IsApartFrom pool (instruction :: rest))
    (sameAsking : others.asking pool = service.asking pool) :
    after.Serves pool (events ++ instruction.poolEvents pool service.world.pools rest) state := by
  have othersApart : others.world.IsApartFrom pool := steps.sameWorld ▸ serves.others
  have unstarted : others.world.starting = [] := steps.sameWorld ▸ serves.unstarted
  obtain ⟨areNew, asked, starting, happened⟩ := starting_perform unstarted othersApart apart
  obtain ⟨samePool, stillApart⟩ := pools_perform othersApart apart
  have goes := isApartFrom_perform others apart
  rw [steps.sameWorld] at happened samePool
  rw [happened]
  have before : service.running = {instruction :: rest} + others.running := by
    rw [steps.before, Multiset.singleton_add]
  have now : after.running = ((perform instruction rest others).2.programs +
      (perform instruction rest others).1.world.starting) + others.running := by
    rw [steps.running, add_assoc]
  refine serves.pass ?found ?unstarted ?others before now ?apart ?areNew ?asking ?asleep
  case found =>
    rw [steps.world]
    exact samePool.trans serves.found
  case unstarted => rw [steps.world]
  case others =>
    rw [steps.world]
    exact stillApart
  case apart => exact isApartFrom_of_mem_singleton apart rfl
  case areNew =>
    intro program present
    rcases Multiset.mem_add.mp present with goesOn | starts
    · exact .inl (goes program goesOn)
    · exact areNew program starts
  case asking =>
    rw [steps.asking fun program present => (goes program present).asking?_eq_none, sameAsking,
      starting]
  case asleep =>
    intro sleeper asleep
    refine (steps.asleep sleeper asleep).imp_right ?_
    rintro ⟨instant, waits⟩
    refine goes _ ?_
    rw [waits]
    exact Multiset.mem_singleton_self _

/-- A task of the pool has its turn: the pool changes, and the task goes on with other programs
that keep the balance. -/
theorem Serves.turn (serves : service.Serves pool events state)
    (steps : service.Steps pool instruction rest others after)
    {changed : Executor.Pool Program} {happened : List PoolEvent} (begun : Multiset Program)
    (goes : (perform instruction rest others).2.programs +
      (perform instruction rest others).1.world.starting = begun)
    (asking : after.asking pool = others.asking pool)
    (found : (perform instruction rest others).1.world.pools[pool]? = some changed)
    (stillApart : (perform instruction rest others).1.world.IsApartFrom pool)
    (tasks : ∀ program ∈ begun, Task pool program)
    (resting : ∀ instant next, (perform instruction rest others).2 = .sleepUntil instant next →
      asking? pool next = none ∧ admitted? pool next = none)
    (waits : ∀ program ∈ changed.waiting, ∃ job, program = [.send job, .release pool])
    (noneNew : submittedIn happened = [])
    (queue : admittedIn happened ++ changed.waiting.filterMap firstJob? ++ others.asking pool =
      state.waiting.filterMap firstJob? ++ service.asking pool)
    (held : (admittedIn happened).length + state.running = endedIn happened + changed.running)
    (lent : dues pool begun + state.running =
      changed.running + if owes pool (instruction :: rest) then 1 else 0)
    (bounded : changed.running ≤ changed.capacity)
    (full : changed.waiting ≠ [] → changed.running = changed.capacity)
    (starts : (startedIn happened : Multiset Job) + begun.filterMap (admitted? pool) =
      admittedIn happened + (admitted? pool (instruction :: rest)).toList) :
    after.Serves pool (events ++ happened) changed := by
  have running : after.running = begun + others.running := by
    rw [steps.running, ← goes, add_assoc]
  constructor
  case found =>
    rw [steps.world]
    exact found
  case unstarted => rw [steps.world]
  case tasks =>
    intro program present
    rw [running] at present
    rcases Multiset.mem_add.mp present with new | old
    · exact tasks program new
    · exact serves.tasks program (steps.before ▸ Multiset.mem_cons_of_mem old)
  case resting =>
    intro sleeper present
    rcases steps.asleep sleeper present with old | ⟨instant, isNew⟩
    · exact serves.resting sleeper old
    · exact resting instant _ isNew
  case waits => exact waits
  case others =>
    rw [steps.world]
    exact stillApart
  case order =>
    rw [submittedIn_append, admittedIn_append, noneNew, List.append_nil, serves.order, asking]
    simp only [List.append_assoc] at queue ⊢
    rw [queue]
  case held =>
    rw [admittedIn_append, endedIn_append, List.length_append, serves.held]
    omega
  case lent =>
    have before := serves.lent
    rw [steps.before, dues_cons] at before
    rw [running, dues_add]
    omega
  case bounded => exact bounded
  case full => exact full
  case starts =>
    have before := serves.starts
    rw [steps.before, ← Multiset.singleton_add, Multiset.filterMap_add,
      filterMap_admitted?_singleton] at before
    rw [startedIn_append, admittedIn_append, ← Multiset.coe_add, ← Multiset.coe_add, running,
      Multiset.filterMap_add, ← before, add_assoc, ← add_assoc (startedIn happened : Multiset Job),
      starts]
    abel

/-- A task changes the pool, and goes on or lets another one begin, neither of which is to ask for
a permit. -/
theorem Serves.turn_pool (serves : service.Serves pool events state)
    (steps : service.Steps pool instruction rest others after)
    {changed : Executor.Pool Program} {happened : List PoolEvent} {begins : List Program}
    {pace : Pace Instruction}
    (performs : perform instruction rest others =
      ({ others with world := { service.world with
          pools := service.world.pools.set pool changed
          starting := begins } }, pace))
    (awake : ∀ instant next, pace ≠ .sleepUntil instant next)
    (tasks : ∀ program ∈ pace.programs + begins,
      Task pool program ∧ asking? pool program = none)
    (waits : ∀ program ∈ changed.waiting, ∃ job, program = [.send job, .release pool])
    (noneNew : submittedIn happened = [])
    (queue : admittedIn happened ++ changed.waiting.filterMap firstJob? ++ others.asking pool =
      state.waiting.filterMap firstJob? ++ service.asking pool)
    (held : (admittedIn happened).length + state.running = endedIn happened + changed.running)
    (lent : dues pool (pace.programs + begins) + state.running =
      changed.running + if owes pool (instruction :: rest) then 1 else 0)
    (bounded : changed.running ≤ changed.capacity)
    (full : changed.waiting ≠ [] → changed.running = changed.capacity)
    (starts : (startedIn happened : Multiset Job) +
        (pace.programs + begins).filterMap (admitted? pool) =
      admittedIn happened + (admitted? pool (instruction :: rest)).toList) :
    after.Serves pool (events ++ happened) changed := by
  obtain ⟨inside, _⟩ := List.getElem?_eq_some_iff.mp serves.found
  have asks := steps.asking
  rw [performs] at asks
  apply serves.turn steps (pace.programs + begins)
  case goes => rw [performs]
  case asking =>
    rw [asks fun program present => (tasks program (Multiset.mem_add.mpr (.inl present))).2]
    have noneAsks : begins.filterMap (asking? pool) = [] :=
      List.filterMap_eq_nil_iff.mpr fun program present =>
        (tasks program (Multiset.mem_add.mpr (.inr present))).2
    exact (congrArg _ noneAsks).trans (List.append_nil _)
  case found =>
    rw [performs]
    exact List.getElem?_set_self inside
  case stillApart =>
    rw [performs]
    exact serves.others.congr fun other different => List.getElem?_set_ne different.symm
  case tasks => exact fun program present => (tasks program present).1
  case resting =>
    intro instant next sleeps
    rw [performs] at sleeps
    exact (awake instant next sleeps).elim
  case waits => exact waits
  case noneNew => exact noneNew
  case queue => exact queue
  case held => exact held
  case lent => exact lent
  case bounded => exact bounded
  case full => exact full
  case starts => exact starts

/-- What asking for a permit does to the pool. -/
theorem Serves.perform_acquire (serves : service.Serves pool events state)
    (steps : service.Steps pool (.acquire pool) rest others after) :
    perform (.acquire pool) rest others =
      ({ others with world := { service.world with
          pools := service.world.pools.set pool (state.request rest).1
          starting := [] } },
        if (state.request rest).2 = true then .onward rest else .retire) := by
  simp only [perform, acquire, steps.sameWorld, Executor.Pool.requestAt, serves.found,
    ← serves.unstarted]

/-- A task that asks while a permit is free gets it. -/
theorem Serves.turn_granted {job : Job} (serves : service.Serves pool events state)
    (steps : service.Steps pool (.acquire pool) [.send job, .release pool] others after)
    (first : service.asking pool = job :: others.asking pool)
    (free : state.running < state.capacity) :
    after.Serves pool (events ++ [.admitted job]) { state with running := state.running + 1 } := by
  let rest : Program := [.send job, .release pool]
  have noneWaits : state.waiting = [] := by
    by_contra waits
    exact Nat.ne_of_lt free (serves.full waits)
  have grants : state.request rest = ({ state with running := state.running + 1 }, true) :=
    if_pos free
  have isJob : admitted? pool rest = some job := if_pos rfl
  have owesHere : owes pool rest = true := decide_eq_true rfl
  have owesNothing : owes pool (.acquire pool :: rest) = false := rfl
  have performs := serves.perform_acquire steps
  rw [grants, if_pos rfl] at performs
  apply serves.turn_pool steps performs
  case awake =>
    intro instant next sleeps
    cases sleeps
  case tasks =>
    intro program present
    obtain rfl := Multiset.mem_singleton.mp ((add_zero ({rest} : Multiset Program)) ▸ present)
    exact ⟨.admitted job, rfl⟩
  case waits => exact serves.waits
  case noneNew => rfl
  case queue =>
    rw [first, noneWaits]
    rfl
  case held =>
    change 1 + state.running = 0 + (state.running + 1)
    omega
  case lent =>
    change dues pool ({rest} + 0) + state.running = _
    rw [add_zero, dues_singleton, owesHere, owesNothing]
    exact Nat.add_comm 1 _
  case bounded => exact free
  case full => exact fun waits => absurd noneWaits waits
  case starts =>
    change (0 : Multiset Job) + ({rest} + 0 : Multiset Program).filterMap (admitted? pool) = _
    rw [add_zero, filterMap_admitted?_singleton, isJob]
    rfl

/-- A task that asks while all permits are held waits behind the others. -/
theorem Serves.turn_queued {job : Job} (serves : service.Serves pool events state)
    (steps : service.Steps pool (.acquire pool) [.send job, .release pool] others after)
    (first : service.asking pool = job :: others.asking pool)
    (noneFree : ¬ state.running < state.capacity) :
    after.Serves pool (events ++ [])
      { state with waiting := state.waiting ++ [[.send job, .release pool]] } := by
  let rest : Program := [.send job, .release pool]
  have waits : state.request rest = ({ state with waiting := state.waiting ++ [rest] }, false) :=
    if_neg noneFree
  have owesNothing : owes pool (.acquire pool :: rest) = false := rfl
  have performs := serves.perform_acquire steps
  rw [waits, if_neg Bool.false_ne_true] at performs
  apply serves.turn_pool steps performs
  case awake =>
    intro instant next sleeps
    cases sleeps
  case tasks => exact fun program present => absurd present (Multiset.notMem_zero _)
  case waits =>
    intro program present
    rcases List.mem_append.mp present with old | new
    · exact serves.waits program old
    · exact ⟨job, List.mem_singleton.mp new⟩
  case noneNew => rfl
  case queue =>
    rw [first, List.filterMap_append]
    simp only [List.append_assoc]
    rfl
  case held => rfl
  case lent =>
    rw [owesNothing]
    exact Nat.zero_add _
  case bounded => exact serves.bounded
  case full => exact fun _ => Nat.le_antisymm serves.bounded (Nat.le_of_not_lt noneFree)
  case starts => rfl

/-- A task asks for its permit, and gets it or waits for it. -/
theorem Serves.turn_asking {job : Job} (serves : service.Serves pool events state)
    (steps : service.Steps pool (.acquire pool) [.send job, .release pool] others after)
    (first : service.asking pool = job :: others.asking pool) :
    ∃ changed, changed.capacity = state.capacity ∧
      after.Serves pool (events ++ (Instruction.acquire pool).poolEvents pool service.world.pools
        [.send job, .release pool]) changed := by
  have happens : (Instruction.acquire pool).poolEvents pool service.world.pools
        [.send job, .release pool] =
      if state.running < state.capacity then [.admitted job] else [] := by
    simp only [Instruction.poolEvents, Executor.Pool.requestAt, serves.found, true_and,
      Executor.Pool.request]
    split <;> rfl
  rw [happens]
  split
  · next free => exact ⟨_, by rfl, serves.turn_granted steps first free⟩
  · next noneFree => exact ⟨_, by rfl, serves.turn_queued steps first noneFree⟩

/-- A task that has a permit goes on with its job, and keeps the permit. -/
theorem Serves.turn_holding {program : Program} (serves : service.Serves pool events state)
    (steps : service.Steps pool instruction rest others after)
    (about : instruction.isAboutPermits = false)
    (owed : owes pool (instruction :: rest) = true)
    (sameAsking : others.asking pool = service.asking pool)
    (goes : (perform instruction rest others).2.programs = {program})
    (holds : program = [.release pool] ∨
      ∃ job failure, program = [.conclude job failure, .release pool]) :
    after.Serves pool
      (events ++ (admitted? pool (instruction :: rest)).toList.map .started) state := by
  have unstarted : others.world.starting = [] := steps.sameWorld ▸ serves.unstarted
  have othersApart : others.world.IsApartFrom pool := steps.sameWorld ▸ serves.others
  have leaves := leavesPools_perform others rest about
  obtain ⟨areNew, noneAsks⟩ :=
    @isNewTo_of_rings pool _ (rings_of_leavesPools leaves unstarted)
  have task : Task pool program ∧ asking? pool program = none ∧ admitted? pool program = none ∧
      owes pool program = true := by
    rcases holds with rfl | ⟨job, failure, rfl⟩
    · exact ⟨.leaving, rfl, rfl, decide_eq_true rfl⟩
    · exact ⟨.underWay job failure, rfl, rfl, decide_eq_true rfl⟩
  obtain ⟨isTask, silent, hasStarted, owes⟩ := task
  obtain ⟨submitted, admitted, started, ended⟩ :=
    events_started (admitted? pool (instruction :: rest)).toList
  have startsNew : ∀ other ∈ ((perform instruction rest others).1.world.starting :
      Multiset Program), IsNewTo pool other := areNew
  apply serves.turn steps ({program} +
    ((perform instruction rest others).1.world.starting : Multiset Program))
  case goes => rw [goes]
  case asking =>
    rw [steps.asking, noneAsks, List.append_nil]
    intro other present
    rw [goes] at present
    rw [Multiset.mem_singleton.mp present, silent]
  case found =>
    rw [leaves.pools, steps.sameWorld]
    exact serves.found
  case stillApart => exact othersApart.congr fun _ _ => by rw [leaves.pools]
  case tasks =>
    intro other present
    rcases Multiset.mem_add.mp present with isHere | starts
    · rw [Multiset.mem_singleton.mp isHere]
      exact isTask
    · exact (startsNew other starts).task
  case resting =>
    intro instant next sleeps
    rw [sleeps] at goes
    obtain rfl := Multiset.singleton_inj.mp goes
    exact ⟨silent, hasStarted⟩
  case waits => exact serves.waits
  case noneNew => exact submitted
  case queue =>
    rw [admitted, sameAsking]
    rfl
  case held =>
    rw [admitted, ended]
    rfl
  case lent =>
    rw [dues_add, dues_singleton, dues_of_new startsNew, owes, owed, if_pos rfl]
    omega
  case bounded => exact serves.bounded
  case full => exact serves.full
  case starts =>
    rw [started, admitted, Multiset.filterMap_add, filterMap_admitted?_singleton, hasStarted,
      filterMap_admitted?_of_new startsNew]
    simp

/-- What giving a permit back does to the pool. -/
theorem Serves.perform_release (serves : service.Serves pool events state)
    (steps : service.Steps pool (.release pool) [] others after) :
    perform (.release pool) [] others =
      ({ others with world := { service.world with
          pools := service.world.pools.set pool state.release.1
          starting := state.release.2.toList } }, .onward []) := by
  simp only [perform, release, proceed, steps.sameWorld, Executor.Pool.releaseAt, serves.found]
  cases state.release.2 with
  | none => simp only [Option.elim_none, Option.toList_none, ← serves.unstarted]
  | some heir =>
      simp only [Option.elim_some, Registry.start, serves.unstarted, List.nil_append,
        Option.toList_some]

/-- Nothing is left to do for a task that has given its permit back. -/
theorem isDone_nil (pool : Nat) : Task pool [] ∧ asking? pool [] = none ∧
    admitted? pool [] = none ∧ owes pool [] = false := by
  have nothing : IsApartFrom pool [] := fun _ present => absurd present List.not_mem_nil
  exact ⟨.apart nothing, rfl, nothing.admitted?_eq_none, nothing.owes_eq_false⟩

/-- A permit that comes back while nobody waits is free. -/
theorem Serves.turn_vacating (serves : service.Serves pool events state)
    (steps : service.Steps pool (.release pool) [] others after)
    (sameAsking : others.asking pool = service.asking pool) (nobody : state.waiting = []) :
    after.Serves pool (events ++ [.ended]) { state with running := state.running - 1 } := by
  obtain ⟨isTask, silent, _, owesNothing⟩ := isDone_nil pool
  have owed : owes pool [.release pool] = true := decide_eq_true rfl
  have lent := serves.lent
  rw [steps.before, dues_cons, owed, if_pos rfl] at lent
  have released : state.release = ({ state with running := state.running - 1 }, none) := by
    simp only [Executor.Pool.release, nobody]
  have performs := serves.perform_release steps
  rw [released] at performs
  apply serves.turn_pool steps performs
  case awake =>
    intro instant next sleeps
    cases sleeps
  case tasks =>
    intro program present
    obtain rfl := Multiset.mem_singleton.mp ((add_zero ({[]} : Multiset Program)) ▸ present)
    exact ⟨isTask, silent⟩
  case waits => exact serves.waits
  case noneNew => rfl
  case queue =>
    rw [sameAsking]
    rfl
  case held =>
    change 0 + state.running = 1 + (state.running - 1)
    omega
  case lent =>
    change dues pool ({[]} + 0) + state.running = _
    rw [add_zero, dues_singleton, owesNothing, owed]
    simp only [Bool.false_eq_true, if_false, if_true]
    omega
  case bounded => exact (Nat.sub_le _ _).trans serves.bounded
  case full => exact fun waits => absurd nobody waits
  case starts => rfl

/-- A permit that comes back while tasks wait goes to the first one of them. -/
theorem Serves.turn_inherited {job : Job} {tail : List Program}
    (serves : service.Serves pool events state)
    (steps : service.Steps pool (.release pool) [] others after)
    (sameAsking : others.asking pool = service.asking pool)
    (isWaiting : state.waiting = [.send job, .release pool] :: tail) :
    after.Serves pool (events ++ [.ended, .admitted job]) { state with waiting := tail } := by
  let heir : Program := [.send job, .release pool]
  obtain ⟨isTask, silent, hasStarted, owesNothing⟩ := isDone_nil pool
  have owed : owes pool [.release pool] = true := decide_eq_true rfl
  have isJob : admitted? pool heir = some job := if_pos rfl
  have owesHere : owes pool heir = true := decide_eq_true rfl
  have released : state.release = ({ state with waiting := tail }, some heir) := by
    simp only [Executor.Pool.release, isWaiting]
    rfl
  have performs := serves.perform_release steps
  rw [released] at performs
  apply serves.turn_pool steps performs
  case awake =>
    intro instant next sleeps
    cases sleeps
  case tasks =>
    intro program present
    rcases Multiset.mem_add.mp present with isEnd | isHeir
    · obtain rfl := Multiset.mem_singleton.mp isEnd
      exact ⟨isTask, silent⟩
    · obtain rfl := List.mem_singleton.mp (Multiset.mem_coe.mp isHeir)
      exact ⟨.admitted job, rfl⟩
  case waits =>
    exact fun program present => serves.waits program
      (isWaiting ▸ List.mem_cons_of_mem _ present)
  case noneNew => rfl
  case queue =>
    rw [sameAsking, isWaiting]
    rfl
  case held => rfl
  case lent =>
    change dues pool ({[]} + {heir}) + state.running = _
    rw [dues_add, dues_singleton, dues_singleton, owesNothing, owesHere, owed]
    simp only [Bool.false_eq_true, if_false, if_true]
    omega
  case bounded => exact serves.bounded
  case full => exact fun _ => serves.full (isWaiting ▸ List.cons_ne_nil _ _)
  case starts =>
    change (0 : Multiset Job) + ({[]} + {heir} : Multiset Program).filterMap (admitted? pool) = _
    rw [Multiset.filterMap_add, filterMap_admitted?_singleton, filterMap_admitted?_singleton,
      hasStarted, isJob]
    rfl

/-- A task gives its permit back at its end, to the first one that waits if there is one. -/
theorem Serves.turn_leaving (serves : service.Serves pool events state)
    (steps : service.Steps pool (.release pool) [] others after)
    (sameAsking : others.asking pool = service.asking pool) :
    ∃ changed, changed.capacity = state.capacity ∧
      after.Serves pool
        (events ++ (Instruction.release pool).poolEvents pool service.world.pools []) changed := by
  have happens : (Instruction.release pool).poolEvents pool service.world.pools [] =
      .ended :: (state.release.2.bind firstJob?).toList.map .admitted := by
    simp only [Instruction.poolEvents, Executor.Pool.releaseAt, serves.found, if_true]
  rw [happens]
  cases isWaiting : state.waiting with
  | nil =>
      have noHeir : state.release.2 = none := by simp only [Executor.Pool.release, isWaiting]
      rw [noHeir]
      exact ⟨_, by rfl, serves.turn_vacating steps sameAsking isWaiting⟩
  | cons heir tail =>
      obtain ⟨job, rfl⟩ := serves.waits heir (isWaiting ▸ List.mem_cons_self)
      have isHeir : state.release.2 = some [.send job, .release pool] := by
        simp only [Executor.Pool.release, isWaiting]
      rw [isHeir]
      exact ⟨_, by rfl, serves.turn_inherited steps sameAsking isWaiting⟩

/-- Any step, in which nobody asks for a permit out of turn. -/
theorem Serves.step {index : Nat} (serves : service.Serves pool events state)
    (stepped : service.stepAt behave index = some after)
    (inTurn : service.asksInTurn pool (.step index) = true) :
    ∃ changed, changed.capacity = state.capacity ∧
      after.Serves pool (events ++ service.poolEvents pool (.step index)) changed := by
  obtain ⟨⟨program, foreground⟩, found, others, isOthers, went⟩ := exists_steps stepped pool
  have sameAsking (silent : asking? pool program = none) :
      others.asking pool = service.asking pool := by
    rw [isOthers]
    exact filterMap_eraseIdx_of_none found silent
  rcases went with ⟨ended, rfl, before⟩ | ⟨instruction, rest, isHere, steps⟩
  · have nothing : program = [] := ended
    have noEvents : service.poolEvents pool (.step index) = ([] : List Job).map .submitted := by
      simp [poolEvents, found, nothing]
    rw [noEvents]
    have apart : ∀ program ∈ ({[]} : Multiset Program), IsApartFrom pool program :=
      isApartFrom_of_mem_singleton (fun _ present => absurd present List.not_mem_nil) rfl
    have now : after.running = 0 + after.running := (zero_add _).symm
    rw [← Multiset.singleton_add] at before
    refine ⟨state, rfl, serves.pass ?found ?unstarted ?others before now apart ?areNew ?asking
      ?asleep⟩
    case found => rw [isOthers]; exact serves.found
    case unstarted => rw [isOthers]; exact serves.unstarted
    case others => rw [isOthers]; exact serves.others
    case areNew => exact fun _ present => absurd present (Multiset.notMem_zero _)
    case asking =>
      rw [List.append_nil]
      exact sameAsking (nothing ▸ rfl)
    case asleep =>
      intro sleeper present
      rw [isOthers] at present
      exact .inl present
  · obtain rfl : program = instruction :: rest := isHere
    have happens : service.poolEvents pool (.step index) =
        instruction.poolEvents pool service.world.pools rest := by
      simp only [poolEvents, found]
    rw [happens]
    have present : instruction :: rest ∈ service.running :=
      steps.before ▸ Multiset.mem_cons_self _ _
    cases serves.tasks _ present with
    | apart apart =>
        exact ⟨state, rfl, serves.turn_apart steps apart (sameAsking apart.asking?_eq_none)⟩
    | asking job =>
        refine serves.turn_asking steps ?_
        rw [isOthers]
        refine filterMap_of_first found (if_pos rfl) fun other among => ?_
        have isAsking : asking? pool [.acquire pool, .send job, .release pool] = some job :=
          if_pos rfl
        have allSilent : ((service.ready.take index).all fun activity =>
            (asking? pool activity.program).isNone) = true := by
          simpa [asksInTurn, found, isAsking] using inTurn
        exact Option.isNone_iff_eq_none.mp (List.all_eq_true.mp allSilent other among)
    | admitted job =>
        have owed : owes pool [.send job, .release pool] = true := decide_eq_true rfl
        rcases pace_send others job [.release pool] with goes | ⟨failure, goes⟩
        · exact ⟨state, rfl, serves.turn_holding steps rfl owed (sameAsking rfl) goes (.inl rfl)⟩
        · exact ⟨state, rfl, serves.turn_holding steps rfl owed (sameAsking rfl) goes
            (.inr ⟨job, failure, rfl⟩)⟩
    | underWay job failure =>
        have owed : owes pool [.conclude job failure, .release pool] = true := decide_eq_true rfl
        exact ⟨state, rfl, serves.turn_holding steps rfl owed (sameAsking rfl) rfl (.inl rfl)⟩
    | leaving => exact serves.turn_leaving steps (sameAsking rfl)

end Redelivery.Service
