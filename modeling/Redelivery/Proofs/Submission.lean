import Redelivery.Proofs.Admission
import Redelivery.Proofs.Answers
import Redelivery.Proofs.Timetable

/-!
# In the order of submission

Permits are given in the order in which the jobs were submitted to a pool.  A job starts when its
task has its next turn after that.  So a job that got its permit at once may start before one that
was given its permit earlier, while it was waiting.
-/

namespace Redelivery

namespace Service

variable {service after : Service} {pool : Nat} {events : List PoolEvent}
  {state : Executor.Pool Program}

/-! ## Commands -/

/-- New executors bring pools in which nobody waits, behind those that there are. -/
theorem pools_setExecutors (registry : Registry) (executors : List (String × Option Nat)) :
    (registry.setExecutors executors).starting = registry.starting ∧
      ∃ more, (registry.setExecutors executors).pools = registry.pools ++ more ∧
        ∀ other ∈ more, other.waiting = [] := by
  unfold Registry.setExecutors
  refine List.foldlRecOn (motive := fun changed : Registry =>
    changed.starting = registry.starting ∧ ∃ more, changed.pools = registry.pools ++ more ∧
      ∀ other ∈ more, other.waiting = [])
    executors _ ⟨rfl, [], (List.append_nil _).symm, fun _ present => absurd present
      List.not_mem_nil⟩ fun former kept executor _ => ?_
  obtain ⟨sameStarting, more, extended, idle⟩ := kept
  rcases executor with ⟨owner, _ | size⟩
  · exact ⟨sameStarting, more, extended, idle⟩
  · refine ⟨sameStarting, more ++ [.ofSize size], ?_, fun other present => ?_⟩
    · simp only [extended, List.append_assoc]
    · rcases List.mem_append.mp present with old | new
      · exact idle other old
      · rw [List.mem_singleton.mp new]
        rfl

/-- A change of the registry that leaves the pool alone and starts timers at most. -/
theorem Serves.change (serves : service.Serves pool events state)
    (operation : Registry → Registry)
    (samePool : (operation service.world).pools[pool]? = service.world.pools[pool]?)
    (stillApart : (operation service.world).IsApartFrom pool)
    (rings : ∀ program ∈ (operation service.world).starting, isRing program = true) :
    (service.change operation).Serves pool events state := by
  obtain ⟨areNew, noneAsks⟩ := @isNewTo_of_rings pool _ rings
  have before : service.running = 0 + service.running := (zero_add _).symm
  have now : (service.change operation).running =
      ((operation service.world).starting : Multiset Program) + service.running :=
    running_launch _
  have goesOn : (service.change operation).Serves pool
      (events ++ ([] : List Job).map .submitted) state := by
    refine serves.pass ?found ?unstarted ?others before now ?apart areNew ?asking ?asleep
    case found =>
      rw [Service.change, world_launch]
      exact samePool.trans serves.found
    case unstarted => rw [Service.change, world_launch]
    case others =>
      rw [Service.change, world_launch]
      exact stillApart
    case apart => exact fun _ present => absurd present (Multiset.notMem_zero _)
    case asking =>
      rw [Service.change, asking, ready_launch, List.filterMap_append, List.filterMap_map]
      exact congrArg _ noneAsks
    case asleep =>
      intro sleeper asleep
      rw [Service.change, asleep_launch] at asleep
      exact .inl asleep
  rwa [List.map_nil, List.append_nil] at goesOn

/-- A program that has nothing to do with the pool may begin, wherever it is put. -/
theorem Serves.join (serves : service.Serves pool events state) {program : Program}
    (apart : IsApartFrom pool program) (samePools : after.world.pools = service.world.pools)
    (sameStarting : after.world.starting = service.world.starting)
    (joins : after.running = program ::ₘ service.running)
    (sameAsking : after.asking pool = service.asking pool)
    (sameAsleep : after.asleep = service.asleep) : after.Serves pool events state := by
  have before : service.running = 0 + service.running := (zero_add _).symm
  rw [← Multiset.singleton_add] at joins
  have goesOn : after.Serves pool (events ++ ([] : List Job).map .submitted) state := by
    refine serves.pass ?found ?unstarted ?others before joins ?apart ?areNew ?asking ?asleep
    case found => rw [samePools]; exact serves.found
    case unstarted => rw [sameStarting]; exact serves.unstarted
    case others => exact serves.others.congr fun _ _ => by rw [samePools]
    case apart => exact fun _ present => absurd present (Multiset.notMem_zero _)
    case areNew =>
      intro other present
      rw [Multiset.mem_singleton.mp present]
      exact .inl apart
    case asking => rw [sameAsking, List.append_nil]
    case asleep =>
      intro sleeper asleep
      rw [sameAsleep] at asleep
      exact .inl asleep
  rwa [List.map_nil, List.append_nil] at goesOn

theorem asking_spawn (timeline : Service) {program : Program} (apart : IsApartFrom pool program) :
    Service.asking pool (timeline.spawn program) = timeline.asking pool := by
  have silent : asking? pool program = none := apart.asking?_eq_none
  simp [asking, Timeline.spawn, silent]

theorem Serves.announce (serves : service.Serves pool events state) (news : ShutdownNews) :
    (service.announce news).1.Serves pool events state := by
  unfold Service.announce
  split
  · exact serves
  · next call _ =>
      have apart : IsApartFrom pool [.hear news, .leave "serve", .reply call .served] :=
        isApartFrom_cons rfl (isApartFrom_cons rfl (isApartFrom_cons rfl
          fun _ present => absurd present List.not_mem_nil))
      exact serves.join apart rfl rfl (Timeline.running_spawn _ _) (asking_spawn _ apart) rfl

theorem Serves.beginNamed (serves : service.Serves pool events state) (name : String)
    {program : Nat → Program} (apart : ∀ number, IsApartFrom pool (program number)) :
    (service.beginNamed name program).Serves pool events state :=
  serves.join (apart _) rfl rfl (Timeline.running_spawn _ _) (asking_spawn _ (apart _)) rfl

theorem isApartFrom_request (request : Request) (number : Nat) :
    IsApartFrom pool (request.program number) := by
  cases request <;> exact isApartFrom_cons rfl fun _ present => absurd present List.not_mem_nil

/-- No command has to do with the permits of a pool that exists. -/
theorem Serves.carryOut (serves : service.Serves pool events state) (command : Command) :
    (service.carryOut command).Serves pool events state := by
  have operates (operation : command.isQuiet = false) :
      (service.carryOut command).Serves pool events state := by
    obtain ⟨changes, after, abides⟩ := service.exists_change operation
    have samePrograms := service.programs_carryOut operation
    rw [after, outline_change] at samePrograms
    have samePools : (changes service.world).pools = service.world.pools :=
      congrArg Surroundings.pools abides.surroundings
    have leaves : service.world.LeavesPools (changes service.world) :=
      ⟨abides.routing, samePools, add_left_cancel samePrograms⟩
    rw [after]
    exact serves.change changes (by rw [samePools])
      (serves.others.congr fun _ _ => by rw [samePools])
      (rings_of_leavesPools leaves serves.unstarted)
  have settles (changes : Registry → Registry)
      (samePools : (changes service.world).pools = service.world.pools)
      (sameStarting : (changes service.world).starting = service.world.starting) :
      (service.change changes).Serves pool events state := by
    refine serves.change changes (by rw [samePools])
      (serves.others.congr fun _ _ => by rw [samePools]) fun program present => ?_
    rw [sameStarting, serves.unstarted] at present
    cases present
  cases command with
  | add _ | purgeAcknowledged _ _ | purgeAll _ | stop _ | suspend _ | resume _ | shutdown =>
      exact operates rfl
  | request name request =>
      cases name with
      | none =>
          have apart : IsApartFrom pool (request.program service.world.calls.make.1) :=
            isApartFrom_request request _
          exact serves.join apart rfl rfl (Timeline.running_call _ _)
            (List.filterMap_cons_none apart.asking?_eq_none) rfl
      | some name => exact serves.beginNamed name (isApartFrom_request request)
  | join name =>
      exact ⟨serves.found, serves.unstarted, serves.tasks, serves.resting, serves.waits,
        serves.others, serves.order, serves.held, serves.lent, serves.bounded, serves.full,
        serves.starts⟩
  | serve name =>
      exact (serves.announce .closed).beginNamed name fun _ =>
        isApartFrom_cons rfl fun _ present => absurd present List.not_mem_nil
  | announce news => exact serves.announce news
  | setExecutors executors =>
      obtain ⟨sameStarting, more, extended, idle⟩ := pools_setExecutors service.world executors
      refine serves.change (fun registry => registry.setExecutors executors) ?_ ?_ ?_
      · obtain ⟨inside, _⟩ := List.getElem?_eq_some_iff.mp serves.found
        rw [extended, List.getElem?_append_left inside]
      · intro other former different found program waits
        rw [extended] at found
        by_cases inside : other < service.world.pools.length
        · rw [List.getElem?_append_left inside] at found
          exact serves.others other former different found program waits
        · rw [List.getElem?_append_right (Nat.le_of_not_lt inside)] at found
          rw [idle former (List.mem_of_getElem? found)] at waits
          cases waits
      · intro program present
        rw [sameStarting, serves.unstarted] at present
        cases present
  | closeAgenda =>
      exact settles (fun registry => { registry with agenda := registry.agenda.close }) rfl rfl
  | prepare message outcomes =>
      exact settles (fun registry =>
        { registry with script := registry.script.prepare message outcomes }) rfl rfl
  | exchangeStore store => exact settles (fun registry => { registry with store }) rfl rfl

/-! ## Runs -/

/-- Whoever wakes up is neither to ask for a permit nor to start with one. -/
theorem Serves.rouse {index position : Nat} (serves : service.Serves pool events state)
    (roused : service.rouseTo index position = some after) :
    after.Serves pool events state := by
  obtain ⟨running, sameWorld⟩ := Timeline.rouseTo_eq_some roused
  have sameAsking : after.asking pool = service.asking pool ∧
      ∀ sleeper ∈ after.asleep, sleeper ∈ service.asleep := by
    unfold Timeline.rouseTo at roused
    split at roused
    · cases roused
    · next sleeper found =>
        split at roused
        · obtain rfl := Option.some.inj roused
          obtain ⟨silent, _⟩ := serves.resting sleeper (List.mem_of_getElem? found)
          exact ⟨filterMap_insertIdx_of_none silent, fun _ => List.mem_of_mem_eraseIdx⟩
        · cases roused
  obtain ⟨sameAsking, stillAsleep⟩ := sameAsking
  constructor
  case found => rw [sameWorld]; exact serves.found
  case unstarted => rw [sameWorld]; exact serves.unstarted
  case tasks => rw [running]; exact serves.tasks
  case resting => exact fun sleeper asleep => serves.resting sleeper (stillAsleep sleeper asleep)
  case waits => exact serves.waits
  case others => rw [sameWorld]; exact serves.others
  case order => rw [sameAsking]; exact serves.order
  case held => exact serves.held
  case lent => rw [running]; exact serves.lent
  case bounded => exact serves.bounded
  case full => exact serves.full
  case starts => rw [running]; exact serves.starts

/-- Any move in which nobody asks for a permit out of turn. -/
theorem Serves.move {move : Move} (serves : service.Serves pool events state)
    (moved : service.move? move = some after) (inTurn : service.asksInTurn pool move = true) :
    ∃ changed, changed.capacity = state.capacity ∧
      after.Serves pool (events ++ service.poolEvents pool move) changed := by
  cases move with
  | command command =>
      obtain rfl := eq_carryOut moved
      refine ⟨state, rfl, ?_⟩
      rw [poolEvents, List.append_nil]
      exact serves.carryOut command
  | step index => exact serves.step moved inTurn
  | rouse index position =>
      refine ⟨state, rfl, ?_⟩
      rw [poolEvents, List.append_nil]
      exact serves.rouse moved
  | wait instant =>
      obtain rfl := eq_wait moved
      refine ⟨state, rfl, ?_⟩
      rw [poolEvents, List.append_nil]
      exact { serves with }
  | reorder roster =>
      obtain ⟨_, rfl⟩ := eq_reorder moved
      refine ⟨state, rfl, ?_⟩
      rw [poolEvents, List.append_nil]
      exact { serves with }

/-- A pool of a size that nobody has used so far. -/
structure HasIdle (service : Service) (pool size : Nat) : Prop where
  found : service.world.pools[pool]? = some (.ofSize size)
  unstarted : service.world.starting = []
  apart : ∀ program ∈ service.running, IsApartFrom pool program
  others : service.world.IsApartFrom pool

theorem HasIdle.serves {size : Nat} (idle : service.HasIdle pool size) :
    service.Serves pool [] (.ofSize size) where
  found := idle.found
  unstarted := idle.unstarted
  tasks := fun program present => .apart (idle.apart program present)
  resting := by
    intro sleeper present
    have isApart := idle.apart sleeper.activity.program
      (Multiset.mem_add.mpr (.inr (List.mem_map.mpr ⟨sleeper, present, rfl⟩)))
    exact ⟨isApart.asking?_eq_none, isApart.admitted?_eq_none⟩
  waits := fun _ present => absurd present List.not_mem_nil
  others := idle.others
  order := by
    have noneAsks : service.asking pool = [] :=
      List.filterMap_eq_nil_iff.mpr fun activity present =>
        (idle.apart activity.program
          (Multiset.mem_add.mpr (.inl (List.mem_map_of_mem present)))).asking?_eq_none
    rw [noneAsks]
    rfl
  held := rfl
  lent := dues_of_new fun program present => .inl (idle.apart program present)
  bounded := Nat.zero_le _
  full := fun waits => absurd rfl waits
  starts := filterMap_admitted?_of_new fun program present => .inl (idle.apart program present)

/-- A run in which nobody asks for a permit out of turn. -/
theorem Serves.run {first last : Service} {moves : List Move} {initial : Executor.Pool Program}
    (serves : first.Serves pool [] initial) (run : Run first moves last)
    (inTurn : Throughout (fun service move => service.asksInTurn pool move = true) moves first) :
    ∃ state, state.capacity = initial.capacity ∧
      last.Serves pool (gather (poolEvents pool) moves first) state := by
  induction run with
  | start => exact ⟨initial, rfl, serves⟩
  | extend run moved inductionHypothesis =>
      obtain ⟨soFar, now⟩ := (throughout_concat run).mp inTurn
      obtain ⟨state, sameCapacity, stillServes⟩ := inductionHypothesis soFar
      obtain ⟨changed, kept, servesAfter⟩ := stillServes.move moved now
      rw [gather_concat (poolEvents pool) run]
      exact ⟨changed, kept.trans sameCapacity, servesAfter⟩

/-! ## The order of permits -/

/-- A pool of a size lends its permits in the order of submission.  `asked` are the jobs that have
asked for one so far. -/
structure LendsInOrder (service : Service) (pool size : Nat) (events : List PoolEvent)
    (asked : List Job) : Prop where
  /-- Those that were submitted first have asked first. -/
  submitted : submittedIn events = asked ++ service.asking pool
  /-- Permits go to the first that have asked: one to each job that has ended, and as many as the
  size allows to those that have not. -/
  admitted : admittedIn events = asked.take (endedIn events + max size 1)
  /-- All others wait. -/
  waiting : (service.world.pools[pool]?).map Executor.Pool.waiting =
    some ((asked.drop (endedIn events + max size 1)).map fun job => [.send job, .release pool])
  /-- Whoever got a permit has started once, or is ready to start. -/
  started : (startedIn events : Multiset Job) + service.toStart pool = admittedIn events
  /-- The jobs in flight are those with a permit that have not ended. -/
  inFlight : endedIn events + service.world.inFlight pool = (admittedIn events).length
  atMost : service.world.inFlight pool ≤ max size 1
  /-- Somebody waits only while all permits are held. -/
  full : (service.world.pools[pool]?).map Executor.Pool.waiting ≠ some [] →
    service.world.inFlight pool = max size 1
  /-- As many jobs as are in flight have started and not ended, or are to start. -/
  underWay : endedIn events ≤ (startedIn events).length ∧
    (startedIn events).length + (service.toStart pool).length =
      endedIn events + service.world.inFlight pool

theorem filterMap_admitted?_running
    (resting : ∀ sleeper ∈ service.asleep, admitted? pool sleeper.activity.program = none) :
    service.running.filterMap (admitted? pool) = (service.toStart pool : Multiset Job) := by
  have noneAsleep : (service.asleep.map fun sleeper => sleeper.activity.program).filterMap
      (admitted? pool) = [] := by
    rw [List.filterMap_map]
    exact List.filterMap_eq_nil_iff.mpr resting
  rw [Timeline.running, Multiset.filterMap_add, Multiset.filterMap_coe, Multiset.filterMap_coe,
    noneAsleep, List.filterMap_map]
  exact add_zero _

/-- Whoever is to start with a permit owes it. -/
theorem card_filterMap_admitted?_le (programs : Multiset Program) :
    Multiset.card (programs.filterMap (admitted? pool)) ≤ dues pool programs := by
  induction programs using Multiset.induction with
  | empty => exact Nat.zero_le _
  | cons program others inductionHypothesis =>
      rw [Multiset.filterMap_cons, dues_cons, Multiset.card_add, Nat.add_comm]
      refine Nat.add_le_add inductionHypothesis ?_
      cases admits : admitted? pool program with
      | none => exact Nat.zero_le _
      | some job =>
          have owed : owes pool program = true := by
            unfold admitted? at admits
            split at admits
            · next job other =>
                by_contra differs
                rw [if_neg fun same => differs (decide_eq_true same)] at admits
                cases admits
            · cases admits
          rw [owed]
          exact Nat.le_refl 1

theorem eq_map_of_waits {waiting : List Program}
    (waits : ∀ program ∈ waiting, ∃ job, program = [.send job, .release pool]) :
    waiting = (waiting.filterMap firstJob?).map fun job => [.send job, .release pool] := by
  induction waiting with
  | nil => rfl
  | cons program others inductionHypothesis =>
      obtain ⟨job, rfl⟩ := waits program List.mem_cons_self
      exact congrArg _ (inductionHypothesis fun other present =>
        waits other (List.mem_cons_of_mem _ present))

theorem Serves.lendsInOrder {size : Nat} (serves : service.Serves pool events state)
    (sized : state.capacity = max size 1) :
    service.LendsInOrder pool size events
      (admittedIn events ++ state.waiting.filterMap firstJob?) := by
  have isInFlight : service.world.inFlight pool = state.running := by
    rw [Registry.inFlight, serves.found]
    exact Executor.Pool.inFlight_eq_running serves.bounded
  have waits := eq_map_of_waits serves.waits
  have started := serves.starts
  rw [filterMap_admitted?_running fun sleeper present => (serves.resting sleeper present).2]
    at started
  have counted := congrArg Multiset.card started
  simp only [Multiset.card_add, Multiset.coe_card] at counted
  have toStart := @card_filterMap_admitted?_le pool service.running
  rw [filterMap_admitted?_running fun sleeper present => (serves.resting sleeper present).2,
    serves.lent, Multiset.coe_card] at toStart
  have held := serves.held
  have bounded := serves.bounded
  have split : (admittedIn events ++ state.waiting.filterMap firstJob?).take
        (endedIn events + max size 1) = admittedIn events ∧
      (admittedIn events ++ state.waiting.filterMap firstJob?).drop
        (endedIn events + max size 1) = state.waiting.filterMap firstJob? := by
    by_cases none : state.waiting = []
    · rw [none, List.filterMap_nil, List.append_nil]
      exact ⟨List.take_of_length_le (by omega), List.drop_of_length_le (by omega)⟩
    · have isFull := serves.full none
      have all : endedIn events + max size 1 = (admittedIn events).length := by omega
      rw [all]
      exact ⟨List.take_left, List.drop_left⟩
  obtain ⟨taken, dropped⟩ := split
  constructor
  case submitted => exact serves.order
  case admitted => rw [taken]
  case waiting => rw [dropped, serves.found, ← waits]; rfl
  case started => exact started
  case inFlight => rw [isInFlight, held]
  case atMost => omega
  case full =>
    intro someWait
    rw [isInFlight, ← sized]
    refine serves.full fun none => someWait ?_
    rw [serves.found, Option.map_some, none]
  case underWay =>
    rw [isInFlight]
    omega

/-- Whoever gives a job to a pool goes on at once, whether or not the pool has a permit left. -/
theorem exists_stepAt_enqueue {index : Nat} {job : Job} {rest : Program} {foreground : Bool}
    (ready : service.ready[index]? = some ⟨.enqueue pool job :: rest, foreground⟩) :
    service.poolEvents pool (.step index) = [.submitted job] ∧
      ∃ after : Service, service.move? (.step index) = some after ∧
        after.ready[index]? = some ⟨rest, foreground⟩ := by
  obtain ⟨inside, _⟩ := List.getElem?_eq_some_iff.mp ready
  let middle : Service := launch { service with
    ready := service.ready.eraseIdx index
    world := service.world.start [.acquire pool, .send job, .release pool] }
  have stepped : service.move? (.step index) =
      some (middle.resume index foreground (.onward rest)) := by
    simp only [move?, Timeline.stepAt, ready]
    rfl
  have room : index ≤ middle.ready.length := by
    rw [ready_launch, List.length_append, List.length_eraseIdx_of_lt inside]
    omega
  refine ⟨?_, _, stepped, List.getElem?_insertIdx_self.trans (if_pos room)⟩
  simp [poolEvents, ready, Instruction.poolEvents]

/-- A pool that is idle at first lends its permits in the order in which jobs are given to it, from
then on and whatever else happens, as long as nobody asks for a permit out of turn: each job that is
submitted gets one, once, when so many before it have ended that those left are fewer than the size
of the pool, which is one at least.  When nothing is ready, those that got one are those that have
started.  Nobody who gives a job to the pool ever waits. -/
theorem lends_in_order {first last : Service} {moves : List Move} {size : Nat}
    (idle : first.HasIdle pool size) (run : Run first moves last)
    (inTurn : Throughout (fun service move => service.asksInTurn pool move = true) moves first) :
    (∃ asked, last.LendsInOrder pool size (gather (poolEvents pool) moves first) asked) ∧
      (last.ready = [] →
        (startedIn (gather (poolEvents pool) moves first) : Multiset Job) =
          (submittedIn (gather (poolEvents pool) moves first)).take
            (endedIn (gather (poolEvents pool) moves first) + max size 1)) ∧
      ∀ index job rest foreground,
        last.ready[index]? = some ⟨.enqueue pool job :: rest, foreground⟩ →
          last.poolEvents pool (.step index) = [.submitted job] ∧
            ∃ after : Service, last.move? (.step index) = some after ∧
              after.ready[index]? = some ⟨rest, foreground⟩ := by
  obtain ⟨state, sized, serves⟩ := idle.serves.run run inTurn
  have lends := serves.lendsInOrder sized
  refine ⟨⟨_, lends⟩, fun nothingReady => ?_, fun _ _ _ _ => exists_stepAt_enqueue⟩
  have noneAsks : last.asking pool = [] := by rw [asking, nothingReady, List.filterMap_nil]
  have noneToStart : last.toStart pool = [] := by rw [toStart, nothingReady, List.filterMap_nil]
  have started := lends.started
  have submitted := lends.submitted
  rw [noneToStart, Multiset.coe_nil, add_zero] at started
  rw [noneAsks, List.append_nil] at submitted
  rw [started, submitted, ← lends.admitted]

/-- In a registry that nothing has happened to yet, all pools are idle. -/
theorem hasIdle_start {registry : Registry} {size : Nat} (fresh : registry.IsFresh)
    (found : registry.pools[pool]? = some (.ofSize size)) :
    Service.HasIdle (Timeline.start registry) pool size where
  found := found
  unstarted := fresh.starting
  apart := fun _ present => absurd present (Multiset.notMem_zero _)
  others := by
    intro other state _ isState program waits
    rw [fresh.waiting state (List.mem_of_getElem? isState)] at waits
    cases waits

end Service

namespace Sample

/-- A registry with a pool that lets two resends of its owner run. -/
def twoLanes : Registry :=
  (Registry.empty .byHand).setExecutors [("orders", some 2)]

/-- One resend that takes so long. -/
def takes (number duration : Nat) : Move :=
  .command (.prepare (sequence, number) [{ takes := duration, failure := none }])

/-- Three resends are given to the pool, and a fourth one goes out inline.  When the first two end,
a fifth one was just submitted: it asks for a permit between the third one, which waited, getting
one and starting with it. -/
def overtaking : List Move :=
  [takes 1 100000000, takes 2 101000000, takes 4 50000000,
    .command (.add (message 1 (some "orders"))), .command (.add (message 2 (some "orders"))),
    .command (.add (message 3 (some "orders"))), .command (.add (message 4 none)),
    .command (.add (message 5 (some "orders"))),
    .command (.request none (.driveDue 1000000000000))] ++
  List.replicate 10 (.step 0) ++ [.wait 101000000, .rouse 0 0, .rouse 0 1, .rouse 0 2] ++
  List.replicate 16 (.step 0)

theorem hasIdle_twoLanes : Service.HasIdle (Timeline.start twoLanes) 0 2 :=
  Service.hasIdle_start ((Registry.isFresh_empty .byHand).setExecutors _) rfl

end Sample

namespace Service

/-- The job that waited gets its permit first, and starts last. -/
theorem lends_in_order_of_overtaking :
    Service.HasIdle (Timeline.start Sample.twoLanes) 0 2 ∧
      ∃ last, Run (Timeline.start Sample.twoLanes) Sample.overtaking last ∧
        Throughout (fun service move => service.asksInTurn 0 move = true) Sample.overtaking
          (Timeline.start Sample.twoLanes) ∧
        (admittedIn (gather (poolEvents 0) Sample.overtaking
          (Timeline.start Sample.twoLanes))).map (fun job => job.message.number) = [1, 2, 3, 5] ∧
        (startedIn (gather (poolEvents 0) Sample.overtaking
          (Timeline.start Sample.twoLanes))).map (fun job => job.message.number) = [1, 2, 5, 3] ∧
        ∃ asked, last.LendsInOrder 0 2
          (gather (poolEvents 0) Sample.overtaking (Timeline.start Sample.twoLanes)) asked := by
  have possible : (follow Sample.overtaking (Timeline.start Sample.twoLanes)).isSome = true := by
    decide +kernel
  obtain ⟨last, followed⟩ := Option.isSome_iff_exists.mp possible
  have run := Run.of_follow followed
  have inTurn : Throughout (fun service move => service.asksInTurn 0 move = true)
      Sample.overtaking (Timeline.start Sample.twoLanes) := by decide +kernel
  exact ⟨Sample.hasIdle_twoLanes, last, run, inTurn, by decide +kernel, by decide +kernel,
    (lends_in_order Sample.hasIdle_twoLanes run inTurn).1⟩

/-- Jobs need not start in the order of submission: one that asks for a permit while one is free
starts at once, and may overtake one that waited and has just been given its permit. -/
theorem not_always_starts_in_order :
    ¬ ∀ (pool size : Nat) (first last : Service) (moves : List Move),
      first.HasIdle pool size → Run first moves last →
        Throughout (fun service move => service.asksInTurn pool move = true) moves first →
        (startedIn (gather (poolEvents pool) moves first)).Sublist
          (submittedIn (gather (poolEvents pool) moves first)) := by
  intro always
  have possible : (follow Sample.overtaking (Timeline.start Sample.twoLanes)).isSome = true := by
    decide +kernel
  obtain ⟨last, followed⟩ := Option.isSome_iff_exists.mp possible
  have inTurn : Throughout (fun service move => service.asksInTurn 0 move = true)
      Sample.overtaking (Timeline.start Sample.twoLanes) := by decide +kernel
  have inOrder := always 0 2 _ last _ Sample.hasIdle_twoLanes (.of_follow followed) inTurn
  have numbers := inOrder.map fun job => job.message.number
  have overtaken : ¬ ((startedIn (gather (poolEvents 0) Sample.overtaking
        (Timeline.start Sample.twoLanes))).map fun job => job.message.number).Sublist
      ((submittedIn (gather (poolEvents 0) Sample.overtaking
        (Timeline.start Sample.twoLanes))).map fun job => job.message.number) := by
    decide +kernel
  exact overtaken numbers

end Service

end Redelivery
