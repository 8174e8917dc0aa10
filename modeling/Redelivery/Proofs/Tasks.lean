import Redelivery.Proofs.Lending

/-!
# The task of a job

A job that is given to a pool gets a task of its own, which asks the pool for a permit, sends the
message and gives the permit back.  All other programs have nothing to do with the permits of the
pool, and never will.
-/

namespace Redelivery

/-! ## Other pools -/

namespace Executor.Pool

variable {α : Type} {pools : List (Pool α)} {index place : Nat} {state : Pool α} {job other : α}

theorem getElem?_requestAt_of_ne (different : place ≠ index) (job : α) :
    (requestAt pools index job).1[place]? = pools[place]? := by
  rw [requestAt_fst, List.getElem?_modify_ne _ _ different.symm]

theorem getElem?_releaseAt_of_ne (different : place ≠ index) :
    (releaseAt pools index).1[place]? = pools[place]? := by
  rw [releaseAt_fst, List.getElem?_modify_ne _ _ different.symm]

/-- Whoever waits once a pool has changed waited before, or waits because of the change. -/
theorem waiting_modify {change : Pool α → Pool α}
    (found : (pools.modify index change)[place]? = some state) (waits : other ∈ state.waiting) :
    ∃ former, pools[place]? = some former ∧
      (other ∈ former.waiting ∨ other ∈ (change former).waiting) := by
  rw [List.getElem?_modify] at found
  obtain ⟨former, was, rfl⟩ := Option.map_eq_some_iff.mp found
  refine ⟨former, was, ?_⟩
  split at waits
  · exact .inr waits
  · exact .inl waits

/-- Whoever waits after somebody has asked for a permit waited before, or is the one who asked. -/
theorem waiting_requestAt (found : (requestAt pools index job).1[place]? = some state)
    (waits : other ∈ state.waiting) :
    other = job ∨ ∃ former, pools[place]? = some former ∧ other ∈ former.waiting := by
  rw [requestAt_fst] at found
  obtain ⟨former, was, waited | asked⟩ := waiting_modify found waits
  · exact .inr ⟨former, was, waited⟩
  · unfold request at asked
    split at asked
    · exact .inr ⟨former, was, asked⟩
    · rcases List.mem_append.mp asked with old | new
      · exact .inr ⟨former, was, old⟩
      · exact .inl (List.mem_singleton.mp new)

/-- Whoever waits after somebody has given a permit back waited before. -/
theorem waiting_releaseAt (found : (releaseAt pools index).1[place]? = some state)
    (waits : other ∈ state.waiting) :
    ∃ former, pools[place]? = some former ∧ other ∈ former.waiting := by
  rw [releaseAt_fst] at found
  obtain ⟨former, was, waited | stays⟩ := waiting_modify found waits
  · exact ⟨former, was, waited⟩
  · unfold release at stays
    split at stays
    · exact ⟨former, was, stays⟩
    · next isWaiting => exact ⟨former, was, isWaiting ▸ List.mem_cons_of_mem _ stays⟩

/-- Whoever takes a permit over has waited for it. -/
theorem waits_of_heir (isHeir : (releaseAt pools index).2 = some other) :
    ∃ former, pools[index]? = some former ∧ other ∈ former.waiting := by
  unfold releaseAt at isHeir
  cases was : pools[index]? with
  | none =>
      simp only [was] at isHeir
      cases isHeir
  | some former =>
      simp only [was, release] at isHeir
      split at isHeir
      · cases isHeir
      · next isWaiting =>
          obtain rfl := Option.some.inj isHeir
          exact ⟨former, rfl, isWaiting ▸ List.mem_cons_self⟩

end Executor.Pool

/-! ## The task of a job -/

/-- Whether an instruction has to do with the permits of a pool. -/
def Instruction.concerns (pool : Nat) : Instruction → Bool
  | .acquire other | .release other => decide (other = pool)
  | _ => false

/-- Whether a program never has to do with the permits of a pool. -/
def IsApartFrom (pool : Nat) (program : Program) : Prop :=
  ∀ instruction ∈ program, instruction.concerns pool = false

/-- The task of a job in a pool, from its first turn to its end, or a program that has nothing to do
with the pool. -/
inductive Task (pool : Nat) : Program → Prop where
  | apart {program : Program} : IsApartFrom pool program → Task pool program
  | asking (job : Job) : Task pool [.acquire pool, .send job, .release pool]
  | admitted (job : Job) : Task pool [.send job, .release pool]
  | underWay (job : Job) (failure : Option TransportFailure) :
      Task pool [.conclude job failure, .release pool]
  | leaving : Task pool [.release pool]

/-- The job of a task that is to ask for a permit. -/
def asking? (pool : Nat) : Program → Option Job
  | .acquire other :: .send job :: _ => if other = pool then some job else none
  | _ => none

/-- The job of a task that has a permit and is to start. -/
def admitted? (pool : Nat) : Program → Option Job
  | [.send job, .release other] => if other = pool then some job else none
  | _ => none

/-- The job with which a program begins. -/
def firstJob? : Program → Option Job
  | .send job :: _ => some job
  | _ => none

section

variable {pool : Nat} {program : Program}

theorem IsApartFrom.tail {instruction : Instruction} {rest : Program}
    (apart : IsApartFrom pool (instruction :: rest)) : IsApartFrom pool rest :=
  fun other present => apart other (List.mem_cons_of_mem _ present)

theorem IsApartFrom.asking?_eq_none (apart : IsApartFrom pool program) :
    asking? pool program = none := by
  unfold asking?
  split
  · exact if_neg (of_decide_eq_false (apart _ List.mem_cons_self))
  · rfl

theorem IsApartFrom.admitted?_eq_none (apart : IsApartFrom pool program) :
    admitted? pool program = none := by
  unfold admitted?
  split
  · exact if_neg (of_decide_eq_false (apart _ (List.mem_cons_of_mem _ List.mem_cons_self)))
  · rfl

theorem IsApartFrom.owes_eq_false (apart : IsApartFrom pool program) :
    owes pool program = false := by
  unfold owes
  split
  · exact apart (.release _) (List.mem_cons_of_mem _ List.mem_cons_self)
  · exact apart (.release _) (List.mem_cons_of_mem _ List.mem_cons_self)
  · exact apart (.release _) List.mem_cons_self
  · rfl

theorem isApartFrom_of_isRing (ring : isRing program = true) : IsApartFrom pool program := by
  unfold isRing at ring
  split at ring
  · intro instruction present
    rw [List.mem_singleton.mp present]
    rfl
  · cases ring

end

/-! ## What happens in a pool -/

/-- An event in a pool. -/
inductive PoolEvent where
  /-- A job is given to the pool. -/
  | submitted (job : Job)
  /-- A job gets a permit. -/
  | admitted (job : Job)
  | started (job : Job)
  /-- A job ends and gives its permit back. -/
  | ended
  deriving DecidableEq, Repr

/-- The events in a pool that an instruction brings about. -/
def Instruction.poolEvents (pool : Nat) (pools : List (Executor.Pool Program)) (rest : Program) :
    Instruction → List PoolEvent
  | .enqueue other job => if other = pool then [.submitted job] else []
  | .acquire other =>
      if other = pool ∧ (Executor.Pool.requestAt pools pool rest).2 = true then
        (firstJob? rest).toList.map .admitted
      else []
  | .send job => (admitted? pool (.send job :: rest)).toList.map .started
  | .release other =>
      if other = pool then
        .ended :: ((Executor.Pool.releaseAt pools pool).2.bind firstJob?).toList.map .admitted
      else []
  | .ring _ | .conclude _ _ | .driveDue _ _ | .attempt _ _ _ | .runDue _ _ _ | .serve _ | .hear _
  | .leave _ | .reply _ _ => []

/-- The jobs that were given to the pool, in this order. -/
def submittedIn (events : List PoolEvent) : List Job :=
  events.filterMap fun
    | .submitted job => some job
    | _ => none

/-- The jobs that got a permit, in this order. -/
def admittedIn (events : List PoolEvent) : List Job :=
  events.filterMap fun
    | .admitted job => some job
    | _ => none

/-- The jobs that started, in this order. -/
def startedIn (events : List PoolEvent) : List Job :=
  events.filterMap fun
    | .started job => some job
    | _ => none

/-- The number of jobs that have ended. -/
def endedIn (events : List PoolEvent) : Nat :=
  events.count .ended

@[simp]
theorem submittedIn_append (first second : List PoolEvent) :
    submittedIn (first ++ second) = submittedIn first ++ submittedIn second :=
  List.filterMap_append

@[simp]
theorem admittedIn_append (first second : List PoolEvent) :
    admittedIn (first ++ second) = admittedIn first ++ admittedIn second :=
  List.filterMap_append

@[simp]
theorem startedIn_append (first second : List PoolEvent) :
    startedIn (first ++ second) = startedIn first ++ startedIn second :=
  List.filterMap_append

@[simp]
theorem endedIn_append (first second : List PoolEvent) :
    endedIn (first ++ second) = endedIn first + endedIn second :=
  List.count_append

namespace Service

variable {service : Service} {pool : Nat}

/-- What happens in a pool in the course of a move. -/
def poolEvents (pool : Nat) (service : Service) : Move → List PoolEvent
  | .step index =>
      match service.ready[index]? with
      | some ⟨instruction :: rest, _⟩ => instruction.poolEvents pool service.world.pools rest
      | _ => []
  | .command _ | .rouse _ _ | .wait _ | .reorder _ => []

/-- Whether a move keeps the order in which tasks have their first turn: whoever asks for a permit
does so before those that were started later. -/
def asksInTurn (pool : Nat) (service : Service) : Move → Bool
  | .step index =>
      ((service.ready[index]?).all fun activity => (asking? pool activity.program).isNone) ||
        (service.ready.take index).all fun activity => (asking? pool activity.program).isNone
  | .command _ | .rouse _ _ | .wait _ | .reorder _ => true

/-- The jobs that are to ask for a permit. -/
def asking (pool : Nat) (service : Service) : List Job :=
  service.ready.filterMap fun activity => asking? pool activity.program

/-- The jobs that have a permit and are to start. -/
def toStart (pool : Nat) (service : Service) : List Job :=
  service.ready.filterMap fun activity => admitted? pool activity.program

end Service

/-! ## Places in a list -/

section

variable {α β : Type} {choose : α → Option β} {list : List α} {index : Nat} {item : α}

theorem filterMap_eraseIdx_of_none (found : list[index]? = some item)
    (declined : choose item = none) :
    (list.eraseIdx index).filterMap choose = list.filterMap choose := by
  obtain ⟨inside, rfl⟩ := List.getElem?_eq_some_iff.mp found
  conv_rhs => rw [← List.take_append_drop index list, List.drop_eq_getElem_cons inside]
  rw [List.eraseIdx_eq_take_drop_succ, List.filterMap_append, List.filterMap_append,
    List.filterMap_cons_none declined]

/-- What is taken out of a list comes first, if nothing before it counts. -/
theorem filterMap_of_first {chosen : β} (found : list[index]? = some item)
    (isChosen : choose item = some chosen)
    (first : ∀ other ∈ list.take index, choose other = none) :
    list.filterMap choose = chosen :: (list.eraseIdx index).filterMap choose := by
  obtain ⟨inside, rfl⟩ := List.getElem?_eq_some_iff.mp found
  have noneBefore : (list.take index).filterMap choose = [] :=
    List.filterMap_eq_nil_iff.mpr first
  conv_lhs => rw [← List.take_append_drop index list, List.drop_eq_getElem_cons inside]
  rw [List.eraseIdx_eq_take_drop_succ, List.filterMap_append, List.filterMap_append, noneBefore,
    List.filterMap_cons_some isChosen]
  rfl

theorem filterMap_insertIdx_of_none (declined : choose item = none) :
    (list.insertIdx index item).filterMap choose = list.filterMap choose := by
  induction list generalizing index with
  | nil =>
      cases index with
      | zero => exact List.filterMap_cons_none declined
      | succ index => rfl
  | cons head tail inductionHypothesis =>
      cases index with
      | zero => exact List.filterMap_cons_none declined
      | succ index =>
          rw [List.insertIdx_succ_cons, List.filterMap_cons, List.filterMap_cons,
            inductionHypothesis]

end

/-! ## Tasks that begin -/

/-- A program that has nothing to do with a pool, or a task that is yet to ask it for a permit. -/
def IsNewTo (pool : Nat) (program : Program) : Prop :=
  IsApartFrom pool program ∨ ∃ job, program = [.acquire pool, .send job, .release pool]

section

variable {pool : Nat} {program : Program} {programs : Multiset Program}

theorem IsNewTo.task (isNew : IsNewTo pool program) : Task pool program := by
  rcases isNew with apart | ⟨job, rfl⟩
  · exact .apart apart
  · exact .asking job

theorem IsNewTo.owes_eq_false (isNew : IsNewTo pool program) : owes pool program = false := by
  rcases isNew with apart | ⟨job, rfl⟩
  · exact apart.owes_eq_false
  · rfl

theorem IsNewTo.admitted?_eq_none (isNew : IsNewTo pool program) :
    admitted? pool program = none := by
  rcases isNew with apart | ⟨job, rfl⟩
  · exact apart.admitted?_eq_none
  · rfl

theorem filterMap_admitted?_singleton (pool : Nat) (program : Program) :
    ({program} : Multiset Program).filterMap (admitted? pool) =
      (admitted? pool program).toList := by
  rw [← Multiset.cons_zero, Multiset.filterMap_cons, Multiset.filterMap_zero, add_zero]
  cases admitted? pool program <;> rfl

theorem dues_singleton (pool : Nat) (program : Program) :
    dues pool {program} = if owes pool program then 1 else 0 := by
  rw [← Multiset.cons_zero, dues_cons]
  exact Nat.zero_add _

theorem dues_of_new (areNew : ∀ program ∈ programs, IsNewTo pool program) :
    dues pool programs = 0 :=
  Multiset.countP_eq_zero.mpr fun program present => by
    rw [(areNew program present).owes_eq_false]
    exact Bool.false_ne_true

theorem filterMap_admitted?_of_new (areNew : ∀ program ∈ programs, IsNewTo pool program) :
    programs.filterMap (admitted? pool) = 0 := by
  refine Multiset.eq_zero_of_forall_notMem fun job present => ?_
  obtain ⟨program, among, isJob⟩ := (Multiset.mem_filterMap _ _).mp present
  rw [(areNew program among).admitted?_eq_none] at isJob
  cases isJob

end

/-- The programs that wait in other pools have nothing to do with a pool. -/
def Registry.IsApartFrom (registry : Registry) (pool : Nat) : Prop :=
  ∀ other state, other ≠ pool → registry.pools[other]? = some state →
    ∀ program ∈ state.waiting, Redelivery.IsApartFrom pool program

theorem Registry.IsApartFrom.congr {before after : Registry} {pool : Nat}
    (apart : before.IsApartFrom pool)
    (same : ∀ other, other ≠ pool → after.pools[other]? = before.pools[other]?) :
    after.IsApartFrom pool := by
  intro other state different found
  rw [same other different] at found
  exact apart other state different found

namespace Service

variable {service after : Service} {pool : Nat}

/-! ## Steps -/

theorem asking_resume (timeline : Service) (index : Nat) (foreground : Bool)
    {pace : Pace Instruction} (silent : ∀ program ∈ pace.programs, asking? pool program = none) :
    Service.asking pool (timeline.resume index foreground pace) = timeline.asking pool := by
  cases pace with
  | onward program =>
      exact filterMap_insertIdx_of_none (silent program (Multiset.mem_singleton_self _))
  | sleepUntil instant program =>
      simp only [Timeline.resume]
      split
      · exact filterMap_insertIdx_of_none (silent program (Multiset.mem_singleton_self _))
      · rfl
  | retire => rfl

/-- Who sleeps after an instruction slept before, or has to wait by the instruction. -/
theorem asleep_resume (timeline : Service) (index : Nat) (foreground : Bool)
    {pace : Pace Instruction} {sleeper : Sleeper Instruction}
    (asleep : sleeper ∈ (timeline.resume index foreground pace).asleep) :
    sleeper ∈ timeline.asleep ∨ ∃ instant, pace = .sleepUntil instant sleeper.activity.program := by
  rcases Timeline.eq_of_mem_asleep_resume asleep with old | ⟨instant, program, isPace, rfl⟩
  · exact .inl old
  · exact .inr ⟨instant, isPace⟩

theorem running_launch (service : Service) :
    service.launch.running = service.world.starting + service.running :=
  Timeline.running_spawnAll service service.world.starting

/-- What a step makes of a service: the instruction changes the registry, its program goes on, and
what it starts is ready last. -/
structure Steps (service : Service) (pool : Nat) (instruction : Instruction) (rest : Program)
    (others after : Service) : Prop where
  sameWorld : others.world = service.world
  before : service.running = (instruction :: rest) ::ₘ others.running
  sleepers : others.asleep = service.asleep
  world : after.world = { (perform instruction rest others).1.world with starting := [] }
  running : after.running = (perform instruction rest others).2.programs +
    ((perform instruction rest others).1.world.starting + others.running)
  asking : (∀ program ∈ (perform instruction rest others).2.programs,
      asking? pool program = none) →
    after.asking pool = others.asking pool ++
      (perform instruction rest others).1.world.starting.filterMap (asking? pool)
  asleep : ∀ sleeper ∈ after.asleep, sleeper ∈ service.asleep ∨
    ∃ instant, (perform instruction rest others).2 = .sleepUntil instant sleeper.activity.program

/-- A step of an activity that is not at its end. -/
theorem exists_steps {index : Nat} (stepped : service.stepAt behave index = some after)
    (pool : Nat) :
    ∃ activity, service.ready[index]? = some activity ∧ ∃ others : Service,
      others = { service with ready := service.ready.eraseIdx index } ∧
      ((activity.program = [] ∧ after = others ∧ service.running = [] ::ₘ others.running) ∨
        ∃ instruction rest, activity.program = instruction :: rest ∧
          service.Steps pool instruction rest others after) := by
  obtain ⟨activity, found, others, isOthers, before, went⟩ := Timeline.stepAt_eq_some stepped
  refine ⟨activity, found, others, isOthers, ?_⟩
  rcases went with ⟨ended, isAfter⟩ | ⟨instruction, rest, isHere, isAfter⟩
  · exact .inl ⟨ended, isAfter, ended ▸ before⟩
  · refine .inr ⟨instruction, rest, isHere, ?_⟩
    have changed := perform_fst instruction rest others
    have launched := launch_eq (perform instruction rest others).1
    have isAfter : after = (launch (perform instruction rest others).1).resume index
        activity.foreground (perform instruction rest others).2 := isAfter
    constructor
    case sameWorld => rw [isOthers]
    case before => rw [before, isHere]
    case sleepers => rw [isOthers]
    case world => rw [isAfter, Timeline.world_resume, world_launch]
    case running =>
      have inside : index ≤ (launch (perform instruction rest others).1).ready.length := by
        obtain ⟨present, _⟩ := List.getElem?_eq_some_iff.mp found
        rw [ready_launch, changed, isOthers, List.length_append,
          List.length_eraseIdx_of_lt present]
        omega
      rw [isAfter, Timeline.running_resume _ inside, running_launch, changed]
      rfl
    case asking =>
      intro silent
      rw [isAfter, asking_resume _ _ _ silent, Service.asking, ready_launch,
        List.filterMap_append, List.filterMap_map, changed]
      rfl
    case asleep =>
      intro sleeper asleep
      rw [isAfter] at asleep
      refine (asleep_resume _ _ _ asleep).imp_left fun old => ?_
      rw [asleep_launch, changed, isOthers] at old
      exact old

/-! ## Programs apart -/

theorem isApartFrom_append {front back : Program} (first : IsApartFrom pool front)
    (second : IsApartFrom pool back) : IsApartFrom pool (front ++ back) := by
  intro instruction present
  rcases List.mem_append.mp present with isFirst | isSecond
  · exact first instruction isFirst
  · exact second instruction isSecond

theorem isApartFrom_delivery (routing : Executor.Routing) (job : Job) :
    IsApartFrom pool (Registry.delivery routing job) := by
  unfold Registry.delivery
  split <;>
  · intro instruction present
    rw [List.mem_singleton.mp present]
    rfl

theorem isApartFrom_pursue (service : Service) (handed : Registry × Option Job)
    (routing : Candidate → Executor.Routing) {rest : Program} (apart : IsApartFrom pool rest) :
    ∀ program ∈ (service.pursue handed routing rest).2.programs, IsApartFrom pool program := by
  intro program present
  rw [Multiset.mem_singleton.mp present]
  refine isApartFrom_append ?_ apart
  split
  · exact fun _ among => absurd among List.not_mem_nil
  · split
    · exact fun _ among => absurd among List.not_mem_nil
    · exact isApartFrom_delivery _ _

theorem isApartFrom_cons {instruction : Instruction} {rest : Program}
    (isApart : instruction.concerns pool = false) (apart : IsApartFrom pool rest) :
    IsApartFrom pool (instruction :: rest) :=
  List.forall_mem_cons.mpr ⟨isApart, apart⟩

theorem isApartFrom_of_mem_singleton {program : Program} {programs : Multiset Program}
    (apart : IsApartFrom pool program) (same : programs = {program}) :
    ∀ other ∈ programs, IsApartFrom pool other := by
  intro other present
  rw [same] at present
  rw [Multiset.mem_singleton.mp present]
  exact apart

/-- A program that has nothing to do with a pool goes on so. -/
theorem isApartFrom_perform (service : Service) {instruction : Instruction} {rest : Program}
    (apart : IsApartFrom pool (instruction :: rest)) :
    ∀ program ∈ (perform instruction rest service).2.programs, IsApartFrom pool program := by
  have restApart := apart.tail
  have nothing : ∀ program ∈ (0 : Multiset Program), IsApartFrom pool program :=
    fun _ present => absurd present (Multiset.notMem_zero _)
  have onward : ∀ program ∈ ({rest} : Multiset Program), IsApartFrom pool program :=
    isApartFrom_of_mem_singleton restApart rfl
  cases instruction with
  | ring ticket =>
      simp only [perform, ring]
      split
      · exact nothing
      · split
        · exact isApartFrom_pursue _ _ _ restApart
        · exact isApartFrom_of_mem_singleton apart rfl
  | send job =>
      rcases pace_send service job rest with same | ⟨failure, same⟩
      · exact isApartFrom_of_mem_singleton restApart same
      · exact isApartFrom_of_mem_singleton (isApartFrom_cons rfl restApart) same
  | acquire other =>
      simp only [perform, acquire]
      split
      · exact onward
      · exact nothing
  | driveDue upTo call =>
      refine isApartFrom_of_mem_singleton (isApartFrom_append ?_
        (isApartFrom_cons rfl (isApartFrom_cons rfl restApart))) rfl
      intro other present
      obtain ⟨job, _, among⟩ := List.mem_flatMap.mp present
      exact isApartFrom_delivery _ job other among
  | attempt sequence number call =>
      simp only [perform, attempt]
      split
      · exact isApartFrom_of_mem_singleton (isApartFrom_cons rfl restApart) rfl
      · exact isApartFrom_pursue _ _ _ (isApartFrom_cons rfl restApart)
  | runDue upTo ran call =>
      simp only [perform, runDue]
      split
      · exact isApartFrom_of_mem_singleton (isApartFrom_cons rfl restApart) rfl
      · exact isApartFrom_pursue _ _ _ (isApartFrom_cons rfl restApart)
  | serve call => exact nothing
  | conclude _ _ | enqueue _ _ | release _ | hear _ | leave _ | reply _ _ => exact onward

/-- Where nothing was to be started, and pools and programs are left alone, only timers start. -/
theorem rings_of_leavesPools {before registry : Registry} (leaves : before.LeavesPools registry)
    (unstarted : before.starting = []) :
    ∀ program ∈ registry.starting, isRing program = true := by
  have sameHeld : apartFromRings registry.held = apartFromRings before.held := leaves.programs
  rw [Registry.held, Registry.held, apartFromRings_add, apartFromRings_add, leaves.pools,
    unstarted] at sameHeld
  have noneElse : apartFromRings (registry.starting : Multiset Program) = 0 :=
    add_left_cancel sameHeld
  intro program present
  by_contra noRing
  have among : program ∈ apartFromRings (registry.starting : Multiset Program) :=
    Multiset.mem_filter.mpr ⟨present, Bool.eq_false_iff.mpr noRing⟩
  rw [noneElse] at among
  exact Multiset.notMem_zero _ among

theorem isNewTo_of_rings {programs : List Program}
    (rings : ∀ program ∈ programs, isRing program = true) :
    (∀ program ∈ programs, IsNewTo pool program) ∧
      programs.filterMap (asking? pool) = [] := by
  have apart : ∀ program ∈ programs, IsApartFrom pool program :=
    fun program present => isApartFrom_of_isRing (rings program present)
  exact ⟨fun program present => .inl (apart program present),
    List.filterMap_eq_nil_iff.mpr fun program present => (apart program present).asking?_eq_none⟩

/-- What a program that has nothing to do with a pool starts: at most the task of a job that it
gives to the pool. -/
theorem starting_perform {instruction : Instruction} {rest : Program}
    (unstarted : service.world.starting = []) (others : service.world.IsApartFrom pool)
    (apart : IsApartFrom pool (instruction :: rest)) :
    (∀ program ∈ (perform instruction rest service).1.world.starting, IsNewTo pool program) ∧
      ∃ asked, (perform instruction rest service).1.world.starting.filterMap (asking? pool) =
          asked ∧
        instruction.poolEvents pool service.world.pools rest = asked.map .submitted := by
  have isApart := apart _ List.mem_cons_self
  have quiet (same : instruction.poolEvents pool service.world.pools rest = [])
      (rings : ∀ program ∈ (perform instruction rest service).1.world.starting,
        isRing program = true) :
      (∀ program ∈ (perform instruction rest service).1.world.starting, IsNewTo pool program) ∧
        ∃ asked, (perform instruction rest service).1.world.starting.filterMap (asking? pool) =
            asked ∧
          instruction.poolEvents pool service.world.pools rest = asked.map .submitted := by
    obtain ⟨areNew, noneAsks⟩ := isNewTo_of_rings rings
    exact ⟨areNew, [], noneAsks, same⟩
  cases about : instruction.isAboutPermits with
  | false =>
      refine quiet ?_ (rings_of_leavesPools (leavesPools_perform service rest about) unstarted)
      cases instruction with
      | send job => rw [Instruction.poolEvents, apart.admitted?_eq_none]; rfl
      | enqueue _ _ | acquire _ | release _ => cases about
      | _ => rfl
  | true =>
      cases instruction with
      | enqueue other job =>
          have starts : (perform (.enqueue other job) rest service).1.world.starting =
              [[.acquire other, .send job, .release other]] := by
            simp only [perform, proceed, Registry.start, unstarted, List.nil_append]
          rw [starts]
          by_cases here : other = pool
          · subst here
            refine ⟨fun program present => .inr ⟨job, List.mem_singleton.mp present⟩, [job], ?_, ?_⟩
            · simp [asking?]
            · simp [Instruction.poolEvents]
          · refine ⟨fun program present => .inl ?_, [], ?_, ?_⟩
            · rw [List.mem_singleton.mp present]
              exact isApartFrom_cons (decide_eq_false here) (isApartFrom_cons rfl
                (isApartFrom_cons (decide_eq_false here) fun _ among =>
                  absurd among List.not_mem_nil))
            · simp [asking?, here]
            · simp [Instruction.poolEvents, here]
      | acquire other =>
          have different : other ≠ pool := of_decide_eq_false isApart
          refine quiet (if_neg fun same => different same.1) ?_
          have same : (perform (.acquire other) rest service).1.world.starting = [] := unstarted
          rw [same]
          exact fun _ present => absurd present List.not_mem_nil
      | release other =>
          have different : other ≠ pool := of_decide_eq_false isApart
          have noEvents : (Instruction.release other).poolEvents pool service.world.pools rest =
              [] := if_neg different
          simp only [perform, release, proceed]
          cases isHeir : (Executor.Pool.releaseAt service.world.pools other).2 with
          | none =>
              have same : service.world.starting = [] := unstarted
              refine ⟨fun program present => ?_, [], ?_, noEvents⟩
              · rw [Option.elim_none, same] at present
                cases present
              · rw [Option.elim_none, same]
                rfl
          | some heir =>
              obtain ⟨former, found, waits⟩ := Executor.Pool.waits_of_heir isHeir
              have heirApart := others other former different found heir waits
              have starts : ({ service.world with
                  pools := (Executor.Pool.releaseAt service.world.pools other).1 }.start
                    heir).starting = [heir] := by
                simp only [Registry.start, unstarted, List.nil_append]
              rw [Option.elim_some, starts]
              refine ⟨fun program present => .inl ?_, [], ?_, noEvents⟩
              · rw [List.mem_singleton.mp present]
                exact heirApart
              · exact List.filterMap_cons_none heirApart.asking?_eq_none
      | _ => cases about

/-- It leaves the pool alone, and those that wait in other pools have nothing to do with it. -/
theorem pools_perform {instruction : Instruction} {rest : Program}
    (others : service.world.IsApartFrom pool) (apart : IsApartFrom pool (instruction :: rest)) :
    (perform instruction rest service).1.world.pools[pool]? = service.world.pools[pool]? ∧
      (perform instruction rest service).1.world.IsApartFrom pool := by
  have isApart := apart _ List.mem_cons_self
  have same (samePools : (perform instruction rest service).1.world.pools =
        service.world.pools) :
      (perform instruction rest service).1.world.pools[pool]? = service.world.pools[pool]? ∧
        (perform instruction rest service).1.world.IsApartFrom pool := by
    refine ⟨by rw [samePools], fun other state different found => ?_⟩
    rw [samePools] at found
    exact others other state different found
  cases about : instruction.isAboutPermits with
  | false => exact same (leavesPools_perform service rest about).pools
  | true =>
      cases instruction with
      | enqueue other job => exact same rfl
      | acquire other =>
          have different : other ≠ pool := of_decide_eq_false isApart
          refine ⟨Executor.Pool.getElem?_requestAt_of_ne different.symm rest, ?_⟩
          intro place state elsewhere found program waits
          rcases Executor.Pool.waiting_requestAt found waits with rfl | ⟨former, was, waited⟩
          · exact apart.tail
          · exact others place former elsewhere was program waited
      | release other =>
          have different : other ≠ pool := of_decide_eq_false isApart
          have pools : (perform (.release other) rest service).1.world.pools =
              (Executor.Pool.releaseAt service.world.pools other).1 := by
            simp only [perform, release, proceed]
            cases (Executor.Pool.releaseAt service.world.pools other).2 <;> rfl
          rw [Registry.IsApartFrom, pools]
          refine ⟨Executor.Pool.getElem?_releaseAt_of_ne different.symm, ?_⟩
          intro place state elsewhere found program waits
          obtain ⟨former, was, waited⟩ := Executor.Pool.waiting_releaseAt found waits
          exact others place former elsewhere was program waited
      | _ => cases about

end Service

end Redelivery
