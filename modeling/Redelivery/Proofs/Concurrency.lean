import Redelivery.Proofs.Exclusion
import Redelivery.Proofs.Lending

/-!
# As many resends as a configuration allows

A registry that is built from a configuration has a pool for every owner that the configuration
lists, of the size that it gives.  Whatever drives the resends, at no moment of any run are more
resends of an owner in progress than that, those of messages that were purged included, and a
resend of any other message waits for no pool.
-/

namespace Redelivery

/-! ## Configured executors -/

namespace Registry

/-- Give an owner a pool of its own. -/
def addPool (registry : Registry) (executor : String × Nat) : Registry :=
  { registry with
    routing := registry.routing.register executor.1 (.pooled registry.pools.length)
    pools := registry.pools ++ [Executor.Pool.ofSize executor.2] }

theorem setExecutors_pools (registry : Registry) (executors : List (String × Nat)) :
    registry.setExecutors (executors.map fun (owner, most) => (owner, some most)) =
      executors.foldl addPool { registry with routing := Executor.Routing.inlineOnly } := by
  rw [setExecutors, List.foldl_map]
  rfl

theorem pools_foldl_addPool (executors : List (String × Nat)) (registry : Registry) :
    (executors.foldl addPool registry).pools =
      registry.pools ++ executors.map fun executor => Executor.Pool.ofSize executor.2 := by
  induction executors generalizing registry with
  | nil => exact (List.append_nil _).symm
  | cons executor rest inductionHypothesis =>
      rw [List.foldl_cons, inductionHypothesis, List.map_cons]
      exact List.append_assoc _ _ _

theorem resolve_addPool (registry : Registry) (executor : String × Nat) (owner : String) :
    (registry.addPool executor).routing.resolve (some owner) =
      if owner = executor.1 then .pooled registry.pools.length
      else registry.routing.resolve (some owner) := by
  simp only [addPool, Executor.Routing.register, Executor.Routing.resolve, Keyed.find?_put]
  split <;> rfl

/-- An owner that gets no pool keeps its executor. -/
theorem resolve_foldl_addPool_of_absent {executors : List (String × Nat)} {owner : String}
    (absent : owner ∉ executors.map Prod.fst) (registry : Registry) :
    (executors.foldl addPool registry).routing.resolve (some owner) =
      registry.routing.resolve (some owner) := by
  induction executors generalizing registry with
  | nil => rfl
  | cons executor rest inductionHypothesis =>
      rw [List.map_cons, List.mem_cons, not_or] at absent
      rw [List.foldl_cons, inductionHypothesis absent.2, resolve_addPool, if_neg absent.1]

/-- An owner that gets one pool has that pool. -/
theorem resolve_foldl_addPool {executors : List (String × Nat)}
    (distinct : (executors.map Prod.fst).Nodup) {index : Nat} {owner : String} {most : Nat}
    (listed : executors[index]? = some (owner, most)) (registry : Registry) :
    (executors.foldl addPool registry).routing.resolve (some owner) =
      .pooled (registry.pools.length + index) := by
  induction executors generalizing registry index with
  | nil => cases listed
  | cons executor rest inductionHypothesis =>
      obtain ⟨fresh, restDistinct⟩ := List.nodup_cons.mp distinct
      rw [List.foldl_cons]
      cases index with
      | zero =>
          obtain rfl : executor = (owner, most) := Option.some.inj listed
          rw [resolve_foldl_addPool_of_absent fresh, resolve_addPool, if_pos rfl, Nat.add_zero]
      | succ index =>
          rw [inductionHypothesis restDistinct listed, addPool, List.length_append,
            List.length_singleton, Nat.add_assoc, Nat.add_comm 1]

end Registry

/-- A configuration that can be used gives every executor a permit at least. -/
theorem Config.ne_zero_of_accepted {config : Config} (accepted : config.failure? = none)
    {executor : String × Nat} (present : executor ∈ config.executors.entries) :
    executor.2 ≠ 0 := by
  unfold failure? at accepted
  split at accepted
  · cases accepted
  · intro idle
    have noneIdle := List.find?_eq_none.mp (Option.map_eq_none_iff.mp accepted) executor present
    exact noneIdle (decide_eq_true idle)

/-- Jobs go where a configuration says: to pools of certain sizes. -/
structure Config.Routes (config : Config) (routing : Executor.Routing) (sizes : List Nat) :
    Prop where
  listed : ∀ owner most, config.executors.find? owner = some most →
    ∃ pool, routing.resolve (some owner) = .pooled pool ∧ sizes[pool]? = some most
  unlisted : ∀ owner, config.executors.find? owner = none →
    routing.resolve (some owner) = .inline

namespace Config

/-- The registry that a configuration describes. -/
def registry (config : Config) (store : Option Store) : Registry :=
  (config.executors.entries.foldl Registry.addPool
    { Registry.empty (Registry.drivingOf config.scheduling) with store }).report config.builtReport

/-- A configuration that can be used describes a registry. -/
theorem build_of_accepted {config : Config} (accepted : config.failure? = none)
    (store : Option Store) : Registry.build config store = .ok (config.registry store) := by
  simp only [Registry.build, accepted, Registry.setExecutors_pools]
  rfl

/-- Its pools are those of the owners that are listed. -/
theorem pools_registry (config : Config) (store : Option Store) : (config.registry store).pools =
    config.executors.entries.map fun executor => Executor.Pool.ofSize executor.2 :=
  (Registry.pools_foldl_addPool config.executors.entries _).trans (List.nil_append _)

/-- Every owner that is listed has a pool of the size that is given, and no other owner has
one. -/
theorem routes_registry {config : Config} (accepted : config.failure? = none)
    (distinct : config.executors.Distinct) (store : Option Store) :
    config.Routes (config.registry store).routing
      ((config.registry store).pools.map Executor.Pool.capacity) := by
  rw [pools_registry]
  constructor
  · intro owner most found
    have present := (Keyed.mem_entries_iff distinct).mpr found
    obtain ⟨index, listed⟩ := List.mem_iff_getElem?.mp present
    have allowed : max most 1 = most :=
      Nat.max_eq_left (Nat.pos_of_ne_zero (ne_zero_of_accepted accepted present))
    refine ⟨_, Registry.resolve_foldl_addPool distinct listed _, ?_⟩
    rw [Registry.empty, List.length_nil, Nat.zero_add, List.getElem?_map, List.getElem?_map,
      listed]
    exact congrArg some allowed
  · intro owner absent
    refine Registry.resolve_foldl_addPool_of_absent (fun isKey => ?_) _
    obtain ⟨most, found⟩ := (Keyed.mem_keys_iff distinct).mp isKey
    cases absent.symm.trans found

end Config

namespace Service

open Deed

variable {routing : Executor.Routing} {sizes : List Nat}

/-- Nobody has asked a registry that a configuration describes for a permit. -/
theorem isBalanced_start {config : Config} (accepted : config.failure? = none)
    (store : Option Store) : IsBalanced (config.registry store).routing
      ((config.registry store).pools.map Executor.Pool.capacity)
      (Timeline.start (config.registry store)) := by
  have fresh := Registry.isFresh_build (config.build_of_accepted accepted store)
  have noProgram : Service.programs (Timeline.start (config.registry store)) = 0 := by
    have noneWaits : waitingIn (config.registry store).pools = 0 := by
      rw [waitingIn, List.flatMap_eq_nil_iff.mpr fresh.waiting]
      rfl
    change 0 + (waitingIn (config.registry store).pools +
      ((config.registry store).starting : Multiset Program)) = 0
    rw [noneWaits, fresh.starting]
    rfl
  have idle : ∀ pool ∈ (config.registry store).pools, pool.running = 0 ∧ pool.waiting = [] := by
    intro pool present
    rw [config.pools_registry store] at present
    obtain ⟨executor, _, rfl⟩ := List.mem_map.mp present
    exact ⟨rfl, rfl⟩
  refine ⟨rfl, ?_, rfl, ?_⟩
  · intro identity candidate found
    have noCandidate : (config.registry store).outline.candidates = [] := by
      rw [Registry.outline, fresh.candidates]
      rfl
    change (config.registry store).outline.candidates[identity]? = some candidate at found
    rw [noCandidate] at found
    cases found
  · rw [noProgram]
    constructor
    · exact fun _ present => absurd present (Multiset.notMem_zero _)
    · intro index pool found program present
      rw [(idle pool (List.mem_of_getElem? found)).2] at present
      cases present
    · intro index pool found
      obtain ⟨unused, noneWaits⟩ := idle pool (List.mem_of_getElem? found)
      rw [unused, noneWaits]
      rfl
    · intro pool present
      rw [(idle pool present).1]
      exact Nat.zero_le _

end Service

/-! ## Resends under way -/

/-- The resends of an owner that are under way. -/
def underWayOf (owner : String) (errands : Multiset Errand) : Multiset Job :=
  (errands.filterMap Errand.underWay?).filter fun job => job.message.owner = some owner

@[simp]
theorem underWayOf_add (owner : String) (first second : Multiset Errand) :
    underWayOf owner (first + second) = underWayOf owner first + underWayOf owner second := by
  rw [underWayOf, Multiset.filterMap_add, Multiset.filter_add, underWayOf, underWayOf]

theorem underWayOf_eq_zero {owner : String} {errands : Multiset Errand}
    (noneSuch : ∀ job, .underWay job ∈ errands → job.message.owner ≠ some owner) :
    underWayOf owner errands = 0 := by
  refine Multiset.filter_eq_nil.mpr fun job present => ?_
  obtain ⟨errand, isErrand, isJob⟩ := (Multiset.mem_filterMap _ _).mp present
  cases errand with
  | waiting other => cases isJob
  | underWay other =>
      obtain rfl : other = job := Option.some.inj isJob
      exact noneSuch other isErrand

section Counting

variable {routing : Executor.Routing} {owner : String} {pool : Nat}
  (routed : routing.resolve (some owner) = .pooled pool)

theorem mem_errandsOf_iff {program : Program} {errand : Errand} :
    errand ∈ errandsOf program ↔
      ∃ instruction ∈ program, instruction.errand? = some errand := by
  rw [errandsOf, Multiset.mem_coe, List.mem_filterMap]

include routed

/-- A program in which a resend of the owner is under way owes a permit of the owner's pool. -/
theorem card_underWayOf_le {program : Program} (follows : Follows routing program) :
    Multiset.card (underWayOf owner (errandsOf program)) ≤ if owes pool program then 1 else 0 := by
  cases follows with
  | apart apart =>
      rw [underWayOf_eq_zero]
      · exact Nat.zero_le _
      · intro job present owned
        obtain ⟨instruction, isIn, isErrand⟩ := mem_errandsOf_iff.mp present
        cases instruction with
        | conclude concluded failure =>
            obtain rfl : concluded = job := by
              cases isErrand
              rfl
            have inline : routing.resolve concluded.message.owner = .inline := apart _ isIn
            rw [owned, routed] at inline
            cases inline
        | _ => cases isErrand
  | asking _ => exact Nat.zero_le _
  | admitted _ => exact Nat.zero_le _
  | @underWay other job failure resolved =>
      by_cases owned : job.message.owner = some owner
      · obtain rfl : pool = other := by
          rw [owned, routed] at resolved
          exact Executor.Route.pooled.inj resolved
        have owed : owes pool [.conclude job failure, .release pool] = true := decide_eq_true rfl
        rw [if_pos owed]
        exact (Multiset.card_le_card (Multiset.filter_le _ _)).trans (Nat.le_refl 1)
      · rw [underWayOf_eq_zero]
        · exact Nat.zero_le _
        · intro present isPresent
          obtain rfl : present = job := by
            rw [show errandsOf [.conclude job failure, .release other] = {.underWay job} from rfl]
              at isPresent
            cases Multiset.mem_singleton.mp isPresent
            rfl
          exact owned
  | leaving => exact Nat.zero_le _

/-- So no more resends of the owner are under way than permits of its pool are owed. -/
theorem card_underWayOf_le_dues {programs : Multiset Program}
    (follows : ∀ program ∈ programs, Follows routing program) :
    Multiset.card (underWayOf owner (errandsIn programs)) ≤ dues pool programs := by
  induction programs using Multiset.induction with
  | empty => exact Nat.le_refl 0
  | cons program rest inductionHypothesis =>
      have here := card_underWayOf_le routed (follows program (Multiset.mem_cons_self _ _))
      have others := inductionHypothesis fun other present =>
        follows other (Multiset.mem_cons_of_mem present)
      rw [errandsIn_cons, underWayOf_add, Multiset.card_add, dues_cons]
      omega

end Counting

/-- The programs that wait in a pool owe its permits. -/
theorem Balanced.length_waiting_le {routing : Executor.Routing}
    {pools : List (Executor.Pool Program)} {programs : Multiset Program} {index : Nat}
    {pool : Executor.Pool Program} (balanced : Balanced routing pools programs)
    (found : pools[index]? = some pool) : pool.waiting.length ≤ dues index (waitingIn pools) := by
  have among : (pool.waiting : Multiset Program) ≤ waitingIn pools := by
    refine Multiset.coe_le.mpr (List.Sublist.subperm ?_)
    rw [List.flatMap_def]
    exact List.sublist_flatten_of_mem (List.mem_map_of_mem (List.mem_of_getElem? found))
  have allOwe : dues index (pool.waiting : Multiset Program) = pool.waiting.length := by
    rw [← Multiset.coe_card]
    refine Multiset.countP_eq_card.mpr fun program present => ?_
    obtain ⟨job, rfl, _⟩ := balanced.waits index pool found program present
    exact decide_eq_true rfl
  rw [← allOwe]
  exact Multiset.countP_le_of_le _ among

namespace Service

variable {routing : Executor.Routing} {sizes : List Nat} {service : Service} {owner : String}
  {pool most : Nat}

/-- The programs that no pool keeps waiting. -/
def going (service : Service) : Multiset Program :=
  service.running + (service.world.starting : Multiset Program)

theorem programs_eq_going (service : Service) :
    service.programs = waitingIn service.world.pools + service.going := by
  rw [programs, going, Registry.held]
  abel

/-- Of the permits of a pool no more are owed than there are, apart from programs that wait for
them. -/
theorem IsBalanced.dues_going_le (isBalanced : service.IsBalanced routing sizes)
    (sized : sizes[pool]? = some most) : dues pool service.going ≤ most := by
  obtain ⟨found, isFound, rfl⟩ : ∃ found, service.world.pools[pool]? = some found ∧
      found.capacity = most := by
    rw [← isBalanced.sizes, List.getElem?_map] at sized
    exact Option.map_eq_some_iff.mp sized
  have lent := isBalanced.balanced.lent pool found isFound
  have waiting := isBalanced.balanced.length_waiting_le isFound
  have bounded := isBalanced.balanced.bounded found (List.mem_of_getElem? isFound)
  rw [programs_eq_going, dues_add] at lent
  omega

/-- No resend is under way in a program that waits. -/
theorem IsBalanced.underWayOf_programs (isBalanced : service.IsBalanced routing sizes)
    (owner : String) : underWayOf owner (errandsIn service.programs) =
      underWayOf owner (errandsIn service.going) := by
  have noneWaits : underWayOf owner (errandsIn (waitingIn service.world.pools)) = 0 := by
    refine underWayOf_eq_zero fun job present => ?_
    obtain ⟨program, isWaiting, isIn⟩ := Multiset.mem_bind.mp present
    obtain ⟨found, isPool, waits⟩ := List.mem_flatMap.mp (Multiset.mem_coe.mp isWaiting)
    obtain ⟨index, isFound⟩ := List.mem_iff_getElem?.mp isPool
    obtain ⟨other, rfl, _⟩ := isBalanced.balanced.waits index found isFound program waits
    cases Multiset.mem_singleton.mp isIn
  rw [programs_eq_going, errandsIn_add, underWayOf_add, noneWaits, zero_add]

theorem IsBalanced.follows_going (isBalanced : service.IsBalanced routing sizes) :
    ∀ program ∈ service.going, Follows routing program := by
  intro program present
  refine isBalanced.balanced.follows program ?_
  rw [programs_eq_going]
  exact Multiset.mem_add.mpr (.inr present)

/-- No more resends of an owner are under way than its pool has permits. -/
theorem IsBalanced.card_underWayOf_le (isBalanced : service.IsBalanced routing sizes)
    (routed : routing.resolve (some owner) = .pooled pool) (sized : sizes[pool]? = some most) :
    Multiset.card (underWayOf owner (errandsIn service.programs)) ≤ most := by
  rw [isBalanced.underWayOf_programs]
  exact (card_underWayOf_le_dues routed isBalanced.follows_going).trans
    (isBalanced.dues_going_le sized)

/-- A program that is about to send a message of the owner has a permit already. -/
theorem IsBalanced.card_underWayOf_lt (isBalanced : service.IsBalanced routing sizes)
    (routed : routing.resolve (some owner) = .pooled pool) (sized : sizes[pool]? = some most)
    {job : Job} {rest : Program} {foreground : Bool} {index : Nat}
    (ready : service.ready[index]? = some ⟨.send job :: rest, foreground⟩)
    (owned : job.message.owner = some owner) :
    Multiset.card (underWayOf owner (errandsIn service.programs)) < most := by
  have isGoing : .send job :: rest ∈ service.going := by
    have isReady : .send job :: rest ∈ service.ready.map Activity.program :=
      List.mem_map_of_mem (List.mem_of_getElem? ready)
    exact Multiset.mem_add.mpr (.inl (Multiset.mem_add.mpr (.inl isReady)))
  obtain ⟨others, isOthers⟩ := Multiset.exists_cons_of_mem isGoing
  have follows := isBalanced.follows_going
  have permits := isBalanced.dues_going_le sized
  rw [isBalanced.underWayOf_programs]
  rw [isOthers] at follows permits ⊢
  have elsewhere := card_underWayOf_le_dues routed fun program present =>
    follows program (Multiset.mem_cons_of_mem present)
  have here := follows _ (Multiset.mem_cons_self _ _)
  generalize isProgram : .send job :: rest = program at here permits
  cases here with
  | apart apart =>
      subst isProgram
      have inline : routing.resolve job.message.owner = .inline := apart _ List.mem_cons_self
      rw [owned, routed] at inline
      cases inline
  | @admitted other job resolved =>
      cases isProgram
      obtain rfl : pool = other := by
        rw [owned, routed] at resolved
        exact Executor.Route.pooled.inj resolved
      have owed : owes pool [.send job, .release pool] = true := decide_eq_true rfl
      have noneHere : underWayOf owner (errandsOf [.send job, .release pool]) = 0 := rfl
      rw [dues_cons, owed, if_pos rfl] at permits
      rw [errandsIn_cons, underWayOf_add, noneHere, zero_add]
      omega
  | asking resolved => cases isProgram
  | underWay resolved => cases isProgram
  | leaving => cases isProgram

/-! ## The main result -/

/-- The resends of an owner that are in progress, by what was done so far. -/
def inProgressOf (owner : String) (deeds : List Deed) : Multiset Job :=
  (Deed.inProgress deeds).filter fun job => job.message.owner = some owner

/-- What is done further adds the resends that begin at most. -/
theorem inProgress_append_le (first second : List Deed) :
    Deed.inProgress (first ++ second) ≤ Deed.inProgress first + Deed.jobsOf Deed.begun? second := by
  simp only [Deed.inProgress, Deed.jobsOf_append]
  rw [tsub_le_iff_right]
  calc
    Deed.jobsOf Deed.begun? first + Deed.jobsOf Deed.begun? second ≤
        Deed.jobsOf Deed.begun? first - Deed.jobsOf Deed.completed? first +
          Deed.jobsOf Deed.completed? first + Deed.jobsOf Deed.begun? second :=
      add_le_add_left le_tsub_add _
    _ = Deed.jobsOf Deed.begun? first - Deed.jobsOf Deed.completed? first +
          Deed.jobsOf Deed.begun? second + Deed.jobsOf Deed.completed? first := add_right_comm _ _ _
    _ ≤ _ := add_le_add_right (Multiset.le_add_right _ _) _

/-- In the middle of a move, too, no more resends of an owner are in progress than its pool has
permits. -/
theorem IsBalanced.card_inProgressOf_le (isBalanced : service.IsBalanced routing sizes)
    (routed : routing.resolve (some owner) = .pooled pool) (sized : sizes[pool]? = some most)
    {past : List Deed}
    (accounted : errandsIn service.programs + Deed.takenBy past = Deed.leftBy past) {move : Move}
    {early late : List Deed} (done : service.deeds move = early ++ late) :
    Multiset.card (inProgressOf owner (past ++ early)) ≤ most := by
  have soFar : inProgressOf owner past = underWayOf owner (errandsIn service.programs) := by
    rw [inProgressOf, Deed.inProgress_of_accounted accounted, underWayOf]
  have adds : inProgressOf owner (past ++ early) ≤ inProgressOf owner past +
      (Deed.jobsOf Deed.begun? early).filter fun job => job.message.owner = some owner := by
    rw [inProgressOf, inProgressOf, ← Multiset.filter_add]
    exact Multiset.filter_le_filter _ (inProgress_append_le past early)
  have begins : Deed.jobsOf Deed.begun? early ≤ Deed.jobsOf Deed.begun? (service.deeds move) := by
    rw [done, Deed.jobsOf_append]
    exact Multiset.le_add_right _ _
  have bound := Multiset.card_le_card adds
  rw [soFar, Multiset.card_add] at bound
  have underWay := isBalanced.card_underWayOf_le routed sized
  by_cases owned : (Deed.jobsOf Deed.begun? early).filter
      (fun job => job.message.owner = some owner) = 0
  · rw [owned, Multiset.card_zero] at bound
    exact bound.trans underWay
  · obtain ⟨job, isJob⟩ := Multiset.exists_mem_of_ne_zero owned
    obtain ⟨isBegun, isOwned⟩ := Multiset.mem_filter.mp isJob
    rcases begun_deeds service move with none | ⟨index, other, rest, foreground, _, ready, only⟩
    · rw [none] at begins
      exact (Multiset.notMem_zero job (Multiset.mem_of_le begins isBegun)).elim
    · rw [only] at begins
      obtain rfl := Multiset.mem_singleton.mp (Multiset.mem_of_le begins isBegun)
      have room := isBalanced.card_underWayOf_lt routed sized ready isOwned
      have atMostOne := (Multiset.card_le_card
        (Multiset.filter_le (fun job => job.message.owner = some owner) _)).trans
          (Multiset.card_le_card begins)
      rw [Multiset.card_singleton] at atMostOne
      omega

/-- A resend that no pool serves waits for none: it is in no program that waits, and in none that
asks a pool for a permit, or is to hand it to a pool. -/
theorem IsBalanced.inline_of_unrouted (isBalanced : service.IsBalanced routing sizes) {job : Job}
    (inline : routing.resolve job.message.owner = .inline) :
    (∀ pool ∈ service.world.pools, ∀ program ∈ pool.waiting,
        .waiting job ∉ errandsOf program) ∧
      ∀ program ∈ service.programs, .waiting job ∈ errandsOf program →
        ∀ pool, .acquire pool ∉ program ∧ .enqueue pool job ∉ program := by
  constructor
  · intro pool present program waits isIn
    obtain ⟨index, found⟩ := List.mem_iff_getElem?.mp present
    obtain ⟨other, rfl, routed⟩ := isBalanced.balanced.waits index pool found program waits
    cases Multiset.mem_singleton.mp isIn
    rw [inline] at routed
    cases routed
  · intro program present isIn pool
    have follows := isBalanced.balanced.follows program present
    have pooledElsewhere {other : Job} {index : Nat}
        (routed : routing.resolve other.message.owner = .pooled index) (same : job = other) :
        False := by
      rw [← same, inline] at routed
      cases routed
    cases follows with
    | apart apart =>
        refine ⟨fun asks => apart _ asks, fun hands => ?_⟩
        have routed : routing.resolve job.message.owner = .pooled pool := apart _ hands
        exact pooledElsewhere routed rfl
    | asking routed =>
        cases Multiset.mem_singleton.mp isIn
        exact (pooledElsewhere routed rfl).elim
    | admitted routed =>
        cases Multiset.mem_singleton.mp isIn
        exact (pooledElsewhere routed rfl).elim
    | underWay routed => cases Multiset.mem_singleton.mp isIn
    | leaving => cases isIn

/-- The pools and the programs agree as long as no other executors are set. -/
theorem IsBalanced.run {first last : Service} {moves : List Move} (sound : first.Sound)
    (isBalanced : first.IsBalanced routing sizes)
    (kept : ∀ executors, .command (.setExecutors executors) ∉ moves)
    (run : Run first moves last) : last.IsBalanced routing sizes := by
  induction run with
  | start => exact isBalanced
  | @extend moves move middle last run moved inductionHypothesis =>
      have soFar := inductionHypothesis fun executors present =>
        kept executors (List.mem_append_left _ present)
      refine soFar.move (sound.run run).tidy (fun executors same => ?_) moved
      exact kept executors (same ▸ List.mem_append_right _ (List.mem_singleton_self _))

/-- A configuration that can be used, and lists no owner twice, describes a registry.  As long as
the registry keeps its executors, no more resends of an owner that is listed are in progress than
the configuration allows, at no moment of what any run does, whether or not their messages have
been purged; and a resend of a message without an owner, or with one that is not listed, waits for
no pool. -/
theorem within_concurrency {config : Config} (accepted : config.failure? = none)
    (distinct : config.executors.Distinct) (store : Option Store) :
    ∃ registry, Registry.build config store = .ok registry ∧
      ∀ moves last, Run (Timeline.start registry) moves last →
        (∀ executors, .command (.setExecutors executors) ∉ moves) →
        (∀ early late, history moves (Timeline.start registry) = early ++ late →
          ∀ owner most, config.executors.find? owner = some most →
            Multiset.card (inProgressOf owner early) ≤ most) ∧
        ∀ job : Job, (∀ owner ∈ job.message.owner, config.executors.find? owner = none) →
          (∀ pool ∈ last.world.pools, ∀ program ∈ pool.waiting,
              .waiting job ∉ errandsOf program) ∧
            ∀ program ∈ last.programs, .waiting job ∈ errandsOf program →
              ∀ pool, .acquire pool ∉ program ∧ .enqueue pool job ∉ program := by
  have built := config.build_of_accepted accepted store
  have routes := config.routes_registry accepted distinct store
  have isBalanced := isBalanced_start accepted store
  have initial : Service.IsInitial (Timeline.start (config.registry store)) :=
    ⟨_, Registry.isFresh_build built, rfl⟩
  refine ⟨_, built, fun moves last run kept => ⟨?_, fun job unlisted => ?_⟩⟩
  · induction run with
    | start =>
        intro early late isHistory owner most _
        obtain ⟨rfl, _⟩ := List.append_eq_nil_iff.mp isHistory.symm
        exact Nat.zero_le most
    | @extend moves move middle last run moved inductionHypothesis =>
        have keptBefore : ∀ executors, .command (.setExecutors executors) ∉ moves :=
          fun executors present => kept executors (List.mem_append_left _ present)
        intro early late isHistory owner most listed
        rw [history, gather_concat deeds run] at isHistory
        rcases List.append_eq_append_iff.mp isHistory with ⟨begun, rfl, rest⟩ | ⟨more, isPast, _⟩
        · obtain ⟨pool, routed, sized⟩ := routes.listed owner most listed
          exact (IsBalanced.run initial.sound isBalanced keptBefore run).card_inProgressOf_le routed
            sized (errandsIn_run initial run) rest
        · exact inductionHypothesis keptBefore early more isPast owner most listed
  · refine (IsBalanced.run initial.sound isBalanced kept run).inline_of_unrouted ?_
    cases owned : job.message.owner with
    | none => rfl
    | some owner => exact routes.unlisted owner (unlisted owner owned)

end Service

namespace Sample

/-- A configuration with an executor that lets one resend of its owner run. -/
def narrow : Config :=
  { policy := Policy.standard
    scheduling := .manual
    executors := Keyed.empty.put "orders" 1 }

/-- Two slow resends of the owner are handed over; the first one is under way and the second one
waits for its permit when the sequence is purged. -/
def crowded : List Move :=
  [.command (.prepare (sequence, 1) [{ takes := 5, failure := none }]),
    .command (.prepare (sequence, 2) [{ takes := 5, failure := none }]),
    .command (.add (message 1 (some "orders"))), .command (.add (message 2 (some "orders"))),
    .command (.request none (.driveDue 1000000000000)),
    .step 0, .step 0, .step 0, .step 0, .step 0, .step 0, .step 0, .step 0, .step 0,
    .command (.purgeAll sequence)]

end Sample

namespace Service

/-- A resend in progress counts although its message was purged, and the next one waits. -/
theorem within_concurrency_of_crowded :
    ∃ registry last, Registry.build Sample.narrow none = .ok registry ∧
      Run (Timeline.start registry) Sample.crowded last ∧ last.world.countAll = 0 ∧
      last.world.pools.map (fun pool => pool.waiting.length) = [1] ∧
      Multiset.card (inProgressOf "orders"
        (history Sample.crowded (Timeline.start registry))) = 1 ∧
      Multiset.card (inProgressOf "orders"
        (history Sample.crowded (Timeline.start registry))) ≤ 1 ∧
      ∀ job : Job, job.message.owner = none →
        ∀ program ∈ last.programs, .waiting job ∈ errandsOf program →
          ∀ pool, .acquire pool ∉ program := by
  have accepted : Sample.narrow.failure? = none := by decide +kernel
  have distinct : Sample.narrow.executors.Distinct := Keyed.distinct_empty.put "orders" 1
  obtain ⟨registry, built, holds⟩ := within_concurrency accepted distinct none
  obtain rfl : Sample.narrow.registry none = registry :=
    Except.ok.inj ((Sample.narrow.build_of_accepted accepted none).symm.trans built)
  have course : ((follow Sample.crowded (Timeline.start (Sample.narrow.registry none))).map
      fun service => (service.world.countAll,
        service.world.pools.map fun pool => pool.waiting.length)) = some (0, [1]) := by
    decide +kernel
  obtain ⟨last, followed, looks⟩ := Option.map_eq_some_iff.mp course
  obtain ⟨purged, waiting⟩ := Prod.mk.inj looks
  have run := Run.of_follow followed
  have kept : ∀ executors, .command (.setExecutors executors) ∉ Sample.crowded := by
    intro executors present
    simp [Sample.crowded] at present
  obtain ⟨bounded, inline⟩ := holds Sample.crowded last run kept
  refine ⟨_, last, built, run, purged, waiting, by decide +kernel, ?_, ?_⟩
  · exact bounded _ [] (List.append_nil _).symm "orders" 1 (by decide +kernel)
  · intro job unowned program present isIn pool
    have nobody : ∀ owner ∈ job.message.owner, Sample.narrow.executors.find? owner = none := by
      rw [unowned]
      exact fun _ isOwner => by cases isOwner
    exact ((inline job nobody).2 program present isIn pool).1

end Service

end Redelivery
