import Redelivery.Proofs.Listing
import Redelivery.Proofs.Origin
import Redelivery.Proofs.Permits
import Redelivery.Proofs.Surroundings

/-!
# How permits are lent

Whatever an activity does next, it leaves the pools alone unless it asks for a permit or gives
one back, and what it hands over goes where the owner of the message is routed.  So the pools
and the programs agree after every move, as long as no other executors are set.
-/

namespace Redelivery

variable {routing : Executor.Routing}

/-! ## Instructions -/

/-- The executors and the programs that a registry keeps are left alone, timers apart. -/
structure Registry.LeavesPools (before after : Registry) : Prop where
  routing : after.routing = before.routing
  pools : after.pools = before.pools
  programs : after.outline.programs = before.outline.programs

theorem Registry.leavesPools_of_abides {before after : Registry} (abides : before.Abides after)
    (keeps : before.outline.Keeps after.outline) : before.LeavesPools after where
  routing := abides.routing
  pools := congrArg Surroundings.pools abides.surroundings
  programs := keeps.programs

/-- Whether an instruction concerns the permits of a pool. -/
def Instruction.isAboutPermits : Instruction → Bool
  | .enqueue _ _ | .acquire _ | .release _ => true
  | _ => false

namespace Registry

theorem leavesPools_fireTimer (registry : Registry) (alarm : Alarm) :
    registry.LeavesPools (registry.fireTimer alarm).1 :=
  leavesPools_of_abides (registry.abides_fireTimer alarm) (registry.hands_fireTimer alarm).keeps

theorem leavesPools_concludeSend (registry : Registry) (now : Nat) (job : Job)
    (failure : Option TransportFailure) :
    registry.LeavesPools (registry.concludeSend now job failure) := by
  refine leavesPools_of_abides (registry.abides_concludeSend now job failure) ?_
  rw [outline_concludeSend]
  exact Outline.keeps_modify _ _ _

theorem leavesPools_shutdown (registry : Registry) : registry.LeavesPools registry.shutdown := by
  refine leavesPools_of_abides (isUpkeep_abides.shutdown registry) ?_
  rw [outline_shutdown]
  exact Outline.keeps_modifyAll _ _ _

end Registry

namespace Service

/-- Apart from those about permits, no instruction concerns a pool. -/
theorem leavesPools_perform (service : Service) {instruction : Instruction} (rest : Program)
    (apart : instruction.isAboutPermits = false) :
    service.world.LeavesPools (perform instruction rest service).1.world := by
  cases instruction with
  | ring ticket =>
      simp only [perform, ring]
      split
      · exact ⟨rfl, rfl, rfl⟩
      · next entry _ =>
          split
          · let taken := { service.world with agenda := service.world.agenda.cancel ticket }
            have fires := taken.leavesPools_fireTimer entry.task
            exact ⟨fires.routing, fires.pools, fires.programs⟩
          · exact ⟨rfl, rfl, rfl⟩
  | send job =>
      simp only [perform, send]
      split
      · let begun := (service.world.beginSend service.now job).1
        split
        · have concludes := begun.leavesPools_concludeSend service.now job
            (service.world.beginSend service.now job).2.failure
          exact ⟨concludes.routing, concludes.pools, concludes.programs⟩
        · exact ⟨rfl, rfl, rfl⟩
      · exact ⟨rfl, rfl, rfl⟩
  | conclude job failure => exact service.world.leavesPools_concludeSend service.now job failure
  | driveDue upTo call =>
      have keeps := keeps_forceDue (service.world.report (.enter "drive_due")) upTo
      have abides := abides_forceDue (service.world.report (.enter "drive_due")) upTo
      exact ⟨abides.routing, congrArg Surroundings.pools abides.surroundings, keeps.programs⟩
  | attempt sequence number call =>
      simp only [perform, attempt]
      split
      · exact ⟨rfl, rfl, rfl⟩
      · next identity _ =>
          exact Registry.leavesPools_of_abides (service.world.abides_force identity none)
            (service.world.hands_force identity none).keeps
  | runDue upTo ran call =>
      simp only [perform, runDue]
      split
      · exact ⟨rfl, rfl, rfl⟩
      · next entry agenda _ =>
          have fires := Registry.leavesPools_fireTimer { service.world with agenda } entry.task
          exact ⟨fires.routing, fires.pools, fires.programs⟩
  | serve call => exact ⟨rfl, rfl, rfl⟩
  | hear news =>
      have shut := (service.world.report (newsReport news)).leavesPools_shutdown
      exact ⟨shut.routing, shut.pools, shut.programs⟩
  | leave operation => exact ⟨rfl, rfl, rfl⟩
  | reply call answer => exact ⟨rfl, rfl, rfl⟩
  | enqueue _ _ | acquire _ | release _ => cases apart

/-- A resend that goes out is concluded, at once or later, and one that does not go out leaves
the rest of its program. -/
theorem pace_send (service : Service) (job : Job) (rest : Program) :
    (service.send job rest).2.programs = {rest} ∨
      ∃ failure, (service.send job rest).2.programs = {.conclude job failure :: rest} := by
  unfold send
  split
  · simp only
    split
    · exact .inl rfl
    · exact .inr ⟨_, rfl⟩
  · exact .inl rfl

end Service

/-- Every candidate brings its jobs to the same executors. -/
def Outline.IsRouted (routing : Executor.Routing) (outline : Outline) : Prop :=
  ∀ (identity : Nat) candidate, outline.candidates[identity]? = some candidate →
    candidate.routing = routing

theorem Outline.IsRouted.of_view {before after : Outline} (routed : before.IsRouted routing)
    (same : ∀ identity : Nat, (after.candidates[identity]?).map Candidate.routing =
      (before.candidates[identity]?).map Candidate.routing) : after.IsRouted routing := by
  intro identity candidate found
  have atSame := same identity
  rw [found] at atSame
  obtain ⟨former, was, sameRouting⟩ := Option.map_eq_some_iff.mp atSame.symm
  rw [← sameRouting]
  exact routed identity former was

theorem Outline.IsRouted.hands {before after : Outline} {identity : Nat} {job : Option Job}
    (routed : before.IsRouted routing) (hands : before.Hands identity after job) :
    after.IsRouted routing := by
  cases hands with
  | nothing => exact routed
  | job found free held =>
      have sameRouting (candidate : Candidate) : candidate.handedOver.routing = candidate.routing :=
        rfl
      exact routed.of_view fun other => Outline.view_modify sameRouting before identity other

namespace Service

/-- Whoever goes on with a job that was handed over leaves the pools to the programs of its
delivery. -/
theorem apart_pursue {handed : Registry × Option Job} {routingOf : Candidate → Executor.Routing}
    (routed : ∀ identity candidate, handed.1.candidate? identity = some candidate →
      routingOf candidate = routing) (service : Service) {rest : Program}
    (apart : ∀ instruction ∈ rest, instruction.IsApart routing) :
    ∀ program ∈ (service.pursue handed routingOf rest).2.programs,
      ∀ instruction ∈ program, instruction.IsApart routing := by
  intro program present instruction isIn
  rw [Multiset.mem_singleton.mp present] at isIn
  rcases List.mem_append.mp isIn with delivered | later
  · split at delivered
    · cases delivered
    · next job _ =>
        split at delivered
        · cases delivered
        · next candidate found =>
            rw [routed _ candidate found] at delivered
            exact isApart_delivery job instruction delivered
  · exact apart instruction later

theorem apart_cons {instruction : Instruction} {rest : Program}
    (isApart : instruction.IsApart routing)
    (restApart : ∀ other ∈ rest, other.IsApart routing) :
    ∀ other ∈ instruction :: rest, other.IsApart routing :=
  List.forall_mem_cons.mpr ⟨isApart, restApart⟩

theorem apart_singleton {program : Program} {programs : Multiset Program}
    (apart : ∀ instruction ∈ program, instruction.IsApart routing) (same : programs = {program}) :
    ∀ other ∈ programs, ∀ instruction ∈ other, instruction.IsApart routing := by
  intro other present
  rw [same] at present
  rw [Multiset.mem_singleton.mp present]
  exact apart

/-- What is left to do of a program apart from pools is apart from them. -/
theorem apart_perform {service : Service} {instruction : Instruction} {rest : Program}
    (sameRouting : service.world.routing = routing)
    (routed : service.world.outline.IsRouted routing)
    (apart : ∀ other ∈ instruction :: rest, other.IsApart routing) :
    ∀ program ∈ (perform instruction rest service).2.programs,
      ∀ other ∈ program, other.IsApart routing := by
  obtain ⟨isApart, restApart⟩ := List.forall_mem_cons.mp apart
  have candidateRouted {registry : Registry} (isRouted : registry.outline.IsRouted routing) :
      ∀ identity candidate, registry.candidate? identity = some candidate →
        candidate.routing = routing := by
    intro identity candidate found
    exact isRouted identity candidate.untimed (by rw [Registry.getElem?_outline, found]; rfl)
  cases instruction with
  | ring ticket =>
      simp only [perform, ring]
      split
      · exact fun _ present => absurd present (Multiset.notMem_zero _)
      · next entry _ =>
          split
          · let taken := { service.world with agenda := service.world.agenda.cancel ticket }
            have fired : (taken.fireTimer entry.task).1.outline.IsRouted routing :=
              routed.hands (taken.hands_fireTimer entry.task)
            exact apart_pursue (candidateRouted fired) service restApart
          · exact apart_singleton apart rfl
  | send job =>
      rcases pace_send service job rest with same | ⟨failure, same⟩
      · exact apart_singleton restApart same
      · refine apart_singleton (apart_cons ?_ restApart) same
        exact isApart
  | conclude job failure => exact apart_singleton restApart rfl
  | enqueue pool job => exact apart_singleton restApart rfl
  | driveDue upTo call =>
      have abides := abides_forceDue (service.world.report (.enter "drive_due")) upTo
      have stillRouting := abides.routing.trans sameRouting
      refine apart_singleton ?_ rfl
      intro other present
      rcases List.mem_append.mp present with delivered | later
      · obtain ⟨job, _, isIn⟩ := List.mem_flatMap.mp delivered
        exact isApart_delivery job other (stillRouting ▸ isIn)
      · exact apart_cons (by trivial) (apart_cons (by trivial) restApart) other later
  | attempt sequence number call =>
      simp only [perform, attempt]
      split
      · exact apart_singleton (apart_cons (by trivial) restApart) rfl
      · next identity _ =>
          have abides := service.world.abides_force identity none
          exact apart_pursue (fun _ _ _ => abides.routing.trans sameRouting) service
            (apart_cons (by trivial) restApart)
  | runDue upTo ran call =>
      simp only [perform, runDue]
      split
      · exact apart_singleton (apart_cons (by trivial) restApart) rfl
      · next entry agenda _ =>
          let taken := { service.world with agenda }
          have fired : (taken.fireTimer entry.task).1.outline.IsRouted routing :=
            routed.hands (taken.hands_fireTimer entry.task)
          exact apart_pursue (candidateRouted fired) service (apart_cons (by trivial) restApart)
  | serve call => exact fun _ present => absurd present (Multiset.notMem_zero _)
  | hear news => exact apart_singleton restApart rfl
  | leave operation => exact apart_singleton restApart rfl
  | reply call answer => exact apart_singleton restApart rfl
  | acquire pool => exact isApart.elim
  | release pool => exact isApart.elim

/-- Where an instruction leaves the pools and the programs of the registry alone, what matters is
how its own program goes on. -/
theorem balanced_of_leaves {service : Service} {registry : Registry} {more : Multiset Program}
    (leaves : service.world.LeavesPools registry)
    (balanced : Balanced routing service.world.pools (more + service.programs)) :
    Balanced routing registry.pools (more + (service.running + registry.held)) := by
  rw [leaves.pools]
  refine balanced.congr ?_
  have sameHeld : apartFromRings registry.held = apartFromRings service.world.held :=
    leaves.programs
  simp only [programs, apartFromRings_add, sameHeld]

/-- Handing a job to its pool starts a program that asks for a permit. -/
theorem balanced_enqueue {service : Service} {pool : Nat} {job : Job} {rest : Program}
    (apart : ∀ other ∈ .enqueue pool job :: rest, other.IsApart routing)
    (balanced : Balanced routing service.world.pools
      ((.enqueue pool job :: rest) ::ₘ service.programs)) :
    Balanced routing service.world.pools ({rest} + (service.running +
      (service.world.start [.acquire pool, .send job, .release pool]).held)) := by
  obtain ⟨routed, restApart⟩ := List.forall_mem_cons.mp apart
  have started : {rest} + (service.running +
      (service.world.start [.acquire pool, .send job, .release pool]).held) =
        {rest} + {[.acquire pool, .send job, .release pool]} + service.programs := by
    simp only [programs, Registry.held, Registry.start, ← Multiset.coe_add,
      Multiset.coe_singleton]
    abel
  rw [started]
  apply balanced.replace
  · intro other present
    rcases Multiset.mem_add.mp present with goes | starts
    · rw [Multiset.mem_singleton.mp goes]
      exact .apart restApart
    · rw [Multiset.mem_singleton.mp starts]
      exact .asking routed
  · intro index _ _
    have owesNothing : owes index [.acquire pool, .send job, .release pool] = false := rfl
    rw [owes_of_apart apart, dues_add, ← Multiset.cons_zero, dues_cons, ← Multiset.cons_zero,
      dues_cons, owesNothing, owes_of_apart restApart]
    rfl

/-- A program that asks for a permit goes on with it, or waits in the pool. -/
theorem balanced_acquire {service : Service} {pool : Nat} {job : Job}
    (routed : routing.resolve job.message.owner = .pooled pool)
    (balanced : Balanced routing service.world.pools
      ([.acquire pool, .send job, .release pool] ::ₘ service.programs)) :
    Balanced routing (service.acquire pool [.send job, .release pool]).1.world.pools
      ((service.acquire pool [.send job, .release pool]).2.programs +
        (service.running + (service.acquire pool [.send job, .release pool]).1.world.held)) := by
  rw [add_left_comm, programs_acquire, add_left_comm]
  exact balanced.request routed

/-- A permit that is given back is free, or goes to the first program that waits for it. -/
theorem balanced_release {service : Service} {pool : Nat}
    (balanced : Balanced routing service.world.pools ([.release pool] ::ₘ service.programs)) :
    Balanced routing (service.release pool []).1.world.pools
      ({[]} + (service.running + (service.release pool []).1.world.held)) := by
  have samePools : (service.release pool []).1.world.pools =
      (Executor.Pool.releaseAt service.world.pools pool).1 := by
    simp only [release, proceed]
    cases (Executor.Pool.releaseAt service.world.pools pool).2 <;> rfl
  have sameHeld : apartFromRings (service.release pool []).1.world.held =
      apartFromRings service.world.held := by
    have sameOutline := outline_release service pool []
    exact (congrArg Outline.programs sameOutline :)
  rw [samePools]
  apply balanced.giveBack.congr
  simp only [← Multiset.singleton_add, programs, apartFromRings_add, sameHeld]

/-- Whatever a program does next, the pools and the programs still agree. -/
theorem balanced_perform {service : Service} {instruction : Instruction} {rest : Program}
    (sameRouting : service.world.routing = routing)
    (routed : service.world.outline.IsRouted routing)
    (balanced : Balanced routing service.world.pools
      ((instruction :: rest) ::ₘ service.programs)) :
    Balanced routing (perform instruction rest service).1.world.pools
      ((perform instruction rest service).2.programs +
        (service.running + (perform instruction rest service).1.world.held)) := by
  have follows := balanced.follows _ (Multiset.mem_cons_self _ _)
  generalize isProgram : instruction :: rest = program at follows balanced
  cases follows with
  | @apart program apart =>
      subst isProgram
      cases about : instruction.isAboutPermits with
      | false =>
          exact balanced_of_leaves (leavesPools_perform service rest about)
            (balanced.replace_apart apart (apart_perform sameRouting routed apart))
      | true =>
          cases instruction with
          | enqueue pool job =>
              simp only [perform, proceed, Pace.programs]
              exact balanced_enqueue apart balanced
          | acquire pool => exact (apart _ List.mem_cons_self).elim
          | release pool => exact (apart _ List.mem_cons_self).elim
          | _ => cases about
  | asking resolved =>
      cases isProgram
      exact balanced_acquire resolved balanced
  | @admitted pool job resolved =>
      cases isProgram
      apply balanced_of_leaves (leavesPools_perform service [.release pool] rfl)
      rcases pace_send service job [.release pool] with same | ⟨failure, same⟩
      · simp only [perform, same]
        exact balanced.swap .leaving fun _ _ _ => rfl
      · simp only [perform, same]
        exact balanced.swap (.underWay resolved) fun _ _ _ => rfl
  | @underWay pool job failure resolved =>
      cases isProgram
      apply balanced_of_leaves (leavesPools_perform service [.release pool] rfl)
      exact balanced.swap .leaving fun _ _ _ => rfl
  | leaving =>
      cases isProgram
      exact balanced_release balanced

end Service

/-! ## Moves -/

namespace Service

/-- No instruction changes where jobs run, or how many of them may run at once. -/
theorem executors_perform (service : Service) (instruction : Instruction) (rest : Program) :
    (perform instruction rest service).1.world.routing = service.world.routing ∧
      (perform instruction rest service).1.world.pools.map Executor.Pool.capacity =
        service.world.pools.map Executor.Pool.capacity := by
  cases about : instruction.isAboutPermits with
  | false =>
      have leaves := leavesPools_perform service rest about
      exact ⟨leaves.routing, by rw [leaves.pools]⟩
  | true =>
      cases instruction with
      | enqueue pool job => exact ⟨rfl, rfl⟩
      | acquire pool => exact ⟨rfl, Executor.Pool.map_capacity_requestAt _ _ _⟩
      | release pool =>
          have released := Executor.Pool.map_capacity_releaseAt service.world.pools pool
          simp only [perform, release, proceed]
          cases (Executor.Pool.releaseAt service.world.pools pool).2 with
          | none => exact ⟨rfl, released⟩
          | some heir => exact ⟨rfl, released⟩
      | _ => cases about

/-- All messages have the executors that the registry has, whose pools have certain sizes and agree
with the programs. -/
structure IsBalanced (routing : Executor.Routing) (sizes : List Nat) (service : Service) :
    Prop where
  sameRouting : service.world.routing = routing
  routed : service.world.outline.IsRouted routing
  sizes : service.world.pools.map Executor.Pool.capacity = sizes
  balanced : Balanced routing service.world.pools service.programs

variable {sizes : List Nat}

/-- A step of an activity. -/
theorem IsBalanced.stepAt {service after : Service} {index : Nat}
    (isBalanced : service.IsBalanced routing sizes) (tidy : service.AllTidy)
    (stepped : service.stepAt behave index = some after) : after.IsBalanced routing sizes := by
  have stillRouted : after.world.outline.IsRouted routing := by
    obtain ⟨_, _, _, steps⟩ := step_stepAt tidy stepped
    intro identity candidate found
    have persists := (steps identity).persists
    change Option.Rel _ _ after.world.outline.candidates[identity]? at persists
    rw [found] at persists
    generalize was : (service.outline.share identity).candidate = former at persists
    cases persists with
    | some persists =>
        exact (congrArg Origin.routing persists.origin :).trans
          (isBalanced.routed identity _ was)
  obtain ⟨program, _, _, others, sameWorld, _, before, went⟩ := stepAt_eq_some stepped
  have balanced := isBalanced.balanced
  rw [before, ← sameWorld] at balanced
  rcases went with ⟨rfl, rfl⟩ | ⟨instruction, rest, middle, rfl, isMiddle, world, programs⟩
  · exact {
      sameRouting := sameWorld ▸ isBalanced.sameRouting
      routed := stillRouted
      sizes := sameWorld ▸ isBalanced.sizes
      balanced := by
        have nothing : Balanced routing after.world.pools (0 + after.programs) :=
          balanced.replace_apart (fun _ present => absurd present List.not_mem_nil)
            fun _ present => absurd present (Multiset.notMem_zero _)
        rwa [zero_add] at nothing }
  · obtain ⟨sameRouting, sameSizes⟩ := executors_perform others instruction rest
    rw [isMiddle] at world programs
    rw [sameWorld] at sameRouting sameSizes
    exact {
      sameRouting := by
        rw [world]
        exact sameRouting.trans isBalanced.sameRouting
      routed := stillRouted
      sizes := by
        rw [world]
        exact sameSizes.trans isBalanced.sizes
      balanced := by
        rw [world, programs]
        refine balanced_perform ?_ ?_ balanced
        · rw [sameWorld]
          exact isBalanced.sameRouting
        · rw [sameWorld]
          exact isBalanced.routed }

/-- A change of the registry that leaves the pools alone. -/
theorem IsBalanced.change {service : Service} (isBalanced : service.IsBalanced routing sizes)
    (operation : Registry → Registry)
    (leaves : service.world.LeavesPools (operation service.world))
    (routed : (operation service.world).outline.IsRouted routing) :
    (service.change operation).IsBalanced routing sizes where
  sameRouting := by
    rw [Service.change, world_launch]
    exact leaves.routing.trans isBalanced.sameRouting
  routed := by
    rw [Service.change, world_launch]
    intro identity candidate
    exact routed identity candidate
  sizes := by
    rw [Service.change, world_launch]
    exact (congrArg (List.map Executor.Pool.capacity) leaves.pools).trans isBalanced.sizes
  balanced := by
    have kept : Balanced routing (operation service.world).pools
        (0 + (service.running + (operation service.world).held)) :=
      balanced_of_leaves leaves ((zero_add service.programs).symm ▸ isBalanced.balanced)
    rw [zero_add] at kept
    rw [Service.change, world_launch, programs_launch]
    exact kept

/-- Programs apart from pools may begin. -/
theorem IsBalanced.join {service after : Service} (isBalanced : service.IsBalanced routing sizes)
    (sameRouting : after.world.routing = service.world.routing)
    (samePools : after.world.pools = service.world.pools)
    (sameCandidates : after.world.candidates = service.world.candidates)
    {more : Multiset Program} (joins : after.programs = more + service.programs)
    (apart : ∀ program ∈ more, ∀ instruction ∈ program, instruction.IsApart routing) :
    after.IsBalanced routing sizes where
  sameRouting := sameRouting.trans isBalanced.sameRouting
  routed := by
    have sameOutline : after.world.outline.candidates = service.world.outline.candidates :=
      congrArg (List.map Candidate.untimed) sameCandidates
    rw [Outline.IsRouted, sameOutline]
    exact isBalanced.routed
  sizes := by
    rw [samePools]
    exact isBalanced.sizes
  balanced := by
    rw [samePools, joins]
    exact isBalanced.balanced.join apart

/-- A program apart from pools may begin. -/
theorem IsBalanced.joinOne {service after : Service} (isBalanced : service.IsBalanced routing sizes)
    (sameRouting : after.world.routing = service.world.routing)
    (samePools : after.world.pools = service.world.pools)
    (sameCandidates : after.world.candidates = service.world.candidates) {program : Program}
    (joins : after.programs = program ::ₘ service.programs)
    (apart : ∀ instruction ∈ program, instruction.IsApart routing) :
    after.IsBalanced routing sizes := by
  rw [← Multiset.singleton_add] at joins
  exact isBalanced.join sameRouting samePools sameCandidates joins (apart_singleton apart rfl)

theorem programs_spawn (service : Service) (program : Program) :
    Service.programs (service.spawn program) = program ::ₘ service.programs := by
  rw [programs, Timeline.running_spawn, Multiset.cons_add]
  rfl

theorem IsBalanced.announce {service : Service} (isBalanced : service.IsBalanced routing sizes)
    (news : ShutdownNews) : (service.announce news).1.IsBalanced routing sizes := by
  unfold Service.announce
  split
  · exact isBalanced
  · exact isBalanced.joinOne rfl rfl rfl (programs_spawn _ _) (apart_cons (by trivial)
      (apart_cons (by trivial) (apart_cons (by trivial)
        fun _ present => absurd present List.not_mem_nil)))

theorem IsBalanced.beginNamed {service : Service} (isBalanced : service.IsBalanced routing sizes)
    (name : String) {program : Nat → Program}
    (apart : ∀ number, ∀ instruction ∈ program number, instruction.IsApart routing) :
    (service.beginNamed name program).IsBalanced routing sizes :=
  isBalanced.joinOne rfl rfl rfl (programs_spawn _ _) (apart _)

theorem isApart_request (request : Request) (number : Nat) :
    ∀ instruction ∈ request.program number, instruction.IsApart routing := by
  intro instruction present
  cases request <;>
  · rw [List.mem_singleton.mp present]
    trivial

/-- An operation that changes candidates and roster only. -/
theorem IsBalanced.operation {service : Service} (isBalanced : service.IsBalanced routing sizes)
    (operation : Registry → Registry) (abides : service.world.Abides (operation service.world))
    (programs : (operation service.world).outline.programs = service.world.outline.programs)
    (same : ∀ identity : Nat,
      ((operation service.world).outline.candidates[identity]?).map Candidate.routing =
        (service.world.outline.candidates[identity]?).map Candidate.routing) :
    (service.change operation).IsBalanced routing sizes :=
  isBalanced.change operation
    ⟨abides.routing, congrArg Surroundings.pools abides.surroundings, programs⟩
    (isBalanced.routed.of_view same)

/-- An operation that changes some candidates along with the roster. -/
theorem IsBalanced.relist {service : Service} (isBalanced : service.IsBalanced routing sizes)
    (operation : Registry → Registry) (abides : service.world.Abides (operation service.world))
    {identities : List Nat} {change : Candidate → Candidate} {roster : Roster}
    (after : (operation service.world).outline =
      { service.world.outline.modifyAll identities change with roster })
    (same : ∀ candidate : Candidate, (change candidate).routing = candidate.routing) :
    (service.change operation).IsBalanced routing sizes := by
  apply isBalanced.operation operation abides
  · rw [after]
    rfl
  · intro identity
    rw [after]
    exact Outline.view_modifyAll same _ _ identity

/-- An operation that an outline does not show. -/
theorem IsBalanced.unchanged {service : Service} (isBalanced : service.IsBalanced routing sizes)
    (operation : Registry → Registry) (abides : service.world.Abides (operation service.world))
    (after : (operation service.world).outline = service.world.outline) :
    (service.change operation).IsBalanced routing sizes :=
  isBalanced.operation operation abides (by rw [after]) fun _ => by rw [after]

/-- A message that is taken in is routed as the registry routes at that moment. -/
theorem IsBalanced.add {service : Service} (isBalanced : service.IsBalanced routing sizes)
    (message : Message) : (service.carryOut (.add message)).IsBalanced routing sizes := by
  have after := service.world.outline_add service.now message
  have enrolled := service.world.outline_enroll service.now message
  have abides := service.world.abides_add service.now message
  apply isBalanced.change (fun registry => (registry.add service.now message).1)
  · refine ⟨abides.routing, congrArg Surroundings.pools abides.surroundings, ?_⟩
    rw [after]
    split
    · rw [enrolled]
    · rfl
  · rw [after]
    split
    · rw [enrolled]
      intro identity candidate found
      rcases Outline.eq_some_of_concat found with was | ⟨_, rfl⟩
      · exact isBalanced.routed identity candidate was
      · exact isBalanced.sameRouting
    · exact isBalanced.routed

/-- A command that leaves the executors as they are. -/
theorem IsBalanced.carryOut {service : Service} (isBalanced : service.IsBalanced routing sizes)
    {command : Command} (kept : ∀ executors, command ≠ .setExecutors executors) :
    (service.carryOut command).IsBalanced routing sizes := by
  have samePaused (candidate : Candidate) : candidate.paused.routing = candidate.routing := by
    obtain ⟨_, same, _⟩ := candidate.paused_eq
    rw [same]
  have sameWoken (candidate : Candidate) :
      (candidate.woken service.now).routing = candidate.routing := by
    obtain ⟨_, _, same⟩ := candidate.woken_eq service.now
    rw [same]
  have upkeep := Registry.isUpkeep_abides
  cases command with
  | add message => exact isBalanced.add message
  | purgeAcknowledged sequence acknowledged =>
      have after := service.world.outline_purgeAcknowledged sequence acknowledged
      have abides := upkeep.purgeAcknowledged service.world sequence acknowledged
      split at after
      · exact isBalanced.unchanged
          (fun registry => (registry.purgeAcknowledged sequence acknowledged).1) abides after
      · exact isBalanced.relist
          (fun registry => (registry.purgeAcknowledged sequence acknowledged).1) abides after
          fun _ => rfl
  | purgeAll sequence =>
      exact isBalanced.relist (fun registry => (registry.purgeAll sequence).1)
        (upkeep.purgeAll _ sequence) (service.world.outline_purgeAll sequence) fun _ => rfl
  | stop sequence =>
      exact isBalanced.relist (Registry.stop · sequence) (upkeep.stop _ sequence)
        (service.world.outline_stop sequence) fun _ => rfl
  | shutdown =>
      exact isBalanced.relist Registry.shutdown (upkeep.shutdown _) service.world.outline_shutdown
        fun _ => rfl
  | suspend sequence =>
      exact isBalanced.relist (Registry.suspend · sequence) (upkeep.suspend _ sequence)
        (service.world.outline_suspend sequence) samePaused
  | resume sequence =>
      have after := service.world.outline_resume service.now sequence
      have abides := service.world.abides_resume service.now sequence
      split at after
      · exact isBalanced.relist (Registry.resume · service.now sequence) abides after sameWoken
      · exact isBalanced.unchanged (Registry.resume · service.now sequence) abides after
  | request name request =>
      cases name with
      | none =>
          refine isBalanced.joinOne rfl rfl rfl ?_
            (isApart_request request service.world.calls.make.1)
          rw [Service.carryOut, beginCall, programs, Timeline.running_call, Multiset.cons_add]
          rfl
      | some name => exact isBalanced.beginNamed name (isApart_request request)
  | join name =>
      exact ⟨isBalanced.sameRouting, isBalanced.routed, isBalanced.sizes, isBalanced.balanced⟩
  | serve name =>
      have serves (call : Nat) :
          ∀ instruction ∈ [Instruction.serve call], instruction.IsApart routing := by
        intro instruction present
        rw [List.mem_singleton.mp present]
        trivial
      exact (isBalanced.announce .closed).beginNamed name serves
  | announce news => exact isBalanced.announce news
  | setExecutors executors => exact (kept executors rfl).elim
  | closeAgenda =>
      exact isBalanced.change (fun registry => { registry with agenda := registry.agenda.close })
        ⟨rfl, rfl, rfl⟩ isBalanced.routed
  | prepare message outcomes =>
      exact isBalanced.change (fun registry =>
        { registry with script := registry.script.prepare message outcomes })
        ⟨rfl, rfl, rfl⟩ isBalanced.routed
  | exchangeStore store =>
      exact isBalanced.change (fun registry => { registry with store })
        ⟨rfl, rfl, rfl⟩ isBalanced.routed

/-- Any move that leaves the executors as they are. -/
theorem IsBalanced.move {service after : Service} {move : Move}
    (isBalanced : service.IsBalanced routing sizes) (tidy : service.AllTidy)
    (kept : ∀ executors, move ≠ .command (.setExecutors executors))
    (moved : service.move? move = some after) : after.IsBalanced routing sizes := by
  cases move with
  | command command =>
      obtain rfl := eq_carryOut moved
      exact isBalanced.carryOut fun executors same => kept executors (same ▸ rfl)
  | step index => exact isBalanced.stepAt tidy moved
  | rouse index position =>
      obtain ⟨running, sameWorld⟩ := Timeline.rouseTo_eq_some moved
      have samePrograms : after.programs = 0 + service.programs := by
        rw [zero_add, programs, running, sameWorld]
        rfl
      exact isBalanced.join (by rw [sameWorld]) (by rw [sameWorld]) (by rw [sameWorld]) samePrograms
        fun _ present => absurd present (Multiset.notMem_zero _)
  | wait instant =>
      obtain rfl := eq_wait moved
      exact ⟨isBalanced.sameRouting, isBalanced.routed, isBalanced.sizes, isBalanced.balanced⟩
  | reorder roster =>
      obtain ⟨_, rfl⟩ := eq_reorder moved
      exact { isBalanced with }

end Service

end Redelivery
