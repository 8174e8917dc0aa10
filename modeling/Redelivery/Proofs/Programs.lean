import Mathlib.Data.List.InsertIdx
import Mathlib.Data.Multiset.Bind
import Mathlib.Tactic.Abel
import Redelivery.Proofs.Run

/-!
# The programs of a service

A program is run by an activity, waits for a permit of a pool, or is about to be
started.  Where it is matters for the order of things but not for what it will
do, so that the programs of a service are a multiset, and most moves only carry
programs from one place to another.
-/

namespace Redelivery

/-- The program that an activity goes on with. -/
def Pace.programs {ι : Type} : Pace ι → Multiset (List ι)
  | .onward program => {program}
  | .sleepUntil _ program => {program}
  | .retire => 0

namespace Timeline

variable {ι σ : Type}

/-- The programs of all activities. -/
def running (timeline : Timeline ι σ) : Multiset (List ι) :=
  (timeline.ready.map Activity.program : List (List ι)) +
    (timeline.asleep.map fun sleeper => sleeper.activity.program : List (List ι))

theorem mem_running {timeline : Timeline ι σ} {program : List ι} :
    program ∈ timeline.running ↔ (∃ activity ∈ timeline.ready, activity.program = program) ∨
      ∃ sleeper ∈ timeline.asleep, sleeper.activity.program = program := by
  simp [running]

@[simp]
theorem running_spawn (timeline : Timeline ι σ) (program : List ι) :
    (timeline.spawn program).running = program ::ₘ timeline.running := by
  simp only [running, spawn, List.map_append, List.map_cons, List.map_nil, ← Multiset.coe_add]
  rw [add_right_comm, Multiset.coe_singleton, add_comm, Multiset.singleton_add]

/-- Programs that are started are ready behind the others, and nothing else changes. -/
theorem spawnAll_eq (timeline : Timeline ι σ) (programs : List (List ι)) :
    timeline.spawnAll programs =
      { timeline with ready := timeline.ready ++ programs.map (⟨·, false⟩) } := by
  induction programs generalizing timeline with
  | nil => simp [spawnAll]
  | cons program rest inductionHypothesis =>
      have further := inductionHypothesis (timeline.spawn program)
      simp only [spawn, List.append_assoc] at further
      exact further

@[simp]
theorem running_spawnAll (timeline : Timeline ι σ) (programs : List (List ι)) :
    (timeline.spawnAll programs).running = programs + timeline.running := by
  simp only [spawnAll_eq, running, List.map_append, List.map_map, Function.comp_def, List.map_id',
    ← Multiset.coe_add]
  abel

@[simp]
theorem world_spawnAll (timeline : Timeline ι σ) (programs : List (List ι)) :
    (timeline.spawnAll programs).world = timeline.world := by
  rw [spawnAll_eq]

theorem ready_spawnAll (timeline : Timeline ι σ) (programs : List (List ι)) :
    (timeline.spawnAll programs).ready = timeline.ready ++ programs.map (⟨·, false⟩) := by
  rw [spawnAll_eq]

theorem asleep_spawnAll (timeline : Timeline ι σ) (programs : List (List ι)) :
    (timeline.spawnAll programs).asleep = timeline.asleep := by
  rw [spawnAll_eq]

theorem now_spawnAll (timeline : Timeline ι σ) (programs : List (List ι)) :
    (timeline.spawnAll programs).now = timeline.now := by
  rw [spawnAll_eq]

@[simp]
theorem running_call (timeline : Timeline ι σ) (program : List ι) :
    (timeline.call program).running = program ::ₘ timeline.running := by
  simp [running, call, ← Multiset.cons_coe]

theorem coe_placeSleeper (sleeper : Sleeper ι) (asleep : List (Sleeper ι)) :
    (placeSleeper sleeper asleep : Multiset (Sleeper ι)) = sleeper ::ₘ asleep := by
  induction asleep with
  | nil => rfl
  | cons next rest inductionHypothesis =>
      unfold placeSleeper
      split
      · rw [← Multiset.cons_coe, inductionHypothesis, Multiset.cons_swap, Multiset.cons_coe]
      · rfl

/-- An activity that goes on is somewhere. -/
theorem running_resume (timeline : Timeline ι σ) {index : Nat}
    (inside : index ≤ timeline.ready.length) (foreground : Bool) (pace : Pace ι) :
    (timeline.resume index foreground pace).running = pace.programs + timeline.running := by
  have readied (program : List ι) :
      ({ timeline with
          ready := timeline.ready.insertIdx index ⟨program, foreground⟩ } : Timeline ι σ).running =
        {program} + timeline.running := by
    have sameActivities :
        (timeline.ready.insertIdx index ⟨program, foreground⟩ : Multiset (Activity ι)) =
          ⟨program, foreground⟩ ::ₘ timeline.ready :=
      Multiset.coe_eq_coe.mpr (List.perm_insertIdx _ _ inside)
    simp only [running, ← Multiset.map_coe, sameActivities, Multiset.map_cons,
      Multiset.cons_add, Multiset.singleton_add]
  cases pace with
  | onward program => exact readied program
  | sleepUntil instant program =>
      simp only [resume]
      split
      · exact readied program
      · simp only [running, ← Multiset.map_coe, coe_placeSleeper, Multiset.map_cons,
          Multiset.add_cons, Pace.programs, Multiset.singleton_add]
  | retire => simp [resume, Pace.programs]

/-- Whatever is ready stays ready while another activity goes on. -/
theorem ready_subset_resume (timeline : Timeline ι σ) (index : Nat) (foreground : Bool)
    (pace : Pace ι) : timeline.ready ⊆ (timeline.resume index foreground pace).ready := by
  cases pace with
  | onward program => exact List.subset_insertIdx _ _ _
  | sleepUntil instant program =>
      simp only [resume]
      split
      · exact List.subset_insertIdx _ _ _
      · exact fun _ present => present
  | retire => exact fun _ present => present

theorem mem_placeSleeper_iff {sleeper other : Sleeper ι} {asleep : List (Sleeper ι)} :
    other ∈ placeSleeper sleeper asleep ↔ other = sleeper ∨ other ∈ asleep := by
  rw [← Multiset.mem_coe, coe_placeSleeper, Multiset.mem_cons, Multiset.mem_coe]

/-- An activity that has to wait falls asleep. -/
theorem mem_asleep_resume {timeline : Timeline ι σ} {instant : Nat}
    (early : ¬ Time.wake instant ≤ timeline.now) (index : Nat) (foreground : Bool)
    (program : List ι) :
    ⟨Time.wake instant, ⟨program, foreground⟩⟩ ∈
      (timeline.resume index foreground (.sleepUntil instant program)).asleep := by
  rw [resume, if_neg early]
  exact mem_placeSleeper_iff.mpr (.inl rfl)

/-- Who sleeps after an instruction slept before, or has to wait by the instruction. -/
theorem eq_of_mem_asleep_resume {timeline : Timeline ι σ} {index : Nat} {foreground : Bool}
    {pace : Pace ι} {sleeper : Sleeper ι}
    (asleep : sleeper ∈ (timeline.resume index foreground pace).asleep) :
    sleeper ∈ timeline.asleep ∨ ∃ instant program, pace = .sleepUntil instant program ∧
      sleeper = ⟨Time.wake instant, ⟨program, foreground⟩⟩ := by
  cases pace with
  | onward program => exact .inl asleep
  | sleepUntil instant program =>
      simp only [resume] at asleep
      split at asleep
      · exact .inl asleep
      · rcases mem_placeSleeper_iff.mp asleep with isNew | old
        · exact .inr ⟨instant, program, rfl, isNew⟩
        · exact .inl old
  | retire => exact .inl asleep

/-- Sleepers sleep on while another activity goes on. -/
theorem asleep_subset_resume (timeline : Timeline ι σ) (index : Nat) (foreground : Bool)
    (pace : Pace ι) : timeline.asleep ⊆ (timeline.resume index foreground pace).asleep := by
  cases pace with
  | onward program => exact fun _ present => present
  | sleepUntil instant program =>
      simp only [resume]
      split
      · exact fun _ present => present
      · exact fun _ present => mem_placeSleeper_iff.mpr (.inr present)
  | retire => exact fun _ present => present

@[simp]
theorem world_resume (timeline : Timeline ι σ) (index : Nat) (foreground : Bool)
    (pace : Pace ι) : (timeline.resume index foreground pace).world = timeline.world := by
  cases pace with
  | sleepUntil instant program =>
      simp only [resume]
      split <;> rfl
  | onward program => rfl
  | retire => rfl

theorem now_resume (timeline : Timeline ι σ) (index : Nat) (foreground : Bool) (pace : Pace ι) :
    (timeline.resume index foreground pace).now = timeline.now := by
  cases pace with
  | sleepUntil instant program =>
      simp only [resume]
      split <;> rfl
  | onward program => rfl
  | retire => rfl

/-- An activity that goes on is ready. -/
theorem mem_ready_resume {timeline : Timeline ι σ} {index : Nat}
    (inside : index ≤ timeline.ready.length) (foreground : Bool) (program : List ι) :
    ⟨program, foreground⟩ ∈ (timeline.resume index foreground (.onward program)).ready :=
  (List.mem_insertIdx inside).mpr (.inl rfl)

/-- Wake the sleeper at an index, whether or not its instant has come, and put it at a position
among the activities that are ready. -/
def disturb (index position : Nat) (timeline : Timeline ι σ) : Option (Timeline ι σ) :=
  match timeline.asleep[index]? with
  | none => none
  | some sleeper =>
      if position ≤ timeline.ready.length then
        some
          { timeline with
            ready := timeline.ready.insertIdx position sleeper.activity
            asleep := timeline.asleep.eraseIdx index }
      else none

/-- Whoever is disturbed goes on with its program. -/
theorem disturb_eq_some {index position : Nat} {timeline after : Timeline ι σ}
    (disturbed : timeline.disturb index position = some after) :
    after.running = timeline.running ∧ after.world = timeline.world ∧ after.now = timeline.now ∧
      after.asleep ⊆ timeline.asleep := by
  unfold disturb at disturbed
  cases found : timeline.asleep[index]? with
  | none => simp [found] at disturbed
  | some sleeper =>
      simp only [found] at disturbed
      split at disturbed
      · next inside =>
          obtain rfl := Option.some.inj disturbed
          obtain ⟨isIndex, atIndex⟩ := List.getElem?_eq_some_iff.mp found
          have asleep : (timeline.asleep : Multiset (Sleeper ι)) =
              sleeper ::ₘ timeline.asleep.eraseIdx index := by
            rw [← atIndex, Multiset.cons_coe]
            exact Multiset.coe_eq_coe.mpr (List.getElem_cons_eraseIdx_perm isIndex).symm
          have ready : (timeline.ready.insertIdx position sleeper.activity :
              Multiset (Activity ι)) = sleeper.activity ::ₘ timeline.ready :=
            Multiset.coe_eq_coe.mpr (List.perm_insertIdx _ _ inside)
          refine ⟨?_, rfl, rfl, List.eraseIdx_subset⟩
          simp only [running, ← Multiset.map_coe, asleep, ready, Multiset.map_cons,
            Multiset.cons_add, Multiset.add_cons]
      · cases disturbed

/-- Whoever wakes up by itself could have been disturbed as well. -/
theorem disturb_of_rouseTo {index position : Nat} {timeline after : Timeline ι σ}
    (roused : timeline.rouseTo index position = some after) :
    timeline.disturb index position = some after := by
  unfold rouseTo at roused
  unfold disturb
  cases found : timeline.asleep[index]? with
  | none => simp [found] at roused
  | some sleeper =>
      simp only [found] at roused ⊢
      split at roused
      · next allowed => exact (if_pos allowed.2).trans roused
      · cases roused

/-- A sleeper that wakes up goes on with its program. -/
theorem rouseTo_eq_some {index position : Nat} {timeline after : Timeline ι σ}
    (roused : timeline.rouseTo index position = some after) :
    after.running = timeline.running ∧ after.world = timeline.world := by
  obtain ⟨sameRunning, sameWorld, _⟩ := disturb_eq_some (disturb_of_rouseTo roused)
  exact ⟨sameRunning, sameWorld⟩

/-- Activities that are roused go on with their programs. -/
theorem running_rouseWhere (timeline : Timeline ι σ) (wanted : List ι → Bool) :
    (timeline.rouseWhere wanted).running = timeline.running := by
  have split : (timeline.asleep : Multiset (Sleeper ι)) =
      (timeline.asleep.filter fun sleeper => wanted sleeper.activity.program : List _) +
        (timeline.asleep.filter fun sleeper => !wanted sleeper.activity.program : List _) := by
    simpa using (Multiset.filter_add_not
      (fun sleeper : Sleeper ι => wanted sleeper.activity.program = true) timeline.asleep).symm
  simp only [running, rouseWhere, ← Multiset.map_coe, ← Multiset.coe_add, Multiset.map_add, split,
    Multiset.map_map, Function.comp_def, add_assoc]

/-- A step takes the first instruction off a ready program, or drops a program
that is at its end. -/
theorem stepAt_eq_some {behave : Behaviour ι σ} {index : Nat} {timeline after : Timeline ι σ}
    (stepped : timeline.stepAt behave index = some after) :
    ∃ activity, timeline.ready[index]? = some activity ∧
      ∃ others, others = { timeline with ready := timeline.ready.eraseIdx index } ∧
        timeline.running = activity.program ::ₘ others.running ∧
        ((activity.program = [] ∧ after = others) ∨
          ∃ instruction rest, activity.program = instruction :: rest ∧
            after = (behave instruction rest others).1.resume index activity.foreground
              (behave instruction rest others).2) := by
  unfold stepAt at stepped
  cases found : timeline.ready[index]? with
  | none => simp [found] at stepped
  | some activity =>
      simp only [found] at stepped
      refine ⟨activity, rfl, _, rfl, ?_, ?_⟩
      · rcases List.getElem?_eq_some_iff.mp found with ⟨inside, atIndex⟩
        have ready : (timeline.ready : Multiset (Activity ι)) =
            activity ::ₘ timeline.ready.eraseIdx index := by
          rw [← atIndex, Multiset.cons_coe]
          exact Multiset.coe_eq_coe.mpr (List.getElem_cons_eraseIdx_perm inside).symm
        simp only [running, ← Multiset.map_coe, ready, Multiset.map_cons, Multiset.cons_add]
      · cases program : activity.program with
        | nil =>
            simp only [program, Option.some.injEq] at stepped
            exact .inl ⟨rfl, stepped.symm⟩
        | cons instruction rest =>
            simp only [program, Option.some.injEq] at stepped
            exact .inr ⟨instruction, rest, rfl, stepped.symm⟩

end Timeline

/-! ## Pools -/

/-- The programs that wait for a permit of a pool. -/
def waitingIn (pools : List (Executor.Pool Program)) : Multiset Program :=
  (pools.flatMap Executor.Pool.waiting : List Program)

theorem waitingIn_set {pools : List (Executor.Pool Program)} {index : Nat}
    {pool : Executor.Pool Program} (found : pools[index]? = some pool)
    (changed : Executor.Pool Program) :
    waitingIn (pools.set index changed) + (pool.waiting : List Program) =
      waitingIn pools + (changed.waiting : List Program) := by
  rcases List.getElem?_eq_some_iff.mp found with ⟨inside, atIndex⟩
  have before := ((List.getElem_cons_eraseIdx_perm inside).flatMap_right
    Executor.Pool.waiting).symm
  have after := (List.set_perm_cons_eraseIdx inside changed).flatMap_right Executor.Pool.waiting
  rw [waitingIn, waitingIn, Multiset.coe_eq_coe.mpr before, Multiset.coe_eq_coe.mpr after,
    atIndex, List.flatMap_cons, List.flatMap_cons, ← Multiset.coe_add, ← Multiset.coe_add]
  abel

/-- A program that asks for a permit either goes on or waits for it. -/
theorem waitingIn_requestAt (pools : List (Executor.Pool Program)) (index : Nat)
    (program : Program) :
    waitingIn (Executor.Pool.requestAt pools index program).1 =
      (if (Executor.Pool.requestAt pools index program).2 then 0 else {program}) +
        waitingIn pools := by
  unfold Executor.Pool.requestAt
  cases found : pools[index]? with
  | none => simp
  | some pool =>
      simp only [Executor.Pool.request]
      split
      · have kept := waitingIn_set found { pool with running := pool.running + 1 }
        simpa using kept
      · have grown := waitingIn_set found { pool with waiting := pool.waiting ++ [program] }
        rw [← Multiset.coe_add, Multiset.coe_singleton, add_comm (pool.waiting : Multiset Program),
          ← add_assoc] at grown
        simpa [add_comm] using add_right_cancel grown

/-- A program that takes over a permit does not wait any more. -/
theorem waitingIn_releaseAt (pools : List (Executor.Pool Program)) (index : Nat) :
    ((Executor.Pool.releaseAt pools index).2.toList : List Program) +
        waitingIn (Executor.Pool.releaseAt pools index).1 = waitingIn pools := by
  unfold Executor.Pool.releaseAt
  cases found : pools[index]? with
  | none => simp
  | some pool =>
      simp only [Executor.Pool.release]
      split
      · have kept := waitingIn_set found { pool with running := pool.running - 1 }
        simpa using kept
      · next heir rest waiting =>
          have shrunk := waitingIn_set found { pool with waiting := rest }
          rw [waiting, ← Multiset.cons_coe, Multiset.add_cons, ← Multiset.cons_add] at shrunk
          simpa using add_right_cancel shrunk

/-! ## Services -/

/-- The programs that a registry keeps: they wait for permits, or are about to be
started. -/
def Registry.held (registry : Registry) : Multiset Program :=
  waitingIn registry.pools + (registry.starting : List Program)

namespace Service

/-- All programs of a service. -/
def programs (service : Service) : Multiset Program :=
  service.running + service.world.held

/-- Starting activities moves their programs and changes nothing else. -/
@[simp]
theorem programs_launch (service : Service) : service.launch.programs = service.programs := by
  simp only [launch, programs, Timeline.mapWorld, Registry.held, Multiset.coe_nil, add_zero,
    Timeline.world_spawnAll]
  change (service.spawnAll service.world.starting).running + _ = _
  rw [Timeline.running_spawnAll]
  abel

/-- Where no activity is to be started, none is. -/
theorem launch_of_idle {service : Service} (idle : service.world.starting = []) :
    service.launch = service := by
  obtain ⟨now, ready, asleep, world⟩ := service
  cases world
  subst idle
  rfl

@[simp]
theorem world_launch (service : Service) :
    service.launch.world = { service.world with starting := [] } := by
  simp [launch, Timeline.mapWorld]

/-- An instruction changes the registry and nothing else about the timeline. -/
theorem perform_fst (instruction : Instruction) (rest : Program) (service : Service) :
    (perform instruction rest service).1 =
      { service with world := (perform instruction rest service).1.world } := by
  cases instruction <;>
    simp only [perform, proceed, pursue, ring, send, acquire, release, driveDue, attempt, runDue,
      serve] <;>
    (repeat' split) <;> rfl

/-- Started activities run after those that are ready. -/
theorem ready_launch (service : Service) :
    service.launch.ready = service.ready ++ service.world.starting.map (⟨·, false⟩) :=
  Timeline.ready_spawnAll service service.world.starting

theorem asleep_launch (service : Service) : service.launch.asleep = service.asleep :=
  Timeline.asleep_spawnAll service service.world.starting

/-- Activities that are to be started become ready, and nothing else changes. -/
theorem launch_eq (service : Service) :
    service.launch =
      { service with
        ready := service.ready ++ service.world.starting.map (⟨·, false⟩)
        world := { service.world with starting := [] } } := by
  rw [launch, Timeline.spawnAll_eq]
  rfl

theorem now_launch (service : Service) : service.launch.now = service.now :=
  Timeline.now_spawnAll service service.world.starting

/-- A step either drops a ready program at its end, or performs its first instruction,
after which it goes on at the pace of the instruction. -/
theorem stepAt_eq_some {service after : Service} {index : Nat}
    (stepped : service.stepAt behave index = some after) :
    ∃ program foreground, service.ready[index]? = some ⟨program, foreground⟩ ∧
      ∃ others : Service, others.world = service.world ∧ others.now = service.now ∧
      service.programs = program ::ₘ others.programs ∧
      ((program = [] ∧ after = others) ∨
        ∃ instruction rest, ∃ middle : Service, program = instruction :: rest ∧
          middle = { others with world := (perform instruction rest others).1.world } ∧
          after.world = { middle.world with starting := [] } ∧
          after.programs = (perform instruction rest others).2.programs + middle.programs) := by
  obtain ⟨activity, ready, others, isOthers, running, went⟩ := Timeline.stepAt_eq_some stepped
  refine ⟨activity.program, activity.foreground, ready, others, by rw [isOthers],
    by rw [isOthers], ?_, ?_⟩
  · rw [programs, running, Multiset.cons_add, programs, isOthers]
  · rcases went with ⟨ended, rfl⟩ | ⟨instruction, rest, program, rfl⟩
    · exact .inl ⟨ended, rfl⟩
    · refine .inr ⟨instruction, rest, _, program, rfl, ?_, ?_⟩
      · simp only [behave, Timeline.world_resume, world_launch]
      · have changed := perform_fst instruction rest others
        have inside : index ≤ (launch (perform instruction rest others).1).ready.length := by
          rcases List.getElem?_eq_some_iff.mp ready with ⟨present, _⟩
          rw [ready_launch, changed, isOthers, List.length_append,
            List.length_eraseIdx_of_lt present]
          omega
        have carried := programs_launch (perform instruction rest others).1
        rw [programs, behave, Timeline.running_resume _ inside, Timeline.world_resume, add_assoc]
        rw [← changed, ← carried]
        rfl

end Service

end Redelivery
