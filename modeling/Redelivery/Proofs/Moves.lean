import Redelivery.Proofs.Instructions

/-!
# Every move is a turn

Whatever moves, the share of each message takes one turn.  Steps of activities
leave the roster alone, commands change it as the registry does.
-/

namespace Redelivery

/-- Whether a command leaves the messages alone. -/
def Command.isQuiet : Command → Bool
  | .add _ | .purgeAcknowledged _ _ | .purgeAll _ | .stop _ | .suspend _ | .resume _
  | .shutdown => false
  | _ => true

namespace Service

/-- The service apart from its timers. -/
def outline (service : Service) : Outline :=
  service.world.outline.withPrograms (apartFromRings service.running)

theorem programs_outline (service : Service) :
    service.outline.programs = apartFromRings service.programs := by
  rw [programs, apartFromRings_add]
  rfl

@[simp]
theorem roster_outline (service : Service) : service.outline.roster = service.world.roster :=
  rfl

/-- The share of a message has its candidate, the timer left out. -/
theorem candidate_share {service : Service} {identity : Nat} {candidate : Candidate}
    (found : service.world.candidate? identity = some candidate) :
    (service.outline.share identity).candidate = some candidate.untimed :=
  (service.world.getElem?_outline identity).trans (congrArg (Option.map _) found)

theorem exists_candidate {service : Service} {identity : Nat} {untimed : Candidate}
    (found : service.outline.candidates[identity]? = some untimed) :
    ∃ candidate, service.world.candidate? identity = some candidate ∧
      candidate.untimed = untimed :=
  Option.map_eq_some_iff.mp ((service.world.getElem?_outline identity).symm.trans found)

/-- The share of a message depends on the candidates, the resends and all programs,
wherever they are. -/
theorem share_of_programs {service : Service} {registry : Registry} {more : Multiset Program}
    (sameCandidates : service.world.candidates = registry.candidates)
    (sameResends : service.world.journal.resends = registry.journal.resends)
    (programs : service.programs = more + registry.held) (identity : Nat) :
    service.outline.share identity = registry.outline.shareWith identity (errandsIn more) := by
  have sameErrands : errandsIn service.outline.programs =
      errandsIn more + errandsIn registry.outline.programs := by
    rw [programs_outline, errandsIn_apartFromRings, programs, errandsIn_add, Registry.outline,
      errandsIn_apartFromRings]
  simp only [Outline.share, Outline.shareWith, sameErrands, zero_add]
  simp only [outline, Outline.withPrograms, Registry.outline, sameCandidates, sameResends]

/-- No program of the service goes on after an instruction with which it may end. -/
def AllTidy (service : Service) : Prop :=
  ∀ program ∈ service.programs, IsTidy program

theorem allTidy_iff {service : Service} :
    service.AllTidy ↔ ∀ program ∈ service.outline.programs, IsTidy program := by
  rw [programs_outline]
  exact ⟨fun tidy program present => tidy program (Multiset.mem_of_mem_filter present),
    isTidy_of_apartFromRings⟩

/-! ## Steps -/

/-- A step of an activity leaves the roster and the resends so far alone, loses no
errand, and is a step for every message. -/
theorem step_stepAt {service after : Service} {index : Nat} (tidy : service.AllTidy)
    (stepped : service.stepAt behave index = some after) :
    after.world.roster = service.world.roster ∧
      service.world.journal.resends <:+ after.world.journal.resends ∧ after.AllTidy ∧
      ∀ identity, Share.Step service.now (service.outline.share identity)
        (after.outline.share identity) := by
  rcases stepAt_eq_some stepped with
    ⟨program, _, _, others, sameWorld, sameNow, before, went⟩
  have programTidy : IsTidy program := tidy program (before ▸ Multiset.mem_cons_self _ _)
  have othersTidy : others.AllTidy := fun other present =>
    tidy other (before ▸ Multiset.mem_cons_of_mem present)
  have beforeShare (identity : Nat) : service.outline.share identity =
      others.world.outline.shareWith identity (errandsOf program + errandsIn others.running) := by
    rw [← errandsIn_cons]
    refine share_of_programs (by rw [sameWorld]) (by rw [sameWorld]) ?_ identity
    rw [before, Multiset.cons_add]
    rfl
  rcases went with ⟨rfl, rfl⟩ | ⟨instruction, rest, middle, rfl, isMiddle, world, programs⟩
  · refine ⟨by rw [sameWorld], by rw [sameWorld], othersTidy, fun identity => ?_⟩
    have afterShare : after.outline.share identity =
        after.world.outline.shareWith identity (errandsIn after.running) :=
      share_of_programs rfl rfl rfl identity
    rw [beforeShare, afterShare, errandsOf_nil, zero_add]
    exact .quiet
  · have did := takesStep_perform others instruction rest programTidy.eq_nil
    have middleWorld : middle.world = (perform instruction rest others).1.world := by
      rw [isMiddle]
    have afterPrograms : after.programs =
        ((perform instruction rest others).2.programs + others.running) + middle.world.held := by
      rw [programs, Service.programs, add_assoc, isMiddle]
      rfl
    refine ⟨?_, ?_, ?_, fun identity => ?_⟩
    · rw [world, middleWorld, ← sameWorld]
      exact did.roster
    · rw [world, middleWorld, ← sameWorld]
      exact did.resends
    · have heldTidy : ∀ other ∈ others.world.held, IsTidy other := fun other present =>
        othersTidy other (Multiset.mem_add.mpr (.inr present))
      have didTidy := did.tidy programTidy fun other present =>
        heldTidy other (Multiset.mem_of_mem_filter present)
      have middleTidy : ∀ other ∈ middle.world.held, IsTidy other := by
        rw [middleWorld]
        exact isTidy_of_apartFromRings fun other present =>
          didTidy other (Multiset.mem_add.mpr (.inr present))
      intro other present
      rw [afterPrograms, Multiset.mem_add, Multiset.mem_add] at present
      rcases present with (goes | runs) | held
      · exact didTidy other (Multiset.mem_add.mpr (.inl goes))
      · exact othersTidy other (Multiset.mem_add.mpr (.inl runs))
      · exact middleTidy other held
    · rw [beforeShare, ← sameNow, share_of_programs (by rw [world]) (by rw [world]) afterPrograms,
        middleWorld, errandsIn_add]
      exact did.step (errandsIn others.running) identity

/-! ## Commands -/

theorem outline_launch (service : Service) : service.launch.outline = service.outline := by
  have samePrograms : service.launch.outline.programs = service.outline.programs := by
    rw [programs_outline, programs_outline, programs_launch]
  simp only [outline, Outline.withPrograms] at samePrograms ⊢
  rw [samePrograms, world_launch]
  rfl

/-- A change of the registry leaves the activities alone. -/
theorem outline_change (operation : Registry → Registry) (service : Service) :
    (service.change operation).outline =
      (operation service.world).outline.withPrograms (apartFromRings service.running) :=
  outline_launch _

theorem outline_apply {α : Type} (operation : Registry → Registry × α) (service : Service) :
    (service.apply operation).1.outline =
      (operation service.world).1.outline.withPrograms (apartFromRings service.running) :=
  outline_launch _

/-- A change of the registry that its outline does not show. -/
theorem outline_change_of_same {operation : Registry → Registry} {service : Service}
    (same : (operation service.world).outline = service.world.outline) :
    (service.change operation).outline = service.outline := by
  rw [outline_change, same, outline]

/-- Setting executors adds pools in which nothing waits. -/
theorem outline_setExecutors (registry : Registry) (executors : List (String × Option Nat)) :
    (registry.setExecutors executors).outline = registry.outline := by
  unfold Registry.setExecutors
  have cleared : { registry with routing := Executor.Routing.inlineOnly }.outline =
      registry.outline := rfl
  rw [← cleared]
  generalize { registry with routing := Executor.Routing.inlineOnly } = before
  induction executors generalizing before with
  | nil => rfl
  | cons executor rest inductionHypothesis =>
      apply (inductionHypothesis _).trans
      rcases executor with ⟨owner, _ | size⟩
      · rfl
      · simp [Registry.outline, Registry.held, waitingIn, Executor.Pool.ofSize]

/-- A service that is joined by programs that run no errand. -/
def Joined (before after : Service) : Prop :=
  ∃ more : Multiset Program, (∀ program ∈ more, IsTidy program ∧ errandsOf program = 0) ∧
    after.outline = before.outline.withPrograms more

theorem joined_of_same {before after : Service} (same : after.outline = before.outline) :
    before.Joined after :=
  ⟨0, fun _ present => absurd present (Multiset.notMem_zero _), by simp [same]⟩

theorem joined_of_program {before after : Service} (program : Program) (tidy : IsTidy program)
    (noErrand : errandsOf program = 0) (sameWorld : after.world.outline = before.world.outline)
    (joins : after.running = program ::ₘ before.running) : before.Joined after := by
  refine ⟨apartFromRings {program}, fun other present => ?_, ?_⟩
  · rw [Multiset.mem_singleton.mp (Multiset.mem_of_mem_filter present)]
    exact ⟨tidy, noErrand⟩
  · rw [outline, outline, joins, sameWorld, ← Multiset.singleton_add, apartFromRings_add]
    simp only [Outline.withPrograms, add_assoc]

theorem Joined.trans {first second third : Service} (earlier : first.Joined second)
    (later : second.Joined third) : first.Joined third := by
  rcases earlier with ⟨some, someHarmless, toSecond⟩
  obtain ⟨more, moreHarmless, toThird⟩ := later
  refine ⟨more + some, fun program present => ?_, ?_⟩
  · rcases Multiset.mem_add.mp present with late | early
    · exact moreHarmless program late
    · exact someHarmless program early
  · rw [toThird, toSecond]
    simp only [Outline.withPrograms, add_assoc]

theorem joined_announce (service : Service) (news : ShutdownNews) :
    service.Joined (service.announce news).1 := by
  unfold announce
  split
  · exact joined_of_same rfl
  · next call _ =>
      refine joined_of_program [.hear news, .leave "serve", .reply call .served]
        (((isTidy_nil.cons rfl).cons rfl).cons rfl) rfl rfl ?_
      exact Timeline.running_spawn _ _

theorem joined_beginNamed (service : Service) (name : String) {program : Nat → Program}
    (tidy : ∀ number, IsTidy (program number))
    (noErrand : ∀ number, errandsOf (program number) = 0) :
    service.Joined (service.beginNamed name program) :=
  joined_of_program _ (tidy _) (noErrand _) rfl (Timeline.running_spawn _ _)

theorem isTidy_request (request : Request) (number : Nat) : IsTidy (request.program number) := by
  cases request <;> exact List.pairwise_singleton _ _

theorem errandsOf_request (request : Request) (number : Nat) :
    errandsOf (request.program number) = 0 := by
  cases request <;> rfl

/-- A quiet command starts calls at most. -/
theorem joined_carryOut (service : Service) {command : Command}
    (quiet : command.isQuiet = true) : service.Joined (service.carryOut command) := by
  cases command with
  | request name request =>
      cases name with
      | none =>
          refine joined_of_program (request.program service.world.calls.make.1)
            (isTidy_request request _) (errandsOf_request request _) rfl ?_
          exact Timeline.running_call _ _
      | some name =>
          exact joined_beginNamed service name (isTidy_request request) (errandsOf_request request)
  | join name => exact joined_of_same rfl
  | serve name =>
      exact (joined_announce service .closed).trans
        (joined_beginNamed _ name (fun _ => List.pairwise_singleton _ _) fun _ => rfl)
  | announce news => exact joined_announce service news
  | setExecutors executors =>
      exact joined_of_same (outline_change_of_same (outline_setExecutors service.world executors))
  | closeAgenda => exact joined_of_same (outline_change_of_same rfl)
  | prepare message outcomes => exact joined_of_same (outline_change_of_same rfl)
  | exchangeStore store => exact joined_of_same (outline_change_of_same rfl)
  | add _ | purgeAcknowledged _ _ | purgeAll _ | stop _ | suspend _ | resume _ | shutdown =>
      cases quiet

theorem outline_add (service : Service) (message : Message) :
    (service.carryOut (.add message)).outline =
      if service.world.rejection? message = none then
        { service.outline with
          candidates := service.outline.candidates ++
            [Candidate.register service.now service.world.routing
              (service.world.roster.isSuspended message.sequence) message]
          roster := service.world.roster.add message.sequence service.world.candidates.length }
      else service.outline := by
  have after := Registry.outline_add service.world service.now message
  apply (outline_apply _ service).trans
  rw [after, Registry.outline_enroll]
  split <;> rfl

theorem outline_purgeAcknowledged (service : Service) (sequence : SequenceKey)
    (acknowledged : Nat → Bool) :
    (service.carryOut (.purgeAcknowledged sequence acknowledged)).outline =
      if service.world.acknowledgedOf sequence acknowledged = [] then service.outline
      else
        { service.outline.modifyAll (service.world.acknowledgedOf sequence acknowledged)
            (Candidate.finished .resolved) with
          roster := service.world.roster.strike sequence fun identity =>
            (service.world.numberOf identity).any acknowledged } := by
  have after := Registry.outline_purgeAcknowledged service.world sequence acknowledged
  apply (outline_apply _ service).trans
  rw [after]
  split <;> rfl

theorem outline_purgeAll (service : Service) (sequence : SequenceKey) :
    (service.carryOut (.purgeAll sequence)).outline =
      { service.outline.modifyAll (service.world.roster.listOf sequence)
          (Candidate.finished .cancelled) with
        roster := service.world.roster.forget sequence } := by
  have after := Registry.outline_purgeAll service.world sequence
  apply (outline_apply _ service).trans
  rw [after]
  rfl

theorem outline_stop (service : Service) (sequence : SequenceKey) :
    (service.carryOut (.stop sequence)).outline =
      service.outline.modifyAll (service.world.roster.listOf sequence)
        (Candidate.finished .cancelled) := by
  have after := Registry.outline_stop service.world sequence
  apply (outline_change _ service).trans
  rw [after]
  rfl

theorem outline_shutdown (service : Service) :
    (service.carryOut .shutdown).outline =
      service.outline.modifyAll service.world.roster.all (Candidate.finished .cancelled) := by
  have after := Registry.outline_shutdown service.world
  apply (outline_change _ service).trans
  rw [after]
  rfl

theorem outline_suspend (service : Service) (sequence : SequenceKey) :
    (service.carryOut (.suspend sequence)).outline =
      { service.outline.modifyAll (service.world.roster.activeOf sequence) Candidate.paused with
        roster := service.world.roster.suspend sequence } := by
  have after := Registry.outline_suspend service.world sequence
  apply (outline_change _ service).trans
  rw [after]
  rfl

theorem outline_resume (service : Service) (sequence : SequenceKey) :
    (service.carryOut (.resume sequence)).outline =
      if service.world.roster.isSuspended sequence then
        { service.outline.modifyAll (service.world.roster.suspendedOf sequence)
            (Candidate.woken service.now) with
          roster := service.world.roster.resume sequence }
      else service.outline := by
  have after := Registry.outline_resume service.world service.now sequence
  apply (outline_change _ service).trans
  rw [after]
  split <;> rfl

/-- A command sends nothing and starts no errand, and is a turn for every message. -/
theorem turn_carryOut {service : Service} (tidy : service.AllTidy) (command : Command) :
    (service.carryOut command).outline.resends = service.outline.resends ∧
      (service.carryOut command).AllTidy ∧
      ∀ identity, Share.Turn service.now (service.outline.share identity)
        ((service.carryOut command).outline.share identity) := by
  rw [allTidy_iff] at tidy ⊢
  cases quiet : command.isQuiet with
  | true =>
      rcases joined_carryOut service quiet with ⟨more, harmless, after⟩
      have noErrand : errandsIn more = 0 :=
        errandsIn_eq_zero fun program present => (harmless program present).2
      rw [after]
      refine ⟨rfl, fun program present => ?_, fun identity => ?_⟩
      · rcases Multiset.mem_add.mp present with joins | was
        · exact (harmless program joins).1
        · exact tidy program was
      · have same : (service.outline.withPrograms more).share identity =
            service.outline.share identity := by
          simp only [Outline.share, Outline.shareWith, Outline.withPrograms, errandsIn_add,
            noErrand, zero_add]
        rw [same]
        exact .quiet
  | false =>
      cases command with
      | add message =>
          rw [outline_add]
          split
          · exact ⟨rfl, tidy, fun identity => Outline.turn_enroll _ _ _ _ _ identity _⟩
          · exact ⟨rfl, tidy, fun _ => .quiet⟩
      | purgeAcknowledged sequence acknowledged =>
          rw [outline_purgeAcknowledged]
          split
          · exact ⟨rfl, tidy, fun _ => .quiet⟩
          · exact ⟨rfl, tidy, Outline.turn_relist (fun _ _ _ => .step (.finish .resolved)) _ _⟩
      | purgeAll sequence =>
          rw [outline_purgeAll]
          exact ⟨rfl, tidy, Outline.turn_relist (fun _ _ _ => .step (.finish .cancelled)) _ _⟩
      | stop sequence =>
          rw [outline_stop]
          exact ⟨rfl, tidy, Outline.turn_relist (fun _ _ _ => .step (.finish .cancelled)) _ _⟩
      | shutdown =>
          rw [outline_shutdown]
          exact ⟨rfl, tidy, Outline.turn_relist (fun _ _ _ => .step (.finish .cancelled)) _ _⟩
      | suspend sequence =>
          rw [outline_suspend]
          exact ⟨rfl, tidy, Outline.turn_relist (fun _ _ _ => .suspend) _ _⟩
      | resume sequence =>
          rw [outline_resume]
          split
          · exact ⟨rfl, tidy, Outline.turn_relist (fun _ _ _ => .wake) _ _⟩
          · exact ⟨rfl, tidy, fun _ => .quiet⟩
      | request _ _ | join _ | serve _ | announce _ | setExecutors _ | closeAgenda
      | prepare _ _ | exchangeStore _ => cases quiet

/-! ## Moves -/

theorem outline_rouseTo {service after : Service} {index position : Nat}
    (roused : service.rouseTo index position = some after) : after.outline = service.outline := by
  rcases Timeline.rouseTo_eq_some roused with ⟨running, world⟩
  rw [outline, outline, running, world]

/-- Of all that is apart from timers, another order of the maps changes the roster alone. -/
theorem outline_withRoster (service : Service) (roster : Roster) :
    (service.withRoster roster).outline = { service.outline with roster } :=
  rfl

/-- Whatever moves, no resend is forgotten, no errand is lost, and every message takes
one turn. -/
theorem turn_move {service after : Service} {move : Move} (tidy : service.AllTidy)
    (moved : service.move? move = some after) :
    service.world.journal.resends <:+ after.world.journal.resends ∧ after.AllTidy ∧
      ∀ identity, Share.Turn service.now (service.outline.share identity)
        (after.outline.share identity) := by
  cases move with
  | command command =>
      obtain rfl := eq_carryOut moved
      rcases turn_carryOut tidy command with ⟨sameResends, afterTidy, turns⟩
      have resends : service.outline.resends <:+ (service.carryOut command).outline.resends := by
        rw [sameResends]
      exact ⟨resends, afterTidy, turns⟩
  | step index =>
      obtain ⟨_, resends, afterTidy, steps⟩ := step_stepAt tidy moved
      exact ⟨resends, afterTidy, fun identity => .step (steps identity)⟩
  | rouse index position =>
      have same := outline_rouseTo moved
      have sameResends : service.world.journal.resends = after.world.journal.resends :=
        (congrArg Outline.resends same).symm
      rw [allTidy_iff, same, sameResends]
      exact ⟨List.suffix_refl _, allTidy_iff.mp tidy, fun _ => .quiet⟩
  | wait instant =>
      obtain rfl := eq_wait moved
      exact ⟨List.suffix_refl _, tidy, fun _ => .quiet⟩
  | reorder roster =>
      obtain ⟨_, rfl⟩ := eq_reorder moved
      exact ⟨List.suffix_refl _, tidy, fun _ => .quiet⟩

/-- Resends are only ever added. -/
theorem suffix_resends_run {first last : Service} {moves : List Move} (tidy : first.AllTidy)
    (run : Run first moves last) :
    first.world.journal.resends <:+ last.world.journal.resends := by
  have kept : last.AllTidy ∧ first.world.journal.resends <:+ last.world.journal.resends := by
    induction run with
    | start => exact ⟨tidy, List.suffix_refl _⟩
    | extend _ moved inductionHypothesis =>
        obtain ⟨stillTidy, earlier⟩ := inductionHypothesis
        obtain ⟨further, afterTidy, _⟩ := turn_move stillTidy moved
        exact ⟨afterTidy, earlier.trans further⟩
  exact kept.2

/-! ## Reachable services -/

theorem outline_of_isInitial {service : Service} (initial : service.IsInitial) :
    service.outline =
      { candidates := [], roster := Roster.empty, resends := [], programs := 0 } := by
  rcases initial with ⟨registry, fresh, rfl⟩
  have noneHeld : registry.held = 0 := by
    have noneWaits : waitingIn registry.pools = 0 := by
      rw [waitingIn, List.flatMap_eq_nil_iff.mpr fresh.waiting]
      rfl
    rw [Registry.held, noneWaits, fresh.starting]
    rfl
  have world : registry.outline =
      { candidates := [], roster := Roster.empty, resends := [], programs := 0 } := by
    simp [Registry.outline, fresh.candidates, fresh.roster, fresh.resends, noneHeld,
      apartFromRings]
  have started : Service.outline (Timeline.start registry) =
      registry.outline.withPrograms 0 := rfl
  rw [started, world]
  rfl

end Service

end Redelivery
