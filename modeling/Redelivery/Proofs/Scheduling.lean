import Redelivery.Proofs.Listing
import Redelivery.Proofs.Tending

/-!
# No retry is lost

Whatever order timers, resends and calls take, a message that still takes part in
the schedule of its sequence has a timer that will ring, or a resend that has not
completed.  The exceptions are those that the log tells of: a message for which
the scheduler refused a timer, or whose schedule overflowed.
-/

namespace Redelivery

namespace Registry

/-! ## What instructions do for candidates -/

theorem tends_start (registry : Registry) (program : Program) :
    registry.Tends (registry.start program) := by
  have advances : registry.Advances (registry.start program) :=
    advances_of_same [] rfl rfl rfl (List.subset_append_left _ _) (List.nil_append _).symm nofun
  exact advances.tends fun _ => rfl

/-- A report of an operation is about no candidate. -/
theorem tends_reportOperation (registry : Registry) {event : Log.Event}
    (ofOperation : event.target = Log.operationTarget) :
    registry.Tends (registry.report event) := by
  refine isUpkeep_tends.report registry ?_
  rw [ofOperation]
  simp [Log.operationTarget, Log.candidateTarget]

theorem tends_forceDue (registry : Registry) (upTo : Nat) :
    registry.Tends (Service.forceDue registry upTo).1 :=
  Service.forceDue_relates (fun first last => first.1.Tends last.1) registry upTo
    (fun _ => .refl _) .trans fun handed identity => tends_force handed.1 identity (some upTo)

/-- The task of a ticket can be taken off. -/
theorem takes_cancel {registry : Registry} (timed : registry.Timed) {ticket : Nat}
    {entry : Schedule.Entry Alarm} (found : registry.agenda.find? ticket = some entry) :
    registry.Takes entry (registry.agenda.cancel ticket) := by
  rcases timed.agenda.find?_eq_some_iff.mp found with ⟨present, rfl⟩
  refine { Schedule.Agenda.shrinks_cancel _ _ with left := fun other otherPresent isOther => ?_ }
  exact Schedule.Agenda.mem_cancel_iff.mpr ⟨otherPresent, fun sameTicket =>
    isOther (timed.agenda.eq_of_ticket otherPresent present sameTicket)⟩

theorem takes_takeDue {registry : Registry} {upTo : Nat} {entry : Schedule.Entry Alarm}
    {agenda : Schedule.Agenda Alarm}
    (taken : registry.agenda.takeDue? upTo = some (entry, agenda)) :
    registry.Takes entry agenda := by
  obtain ⟨entries, sameTickets, sameClosed⟩ := Schedule.Agenda.takeDue?_eq_some taken
  refine ⟨⟨?_, sameTickets, sameClosed⟩, fun other present isOther => ?_⟩
  · rw [entries]
    exact List.sublist_cons_self _ _
  · rw [entries] at present
    exact (List.mem_cons.mp present).resolve_left isOther

end Registry

namespace Service

open Registry

theorem tends_newsReport (registry : Registry) (news : ShutdownNews) :
    registry.Tends (registry.report (newsReport news)) := by
  refine tends_report ?_
  cases news <;> simp [newsReport, newsReport.failure, Log.Event.isUnscheduled,
    Log.Event.engine, Log.engineTarget, Log.registryTarget, Log.candidateTarget]

/-- Every instruction tends to all candidates. -/
theorem tends_perform {service : Service} (timed : service.world.Timed)
    (instruction : Instruction) (rest : Program) :
    service.world.Tends (perform instruction rest service).1.world := by
  cases instruction with
  | ring ticket =>
      simp only [perform, ring]
      split
      · exact .refl _
      · next entry found =>
          split
          · exact tends_fireTimer timed (takes_cancel timed found)
          · exact .refl _
  | send job =>
      simp only [perform, send]
      split
      · split
        · exact (tends_beginSend _ _ job).trans (tends_concludeSend _ _ job _)
        · exact tends_beginSend _ _ job
      · next unwanted =>
          exact tends_abandonSend timed (Bool.eq_false_iff.mpr unwanted)
  | conclude job failure => exact tends_concludeSend _ _ job failure
  | enqueue pool job => exact tends_start _ _
  | acquire pool => exact tends_of_silent rfl rfl rfl rfl rfl
  | release pool =>
      have gives : service.world.Tends
          { service.world with pools := (Executor.Pool.releaseAt service.world.pools pool).1 } :=
        tends_of_silent rfl rfl rfl rfl rfl
      simp only [perform, release, proceed]
      cases (Executor.Pool.releaseAt service.world.pools pool).2 with
      | none => exact gives
      | some heir => exact gives.trans (tends_start _ heir)
  | driveDue upTo call =>
      exact Tends.trans (tends_reportOperation _ rfl) (tends_forceDue _ upTo)
  | attempt sequence number call =>
      simp only [perform, attempt]
      split
      · exact .refl _
      · exact tends_force _ _ none
  | runDue upTo ran call =>
      simp only [perform, runDue]
      split
      · exact .refl _
      · next taken => exact tends_fireTimer timed (takes_takeDue taken)
  | serve call =>
      have reports := (tends_reportOperation service.world rfl).trans (isUpkeep_tends.reportEngine
        (service.world.report (.enter "serve")) .trace "Retransmission registry serving")
      exact reports.trans (tends_of_silent rfl rfl rfl rfl rfl)
  | hear news =>
      exact (tends_newsReport _ news).trans (isUpkeep_tends.shutdown _)
  | leave operation => exact tends_reportOperation _ rfl
  | reply call answer => exact tends_of_silent rfl rfl rfl rfl rfl

/-! ## Timers that ring -/

/-- The activity of a timer is ready, or sleeps until the instant comes. -/
def IsTicking (service : Service) (entry : Schedule.Entry Alarm) : Prop :=
  ⟨[.ring entry.ticket], false⟩ ∈ service.ready ∨
    ⟨Time.wake entry.due, ⟨[.ring entry.ticket], false⟩⟩ ∈ service.asleep

/-- What holds of timers between the moves of a run: they are in order, and where the
clock drives them, each one on the agenda is ticking. -/
structure IsTimed (service : Service) : Prop where
  timed : service.world.Timed
  started : service.world.starting = []
  ticking : ∀ hosted, service.world.driving = .byTimers hosted →
    ∀ entry ∈ service.world.agenda.entries, service.IsTicking entry

/-- A move that loses no activity and changes the registry in a way that tends to all
candidates. -/
structure Furthers (before after : Service) : Prop where
  ready : before.ready ⊆ after.ready
  asleep : before.asleep ⊆ after.asleep
  world : ∃ registry, before.world.Tends registry ∧
    after.world = { registry with starting := [] } ∧
    ∀ program ∈ registry.starting, ⟨program, false⟩ ∈ after.ready

/-- A timer that is put on the agenda ticks from then on, and the others go on. -/
theorem Furthers.isTimed {before after : Service} (furthers : before.Furthers after)
    (isTimed : before.IsTimed) : after.IsTimed := by
  rcases furthers.world with ⟨registry, tends, sameWorld, runs⟩
  refine ⟨?_, ?_, ?_⟩
  · rw [sameWorld]
    exact (tends.timed isTimed.timed).launched
  · rw [sameWorld]
  · rw [sameWorld]
    intro hosted driving entry present
    have driven := tends.driving.symm.trans driving
    rcases tends.rung hosted driven entry present with old | started
    · exact (isTimed.ticking hosted driven entry old).imp (furthers.ready ·) (furthers.asleep ·)
    · exact .inl (runs _ started)

/-! ## Moves of a caller -/

/-- An operation of the registry starts activities and stops none. -/
theorem furthers_change {service : Service} (operation : Registry → Registry)
    (tends : service.world.Tends (operation service.world)) :
    service.Furthers (service.change operation) := by
  have launched := ready_launch { service with world := operation service.world }
  refine ⟨?_, ?_, operation service.world, tends, ?_, ?_⟩
  · rw [change, launched]
    exact List.subset_append_left _ _
  · rw [change, asleep_launch]
    exact fun _ present => present
  · exact world_launch _
  · intro program present
    rw [change, launched]
    exact List.mem_append_right _ (List.mem_map_of_mem present)

/-- What a caller does without starting anything in the registry. -/
theorem furthers_of_silent {before after : Service} (idle : before.world.starting = [])
    (ready : before.ready ⊆ after.ready) (asleep : before.asleep ⊆ after.asleep)
    (sameCandidates : after.world.candidates = before.world.candidates)
    (sameAgenda : after.world.agenda = before.world.agenda)
    (sameDriving : after.world.driving = before.world.driving)
    (sameStarting : after.world.starting = before.world.starting)
    (sameJournal : after.world.journal.events = before.world.journal.events) :
    before.Furthers after where
  ready := ready
  asleep := asleep
  world := by
    have nothing := sameStarting.trans idle
    refine ⟨after.world, tends_of_silent sameCandidates sameAgenda sameDriving sameStarting
      sameJournal, ?_, ?_⟩
    · rw [← nothing]
    · intro program present
      rw [nothing] at present
      cases present

theorem furthers_announce {service : Service} (idle : service.world.starting = [])
    (news : ShutdownNews) : service.Furthers (service.announce news).1 := by
  unfold announce
  split
  · exact furthers_of_silent idle (fun _ present => present) (fun _ present => present) rfl rfl
      rfl rfl rfl
  · exact furthers_of_silent idle (List.subset_append_left _ _) (fun _ present => present) rfl rfl
      rfl rfl rfl

theorem tends_setExecutors (registry : Registry) (executors : List (String × Option Nat)) :
    registry.Tends (registry.setExecutors executors) := by
  unfold setExecutors
  have clears : registry.Tends { registry with routing := Executor.Routing.inlineOnly } :=
    tends_of_silent rfl rfl rfl rfl rfl
  apply clears.trans
  generalize { registry with routing := Executor.Routing.inlineOnly } = before
  induction executors generalizing before with
  | nil => exact .refl before
  | cons executor rest inductionHypothesis =>
      refine Tends.trans ?_ (inductionHypothesis _)
      rcases executor with ⟨owner, _ | size⟩
      · exact tends_of_silent rfl rfl rfl rfl rfl
      · exact tends_of_silent rfl rfl rfl rfl rfl

/-- A closed agenda keeps what it holds. -/
theorem tends_close (registry : Registry) :
    registry.Tends { registry with agenda := registry.agenda.close } := by
  have advances : registry.Advances { registry with agenda := registry.agenda.close } :=
    { Advances.refl registry with
      closed := fun _ => rfl
      timed := fun timed =>
        ⟨⟨timed.agenda.issued, timed.agenda.distinct⟩, timed.armed, timed.settled⟩
      honest := by
        intro event present
        cases (mem_newsUntil_iff (List.nil_append _).symm).mp present }
  exact advances.tends fun _ => rfl

/-- Whatever a caller asks for. -/
theorem furthers_carryOut {service : Service} (isTimed : service.IsTimed) (command : Command) :
    service.Furthers (service.carryOut command) := by
  have timed := isTimed.timed
  have idle := isTimed.started
  have operates (operation : command.isQuiet = false) :
      service.Furthers (service.carryOut command) := by
    obtain ⟨changes, after, tends⟩ := isUpkeep_tends.exists_change service operation
      (tends_add _ _) (tends_resume timed _)
    rw [after]
    exact furthers_change changes tends
  cases command with
  | add _ | purgeAcknowledged _ _ | purgeAll _ | stop _ | suspend _ | resume _ | shutdown =>
      exact operates rfl
  | request name request =>
      cases name with
      | none =>
          exact furthers_of_silent idle (List.subset_cons_self _ _) (fun _ present => present)
            rfl rfl rfl rfl rfl
      | some name =>
          exact furthers_of_silent idle (List.subset_append_left _ _) (fun _ present => present)
            rfl rfl rfl rfl rfl
  | join name =>
      exact furthers_of_silent idle (fun _ present => present) (fun _ present => present)
        rfl rfl rfl rfl rfl
  | serve name =>
      simp only [carryOut, beginServing, announce]
      split
      · exact furthers_of_silent idle (List.subset_append_left _ _) (fun _ present => present)
          rfl rfl rfl rfl rfl
      · refine furthers_of_silent idle ?_ (fun _ present => present) rfl rfl rfl rfl rfl
        exact fun _ present =>
          List.mem_append_left _ (List.mem_append_left _ present)
  | announce news => exact furthers_announce idle news
  | setExecutors executors =>
      exact furthers_change (Registry.setExecutors · executors) (tends_setExecutors _ executors)
  | closeAgenda =>
      exact furthers_change (fun registry => { registry with agenda := registry.agenda.close })
        (tends_close _)
  | prepare message outcomes =>
      refine furthers_change (fun registry =>
        { registry with script := registry.script.prepare message outcomes }) ?_
      exact tends_of_silent rfl rfl rfl rfl rfl
  | exchangeStore store =>
      apply furthers_change (fun registry => { registry with store })
      exact tends_of_silent rfl rfl rfl rfl rfl

/-! ## Moves of activities -/

theorem agenda_handOver (registry : Registry) (identity : Nat) :
    (registry.handOver identity).1.agenda = registry.agenda := by
  unfold handOver
  split
  · rfl
  · split <;> rfl

/-- A timer that fires leaves the agenda alone. -/
theorem agenda_fireTimer (registry : Registry) (alarm : Alarm) :
    (registry.fireTimer alarm).1.agenda = registry.agenda := by
  unfold fireTimer
  split
  · rfl
  · simp only
    split
    · rfl
    · split
      · rw [agenda_handOver]
        rfl
      · rfl

/-- A timer whose task stays on the agenda sleeps until its instant. -/
theorem perform_ring {service : Service} (timed : service.world.Timed)
    {entry : Schedule.Entry Alarm} (present : entry ∈ service.world.agenda.entries)
    (stays : entry ∈ (perform (.ring entry.ticket) [] service).1.world.agenda.entries) :
    perform (.ring entry.ticket) [] service =
        (service, .sleepUntil entry.due [.ring entry.ticket]) ∧
      ¬ Time.wake entry.due ≤ service.now := by
  have found := timed.agenda.find?_eq_some_iff.mpr ⟨present, rfl⟩
  simp only [perform, ring, found] at stays ⊢
  split at stays
  · have cancelled : entry ∈ (service.world.agenda.cancel entry.ticket).entries := by
      simp only [pursue, proceed, agenda_fireTimer] at stays
      exact stays
    exact absurd rfl (Schedule.Agenda.mem_cancel_iff.mp cancelled).2
  · next early => exact ⟨if_neg early, early⟩

/-- An activity that is taken from a list leaves all others. -/
theorem eq_or_mem_eraseIdx {α : Type} {list : List α} {index : Nat} {taken other : α}
    (found : list[index]? = some taken) (present : other ∈ list) :
    other = taken ∨ other ∈ list.eraseIdx index := by
  obtain ⟨inside, atIndex⟩ := List.getElem?_eq_some_iff.mp found
  have among := (List.getElem_cons_eraseIdx_perm inside).symm.subset present
  rw [atIndex] at among
  exact List.mem_cons.mp among

theorem world_behave (instruction : Instruction) (rest : Program) (service : Service) :
    (behave instruction rest service).1.world =
      { (perform instruction rest service).1.world with starting := [] } :=
  world_launch _

/-- An instruction makes ready what it starts. -/
theorem ready_behave (instruction : Instruction) (rest : Program) (service : Service) :
    (behave instruction rest service).1.ready = service.ready ++
      (perform instruction rest service).1.world.starting.map (⟨·, false⟩) := by
  rw [behave, ready_launch, perform_fst]

theorem asleep_behave (instruction : Instruction) (rest : Program) (service : Service) :
    (behave instruction rest service).1.asleep = service.asleep := by
  rw [behave, asleep_launch, perform_fst]

/-- What ticks beside an activity ticks on when the activity goes on. -/
theorem IsTicking.resume {service : Service} {entry : Schedule.Entry Alarm}
    (ticking : service.IsTicking entry) (instruction : Instruction) (rest : Program)
    (index : Nat) (foreground : Bool) :
    IsTicking ((behave instruction rest service).1.resume index foreground
      (behave instruction rest service).2) entry := by
  rcases ticking with isReady | isAsleep
  · refine .inl (Timeline.ready_subset_resume _ _ _ _ ?_)
    rw [ready_behave]
    exact List.mem_append_left _ isReady
  · refine .inr (Timeline.asleep_subset_resume _ _ _ _ ?_)
    rw [asleep_behave]
    exact isAsleep

/-- A step tends to all candidates, and every timer ticks on. -/
theorem isTimed_stepAt {service after : Service} {index : Nat} (isTimed : service.IsTimed)
    (stepped : service.stepAt behave index = some after) :
    after.IsTimed ∧ ∃ registry, service.world.Tends registry ∧
      after.world = { registry with starting := [] } := by
  rcases Timeline.stepAt_eq_some stepped with ⟨activity, ready, others, isOthers, _, went⟩
  have sameWorld : others.world = service.world := by rw [isOthers]
  have timed : others.world.Timed := sameWorld ▸ isTimed.timed
  -- the activity that steps may be the timer itself
  have ticking {hosted : Bool} (driving : service.world.driving = .byTimers hosted)
      {entry : Schedule.Entry Alarm} (present : entry ∈ service.world.agenda.entries) :
      activity = ⟨[.ring entry.ticket], false⟩ ∨ IsTicking others entry := by
    rw [isOthers]
    rcases isTimed.ticking hosted driving entry present with isReady | isAsleep
    · exact (eq_or_mem_eraseIdx ready isReady).imp Eq.symm .inl
    · exact .inr (.inr isAsleep)
  rcases went with ⟨ended, rfl⟩ | ⟨instruction, rest, isProgram, rfl⟩
  · refine ⟨⟨timed, sameWorld ▸ isTimed.started, ?_⟩, service.world, .refl _, ?_⟩
    · intro hosted driving entry present
      refine (ticking (sameWorld ▸ driving) (sameWorld ▸ present)).resolve_left fun same => ?_
      rw [same] at ended
      cases ended
    · rw [sameWorld, ← isTimed.started]
  · have tends := tends_perform timed instruction rest
    have afterWorld : ((behave instruction rest others).1.resume index activity.foreground
        (behave instruction rest others).2).world =
          { (perform instruction rest others).1.world with starting := [] } := by
      rw [Timeline.world_resume, world_behave]
    refine ⟨⟨?_, ?_, ?_⟩, _, sameWorld ▸ tends, afterWorld⟩
    · rw [afterWorld]
      exact (tends.timed timed).launched
    · rw [afterWorld]
    · rw [afterWorld]
      intro hosted driving entry present
      have driven : others.world.driving = .byTimers hosted := tends.driving.symm.trans driving
      rcases tends.rung hosted driven entry present with old | started
      · rcases ticking (sameWorld ▸ driven) (sameWorld ▸ old) with same | beside
        · rw [same] at isProgram
          cases isProgram
          rcases perform_ring timed old present with ⟨sleeps, early⟩
          refine .inr ?_
          rw [behave, sleeps, same]
          exact Timeline.mem_asleep_resume (by rw [now_launch]; exact early) index false _
        · exact beside.resume instruction rest index activity.foreground
      · refine .inl (Timeline.ready_subset_resume _ _ _ _ ?_)
        rw [ready_behave]
        exact List.mem_append_right _ (List.mem_map_of_mem started)

/-- A sleeper that wakes up is ready. -/
theorem isTimed_rouseTo {service after : Service} {index position : Nat}
    (isTimed : service.IsTimed) (roused : service.rouseTo index position = some after) :
    after.IsTimed ∧ after.world = service.world := by
  unfold Timeline.rouseTo at roused
  cases found : service.asleep[index]? with
  | none => simp [found] at roused
  | some sleeper =>
      simp only [found] at roused
      split at roused
      · next allowed =>
          cases roused
          refine ⟨⟨isTimed.timed, isTimed.started, ?_⟩, rfl⟩
          intro hosted driving entry present
          rcases isTimed.ticking hosted driving entry present with isReady | isAsleep
          · exact .inl (List.subset_insertIdx _ _ _ isReady)
          · rcases eq_or_mem_eraseIdx found isAsleep with same | other
            · refine .inl ((List.mem_insertIdx allowed.2).mpr (.inl ?_))
              rw [← same]
            · exact .inr other
      · cases roused

/-- A change of the service that tends to all candidates, apart from activities that are
started on the way. -/
def Tends (before after : Service) : Prop :=
  ∃ registry, before.world.Tends registry ∧ after.world = { registry with starting := [] }

/-- Every move tends to all candidates, and every timer ticks on. -/
theorem tends_move {service after : Service} {move : Move} (isTimed : service.IsTimed)
    (moved : service.move? move = some after) : after.IsTimed ∧ service.Tends after := by
  cases move with
  | command command =>
      obtain rfl := eq_carryOut moved
      have furthers := furthers_carryOut isTimed command
      rcases furthers.world with ⟨registry, tends, sameWorld, _⟩
      exact ⟨furthers.isTimed isTimed, registry, tends, sameWorld⟩
  | step index => exact isTimed_stepAt isTimed moved
  | rouse index position =>
      obtain ⟨afterTimed, sameWorld⟩ := isTimed_rouseTo isTimed moved
      refine ⟨afterTimed, service.world, .refl _, ?_⟩
      rw [← isTimed.started]
      exact sameWorld
  | wait instant =>
      obtain rfl := eq_wait moved
      refine ⟨⟨isTimed.timed, isTimed.started, isTimed.ticking⟩, service.world, .refl _, ?_⟩
      rw [← isTimed.started]
  | reorder roster =>
      obtain ⟨_, rfl⟩ := eq_reorder moved
      have tends : service.world.Tends (service.withRoster roster).world :=
        isUpkeep_tends.relist service.world roster
      refine ⟨⟨tends.timed isTimed.timed, isTimed.started, isTimed.ticking⟩, _, tends, ?_⟩
      rw [← isTimed.started]
      rfl

/-- So does every run. -/
theorem tends_run {first last : Service} {moves : List Move} (isTimed : first.IsTimed)
    (run : Run first moves last) : last.IsTimed ∧ first.Tends last := by
  induction run with
  | start =>
      refine ⟨isTimed, first.world, .refl _, ?_⟩
      rw [← isTimed.started]
  | extend _ moved inductionHypothesis =>
      rcases inductionHypothesis with ⟨middleTimed, registry, earlier, sameMiddle⟩
      rcases tends_move middleTimed moved with ⟨lastTimed, other, later, sameLast⟩
      rw [sameMiddle] at later
      exact ⟨lastTimed, _, earlier.trans (later.beside), sameLast⟩

theorem IsInitial.isTimed {service : Service} (initial : service.IsInitial) :
    service.IsTimed := by
  rcases initial with ⟨registry, fresh, rfl⟩
  have noCandidate (identity : Nat) : registry.candidate? identity = none := by
    rw [candidate?, fresh.candidates, List.getElem?_nil]
  have noEntry : (Timeline.start registry : Service).world.agenda.entries = [] := fresh.entries
  refine ⟨⟨⟨?_, ?_⟩, ?_, ?_⟩, fresh.starting, ?_⟩
  · intro entry present
    rw [noEntry] at present
    cases present
  · rw [noEntry]
    exact List.nodup_nil
  · intro identity candidate ticket found
    cases (noCandidate identity).symm.trans found
  · intro identity candidate found
    cases (noCandidate identity).symm.trans found
  · intro hosted driving entry present
    rw [noEntry] at present
    cases present

/-! ## The main result -/

/-- Between two moments every schedule call for a candidate was accepted and its schedule
did not overflow: each refusal and each overflow is reported. -/
def HasScheduled (before after : Service) (candidate : Candidate) : Prop :=
  ∀ event ∈ before.world.newsUntil after.world, ¬ event.TellsOf candidate

/-- The candidate has a timer on the agenda that bears its generation and, where the clock
drives the registry, is ticking. -/
def HasTimer (service : Service) (identity : Nat) (candidate : Candidate) : Prop :=
  ∃ due ticket, candidate.timer = some ticket ∧
    ⟨due, ticket, ⟨identity, candidate.generation⟩⟩ ∈ service.world.agenda.entries ∧
    ∀ hosted, service.world.driving = .byTimers hosted →
      service.IsTicking ⟨due, ticket, ⟨identity, candidate.generation⟩⟩

/-- A message is reported to be left without a timer only if the agenda is closed, nothing
hosts timers, or its schedule has overflowed. -/
theorem unscheduled_only_if_refused {first last : Service} {moves : List Move}
    (isTimed : first.IsTimed) (run : Run first moves last) {event : Log.Event}
    (told : event ∈ first.world.newsUntil last.world) (unscheduled : event.isUnscheduled = true) :
    last.world.agenda.closed = true ∨ first.world.driving = .byTimers false ∨
      event.isOverflow = true := by
  obtain ⟨_, registry, tends, sameWorld⟩ := tends_run isTimed run
  rw [sameWorld] at told ⊢
  exact tends.honest event told unscheduled

/-- No retry is lost.  Let a scheduler have accepted every schedule call for a message
since a moment before it was registered, and its schedule not have overflowed.  Then,
unless the message has no address, is exhausted, has ended or is suspended, either its
timer is on the agenda and will ring, or a resend of it has been handed over and has
neither completed nor been skipped. -/
theorem retry_not_lost {first start last : Service} {early late : List Move} {identity : Nat}
    {candidate : Candidate} (initial : first.IsInitial) (toStart : Run first early start)
    (unregistered : start.world.candidate? identity = none) (run : Run start late last)
    (driven : last.world.driving ≠ .byHand)
    (found : last.world.candidate? identity = some candidate)
    (scheduled : start.HasScheduled last candidate) (addressable : candidate.addressable = true)
    (further : candidate.exhausted = false) (active : candidate.ending = none)
    (unsuspended : candidate.suspended = false) :
    last.HasTimer identity candidate ∨
      candidate.pending = true ∧
        ∃ errand ∈ errandsIn last.programs, errand.job.candidate = identity := by
  rcases tends_run initial.isTimed toStart with ⟨startTimed, _⟩
  rcases tends_run startTimed run with ⟨lastTimed, registry, tends, sameWorld⟩
  cases timer : candidate.timer with
  | some ticket =>
      rcases lastTimed.timed.armed identity candidate ticket found timer with ⟨due, waits⟩
      exact .inl ⟨due, ticket, timer, waits, fun hosted driving =>
        lastTimed.ticking hosted driving _ waits⟩
  | none =>
      refine .inr ?_
      have pending : candidate.pending = true := by
        by_contra idle
        have neglected : candidate.IsNeglected :=
          ⟨by simp [Candidate.wantsTimer, addressable, unsuspended, further], active,
            Bool.eq_false_iff.mpr idle, timer⟩
        rw [sameWorld] at driven found
        rcases tends.minded (tends.driving ▸ driven) identity candidate found neglected with
          ⟨former, isFormer, _⟩ | ⟨event, told, tells⟩
        · cases unregistered.symm.trans isFormer
        · refine scheduled event ?_ tells
          rw [sameWorld]
          exact told
      refine ⟨pending, ?_⟩
      have sound := ((initial.sound.run toStart).run run).share identity
      have share : (last.outline.share identity).candidate = some candidate.untimed := by
        rw [← Option.map_some, ← found]
        exact getElem?_outline last.world identity
      have single := sound.single _ share active
      rw [show candidate.untimed.pending = true from pending, if_pos rfl] at single
      obtain ⟨errand, present⟩ := Multiset.card_pos_iff_exists_mem.mp (single ▸ Nat.zero_lt_one)
      rcases Multiset.mem_filter.mp present with ⟨among, isOwn⟩
      rw [zero_add, programs_outline, errandsIn_apartFromRings] at among
      exact ⟨errand, among, isOwn⟩

/-- A message whose sequence is suspended and resumed while a resend of it is under way. -/
theorem retry_not_lost_under_way :
    ∃ last candidate, Run (Sample.service (.byTimers true))
        [.command (.prepare (Sample.sequence, 1) [{ takes := 5, failure := none }]),
          .command (.add (Sample.message 1 none)),
          .command (.request none (.attempt Sample.sequence 1)), .step 0, .step 0,
          .command (.suspend Sample.sequence), .command (.resume Sample.sequence)] last ∧
      last.world.candidate? 0 = some candidate ∧ candidate.pending = true ∧
      (last.HasTimer 0 candidate ∨ candidate.pending = true ∧
        ∃ errand ∈ errandsIn last.programs, errand.job.candidate = 0) := by
  have seen : (follow
      [.command (.prepare (Sample.sequence, 1) [{ takes := 5, failure := none }]),
        .command (.add (Sample.message 1 none)),
        .command (.request none (.attempt Sample.sequence 1)), .step 0, .step 0,
        .command (.suspend Sample.sequence), .command (.resume Sample.sequence)]
      (Sample.service (.byTimers true))).map (fun last =>
        (last.world.driving,
          ((Sample.service (.byTimers true)).world.newsUntil last.world).any
            Log.Event.isUnscheduled,
          (last.world.candidate? 0).map fun candidate =>
            (candidate.addressable, candidate.exhausted, candidate.ending, candidate.suspended,
              candidate.pending))) =
      some (.byTimers true, false, some (true, false, none, false, true)) := rfl
  rcases Option.map_eq_some_iff.mp seen with ⟨last, followed, sees⟩
  simp only [Prod.mk.injEq, Option.map_eq_some_iff] at sees
  obtain ⟨driving, calm, candidate, found, addressable, further, active, unsuspended, pending⟩ :=
    sees
  have run := Run.of_follow followed
  refine ⟨last, candidate, run, found, pending, ?_⟩
  refine retry_not_lost (Sample.isInitial_service _) .start rfl run ?_ found ?_ addressable further
    active unsuspended
  · rw [driving]
    exact Driving.noConfusion
  · intro event told tells
    exact List.any_eq_false.mp calm event told tells.1

end Service

end Redelivery
