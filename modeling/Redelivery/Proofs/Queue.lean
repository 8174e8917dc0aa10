import Mathlib.Data.Set.Function
import Redelivery.Proofs.Bookings
import Redelivery.Proofs.Origin

/-!
# The queue of waiting tasks

In every reachable service the tasks on the agenda and the candidates that hold a ticket
correspond to each other one to one.  Nothing that a caller, a timer or a resend does leaves a
task behind that no candidate waits for.
-/

namespace Redelivery

namespace Registry

variable {overran : Nat → Prop}

/-! ## Operations -/

/-- A candidate whose timer is dropped, and which is not neglected afterwards. -/
theorem books_dropTimer {change : Candidate → Candidate}
    (minded : ∀ candidate, ¬ (change candidate).IsNeglected) {registry : Registry} {identity : Nat}
    (tends : registry.Tends ((registry.dropTimer identity).modify identity change)) :
    Books overran registry ((registry.dropTimer identity).modify identity change) := by
  refine tends.books_of_others identity (fun _ booked => ?_) (fun _ isOther => ?_) ?_
  · obtain ⟨dropped, clear⟩ := booked.dropTimer identity
    exact dropped.modify_of_isClear clear change
  · exact (candidate?_modify_of_ne isOther _ _).trans (candidate?_dropTimer _ _ _)
  · intro _ _ changed isChanged neglected
    obtain ⟨candidate, _, rfl⟩ := Option.map_eq_some_iff.mp
      ((candidate?_modify_self _ _ _).symm.trans isChanged)
    exact absurd neglected (minded candidate)

/-- The parts of operations keep the books. -/
theorem isUpkeep_books : IsUpkeep (Books overran) where
  refl := .refl
  trans := .trans
  tell told calm := (isUpkeep_tends.tell told calm).books rfl rfl
  relist registry roster := (isUpkeep_tends.relist registry roster).books rfl rfl
  exchange registry store := (isUpkeep_tends.exchange registry store).books rfl rfl
  finish registry ending identity := by
    refine books_dropTimer (fun candidate neglected => ?_) (tends_finish registry ending identity)
    have ended := (Candidate.message_finish candidate ending).2
    rw [neglected.active] at ended
    cases ended
  pause registry identity :=
    books_dropTimer Candidate.not_neglected_suspend (tends_pause registry identity)

/-- A candidate that is suspended awaits nothing, and is booked at once when it leaves
suspension. -/
theorem books_wake {registry : Registry} (timed : registry.Timed) (now identity : Nat) :
    Books overran registry (registry.wake now identity) := by
  have tends := tends_wake timed now identity
  cases found : registry.candidate? identity with
  | none =>
      simp only [wake, found]
      exact .refl registry
  | some candidate =>
      have freedFound := candidate?_modify found Candidate.unsuspend
      have frees (other : Nat) (isOther : other ≠ identity) :
          (registry.modify identity Candidate.unsuspend).candidate? other =
            registry.candidate? other := candidate?_modify_of_ne isOther _ _
      simp only [wake, found] at tends ⊢
      split
      · exact .refl registry
      · next paused =>
          rw [if_neg paused] at tends
          have suspended : candidate.suspended = true := by simpa using paused
          have cleared (booked : registry.Booked) : registry.IsClear identity := by
            refine booked.isClear fun other entry isOther awaits => ?_
            obtain rfl := Option.some.inj (found.symm.trans isOther)
            have wants := awaits.wants
            simp [Candidate.wantsTimer, suspended] at wants
          split
          · next still =>
              rw [if_pos still] at tends
              refine tends.books_of_others identity
                (fun _ booked => booked.modify_of_isClear (cleared booked) _) frees ?_
              intro _ _ freed isFreed neglected
              obtain rfl := Option.some.inj (freedFound.symm.trans isFreed)
              have settled := timed.settled _ candidate found
              exact absurd neglected (settled.not_neglected_unsuspend still)
          · next goesOn =>
              rw [if_neg goesOn] at tends
              have dueFound := candidate?_modify freedFound fun candidate =>
                { candidate with next := now }
              simp only [Candidate.isInert, Bool.or_eq_true, not_or, Bool.not_eq_true',
                Bool.not_eq_true, Option.isSome_eq_false_iff, Option.isNone_iff_eq_none,
                Bool.not_eq_false] at goesOn
              obtain ⟨⟨⟨active, further⟩, _⟩, addressable⟩ := goesOn
              refine tends.books_of_others identity (fun _ booked => ?_)
                (fun other isOther => ?_) ?_
              · have clear := cleared booked
                have due := (booked.modify_of_isClear clear Candidate.unsuspend).modify_of_isClear
                  clear fun candidate => { candidate with next := now }
                obtain ⟨disarmed, stillClear⟩ := due.disarm identity
                refine booked_arm disarmed stillClear dueFound rfl ?_ active
                simp [Candidate.wantsTimer, Candidate.unsuspend, further, addressable]
              · exact ((candidate?_arm_of_ne isOther _ _).trans
                  (candidate?_modify_of_ne isOther _ _)).trans (frees other isOther)
              · intro driving isOpen armed isArmed neglected
                exact absurd neglected.timerless (timer_arm isOpen dueFound isArmed driving)

/-- A message that is taken in is booked for its first resend, unless its schedule overflows
at once or it takes no part in the schedule. -/
theorem books_enroll {registry : Registry} {message : Message}
    (overflows : message.policy.initialInterval = none → overran registry.candidates.length)
    (now : Nat) : Books overran registry (registry.enroll now message).1 := by
  have tends := registry.tends_enroll now message
  let candidate := Candidate.register now registry.routing
    (registry.roster.isSuspended message.sequence) message
  let identity := registry.candidates.length
  let listed : Registry := registry.enlist message.sequence candidate
  have others : ∀ other, other ≠ identity →
      listed.candidate? other = registry.candidate? other :=
    fun _ isOther => candidate?_enlist_of_ne isOther _ _
  have found : listed.candidate? identity = some candidate :=
    registry.candidate?_enlist_self _ _
  have lists (booked : registry.Booked) : listed.Booked ∧ listed.IsClear identity := by
    have clear : registry.IsClear identity := by
      refine booked.isClear fun other _ isOther => ?_
      rw [candidate?, List.getElem?_eq_none_iff.mpr (Nat.le_refl _)] at isOther
      cases isOther
    refine ⟨fun entry present => ?_, clear⟩
    obtain ⟨other, isOther, awaits⟩ := booked entry present
    exact ⟨other, (others _ (clear entry present)).trans isOther, awaits⟩
  change registry.Tends (if message.policy.initialInterval.isNone then _ else _ :
    Registry × Nat).1 at tends
  change Books overran registry (if message.policy.initialInterval.isNone then _ else _ :
    Registry × Nat).1
  split
  · next noInterval =>
      rw [if_pos noInterval] at tends
      refine tends.books_of_others identity (fun _ booked => (lists booked).1.congr rfl rfl)
        others ?_
      exact fun _ _ _ _ _ => .inr (overflows (Option.isNone_iff_eq_none.mp noInterval))
  · next regular =>
      rw [if_neg regular] at tends
      split
      · next wants =>
          rw [if_pos wants] at tends
          refine tends.books_of_others identity (fun _ booked => ?_) (fun other isOther => ?_) ?_
          · obtain ⟨disarmed, clear⟩ := (lists booked).1.disarm identity
            exact booked_arm disarmed clear found rfl wants rfl
          · exact (candidate?_arm_of_ne isOther _ _).trans (others other isOther)
          · intro driving isOpen armed isArmed neglected
            exact absurd neglected.timerless (timer_arm isOpen found isArmed driving)
      · next unwanted =>
          rw [if_neg unwanted] at tends
          refine tends.books_of_others identity (fun _ booked => (lists booked).1) others ?_
          intro _ _ other isOther neglected
          obtain rfl := Option.some.inj (found.symm.trans isOther)
          exact absurd neglected.wants unwanted

theorem books_add {registry : Registry} {message : Message}
    (overflows : message.policy.initialInterval = none → overran registry.candidates.length)
    (now : Nat) : Books overran registry (registry.add now message).1 :=
  isUpkeep_books.add now message fun _ sameCandidates =>
    books_enroll (sameCandidates ▸ overflows) now

theorem books_resume {registry : Registry} (timed : registry.Timed) (now : Nat)
    (sequence : SequenceKey) : Books overran registry (registry.resume now sequence) :=
  isUpkeep_books.resume now sequence (fun books => books.timed)
    (fun timed identity => books_wake timed now identity) timed

end Registry

namespace Service

open Registry

/-! ## Instructions -/

/-- A candidate with an errand that has not ended takes part in the schedule. -/
theorem Sound.isOnCourse {service : Service} (sound : service.Sound) {errand : Errand}
    (present : errand ∈ errandsIn service.programs) :
    service.world.IsOnCourse errand.job.candidate := by
  intro candidate found active
  have share := sound.share errand.job.candidate
  have isCandidate := candidate_share found
  have own : errand ∈ (service.outline.share errand.job.candidate).errands := by
    refine Multiset.mem_filter.mpr ⟨?_, rfl⟩
    rw [zero_add, programs_outline, errandsIn_apartFromRings]
    exact present
  have counted := share.single _ isCandidate active
  have pending : candidate.pending = true := by
    by_contra idle
    rw [show candidate.untimed.pending = false from Bool.eq_false_iff.mpr idle,
      if_neg Bool.false_ne_true] at counted
    rw [Multiset.card_eq_zero.mp counted] at own
    cases own
  exact ⟨pending, ((share.candidate _ isCandidate).busy pending).2⟩

theorem books_forceDue {overran : Nat → Prop} (registry : Registry) (upTo : Nat) :
    Registry.Books overran registry (forceDue registry upTo).1 :=
  forceDue_relates (fun first last => Registry.Books overran first.1 last.1) registry upTo
    (fun _ => .refl _) .trans fun handed identity => books_force handed.1 identity (some upTo)

/-- Every instruction keeps the books. -/
theorem books_perform {service : Service} (timed : service.world.Timed)
    {instruction : Instruction}
    (onCourse : ∀ errand, instruction.errand? = some errand →
      service.world.IsOnCourse errand.job.candidate) (rest : Program) :
    Registry.Books service.world.MayOverrun service.world
      (perform instruction rest service).1.world := by
  have tends := tends_perform timed instruction rest
  cases instruction with
  | ring ticket =>
      simp only [perform, ring]
      split
      · exact .refl _
      · next entry found =>
          split
          · refine books_fireTimer timed (takes_cancel timed found)
              (List.mem_of_find?_eq_some found) fun left => ?_
            exact (Schedule.Agenda.mem_cancel_iff.mp left).2
              (Schedule.Agenda.ticket_of_find? found)
          · exact .refl _
  | send job =>
      simp only [perform, send]
      split
      · have begun : (service.world.beginSend service.now job).1.IsOnCourse job.candidate :=
          onCourse (.waiting job) rfl
        split
        · exact (books_beginSend _ _ job).trans (books_concludeSend begun
            (fun _ found active => (onCourse (.waiting job) rfl).mayOverrun found active) _ _)
        · exact books_beginSend _ _ job
      · next unwanted => exact books_abandonSend timed (Bool.eq_false_iff.mpr unwanted)
  | conclude job failure =>
      have underWay := onCourse (.underWay job) rfl
      exact books_concludeSend underWay
        (fun _ found active => underWay.mayOverrun found active) _ failure
  | enqueue pool job => exact tends.books rfl rfl
  | acquire pool => exact tends.books rfl rfl
  | release pool =>
      simp only [perform, release, proceed] at tends ⊢
      cases heir : (Executor.Pool.releaseAt service.world.pools pool).2 with
      | none =>
          rw [heir] at tends
          exact tends.books rfl rfl
      | some heir =>
          rw [heir] at tends
          exact tends.books rfl rfl
  | driveDue upTo call =>
      exact ((tends_reportOperation _ rfl).books rfl rfl).trans (books_forceDue _ upTo)
  | attempt sequence number call =>
      simp only [perform, attempt]
      split
      · exact .refl _
      · exact books_force _ _ none
  | runDue upTo ran call =>
      simp only [perform, runDue]
      split
      · exact .refl _
      · next entry agenda taken =>
          have entries := (Schedule.Agenda.takeDue?_eq_some taken).1
          refine books_fireTimer timed (takes_takeDue taken) ?_ fun left => ?_
          · rw [entries]
            exact List.mem_cons_self
          · have distinct := timed.agenda.distinct
            rw [entries, List.map_cons, List.nodup_cons] at distinct
            exact distinct.1 (List.mem_map_of_mem left)
  | serve call => exact tends.books rfl rfl
  | hear news =>
      exact ((tends_newsReport _ news).books rfl rfl).trans (isUpkeep_books.shutdown _)
  | leave operation => exact tends.books rfl rfl
  | reply call answer => exact tends.books rfl rfl

/-! ## Moves -/

/-- A change of the service that keeps the books, apart from activities that are started on
the way. -/
def Books (before after : Service) : Prop :=
  ∃ registry, Registry.Books before.world.MayOverrun before.world registry ∧
    after.world = { registry with starting := [] }

/-- Where candidates and tasks stay as they are. -/
theorem Tends.books {before after : Service} (tends : before.Tends after)
    (sameCandidates : after.world.candidates = before.world.candidates)
    (sameEntries : after.world.agenda.entries = before.world.agenda.entries) :
    before.Books after := by
  obtain ⟨registry, tends, sameWorld⟩ := tends
  rw [sameWorld] at sameCandidates sameEntries
  exact ⟨registry, tends.books sameCandidates sameEntries, sameWorld⟩

theorem books_change {service : Service} (operation : Registry → Registry)
    (books : Registry.Books service.world.MayOverrun service.world (operation service.world)) :
    service.Books (service.change operation) :=
  ⟨operation service.world, books, world_launch _⟩

theorem books_setExecutors {overran : Nat → Prop} (registry : Registry)
    (executors : List (String × Option Nat)) :
    Registry.Books overran registry (registry.setExecutors executors) := by
  have same : (registry.setExecutors executors).candidates = registry.candidates ∧
      (registry.setExecutors executors).agenda = registry.agenda := by
    unfold setExecutors
    refine List.foldlRecOn (motive := fun changed : Registry =>
      changed.candidates = registry.candidates ∧ changed.agenda = registry.agenda)
      executors _ ⟨rfl, rfl⟩ fun former kept executor _ => ?_
    rcases executor with ⟨owner, _ | size⟩
    · exact kept
    · exact kept
  exact (tends_setExecutors registry executors).books same.1 (by rw [same.2])

theorem books_carryOut {service : Service} (isTimed : service.IsTimed) (command : Command) :
    service.Books (service.carryOut command) := by
  have timed := isTimed.timed
  obtain ⟨registry, registryTends, sameWorld, _⟩ := (furthers_carryOut isTimed command).world
  have tends : service.Tends (service.carryOut command) := ⟨registry, registryTends, sameWorld⟩
  have operates (operation : command.isQuiet = false) :
      service.Books (service.carryOut command) := by
    obtain ⟨changes, after, books⟩ := isUpkeep_books.exists_change service operation
      (fun _ => books_add (fun _ => service.world.mayOverrun_length) _) (books_resume timed _)
    rw [after]
    exact books_change changes books
  cases command with
  | add _ | purgeAcknowledged _ _ | purgeAll _ | stop _ | suspend _ | resume _ | shutdown =>
      exact operates rfl
  | request name request =>
      cases name with
      | none => exact tends.books rfl rfl
      | some name => exact tends.books rfl rfl
  | join name => exact tends.books rfl rfl
  | serve name =>
      refine tends.books ?_ ?_
      all_goals
        simp only [carryOut, beginServing, announce]
        split <;> rfl
  | announce news =>
      refine tends.books ?_ ?_
      all_goals
        simp only [carryOut, announce]
        split <;> rfl
  | setExecutors executors =>
      exact books_change (Registry.setExecutors · executors) (books_setExecutors _ executors)
  | closeAgenda =>
      exact books_change (fun registry => { registry with agenda := registry.agenda.close })
        ((tends_close _).books rfl rfl)
  | prepare message outcomes =>
      refine books_change (fun registry =>
        { registry with script := registry.script.prepare message outcomes })
        (Registry.Tends.books ?_ rfl rfl)
      exact tends_of_silent rfl rfl rfl rfl rfl
  | exchangeStore store =>
      refine books_change (fun registry => { registry with store })
        (Registry.Tends.books ?_ rfl rfl)
      exact tends_of_silent rfl rfl rfl rfl rfl

theorem books_stepAt {service after : Service} {index : Nat} (sound : service.Sound)
    (isTimed : service.IsTimed) (stepped : service.stepAt behave index = some after) :
    service.Books after := by
  obtain ⟨program, _, _, others, sameWorld, _, programs, went⟩ := stepAt_eq_some stepped
  rcases went with ⟨_, rfl⟩ | ⟨instruction, rest, middle, rfl, isMiddle, world, _⟩
  · refine ⟨service.world, .refl _, ?_⟩
    rw [sameWorld, ← isTimed.started]
  · have timed : others.world.Timed := sameWorld ▸ isTimed.timed
    have onCourse (errand : Errand) (isErrand : instruction.errand? = some errand) :
        others.world.IsOnCourse errand.job.candidate := by
      rw [sameWorld]
      refine sound.isOnCourse ?_
      rw [programs, errandsIn_cons, errandsOf_cons_of_some isErrand, Multiset.cons_add]
      exact Multiset.mem_cons_self _ _
    rw [Books, ← sameWorld]
    refine ⟨_, books_perform timed onCourse rest, ?_⟩
    rw [world, isMiddle]

/-- Every move keeps the books. -/
theorem books_move {service after : Service} {move : Move} (sound : service.Sound)
    (isTimed : service.IsTimed) (moved : service.move? move = some after) :
    service.Books after := by
  have tends := (tends_move isTimed moved).2
  cases move with
  | command command =>
      obtain rfl := eq_carryOut moved
      exact books_carryOut isTimed command
  | step index => exact books_stepAt sound isTimed moved
  | rouse index position =>
      have sameWorld := (isTimed_rouseTo isTimed moved).2
      exact tends.books (by rw [sameWorld]) (by rw [sameWorld])
  | wait instant =>
      obtain rfl := eq_wait moved
      exact tends.books rfl rfl
  | reorder roster =>
      obtain ⟨_, rfl⟩ := eq_reorder moved
      exact tends.books rfl rfl

/-! ## The main result -/

/-- What holds of the books between the moves of a run. -/
structure IsBooked (service : Service) : Prop where
  sound : service.Sound
  isTimed : service.IsTimed
  booked : service.world.Booked

theorem IsInitial.isBooked {service : Service} (initial : service.IsInitial) :
    service.IsBooked where
  sound := initial.sound
  isTimed := initial.isTimed
  booked := by
    obtain ⟨registry, fresh, rfl⟩ := initial
    intro entry present
    have noEntry : (Timeline.start registry : Service).world.agenda.entries = [] := fresh.entries
    rw [noEntry] at present
    cases present

theorem IsBooked.move {service after : Service} {move : Move} (isBooked : service.IsBooked)
    (moved : service.move? move = some after) : after.IsBooked where
  sound := isBooked.sound.move moved
  isTimed := (tends_move isBooked.isTimed moved).1
  booked := by
    obtain ⟨registry, books, sameWorld⟩ := books_move isBooked.sound isBooked.isTimed moved
    rw [sameWorld]
    exact books.booked isBooked.isTimed.timed isBooked.booked

theorem IsReachable.isBooked {service : Service} (reachable : service.IsReachable) :
    service.IsBooked :=
  reachable.preserves (fun initial => initial.isBooked) fun isBooked moved => isBooked.move moved

/-- A waiting task belongs to a candidate: it bears the candidate's name and generation, waits
for its next resend, and the candidate takes part in the schedule of an active sequence. -/
structure Belongs (service : Service) (entry : Schedule.Entry Alarm) (candidate : Candidate) :
    Prop where
  found : service.world.candidate? entry.task.candidate = some candidate
  timer : candidate.timer = some entry.ticket
  generation : entry.task.generation = candidate.generation
  due : entry.due = candidate.next
  listed : entry.task.candidate ∈ service.world.roster.activeOf candidate.sequence
  addressable : candidate.addressable = true
  unsuspended : candidate.suspended = false
  further : candidate.exhausted = false
  active : candidate.phase.isTerminal = false

/-- The tasks on the agenda are those that candidates wait for. -/
structure IsQueueExact (service : Service) : Prop where
  /-- No task waits twice. -/
  distinct : service.world.agenda.entries.Nodup
  /-- Waiting tasks and candidates that hold a ticket correspond to each other. -/
  bijective : Set.BijOn (fun entry => entry.task.candidate)
    {entry | entry ∈ service.world.agenda.entries}
    {identity | ((service.world.candidate? identity).bind Candidate.timer).isSome}
  belongs : ∀ entry ∈ service.world.agenda.entries, ∃ candidate, service.Belongs entry candidate
  /-- A task belongs to one candidate only. -/
  owned : ∀ entry ∈ service.world.agenda.entries, ∃! identity,
    (service.world.candidate? identity).bind Candidate.timer = some entry.ticket
  /-- A candidate that is scheduled has one task, which is due with its next resend. -/
  scheduled : ∀ identity candidate, service.world.candidate? identity = some candidate →
    candidate.status.phase = .scheduled →
    (service.world.agenda.entries.filter fun entry => entry.task.candidate = identity).map
      Schedule.Entry.due = [candidate.status.next]
  /-- What was purged, stopped, shut down, suspended or exhausted leaves no task behind. -/
  clear : ∀ identity candidate, service.world.candidate? identity = some candidate →
    candidate.phase.isTerminal = true ∨ candidate.suspended = true ∨ candidate.exhausted = true ∨
      identity ∉ service.world.roster.activeOf candidate.sequence →
    ∀ entry ∈ service.world.agenda.entries, entry.task.candidate ≠ identity

theorem belongs_of_awaits {service : Service} (sound : service.Sound)
    {entry : Schedule.Entry Alarm} {candidate : Candidate}
    (found : service.world.candidate? entry.task.candidate = some candidate)
    (awaits : candidate.Awaits entry) : service.Belongs entry candidate := by
  have wants := awaits.wants
  simp only [Candidate.wantsTimer, Bool.and_eq_true, Bool.not_eq_true'] at wants
  obtain ⟨⟨addressable, unsuspended⟩, further⟩ := wants
  obtain ⟨present, sameSide⟩ :=
    sound.listed.present _ candidate.untimed (candidate_share found) awaits.active
  have onActive : service.world.roster.isSuspended candidate.sequence = false :=
    sameSide.symm.trans unsuspended
  exact {
    found
    timer := awaits.timer
    generation := awaits.generation
    due := awaits.due
    listed := Roster.mem_activeOf_of_mem_listOf onActive present
    addressable
    unsuspended
    further
    active := by rw [Candidate.isTerminal_phase, awaits.active]; rfl }

/-- A candidate in the scheduled phase holds a ticket. -/
theorem exists_timer_of_scheduled {candidate : Candidate}
    (scheduled : candidate.phase = .scheduled) : ∃ ticket, candidate.timer = some ticket := by
  refine Option.isSome_iff_exists.mp ?_
  by_contra timerless
  unfold Candidate.phase at scheduled
  rw [if_neg timerless] at scheduled
  repeat' split at scheduled
  all_goals cases scheduled

theorem IsBooked.exists_belongs {service : Service} (isBooked : service.IsBooked)
    {entry : Schedule.Entry Alarm} (present : entry ∈ service.world.agenda.entries) :
    ∃ candidate, service.Belongs entry candidate := by
  obtain ⟨candidate, found, awaits⟩ := isBooked.booked entry present
  exact ⟨candidate, belongs_of_awaits isBooked.sound found awaits⟩

/-- A candidate holds one ticket, and a ticket is on one task. -/
theorem IsBooked.eq_of_candidate {service : Service} (isBooked : service.IsBooked)
    {entry other : Schedule.Entry Alarm} (present : entry ∈ service.world.agenda.entries)
    (otherPresent : other ∈ service.world.agenda.entries)
    (same : entry.task.candidate = other.task.candidate) : entry = other := by
  obtain ⟨candidate, own⟩ := isBooked.exists_belongs present
  obtain ⟨holder, otherOwn⟩ := isBooked.exists_belongs otherPresent
  have found := otherOwn.found
  rw [← same] at found
  obtain rfl := Option.some.inj (own.found.symm.trans found)
  exact isBooked.isTimed.timed.agenda.eq_of_ticket present otherPresent
    (Option.some.inj (own.timer.symm.trans otherOwn.timer))

theorem IsBooked.nodup_entries {service : Service} (isBooked : service.IsBooked) :
    service.world.agenda.entries.Nodup :=
  List.Nodup.of_map _ isBooked.isTimed.timed.agenda.distinct

/-- The task that belongs to a candidate is its only one. -/
theorem IsBooked.filter_eq_singleton {service : Service} (isBooked : service.IsBooked)
    {entry : Schedule.Entry Alarm} (waits : entry ∈ service.world.agenda.entries) :
    (service.world.agenda.entries.filter fun other =>
      other.task.candidate = entry.task.candidate) = [entry] := by
  refine List.perm_singleton.mp ((List.perm_ext_iff_of_nodup (isBooked.nodup_entries.filter _)
    (List.nodup_singleton _)).mpr fun other => ?_)
  rw [List.mem_filter, List.mem_singleton, decide_eq_true_iff]
  constructor
  · exact fun ⟨present, isOwn⟩ => isBooked.eq_of_candidate present waits isOwn
  · rintro rfl
    exact ⟨waits, rfl⟩

/-- In every reachable service the waiting tasks and the candidates that hold a ticket
correspond to each other one to one; each task bears the instant and the generation of its
candidate, which takes part in the schedule of an active sequence. -/
theorem queue_exact {service : Service} (reachable : service.IsReachable) :
    service.IsQueueExact := by
  have isBooked := reachable.isBooked
  have timed := isBooked.isTimed.timed
  constructor
  case distinct => exact isBooked.nodup_entries
  case bijective =>
    refine ⟨?_, ?_, ?_⟩
    · intro entry present
      obtain ⟨candidate, own⟩ := isBooked.exists_belongs present
      simp [own.found, own.timer]
    · exact fun entry present other otherPresent same =>
        isBooked.eq_of_candidate present otherPresent same
    · intro identity held
      obtain ⟨ticket, holds⟩ := Option.isSome_iff_exists.mp held
      obtain ⟨candidate, found, timer⟩ := Option.bind_eq_some_iff.mp holds
      obtain ⟨due, waits⟩ := timed.armed identity candidate ticket found timer
      exact ⟨_, waits, rfl⟩
  case belongs => exact fun entry present => isBooked.exists_belongs present
  case owned =>
    intro entry present
    obtain ⟨candidate, own⟩ := isBooked.exists_belongs present
    refine ⟨entry.task.candidate, by simp [own.found, own.timer], fun other holds => ?_⟩
    obtain ⟨holder, found, timer⟩ := Option.bind_eq_some_iff.mp holds
    obtain ⟨due, waits⟩ := timed.armed other holder entry.ticket found timer
    rw [← timed.agenda.eq_of_ticket waits present rfl]
  case scheduled =>
    intro identity candidate found scheduled
    obtain ⟨ticket, timer⟩ := exists_timer_of_scheduled scheduled
    obtain ⟨due, waits⟩ := timed.armed identity candidate ticket found timer
    obtain ⟨holder, own⟩ := isBooked.exists_belongs waits
    obtain rfl := Option.some.inj (found.symm.trans own.found)
    rw [isBooked.filter_eq_singleton waits, List.map_singleton]
    exact congrArg ([·]) own.due
  case clear =>
    rintro identity candidate found still entry present rfl
    obtain ⟨holder, own⟩ := isBooked.exists_belongs present
    obtain rfl := Option.some.inj (found.symm.trans own.found)
    rcases still with ended | suspended | exhausted | unlisted
    · exact Bool.false_ne_true (own.active.symm.trans ended)
    · exact Bool.false_ne_true (own.unsuspended.symm.trans suspended)
    · exact Bool.false_ne_true (own.further.symm.trans exhausted)
    · exact unlisted own.listed

/-- A queue with three messages after a suspension and a resumption: the first of them has been
resent since. -/
theorem queue_exact_of_resumed :
    ∃ last, Run (Sample.service .byQueue)
        [.command (.add (Sample.message 1 none)), .command (.add (Sample.message 2 none)),
          .command (.suspend Sample.sequence), .command (.add (Sample.message 3 none)),
          .command (.resume Sample.sequence), .command (.request none (.runDue 0)), .step 0,
          .step 0] last ∧
      last.world.agenda.entries.map (fun entry => (entry.task.candidate, entry.due)) =
        [(1, 0), (2, 0), (0, 6000000000)] ∧
      last.IsQueueExact := by
  have seen : (follow
      [.command (.add (Sample.message 1 none)), .command (.add (Sample.message 2 none)),
        .command (.suspend Sample.sequence), .command (.add (Sample.message 3 none)),
        .command (.resume Sample.sequence), .command (.request none (.runDue 0)), .step 0, .step 0]
      (Sample.service .byQueue)).map (fun last => last.world.agenda.entries.map fun entry =>
        (entry.task.candidate, entry.due)) =
      some [(1, 0), (2, 0), (0, 6000000000)] := by decide +kernel
  obtain ⟨last, followed, waiting⟩ := Option.map_eq_some_iff.mp seen
  have run := Run.of_follow followed
  exact ⟨last, run, waiting,
    queue_exact ⟨_, _, Sample.isInitial_service .byQueue, run⟩⟩

end Service

end Redelivery
