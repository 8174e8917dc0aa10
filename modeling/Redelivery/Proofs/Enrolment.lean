import Redelivery.Proofs.Arming
import Redelivery.Proofs.Queue
import Redelivery.Proofs.Surroundings
import Redelivery.Proofs.Timetable

/-!
# Registering a message

Four things speak against a message, and the first of them that holds is what the caller is told;
nothing but the log changes then.  Any other message is registered: its candidate comes last in its
sequence, and it has a timer exactly if it takes part in the schedule and whatever drives the
registry accepts one.
-/

namespace Redelivery

theorem Roster.count_add (roster : Roster) (sequence : SequenceKey) (identity : Nat) :
    (roster.add sequence identity).count = roster.count + 1 := by
  unfold add
  split
  · rfl
  · rfl

/-! ## What speaks against a message -/

/-- What speaks against a message where some numbers are in use, in the order in which it is looked
at. -/
def Message.objections (message : Message) (inUse : List Nat) : List Rejection :=
  (if message.sequence.isEmpty then [.missingSequence message.number] else []) ++
    ((if message.number = 0 then [.invalidNumber message.sequence message.number] else []) ++
      ((message.policy.defect?.map Rejection.unusablePolicy).toList ++
        if message.number ∈ inUse then [.duplicateNumber message.sequence message.number] else []))

theorem Message.objections_eq_nil_iff {message : Message} {inUse : List Nat} :
    message.objections inUse = [] ↔
      message.sequence.isEmpty = false ∧ message.number ≠ 0 ∧ message.policy.defect? = none ∧
        message.number ∉ inUse := by
  simp [objections]

namespace Registry

theorem mem_numbers_iff {registry : Registry} {sequence : SequenceKey} {number : Nat} :
    number ∈ registry.numbers sequence ↔
      ∃ identity ∈ registry.roster.listOf sequence, registry.numberOf identity = some number := by
  rw [numbers, List.mem_mergeSort, List.mem_filterMap]

/-- A message is found exactly if its number is in use. -/
theorem isSome_find?_iff {registry : Registry} {sequence : SequenceKey} {number : Nat} :
    (registry.find? sequence number).isSome = true ↔ number ∈ registry.numbers sequence := by
  rw [find?, List.find?_isSome, mem_numbers_iff]
  simp

/-- A message is rejected for the first of the objections to it. -/
theorem rejection?_eq_head? (registry : Registry) (message : Message) :
    registry.rejection? message =
      (message.objections (registry.numbers message.sequence)).head? := by
  simp only [rejection?, Message.rejection?, Message.objections, isSome_find?_iff]
  by_cases keyless : message.sequence.isEmpty = true
  · simp [keyless]
  by_cases unnumbered : message.number = 0
  · simp [keyless, unnumbered]
  cases defect : message.policy.defect? with
  | some defect => simp [keyless, unnumbered]
  | none =>
      by_cases taken : message.number ∈ registry.numbers message.sequence
      · simp [keyless, unnumbered, taken]
      · simp [keyless, unnumbered, taken]

/-! ## The new candidate -/

/-- The candidate of a message, before anybody is asked for a timer. -/
def entrant (registry : Registry) (now : Nat) (message : Message) : Candidate :=
  Candidate.register now registry.routing (registry.isSuspended message.sequence) message

/-- Whether a message gets a timer when it is registered: it has an address, its sequence is not
suspended, its limit allows a resend, its first interval does not overflow, and the timer is
accepted. -/
def startsTimer (registry : Registry) (message : Message) : Bool :=
  message.destination.isAddressable && !registry.isSuspended message.sequence &&
    message.policy.shouldRetry 0 && message.policy.initialInterval.isSome &&
    registry.acceptsTimers

/-- The registry with one more candidate, which is listed in its sequence. -/
def listing (registry : Registry) (message : Message) (candidate : Candidate) : Registry :=
  { registry with
    candidates := registry.candidates ++ [candidate]
    roster := registry.roster.add message.sequence registry.candidates.length }

section

variable {registry : Registry} {message : Message} {candidate : Candidate}

theorem candidate?_listing :
    (registry.listing message candidate).candidate? registry.candidates.length = some candidate :=
  List.getElem?_concat_length

theorem modify_listing (change : Candidate → Candidate) :
    (registry.listing message candidate).modify registry.candidates.length change =
      registry.listing message (change candidate) := by
  have changed : (registry.candidates ++ [candidate]).modify registry.candidates.length change =
      registry.candidates ++ [change candidate] := by
    rw [List.modify_eq_set_getElem?]
    simp
  rw [modify, listing, listing, changed]

theorem wantsTimer_entrant (now : Nat) :
    (registry.entrant now message).wantsTimer =
      (message.destination.isAddressable && !registry.isSuspended message.sequence &&
        message.policy.shouldRetry 0) :=
  congrArg (message.destination.isAddressable && !registry.isSuspended message.sequence && ·)
    (Bool.not_not _)

theorem next_entrant (scheduled : message.policy.initialInterval.isSome = true) (now : Nat) :
    (registry.entrant now message).next = now + message.policy.baseInterval := by
  obtain ⟨interval, isInterval⟩ := Option.isSome_iff_exists.mp scheduled
  simp [entrant, Candidate.register, isInterval]

/-- A message that gets a timer is listed with it. -/
theorem enroll_of_starts (starts : registry.startsTimer message = true) (now : Nat) :
    (registry.enroll now message).1 =
      { registry.listing message ((registry.entrant now message).disarm.withTimer
          (some registry.agenda.nextTicket)) with
        agenda := registry.agenda.enter (now + message.policy.baseInterval)
          ⟨registry.candidates.length, 1⟩
        starting := registry.starting ++ registry.bells registry.agenda.nextTicket } := by
  obtain ⟨started, accepts⟩ := Bool.and_eq_true _ _ ▸ starts
  obtain ⟨wants, scheduled⟩ := Bool.and_eq_true _ _ ▸ started
  have wantsTimer := (wantsTimer_entrant now).trans wants
  have notOverflown : ¬ message.policy.initialInterval.isNone = true := by
    simpa [Option.isSome_iff_ne_none] using scheduled
  let entrant := registry.entrant now message
  have stillAccepts : (registry.listing message entrant).acceptsTimers = true := accepts
  have arms := arm_of_accepts candidate?_listing (rfl : entrant.timer = none) stillAccepts
    entrant.next
  let arming (candidate : Candidate) : Candidate :=
    candidate.disarm.withTimer (some registry.agenda.nextTicket)
  have armed : (registry.listing message entrant).modify registry.candidates.length arming =
      registry.listing message (arming entrant) := modify_listing arming
  calc (registry.enroll now message).1
      = (registry.listing message entrant).arm registry.candidates.length entrant.next := by
        simp only [enroll, if_neg notOverflown]
        exact congrArg Prod.fst (if_pos wantsTimer)
    _ = _ := by
        rw [arms, show entrant.next = _ from next_entrant scheduled now]
        exact congrArg (fun listed : Registry =>
          { listed with
            agenda := registry.agenda.enter (now + message.policy.baseInterval)
              ⟨registry.candidates.length, 1⟩
            starting := registry.starting ++ registry.bells registry.agenda.nextTicket }) armed

/-- Any other message is listed without one, and at most a report tells so. -/
theorem enroll_of_not_starts (idle : registry.startsTimer message = false) (now : Nat) :
    ∃ generation events, (registry.enroll now message).1 =
      { registry.listing message { registry.entrant now message with generation } with
        journal := { registry.journal with events } } := by
  let entrant := registry.entrant now message
  cases overflown : message.policy.initialInterval.isNone with
  | true =>
      simp only [enroll, overflown, if_true]
      exact ⟨0, _, rfl⟩
  | false =>
      cases wants : entrant.wantsTimer with
      | false =>
          refine ⟨0, registry.journal.events, ?_⟩
          simp only [enroll, overflown, Bool.false_eq_true, if_false]
          exact congrArg Prod.fst (if_neg (Bool.eq_false_iff.mp wants))
      | true =>
          have refuses : registry.acceptsTimers = false := by
            have scheduled : message.policy.initialInterval.isSome = true := by
              simpa using overflown
            rw [wantsTimer_entrant] at wants
            simpa [startsTimer, wants, scheduled] using idle
          have stillRefuses : (registry.listing message entrant).acceptsTimers = false := refuses
          obtain ⟨events, arms⟩ := arm_of_refuses candidate?_listing (rfl : entrant.timer = none)
            stillRefuses entrant.next
          refine ⟨1, events, ?_⟩
          calc (registry.enroll now message).1
              = (registry.listing message entrant).arm registry.candidates.length entrant.next := by
                simp only [enroll, overflown, Bool.false_eq_true, if_false]
                exact congrArg Prod.fst (if_pos wants)
            _ = _ := by
                rw [arms, modify_listing]
                rfl

end

/-! ## Registering -/

section

variable {registry : Registry} {message : Message}

/-- A message that is objected to changes the log alone. -/
theorem add_of_objection {objection : Rejection}
    (rejected : registry.rejection? message = some objection) (now : Nat) :
    (registry.add now message).2 = .error objection ∧
      ∃ events, (registry.add now message).1 =
        { registry with journal := { registry.journal with events } } := by
  have inside (fields : List Log.Field) :
      (registry.entered "add_unacknowledged" fields).rejection? message = some objection := rejected
  constructor
  · rw [add, snd_traced, inside]
  · rw [add, fst_traced, inside]
    exact ⟨_, rfl⟩

/-- Any other message is registered, under the next identity. -/
theorem snd_add_of_none (accepted : registry.rejection? message = none) (now : Nat) :
    (registry.add now message).2 = .ok registry.candidates.length := by
  have inside (fields : List Log.Field) :
      (registry.entered "add_unacknowledged" fields).rejection? message = none := accepted
  rw [add, snd_traced, inside]
  exact congrArg Except.ok (snd_enroll _ now message)

/-- With a timer: its task joins those that wait. -/
theorem add_of_starts (accepted : registry.rejection? message = none)
    (starts : registry.startsTimer message = true) (now : Nat) :
    ∃ events, (registry.add now message).1 =
      { registry.listing message ((registry.entrant now message).disarm.withTimer
          (some registry.agenda.nextTicket)) with
        agenda := registry.agenda.enter (now + message.policy.baseInterval)
          ⟨registry.candidates.length, 1⟩
        starting := registry.starting ++ registry.bells registry.agenda.nextTicket
        journal := { registry.journal with events } } := by
  let entered := registry.entered "add_unacknowledged"
    [sequenceField message.sequence, .number "number" message.number]
  have inside : entered.rejection? message = none := accepted
  have enrolls := enroll_of_starts (show entered.startsTimer message = true from starts) now
  rw [add, fst_traced, inside]
  refine ⟨((entered.enroll now message).1.journal.leave "add_unacknowledged").events, ?_⟩
  simp only
  rw [enrolls]
  rfl

/-- Without one: nothing joins them. -/
theorem add_of_not_starts (accepted : registry.rejection? message = none)
    (idle : registry.startsTimer message = false) (now : Nat) :
    ∃ generation events, (registry.add now message).1 =
      { registry.listing message { registry.entrant now message with generation } with
        journal := { registry.journal with events } } := by
  let entered := registry.entered "add_unacknowledged"
    [sequenceField message.sequence, .number "number" message.number]
  have inside : entered.rejection? message = none := accepted
  obtain ⟨generation, events, enrolls⟩ :=
    enroll_of_not_starts (show entered.startsTimer message = false from idle) now
  rw [add, fst_traced, inside]
  refine ⟨generation,
    ((entered.enroll now message).1.journal.leave "add_unacknowledged").events, ?_⟩
  simp only
  rw [enrolls]
  rfl

/-- How the candidate of a message enters: what becomes of the agenda, and the activities that
ring. -/
structure Enters (now : Nat) (registry : Registry) (message : Message) (candidate : Candidate)
    (agenda : Schedule.Agenda Alarm) (bells : List Program) : Prop where
  entrant : ∃ timer generation, candidate = { registry.entrant now message with timer, generation }
  timer : candidate.timer.isSome = registry.startsTimer message
  /-- A timer is for the instant one base interval later, and its task is put among those that
  wait. -/
  armed : ∀ ticket, candidate.timer = some ticket →
    candidate.next = now + message.policy.baseInterval ∧
      ticket = registry.agenda.nextTicket ∧
      agenda = registry.agenda.enter candidate.next
        ⟨registry.candidates.length, candidate.generation⟩ ∧
      bells = registry.bells ticket
  unarmed : candidate.timer = none → agenda = registry.agenda ∧ bells = []

theorem exists_enters (accepted : registry.rejection? message = none) (now : Nat) :
    ∃ candidate agenda bells events, registry.Enters now message candidate agenda bells ∧
      (registry.add now message).1 =
        { registry.listing message candidate with
          agenda
          starting := registry.starting ++ bells
          journal := { registry.journal with events } } := by
  cases starts : registry.startsTimer message with
  | true =>
      obtain ⟨events, adds⟩ := add_of_starts accepted starts now
      obtain ⟨started, _⟩ := Bool.and_eq_true _ _ ▸ starts
      have next : (registry.entrant now message).next = now + message.policy.baseInterval :=
        next_entrant (Bool.and_eq_true _ _ ▸ started).2 now
      refine ⟨(registry.entrant now message).disarm.withTimer (some registry.agenda.nextTicket),
        _, _, events, ⟨⟨some registry.agenda.nextTicket, 1, rfl⟩, starts.symm, ?_, nofun⟩, adds⟩
      rintro ticket ⟨⟩
      refine ⟨next, rfl, ?_, rfl⟩
      rw [← next]
      rfl
  | false =>
      obtain ⟨generation, events, adds⟩ := add_of_not_starts accepted starts now
      refine ⟨{ registry.entrant now message with generation }, registry.agenda, [], events,
        ⟨⟨none, generation, rfl⟩, starts.symm, nofun, fun _ => ⟨rfl, rfl⟩⟩, ?_⟩
      rw [adds, List.append_nil]
      rfl

end

end Registry

namespace Service

/-- What the registration of a message changes, and what it leaves alone. -/
structure Registers (service : Service) (message : Message) (candidate : Candidate)
    (after : Service) : Prop where
  candidates : after.world.candidates = service.world.candidates ++ [candidate]
  retries : candidate.retries = 0
  marked : candidate.suspended = service.world.isSuspended message.sequence
  enters : ∃ bells,
    service.world.Enters service.now message candidate after.world.agenda bells ∧
      after.ready = service.ready ++ bells.map (⟨·, false⟩)
  lists : ∀ other, after.world.roster.listOf other =
    if other = message.sequence then
      service.world.roster.listOf other ++ [service.world.candidates.length]
    else service.world.roster.listOf other
  marks : ∀ other, after.world.isSuspended other = service.world.isSuspended other
  count : after.world.countAll = service.world.countAll + 1
  frame : ∃ ready candidates roster agenda events, after =
    { service with
      ready
      world := { service.world with
        candidates, roster, agenda, journal := { service.world.journal with events } } }

variable {service : Service} {message : Message}

/-- A message that nothing speaks against is registered. -/
theorem exists_registers (unstarted : service.world.starting = [])
    (accepted : service.world.rejection? message = none) :
    ∃ candidate, service.Registers message candidate (service.carryOut (.add message)) := by
  obtain ⟨candidate, agenda, bells, events, enters, adds⟩ :=
    Registry.exists_enters accepted service.now
  let entered : Registry :=
    { service.world.listing message candidate with
      agenda, journal := { service.world.journal with events } }
  have sameEntered : { entered with starting := [] } = entered := by
    rw [← show entered.starting = [] from unstarted]
  have after : service.carryOut (.add message) =
      { service with
        ready := service.ready ++ bells.map (⟨·, false⟩)
        world := entered } := by
    rw [carryOut, apply_fst, change, launch_eq, adds, unstarted, ← sameEntered]
    rfl
  obtain ⟨timer, generation, isCandidate⟩ := enters.entrant
  rw [after]
  refine ⟨candidate, rfl, ?_, ?_, ⟨bells, enters, rfl⟩, ?_, ?_, ?_, ⟨_, _, _, _, _, rfl⟩⟩
  · rw [isCandidate]
    rfl
  · rw [isCandidate]
    rfl
  · exact fun other => Roster.listOf_add _ _ _ _
  · exact fun other => Roster.isSuspended_add _ _ _ _
  · exact Roster.count_add _ _ _

/-! ## The main result -/

/-- A message is registered exactly if it has a sequence, its numbering starts at one, its policy
has no defect, and its number is not in use; otherwise the first of these that fails is reported,
and nothing changes but the log. -/
theorem add_exact {first service : Service} {moves : List Move} (initial : first.IsInitial)
    (run : Run first moves service) (message : Message) :
    ((service.world.add service.now message).2.isOk = true ↔
      message.sequence.isEmpty = false ∧ message.number ≠ 0 ∧ message.policy.defect? = none ∧
        message.number ∉ service.world.numbers message.sequence) ∧
      (∀ number, number ∈ service.world.numbers message.sequence ↔
        number ∈ (Book.written moves message.sequence).numbers) ∧
      match message.objections (service.world.numbers message.sequence) with
      | objection :: _ =>
          (service.world.add service.now message).2 = .error objection ∧
            service.OnlyReports (service.carryOut (.add message))
      | [] =>
          (service.world.add service.now message).2 = .ok service.world.candidates.length ∧
            ∃ candidate, service.Registers message candidate (service.carryOut (.add message)) := by
  have reachable : service.IsReachable := ⟨first, moves, initial, run⟩
  have unstarted : service.world.starting = [] := reachable.isBooked.isTimed.started
  have rejection := service.world.rejection?_eq_head? message
  refine ⟨?_, ?_, ?_⟩
  · rw [Registry.isOk_add, rejection, List.head?_eq_none_iff, Message.objections_eq_nil_iff]
  · intro number
    have shows := Registry.shows_of_tracks reachable.sound.listed.sound
      (tracks_world (tracks_run initial run))
    rw [shows.numbers, List.mem_mergeSort]
  · cases objections : message.objections (service.world.numbers message.sequence) with
    | nil =>
        rw [objections] at rejection
        exact ⟨Registry.snd_add_of_none rejection service.now, exists_registers unstarted rejection⟩
    | cons objection others =>
        rw [objections] at rejection
        obtain ⟨refused, reports⟩ := Registry.add_of_objection rejection service.now
        exact ⟨refused, @onlyReports_change _ unstarted (fun registry =>
          (registry.add service.now message).1) reports⟩

end Service

namespace Sample

/-- Two messages are given up, and one of them is acknowledged after all. -/
def partlyPurged : List Move :=
  [.command (.add (message 1 none)), .command (.add (message 2 none)), .command (.stop sequence),
    .command (.purgeAcknowledged sequence fun number => number == 1)]

end Sample

namespace Service

/-- The number that was acknowledged can be used again, and the other one cannot. -/
theorem add_exact_of_partlyPurged :
    ∃ service, Run (Sample.service .byQueue) Sample.partlyPurged service ∧
      (service.world.add service.now (Sample.message 2 none)).2 =
        .error (.duplicateNumber Sample.sequence 2) ∧
      service.OnlyReports (service.carryOut (.add (Sample.message 2 none))) ∧
      (service.world.add service.now (Sample.message 1 none)).2 = .ok 2 ∧
      ∃ candidate, service.Registers (Sample.message 1 none) candidate
          (service.carryOut (.add (Sample.message 1 none))) ∧
        candidate.timer.isSome = true := by
  obtain ⟨service, followed, facts⟩ := Option.map_eq_some_iff.mp
    (by decide +kernel : (follow Sample.partlyPurged (Sample.service .byQueue)).map (fun service =>
      (service.world.candidates.length, service.world.startsTimer (Sample.message 1 none))) =
        some (2, true))
  obtain ⟨two, starts⟩ := Prod.mk.inj facts
  have run := Run.of_follow followed
  have numbers : service.world.numbers Sample.sequence = [2] := by
    have tracks := tracks_world (tracks_run (Sample.isInitial_service .byQueue) run)
    rw [Registry.numbers, Registry.filterMap_numberOf tracks,
      show (Book.written Sample.partlyPurged Sample.sequence).numbers = [2] from rfl]
    exact List.mergeSort_singleton 2
  have again := (add_exact (Sample.isInitial_service .byQueue) run (Sample.message 2 none)).2.2
  have anew := (add_exact (Sample.isInitial_service .byQueue) run (Sample.message 1 none)).2.2
  rw [show service.world.numbers (Sample.message 2 none).sequence = [2] from numbers] at again
  rw [show service.world.numbers (Sample.message 1 none).sequence = [2] from numbers, two] at anew
  obtain ⟨refused, reports⟩ := again
  obtain ⟨accepted, candidate, registers⟩ := anew
  obtain ⟨_, enters, _⟩ := registers.enters
  exact ⟨service, run, refused, reports, accepted, candidate, registers,
    enters.timer.trans starts⟩

end Service

end Redelivery
