import Redelivery.Proofs.Upkeep

/-!
# Tending to candidates

Every function of the registry tends to all candidates.  Where it takes a
candidate's timer away, the candidate is pending, suspended, ended or exhausted
afterwards, or has another timer, unless the scheduler refuses it.
-/

namespace Redelivery

namespace Candidate

theorem IsSettled.completed {candidate : Candidate} (settled : candidate.IsSettled) (now : Nat) :
    (candidate.completed now).IsSettled := by
  rcases candidate.completed_eq now with ⟨_, _, _, _, _, completed⟩
  rw [completed]
  exact ⟨settled.kept, settled.quiet⟩

theorem IsSettled.disarm {candidate : Candidate} (settled : candidate.IsSettled) :
    candidate.disarm.IsSettled :=
  ⟨settled.kept, fun _ => rfl⟩

/-- A candidate that ends or is suspended has no timer any more. -/
theorem IsSettled.timer_suspend {candidate : Candidate} (settled : candidate.IsSettled) :
    candidate.suspend.timer = none := by
  cases ended : candidate.ending with
  | none => simp [Candidate.suspend, Candidate.disarm, ended]
  | some ending =>
      have timerless := settled.quiet (by simp [ended])
      simp [Candidate.suspend, ended, timerless]

theorem IsSettled.suspend {candidate : Candidate} (settled : candidate.IsSettled) :
    candidate.suspend.IsSettled := by
  refine ⟨?_, fun _ => settled.timer_suspend⟩
  have kept := settled.kept
  cases ended : candidate.ending with
  | none => simpa [Candidate.suspend, Candidate.disarm, ended] using kept
  | some ending => simp [Candidate.suspend, ended]

theorem not_neglected_suspend (candidate : Candidate) : ¬ candidate.suspend.IsNeglected := by
  rintro ⟨wants, active, _, _⟩
  cases ended : candidate.ending with
  | none => simp [suspend, wantsTimer, disarm, ended] at wants
  | some ending => simp [suspend, ended] at active

/-- A settled candidate that takes part in the schedule and has nothing pending is free. -/
theorem IsSettled.isFree {candidate : Candidate} (settled : candidate.IsSettled)
    (wants : candidate.wantsTimer = true) (active : candidate.ending = none)
    (idle : candidate.pending = false) : candidate.isFree = true := by
  simp only [wantsTimer, Bool.and_eq_true, Bool.not_eq_true'] at wants
  exact isFree_eq_true_iff.mpr
    ⟨idle, wants.1.2, active, wants.2, fun released => settled.kept released active, wants.1.1⟩

/-- A settled candidate that takes part in the schedule and may not send has nothing
pending. -/
theorem IsSettled.idle {candidate : Candidate} (settled : candidate.IsSettled)
    (wants : candidate.wantsTimer = true) (active : candidate.ending = none)
    (may : candidate.maySend = false) : candidate.pending = false := by
  by_contra pending
  simp only [wantsTimer, Bool.and_eq_true, Bool.not_eq_true'] at wants
  have maySend : candidate.maySend = true := maySend_eq_true_iff.mpr
    ⟨Bool.eq_true_of_not_eq_false pending, wants.1.2, active, wants.2,
      fun released => settled.kept released active⟩
  exact Bool.false_ne_true (may.symm.trans maySend)

/-- A settled candidate that cannot resend takes no part in the schedule, suspended or
not. -/
theorem IsSettled.not_neglected_unsuspend {candidate : Candidate} (settled : candidate.IsSettled)
    (still : (candidate.isInert || !candidate.addressable) = true) :
    ¬ candidate.unsuspend.IsNeglected := by
  rintro ⟨wants, active, _, _⟩
  have isActive : candidate.ending = none := active
  simp only [wantsTimer, unsuspend, Bool.and_eq_true, Bool.not_eq_true'] at wants
  have released : candidate.message = none := by
    simpa [isInert, isActive, wants.1.1, wants.2] using still
  exact settled.kept released isActive

end Candidate

namespace Registry

/-! ## Arming -/

/-- Accepting an alarm for a candidate that has not ended gives it its timer. -/
theorem touches_accept {registry accepted : Registry} {identity due : Nat} {ticket : Option Nat}
    {candidate : Candidate} (found : registry.candidate? identity = some candidate)
    (active : candidate.ending = none)
    (accepts : registry.acceptAlarm due ⟨identity, candidate.generation⟩ =
      .ok (ticket, accepted)) :
    registry.Touches identity (accepted.modify identity (Candidate.withTimer ticket)) := by
  rcases acceptAlarm_eq_ok accepts with ⟨_, rfl, rfl⟩ | ⟨number, agenda, scheduled, rfl, rfl⟩
  · exact touches_timerless (.refl _) (fun _ _ present _ => present) (fun _ _ => rfl)
      fun _ settled => ⟨settled.kept, fun _ => rfl⟩
  · rcases Schedule.Agenda.schedule_eq_ok scheduled with ⟨open_, rfl, isPlaced⟩
    have mem {entry : Schedule.Entry Alarm} : entry ∈ agenda.entries ↔
        entry = ⟨due, registry.agenda.nextTicket, ⟨identity, candidate.generation⟩⟩ ∨
          entry ∈ registry.agenda.entries := by
      rw [isPlaced]
      exact Schedule.Agenda.mem_place_iff
    have others : ∀ other, other ≠ identity →
        (modify { registry with
          agenda
          starting := registry.starting ++
            if registry.driving = .byQueue then [] else [[.ring registry.agenda.nextTicket]] }
          identity (Candidate.withTimer (some registry.agenda.nextTicket))).candidate? other =
          registry.candidate? other :=
      fun _ isOther => candidate?_modify_of_ne isOther _ _
    exact {
      others
      driving := rfl
      closed := fun closed => by rw [open_] at closed; cases closed
      starting := List.subset_append_left _ _
      events := List.suffix_refl _
      honest := by
        intro event present
        cases (mem_newsUntil_iff (List.nil_append _).symm).mp present
      rung := by
        intro hosted driving entry present
        rcases mem.mp present with rfl | old
        · refine .inr (List.mem_append_right _ ?_)
          rw [driving, if_neg Driving.noConfusion]
          exact List.mem_singleton_self _
        · exact .inl old
      timed := by
        intro timed
        refine timed.change (timed.agenda.schedule scheduled) others
          (fun _ present _ => mem.mpr (.inr present)) ?_
        intro armed isArmed
        rw [candidate?_modify_self] at isArmed
        rcases Option.map_eq_some_iff.mp isArmed with ⟨former, was, rfl⟩
        obtain rfl : candidate = former := Option.some.inj (found.symm.trans was)
        refine ⟨⟨(timed.settled identity candidate found).kept, fun ended => ?_⟩, ?_⟩
        · exact absurd active ended
        · intro ticket isTicket
          cases isTicket
          exact ⟨due, mem.mpr (.inl rfl)⟩ }

theorem touches_disarm (registry : Registry) (identity : Nat) :
    registry.Touches identity (registry.disarm identity) :=
  registry.touches_dropTimer identity Candidate.disarm (fun _ _ => rfl)
    fun _ settled => settled.disarm

theorem tellsOf_unscheduled (candidate : Candidate) (refusal : Schedule.Refusal)
    (spans : List Log.Span) :
    Log.Event.TellsOf
      { level := .warn
        target := Log.candidateTarget
        message := "Failed to schedule retransmission"
        fields := naming candidate ++ [.shown "error" refusal.message]
        spans } candidate :=
  ⟨by simp [Log.Event.isUnscheduled], List.prefix_append _ _⟩

/-- Arming the timer of a candidate that has not ended gives it a timer, or reports that
it has none; only a registry that is driven by hand does neither. -/
theorem arm_spec {registry : Registry} {identity : Nat} {candidate : Candidate}
    (found : registry.candidate? identity = some candidate) (active : candidate.ending = none)
    (due : Nat) :
    registry.Touches identity (registry.arm identity due) ∧
      (registry.driving ≠ .byHand → ∀ armed,
        (registry.arm identity due).candidate? identity = some armed → armed.timer = none →
        ∃ event ∈ registry.newsUntil (registry.arm identity due), event.TellsOf armed) := by
  have disarmedFound := candidate?_disarm_self found
  have disarms := registry.touches_disarm identity
  simp only [arm, disarmedFound]
  cases accepts : (registry.disarm identity).acceptAlarm due
      ⟨identity, candidate.disarm.generation⟩ with
  | error refusal =>
      simp only
      have reports : (registry.disarm identity).Touches identity
          ((registry.disarm identity).reportUnscheduled candidate.disarm refusal) := by
        refine touches_report identity _ _ fun _ => ?_
        rcases acceptAlarm_eq_error accepts with closed | unhosted
        · exact .inl closed
        · exact .inr (.inl unhosted)
      refine ⟨disarms.trans reports, fun _ armed isArmed _ => ?_⟩
      obtain rfl := Option.some.inj (disarmedFound.symm.trans isArmed)
      obtain ⟨event, told, tells⟩ := tellsOf_report (registry.disarm identity)
        (tellsOf_unscheduled candidate.disarm refusal [])
      exact ⟨event, (mem_newsUntil_trans disarms.events reports.events).mpr (.inr told), tells⟩
  | ok accepted =>
      obtain ⟨ticket, accepted⟩ := accepted
      simp only
      have accept := touches_accept disarmedFound active accepts
      refine ⟨disarms.trans accept, fun driven armed isArmed timerless => ?_⟩
      rcases acceptAlarm_eq_ok accepts with ⟨byHand, _⟩ | ⟨number, _, _, rfl, rfl⟩
      · exact absurd (disarms.driving.symm.trans byHand) driven
      · rw [candidate?_modify_self] at isArmed
        rcases Option.map_eq_some_iff.mp isArmed with ⟨former, _, rfl⟩
        cases timerless

/-- Whatever was done with one candidate before, arming its timer tends to it. -/
theorem tends_arm {before registry : Registry} {identity : Nat} {candidate : Candidate}
    (touches : before.Touches identity registry)
    (found : registry.candidate? identity = some candidate) (active : candidate.ending = none)
    (due : Nat) : before.Tends (registry.arm identity due) := by
  rcases arm_spec found active due with ⟨arms, told⟩
  refine (touches.trans arms).tends fun driven armed isArmed neglected => .inr ?_
  obtain ⟨event, late, tells⟩ :=
    told (touches.driving ▸ driven) armed isArmed neglected.timerless
  exact ⟨event, (mem_newsUntil_trans touches.events arms.events).mpr (.inr late), tells⟩

/-- Whatever was done with one candidate before, a report that its schedule overflows tends
to it. -/
theorem tends_of_reported {before registry : Registry} {identity : Nat} {candidate : Candidate}
    {event : Log.Event} (touches : before.Touches identity registry)
    (found : registry.candidate? identity = some candidate) (tells : event.TellsOf candidate)
    (overflow : event.isOverflow = true) : before.Tends (registry.report event) := by
  have reports := touches_report identity registry event fun _ => .inr (.inr overflow)
  refine (touches.trans reports).tends fun _ reported isReported _ => .inr ?_
  obtain rfl := Option.some.inj (found.symm.trans isReported)
  rcases tellsOf_report registry tells with ⟨told, late, tells⟩
  exact ⟨told, (mem_newsUntil_trans touches.events reports.events).mpr (.inr late), tells⟩

/-! ## Handing over resends -/

theorem touches_handedOver (registry : Registry) (identity : Nat) :
    registry.Touches identity (registry.modify identity Candidate.handedOver) :=
  registry.touches_modify identity Candidate.handedOver (fun _ => rfl) (fun _ => rfl)
    fun _ settled => ⟨settled.kept, settled.quiet⟩

/-- A candidate that is pending is not neglected. -/
theorem not_neglected_handedOver {registry : Registry} {identity : Nat} {candidate : Candidate}
    (found : (registry.modify identity Candidate.handedOver).candidate? identity =
      some candidate) : ¬ candidate.IsNeglected := by
  rw [candidate?_modify_self] at found
  obtain ⟨former, _, rfl⟩ := Option.map_eq_some_iff.mp found
  intro neglected
  cases neglected.idle

theorem tends_force (registry : Registry) (identity : Nat) (upTo : Option Nat) :
    registry.Tends (registry.force identity upTo).1 := by
  cases found : registry.candidate? identity with
  | none =>
      simp only [force, found]
      exact .refl registry
  | some candidate =>
      simp only [force, found]
      split
      · next allowed =>
          have free : candidate.isFree = true := (Bool.and_eq_true _ _ ▸ allowed).1
          rcases handOver_of_isFree (candidate?_disarm_self found) free with ⟨_, _, result⟩
          rw [result]
          apply ((registry.touches_disarm identity).trans (touches_handedOver _ _)).tends
          exact fun _ handed isHanded neglected =>
            absurd neglected (not_neglected_handedOver isHanded)
      · exact .refl registry

/-- An agenda from which at most one task was taken. -/
structure Takes (registry : Registry) (entry : Schedule.Entry Alarm)
    (agenda : Schedule.Agenda Alarm) : Prop extends
    Schedule.Agenda.Shrinks registry.agenda agenda where
  left : ∀ other ∈ registry.agenda.entries, other ≠ entry → other ∈ agenda.entries

/-- The tasks of other candidates are left on the agenda. -/
theorem Takes.others {registry : Registry} {entry : Schedule.Entry Alarm}
    {agenda : Schedule.Agenda Alarm} (takes : registry.Takes entry agenda) :
    registry.Timed → ∀ other ∈ registry.agenda.entries,
      other.task.candidate ≠ entry.task.candidate → other ∈ agenda.entries :=
  fun _ other present isOther => takes.left other present fun same => isOther (same ▸ rfl)

/-- Taking a task off that no candidate waits for. -/
theorem Takes.touches {registry : Registry} {entry : Schedule.Entry Alarm}
    {agenda : Schedule.Agenda Alarm} (takes : registry.Takes entry agenda)
    (superseded : ∀ candidate, registry.candidate? entry.task.candidate = some candidate →
      entry.task.generation ≠ candidate.generation) :
    registry.Touches entry.task.candidate { registry with agenda } := by
  apply touches_take takes.toShrinks takes.others (fun _ _ => rfl)
  intro timed candidate found
  refine ⟨timed.settled _ candidate found, fun ticket isTicket => ?_⟩
  rcases timed.armed _ candidate ticket found isTicket with ⟨due, waits⟩
  exact ⟨due, takes.left _ waits fun same => superseded candidate found (same ▸ rfl)⟩

/-- Taking off the task of a candidate's timer, and the timer with it. -/
theorem Takes.touches_withTimer {registry : Registry} {entry : Schedule.Entry Alarm}
    {agenda : Schedule.Agenda Alarm} (takes : registry.Takes entry agenda) :
    registry.Touches entry.task.candidate
      ({ registry with agenda }.modify entry.task.candidate (Candidate.withTimer none)) :=
  touches_timerless takes.toShrinks takes.others (fun _ _ => rfl)
    fun _ settled => ⟨settled.kept, fun _ => rfl⟩

/-- A timer that fires, its task having been taken off the agenda, tends to all
candidates: the candidate whose timer it was is pending then, or takes no part in the
schedule. -/
theorem tends_fireTimer {registry : Registry} (timed : registry.Timed)
    {entry : Schedule.Entry Alarm} {agenda : Schedule.Agenda Alarm}
    (takes : registry.Takes entry agenda) :
    registry.Tends ({ registry with agenda }.fireTimer entry.task).1 := by
  cases found : registry.candidate? entry.task.candidate with
  | none =>
      have takenFound : { registry with agenda }.candidate? entry.task.candidate = none := found
      simp only [fireTimer, takenFound]
      refine (takes.touches ?_).toAdvances.tends fun _ => rfl
      intro candidate isCandidate
      cases found.symm.trans isCandidate
  | some candidate =>
      have takenFound : { registry with agenda }.candidate? entry.task.candidate =
          some candidate := found
      simp only [fireTimer, takenFound]
      generalize reports : Registry.report { registry with agenda } _ = reported
      have reportedFound : reported.candidate? entry.task.candidate = some candidate := by
        rw [← reports]
        exact found
      split
      · next superseded =>
          have touches := takes.touches fun other isOther => by
            rwa [Option.some.inj (isOther.symm.trans found)]
          rw [← reports]
          refine (touches.trans (touches_report_of_calm _ _
            (by simp [Log.Event.isUnscheduled]))).tends ?_
          exact fun _ fired isFired neglected => .inl ⟨fired, isFired, neglected, rfl⟩
      · have uses : registry.Touches entry.task.candidate
            (reported.modify entry.task.candidate (Candidate.withTimer none)) := by
          rw [← reports]
          exact takes.touches_withTimer.trans
            (touches_report_of_calm _ _ (by simp [Log.Event.isUnscheduled]))
        have usedFound := candidate?_modify reportedFound (Candidate.withTimer none)
        split
        · next free =>
            rcases handOver_of_isFree usedFound free with ⟨_, _, result⟩
            apply Eq.mpr (congrArg (fun handed => registry.Tends handed.1) result)
            exact (uses.trans (touches_handedOver _ _)).tends fun _ handed isHanded neglected =>
              absurd neglected (not_neglected_handedOver isHanded)
        · next busy =>
            refine uses.tends fun _ used isUsed neglected => ?_
            obtain rfl := Option.some.inj (usedFound.symm.trans isUsed)
            have settled := timed.settled _ candidate found
            exact absurd (settled.isFree neglected.wants neglected.active neglected.idle) busy

/-! ## The course of a resend -/

theorem tends_beginSend (registry : Registry) (now : Nat) (job : Job) :
    registry.Tends (registry.beginSend now job).1 := by
  obtain ⟨event, events, isResend⟩ : ∃ event : Log.Event,
      (registry.beginSend now job).1.journal.events = [event] ++ registry.journal.events ∧
        event.target = Log.resendTarget :=
    ⟨_, registry.events_report _, rfl⟩
  have other : event.target ≠ Log.candidateTarget := by
    rw [isResend]
    simp [Log.resendTarget, Log.candidateTarget]
  exact (advances_of_calm events rfl rfl rfl (fun _ present => present)
    (Log.Event.isUnscheduled_of_target other)).tends fun _ => rfl

/-- A completed resend is followed by another timer, unless the schedule ends, stands
still or overflows. -/
theorem tends_completeSend (registry : Registry) (now identity : Nat) :
    registry.Tends (registry.completeSend now identity) := by
  cases found : registry.candidate? identity with
  | none =>
      simp only [completeSend, found]
      exact .refl registry
  | some candidate =>
      have updates : registry.Touches identity
          (registry.modify identity fun _ => candidate.completed now) := by
        rw [modify_const found (Candidate.completed now)]
        refine registry.touches_modify identity (Candidate.completed now) ?_ ?_
          fun _ settled => settled.completed now
        · intro former
          obtain ⟨_, _, _, _, _, completed⟩ := former.completed_eq now
          rw [completed]
        · intro former
          rcases former.completed_eq now with ⟨_, _, _, _, _, completed⟩
          rw [completed]
      obtain ⟨after, sequel, outcome, completes⟩ := candidate.exists_completes now
      rw [show candidate.completed now = after from congrArg Prod.fst outcome] at updates
      have updatedFound := candidate?_modify found fun _ => after
      have disarms := updates.trans (touches_disarm _ identity)
      simp only [completeSend, found, outcome]
      cases completes with
      | ended ended =>
          refine updates.tends fun _ updated isUpdated neglected => ?_
          obtain rfl := Option.some.inj (updatedFound.symm.trans isUpdated)
          exact absurd neglected.active ended
      | held _ _ suspended =>
          refine updates.tends fun _ updated isUpdated neglected => ?_
          obtain rfl := Option.some.inj (updatedFound.symm.trans isUpdated)
          have wants := neglected.wants
          simp [Candidate.wantsTimer, Candidate.counted, suspended] at wants
      | exhausted =>
          refine (disarms.trans (touches_report_of_calm _ _
            (by simp [Log.Event.isUnscheduled]))).tends fun _ updated isUpdated neglected => ?_
          obtain rfl := Option.some.inj ((candidate?_disarm_self updatedFound).symm.trans isUpdated)
          have wants := neglected.wants
          simp [Candidate.wantsTimer, Candidate.disarm] at wants
      | next active _ _ _ => exact tends_arm updates updatedFound active _
      | overflow =>
          exact tends_of_reported disarms (candidate?_disarm_self updatedFound)
            (tellsOf_unscheduled (candidate.counted now).disarm .outOfRange [])
            (by simp [Log.Event.isOverflow])

theorem tends_concludeSend (registry : Registry) (now : Nat) (job : Job)
    (failure : Option TransportFailure) :
    registry.Tends (registry.concludeSend now job failure) := by
  cases failure with
  | none => exact registry.tends_completeSend now job.candidate
  | some failure =>
      refine Tends.trans (tends_report ?_) (tends_completeSend _ now job.candidate)
      cases failure.isTransient <;> simp [Log.Event.isUnscheduled]

/-- A candidate whose resend does not go out is suspended or takes no part in the
schedule any more. -/
theorem tends_abandonSend {registry : Registry} (timed : registry.Timed) {job : Job}
    (may : registry.maySend job = false) : registry.Tends (registry.abandonSend job) := by
  have abandons := registry.touches_modify job.candidate (Candidate.abandon · job.requestAck)
    (fun _ => rfl) (fun _ => rfl) fun _ settled => ⟨settled.kept, settled.quiet⟩
  refine abandons.tends fun _ skipped isSkipped neglected => .inl ?_
  obtain ⟨candidate, found, rfl⟩ := Option.map_eq_some_iff.mp
    ((candidate?_modify_self registry _ _).symm.trans isSkipped)
  simp only [maySend, found, Option.any_some] at may
  have idle := (timed.settled _ candidate found).idle neglected.wants neglected.active may
  exact ⟨candidate, found, ⟨neglected.wants, neglected.active, idle, neglected.timerless⟩, rfl⟩

/-! ## Operations -/

/-- A candidate that has ended is not neglected. -/
theorem tends_finish (registry : Registry) (ending : Ending) (identity : Nat) :
    registry.Tends
      ((registry.dropTimer identity).modify identity (Candidate.finish · ending)) := by
  have ends := registry.touches_dropTimer identity (Candidate.finish · ending)
    (fun _ _ => rfl) fun candidate _ => ⟨fun _ => ?_, fun _ => rfl⟩
  · refine ends.tends fun _ finished isFinished neglected => ?_
    obtain ⟨candidate, _, rfl⟩ := Option.map_eq_some_iff.mp
      ((candidate?_modify_self _ _ _).symm.trans isFinished)
    have ended := (Candidate.message_finish candidate ending).2
    rw [neglected.active] at ended
    cases ended
  · exact Option.isSome_iff_ne_none.mp (Candidate.message_finish candidate ending).2

/-- A candidate that is suspended is not neglected. -/
theorem tends_pause (registry : Registry) (identity : Nat) :
    registry.Tends ((registry.dropTimer identity).modify identity Candidate.suspend) := by
  have pauses := registry.touches_dropTimer identity Candidate.suspend
    (fun _ settled => settled.timer_suspend) fun _ settled => settled.suspend
  refine pauses.tends fun _ paused isPaused neglected => ?_
  obtain ⟨candidate, _, rfl⟩ := Option.map_eq_some_iff.mp
    ((candidate?_modify_self _ _ _).symm.trans isPaused)
  exact absurd neglected candidate.not_neglected_suspend

/-- A candidate that leaves suspension gets a timer at once, if it takes part in the
schedule. -/
theorem tends_wake {registry : Registry} (timed : registry.Timed) (now identity : Nat) :
    registry.Tends (registry.wake now identity) := by
  cases found : registry.candidate? identity with
  | none =>
      simp only [wake, found]
      exact .refl registry
  | some candidate =>
      have frees := registry.touches_modify identity Candidate.unsuspend (fun _ => rfl)
        (fun _ => rfl) fun _ settled => ⟨settled.kept, settled.quiet⟩
      have freedFound := candidate?_modify found Candidate.unsuspend
      simp only [wake, found]
      split
      · exact .refl registry
      · split
        · next still =>
            refine frees.tends fun _ freed isFreed neglected => ?_
            obtain rfl := Option.some.inj (freedFound.symm.trans isFreed)
            have settled := timed.settled _ candidate found
            exact absurd neglected (settled.not_neglected_unsuspend still)
        · next goesOn =>
            have isActive : candidate.ending = none := by
              simp only [Candidate.isInert, Bool.or_eq_true, not_or] at goesOn
              simpa using goesOn.1.1.1
            have dues := frees.trans (touches_modify
              (registry.modify identity Candidate.unsuspend) identity
              (fun candidate => { candidate with next := now }) (fun _ => rfl) (fun _ => rfl)
              fun _ settled => ⟨settled.kept, settled.quiet⟩)
            have dueFound := candidate?_modify freedFound fun candidate =>
              { candidate with next := now }
            exact tends_arm dues dueFound isActive now

/-- The registry with one more candidate, which is listed under a sequence. -/
def enlist (registry : Registry) (sequence : SequenceKey) (candidate : Candidate) : Registry :=
  { registry with
    candidates := registry.candidates ++ [candidate]
    roster := registry.roster.add sequence registry.candidates.length }

theorem candidate?_enlist_self (registry : Registry) (sequence : SequenceKey)
    (candidate : Candidate) :
    (registry.enlist sequence candidate).candidate? registry.candidates.length =
      some candidate := by
  simp [enlist, candidate?]

theorem candidate?_enlist_of_ne {registry : Registry} {other : Nat}
    (isOther : other ≠ registry.candidates.length) (sequence : SequenceKey)
    (candidate : Candidate) :
    (registry.enlist sequence candidate).candidate? other = registry.candidate? other := by
  simp only [enlist, candidate?]
  rcases Nat.lt_or_gt_of_ne isOther with before | past
  · exact List.getElem?_append_left before
  · rw [List.getElem?_eq_none_iff.mpr (by simp; omega), List.getElem?_eq_none_iff.mpr (by omega)]

/-- A message that is taken in gets a timer, unless its schedule overflows at once or it
takes no part in the schedule. -/
theorem tends_enroll (registry : Registry) (now : Nat) (message : Message) :
    registry.Tends (registry.enroll now message).1 := by
  let candidate := Candidate.register now registry.routing
    (registry.roster.isSuspended message.sequence) message
  let identity := registry.candidates.length
  let listed : Registry := registry.enlist message.sequence candidate
  have others : ∀ other, other ≠ identity →
      listed.candidate? other = registry.candidate? other :=
    fun _ isOther => candidate?_enlist_of_ne isOther _ _
  have found : listed.candidate? identity = some candidate :=
    registry.candidate?_enlist_self _ _
  have lists : registry.Touches identity listed :=
    { Advances.refl registry with
      others
      timed := by
        intro timed
        refine timed.change timed.agenda others (fun _ present _ => present) ?_
        intro other isOther
        obtain rfl := Option.some.inj (found.symm.trans isOther)
        exact ⟨⟨nofun, fun _ => rfl⟩, nofun⟩ }
  change registry.Tends (if message.policy.initialInterval.isNone then _ else _ :
    Registry × Nat).1
  split
  · exact tends_of_reported lists found
      ⟨by simp [Log.Event.isUnscheduled], List.prefix_refl _⟩ (by simp [Log.Event.isOverflow])
  · split
    · exact tends_arm lists found rfl _
    · next unwanted =>
        refine lists.tends fun _ other isOther neglected => ?_
        obtain rfl := Option.some.inj (found.symm.trans isOther)
        exact absurd neglected.wants unwanted

/-- The parts of operations tend to every candidate. -/
theorem isUpkeep_tends : IsUpkeep Tends where
  refl := .refl
  trans := .trans
  tell {registry journal _} told calm := by
    have advances : registry.Advances { registry with journal } :=
      advances_of_calm told rfl rfl rfl (fun _ present => present) calm
    exact advances.tends fun _ => rfl
  relist _ _ := tends_of_silent rfl rfl rfl rfl rfl
  exchange _ _ := tends_of_silent rfl rfl rfl rfl rfl
  finish := tends_finish
  pause := tends_pause

theorem tends_add (registry : Registry) (now : Nat) (message : Message) :
    registry.Tends (registry.add now message).1 :=
  isUpkeep_tends.add now message fun entered _ => entered.tends_enroll now message

theorem tends_resume {registry : Registry} (timed : registry.Timed) (now : Nat)
    (sequence : SequenceKey) : registry.Tends (registry.resume now sequence) :=
  isUpkeep_tends.resume now sequence (fun tends => tends.timed)
    (fun timed identity => tends_wake timed now identity) timed

end Registry

end Redelivery
