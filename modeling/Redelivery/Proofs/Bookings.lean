import Redelivery.Proofs.Scheduling

/-!
# What is booked on the agenda

A timer is written down three times: the candidate holds its ticket, the task on the agenda
bears the generation that the candidate had when it was armed, and the due instant is that of
the candidate's next resend.  No function of the registry lets the three disagree.  Whatever
disarms a timer takes its task off the agenda, and a timer is armed only after the one before
it was disarmed, so that a task that waits is always the only one of its candidate.
-/

namespace Redelivery

namespace Candidate

/-- A task on the agenda is the one that the candidate waits for. -/
structure Awaits (candidate : Candidate) (entry : Schedule.Entry Alarm) : Prop where
  timer : candidate.timer = some entry.ticket
  generation : entry.task.generation = candidate.generation
  due : entry.due = candidate.next
  wants : candidate.wantsTimer = true
  active : candidate.ending = none

/-- A candidate that is neglected after a completed resend was to be armed again, unless its
schedule has overflowed. -/
theorem IsNeglected.sequel {candidate later : Candidate} {now : Nat}
    (neglected : later.IsNeglected)
    (same : later.untimed = (candidate.completed now).untimed) :
    (∃ due, (candidate.complete now).2 = .next due) ∨
      candidate.policy.nextInterval candidate.interval = none := by
  have wants : (candidate.completed now).wantsTimer = true :=
    (congrArg wantsTimer same).symm.trans neglected.wants
  have active : (candidate.completed now).ending = none :=
    (congrArg ending same).symm.trans neglected.active
  obtain ⟨after, sequel, outcome, completes⟩ := candidate.exists_completes now
  rw [completed, outcome] at wants active
  rw [outcome]
  cases completes with
  | ended ended => exact absurd active ended
  | held _ _ suspended => simp [wantsTimer, counted, suspended] at wants
  | exhausted => simp [wantsTimer] at wants
  | next => exact .inl ⟨_, rfl⟩
  | overflow _ _ _ overflow => exact .inr overflow

end Candidate

namespace Registry

/-- Every task on the agenda is awaited by its candidate. -/
def Booked (registry : Registry) : Prop :=
  ∀ entry ∈ registry.agenda.entries, ∃ candidate,
    registry.candidate? entry.task.candidate = some candidate ∧ candidate.Awaits entry

/-- No task on the agenda is for a candidate. -/
def IsClear (registry : Registry) (identity : Nat) : Prop :=
  ∀ entry ∈ registry.agenda.entries, entry.task.candidate ≠ identity

/-! ## Changes of one candidate -/

/-- Neither candidates nor tasks change. -/
theorem Booked.congr {before after : Registry} (booked : before.Booked)
    (sameCandidates : after.candidates = before.candidates)
    (sameEntries : after.agenda.entries = before.agenda.entries) : after.Booked := by
  intro entry present
  rw [sameEntries] at present
  obtain ⟨candidate, found, awaits⟩ := booked entry present
  exact ⟨candidate, (congrArg (·[_]?) sameCandidates).trans found, awaits⟩

/-- A candidate may change as long as it goes on awaiting its task. -/
theorem Booked.modify {registry : Registry} (booked : registry.Booked) {identity : Nat}
    {change : Candidate → Candidate}
    (kept : ∀ candidate entry, registry.candidate? identity = some candidate →
      candidate.Awaits entry → (change candidate).Awaits entry) :
    (registry.modify identity change).Booked := by
  intro entry present
  obtain ⟨candidate, found, awaits⟩ := booked entry present
  by_cases own : entry.task.candidate = identity
  · rw [own] at found ⊢
    exact ⟨_, candidate?_modify found change, kept candidate entry found awaits⟩
  · exact ⟨candidate, (candidate?_modify_of_ne own registry change).trans found, awaits⟩

/-- Without a task on the agenda it may change at will. -/
theorem Booked.modify_of_isClear {registry : Registry} (booked : registry.Booked) {identity : Nat}
    (clear : registry.IsClear identity) (change : Candidate → Candidate) :
    (registry.modify identity change).Booked := by
  intro entry present
  obtain ⟨candidate, found, awaits⟩ := booked entry present
  exact ⟨candidate, (candidate?_modify_of_ne (clear entry present) registry change).trans found,
    awaits⟩

/-- A candidate that awaits nothing has no task on the agenda. -/
theorem Booked.isClear {registry : Registry} (booked : registry.Booked) {identity : Nat}
    (idle : ∀ candidate entry, registry.candidate? identity = some candidate →
      ¬ candidate.Awaits entry) : registry.IsClear identity := by
  rintro entry present rfl
  obtain ⟨candidate, found, awaits⟩ := booked entry present
  exact idle candidate entry found awaits

/-- Dropping the timer of a candidate takes its task off the agenda. -/
theorem Booked.dropTimer {registry : Registry} (booked : registry.Booked) (identity : Nat) :
    (registry.dropTimer identity).Booked ∧ (registry.dropTimer identity).IsClear identity := by
  unfold Registry.dropTimer
  split
  · next timerless =>
      refine ⟨booked, booked.isClear fun candidate entry found awaits => ?_⟩
      rw [found, Option.bind_some, awaits.timer] at timerless
      cases timerless
  · next ticket isArmed =>
      obtain ⟨armed, found, timer⟩ := Option.bind_eq_some_iff.mp isArmed
      constructor
      · intro entry present
        exact booked entry (Schedule.Agenda.mem_cancel_iff.mp present).1
      · rintro entry present rfl
        obtain ⟨stays, otherTicket⟩ := Schedule.Agenda.mem_cancel_iff.mp present
        obtain ⟨candidate, isCandidate, awaits⟩ := booked entry stays
        obtain rfl := Option.some.inj (found.symm.trans isCandidate)
        exact otherTicket (Option.some.inj (awaits.timer.symm.trans timer))

/-- A change that leaves the timer alone may be made before or after the timer is
dropped. -/
theorem dropTimer_modify {registry : Registry} {identity : Nat} {change : Candidate → Candidate}
    (sameTimer : ∀ candidate, registry.candidate? identity = some candidate →
      (change candidate).timer = candidate.timer) :
    (registry.modify identity change).dropTimer identity =
      (registry.dropTimer identity).modify identity change := by
  have same : ((registry.modify identity change).candidate? identity).bind Candidate.timer =
      (registry.candidate? identity).bind Candidate.timer := by
    rw [candidate?_modify_self]
    cases found : registry.candidate? identity with
    | none => rfl
    | some candidate => exact sameTimer candidate found
  rw [Registry.dropTimer, Registry.dropTimer, same]
  split <;> rfl

/-- Whatever happens to a candidate, disarming its timer brings it in order. -/
theorem Booked.disarm_modify {registry : Registry} (booked : registry.Booked) {identity : Nat}
    {change : Candidate → Candidate}
    (sameTimer : ∀ candidate, registry.candidate? identity = some candidate →
      (change candidate).timer = candidate.timer) :
    ((registry.modify identity change).disarm identity).Booked ∧
      ((registry.modify identity change).disarm identity).IsClear identity := by
  obtain ⟨dropped, clear⟩ := booked.dropTimer identity
  rw [disarm, dropTimer_modify sameTimer]
  exact ⟨(dropped.modify_of_isClear clear change).modify_of_isClear clear _, clear⟩

theorem Booked.disarm {registry : Registry} (booked : registry.Booked) (identity : Nat) :
    (registry.disarm identity).Booked ∧ (registry.disarm identity).IsClear identity := by
  obtain ⟨dropped, clear⟩ := booked.dropTimer identity
  exact ⟨dropped.modify_of_isClear clear _, clear⟩

/-! ## Arming -/

/-- A timer that is armed for the next resend of a candidate is booked for it. -/
theorem booked_arm {registry : Registry} {identity : Nat} {candidate : Candidate}
    (booked : (registry.disarm identity).Booked)
    (clear : (registry.disarm identity).IsClear identity)
    (found : registry.candidate? identity = some candidate) {due : Nat}
    (isDue : candidate.next = due) (wants : candidate.wantsTimer = true)
    (active : candidate.ending = none) : (registry.arm identity due).Booked := by
  subst isDue
  have disarmedFound := candidate?_disarm_self found
  simp only [arm, disarmedFound]
  cases accepts : (registry.disarm identity).acceptAlarm candidate.next
      ⟨identity, candidate.disarm.generation⟩ with
  | error refusal => exact booked.congr rfl rfl
  | ok accepted =>
      obtain ⟨ticket, accepted⟩ := accepted
      rcases acceptAlarm_eq_ok accepts with ⟨_, rfl, rfl⟩ | ⟨number, agenda, scheduled, rfl, rfl⟩
      · exact booked.modify_of_isClear clear _
      · rcases Schedule.Agenda.schedule_eq_ok scheduled with ⟨_, rfl, rfl⟩
        intro entry present
        rcases Schedule.Agenda.mem_place_iff.mp present with rfl | old
        · exact ⟨_, candidate?_modify disarmedFound _, ⟨rfl, rfl, rfl, wants, active⟩⟩
        · obtain ⟨other, isOther, awaits⟩ := booked entry old
          exact ⟨other, (candidate?_modify_of_ne (clear entry old) _ _).trans isOther, awaits⟩

/-- Where timers are hosted and the agenda is open, arming succeeds. -/
theorem timer_arm {registry : Registry} {identity due : Nat} {candidate armed : Candidate}
    (isOpen : (registry.arm identity due).agenda.closed = false)
    (found : registry.candidate? identity = some candidate)
    (isArmed : (registry.arm identity due).candidate? identity = some armed)
    (hosted : registry.driving = .byTimers true) :
    armed.timer ≠ none := by
  have disarmedFound := candidate?_disarm_self found
  obtain ⟨agenda, drops, shrinks⟩ := registry.dropTimer_eq identity
  have driven : (registry.disarm identity).driving = .byTimers true := by
    rw [disarm, drops]
    exact hosted
  simp only [arm, disarmedFound] at isArmed isOpen
  cases accepts : (registry.disarm identity).acceptAlarm due
      ⟨identity, candidate.disarm.generation⟩ with
  | error refusal =>
      simp only [accepts] at isOpen
      rcases acceptAlarm_eq_error accepts with closed | unhosted
      · exact absurd closed (Bool.eq_false_iff.mp isOpen)
      · cases driven.symm.trans unhosted
  | ok accepted =>
      obtain ⟨ticket, accepted⟩ := accepted
      simp only [accepts] at isArmed
      rcases acceptAlarm_eq_ok accepts with ⟨byHand, _⟩ | ⟨number, _, _, rfl, rfl⟩
      · cases driven.symm.trans byHand
      · rw [candidate?_modify_self] at isArmed
        obtain ⟨former, _, rfl⟩ := Option.map_eq_some_iff.mp isArmed
        exact Option.some_ne_none number

/-! ## What every function does -/

/-- What every function of the registry does to the tasks on the agenda: each of them stays
awaited, and where timers are hosted by an open agenda no candidate becomes neglected, unless
it is one of those whose schedules overflow. -/
structure Books (overran : Nat → Prop) (before after : Registry) : Prop extends
    Tends before after where
  booked : before.Timed → before.Booked → after.Booked
  remembers : before.driving = .byTimers true → after.agenda.closed = false →
    ∀ identity candidate, after.candidate? identity = some candidate → candidate.IsNeglected →
      (∃ former, before.candidate? identity = some former ∧ former.IsNeglected) ∨ overran identity

/-- An agenda that is open was open before. -/
theorem Advances.isOpen {before after : Registry} (advances : before.Advances after)
    (isOpen : after.agenda.closed = false) : before.agenda.closed = false := by
  cases closed : before.agenda.closed with
  | false => rfl
  | true => exact absurd (advances.closed closed) (Bool.eq_false_iff.mp isOpen)

variable {overran : Nat → Prop}

theorem Books.trans {first second third : Registry} (earlier : Books overran first second)
    (later : Books overran second third) : Books overran first third :=
  { earlier.toTends.trans later.toTends with
    booked := fun timed booked => later.booked (earlier.timed timed) (earlier.booked timed booked)
    remembers := by
      intro driving isOpen identity candidate found neglected
      rcases later.remembers (earlier.driving.trans driving) isOpen identity candidate found
        neglected with ⟨middle, isMiddle, wasNeglected⟩ | overrun
      · exact earlier.remembers driving (later.isOpen isOpen) identity middle isMiddle wasNeglected
      · exact .inr overrun }

/-- Where candidates and tasks stay as they are. -/
theorem Tends.books {before after : Registry} (tends : before.Tends after)
    (sameCandidates : after.candidates = before.candidates)
    (sameEntries : after.agenda.entries = before.agenda.entries) : Books overran before after :=
  { tends with
    booked := fun _ booked => booked.congr sameCandidates sameEntries
    remembers := fun _ _ identity candidate found neglected =>
      .inl ⟨candidate, (congrArg (·[identity]?) sameCandidates).symm.trans found, neglected⟩ }

theorem Books.refl (registry : Registry) : Books overran registry registry :=
  (Tends.refl registry).books rfl rfl

/-- A function that changes one candidate only has to remember that one. -/
theorem Tends.books_of_others {before after : Registry} (tends : before.Tends after)
    (identity : Nat) (booked : before.Timed → before.Booked → after.Booked)
    (others : ∀ other, other ≠ identity → after.candidate? other = before.candidate? other)
    (remembers : before.driving = .byTimers true → after.agenda.closed = false →
      ∀ candidate, after.candidate? identity = some candidate → candidate.IsNeglected →
        (∃ former, before.candidate? identity = some former ∧ former.IsNeglected) ∨
          overran identity) :
    Books overran before after :=
  { tends with
    booked
    remembers := by
      intro driving isOpen other candidate found neglected
      by_cases same : other = identity
      · subst same
        exact remembers driving isOpen candidate found neglected
      · exact .inl ⟨candidate, (others other same).symm.trans found, neglected⟩ }

/-! ## Other candidates -/

theorem candidate?_disarm_of_ne {identity other : Nat} (isOther : other ≠ identity)
    (registry : Registry) : (registry.disarm identity).candidate? other =
      registry.candidate? other := by
  rw [disarm, candidate?_modify_of_ne isOther, candidate?_dropTimer]

theorem candidate?_arm_of_ne {identity other : Nat} (isOther : other ≠ identity)
    (registry : Registry) (due : Nat) : (registry.arm identity due).candidate? other =
      registry.candidate? other := by
  have disarmed := candidate?_disarm_of_ne isOther registry
  simp only [arm]
  split
  · exact disarmed
  · next candidate _ =>
      cases accepts : (registry.disarm identity).acceptAlarm due
          { candidate := identity, generation := candidate.generation } with
      | error refusal => exact disarmed
      | ok accepted =>
          obtain ⟨ticket, accepted⟩ := accepted
          refine (candidate?_modify_of_ne isOther _ _).trans (Eq.trans ?_ disarmed)
          rcases acceptAlarm_eq_ok accepts with ⟨_, rfl, rfl⟩ | ⟨_, _, _, rfl, rfl⟩ <;> rfl

/-! ## Handing over resends -/

theorem books_force (registry : Registry) (identity : Nat) (upTo : Option Nat) :
    Books overran registry (registry.force identity upTo).1 := by
  have tends := registry.tends_force identity upTo
  cases found : registry.candidate? identity with
  | none =>
      simp only [force, found]
      exact .refl registry
  | some candidate =>
      simp only [force, found] at tends ⊢
      split
      · next allowed =>
          rw [if_pos allowed] at tends
          have free : candidate.isFree = true := (Bool.and_eq_true _ _ ▸ allowed).1
          obtain ⟨_, _, result⟩ := handOver_of_isFree (candidate?_disarm_self found) free
          rw [result] at tends ⊢
          refine tends.books_of_others identity (fun _ booked => ?_) (fun _ isOther => ?_) ?_
          · obtain ⟨disarmed, clear⟩ := booked.disarm identity
            exact disarmed.modify_of_isClear clear _
          · exact (candidate?_modify_of_ne isOther _ _).trans (candidate?_disarm_of_ne isOther _)
          · exact fun _ _ handed isHanded neglected =>
              absurd neglected (not_neglected_handedOver isHanded)
      · exact .refl registry

/-- No other task of the candidate is left when the one it awaited is taken off. -/
theorem Takes.booked {registry : Registry} {entry : Schedule.Entry Alarm}
    {agenda : Schedule.Agenda Alarm} (takes : registry.Takes entry agenda)
    (present : entry ∈ registry.agenda.entries) (gone : entry ∉ agenda.entries)
    (timed : registry.Timed) (booked : registry.Booked) :
    { registry with agenda }.Booked ∧ { registry with agenda }.IsClear entry.task.candidate := by
  constructor
  · exact fun other left => booked other (takes.fewer.subset left)
  · intro other left own
    have otherPresent := takes.fewer.subset left
    obtain ⟨candidate, found, awaits⟩ := booked entry present
    obtain ⟨awaiting, isAwaiting, otherAwaits⟩ := booked other otherPresent
    rw [own] at isAwaiting
    obtain rfl := Option.some.inj (found.symm.trans isAwaiting)
    have sameTicket := Option.some.inj (awaits.timer.symm.trans otherAwaits.timer)
    obtain rfl := timed.agenda.eq_of_ticket present otherPresent sameTicket
    exact gone left

/-- A timer that fires was awaited, and its candidate awaits nothing any more. -/
theorem books_fireTimer {registry : Registry} {entry : Schedule.Entry Alarm}
    {agenda : Schedule.Agenda Alarm} (timed : registry.Timed) (takes : registry.Takes entry agenda)
    (present : entry ∈ registry.agenda.entries) (gone : entry ∉ agenda.entries) :
    Books overran registry ({ registry with agenda }.fireTimer entry.task).1 := by
  have tends := tends_fireTimer timed takes
  have cleared := takes.booked present gone timed
  cases found : registry.candidate? entry.task.candidate with
  | none =>
      have takenFound : { registry with agenda }.candidate? entry.task.candidate = none := found
      simp only [fireTimer, takenFound] at tends ⊢
      exact tends.books_of_others entry.task.candidate (fun _ booked => (cleared booked).1)
        (fun _ _ => rfl) fun _ _ candidate isCandidate neglected =>
          .inl ⟨candidate, isCandidate, neglected⟩
  | some candidate =>
      have takenFound : { registry with agenda }.candidate? entry.task.candidate =
          some candidate := found
      simp only [fireTimer, takenFound] at tends ⊢
      generalize reports : Registry.report { registry with agenda } _ = reported at tends ⊢
      have reportedFound : reported.candidate? entry.task.candidate = some candidate := by
        rw [← reports]
        exact found
      have sameOthers (other : Nat) : reported.candidate? other = registry.candidate? other := by
        rw [← reports]
        rfl
      have reportedCleared (booked : registry.Booked) :
          reported.Booked ∧ reported.IsClear entry.task.candidate := by
        rw [← reports]
        exact cleared booked
      split
      · next superseded =>
          rw [if_pos superseded] at tends
          exact tends.books_of_others entry.task.candidate
            (fun _ booked => (reportedCleared booked).1) (fun other _ => sameOthers other)
            fun _ _ other isOther neglected =>
              .inl ⟨other, (sameOthers _).symm.trans isOther, neglected⟩
      · next current =>
          rw [if_neg current] at tends
          generalize uses : Registry.modify reported _ _ = used at tends ⊢
          obtain rfl : reported.modify entry.task.candidate (Candidate.withTimer none) = used :=
            uses
          have usedFound := candidate?_modify reportedFound (Candidate.withTimer none)
          split
          · next free =>
              rw [if_pos free] at tends
              obtain ⟨_, _, result⟩ := handOver_of_isFree usedFound free
              rw [result] at tends ⊢
              refine tends.books_of_others entry.task.candidate (fun _ booked => ?_)
                (fun other isOther => ?_) ?_
              · obtain ⟨kept, clear⟩ := reportedCleared booked
                exact (kept.modify_of_isClear clear _).modify_of_isClear clear _
              · rw [candidate?_modify_of_ne isOther, candidate?_modify_of_ne isOther, sameOthers]
              · exact fun _ _ handed isHanded neglected =>
                  absurd neglected (not_neglected_handedOver isHanded)
          · next busy =>
              rw [if_neg busy] at tends
              refine tends.books_of_others entry.task.candidate (fun _ booked => ?_)
                (fun other isOther => ?_) ?_
              · obtain ⟨kept, clear⟩ := reportedCleared booked
                exact kept.modify_of_isClear clear _
              · rw [candidate?_modify_of_ne isOther, sameOthers]
              · intro _ _ used isUsed neglected
                obtain rfl := Option.some.inj (usedFound.symm.trans isUsed)
                exact absurd ((timed.settled _ candidate found).isFree neglected.wants
                  neglected.active neglected.idle) busy

/-! ## The course of a resend -/

/-- A candidate that has not ended waits for a resend to complete, and takes part in the
schedule, suspension apart. -/
def IsOnCourse (registry : Registry) (identity : Nat) : Prop :=
  ∀ candidate, registry.candidate? identity = some candidate → candidate.ending = none →
    candidate.pending = true ∧ candidate.exhausted = false ∧ candidate.addressable = true

/-- A message whose schedule may overflow next: it is not registered, or waits for a resend to
complete after which it has no interval. -/
def MayOverrun (registry : Registry) (identity : Nat) : Prop :=
  ∀ candidate, registry.candidate? identity = some candidate →
    candidate.pending = true ∧ candidate.policy.nextInterval candidate.interval = none

theorem mayOverrun_length (registry : Registry) :
    registry.MayOverrun registry.candidates.length := by
  intro candidate found
  rw [candidate?, List.getElem?_eq_none_iff.mpr (Nat.le_refl _)] at found
  cases found

theorem IsOnCourse.mayOverrun {registry : Registry} {identity : Nat} {candidate : Candidate}
    (onCourse : registry.IsOnCourse identity)
    (found : registry.candidate? identity = some candidate) (active : candidate.ending = none)
    (overflow : candidate.policy.nextInterval candidate.interval = none) :
    registry.MayOverrun identity := by
  intro other isOther
  obtain rfl := Option.some.inj (found.symm.trans isOther)
  exact ⟨(onCourse candidate found active).1, overflow⟩

theorem candidate?_completeSend_of_ne {identity other : Nat} (isOther : other ≠ identity)
    (registry : Registry) (now : Nat) : (registry.completeSend now identity).candidate? other =
      registry.candidate? other := by
  cases found : registry.candidate? identity with
  | none => simp only [completeSend, found]
  | some candidate =>
      simp only [completeSend, found]
      cases (candidate.complete now).2 with
      | ended => exact candidate?_modify_of_ne isOther _ _
      | held => exact candidate?_modify_of_ne isOther _ _
      | exhausted =>
          exact (candidate?_disarm_of_ne isOther _).trans (candidate?_modify_of_ne isOther _ _)
      | next due =>
          exact (candidate?_arm_of_ne isOther _ _).trans (candidate?_modify_of_ne isOther _ _)
      | overflow =>
          exact (candidate?_disarm_of_ne isOther _).trans (candidate?_modify_of_ne isOther _ _)

/-- The candidate of a completed resend is changed as it alone decides, its timer apart. -/
theorem untimed_completeSend {registry : Registry} {identity now : Nat}
    {candidate later : Candidate} (found : registry.candidate? identity = some candidate)
    (isLater : (registry.completeSend now identity).candidate? identity = some later) :
    later.untimed = (candidate.completed now).untimed := by
  have after := getElem?_outline (registry.completeSend now identity) identity
  rw [outline_completeSend, isLater, Outline.modify, List.getElem?_modify_eq, getElem?_outline,
    found] at after
  exact (Option.some.inj after).symm.trans (Candidate.untimed_completed now candidate).symm

/-- A completed resend takes the task of its candidate off the agenda and books the next one,
unless there is none or the schedule is at its end. -/
theorem Booked.completeSend {registry : Registry} (booked : registry.Booked) {identity : Nat}
    (onCourse : registry.IsOnCourse identity) (now : Nat) :
    (registry.completeSend now identity).Booked := by
  cases found : registry.candidate? identity with
  | none =>
      simp only [Registry.completeSend, found]
      exact booked
  | some candidate =>
      obtain ⟨after, sequel, outcome, completes⟩ := candidate.exists_completes now
      have unawaited (awaitsNothing : ∀ entry, ¬ candidate.Awaits entry) :
          (registry.modify identity fun _ => after).Booked := by
        refine booked.modify fun former entry isFormer awaits => ?_
        obtain rfl := Option.some.inj (found.symm.trans isFormer)
        exact absurd awaits (awaitsNothing entry)
      have sameTimer : ∀ former, registry.candidate? identity = some former →
          after.timer = former.timer := by
        intro former isFormer
        rw [← Option.some.inj (found.symm.trans isFormer)]
        exact completes.timer
      obtain ⟨disarmed, clear⟩ := booked.disarm_modify sameTimer
      simp only [Registry.completeSend, found, outcome]
      cases completes with
      | ended ended => exact unawaited fun _ awaits => absurd awaits.active ended
      | held _ _ suspended =>
          refine unawaited fun _ awaits => ?_
          have wants := awaits.wants
          simp [Candidate.wantsTimer, suspended] at wants
      | exhausted => exact disarmed.congr rfl rfl
      | overflow => exact disarmed.congr rfl rfl
      | next active _ unsuspended _ =>
          obtain ⟨_, further, addressable⟩ := onCourse candidate found active
          refine booked_arm disarmed clear (candidate?_modify found _) rfl ?_ active
          simp [Candidate.wantsTimer, Candidate.counted, further, addressable, unsuspended]

/-- Where timers are hosted by an open agenda, a completed resend leaves its candidate neglected
only when its schedule overflows. -/
theorem overflow_of_neglected_completeSend {registry : Registry} {identity now : Nat}
    {candidate later : Candidate} (found : registry.candidate? identity = some candidate)
    (driving : registry.driving = .byTimers true)
    (isOpen : (registry.completeSend now identity).agenda.closed = false)
    (isLater : (registry.completeSend now identity).candidate? identity = some later)
    (neglected : later.IsNeglected) :
    candidate.ending = none ∧ candidate.policy.nextInterval candidate.interval = none := by
  have same := untimed_completeSend found isLater
  rcases neglected.sequel same with ⟨due, sequel⟩ | overflow
  · exfalso
    simp only [completeSend, found, sequel] at isOpen isLater
    rw [show (registry.modify identity fun _ => (candidate.complete now).1) =
      registry.modify identity (Candidate.completed now) from
        modify_const found (Candidate.completed now)] at isOpen isLater
    exact timer_arm isOpen (candidate?_modify found _) isLater driving neglected.timerless
  · obtain ⟨_, _, _, _, _, completed⟩ := candidate.completed_eq now
    have sameEnding : later.ending = (candidate.completed now).ending :=
      (congrArg Candidate.ending same :)
    rw [completed] at sameEnding
    exact ⟨sameEnding.symm.trans neglected.active, overflow⟩

theorem books_completeSend {registry : Registry} {identity : Nat}
    (onCourse : registry.IsOnCourse identity)
    (overflows : ∀ candidate, registry.candidate? identity = some candidate →
      candidate.ending = none → candidate.policy.nextInterval candidate.interval = none →
      overran identity) (now : Nat) :
    Books overran registry (registry.completeSend now identity) := by
  refine (registry.tends_completeSend now identity).books_of_others identity
    (fun _ booked => booked.completeSend onCourse now)
    (fun other isOther => candidate?_completeSend_of_ne isOther registry now) ?_
  intro driving isOpen later isLater neglected
  cases found : registry.candidate? identity with
  | none =>
      simp only [completeSend, found] at isLater
      cases isLater
  | some candidate =>
      obtain ⟨active, overflow⟩ :=
        overflow_of_neglected_completeSend found driving isOpen isLater neglected
      exact .inr (overflows candidate found active overflow)

theorem books_concludeSend {registry : Registry} {job : Job}
    (onCourse : registry.IsOnCourse job.candidate)
    (overflows : ∀ candidate, registry.candidate? job.candidate = some candidate →
      candidate.ending = none → candidate.policy.nextInterval candidate.interval = none →
      overran job.candidate) (now : Nat) (failure : Option TransportFailure) :
    Books overran registry (registry.concludeSend now job failure) := by
  cases failure with
  | none => exact books_completeSend onCourse overflows now
  | some failure =>
      have reports : Books overran registry (registry.reportFailure job failure) := by
        refine (tends_report ?_).books rfl rfl
        cases failure.isTransient <;> simp [Log.Event.isUnscheduled]
      have same : (registry.reportFailure job failure).IsOnCourse job.candidate := onCourse
      exact reports.trans (books_completeSend same overflows now)

theorem books_beginSend (registry : Registry) (now : Nat) (job : Job) :
    Books overran registry (registry.beginSend now job).1 :=
  (tends_beginSend registry now job).books rfl rfl

theorem books_abandonSend {registry : Registry} (timed : registry.Timed) {job : Job}
    (may : registry.maySend job = false) : Books overran registry (registry.abandonSend job) := by
  refine (tends_abandonSend timed may).books_of_others job.candidate (fun _ booked => ?_)
    (fun _ isOther => candidate?_modify_of_ne isOther _ _) ?_
  · exact booked.modify fun _ _ _ awaits =>
      ⟨awaits.timer, awaits.generation, awaits.due, awaits.wants, awaits.active⟩
  · intro _ _ skipped isSkipped neglected
    obtain ⟨candidate, found, rfl⟩ := Option.map_eq_some_iff.mp
      ((candidate?_modify_self registry _ _).symm.trans isSkipped)
    simp only [maySend, found, Option.any_some] at may
    have idle := (timed.settled _ candidate found).idle neglected.wants neglected.active may
    exact .inl ⟨candidate, found,
      ⟨neglected.wants, neglected.active, idle, neglected.timerless⟩⟩

end Registry

end Redelivery
