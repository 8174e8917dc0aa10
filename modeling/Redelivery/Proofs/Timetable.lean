import Mathlib.Algebra.BigOperators.Group.Finset.Basic
import Redelivery.Proofs.Limits
import Redelivery.Proofs.Membership
import Redelivery.Proofs.Requests

/-!
# The timetable of a message

The timetable of a message is fixed when it is registered: the first resend is due one base
interval later, and every other one an interval after the one before it, whenever that one
went out.  A candidate carries one slot of it, the instant from which its next resend is due
and the interval after that.  Each resend that completes moves it on by one slot, unless its
sequence is suspended, and whoever made it go out does not matter.  Only a resumption moves
the due instant off the timetable, and nothing moves the interval off it.
-/

namespace Redelivery

/-! ## Timetables -/

/-- The instant from which a resend is due, and the interval between it and the next one. -/
structure Slot where
  due : Nat
  interval : Nat
  deriving DecidableEq, Repr

namespace Policy

/-- The interval that a message has after so many completed resends, unless an interval has
overflowed by then. -/
def intervalAt (policy : Policy) : (count : Nat) → Option Nat
  | 0 => policy.initialInterval
  | count + 1 => (policy.intervalAt count).bind policy.nextInterval

/-- The instant at which the resend after so many others is due, for a message that was
registered at an instant. -/
def dueAt (policy : Policy) (registered count : Nat) : Nat :=
  registered + policy.baseInterval +
    ∑ earlier ∈ Finset.range count, (policy.intervalAt earlier).getD 0

/-- The slot of a message that is registered at an instant.  One without a first interval is
due at once. -/
def firstSlot (policy : Policy) (registered : Nat) : Slot :=
  match policy.initialInterval with
  | some interval => { due := registered + policy.baseInterval, interval }
  | none => { due := registered, interval := policy.baseInterval }

/-- The slot after another one, which stays where it is if the next interval overflows. -/
def nextSlot (policy : Policy) (slot : Slot) : Slot :=
  match policy.nextInterval slot.interval with
  | some interval => { due := slot.due + slot.interval, interval }
  | none => slot

/-- The slot after so many completed resends. -/
def slotAfter (policy : Policy) (registered count : Nat) : Slot :=
  policy.nextSlot^[count] (policy.firstSlot registered)

theorem slotAfter_succ (policy : Policy) (registered count : Nat) :
    policy.slotAfter registered (count + 1) =
      policy.nextSlot (policy.slotAfter registered count) :=
  Function.iterate_succ_apply' _ _ _

/-- How the intervals go on does not depend on the due instants. -/
theorem interval_iterate_nextSlot (policy : Policy) {first second : Slot}
    (same : first.interval = second.interval) (count : Nat) :
    (policy.nextSlot^[count] first).interval = (policy.nextSlot^[count] second).interval := by
  induction count generalizing first second with
  | zero => exact same
  | succ count inductionHypothesis =>
      apply inductionHypothesis
      rw [nextSlot, nextSlot, same]
      cases policy.nextInterval second.interval with
      | none => exact same
      | some interval => rfl

theorem dueAt_zero (policy : Policy) (registered : Nat) :
    policy.dueAt registered 0 = registered + policy.baseInterval := by
  rw [dueAt, Finset.range_zero, Finset.sum_empty, add_zero]

theorem dueAt_succ {policy : Policy} {count interval : Nat}
    (defined : policy.intervalAt count = some interval) (registered : Nat) :
    policy.dueAt registered (count + 1) = policy.dueAt registered count + interval := by
  rw [dueAt, Finset.sum_range_succ, defined, Option.getD_some, ← add_assoc]
  rfl

/-- Every interval follows the one before it. -/
theorem intervalAt_of_succ {policy : Policy} {count interval : Nat}
    (defined : policy.intervalAt (count + 1) = some interval) :
    ∃ before, policy.intervalAt count = some before ∧
      policy.nextInterval before = some interval :=
  Option.bind_eq_some_iff.mp defined

/-- As long as no interval has overflowed, the slots are those of the timetable. -/
theorem slotAfter_eq {policy : Policy} {count interval : Nat}
    (defined : policy.intervalAt count = some interval) (registered : Nat) :
    policy.slotAfter registered count =
      { due := policy.dueAt registered count, interval } := by
  induction count generalizing interval with
  | zero =>
      have first : policy.initialInterval = some interval := defined
      simp only [slotAfter, Function.iterate_zero, id_eq, firstSlot, first, dueAt_zero]
  | succ count inductionHypothesis =>
      rcases intervalAt_of_succ defined with ⟨before, wasDefined, follows⟩
      rw [slotAfter_succ, inductionHypothesis wasDefined, nextSlot, dueAt_succ wasDefined]
      simp only [follows]

/-- Once an interval has overflowed, the slot stays where it is. -/
theorem slotAfter_succ_of_overflow {policy : Policy} {count : Nat}
    (overflow : policy.intervalAt (count + 1) = none) (registered : Nat) :
    policy.slotAfter registered (count + 1) = policy.slotAfter registered count := by
  rw [slotAfter_succ]
  cases before : policy.intervalAt count with
  | some interval =>
      have ends : policy.nextInterval interval = none := by
        rwa [intervalAt, before, Option.bind_some] at overflow
      rw [slotAfter_eq before, nextSlot, ends]
  | none =>
      cases count with
      | zero =>
          -- the base interval that stands in for the first one overflows likewise
          have ends : policy.nextInterval policy.baseInterval = none := before
          have first : policy.slotAfter registered 0 =
              { due := registered, interval := policy.baseInterval } := by
            simp only [slotAfter, Function.iterate_zero, id_eq, firstSlot, initialInterval, ends]
          rw [first, nextSlot, ends]
      | succ count =>
          rw [slotAfter_succ_of_overflow before registered, ← slotAfter_succ,
            slotAfter_succ_of_overflow before registered]

/-- No interval follows one that has overflowed. -/
theorem intervalAt_of_overflow {policy : Policy} {first count : Nat}
    (overflow : policy.intervalAt first = none) (later : first ≤ count) :
    policy.intervalAt count = none := by
  induction later with
  | refl => exact overflow
  | step _ inductionHypothesis => rw [intervalAt, inductionHypothesis, Option.bind_none]

/-- The last slot before the overflow is the slot ever after. -/
theorem slotAfter_of_overflow {policy : Policy} {reached count : Nat}
    (overflow : policy.intervalAt (reached + 1) = none) (later : reached ≤ count)
    (registered : Nat) :
    policy.slotAfter registered count = policy.slotAfter registered reached := by
  induction later with
  | refl => rfl
  | @step count later inductionHypothesis =>
      have overflown := intervalAt_of_overflow overflow (Nat.succ_le_succ later)
      rw [slotAfter_succ_of_overflow overflown, inductionHypothesis]

end Policy

/-! ## The slot of a candidate -/

namespace Candidate

/-- The slot of the timetable that a candidate has reached. -/
def slot (candidate : Candidate) : Slot :=
  { due := candidate.next, interval := candidate.interval }

theorem slot_register (now : Nat) (routing : Executor.Routing) (suspended : Bool)
    (message : Message) :
    (register now routing suspended message).slot = message.policy.firstSlot now := by
  simp only [register, slot, Policy.firstSlot]
  cases message.policy.initialInterval <;> rfl

/-- A completed resend moves a candidate on by one slot, unless it is suspended or the
resend was its last one. -/
theorem slot_completed {candidate : Candidate} {now : Nat} (active : candidate.ending = none)
    (further : (candidate.completed now).exhausted = false) :
    (candidate.completed now).slot =
      if candidate.suspended then candidate.slot else candidate.policy.nextSlot candidate.slot := by
  obtain ⟨sequel, completes⟩ := candidate.exists_completed now
  generalize candidate.completed now = after at completes further ⊢
  cases completes with
  | ended ended => exact absurd active ended
  | exhausted => cases further
  | held _ _ suspended =>
      rw [suspended, if_pos rfl]
      rfl
  | next _ _ unsuspended follows =>
      simp [Policy.nextSlot, slot, unsuspended, follows]
  | overflow _ _ unsuspended overflow =>
      simp [Policy.nextSlot, slot, counted, unsuspended, overflow]

/-- A resend that completes during suspension leaves the interval alone. -/
theorem interval_completed_of_suspended {candidate : Candidate}
    (suspended : candidate.suspended = true) (now : Nat) :
    (candidate.completed now).interval = candidate.interval := by
  obtain ⟨sequel, completes⟩ := candidate.exists_completed now
  generalize candidate.completed now = after at completes ⊢
  cases completes with
  | ended | exhausted | held => rfl
  | next _ _ unsuspended _ | overflow _ _ unsuspended _ =>
      cases unsuspended.symm.trans suspended

/-- What becomes of a candidate while so many of its resends complete that count for its
timetable, whether or not it is resumed meanwhile. -/
structure MovesOn (candidate : Candidate) (count : Nat) (resumed : Bool) (later : Candidate) :
    Prop where
  policy : later.policy = candidate.policy
  further : later.ending = none → later.exhausted = false →
    candidate.ending = none ∧ candidate.exhausted = false
  /-- Without a completed resend the interval stays, even at the end of the timetable. -/
  still : count = 0 → later.interval = candidate.interval
  interval : later.ending = none → later.exhausted = false →
    later.interval = (candidate.policy.nextSlot^[count] candidate.slot).interval
  slot : resumed = false → later.ending = none → later.exhausted = false →
    later.slot = candidate.policy.nextSlot^[count] candidate.slot

/-- A candidate that stays in its slot. -/
theorem movesOn_of_same (candidate later : Candidate) (samePolicy : later.policy = candidate.policy)
    (further : later.ending = none → later.exhausted = false →
      candidate.ending = none ∧ candidate.exhausted = false)
    (sameSlot : later.slot = candidate.slot) (resumed : Bool) :
    candidate.MovesOn 0 resumed later where
  policy := samePolicy
  further := further
  still := fun _ => congrArg Slot.interval sameSlot
  interval := fun _ _ => congrArg Slot.interval sameSlot
  slot := fun _ _ _ => sameSlot

theorem MovesOn.refl (candidate : Candidate) (resumed : Bool) :
    candidate.MovesOn 0 resumed candidate :=
  candidate.movesOn_of_same candidate rfl (fun active further => ⟨active, further⟩) rfl resumed

theorem movesOn_handedOver (candidate : Candidate) :
    candidate.MovesOn 0 false candidate.handedOver :=
  candidate.movesOn_of_same candidate.handedOver rfl (fun active further => ⟨active, further⟩) rfl
    false

theorem movesOn_abandon (candidate : Candidate) (requestAck : Bool) :
    candidate.MovesOn 0 false (candidate.abandon requestAck) :=
  candidate.movesOn_of_same (candidate.abandon requestAck) rfl
    (fun active further => ⟨active, further⟩) rfl false

theorem MovesOn.trans {first middle last : Candidate} {early late : Nat}
    (earlier : first.MovesOn early false middle) (later : middle.MovesOn late false last) :
    first.MovesOn (early + late) false last := by
  have slot (active : last.ending = none) (further : last.exhausted = false) :
      last.slot = first.policy.nextSlot^[early + late] first.slot := by
    obtain ⟨wasActive, wasFurther⟩ := later.further active further
    rw [later.slot rfl active further, earlier.policy, earlier.slot rfl wasActive wasFurther,
      ← Function.iterate_add_apply, add_comm]
  exact {
    policy := later.policy.trans earlier.policy
    further := fun active further => (later.further active further).elim earlier.further
    still := fun none => by
      rw [later.still (Nat.eq_zero_of_add_eq_zero_left none),
        earlier.still (Nat.eq_zero_of_add_eq_zero_right none)]
    interval := fun active further => congrArg Slot.interval (slot active further)
    slot := fun _ => slot }

/-- The number of slots by which so many completed resends move a candidate on. -/
def slotsFor (candidate : Candidate) (completed : Nat) : Nat :=
  if candidate.suspended then 0 else completed

@[simp]
theorem slotsFor_zero (candidate : Candidate) : candidate.slotsFor 0 = 0 :=
  ite_self 0

theorem slotsFor_add {candidate later : Candidate} (same : later.suspended = candidate.suspended)
    (early late : Nat) :
    candidate.slotsFor (early + late) = candidate.slotsFor early + later.slotsFor late := by
  simp only [slotsFor, same]
  split <;> rfl

theorem movesOn_completed (candidate : Candidate) (now : Nat) :
    candidate.MovesOn (candidate.slotsFor 1) false (candidate.completed now) := by
  have wasFurther (active : (candidate.completed now).ending = none)
      (further : (candidate.completed now).exhausted = false) :
      candidate.ending = none ∧ candidate.exhausted = false := by
    have wasActive : candidate.ending = none := by
      rcases candidate.completed_eq now with ⟨_, _, _, _, _, completed⟩
      rwa [completed] at active
    rw [(completed_of_active wasActive now).2, Bool.or_eq_false_iff] at further
    exact ⟨wasActive, further.1⟩
  have slot (active : (candidate.completed now).ending = none)
      (further : (candidate.completed now).exhausted = false) :
      (candidate.completed now).slot =
        candidate.policy.nextSlot^[candidate.slotsFor 1] candidate.slot := by
    rw [slot_completed (wasFurther active further).1 further, slotsFor]
    split <;> rfl
  exact {
    policy := (persists_completed now candidate).policy
    further := wasFurther
    still := by
      cases suspended : candidate.suspended with
      | false => simp [slotsFor, suspended]
      | true => exact fun _ => interval_completed_of_suspended suspended now
    interval := fun active further => congrArg Slot.interval (slot active further)
    slot := fun _ => slot }

end Candidate

/-! ## What moves do to a slot -/

namespace Outline

open Deed

theorem found_modify {outline : Outline} {identity : Nat} {candidate : Candidate}
    (found : outline.candidates[identity]? = some candidate) (changed : Nat)
    (change : Candidate → Candidate) :
    (outline.modify changed change).candidates[identity]? =
      some (if changed = identity then change candidate else candidate) := by
  simp [modify, List.getElem?_modify, found]

/-- A change that leaves a candidate in its slot. -/
theorem movesOn_modify {outline : Outline} {identity : Nat} {candidate : Candidate}
    (found : outline.candidates[identity]? = some candidate) {change : Candidate → Candidate}
    (sameSuspended : (change candidate).suspended = candidate.suspended)
    (movesOn : candidate.MovesOn 0 false (change candidate)) (changed : Nat) :
    ∃ later, (outline.modify changed change).candidates[identity]? = some later ∧
      later.suspended = candidate.suspended ∧ candidate.MovesOn 0 false later := by
  refine ⟨_, found_modify found changed change, ?_⟩
  split
  · exact ⟨sameSuspended, movesOn⟩
  · exact ⟨rfl, .refl candidate false⟩

/-- Deeds move a candidate on by the resends that they complete. -/
theorem Deals.movesOn {now : Nat} {before after : Outline} {deeds : List Deed}
    (deals : Deals now before deeds after) {identity : Nat} {candidate : Candidate}
    (found : before.candidates[identity]? = some candidate) :
    ∃ later, after.candidates[identity]? = some later ∧ later.suspended = candidate.suspended ∧
      candidate.MovesOn
        (candidate.slotsFor (Multiset.card (jobsOf completed? (about identity deeds))))
        false later := by
  have uncounted {deeds : List Deed} (noneCompletes : ∀ deed ∈ deeds, completed? deed = none)
      (candidate : Candidate) : candidate.slotsFor
        (Multiset.card (jobsOf completed? (about identity deeds))) = 0 := by
    have none : jobsOf completed? (about identity deeds) = 0 :=
      jobsOf_eq_zero fun deed present => noneCompletes deed (List.mem_of_mem_filter present)
    rw [none, Multiset.card_zero, Candidate.slotsFor_zero]
  induction deals generalizing candidate with
  | quiet sameCandidates _ =>
      rw [uncounted (by simp)]
      exact ⟨candidate, sameCandidates ▸ found, rfl, .refl candidate false⟩
  | build hands =>
      rw [uncounted (by simp [completed?])]
      cases hands with
      | nothing => exact ⟨candidate, found, rfl, .refl candidate false⟩
      | job _ _ _ => exact movesOn_modify found rfl candidate.movesOn_handedOver _
  | begin =>
      rw [uncounted (by simp [completed?])]
      exact ⟨candidate, found, rfl, .refl candidate false⟩
  | @complete before job =>
      refine ⟨_, found_modify found job.candidate (Candidate.completed now), ?_⟩
      by_cases ours : job.candidate = identity
      · have completes : about identity [.completed job] = [.completed job] := by
          simp [about, Deed.job, ours]
        rw [if_pos ours, completes]
        rcases candidate.completed_eq now with ⟨_, _, _, _, _, completed⟩
        exact ⟨by rw [completed], candidate.movesOn_completed now⟩
      · have notAbout : about identity [.completed job] = [] := by
          simp [about, Deed.job, ours]
        rw [if_neg ours, notAbout, show jobsOf completed? [] = 0 from rfl, Multiset.card_zero,
          Candidate.slotsFor_zero]
        exact ⟨rfl, .refl candidate false⟩
  | abandon =>
      rw [uncounted (by simp [completed?])]
      exact movesOn_modify found rfl (candidate.movesOn_abandon _) _
  | trans _ _ earlier later =>
      obtain ⟨middle, toMiddle, sameFirst, early⟩ := earlier found
      obtain ⟨last, toLast, sameLast, late⟩ := later toMiddle
      refine ⟨last, toLast, sameLast.trans sameFirst, ?_⟩
      rw [about_append, jobsOf_append, Multiset.card_add, Candidate.slotsFor_add sameFirst]
      exact early.trans late

end Outline

namespace Registry

theorem snd_enroll (registry : Registry) (now : Nat) (message : Message) :
    (registry.enroll now message).2 = registry.candidates.length := by
  simp only [enroll]
  split
  · rfl
  · split <;> rfl

/-- A message that is accepted gets the first identity that is free. -/
theorem eq_length_of_add {registry : Registry} {now : Nat} {message : Message} {identity : Nat}
    (accepted : (registry.add now message).2 = .ok identity) :
    registry.rejection? message = none ∧ identity = registry.candidates.length := by
  have notRejected : registry.rejection? message = none :=
    (isOk_add registry now message).mp (by rw [accepted]; rfl)
  refine ⟨notRejected, ?_⟩
  have sameRejection (fields : List Log.Field) :
      (registry.entered "add_unacknowledged" fields).rejection? message =
        registry.rejection? message := rfl
  rw [add, snd_traced, sameRejection, notRejected] at accepted
  rw [← Except.ok.inj accepted, snd_enroll]
  rfl

end Registry

namespace Service

open Deed

/-- What a command makes of a candidate. -/
inductive Handles (now : Nat) (candidate : Candidate) : Candidate → Prop where
  | same : Handles now candidate candidate
  | finish (ending : Ending) : Handles now candidate (candidate.finished ending)
  | suspend : Handles now candidate candidate.paused
  | wake : Handles now candidate (candidate.woken now)

theorem handles_modifyAll {now : Nat} {outline : Outline} {identity : Nat}
    {candidate : Candidate} (found : outline.candidates[identity]? = some candidate)
    {change : Candidate → Candidate} (handles : Handles now candidate (change candidate))
    (identities : List Nat) :
    ∃ later, (outline.modifyAll identities change).candidates[identity]? = some later ∧
      Handles now candidate later := by
  rw [Outline.getElem?_modifyAll, found, Option.map_some]
  refine ⟨_, rfl, ?_⟩
  split
  · exact handles
  · exact .same

theorem handles_joined {service after : Service} {identity : Nat} {candidate : Candidate}
    (found : service.outline.candidates[identity]? = some candidate)
    (joined : service.Joined after) {now : Nat} :
    ∃ later, after.outline.candidates[identity]? = some later ∧ Handles now candidate later := by
  rcases joined with ⟨more, _, isAfter⟩
  rw [isAfter]
  exact ⟨candidate, found, .same⟩

/-- A command ends, suspends or wakes a candidate at most. -/
theorem handles_carryOut {service : Service} {identity : Nat} {candidate : Candidate}
    (found : service.outline.candidates[identity]? = some candidate) (command : Command) :
    ∃ later, (service.carryOut command).outline.candidates[identity]? = some later ∧
      Handles service.now candidate later := by
  cases command with
  | add message =>
      rw [outline_add]
      split
      · have known := (List.getElem?_eq_some_iff.mp found).1
        exact ⟨candidate, (List.getElem?_append_left known).trans found, .same⟩
      · exact ⟨candidate, found, .same⟩
  | purgeAcknowledged sequence acknowledged =>
      rw [outline_purgeAcknowledged]
      split
      · exact ⟨candidate, found, .same⟩
      · exact handles_modifyAll found (.finish .resolved) _
  | purgeAll sequence =>
      rw [outline_purgeAll]
      exact handles_modifyAll found (.finish .cancelled) _
  | stop sequence =>
      rw [outline_stop]
      exact handles_modifyAll found (.finish .cancelled) _
  | shutdown =>
      rw [outline_shutdown]
      exact handles_modifyAll found (.finish .cancelled) _
  | suspend sequence =>
      rw [outline_suspend]
      exact handles_modifyAll found .suspend _
  | resume sequence =>
      rw [outline_resume]
      split
      · exact handles_modifyAll found .wake _
      · exact ⟨candidate, found, .same⟩
  | request _ _ | join _ | serve _ | announce _ | setExecutors _ | closeAgenda
  | prepare _ _ | exchangeStore _ => exact handles_joined found (joined_carryOut service rfl)

/-- No command moves a candidate on; only one that takes it out of suspension changes its
due instant. -/
theorem Handles.movesOn {now : Nat} {candidate later : Candidate}
    (handles : Handles now candidate later) {resumed : Bool}
    (resumes : later.ending = none → later.suspended = false → resumed = candidate.suspended) :
    candidate.MovesOn 0 resumed later := by
  cases handles with
  | same => exact .refl candidate resumed
  | finish ending =>
      have ended := (Candidate.sound_finished ending candidate).kept.mp rfl
      exact candidate.movesOn_of_same (candidate.finished ending) rfl
        (fun active => absurd active ended) rfl resumed
  | suspend =>
      obtain ⟨_, paused, _⟩ := candidate.paused_eq
      refine candidate.movesOn_of_same candidate.paused ?_ ?_ ?_ resumed
      · rw [paused]
      · rw [paused]
        exact fun active further => ⟨active, further⟩
      · rw [paused]
        rfl
  | wake =>
      rcases candidate.woken_eq now with ⟨_, _, woken⟩
      have sameInterval : (candidate.woken now).interval = candidate.interval := by rw [woken]
      exact {
        policy := by rw [woken]
        further := by
          rw [woken]
          exact fun active further => ⟨active, further⟩
        still := fun _ => sameInterval
        interval := fun _ _ => sameInterval
        slot := by
          intro notResumed active _
          have unsuspended : candidate.suspended = false :=
            (resumes active (by rw [woken])).symm.trans notResumed
          have same : candidate.woken now = candidate := by
            simp [Candidate.woken, unsuspended]
          rw [same]
          rfl }

/-- Whether a message is suspended. -/
def isOnHold (service : Service) (identity : Nat) : Bool :=
  (service.world.candidate? identity).any Candidate.suspended

/-- Whether a move resumes a message that is suspended. -/
def releases (service : Service) (move : Move) (identity : Nat) : Bool :=
  service.isOnHold identity && service.isResumed move identity

/-- What a move does with the resends of a message that is not suspended. -/
def deedsUnsuspended (identity : Nat) (service : Service) (move : Move) : List Deed :=
  if service.isOnHold identity then [] else about identity (service.deeds move)

theorem isOnHold_eq {service : Service} {identity : Nat} {candidate : Candidate}
    (found : service.outline.candidates[identity]? = some candidate) :
    service.isOnHold identity = candidate.suspended := by
  obtain ⟨timed, isTimed, rfl⟩ := exists_candidate found
  rw [isOnHold, isTimed]
  rfl

theorem card_deedsUnsuspended {service : Service} {identity : Nat} {candidate : Candidate}
    (found : service.outline.candidates[identity]? = some candidate) (move : Move) :
    Multiset.card (jobsOf completed? (service.deedsUnsuspended identity move)) =
      candidate.slotsFor
        (Multiset.card (jobsOf completed? (about identity (service.deeds move)))) := by
  rw [deedsUnsuspended, isOnHold_eq found, Candidate.slotsFor]
  split <;> rfl

/-- A move takes a candidate on by the resends that it completes, unless the candidate is
suspended, and a resumption makes it leave its timetable. -/
theorem movesOn_move {service after : Service} {move : Move} (sound : service.Sound)
    (moved : service.move? move = some after) {identity : Nat} {candidate : Candidate}
    (found : service.outline.candidates[identity]? = some candidate) :
    ∃ later, after.outline.candidates[identity]? = some later ∧
      candidate.MovesOn
        (Multiset.card (jobsOf completed? (service.deedsUnsuspended identity move)))
        (service.releases move identity) later := by
  have resumes {later : Candidate}
      (isLater : after.outline.candidates[identity]? = some later)
      (active : later.ending = none) (unsuspended : later.suspended = false) :
      service.releases move identity = candidate.suspended := by
    rw [releases, isOnHold_eq found, (resumes_share sound moved identity).2 candidate later found
      isLater active, unsuspended, Bool.not_false, Bool.and_true, Bool.and_self]
  have handled (noDeed : service.deeds move = [])
      (handles : ∃ later, after.outline.candidates[identity]? = some later ∧
        Handles service.now candidate later) :
      ∃ later, after.outline.candidates[identity]? = some later ∧
        candidate.MovesOn
          (Multiset.card (jobsOf completed? (service.deedsUnsuspended identity move)))
          (service.releases move identity) later := by
    obtain ⟨later, isLater, handles⟩ := handles
    refine ⟨later, isLater, ?_⟩
    rw [card_deedsUnsuspended found, noDeed]
    exact (candidate.slotsFor_zero).symm ▸ handles.movesOn (resumes isLater)
  cases move with
  | command command =>
      obtain rfl := eq_carryOut moved
      exact handled rfl (handles_carryOut found command)
  | step index =>
      cases (acts_stepAt sound.tidy moved).1 with
      | deals deals =>
          obtain ⟨later, isLater, _, movesOn⟩ := deals.movesOn found
          refine ⟨later, isLater, ?_⟩
          rw [card_deedsUnsuspended found]
          have stays : service.releases (.step index) identity = false := by
            cases candidate? : service.world.candidate? identity <;>
              simp [releases, isResumed, candidate?, Move.resumes]
          exact stays.symm ▸ movesOn
      | shutdown noDeed candidates _ =>
          apply handled noDeed
          rw [candidates]
          exact handles_modifyAll found (.finish .cancelled) _
  | rouse index position =>
      apply handled rfl
      rw [outline_rouseTo moved]
      exact ⟨candidate, found, .same⟩
  | wait instant =>
      apply handled rfl
      obtain rfl := eq_wait moved
      exact ⟨candidate, found, .same⟩
  | reorder roster =>
      apply handled rfl
      obtain ⟨_, rfl⟩ := eq_reorder moved
      exact ⟨candidate, found, .same⟩

/-! ## The timetable of a run -/

/-- Something holds at every move of a run, of the service before the move. -/
def Throughout (holds : Service → Move → Prop) : List Move → Service → Prop
  | [], _ => True
  | move :: rest, service =>
      holds service move ∧ (service.move? move).elim True (Throughout holds rest)

instance decidableThroughout (holds : Service → Move → Prop)
    [∀ service move, Decidable (holds service move)] :
    (moves : List Move) → (first : Service) → Decidable (Throughout holds moves first)
  | [], _ => .isTrue trivial
  | move :: rest, service =>
      have : Decidable ((service.move? move).elim True (Throughout holds rest)) :=
        match service.move? move with
        | none => .isTrue trivial
        | some after => decidableThroughout holds rest after
      inferInstanceAs (Decidable (_ ∧ _))

theorem throughout_append {holds : Service → Move → Prop} {early late : List Move}
    {first middle : Service} (run : Run first early middle) :
    Throughout holds (early ++ late) first ↔
      Throughout holds early first ∧ Throughout holds late middle := by
  have followed := run.follow_eq
  clear run
  induction early generalizing first with
  | nil =>
      cases followed
      exact (iff_of_eq (true_and _)).symm
  | cons next rest inductionHypothesis =>
      rcases Option.bind_eq_some_iff.mp followed with ⟨further, moved, restFollowed⟩
      simp only [List.cons_append, Throughout, moved, Option.elim_some,
        inductionHypothesis restFollowed, and_assoc]

theorem throughout_concat {holds : Service → Move → Prop} {moves : List Move}
    {first last : Service} (run : Run first moves last) {move : Move} :
    Throughout holds (moves ++ [move]) first ↔
      Throughout holds moves first ∧ holds last move := by
  rw [throughout_append run]
  refine and_congr_right fun _ => ?_
  cases moved : last.move? move <;> simp [Throughout, moved]

theorem Throughout.imp {holds implied : Service → Move → Prop} {moves : List Move}
    {first : Service} (throughout : Throughout holds moves first)
    (implies : ∀ service move, holds service move → implied service move) :
    Throughout implied moves first := by
  induction moves generalizing first with
  | nil => trivial
  | cons move rest inductionHypothesis =>
      refine ⟨implies first move throughout.1, ?_⟩
      have further := throughout.2
      cases moved : first.move? move with
      | none => trivial
      | some after =>
          rw [moved] at further
          exact inductionHypothesis further

/-- What holds of the same moves of a run holds throughout it together. -/
theorem throughout_congr {holds other : Service → Move → Prop} {moves : List Move}
    {first last : Service} (run : Run first moves last)
    (same : ∀ early middle move next, Run first early middle → middle.move? move = some next →
      (holds middle move ↔ other middle move)) :
    Throughout holds moves first ↔ Throughout other moves first := by
  induction run with
  | start => exact Iff.rfl
  | extend run moved inductionHypothesis =>
      rw [throughout_concat run, throughout_concat run, inductionHypothesis,
        same _ _ _ _ run moved]

/-- A message is not resumed from suspension in the course of a run. -/
def IsNeverResumed (identity : Nat) (moves : List Move) (first : Service) : Prop :=
  Throughout (fun service move => service.releases move identity = false) moves first

instance (identity : Nat) (moves : List Move) (first : Service) :
    Decidable (IsNeverResumed identity moves first) :=
  inferInstanceAs (Decidable (Throughout _ moves first))

/-- A message that is accepted is registered as a new candidate. -/
theorem found_add {service : Service} {message : Message} {identity : Nat}
    (accepted : (service.world.add service.now message).2 = .ok identity) :
    (service.carryOut (.add message)).outline.candidates[identity]? =
      some (Candidate.register service.now service.world.routing
        (service.world.roster.isSuspended message.sequence) message) := by
  obtain ⟨notRejected, rfl⟩ := Registry.eq_length_of_add accepted
  have same : service.world.candidates.length = service.outline.candidates.length :=
    (List.length_map _).symm
  rw [outline_add, if_pos notRejected, same]
  exact List.getElem?_concat_length

/-- The number of resends of a message that completed in the course of a run while the
message was not suspended. -/
def countUnsuspended (identity : Nat) (moves : List Move) (first : Service) : Nat :=
  Multiset.card (jobsOf completed? (gather (deedsUnsuspended identity) moves first))

/-- A message that has neither ended nor reached its limit has the interval of the timetable,
and also its due instant unless its sequence was resumed. -/
theorem onTimetable_run {start last : Service} {moves : List Move} {message : Message}
    {identity : Nat} (sound : start.Sound)
    (accepted : (start.world.add start.now message).2 = .ok identity)
    (run : Run (start.carryOut (.add message)) moves last) :
    ∃ candidate, last.outline.candidates[identity]? = some candidate ∧
      candidate.policy = message.policy ∧
      (candidate.ending = none → candidate.exhausted = false →
        candidate.interval = (message.policy.slotAfter start.now
          (countUnsuspended identity moves (start.carryOut (.add message)))).interval ∧
        (IsNeverResumed identity moves (start.carryOut (.add message)) →
          candidate.slot = message.policy.slotAfter start.now
            (countUnsuspended identity moves (start.carryOut (.add message))))) := by
  have registered : (start.carryOut (.add message)).Sound :=
    sound.move (rfl : start.move? (.command (.add message)) = _)
  induction run with
  | start =>
      refine ⟨_, found_add accepted, rfl, fun _ _ => ?_⟩
      have first := Candidate.slot_register start.now start.world.routing
        (start.world.roster.isSuspended message.sequence) message
      exact ⟨congrArg Slot.interval first, fun _ => first⟩
  | @extend moves move middle last run moved inductionHypothesis =>
      obtain ⟨candidate, found, samePolicy, kept⟩ := inductionHypothesis
      obtain ⟨later, isLater, movesOn⟩ := movesOn_move (registered.run run) moved found
      refine ⟨later, isLater, movesOn.policy.trans samePolicy, fun active further => ?_⟩
      obtain ⟨wasActive, wasFurther⟩ := movesOn.further active further
      obtain ⟨interval, slot⟩ := kept wasActive wasFurther
      have onward (count : Nat) : message.policy.slotAfter start.now
          (countUnsuspended identity moves (start.carryOut (.add message)) + count) =
            message.policy.nextSlot^[count] (message.policy.slotAfter start.now
              (countUnsuspended identity moves (start.carryOut (.add message)))) := by
        rw [Policy.slotAfter, add_comm, Function.iterate_add_apply, Policy.slotAfter]
      rw [countUnsuspended, gather_concat _ run, jobsOf_append, Multiset.card_add,
        ← countUnsuspended, onward]
      constructor
      · rw [movesOn.interval active further, samePolicy]
        exact message.policy.interval_iterate_nextSlot interval _
      · intro neverResumed
        obtain ⟨wasNever, notResumed⟩ := (throughout_concat run).mp neverResumed
        rw [movesOn.slot notResumed active further, samePolicy, slot wasNever]

/-- The backoff of a message does not depend on what makes its resends go out.  In every run
that begins with its registration, a candidate that has neither ended nor reached its limit
has the interval that follows from the number of its resends that completed while it was not
suspended, provided that none has overflowed by then.  Unless it was resumed, its next resend
is due after the base interval and the sum of the intervals before.  No move changes the
interval without completing a resend of a candidate that is not suspended. -/
theorem keeps_timetable {first start last : Service} {early late : List Move}
    {message : Message} {identity interval : Nat} {candidate : Candidate}
    (initial : first.IsInitial) (toStart : Run first early start)
    (accepted : (start.world.add start.now message).2 = .ok identity)
    (run : Run (start.carryOut (.add message)) late last)
    (found : last.world.candidate? identity = some candidate)
    (active : candidate.status.phase.isTerminal = false)
    (further : candidate.status.phase ≠ .exhausted)
    (defined : message.policy.intervalAt
      (countUnsuspended identity late (start.carryOut (.add message))) = some interval) :
    candidate.status.interval = interval ∧
      (IsNeverResumed identity late (start.carryOut (.add message)) →
        candidate.status.next = message.policy.dueAt start.now
          (countUnsuspended identity late (start.carryOut (.add message)))) ∧
      ∀ move after, last.move? move = some after →
        jobsOf completed? (last.deedsUnsuspended identity move) = 0 →
        ∃ later, after.world.candidate? identity = some later ∧
          later.status.interval = interval := by
  have sound := initial.sound.run toStart
  have registered : (start.carryOut (.add message)).Sound :=
    sound.move (rfl : start.move? (.command (.add message)) = _)
  have notEnded : candidate.ending = none := Candidate.ending_eq_none_of_phase active
  have notExhausted : candidate.exhausted = false :=
    Bool.eq_false_iff.mpr ((Candidate.phase_eq_exhausted_iff notEnded).not.mp further)
  have inOutline : last.outline.candidates[identity]? = some candidate.untimed :=
    candidate_share found
  obtain ⟨untimed, isUntimed, _, onTimetable⟩ := onTimetable_run sound accepted run
  obtain rfl := Option.some.inj (inOutline.symm.trans isUntimed)
  obtain ⟨sameInterval, sameSlot⟩ := onTimetable notEnded notExhausted
  rw [Policy.slotAfter_eq defined] at sameInterval sameSlot
  refine ⟨sameInterval, fun neverResumed => congrArg Slot.due (sameSlot neverResumed), ?_⟩
  intro move after moved noneCompletes
  obtain ⟨later, isLater, movesOn⟩ := movesOn_move (registered.run run) moved inOutline
  obtain ⟨timed, isTimed, rfl⟩ := exists_candidate isLater
  have stays := movesOn.still (by rw [noneCompletes, Multiset.card_zero])
  exact ⟨timed, isTimed, stays.trans sameInterval⟩

end Service

namespace Sample

/-- A message is resent long before it is due, then by a call that looks ahead, then from the
queue, and once more while its sequence is suspended. -/
def drivenInTurn : List Move :=
  List.flatten
    [[.command (.request none (.attempt sequence 1))], List.replicate 4 (.step 0),
      [.command (.request none (.driveDue 9000000000))], List.replicate 5 (.step 0),
      [.wait 21000000000, .command (.request none (.runDue 21000000000))],
      List.replicate 5 (.step 0),
      [.command (.prepare (sequence, 1) [{ takes := 5, failure := none }]),
        .command (.request none (.attempt sequence 1)), .step 0, .step 0,
        .command (.suspend sequence), .wait 21001000000, .rouse 0 0, .step 0]]

end Sample

namespace Service

/-- Three resends count for the timetable, however they were driven. -/
theorem keeps_timetable_of_drivenInTurn :
    ∃ service candidate,
      Run ((Sample.service .byQueue).carryOut (.add (Sample.message 1 none)))
        Sample.drivenInTurn service ∧
      service.world.candidate? 0 = some candidate ∧
      candidate.status.phase = .suspended ∧ candidate.status.retries = 4 ∧
      countUnsuspended 0 Sample.drivenInTurn
        ((Sample.service .byQueue).carryOut (.add (Sample.message 1 none))) = 3 ∧
      candidate.status.interval = 48000000000 ∧ candidate.status.next = 45000000000 := by
  obtain ⟨service, followed, looks⟩ := Option.bind_eq_some_iff.mp
    (rfl : ((follow Sample.drivenInTurn
        ((Sample.service .byQueue).carryOut (.add (Sample.message 1 none)))).bind fun service =>
      (service.world.candidate? 0).map fun candidate =>
        (candidate.status.phase, candidate.status.retries)) = some (.suspended, 4))
  obtain ⟨candidate, found, seen⟩ := Option.map_eq_some_iff.mp looks
  obtain ⟨phase, retries⟩ := Prod.mk.inj seen
  have run := Run.of_follow followed
  have counted : countUnsuspended 0 Sample.drivenInTurn
      ((Sample.service .byQueue).carryOut (.add (Sample.message 1 none))) = 3 := rfl
  obtain ⟨interval, next, _⟩ := keeps_timetable (Sample.isInitial_service .byQueue) .start rfl run
    found (by rw [phase]; rfl) (by rw [phase]; decide)
    (by rw [counted]; decide +kernel : _ = some 48000000000)
  refine ⟨service, candidate, run, found, phase, retries, counted, interval, ?_⟩
  rw [next (by decide +kernel), counted]
  decide +kernel

end Service

end Redelivery
