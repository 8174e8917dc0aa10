import Redelivery.Proofs.Limits
import Redelivery.Proofs.Reregistration

/-!
# The course of a life

The life of a message goes one way.  Its count never falls, exhaustion is left for an end only,
and an end is final: whatever a late resend, a skipped one or a resumption does to a message that
has ended, it stays where it was, without a timer and without its payload.  A message without an
address never takes part in anything.
-/

namespace Redelivery

/-! ## Growing older -/

/-- What time does to a candidate. -/
structure Candidate.Ages (candidate later : Candidate) : Prop where
  retries : candidate.retries ≤ later.retries
  exhausted : candidate.exhausted = true → later.exhausted = true
  /-- The message is never replaced by another one. -/
  message : later.message = candidate.message ∨ later.message = none

namespace Candidate

theorem Ages.refl (candidate : Candidate) : candidate.Ages candidate :=
  ⟨Nat.le_refl _, id, .inl rfl⟩

theorem Ages.trans {first second third : Candidate} (earlier : first.Ages second)
    (later : second.Ages third) : first.Ages third where
  retries := Nat.le_trans earlier.retries later.retries
  exhausted := later.exhausted ∘ earlier.exhausted
  message := by
    rcases later.message with kept | gone
    · rw [kept]
      exact earlier.message
    · exact .inr gone

theorem ages_handedOver (candidate : Candidate) : candidate.Ages candidate.handedOver :=
  ⟨Nat.le_refl _, id, .inl rfl⟩

theorem ages_abandon (candidate : Candidate) (requestAck : Bool) :
    candidate.Ages (candidate.abandon requestAck) :=
  ⟨Nat.le_refl _, id, .inl rfl⟩

/-- The count stops at the largest number there is, and does not fall behind it. -/
theorem ages_completed {candidate : Candidate} (capped : candidate.retries ≤ greatestRetries)
    (now : Nat) : candidate.Ages (candidate.completed now) := by
  have sameMessage : (candidate.completed now).message = candidate.message := by
    obtain ⟨retries, previous, next, interval, exhausted, completed⟩ := completed_eq now candidate
    rw [completed]
  by_cases active : candidate.ending = none
  · obtain ⟨counted, flag⟩ := completed_of_active active now
    refine ⟨?_, ?_, .inl sameMessage⟩
    · rw [counted]
      omega
    · intro exhausted
      rw [flag, exhausted, Bool.true_or]
  · rw [completed_of_ended active]
    exact ⟨Nat.le_refl _, id, .inl rfl⟩

theorem ages_finished (ending : Ending) (candidate : Candidate) :
    candidate.Ages (candidate.finished ending) :=
  ⟨Nat.le_refl _, id, .inr rfl⟩

theorem ages_paused (candidate : Candidate) : candidate.Ages candidate.paused := by
  obtain ⟨suspended, paused, _⟩ := paused_eq candidate
  rw [paused]
  exact ⟨Nat.le_refl _, id, .inl rfl⟩

theorem ages_woken (now : Nat) (candidate : Candidate) : candidate.Ages (candidate.woken now) := by
  obtain ⟨next, requestAck, woken⟩ := woken_eq now candidate
  rw [woken]
  exact ⟨Nat.le_refl _, id, .inl rfl⟩

end Candidate

namespace Share

open Candidate

/-- Every turn makes a candidate older, as long as its count is one that can be written down. -/
theorem Turn.ages {now : Nat} {before after : Share} (turn : Turn now before after)
    {candidate : Candidate} (found : before.candidate = some candidate)
    (capped : candidate.retries ≤ greatestRetries) :
    ∃ later, after.candidate = some later ∧ candidate.Ages later := by
  have spans : SpansTurns now fun candidate later =>
      candidate.retries ≤ greatestRetries → candidate.Ages later :=
    { refl := fun candidate _ => .refl candidate
      handedOver := fun candidate _ => ages_handedOver candidate
      completed := fun _ capped => ages_completed capped now
      abandoned := fun requestAck candidate _ => ages_abandon candidate requestAck
      finished := fun ending candidate _ => ages_finished ending candidate
      paused := fun candidate _ => ages_paused candidate
      woken := fun candidate _ => ages_woken now candidate }
  obtain ⟨later, isLater, ages⟩ := turn.spans spans found
  exact ⟨later, isLater, ages capped⟩

/-- A message without an address has no errand, and no resend of it was ever counted. -/
def IsUnsent (share : Share) : Prop :=
  ∀ candidate, share.candidate = some candidate → candidate.addressable = false →
    share.errands = 0 ∧ candidate.retries = 0

theorem isUnsent_none {errands : Multiset Errand} : IsUnsent ⟨none, errands, []⟩ := by
  rintro _ ⟨⟩

theorem isUnsent_some {candidate former : Candidate} {errands : Multiset Errand}
    {resends more : List Resend} (unsent : IsUnsent ⟨some former, errands, resends⟩)
    (sameAddress : candidate.addressable = former.addressable)
    (sameRetries : candidate.retries = former.retries) :
    IsUnsent ⟨some candidate, errands, more⟩ := by
  rintro found isFound unaddressable
  obtain rfl := Option.some.inj isFound
  rw [sameRetries]
  exact unsent former rfl (sameAddress ▸ unaddressable)

/-- Where there is an errand, there is an address, and whatever comes of the errand is of no
concern. -/
theorem isUnsent_of_errand {candidate former : Candidate} {errand : Errand}
    {errands others : Multiset Errand} {resends more : List Resend}
    (unsent : IsUnsent ⟨some former, errand ::ₘ errands, resends⟩)
    (sameAddress : candidate.addressable = former.addressable) :
    IsUnsent ⟨some candidate, others, more⟩ := by
  rintro found isFound unaddressable
  obtain rfl := Option.some.inj isFound
  have noErrand := (unsent former rfl (sameAddress ▸ unaddressable)).1
  exact absurd noErrand (Multiset.cons_ne_zero)

theorem addressable_completed (now : Nat) (candidate : Candidate) :
    (candidate.completed now).addressable = candidate.addressable :=
  congrArg Origin.addressable (persists_completed now candidate).origin

/-- No turn gives a message without an address anything to do. -/
theorem IsUnsent.turn {now : Nat} {before after : Share} (sound : before.Sound)
    (unsent : before.IsUnsent) (turn : Turn now before after) : after.IsUnsent := by
  cases turn with
  | step step =>
      cases step with
      | quiet => exact unsent
      | handOver identity free held =>
          rintro found isFound unaddressable
          obtain rfl := Option.some.inj isFound
          have addressable := (isFree_eq_true_iff.mp free).2.2.2.2.2
          exact absurd (unaddressable.symm.trans addressable) Bool.false_ne_true
      | begin may => exact isUnsent_of_errand unsent rfl
      | deliver may => exact isUnsent_of_errand unsent (addressable_completed now _)
      | @conclude job candidate errands resends =>
          cases candidate with
          | none => rintro found ⟨⟩
          | some candidate => exact isUnsent_of_errand unsent (addressable_completed now _)
      | @skip job candidate errands resends refused =>
          cases candidate with
          | none => rintro found ⟨⟩
          | some candidate => exact isUnsent_of_errand unsent rfl
      | finish ending => exact isUnsent_some unsent rfl rfl
  | enroll routing suspended message =>
      rintro found isFound _
      obtain rfl := Option.some.inj isFound
      exact ⟨sound.vacant rfl, rfl⟩
  | @suspend candidate =>
      obtain ⟨suspended, paused, _⟩ := paused_eq candidate
      rw [paused]
      exact isUnsent_some unsent rfl rfl
  | @wake candidate =>
      obtain ⟨next, requestAck, woken⟩ := woken_eq now candidate
      rw [woken]
      exact isUnsent_some unsent rfl rfl

end Share

/-! ## Timers -/

namespace Registry

/-- A candidate for which no task can wait holds no ticket. -/
theorem Booked.timer_eq_none {registry : Registry} (booked : registry.Booked)
    (timed : registry.Timed) {identity : Nat} {candidate : Candidate}
    (found : registry.candidate? identity = some candidate)
    (idle : ∀ entry, ¬ candidate.Awaits entry) : candidate.timer = none := by
  by_contra holds
  obtain ⟨ticket, isTimer⟩ := Option.ne_none_iff_exists'.mp holds
  obtain ⟨due, present⟩ := timed.armed identity candidate ticket found isTimer
  obtain ⟨other, isOther, awaits⟩ := booked _ present
  obtain rfl := Option.some.inj (found.symm.trans isOther)
  exact idle _ awaits

end Registry

namespace Service

/-! ## Runs -/

/-- The count of a candidate is one that can be written down. -/
theorem capped_run {first last : Service} {moves : List Move} (initial : first.IsInitial)
    (run : Run first moves last) {identity : Nat} {candidate : Candidate}
    (found : last.outline.candidates[identity]? = some candidate) :
    candidate.retries ≤ Candidate.greatestRetries := by
  have counted := retriesOf_run initial run identity
  rw [Outline.retriesOf, found] at counted
  exact counted.trans_le (Nat.min_le_right _ _)

/-- A message without an address stays out of everything. -/
theorem isUnsent_run {first last : Service} {moves : List Move} (initial : first.IsInitial)
    (run : Run first moves last) (identity : Nat) : (last.outline.share identity).IsUnsent :=
  share_run Share.isUnsent_none Share.IsUnsent.turn initial run identity

/-- Candidates grow older in the course of a run. -/
theorem ages_run {first middle last : Service} {early late : List Move} {identity : Nat}
    {candidate : Candidate} (initial : first.IsInitial) (toMiddle : Run first early middle)
    (found : middle.outline.candidates[identity]? = some candidate) (run : Run middle late last) :
    ∃ later, last.outline.candidates[identity]? = some later ∧ candidate.Ages later ∧
      candidate.Persists later := by
  induction run with
  | start => exact ⟨candidate, found, .refl candidate, .refl candidate⟩
  | extend run moved inductionHypothesis =>
      obtain ⟨between, isBetween, ages, persists⟩ := inductionHypothesis
      have soFar := toMiddle.trans run
      have turn := (turn_move (initial.sound.run soFar).tidy moved).2.2 identity
      obtain ⟨later, isLater, older⟩ := turn.ages isBetween (capped_run initial soFar isBetween)
      obtain ⟨same, isSame, further⟩ := turn.persists isBetween
      obtain rfl := Option.some.inj (isLater.symm.trans isSame)
      exact ⟨later, isLater, ages.trans older,
        further.origin.trans persists.origin,
        fun ending ended => further.ending ending (persists.ending ending ended)⟩

/-! ## The main result -/

/-- What a candidate has come to since an earlier moment. -/
structure HasGoneOn (service : Service) (identity : Nat) (former candidate : Candidate) :
    Prop where
  retries : former.status.retries ≤ candidate.status.retries
  /-- The message is held until the end, and is the same all the time. -/
  held : candidate.message = none ↔ candidate.phase.isTerminal = true
  message : ∀ message, candidate.message = some message → former.message = some message
  /-- Exhaustion leads to an end only. -/
  exhausted : former.phase = .exhausted →
    candidate.phase = .exhausted ∨ candidate.phase.isTerminal = true
  /-- The first end stands, and all that can still be seen to change is the mark of
  suspension. -/
  ended : former.phase.isTerminal = true →
    candidate.status = { former.status with suspended := candidate.suspended }
  /-- Whoever has ended has nothing left to do, and neither has a message without an
  address. -/
  idle : candidate.phase.isTerminal = true ∨ candidate.addressable = false →
    candidate.pending = false ∧ candidate.timer = none ∧ service.world.IsClear identity
  unsent : former.addressable = false →
    candidate.addressable = false ∧ candidate.status.retries = 0

theorem ending_of_isTerminal {candidate : Candidate}
    (terminal : candidate.phase.isTerminal = true) : candidate.ending ≠ none := by
  rw [candidate.isTerminal_phase, Option.isSome_iff_ne_none] at terminal
  exact terminal

/-- A candidate that has ended, or cannot be reached, waits for nothing. -/
theorem IsBooked.idle {service : Service} (isBooked : service.IsBooked) {identity : Nat}
    {candidate : Candidate} (found : service.world.candidate? identity = some candidate)
    (done : candidate.phase.isTerminal = true ∨ candidate.addressable = false) :
    candidate.pending = false ∧ candidate.timer = none ∧ service.world.IsClear identity := by
  have idle (entry : Schedule.Entry Alarm) : ¬ candidate.Awaits entry := by
    intro awaits
    rcases done with terminal | unaddressable
    · exact ending_of_isTerminal terminal awaits.active
    · have wants := awaits.wants
      simp [Candidate.wantsTimer, unaddressable] at wants
  refine ⟨?_, isBooked.booked.timer_eq_none isBooked.isTimed.timed found idle, ?_⟩
  · have sound := (isBooked.sound.share identity).candidate _ (candidate_share found)
    rw [← Bool.not_eq_true]
    intro pending
    obtain ⟨active, _, addressable⟩ := sound.busy pending
    rcases done with terminal | unaddressable
    · exact ending_of_isTerminal terminal active
    · exact absurd (unaddressable.symm.trans addressable) Bool.false_ne_true
  · apply isBooked.booked.isClear
    intro other entry isOther
    obtain rfl := Option.some.inj (found.symm.trans isOther)
    exact idle entry

/-- What can be seen of a candidate that has ended is what could be seen of it at its end, the
mark of suspension apart. -/
theorem status_of_rests {former candidate : Candidate} (rests : former.Rests candidate)
    (ended : former.ending ≠ none) (samePolicy : candidate.policy = former.policy)
    (samePending : candidate.pending = former.pending) :
    candidate.status = { former.status with suspended := candidate.suspended } := by
  have samePhase : candidate.phase = former.phase := by
    obtain ⟨ending, isEnding⟩ := Option.ne_none_iff_exists'.mp ended
    rw [Candidate.phase, Candidate.phase, rests.ending, isEnding]
    cases ending <;> rfl
  simp only [Candidate.status, rests.retries, rests.next, rests.previous, rests.interval,
    samePolicy, samePending, samePhase]

/-- The life of a message goes one way, whatever timers, resends, skipped resends, suspensions
and resumptions come after its end.  The first end stands, and with it the count and the place
in the schedule; from then on there is neither a payload nor a timer nor a pending resend.  The
payload is there until then, exhaustion is left for an end only, counts never fall, and a
message without an address is never pending, armed or counted. -/
theorem life_one_way {first middle last : Service} {early late : List Move} {identity : Nat}
    {former : Candidate} (initial : first.IsInitial) (toMiddle : Run first early middle)
    (found : middle.world.candidate? identity = some former) (run : Run middle late last) :
    ∃ candidate, last.world.candidate? identity = some candidate ∧
      last.HasGoneOn identity former candidate := by
  have isBooked : last.IsBooked := IsReachable.isBooked ⟨first, _, initial, toMiddle.trans run⟩
  have wasBooked : middle.IsBooked := IsReachable.isBooked ⟨first, _, initial, toMiddle⟩
  obtain ⟨untimed, isUntimed, ages, persists⟩ :=
    ages_run initial toMiddle (candidate_share found) run
  obtain ⟨candidate, isCandidate, rfl⟩ := exists_candidate isUntimed
  have sound := (isBooked.sound.share identity).candidate _ (candidate_share isCandidate)
  have idle := isBooked.idle isCandidate
  refine ⟨candidate, isCandidate, ?_⟩
  refine
    { retries := ages.retries
      held := ?_
      message := ?_
      exhausted := ?_
      ended := ?_
      idle := idle
      unsent := ?_ }
  · rw [candidate.isTerminal_phase, Option.isSome_iff_ne_none]
    exact sound.kept
  · intro message held
    rcases ages.message with kept | gone
    · exact kept.symm.trans held
    · exact absurd (gone.symm.trans held) (Option.some_ne_none message).symm
  · intro exhausted
    have wasActive : former.ending = none :=
      Candidate.ending_eq_none_of_phase (by rw [exhausted]; rfl)
    have flag := ages.exhausted ((Candidate.phase_eq_exhausted_iff wasActive).mp exhausted)
    by_cases active : candidate.ending = none
    · exact .inl ((Candidate.phase_eq_exhausted_iff active).mpr flag)
    · right
      rw [candidate.isTerminal_phase, Option.isSome_iff_ne_none]
      exact active
  · intro terminal
    have ended := ending_of_isTerminal terminal
    obtain ⟨later, isLater, rests⟩ :=
      (rests_run wasBooked.sound (candidate_share found) ended run).2
    obtain rfl := Option.some.inj (isUntimed.symm.trans isLater)
    have stillEnded : candidate.phase.isTerminal = true := by
      rw [candidate.isTerminal_phase, Option.isSome_iff_ne_none]
      exact rests.ending ▸ ended
    refine status_of_rests ⟨rests.retries, rests.next, rests.previous, rests.interval,
      rests.ending⟩ ended persists.policy ?_
    rw [(idle (.inl stillEnded)).1, (wasBooked.idle found (.inl terminal)).1]
  · intro unaddressable
    have still : candidate.addressable = false :=
      (congrArg Origin.addressable persists.origin).trans unaddressable
    exact ⟨still, (isUnsent_run initial (toMiddle.trans run) identity _
      (candidate_share isCandidate) still).2⟩

end Service

namespace Sample

/-- A message that may be resent once is given up while its resend is under way, in a sequence
that is suspended. -/
def givenUpLate : List Move :=
  [.command (.prepare (sequence, 1) [{ takes := 5, failure := none }]),
    .command (.add (limitedMessage 1)), .command (.request none (.attempt sequence 1)), .step 0,
    .step 0, .command (.suspend sequence), .command (.stop sequence)]

/-- The sequence is resumed, the resend completes, and the message is given up and acknowledged
once more. -/
def aftermath : List Move :=
  [.command (.resume sequence), .wait 1000000, .rouse 0 0, .step 0, .command (.stop sequence),
    .command (.purgeAcknowledged sequence fun _ => true)]

end Sample

namespace Service

/-- The message was given up first, and counts no resend. -/
theorem life_one_way_of_givenUpLate :
    ∃ middle former last candidate,
      Run (Sample.service .byQueue) Sample.givenUpLate middle ∧
      middle.world.candidate? 0 = some former ∧ Run middle Sample.aftermath last ∧
      former.phase = .cancelled ∧ former.suspended = true ∧
      last.world.candidate? 0 = some candidate ∧ candidate.suspended = false ∧
      candidate.status = { former.status with suspended := false } ∧
      candidate.phase = .cancelled ∧ candidate.retries = 0 ∧ candidate.message = none := by
  have course : ((follow Sample.givenUpLate (Sample.service .byQueue)).bind fun middle =>
      (middle.world.candidate? 0).bind fun former =>
        (follow Sample.aftermath middle).map fun last =>
          (former.phase, former.suspended, former.retries,
            (last.world.candidate? 0).map Candidate.suspended)) =
      some (.cancelled, true, 0, some false) := by
    decide +kernel
  obtain ⟨middle, toMiddle, fromMiddle⟩ := Option.bind_eq_some_iff.mp course
  obtain ⟨former, isFormer, fromFormer⟩ := Option.bind_eq_some_iff.mp fromMiddle
  obtain ⟨last, toLast, looks⟩ := Option.map_eq_some_iff.mp fromFormer
  simp only [Prod.mk.injEq, Option.map_eq_some_iff] at looks
  obtain ⟨cancelled, suspended, uncounted, later, isLater, resumed⟩ := looks
  obtain ⟨candidate, isCandidate, goneOn⟩ :=
    life_one_way (Sample.isInitial_service .byQueue) (.of_follow toMiddle) isFormer
      (.of_follow toLast)
  obtain rfl := Option.some.inj (isLater.symm.trans isCandidate)
  have terminal : former.phase.isTerminal = true := by
    rw [cancelled]
    rfl
  have same := goneOn.ended terminal
  have samePhase : later.phase = .cancelled := (congrArg RetryStatus.phase same).trans cancelled
  refine ⟨middle, former, last, later, .of_follow toMiddle, isFormer, .of_follow toLast, cancelled,
    suspended, isCandidate, resumed, resumed ▸ same, samePhase,
    (congrArg RetryStatus.retries same).trans uncounted, goneOn.held.mpr ?_⟩
  rw [samePhase]
  rfl

end Service

end Redelivery
