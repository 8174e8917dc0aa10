import Redelivery.Proofs.Undisturbed

/-!
# Punctual resends

A message that is left to its timer on a clock that skips nothing is resent on time: each
resend begins when it is due on the timetable, or when the one before it has completed, if
that is later.  Completing late does not move the timetable, so that a message catches up
without a resend more or less.
-/

namespace Redelivery

/-! ## When resends are to begin -/

/-- The instant at which the resend after so many others is to begin, for a message that was
registered at an instant: when it is due, or when the one before it has completed, if that is
later.  There is none beyond the limit, and none before the one before it has completed. -/
def Policy.beginsAt (policy : Policy) (registered : Nat) (completions : List Nat) (count : Nat) :
    Option Nat :=
  if policy.shouldRetry count then
    ((registered :: completions)[count]?).map (max (policy.dueAt registered count))
  else none

/-- No interval of a timetable has overflowed up to a resend, and its due instants up to there
are ones at which timers wake. -/
def Policy.IsRegularUpTo (policy : Policy) (registered count : Nat) : Prop :=
  ∀ earlier ≤ count, policy.shouldRetry earlier = true →
    (policy.intervalAt earlier).isSome = true ∧
      Time.nanosPerMilli ∣ policy.dueAt registered earlier

instance (policy : Policy) (registered count : Nat) :
    Decidable (policy.IsRegularUpTo registered count) :=
  inferInstanceAs (Decidable (∀ earlier ≤ count, _))

/-- A timer that is set for a whole millisecond wakes on time. -/
theorem Time.wake_of_dvd {instant : Nat} (whole : nanosPerMilli ∣ instant) :
    wake instant = instant := by
  obtain ⟨millis, rfl⟩ := whole
  rw [Nat.mul_comm]
  exact wake_ofMillis millis

namespace Policy

theorem IsRegularUpTo.mono {policy : Policy} {registered count fewer : Nat}
    (regular : policy.IsRegularUpTo registered count) (less : fewer ≤ count) :
    policy.IsRegularUpTo registered fewer :=
  fun earlier within => regular earlier (within.trans less)

/-- Whether there may be another resend can be told from the number of retries, although only
so many are counted. -/
theorem shouldRetry_min {policy : Policy}
    (capped : ∀ most, policy.limit = .limited most → most ≤ RetryLimit.greatest) (count : Nat) :
    policy.shouldRetry (min count Candidate.greatestRetries) = policy.shouldRetry count := by
  unfold shouldRetry RetryLimit.allows
  split
  · rfl
  · next most limit =>
      have atMost : most ≤ Candidate.greatestRetries := capped most limit
      exact decide_eq_decide.mpr (by omega)

/-- Later completions do not matter. -/
theorem beginsAt_append {policy : Policy} {registered count instant : Nat} {completions : List Nat}
    (begins : policy.beginsAt registered completions count = some instant) (more : List Nat) :
    policy.beginsAt registered (completions ++ more) count = some instant := by
  unfold beginsAt at begins ⊢
  split at begins
  · next allowed =>
      obtain ⟨freed, isFreed, rfl⟩ := Option.map_eq_some_iff.mp begins
      have inside := (List.getElem?_eq_some_iff.mp isFreed).1
      rw [if_pos allowed, ← List.cons_append, List.getElem?_append_left inside, isFreed,
        Option.map_some]
  · cases begins

/-- There is at most one more resend than have completed. -/
theorem le_length_of_beginsAt {policy : Policy} {registered count instant : Nat}
    {completions : List Nat}
    (begins : policy.beginsAt registered completions count = some instant) :
    policy.shouldRetry count = true ∧ count ≤ completions.length ∧
      policy.dueAt registered count ≤ instant := by
  unfold beginsAt at begins
  split at begins
  · next allowed =>
      obtain ⟨freed, isFreed, rfl⟩ := Option.map_eq_some_iff.mp begins
      exact ⟨allowed, Nat.le_of_lt_succ (List.getElem?_eq_some_iff.mp isFreed).1,
        Nat.le_max_left _ _⟩
  · cases begins

/-- The resend after all that have completed begins when it is due, or when the last of them has
completed. -/
theorem beginsAt_length {policy : Policy} {completions : List Nat}
    (allowed : policy.shouldRetry completions.length = true) (registered : Nat) :
    ∃ freed ∈ registered :: completions,
      policy.beginsAt registered completions completions.length =
        some (max (policy.dueAt registered completions.length) freed) := by
  have inside : completions.length < (registered :: completions).length := Nat.lt_succ_self _
  refine ⟨(registered :: completions)[completions.length], List.getElem_mem inside, ?_⟩
  rw [beginsAt, if_pos allowed, List.getElem?_eq_getElem inside, Option.map_some]

/-- Each of these instants is the one at which its resend was to begin. -/
def AreOnTime (policy : Policy) (registered : Nat) (completions begun : List Nat) : Prop :=
  ∀ count instant, begun[count]? = some instant →
    policy.beginsAt registered completions count = some instant

theorem AreOnTime.append {policy : Policy} {registered : Nat} {completions begun : List Nat}
    (areOnTime : policy.AreOnTime registered completions begun) (more : List Nat) :
    policy.AreOnTime registered (completions ++ more) begun :=
  fun count instant isBegun => beginsAt_append (areOnTime count instant isBegun) more

/-- One more resend begins on time. -/
theorem AreOnTime.concat {policy : Policy} {registered now : Nat} {completions begun : List Nat}
    (areOnTime : policy.AreOnTime registered completions begun)
    (onTime : policy.beginsAt registered completions begun.length = some now) :
    policy.AreOnTime registered completions (begun ++ [now]) := by
  intro count instant isBegun
  rcases Nat.lt_or_ge count begun.length with before | past
  · rw [List.getElem?_append_left before] at isBegun
    exact areOnTime count instant isBegun
  · rw [List.getElem?_append_right past, List.getElem?_singleton] at isBegun
    split at isBegun
    · next last =>
        obtain rfl : count = begun.length := by omega
        rw [← isBegun, onTime]
    · cases isBegun

/-! ### Resends that take no time -/

/-- Due instants come one after the other. -/
theorem dueAt_le_succ (policy : Policy) (registered count : Nat) :
    policy.dueAt registered count ≤ policy.dueAt registered (count + 1) := by
  rw [dueAt, dueAt, Finset.sum_range_succ, ← Nat.add_assoc]
  exact Nat.le_add_right _ _

theorem shouldRetry_of_succ {policy : Policy} {count : Nat}
    (allowed : policy.shouldRetry (count + 1) = true) : policy.shouldRetry count = true := by
  unfold shouldRetry RetryLimit.allows at allowed ⊢
  split at allowed
  · rfl
  · exact decide_eq_true (Nat.lt_of_succ_lt (of_decide_eq_true allowed))

/-- The first resend begins when it is due. -/
theorem beginsAt_zero {policy : Policy} (allowed : policy.shouldRetry 0 = true)
    (registered : Nat) (completions : List Nat) :
    policy.beginsAt registered completions 0 = some (policy.dueAt registered 0) := by
  rw [beginsAt, if_pos allowed, List.getElem?_cons_zero, Option.map_some, dueAt_zero,
    Nat.max_eq_left (Nat.le_add_right _ _)]

/-- A resend after one that completed when it was due begins when it is due itself. -/
theorem beginsAt_succ_of_due {policy : Policy} {registered count : Nat} {completions : List Nat}
    (allowed : policy.shouldRetry (count + 1) = true)
    (completed : completions[count]? = some (policy.dueAt registered count)) :
    policy.beginsAt registered completions (count + 1) =
      some (policy.dueAt registered (count + 1)) := by
  rw [beginsAt, if_pos allowed, List.getElem?_cons_succ, completed, Option.map_some,
    Nat.max_eq_left (policy.dueAt_le_succ registered count)]

/-- Resends that complete at once begin when they are due. -/
theorem AreOnTime.eq_dueAt {policy : Policy} {registered : Nat} {begun : List Nat}
    (areOnTime : policy.AreOnTime registered begun begun) {count instant : Nat}
    (isBegun : begun[count]? = some instant) : instant = policy.dueAt registered count := by
  induction count generalizing instant with
  | zero =>
      have begins := areOnTime 0 instant isBegun
      rw [beginsAt_zero (le_length_of_beginsAt begins).1] at begins
      exact (Option.some.inj begins).symm
  | succ count inductionHypothesis =>
      have inside := (List.getElem?_eq_some_iff.mp isBegun).1
      have before := List.getElem?_eq_getElem (Nat.lt_of_succ_lt inside)
      have begins := areOnTime (count + 1) instant isBegun
      rw [beginsAt_succ_of_due (le_length_of_beginsAt begins).1
        (before.trans (congrArg some (inductionHypothesis before)))] at begins
      exact (Option.some.inj begins).symm

/-- If every resend has begun that was to begin by an instant, and completes at once, all those
have begun that were due by then. -/
theorem AreOnTime.begun_of_due {policy : Policy} {registered instant : Nat} {begun : List Nat}
    (areOnTime : policy.AreOnTime registered begun begun)
    (complete : ∀ count begins, policy.beginsAt registered begun count = some begins →
      begins ≤ instant → ∃ began, begun[count]? = some began)
    {count : Nat} (allowed : policy.shouldRetry count = true)
    (due : policy.dueAt registered count ≤ instant) :
    begun[count]? = some (policy.dueAt registered count) := by
  have of_begins {count : Nat} (begins : policy.beginsAt registered begun count =
      some (policy.dueAt registered count)) (due : policy.dueAt registered count ≤ instant) :
      begun[count]? = some (policy.dueAt registered count) := by
    obtain ⟨began, isBegun⟩ := complete count _ begins due
    rw [isBegun, areOnTime.eq_dueAt isBegun]
  induction count with
  | zero => exact of_begins (beginsAt_zero allowed registered begun) due
  | succ count inductionHypothesis =>
      have before := inductionHypothesis (shouldRetry_of_succ allowed)
        ((policy.dueAt_le_succ registered count).trans due)
      exact of_begins (beginsAt_succ_of_due allowed before) due

end Policy

/-! ## Messages on time -/

/-- The instants at which resends began, oldest first. -/
def instantsOf (resends : List Resend) : List Nat :=
  (resends.map Resend.instant).reverse

theorem instantsOf_cons (resend : Resend) (resends : List Resend) :
    instantsOf (resend :: resends) = instantsOf resends ++ [resend.instant] := by
  simp [instantsOf]

theorem length_instantsOf (resends : List Resend) :
    (instantsOf resends).length = resends.length := by
  simp [instantsOf]

namespace Share

/-- A message is on time at an instant: its resends began when they were to begin, and the next
one is still to come, unless it is about to begin right now. -/
structure IsOnTime (policy : Policy) (registered : Nat) (completions : List Nat) (now : Nat)
    (candidate : Candidate) (share : Share) : Prop where
  found : share.candidate = some candidate
  past : policy.AreOnTime registered completions (instantsOf share.resends)
  even : share.resends.length = completions.length + countUnderWay share.errands
  reached : ∀ freed ∈ registered :: completions, freed ≤ now
  retries : candidate.retries = min completions.length Candidate.greatestRetries
  soon : candidate.pending = false → ∀ next,
    policy.beginsAt registered completions completions.length = some next → now ≤ next
  here : candidate.pending = true → countUnderWay share.errands = 0 →
    policy.beginsAt registered completions completions.length = some now

variable {policy : Policy} {registered now : Nat} {completions : List Nat}

/-- The next resend after one that completes now is not to begin earlier. -/
theorem isOnTime_completed {candidate : Candidate} {errands : Multiset Errand}
    {resends : List Resend} (active : candidate.ending = none)
    (past : policy.AreOnTime registered completions (instantsOf resends))
    (even : resends.length = completions.length + 1 + countUnderWay errands)
    (reached : ∀ freed ∈ registered :: completions, freed ≤ now)
    (retries : candidate.retries = min completions.length Candidate.greatestRetries) :
    IsOnTime policy registered (completions ++ [now]) now (candidate.completed now)
      ⟨some (candidate.completed now), errands, resends⟩ := by
  obtain ⟨_, _, _, _, _, completed⟩ := candidate.completed_eq now
  have idle : (candidate.completed now).pending = false := by rw [completed]
  refine {
    found := rfl
    past := past.append [now]
    even := by rw [List.length_append, List.length_singleton, even]
    reached := ?_
    retries := ?_
    soon := ?_
    here := fun pending => by cases idle.symm.trans pending }
  · intro freed present
    rcases List.mem_append.mp (List.cons_append ▸ present) with before | last
    · exact reached freed before
    · exact (List.mem_singleton.mp last).le
  · rw [(Candidate.completed_of_active active now).1, retries, List.length_append,
      List.length_singleton]
    omega
  · intro _ next begins
    unfold Policy.beginsAt at begins
    split at begins
    · rw [List.length_append, List.length_singleton, List.getElem?_cons_succ,
        List.getElem?_concat_length, Option.map_some] at begins
      exact (Nat.le_max_right _ _).trans (Option.some.inj begins).le
    · cases begins

/-- An undisturbed message stays on time while its timer hands over no resend too early or too
late. -/
theorem IsOnTime.goes {before after : Share} {count : Nat} {candidate later : Candidate}
    (onTime : before.IsOnTime policy registered completions now candidate)
    (goes : Goes now before after count) (sound : before.Sound)
    (isLater : after.candidate = some later) (active : candidate.ending = none)
    (timely : candidate.pending = false → later.pending = true →
      policy.beginsAt registered completions completions.length = some now) :
    after.IsOnTime policy registered (completions ++ List.replicate count now) now later := by
  obtain ⟨found, past, even, reached, retries, soon, here⟩ := onTime
  cases goes with
  | quiet =>
      obtain rfl := Option.some.inj (found.symm.trans isLater)
      rw [List.replicate_zero, List.append_nil]
      exact ⟨found, past, even, reached, retries, soon, here⟩
  | handOver identity free held =>
      cases found
      cases isLater
      rw [List.replicate_zero, List.append_nil]
      exact {
        found := rfl
        past
        even := by rwa [countUnderWay_waiting]
        reached
        retries
        soon := fun idle => by cases idle
        here := fun pending _ => timely (Candidate.isFree_eq_true_iff.mp free).1 pending }
  | begin may =>
      cases found
      cases isLater
      obtain rfl := Multiset.card_eq_zero.mp (sound.card_rest active)
      have pending := (Candidate.maySend_eq_true_iff.mp may).1
      have single : countUnderWay 0 = 0 := rfl
      rw [countUnderWay_waiting, single] at even here
      rw [List.replicate_zero, List.append_nil]
      refine {
        found := rfl
        past := ?_
        even := by rw [List.length_cons, even, countUnderWay_underWay, single]
        reached
        retries
        soon := fun idle => by cases pending.symm.trans idle
        here := fun _ none =>
          absurd ((countUnderWay_underWay _ 0).symm.trans none) (Nat.succ_ne_zero _) }
      rw [instantsOf_cons]
      refine past.concat ?_
      rw [length_instantsOf, even]
      exact here pending rfl
  | deliver may =>
      cases found
      cases isLater
      obtain rfl := Multiset.card_eq_zero.mp (sound.card_rest active)
      have pending := (Candidate.maySend_eq_true_iff.mp may).1
      have single : countUnderWay 0 = 0 := rfl
      rw [countUnderWay_waiting, single] at even here
      refine isOnTime_completed active ?_ ?_ reached retries
      · rw [instantsOf_cons]
        refine past.concat ?_
        rw [length_instantsOf, even]
        exact here pending rfl
      · rw [List.length_cons, even, single]
  | conclude =>
      cases found
      cases isLater
      rw [countUnderWay_underWay] at even
      refine isOnTime_completed active past ?_ reached retries
      rw [even]
      omega

/-- It stays so while time passes, but not beyond the instant at which its next resend is to
begin, nor while one is about to begin. -/
theorem IsOnTime.wait {share : Share} {candidate : Candidate} {instant : Nat}
    (onTime : share.IsOnTime policy registered completions now candidate)
    (forward : now ≤ instant)
    (soon : candidate.pending = false → ∀ next,
      policy.beginsAt registered completions completions.length = some next → instant ≤ next)
    (noneWaits : candidate.pending = true → countUnderWay share.errands ≠ 0) :
    share.IsOnTime policy registered completions instant candidate :=
  { onTime with
    reached := fun freed present => (onTime.reached freed present).trans forward
    soon
    here := fun pending none => absurd none (noneWaits pending) }

end Share

namespace Service

open Deed

/-! ## A clock that skips nothing -/

/-- Whether a move lets no instant pass for which an activity waits: time stands still while an
activity is ready, and does not pass the instant at which one wakes up. -/
def skipsNothing (service : Service) : Move → Bool
  | .wait instant =>
      decide (instant ≤ service.now) ||
        (service.ready.isEmpty && service.asleep.all fun sleeper => decide (instant ≤ sleeper.wake))
  | .command _ | .step _ | .rouse _ _ | .reorder _ => true

/-- Whether all that is to happen by now has happened. -/
def isAtRest (service : Service) : Bool :=
  service.ready.isEmpty && service.asleep.all fun sleeper => decide (service.now < sleeper.wake)

/-- All that is to happen by an instant has happened. -/
def HasPassed (service : Service) (instant : Nat) : Prop :=
  instant < service.now ∨ instant = service.now ∧ service.isAtRest = true

/-- The instants at which the resends of a message began, oldest first. -/
def begunAt (service : Service) (identity : Nat) : List Nat :=
  instantsOf (service.begunOf identity)

/-- The course of a message that is left to its timer from its registration on: the clock drives
resends and skips nothing, they run inline, and the timetable of the message is regular as far
as it is reached. -/
structure IsCourse (start : Service) (message : Message) (identity : Nat) (moves : List Move)
    (last : Service) : Prop where
  accepted : (start.world.add start.now message).2 = .ok identity
  run : Run (start.carryOut (.add message)) moves last
  driving : start.world.driving = .byTimers true
  inline : start.world.routing.resolve message.owner = .inline
  addressable : message.destination.isAddressable = true
  capped : ∀ most, message.policy.limit = .limited most → most ≤ RetryLimit.greatest
  undisturbed : IsUndisturbed identity moves (start.carryOut (.add message)) last
  prompt : Throughout (fun service move => service.skipsNothing move = true) moves
    (start.carryOut (.add message))
  regular : message.policy.IsRegularUpTo start.now
    (completedAt identity moves (start.carryOut (.add message))).length

variable {first start last : Service} {early moves : List Move} {message : Message}
  {identity : Nat}

theorem IsCourse.before {middle : Service} {move : Move}
    (course : IsCourse start message identity (moves ++ [move]) last) (isBooked : middle.IsBooked)
    (run : Run (start.carryOut (.add message)) moves middle)
    (moved : middle.move? move = some last) : IsCourse start message identity moves middle :=
  { course with
    run
    undisturbed := course.undisturbed.before run isBooked.sound isBooked.isTimed moved
    prompt := ((throughout_concat run).mp course.prompt).1
    regular := by
      have regular := course.regular
      rw [completedAt_concat run, List.length_append] at regular
      exact regular.mono (Nat.le_add_right _ _) }

/-- The number of resends that have completed tells whether there is another one. -/
theorem IsCourse.exhausted_eq (course : IsCourse start message identity moves last)
    (initial : first.IsInitial) (toStart : Run first early start) {candidate : Candidate}
    (found : last.outline.candidates[identity]? = some candidate)
    (retries : candidate.retries =
      min (completedAt identity moves (start.carryOut (.add message))).length
        Candidate.greatestRetries) :
    candidate.exhausted = !message.policy.shouldRetry
      (completedAt identity moves (start.carryOut (.add message))).length := by
  have toLast := (toStart.extend (rfl : start.move? (.command (.add message)) = _)).trans course.run
  have counted := (tallied_run initial toLast identity).counted candidate found
  obtain ⟨other, isOther, carries⟩ :=
    carries_run (initial.sound.run toStart) course.accepted course.run
  obtain rfl := Option.some.inj (found.symm.trans isOther)
  rw [counted.exhausted, carries.policy, retries, Policy.shouldRetry_min course.capped]

/-- As long as there is another resend, its due instant is the one of the timetable. -/
theorem IsCourse.next_eq (course : IsCourse start message identity moves last)
    (sound : start.Sound) {candidate : Candidate}
    (found : last.outline.candidates[identity]? = some candidate)
    (further : candidate.exhausted = false)
    (allowed : message.policy.shouldRetry
      (completedAt identity moves (start.carryOut (.add message))).length = true) :
    candidate.next = message.policy.dueAt start.now
      (completedAt identity moves (start.carryOut (.add message))).length := by
  obtain ⟨other, isOther, _, onTimetable⟩ := onTimetable_run sound course.accepted course.run
  obtain rfl := Option.some.inj (found.symm.trans isOther)
  have unsuspended := course.undisturbed.unsuspended
  have slot := (onTimetable (course.undisturbed.candidate found).1 further).2
    unsuspended.isNeverResumed
  obtain ⟨interval, defined⟩ :=
    Option.isSome_iff_exists.mp (course.regular _ (Nat.le_refl _) allowed).1
  rw [countUnsuspended_eq course.run unsuspended, ← length_completedAt course.run,
    Policy.slotAfter_eq defined] at slot
  exact congrArg Slot.due slot

/-- A message that is neither pending nor exhausted has a timer that ticks for its next
resend. -/
theorem IsCourse.ticks (course : IsCourse start message identity moves last)
    (isBooked : start.IsBooked) {candidate : Candidate}
    (found : last.outline.candidates[identity]? = some candidate)
    (idle : candidate.pending = false) (further : candidate.exhausted = false)
    (allowed : message.policy.shouldRetry
      (completedAt identity moves (start.carryOut (.add message))).length = true) :
    ∃ entry : Schedule.Entry Alarm, entry.due = message.policy.dueAt start.now
        (completedAt identity moves (start.carryOut (.add message))).length ∧
      last.IsTicking entry := by
  have registered := isBooked.move (rfl : start.move? (.command (.add message)) = _)
  have driving : last.world.driving = .byTimers true := by
    rw [driving_run registered.isTimed course.run, driving_run isBooked.isTimed
      (.single (rfl : start.move? (.command (.add message)) = _)), course.driving]
  have next := course.next_eq isBooked.sound found further allowed
  obtain ⟨other, isOther, carries⟩ := carries_run isBooked.sound course.accepted course.run
  obtain rfl := Option.some.inj (found.symm.trans isOther)
  obtain ⟨active, unsuspended⟩ := course.undisturbed.candidate found
  obtain ⟨timed, isTimed, rfl⟩ := exists_candidate found
  have armed : timed.timer ≠ none := by
    intro timerless
    have wants : timed.untimed.wantsTimer = true := by
      rw [Candidate.wantsTimer, carries.addressable, course.addressable, unsuspended, further]
      rfl
    have overflow := overflow_of_neglected isBooked course.accepted course.run course.driving
      course.undisturbed isTimed ⟨wants, active, idle, timerless⟩
    have defined := (course.regular _ (Nat.le_refl _) allowed).1
    rw [overflow] at defined
    cases defined
  obtain ⟨entry, due, ticking⟩ := (registered.run course.run).ticks driving isTimed armed
  exact ⟨entry, due.trans next, ticking⟩

/-- Where a message that is left to its timer stands: it is on time, and what is to be handed to
the transport now is ready for it. -/
structure IsPunctual (start : Service) (message : Message) (identity : Nat) (moves : List Move)
    (last : Service) (candidate : Candidate) : Prop where
  onTime : (last.outline.share identity).IsOnTime message.policy start.now
    (completedAt identity moves (start.carryOut (.add message))) last.now candidate
  sending : candidate.pending = true →
    countUnderWay (last.outline.share identity).errands = 0 → last.IsSending identity

/-- A timer hands a resend over at the instant at which it is to begin. -/
theorem IsCourse.hands_over (course : IsCourse start message identity moves last)
    (initial : first.IsInitial) (toStart : Run first early start) {after : Service} {move : Move}
    (moved : last.move? move = some after)
    (isTimerDriven : last.handsOver move identity = true → last.rings move = true)
    {candidate : Candidate}
    (onTime : (last.outline.share identity).IsOnTime message.policy start.now
      (completedAt identity moves (start.carryOut (.add message))) last.now candidate)
    {errand : Errand} (waits : (after.outline.share identity).errands =
      errand ::ₘ (last.outline.share identity).errands) :
    message.policy.beginsAt start.now
        (completedAt identity moves (start.carryOut (.add message)))
        (completedAt identity moves (start.carryOut (.add message))).length = some last.now ∧
      after.IsSending identity := by
  have startBooked : start.IsBooked := initial.isBooked.run toStart
  have lastBooked : last.IsBooked :=
    (startBooked.move (rfl : start.move? (.command (.add message)) = _)).run course.run
  have handsOver := handsOver_of_waits lastBooked.sound.tidy moved waits
  obtain ⟨other, held, foreground, found, free, onTimetable, isHeld, delivers⟩ :=
    delivers_of_rings lastBooked moved handsOver (isTimerDriven handsOver)
  obtain rfl : candidate = other := Option.some.inj (onTime.found.symm.trans found)
  obtain ⟨idle, _, active, further, _⟩ := Candidate.isFree_eq_true_iff.mp free
  have exhausted := course.exhausted_eq initial toStart found onTime.retries
  have allowed : message.policy.shouldRetry
      (completedAt identity moves (start.carryOut (.add message))).length = true := by
    rwa [further, eq_comm, Bool.not_eq_false'] at exhausted
  constructor
  · obtain ⟨freed, present, begins⟩ := Policy.beginsAt_length allowed start.now
    have notPast := onTime.soon idle _ begins
    have isFreed := onTime.reached freed present
    rw [course.next_eq startBooked.sound found further allowed] at onTimetable
    rw [begins]
    exact congrArg some (le_antisymm (max_le onTimetable isFreed) notPast)
  · obtain ⟨carrier, isCarrier, carries⟩ :=
      carries_run startBooked.sound course.accepted course.run
    obtain rfl := Option.some.inj (found.symm.trans isCarrier)
    obtain rfl : held = message :=
      Option.some.inj (isHeld.symm.trans (carries.message active))
    have inline : candidate.routing.resolve held.owner = .inline :=
      carries.routing ▸ course.inline
    have isDelivery : Registry.delivery candidate.routing (candidate.job identity held) =
        [.send (candidate.job identity held)] := by
      have sameOwner : (candidate.job identity held).message.owner = held.owner := rfl
      rw [Registry.delivery, sameOwner, inline]
    rw [isDelivery] at delivers
    exact ⟨_, [], foreground, rfl, delivers⟩

/-- As long as nothing is skipped, the next resend of a message is not passed over. -/
theorem IsCourse.onTime_wait (course : IsCourse start message identity moves last)
    (initial : first.IsInitial) (toStart : Run first early start) {candidate : Candidate}
    (isPunctual : IsPunctual start message identity moves last candidate)
    {instant : Nat} (forward : last.now < instant) (ready : last.ready = [])
    (asleep : ∀ sleeper ∈ last.asleep, instant ≤ sleeper.wake) :
    (last.outline.share identity).IsOnTime message.policy start.now
      (completedAt identity moves (start.carryOut (.add message))) instant candidate := by
  obtain ⟨onTime, sending⟩ := isPunctual
  apply onTime.wait forward.le
  · intro idle next begins
    obtain ⟨allowed, _, due⟩ := Policy.le_length_of_beginsAt begins
    have further := course.exhausted_eq initial toStart onTime.found onTime.retries
    rw [allowed, Bool.not_true] at further
    obtain ⟨entry, isDue, ticking⟩ :=
      course.ticks (initial.isBooked.run toStart) onTime.found idle further allowed
    rcases ticking with isReady | isAsleep
    · rw [ready] at isReady
      cases isReady
    · have wake := asleep _ isAsleep
      rw [isDue, Time.wake_of_dvd (course.regular _ (Nat.le_refl _) allowed).2] at wake
      exact wake.trans due
  · intro pending none
    obtain ⟨_, _, _, _, isReady⟩ := sending pending none
    rw [ready] at isReady
    cases isReady

/-- A message is registered on time. -/
theorem isPunctual_start (initial : first.IsInitial) (toStart : Run first early start)
    (accepted : (start.world.add start.now message).2 = .ok identity) :
    IsPunctual start message identity [] (start.carryOut (.add message))
      (Candidate.register start.now start.world.routing
        (start.world.roster.isSuspended message.sequence) message) := by
  refine ⟨?_, nofun⟩
  rw [share_add initial toStart accepted, now_carryOut]
  refine ⟨rfl, ?_, rfl, ?_, (Nat.zero_min _).symm, ?_, nofun⟩
  · rintro count instant ⟨⟩
  · intro freed present
    exact (List.mem_singleton.mp present).le
  · intro _ next begins
    obtain ⟨allowed, _, _⟩ := Policy.le_length_of_beginsAt begins
    obtain ⟨freed, present, isNext⟩ := Policy.beginsAt_length allowed start.now
    obtain rfl := Option.some.inj (begins.symm.trans isNext)
    exact (List.mem_singleton.mp present).symm.le.trans (Nat.le_max_right _ _)

/-- A message stays on time in a move that takes no time. -/
theorem IsCourse.isPunctual_act {middle : Service} {move : Move}
    (course : IsCourse start message identity (moves ++ [move]) last)
    (initial : first.IsInitial) (toStart : Run first early start)
    (run : Run (start.carryOut (.add message)) moves middle)
    (moved : middle.move? move = some last) (sameNow : last.now = middle.now)
    {candidate : Candidate}
    (isPunctual : IsPunctual start message identity moves middle candidate) :
    ∃ later, IsPunctual start message identity (moves ++ [move]) last later := by
  have startBooked : start.IsBooked := initial.isBooked.run toStart
  have middleBooked : middle.IsBooked :=
    (startBooked.move (rfl : start.move? (.command (.add message)) = _)).run run
  have before := course.before middleBooked run moved
  obtain ⟨onTime, sending⟩ := isPunctual
  have found : middle.outline.candidates[identity]? = some candidate := onTime.found
  obtain ⟨later, isLater, _⟩ := carries_run startBooked.sound course.accepted course.run
  have unsuspended := (before.undisturbed.candidate found).2
  obtain ⟨laterActive, laterUnsuspended⟩ := course.undisturbed.candidate isLater
  have goes := goes_move middleBooked.sound moved found isLater laterActive unsuspended
    laterUnsuspended
  have isTimerDriven := ((throughout_concat run).mp course.undisturbed.isTimerDriven).2
  refine ⟨later, ?_, fun pending none => ?_⟩
  · rw [completedAt_concat run, sameNow]
    refine onTime.goes goes (middleBooked.sound.share identity) isLater
      (before.undisturbed.candidate found).1 fun idle pending => ?_
    rcases goes.waits found isLater pending with ⟨was, _⟩ | ⟨was, _⟩ | ⟨_, errand, waits⟩
    · cases idle.symm.trans was
    · cases idle.symm.trans was
    · exact (before.hands_over initial toStart moved isTimerDriven onTime waits).1
  · rcases goes.waits found isLater pending with ⟨was, same⟩ | ⟨_, isUnderWay⟩ |
      ⟨_, errand, waits⟩
    · exact (sending was (same ▸ none)).move middleBooked.sound.tidy middleBooked.isTimed
        moved same
    · exact absurd none isUnderWay
    · exact (before.hands_over initial toStart moved isTimerDriven onTime waits).2

/-- As long as nothing is skipped, a message stays on time while time passes. -/
theorem IsCourse.isPunctual_wait {middle : Service} {instant : Nat}
    (course : IsCourse start message identity (moves ++ [.wait instant]) last)
    (initial : first.IsInitial) (toStart : Run first early start)
    (run : Run (start.carryOut (.add message)) moves middle)
    (moved : middle.move? (.wait instant) = some last) {candidate : Candidate}
    (isPunctual : IsPunctual start message identity moves middle candidate) :
    IsPunctual start message identity (moves ++ [.wait instant]) last candidate := by
  have startBooked : start.IsBooked := initial.isBooked.run toStart
  have middleBooked : middle.IsBooked :=
    (startBooked.move (rfl : start.move? (.command (.add message)) = _)).run run
  have before := course.before middleBooked run moved
  have skips := ((throughout_concat run).mp course.prompt).2
  have forward : middle.now ≤ instant := by
    by_contra backward
    cases (if_neg backward).symm.trans moved
  obtain rfl := eq_wait moved
  have none : middle.countCompleted identity (.wait instant) = 0 := rfl
  refine ⟨?_, isPunctual.sending⟩
  rw [completedAt_concat run, none, List.replicate_zero, List.append_nil]
  rcases forward.eq_or_lt with rfl | passes
  · exact isPunctual.onTime
  · simp only [skipsNothing, Bool.or_eq_true, decide_eq_true_eq, passes.not_ge, false_or,
      Bool.and_eq_true, List.isEmpty_iff, List.all_eq_true] at skips
    exact before.onTime_wait initial toStart isPunctual passes skips.1 skips.2

/-- A message that is left to its timer is on time, and what is to be handed to the transport
now is ready for it. -/
theorem IsCourse.isPunctual (course : IsCourse start message identity moves last)
    (initial : first.IsInitial) (toStart : Run first early start) :
    ∃ candidate, IsPunctual start message identity moves last candidate := by
  have registered := (initial.isBooked.run toStart).move
    (rfl : start.move? (.command (.add message)) = _)
  have run := course.run
  induction run with
  | start => exact ⟨_, isPunctual_start initial toStart course.accepted⟩
  | @extend moves move middle last run moved inductionHypothesis =>
      have before := course.before (registered.run run) run moved
      obtain ⟨candidate, isPunctual⟩ := inductionHypothesis before
      rcases now_move moved with sameNow | ⟨instant, rfl⟩
      · exact course.isPunctual_act initial toStart run moved sameNow isPunctual
      · exact ⟨candidate, course.isPunctual_wait initial toStart run moved isPunctual⟩

/-- By an instant that has passed, every resend has begun that was to begin by then. -/
theorem IsCourse.begun_of_passed (course : IsCourse start message identity moves last)
    (initial : first.IsInitial) (toStart : Run first early start) {instant count begins : Nat}
    (passed : last.HasPassed instant)
    (isBegins : message.policy.beginsAt start.now
      (completedAt identity moves (start.carryOut (.add message))) count = some begins)
    (by_then : begins ≤ instant) : (last.begunAt identity)[count]? = some begins := by
  obtain ⟨candidate, onTime, sending⟩ := course.isPunctual initial toStart
  have past : message.policy.AreOnTime start.now
      (completedAt identity moves (start.carryOut (.add message))) (last.begunAt identity) :=
    onTime.past
  have reached : last.now ≤ begins → begins = last.now ∧ last.isAtRest = true := by
    intro notBefore
    rcases passed with before | ⟨rfl, atRest⟩
    · omega
    · exact ⟨le_antisymm by_then notBefore, atRest⟩
  rcases Nat.lt_or_ge count (last.begunAt identity).length with inside | outside
  · have isBegun := List.getElem?_eq_getElem inside
    rw [isBegun, ← past count _ isBegun, isBegins]
  · exfalso
    obtain ⟨allowed, atMost, due⟩ := Policy.le_length_of_beginsAt isBegins
    have even : (last.begunAt identity).length = _ :=
      (length_instantsOf _).trans onTime.even
    obtain rfl : count = (completedAt identity moves (start.carryOut (.add message))).length := by
      omega
    cases pending : candidate.pending with
    | true =>
        have none : countUnderWay (last.outline.share identity).errands = 0 := by omega
        obtain rfl := Option.some.inj (isBegins.symm.trans (onTime.here pending none))
        obtain ⟨_, _, _, _, isReady⟩ := sending pending none
        have atRest := (reached le_rfl).2
        rw [isAtRest, Bool.and_eq_true, List.isEmpty_iff] at atRest
        rw [atRest.1] at isReady
        cases isReady
    | false =>
        obtain ⟨rfl, atRest⟩ := reached (onTime.soon pending begins isBegins)
        simp only [isAtRest, Bool.and_eq_true, List.isEmpty_iff, List.all_eq_true,
          decide_eq_true_eq] at atRest
        have further := course.exhausted_eq initial toStart onTime.found onTime.retries
        rw [allowed, Bool.not_true] at further
        obtain ⟨entry, isDue, ticking⟩ :=
          course.ticks (initial.isBooked.run toStart) onTime.found pending further allowed
        rcases ticking with isReady | isAsleep
        · rw [atRest.1] at isReady
          cases isReady
        · have wake := atRest.2 _ isAsleep
          rw [isDue, Time.wake_of_dvd (course.regular _ (Nat.le_refl _) allowed).2] at wake
          exact absurd due wake.not_ge

/-- A message that is left to its timer on a clock that skips nothing is resent on time, however
long its resends take.  Each resend begins at the instant at which it is due on the timetable,
or at which the one before it completed, if that is later; and by an instant that has passed
exactly those resends have begun for which this instant has come and which the limit allows.
So resends that take no time begin when they are due, one after the other, up to the limit. -/
theorem resends_on_time (initial : first.IsInitial) (toStart : Run first early start)
    (course : IsCourse start message identity moves last) :
    (∀ count begun, (last.begunAt identity)[count]? = some begun →
        message.policy.beginsAt start.now
          (completedAt identity moves (start.carryOut (.add message))) count = some begun) ∧
      (∀ instant, last.HasPassed instant → ∀ count,
        (∃ begun, (last.begunAt identity)[count]? = some begun ∧ begun ≤ instant) ↔
          ∃ begins, message.policy.beginsAt start.now
            (completedAt identity moves (start.carryOut (.add message))) count = some begins ∧
            begins ≤ instant) ∧
      (completedAt identity moves (start.carryOut (.add message)) = last.begunAt identity →
        ∀ count,
          (∀ begun, (last.begunAt identity)[count]? = some begun →
            begun = message.policy.dueAt start.now count) ∧
          ∀ instant, last.HasPassed instant →
            ((∃ begun, (last.begunAt identity)[count]? = some begun ∧ begun ≤ instant) ↔
              message.policy.shouldRetry count = true ∧
                message.policy.dueAt start.now count ≤ instant)) := by
  obtain ⟨candidate, onTime, _⟩ := course.isPunctual initial toStart
  have past : message.policy.AreOnTime start.now
      (completedAt identity moves (start.carryOut (.add message))) (last.begunAt identity) :=
    onTime.past
  refine ⟨past, fun instant passed count => ?_, fun atOnce count => ⟨?_, ?_⟩⟩
  · constructor
    · rintro ⟨begun, isBegun, within⟩
      exact ⟨begun, past count begun isBegun, within⟩
    · rintro ⟨begins, isBegins, within⟩
      exact ⟨begins, course.begun_of_passed initial toStart passed isBegins within, within⟩
  · rw [atOnce] at past
    exact fun begun isBegun => past.eq_dueAt isBegun
  · intro instant passed
    have complete (count begins : Nat)
        (isBegins : message.policy.beginsAt start.now
          (completedAt identity moves (start.carryOut (.add message))) count = some begins)
        (within : begins ≤ instant) : ∃ began, (last.begunAt identity)[count]? = some began :=
      ⟨begins, course.begun_of_passed initial toStart passed isBegins within⟩
    rw [atOnce] at past complete
    constructor
    · rintro ⟨begun, isBegun, within⟩
      exact ⟨(Policy.le_length_of_beginsAt (past count begun isBegun)).1,
        past.eq_dueAt isBegun ▸ within⟩
    · rintro ⟨allowed, due⟩
      exact ⟨_, past.begun_of_due complete allowed due, due⟩

end Service

namespace Sample

/-- The first resend of a message will take seven seconds, and the others no time. -/
def slowAtFirst : Command :=
  .prepare (sequence, 1)
    [{ takes := 7000000000, failure := none }, { takes := 0, failure := none }]

/-- A message is resent by its timer after three seconds, and again as soon as this has
completed, since the second resend was due one second before. -/
def catchesUp : List Move :=
  List.flatten
    [[.step 0, .wait 3000000000, .rouse 0 0, .step 0, .step 0, .wait 10000000000, .rouse 0 0],
      List.replicate 5 (.step 0)]

end Sample

namespace Service

/-- The second resend of a message begins when the first one has completed. -/
theorem resends_on_time_of_catchesUp :
    ∃ last,
      IsCourse ((Sample.service (.byTimers true)).carryOut Sample.slowAtFirst)
        (Sample.limitedMessage 2) 0 Sample.catchesUp last ∧
      last.HasPassed 10000000000 ∧
      completedAt 0 Sample.catchesUp (((Sample.service (.byTimers true)).carryOut
        Sample.slowAtFirst).carryOut (.add (Sample.limitedMessage 2))) =
          [10000000000, 10000000000] ∧
      last.begunAt 0 = [3000000000, 10000000000] ∧
      (Sample.limitedMessage 2).policy.beginsAt 0 [10000000000, 10000000000] 1 =
        some 10000000000 := by
  have seen : ((follow Sample.catchesUp (((Sample.service (.byTimers true)).carryOut
      Sample.slowAtFirst).carryOut (.add (Sample.limitedMessage 2)))).map fun last =>
        ((last.world.candidate? 0).map fun candidate =>
            (candidate.phase.isTerminal, candidate.suspended),
          last.world.agenda.closed, last.now, last.isAtRest, last.begunAt 0)) =
      some (some (false, false), false, 10000000000, true, [3000000000, 10000000000]) := by
    decide +kernel
  obtain ⟨last, followed, looks⟩ := Option.map_eq_some_iff.mp seen
  simp only [Prod.mk.injEq, Option.map_eq_some_iff] at looks
  obtain ⟨⟨candidate, found, active, unsuspended⟩, isOpen, now, atRest, begun⟩ := looks
  have completed : completedAt 0 Sample.catchesUp (((Sample.service (.byTimers true)).carryOut
      Sample.slowAtFirst).carryOut (.add (Sample.limitedMessage 2))) =
        [10000000000, 10000000000] := by
    decide +kernel
  have course : IsCourse ((Sample.service (.byTimers true)).carryOut Sample.slowAtFirst)
      (Sample.limitedMessage 2) 0 Sample.catchesUp last := {
    accepted := rfl
    run := Run.of_follow followed
    driving := rfl
    inline := rfl
    addressable := rfl
    capped := by
      rintro most ⟨⟩
      decide
    undisturbed := {
      unsuspended := by decide +kernel
      isTimerDriven := by decide +kernel
      isOnHold := (congrArg (Option.any Candidate.suspended) found).trans unsuspended
      active := by
        intro other isOther
        obtain rfl := Option.some.inj (found.symm.trans isOther)
        exact active
      isOpen }
    prompt := by decide +kernel
    regular := by
      rw [completed]
      decide +kernel }
  have prepared : (Sample.service (.byTimers true)).move? (.command Sample.slowAtFirst) =
      some ((Sample.service (.byTimers true)).carryOut Sample.slowAtFirst) := rfl
  have onTime := (resends_on_time (Sample.isInitial_service (.byTimers true)) (.single prepared)
    course).1 1 10000000000 (by rw [begun]; rfl)
  rw [completed] at onTime
  exact ⟨last, course, .inr ⟨now.symm, atRest⟩, completed, begun, onTime⟩

end Service

end Redelivery
