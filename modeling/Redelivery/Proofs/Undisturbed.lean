import Redelivery.Proofs.Driving
import Redelivery.Proofs.Queue

/-!
# Messages that are left to their timers

A message is undisturbed as long as it is never suspended, does not end, and is resent by its
timer alone, while timers are hosted.  What then happens to it is one of five things: its timer
hands a resend over, the resend begins, completes, or does both at once, or nothing happens.  A
candidate that waits for no resend is armed for its next one, until it is exhausted or its
schedule overflows.
-/

namespace Redelivery

/-! ## The course of an undisturbed message -/

/-- A job that is handed over is one of a candidate that was free. -/
theorem Outline.Hands.of_some {before after : Outline} {identity : Nat} {job : Job}
    (hands : before.Hands identity after (some job)) :
    ∃ candidate message, before.candidates[identity]? = some candidate ∧
      candidate.isFree = true ∧ candidate.message = some message ∧
      after = before.modify identity Candidate.handedOver ∧
      job = candidate.job identity message := by
  cases hands with
  | job found free held => exact ⟨_, _, found, free, held, rfl, rfl⟩

namespace Share

/-- What happens to an undisturbed message, at an instant, and the number of its resends that
complete on the way. -/
inductive Goes (now : Nat) : Share → Share → Nat → Prop where
  | quiet {share : Share} : Goes now share share 0
  | handOver (identity : Nat) {candidate : Candidate} {message : Message}
      {errands : Multiset Errand} {resends : List Resend} :
      candidate.isFree = true → candidate.message = some message →
      Goes now ⟨some candidate, errands, resends⟩
        ⟨some candidate.handedOver, .waiting (candidate.job identity message) ::ₘ errands,
          resends⟩ 0
  | begin {job : Job} {candidate : Candidate} {errands : Multiset Errand}
      {resends : List Resend} :
      candidate.maySend = true →
      Goes now ⟨some candidate, .waiting job ::ₘ errands, resends⟩
        ⟨some candidate, .underWay job ::ₘ errands, { instant := now, job } :: resends⟩ 0
  | deliver {job : Job} {candidate : Candidate} {errands : Multiset Errand}
      {resends : List Resend} :
      candidate.maySend = true →
      Goes now ⟨some candidate, .waiting job ::ₘ errands, resends⟩
        ⟨some (candidate.completed now), errands, { instant := now, job } :: resends⟩ 1
  | conclude {job : Job} {candidate : Candidate} {errands : Multiset Errand}
      {resends : List Resend} :
      Goes now ⟨some candidate, .underWay job ::ₘ errands, resends⟩
        ⟨some (candidate.completed now), errands, resends⟩ 1

/-- A turn of a message that neither ends nor is suspended before or after it. -/
theorem Turn.goes {now count : Nat} {before after : Share} (turn : Turn now before after)
    (sound : before.Sound) {candidate later : Candidate}
    (found : before.candidate = some candidate) (isLater : after.candidate = some later)
    (active : later.ending = none) (unsuspended : candidate.suspended = false)
    (stays : later.suspended = false)
    (counted : countUnderWay after.errands + count + before.resends.length =
      countUnderWay before.errands + after.resends.length) : Goes now before after count := by
  have wasActive : candidate.ending = none := by
    by_contra ended
    obtain ⟨other, isOther, otherEnded⟩ := turn.ended found ended
    obtain rfl := Option.some.inj (isLater.symm.trans isOther)
    exact otherEnded active
  have still {share : Share} (same : countUnderWay share.errands + count + share.resends.length =
      countUnderWay share.errands + share.resends.length) : Goes now share share count := by
    obtain rfl : count = 0 := by omega
    exact .quiet
  cases turn with
  | step step =>
      cases step with
      | quiet => exact still counted
      | @handOver identity candidate message errands resends free held =>
          simp only [countUnderWay_waiting] at counted
          obtain rfl : count = 0 := by omega
          exact .handOver identity free held
      | @begin job candidate errands resends may =>
          simp only [countUnderWay_waiting, countUnderWay_underWay, List.length_cons] at counted
          obtain rfl : count = 0 := by omega
          exact .begin may
      | @deliver job candidate errands resends may =>
          simp only [countUnderWay_waiting, List.length_cons] at counted
          obtain rfl : count = 1 := by omega
          exact .deliver may
      | @conclude job known errands resends =>
          obtain rfl : known = some candidate := found
          simp only [countUnderWay_underWay] at counted
          obtain rfl : count = 1 := by omega
          exact .conclude
      | @skip job known errands resends refused =>
          obtain rfl : known = some candidate := found
          have busy := sound.single candidate rfl wasActive
          have isSound := sound.candidate candidate rfl
          have pending : candidate.pending = true := by
            cases pending : candidate.pending with
            | true => rfl
            | false =>
                rw [pending, Multiset.card_cons] at busy
                cases busy
          have maySend : candidate.maySend = true := Candidate.maySend_eq_true_iff.mpr
            ⟨pending, unsuspended, wasActive, (isSound.busy pending).2.1,
              fun released => isSound.kept.mp released wasActive⟩
          exact absurd (refused.symm.trans maySend) Bool.false_ne_true
      | @finish ending known errands resends =>
          obtain rfl : known.finished ending = later := Option.some.inj isLater
          exact absurd active ((Candidate.sound_finished ending known).kept.mp rfl)
  | enroll routing suspended message => cases found
  | @suspend known errands resends =>
      obtain rfl : known = candidate := Option.some.inj found
      obtain rfl : known.paused = later := Option.some.inj isLater
      obtain ⟨suspended, paused, isPaused⟩ := known.paused_eq
      rw [paused] at stays
      exact absurd ((isPaused wasActive).symm.trans stays) Bool.noConfusion
  | @wake known errands resends =>
      obtain rfl : known = candidate := Option.some.inj found
      have same : known.woken now = known := by simp [Candidate.woken, unsuspended]
      simp only [same] at counted ⊢
      exact still counted

/-- A message that waits for a resend to complete, and does not afterwards, has completed
it. -/
theorem Goes.eq_one {now count : Nat} {before after : Share} (goes : Goes now before after count)
    {candidate later : Candidate} (found : before.candidate = some candidate)
    (isLater : after.candidate = some later) (pending : candidate.pending = true)
    (idle : later.pending = false) : count = 1 := by
  cases goes with
  | quiet =>
      obtain rfl := Option.some.inj (found.symm.trans isLater)
      cases pending.symm.trans idle
  | handOver identity free held =>
      cases isLater
      cases idle
  | begin may =>
      obtain rfl := Option.some.inj (found.symm.trans isLater)
      cases pending.symm.trans idle
  | deliver may => rfl
  | conclude => rfl

/-- A message that waits for a resend to complete did so before, as long as nothing happens to
it, or its resend is under way, or else was handed over. -/
theorem Goes.waits {now count : Nat} {before after : Share} (goes : Goes now before after count)
    {candidate later : Candidate} (found : before.candidate = some candidate)
    (isLater : after.candidate = some later) (pending : later.pending = true) :
    (candidate.pending = true ∧ after.errands = before.errands) ∨
      (candidate.pending = true ∧ countUnderWay after.errands ≠ 0) ∨
      (candidate.pending = false ∧ ∃ errand, after.errands = errand ::ₘ before.errands) := by
  have completed (candidate : Candidate) : (candidate.completed now).pending = false := by
    rcases candidate.completed_eq now with ⟨_, _, _, _, _, completed⟩
    rw [completed]
  cases goes with
  | quiet =>
      obtain rfl := Option.some.inj (found.symm.trans isLater)
      exact .inl ⟨pending, rfl⟩
  | handOver identity free held =>
      cases found
      exact .inr (.inr ⟨(Candidate.isFree_eq_true_iff.mp free).1, _, rfl⟩)
  | begin may =>
      obtain rfl := Option.some.inj (found.symm.trans isLater)
      refine .inr (.inl ⟨pending, ?_⟩)
      rw [countUnderWay_underWay]
      exact Nat.succ_ne_zero _
  | deliver may =>
      cases isLater
      cases (completed _).symm.trans pending
  | conclude =>
      cases isLater
      cases (completed _).symm.trans pending

/-- The message of a candidate stays until it ends. -/
theorem Turn.message {now : Nat} {before after : Share} (turn : Turn now before after)
    {candidate later : Candidate} (found : before.candidate = some candidate)
    (isLater : after.candidate = some later) (active : later.ending = none) :
    later.message = candidate.message := by
  have spans : Candidate.SpansTurns now fun candidate later =>
      later.ending = none → later.message = candidate.message :=
    { refl := fun _ _ => rfl
      handedOver := fun _ _ => rfl
      completed := by
        intro candidate _
        rcases candidate.completed_eq now with ⟨_, _, _, _, _, completed⟩
        rw [completed]
      abandoned := fun _ _ _ => rfl
      finished := fun ending candidate active =>
        absurd active ((Candidate.sound_finished ending candidate).kept.mp rfl)
      paused := by
        intro candidate _
        rcases candidate.paused_eq with ⟨_, paused, _⟩
        rw [paused]
      woken := by
        intro candidate _
        rcases candidate.woken_eq now with ⟨_, _, woken⟩
        rw [woken] }
  obtain ⟨other, isOther, same⟩ := turn.spans spans found
  obtain rfl := Option.some.inj (isLater.symm.trans isOther)
  exact same active

end Share

namespace Service

open Deed

/-! ## What a move does about a message -/

/-- The deeds of a move account for the errands of each message. -/
theorem errands_share_move {service after : Service} {move : Move} (tidy : service.AllTidy)
    (moved : service.move? move = some after) (identity : Nat) :
    (after.outline.share identity).errands + takenBy (about identity (service.deeds move)) =
      (service.outline.share identity).errands + leftBy (about identity (service.deeds move)) := by
  have all := errandsIn_move tidy moved
  rw [errands_share_programs, errands_share_programs, takenBy_about, leftBy_about,
    ← Multiset.filter_add, ← Multiset.filter_add, all]

/-- The resends of a message that a move begins are noted. -/
theorem length_resends_share_move {service after : Service} {move : Move}
    (tidy : service.AllTidy) (moved : service.move? move = some after) (identity : Nat) :
    (after.outline.share identity).resends.length =
      (service.outline.share identity).resends.length +
        Multiset.card (jobsOf begun? (about identity (service.deeds move))) := by
  have jobs (service : Service) :
      ((service.outline.resends.map Resend.job : Multiset Job).filter fun job =>
        job.candidate = identity).card = (service.outline.share identity).resends.length := by
    rw [Multiset.filter_coe, List.filter_map, Multiset.coe_card, List.length_map]
    rfl
  rw [begun_about, ← jobs, ← jobs, resends_move tidy moved, Multiset.filter_add,
    Multiset.card_add, add_comm]

/-- The number of resends of a message that a move completes. -/
def countCompleted (identity : Nat) (service : Service) (move : Move) : Nat :=
  Multiset.card (jobsOf completed? (about identity (service.deeds move)))

/-- A resend that begins or completes in a move does so in the share of its message. -/
theorem countUnderWay_move {service after : Service} {move : Move} (tidy : service.AllTidy)
    (moved : service.move? move = some after) (identity : Nat) :
    countUnderWay (after.outline.share identity).errands + service.countCompleted identity move +
        (service.outline.share identity).resends.length =
      countUnderWay (service.outline.share identity).errands +
        (after.outline.share identity).resends.length := by
  have accounted := congrArg (fun errands => Multiset.card (errands.filterMap Errand.underWay?))
    (errands_share_move tidy moved identity)
  simp only [Multiset.filterMap_add, underWay_takenBy, underWay_leftBy, Multiset.card_add]
    at accounted
  rw [length_resends_share_move tidy moved, countCompleted, countUnderWay, countUnderWay]
  omega

/-- What a move does about a message that neither ends nor is suspended. -/
theorem goes_move {service after : Service} {move : Move} (sound : service.Sound)
    (moved : service.move? move = some after) {identity : Nat} {candidate later : Candidate}
    (found : service.outline.candidates[identity]? = some candidate)
    (isLater : after.outline.candidates[identity]? = some later) (active : later.ending = none)
    (unsuspended : candidate.suspended = false) (stays : later.suspended = false) :
    Share.Goes service.now (service.outline.share identity) (after.outline.share identity)
      (service.countCompleted identity move) :=
  ((turn_move sound.tidy moved).2.2 identity).goes (sound.share identity) found isLater active
    unsuspended stays (countUnderWay_move sound.tidy moved identity)

/-- A resend that comes to wait was handed over. -/
theorem handsOver_of_waits {service after : Service} {move : Move} (tidy : service.AllTidy)
    (moved : service.move? move = some after) {identity : Nat} {errand : Errand}
    (waits : (after.outline.share identity).errands =
      errand ::ₘ (service.outline.share identity).errands) :
    service.handsOver move identity = true := by
  have accounted := congrArg (fun errands => Multiset.card (errands.map Errand.job))
    (errands_share_move tidy moved identity)
  simp only [Multiset.map_add, Multiset.card_add, map_job_takenBy, map_job_leftBy, waits,
    Multiset.card_map, Multiset.card_cons] at accounted
  obtain ⟨job, built⟩ := Multiset.card_pos_iff_exists_mem.mp
    (by omega : 0 < Multiset.card (jobsOf built? (about identity (service.deeds move))))
  obtain ⟨deed, done, isBuilt⟩ := List.mem_filterMap.mp (Multiset.mem_coe.mp built)
  exact List.any_eq_true.mpr ⟨deed, done, by rw [isBuilt]; rfl⟩

/-! ## Resends that complete in a run -/

/-- The instants at which the resends of a message complete in the course of a run. -/
def completedAt (identity : Nat) (moves : List Move) (first : Service) : List Nat :=
  gather (fun service move =>
    ((about identity (service.deeds move)).filterMap completed?).map fun _ => service.now)
    moves first

theorem completedAt_concat {first last : Service} {moves : List Move}
    (run : Run first moves last) (identity : Nat) (move : Move) :
    completedAt identity (moves ++ [move]) first =
      completedAt identity moves first ++
        List.replicate (last.countCompleted identity move) last.now := by
  rw [completedAt, gather_concat _ run, List.map_const']
  rfl

/-- As many as complete. -/
theorem length_completedAt {first last : Service} {moves : List Move}
    (run : Run first moves last) (identity : Nat) :
    (completedAt identity moves first).length =
      Multiset.card (jobsOf completed? (historyOf identity moves first)) := by
  induction run with
  | start => rfl
  | extend run moved inductionHypothesis =>
      rw [completedAt_concat run, List.length_append, List.length_replicate, inductionHypothesis,
        countCompleted, historyOf, historyOf, history, history, gather_concat _ run, about_append,
        jobsOf_append, Multiset.card_add]

/-! ## Undisturbed runs -/

/-- Whether a move is one of a timer. -/
def rings (service : Service) : Move → Bool
  | .step index => (service.ready[index]?).any fun activity => isRing activity.program
  | .command _ | .rouse _ _ | .wait _ | .reorder _ => false

/-- In the course of a run a message is resent by its timer alone. -/
def IsTimerDriven (identity : Nat) (moves : List Move) (first : Service) : Prop :=
  Throughout (fun service move =>
    service.handsOver move identity = true → service.rings move = true) moves first

instance (identity : Nat) (moves : List Move) (first : Service) :
    Decidable (IsTimerDriven identity moves first) :=
  inferInstanceAs (Decidable (Throughout _ moves first))

/-- A message is left to its timer in the course of a run: it is neither ended nor suspended,
and nothing else makes it resend; and timers are accepted to the end. -/
structure IsUndisturbed (identity : Nat) (moves : List Move) (first last : Service) : Prop where
  unsuspended : IsNeverSuspended identity moves first
  isTimerDriven : IsTimerDriven identity moves first
  isOnHold : last.isOnHold identity = false
  active : ∀ candidate, last.world.candidate? identity = some candidate →
    candidate.phase.isTerminal = false
  isOpen : last.world.agenda.closed = false

/-- A message that is undisturbed was so before the last move. -/
theorem IsUndisturbed.before {identity : Nat} {moves : List Move} {move : Move}
    {first middle last : Service}
    (undisturbed : IsUndisturbed identity (moves ++ [move]) first last)
    (run : Run first moves middle) (sound : middle.Sound) (isTimed : middle.IsTimed)
    (moved : middle.move? move = some last) : IsUndisturbed identity moves first middle := by
  obtain ⟨unsuspended, isOnHold⟩ := (throughout_concat run).mp undisturbed.unsuspended
  refine {
    unsuspended
    isTimerDriven := ((throughout_concat run).mp undisturbed.isTimerDriven).1
    isOnHold
    active := fun candidate found => ?_
    isOpen := ?_ }
  · by_contra ended
    have isEnded : candidate.untimed.ending ≠ none := by
      intro active
      rw [Candidate.isTerminal_phase, show candidate.ending = none from active] at ended
      exact ended rfl
    obtain ⟨later, isLater, stays⟩ := ((turn_move sound.tidy moved).2.2 identity).ended
      (candidate_share found) isEnded
    obtain ⟨timed, isTimed, rfl⟩ := exists_candidate isLater
    exact stays (Candidate.ending_eq_none_of_phase (undisturbed.active timed isTimed) :)
  · obtain ⟨registry, tends, sameWorld⟩ := (tends_move isTimed moved).2
    have isOpen := undisturbed.isOpen
    rw [sameWorld] at isOpen
    exact tends.isOpen isOpen

/-- The candidate of an undisturbed message. -/
theorem IsUndisturbed.candidate {identity : Nat} {moves : List Move} {first last : Service}
    (undisturbed : IsUndisturbed identity moves first last) {candidate : Candidate}
    (found : last.outline.candidates[identity]? = some candidate) :
    candidate.ending = none ∧ candidate.suspended = false := by
  obtain ⟨timed, isTimed, rfl⟩ := exists_candidate found
  exact ⟨(Candidate.ending_eq_none_of_phase (undisturbed.active timed isTimed) :),
    (isOnHold_eq found).symm.trans undisturbed.isOnHold⟩

/-! ## What an undisturbed message keeps -/

end Service

namespace Candidate

/-- A candidate that has what its message was registered with, and keeps the message until it
ends. -/
structure Carries (candidate : Candidate) (routing : Executor.Routing) (message : Message) :
    Prop where
  origin : candidate.origin = (register 0 routing false message).origin
  message : candidate.ending = none → candidate.message = some message

theorem Carries.policy {candidate : Candidate} {routing : Executor.Routing} {message : Message}
    (carries : candidate.Carries routing message) : candidate.policy = message.policy :=
  congrArg Origin.policy carries.origin

theorem Carries.routing {candidate : Candidate} {routing : Executor.Routing} {message : Message}
    (carries : candidate.Carries routing message) : candidate.routing = routing :=
  congrArg Origin.routing carries.origin

theorem Carries.addressable {candidate : Candidate} {routing : Executor.Routing}
    {message : Message} (carries : candidate.Carries routing message) :
    candidate.addressable = message.destination.isAddressable :=
  congrArg Origin.addressable carries.origin

end Candidate

namespace Service

open Deed

/-- A registered message stays with its candidate. -/
theorem carries_run {start last : Service} {moves : List Move} {message : Message}
    {identity : Nat} (sound : start.Sound)
    (accepted : (start.world.add start.now message).2 = .ok identity)
    (run : Run (start.carryOut (.add message)) moves last) :
    ∃ candidate, last.outline.candidates[identity]? = some candidate ∧
      candidate.Carries start.world.routing message := by
  have registered : (start.carryOut (.add message)).Sound :=
    sound.move (rfl : start.move? (.command (.add message)) = _)
  induction run with
  | start => exact ⟨_, found_add accepted, rfl, fun _ => rfl⟩
  | extend run moved inductionHypothesis =>
      obtain ⟨candidate, found, carries⟩ := inductionHypothesis
      have turn := (turn_move (registered.run run).tidy moved).2.2 identity
      obtain ⟨later, isLater, persists⟩ := turn.persists found
      refine ⟨later, isLater, persists.origin.trans carries.origin, fun active => ?_⟩
      have wasActive : candidate.ending = none := by
        cases ended : candidate.ending with
        | none => rfl
        | some ending => cases active.symm.trans (persists.ending ending ended)
      rw [turn.message found isLater active, carries.message wasActive]

/-- Nothing changes what drives a service. -/
theorem driving_run {first last : Service} {moves : List Move} (isTimed : first.IsTimed)
    (run : Run first moves last) : last.world.driving = first.world.driving := by
  obtain ⟨_, registry, tends, sameWorld⟩ := tends_run isTimed run
  rw [sameWorld]
  exact tends.driving

theorem IsBooked.run {first last : Service} {moves : List Move} (isBooked : first.IsBooked)
    (run : Run first moves last) : last.IsBooked :=
  run.preserves isBooked fun isBooked moved => isBooked.move moved

/-- A message that waits for a resend to complete after which it has no interval, and has
completed it, is at the end of its timetable. -/
theorem overflow_of_mayOverrun {start middle last : Service} {moves : List Move} {move : Move}
    {message : Message} {identity : Nat} (isBooked : start.IsBooked)
    (accepted : (start.world.add start.now message).2 = .ok identity)
    (run : Run (start.carryOut (.add message)) moves middle)
    (undisturbed : IsUndisturbed identity moves (start.carryOut (.add message)) middle)
    (moved : middle.move? move = some last) {later : Candidate}
    (isLater : last.outline.candidates[identity]? = some later) (active : later.ending = none)
    (unsuspended : later.suspended = false) (idle : later.pending = false)
    (mayOverrun : middle.world.MayOverrun identity) :
    message.policy.intervalAt
      ((completedAt identity moves (start.carryOut (.add message))).length +
        middle.countCompleted identity move) = none := by
  have sound : middle.Sound :=
    ((isBooked.move (rfl : start.move? (.command (.add message)) = _)).run run).sound
  obtain ⟨candidate, found, samePolicy, onTimetable⟩ :=
    onTimetable_run isBooked.sound accepted run
  obtain ⟨timed, isTimed, rfl⟩ := exists_candidate found
  obtain ⟨pending, overflow⟩ := mayOverrun timed isTimed
  obtain ⟨wasActive, wasUnsuspended⟩ := undisturbed.candidate found
  have goes := goes_move sound moved found isLater active wasUnsuspended unsuspended
  rw [goes.eq_one found isLater pending idle]
  -- the interval of a candidate that waits is the one of the timetable, so the next one is, too
  have further := (((sound.share identity).candidate _ found).busy pending).2.1
  have sameInterval := (onTimetable wasActive further).1
  rw [countUnsuspended_eq run undisturbed.unsuspended, ← length_completedAt run] at sameInterval
  cases defined : message.policy.intervalAt
      (completedAt identity moves (start.carryOut (.add message))).length with
  | none => exact Policy.intervalAt_of_overflow defined (Nat.le_succ _)
  | some interval =>
      rw [Policy.slotAfter_eq defined] at sameInterval
      rw [Policy.intervalAt, defined, Option.bind_some, ← samePolicy]
      exact (congrArg timed.policy.nextInterval sameInterval).symm.trans overflow

/-- An undisturbed message whose timers are hosted is never left without a timer while it waits
for its next resend, unless an interval has overflowed. -/
theorem overflow_of_neglected {start last : Service} {moves : List Move} {message : Message}
    {identity : Nat} (isBooked : start.IsBooked)
    (accepted : (start.world.add start.now message).2 = .ok identity)
    (run : Run (start.carryOut (.add message)) moves last)
    (driving : start.world.driving = .byTimers true)
    (undisturbed : IsUndisturbed identity moves (start.carryOut (.add message)) last)
    {candidate : Candidate} (found : last.world.candidate? identity = some candidate)
    (neglected : candidate.IsNeglected) :
    message.policy.intervalAt
      (completedAt identity moves (start.carryOut (.add message))).length = none := by
  have registered : (start.carryOut (.add message)).IsBooked :=
    isBooked.move (rfl : start.move? (.command (.add message)) = _)
  have registeredDriving : (start.carryOut (.add message)).world.driving = .byTimers true :=
    (driving_run isBooked.isTimed (.single (rfl : start.move? (.command (.add message)) = _))).trans
      driving
  induction run generalizing candidate with
  | start =>
      have books : Registry.Books (fun _ => message.policy.initialInterval = none) start.world
          (start.world.add start.now message).1 := Registry.books_add id start.now
      have world : (start.carryOut (.add message)).world =
          { (start.world.add start.now message).1 with starting := [] } := world_launch _
      have isOpen := undisturbed.isOpen
      rw [world] at found isOpen
      rcases books.remembers driving isOpen identity candidate found neglected with
        ⟨former, isFormer, _⟩ | overflow
      · rw [(Registry.eq_length_of_add accepted).2, Registry.candidate?,
          List.getElem?_eq_none_iff.mpr (Nat.le_refl _)] at isFormer
        cases isFormer
      · exact overflow
  | @extend moves move middle last run moved inductionHypothesis =>
      have middleBooked := registered.run run
      have before := undisturbed.before run middleBooked.sound middleBooked.isTimed moved
      rw [completedAt_concat run, List.length_append, List.length_replicate]
      obtain ⟨registry, books, world⟩ := books_move middleBooked.sound middleBooked.isTimed moved
      have middleDriving : middle.world.driving = .byTimers true :=
        (driving_run registered.isTimed run).trans registeredDriving
      have isLater := candidate_share found
      have isOpen := undisturbed.isOpen
      rw [world] at found isOpen
      rcases books.remembers middleDriving isOpen identity candidate found neglected with
        ⟨former, isFormer, wasNeglected⟩ | mayOverrun
      · exact Policy.intervalAt_of_overflow (inductionHypothesis before isFormer wasNeglected)
          (Nat.le_add_right _ _)
      · exact overflow_of_mayOverrun isBooked accepted run before moved isLater neglected.active
          (undisturbed.candidate isLater).2 neglected.idle mayOverrun

/-! ## The activities of an undisturbed message -/

theorem now_carryOut (service : Service) (command : Command) :
    (service.carryOut command).now = service.now := by
  cases command with
  | request name request => cases name <;> rfl
  | serve name =>
      simp only [carryOut, beginServing, announce]
      split <;> rfl
  | announce news =>
      simp only [carryOut, announce]
      split <;> rfl
  | join name => rfl
  | add _ | purgeAcknowledged _ _ | purgeAll _ | stop _ | suspend _ | resume _ | shutdown
  | setExecutors _ | closeAgenda | prepare _ _ | exchangeStore _ => exact now_launch _

/-- Time stands still unless it is let pass. -/
theorem now_move {service after : Service} {move : Move} (moved : service.move? move = some after) :
    after.now = service.now ∨ ∃ instant, move = .wait instant := by
  cases move with
  | command command =>
      obtain rfl := eq_carryOut moved
      exact .inl (now_carryOut service command)
  | step index =>
      have stepped : service.stepAt behave index = some after := moved
      obtain ⟨activity, _, others, isOthers, _, went⟩ :=
        Timeline.stepAt_eq_some stepped
      have sameNow : others.now = service.now := by rw [isOthers]
      rcases went with ⟨_, rfl⟩ | ⟨instruction, rest, _, rfl⟩
      · exact .inl sameNow
      · rw [Timeline.now_resume, behave, now_launch, perform_fst]
        exact .inl sameNow
  | rouse index position =>
      change service.rouseTo index position = some after at moved
      unfold Timeline.rouseTo at moved
      repeat' split at moved
      all_goals cases moved
      exact .inl rfl
  | wait instant => exact .inr ⟨instant, rfl⟩
  | reorder roster =>
      obtain ⟨_, rfl⟩ := eq_reorder moved
      exact .inl rfl

/-- An activity that is ready stays so until it goes on itself. -/
theorem mem_ready_move {service after : Service} {move : Move} (isTimed : service.IsTimed)
    (moved : service.move? move = some after) {activity : Activity Instruction}
    (present : activity ∈ service.ready) :
    activity ∈ after.ready ∨
      ∃ index, move = .step index ∧ service.ready[index]? = some activity := by
  cases move with
  | command command =>
      obtain rfl := eq_carryOut moved
      exact .inl ((furthers_carryOut isTimed command).ready present)
  | step index =>
      have stepped : service.stepAt behave index = some after := moved
      obtain ⟨goes, ready, others, isOthers, _, went⟩ :=
        Timeline.stepAt_eq_some stepped
      rcases eq_or_mem_eraseIdx ready present with rfl | other
      · exact .inr ⟨index, rfl, ready⟩
      · have stays : activity ∈ others.ready := by
          rw [isOthers]
          exact other
        rcases went with ⟨_, rfl⟩ | ⟨instruction, rest, _, rfl⟩
        · exact .inl stays
        · refine .inl (Timeline.ready_subset_resume _ _ _ _ ?_)
          rw [ready_behave]
          exact List.mem_append_left _ stays
  | rouse index position =>
      change service.rouseTo index position = some after at moved
      unfold Timeline.rouseTo at moved
      repeat' split at moved
      all_goals cases moved
      exact .inl (List.subset_insertIdx _ _ _ present)
  | wait instant =>
      obtain rfl := eq_wait moved
      exact .inl present
  | reorder roster =>
      obtain ⟨_, rfl⟩ := eq_reorder moved
      exact .inl present

/-- An activity that is ready is to hand a message to the transport next. -/
def IsSending (service : Service) (identity : Nat) : Prop :=
  ∃ job rest foreground, job.candidate = identity ∧
    (⟨.send job :: rest, foreground⟩ : Activity Instruction) ∈ service.ready

/-- Sending takes the errand that waits. -/
theorem waiting_mem_takenBy_send (registry : Registry) (now : Nat) (job : Job) :
    .waiting job ∈ takenBy (about job.candidate ((Instruction.send job).deeds registry now)) ∧
      .waiting job ∉ leftBy (about job.candidate ((Instruction.send job).deeds registry now)) := by
  rw [takenBy_about, leftBy_about, Multiset.mem_filter, Multiset.mem_filter, Instruction.deeds]
  split
  · split <;> simp [takenBy, leftBy, taken?, left?, Errand.job]
  · simp [takenBy, leftBy, taken?, left?, Errand.job]

/-- It goes on being so as long as its errand waits. -/
theorem IsSending.move {service after : Service} {move : Move} {identity : Nat}
    (isSending : service.IsSending identity) (tidy : service.AllTidy) (isTimed : service.IsTimed)
    (moved : service.move? move = some after)
    (same : (after.outline.share identity).errands = (service.outline.share identity).errands) :
    after.IsSending identity := by
  obtain ⟨job, rest, foreground, rfl, present⟩ := isSending
  rcases mem_ready_move isTimed moved present with stays | ⟨index, rfl, goes⟩
  · exact ⟨job, rest, foreground, rfl, stays⟩
  · have deeds : service.deeds (.step index) =
        (Instruction.send job).deeds service.world service.now := by
      simp only [Service.deeds, goes]
    have accounted := errands_share_move tidy moved job.candidate
    rw [same, deeds] at accounted
    obtain ⟨taken, notLeft⟩ := waiting_mem_takenBy_send service.world service.now job
    exact absurd (add_left_cancel accounted ▸ taken) notLeft

/-- A candidate that is armed has its timer on the agenda, due with its next resend, and where
the clock drives timers, it is ticking. -/
theorem IsBooked.ticks {service : Service} (isBooked : service.IsBooked) {hosted : Bool}
    (driving : service.world.driving = .byTimers hosted) {identity : Nat} {candidate : Candidate}
    (found : service.world.candidate? identity = some candidate)
    (armed : candidate.timer ≠ none) :
    ∃ entry : Schedule.Entry Alarm, entry.due = candidate.next ∧ service.IsTicking entry := by
  obtain ⟨ticket, timer⟩ := Option.ne_none_iff_exists'.mp armed
  obtain ⟨due, waits⟩ := isBooked.isTimed.timed.armed identity candidate ticket found timer
  obtain ⟨holder, isHolder, awaits⟩ := isBooked.booked _ waits
  obtain rfl := Option.some.inj (found.symm.trans isHolder)
  exact ⟨_, awaits.due, isBooked.isTimed.ticking hosted driving _ waits⟩

theorem exists_ring {program : Program} (ring : isRing program = true) :
    ∃ ticket, program = [.ring ticket] := by
  unfold isRing at ring
  split at ring
  · exact ⟨_, rfl⟩
  · cases ring

/-- A timer that hands over a resend goes on with its delivery. -/
theorem ring_of_fires {service : Service} {ticket : Nat} {entry : Schedule.Entry Alarm} {job : Job}
    (found : service.world.agenda.find? ticket = some entry)
    (due : Time.wake entry.due ≤ service.now)
    (fires : ({ service.world with
      agenda := service.world.agenda.cancel ticket }.fireTimer entry.task).2 = some job) :
    ∃ candidate message,
      service.outline.candidates[entry.task.candidate]? = some candidate ∧
        candidate.isFree = true ∧ candidate.message = some message ∧
        job = candidate.job entry.task.candidate message ∧
        (service.ring ticket []).2 = .onward (Registry.delivery candidate.routing job) := by
  have hands := Registry.hands_fireTimer
    { service.world with agenda := service.world.agenda.cancel ticket } entry.task
  simp only [ring, found, if_pos due, pursue, proceed]
  rw [fires] at hands ⊢
  obtain ⟨candidate, message, isCandidate, free, held, isAfter, rfl⟩ := hands.of_some
  refine ⟨candidate, message, isCandidate, free, held, rfl, ?_⟩
  -- the candidate that has handed over still goes by the executors it was registered with
  have handed := Registry.getElem?_outline ({ service.world with
    agenda := service.world.agenda.cancel ticket }.fireTimer entry.task).1 entry.task.candidate
  rw [isAfter, Outline.found_modify isCandidate, if_pos rfl] at handed
  obtain ⟨timed, isTimed, same⟩ := Option.map_eq_some_iff.mp handed.symm
  have sameRouting : timed.routing = candidate.routing := (congrArg Candidate.routing same :)
  have isJob : (candidate.job entry.task.candidate message).candidate = entry.task.candidate := rfl
  simp only [isJob, isTimed, sameRouting, List.append_nil]

/-- What a timer does is to hand over a resend, once it is due. -/
theorem of_mem_deeds_ring {registry : Registry} {now ticket : Nat} {deed : Deed}
    (done : deed ∈ (Instruction.ring ticket).deeds registry now) :
    ∃ entry job, registry.agenda.find? ticket = some entry ∧ Time.wake entry.due ≤ now ∧
      ({ registry with agenda := registry.agenda.cancel ticket }.fireTimer entry.task).2 =
        some job ∧ deed = .built job := by
  rw [Instruction.deeds] at done
  split at done
  · cases done
  · next entry found =>
      split at done
      · next due =>
          obtain ⟨job, fires, rfl⟩ := List.mem_map.mp done
          exact ⟨entry, job, found, due, Option.mem_toList.mp fires, rfl⟩
      · cases done

/-- A move in which a timer rings is a step of the activity that runs it. -/
theorem step_of_rings {service after : Service} {move : Move}
    (moved : service.move? move = some after) (rings : service.rings move = true) :
    ∃ index ticket foreground others, move = .step index ∧
      service.ready[index]? = some ⟨[.ring ticket], foreground⟩ ∧
      others = { service with ready := service.ready.eraseIdx index } ∧
      after = (behave (.ring ticket) [] others).1.resume index foreground
        (behave (.ring ticket) [] others).2 := by
  cases move with
  | command _ | rouse _ _ | wait _ | reorder _ => cases rings
  | step index =>
      have stepped : service.stepAt behave index = some after := moved
      obtain ⟨⟨program, foreground⟩, ready, others, isOthers, _, went⟩ :=
        Timeline.stepAt_eq_some stepped
      rw [Service.rings, ready, Option.any_some] at rings
      obtain ⟨ticket, rfl⟩ := exists_ring rings
      rcases went with ⟨ended, _⟩ | ⟨instruction, rest, isProgram, isAfter⟩
      · cases ended
      · cases isProgram
        exact ⟨index, ticket, foreground, others, rfl, ready, isOthers, isAfter⟩

/-- A timer that hands over a resend was due, and its activity goes on with the delivery. -/
theorem delivers_of_rings {service after : Service} {move : Move} (isBooked : service.IsBooked)
    (moved : service.move? move = some after) {identity : Nat}
    (handsOver : service.handsOver move identity = true) (rings : service.rings move = true) :
    ∃ candidate message foreground,
      service.outline.candidates[identity]? = some candidate ∧ candidate.isFree = true ∧
        candidate.next ≤ service.now ∧ candidate.message = some message ∧
        (⟨Registry.delivery candidate.routing (candidate.job identity message), foreground⟩ :
          Activity Instruction) ∈ after.ready := by
  obtain ⟨index, ticket, foreground, others, rfl, ready, isOthers, rfl⟩ :=
    step_of_rings moved rings
  have deeds : service.deeds (.step index) =
      (Instruction.ring ticket).deeds service.world service.now := by
    simp only [Service.deeds, ready]
  have sameWorld : others.world = service.world := by rw [isOthers]
  have sameNow : others.now = service.now := by rw [isOthers]
  obtain ⟨deed, done, isBuilt⟩ := List.any_eq_true.mp handsOver
  obtain ⟨among, own⟩ := List.mem_filter.mp done
  rw [deeds] at among
  obtain ⟨entry, job, looked, due, fires, rfl⟩ := of_mem_deeds_ring among
  -- the entry stands for the candidate's next resend, and its timer does not ring before that
  obtain ⟨holder, isHolder, awaits⟩ :=
    isBooked.booked entry (List.mem_of_find?_eq_some looked)
  have onTime : holder.next ≤ service.now := awaits.due ▸ (Time.le_wake entry.due).trans due
  rw [← sameWorld] at fires looked
  rw [← sameNow] at due
  obtain ⟨candidate, message, found, free, held, rfl, goesOn⟩ := ring_of_fires looked due fires
  obtain rfl : entry.task.candidate = identity := of_decide_eq_true own
  have sameCandidate : service.outline.candidates[entry.task.candidate]? = some candidate := by
    rw [← found, outline, outline, sameWorld]
    rfl
  obtain rfl : holder.untimed = candidate :=
    Option.some.inj ((candidate_share isHolder).symm.trans sameCandidate)
  refine ⟨_, message, foreground, sameCandidate, free, onTime, held, ?_⟩
  have paced : (behave (.ring ticket) [] others).2 = _ := goesOn
  rw [paced]
  apply Timeline.mem_ready_resume
  have inside := (List.getElem?_eq_some_iff.mp ready).1
  rw [ready_behave, isOthers, List.length_append, List.length_eraseIdx_of_lt inside]
  omega

end Service

end Redelivery
