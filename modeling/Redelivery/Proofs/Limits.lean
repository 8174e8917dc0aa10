import Redelivery.Proofs.History
import Redelivery.Proofs.Origin
import Redelivery.Proofs.Sending

/-!
# Counts and limits of resends

A resend is counted when it completes, and only then is the limit looked at.  This is enough
because there is never a second job of a message: when a resend begins, all those before it
have been counted, and the limit is not yet reached.  A resend that is abandoned is not
counted, and one that completes after its message has ended is not counted either.
-/

namespace Redelivery

/-! ## The count of a candidate -/

/-- The candidate is exhausted exactly if its count has reached its limit. -/
structure Candidate.Counted (candidate : Candidate) : Prop where
  exhausted : candidate.exhausted = !candidate.policy.shouldRetry candidate.retries
  within : ∀ most, candidate.policy.limit = .limited most → candidate.retries ≤ most

namespace Candidate

/-- A candidate that has ended does not count the completion of a resend. -/
theorem completed_of_ended {candidate : Candidate} (ended : candidate.ending ≠ none) (now : Nat) :
    candidate.completed now = { candidate with pending := false } :=
  congrArg Prod.fst (Completes.ended ended).eq

/-- Any other candidate does, and is exhausted if the limit allows no further resend. -/
theorem completed_of_active {candidate : Candidate} (active : candidate.ending = none)
    (now : Nat) :
    (candidate.completed now).retries = min (candidate.retries + 1) greatestRetries ∧
      (candidate.completed now).exhausted = (candidate.exhausted ||
        !candidate.policy.shouldRetry (min (candidate.retries + 1) greatestRetries)) := by
  obtain ⟨sequel, completes⟩ := candidate.exists_completed now
  generalize candidate.completed now = after at completes ⊢
  change after.retries = (candidate.counted now).retries ∧ after.exhausted =
    (candidate.exhausted || !candidate.policy.shouldRetry (candidate.counted now).retries)
  cases completes with
  | ended ended => exact absurd active ended
  | exhausted _ last => simp [last]
  | held _ further _ | next _ further _ _ | overflow _ further _ _ =>
      rw [further, Bool.not_true, Bool.or_false]
      exact ⟨rfl, rfl⟩

/-- A candidate that has not ended is in the phase of exhaustion exactly if it is
exhausted. -/
theorem phase_eq_exhausted_iff {candidate : Candidate} (active : candidate.ending = none) :
    candidate.phase = .exhausted ↔ candidate.exhausted = true := by
  simp only [phase, active]
  cases candidate.exhausted with
  | true => simp
  | false =>
      simp only [Bool.false_eq_true, if_false, iff_false]
      repeat' split
      all_goals exact nofun

theorem counted_register (now : Nat) (routing : Executor.Routing) (suspended : Bool)
    (message : Message) : (register now routing suspended message).Counted where
  exhausted := rfl
  within := fun _ _ => Nat.zero_le _

theorem Counted.congr {candidate later : Candidate} (counted : candidate.Counted)
    (samePolicy : later.policy = candidate.policy) (sameRetries : later.retries = candidate.retries)
    (sameFlag : later.exhausted = candidate.exhausted) : later.Counted where
  exhausted := by
    rw [samePolicy, sameRetries, sameFlag]
    exact counted.exhausted
  within := by
    rw [samePolicy, sameRetries]
    exact counted.within

/-- The limit allows a candidate that is not exhausted another resend. -/
theorem Counted.retries_lt {candidate : Candidate} (counted : candidate.Counted)
    (further : candidate.exhausted = false) {most : Nat}
    (limit : candidate.policy.limit = .limited most) : candidate.retries < most := by
  have agrees := counted.exhausted
  rw [further, Policy.shouldRetry, limit] at agrees
  simpa [RetryLimit.allows] using agrees

/-- A candidate is exhausted exactly if its retries have reached its limit. -/
theorem Counted.exhausted_iff {candidate : Candidate} (counted : candidate.Counted) :
    candidate.exhausted = true ↔
      ∃ most, candidate.policy.limit = .limited most ∧ candidate.retries = most := by
  rw [counted.exhausted, Policy.shouldRetry]
  cases limit : candidate.policy.limit with
  | unlimited => simp
  | limited most =>
      have within := counted.within most limit
      simp only [RetryLimit.allows, Bool.not_eq_true', decide_eq_false_iff_not, not_lt,
        RetryLimit.limited.injEq, exists_eq_left']
      exact within.ge_iff_eq

theorem Counted.completed {candidate : Candidate} (counted : candidate.Counted)
    (further : candidate.ending = none → candidate.exhausted = false) (now : Nat) :
    (candidate.completed now).Counted := by
  have samePolicy := (persists_completed now candidate).policy
  by_cases active : candidate.ending = none
  · obtain ⟨retries, exhausted⟩ := completed_of_active active now
    constructor
    · rw [samePolicy, retries, exhausted, further active, Bool.false_or]
    · intro most limit
      have below := counted.retries_lt (further active) (samePolicy ▸ limit)
      rw [retries]
      exact (Nat.min_le_left _ _).trans below
  · rw [completed_of_ended active]
    exact counted.congr rfl rfl rfl

end Candidate

/-! ## The tally of a message -/

/-- The number of resends that are under way. -/
def countUnderWay (errands : Multiset Errand) : Nat :=
  Multiset.card (errands.filterMap Errand.underWay?)

@[simp]
theorem countUnderWay_waiting (job : Job) (errands : Multiset Errand) :
    countUnderWay (.waiting job ::ₘ errands) = countUnderWay errands := by
  rw [countUnderWay, Multiset.filterMap_cons_none _ _ rfl, countUnderWay]

@[simp]
theorem countUnderWay_underWay (job : Job) (errands : Multiset Errand) :
    countUnderWay (.underWay job ::ₘ errands) = countUnderWay errands + 1 := by
  rw [countUnderWay, Multiset.filterMap_cons_some Errand.underWay? _ _ rfl, Multiset.card_cons,
    countUnderWay]

namespace Share

open Candidate

/-- The resends of a message that went out agree with its count and its limit. -/
structure Tallied (share : Share) : Prop where
  vacant : share.candidate = none → share.resends = []
  counted : ∀ candidate, share.candidate = some candidate → candidate.Counted
  bounded : ∀ candidate most, share.candidate = some candidate →
    candidate.policy.limit = .limited most → most ≤ RetryLimit.greatest →
    share.resends.length ≤ most
  /-- Until the candidate ends, the resends that went out are counted or under way. -/
  even : ∀ candidate, share.candidate = some candidate → candidate.ending = none →
    candidate.retries < greatestRetries →
    share.resends.length = candidate.retries + countUnderWay share.errands

theorem tallied_none {errands : Multiset Errand} : Tallied ⟨none, errands, []⟩ where
  vacant := fun _ => rfl
  counted := by
    rintro _ ⟨⟩
  bounded := by
    rintro _ _ ⟨⟩
  even := by
    rintro _ ⟨⟩

theorem tallied_some {candidate : Candidate} {errands : Multiset Errand} {resends : List Resend}
    (counted : candidate.Counted)
    (bounded : ∀ most, candidate.policy.limit = .limited most → most ≤ RetryLimit.greatest →
      resends.length ≤ most)
    (even : candidate.ending = none → candidate.retries < greatestRetries →
      resends.length = candidate.retries + countUnderWay errands) :
    Tallied ⟨some candidate, errands, resends⟩ where
  vacant := by
    rintro ⟨⟩
  counted := by
    rintro _ ⟨⟩
    exact counted
  bounded := by
    rintro _ most ⟨⟩
    exact bounded most
  even := by
    rintro _ ⟨⟩
    exact even

/-- What a change of the candidate and its errands has to respect while nothing goes out. -/
theorem Tallied.change {candidate changed : Candidate} {errands others : Multiset Errand}
    {resends : List Resend} (tallied : Tallied ⟨some candidate, errands, resends⟩)
    (counted : changed.Counted) (samePolicy : changed.policy = candidate.policy)
    (even : changed.ending = none → changed.retries < greatestRetries →
      candidate.ending = none ∧ candidate.retries < greatestRetries ∧
        candidate.retries + countUnderWay errands = changed.retries + countUnderWay others) :
    Tallied ⟨some changed, others, resends⟩ := by
  apply tallied_some counted
  · intro most
    rw [samePolicy]
    exact tallied.bounded candidate most rfl
  · intro active below
    obtain ⟨wasActive, wasBelow, same⟩ := even active below
    rw [tallied.even candidate rfl wasActive wasBelow, same]

/-- Nothing is counted, and what is under way stays so. -/
theorem Tallied.keep {candidate changed : Candidate} {errands others : Multiset Errand}
    {resends : List Resend} (tallied : Tallied ⟨some candidate, errands, resends⟩)
    (samePolicy : changed.policy = candidate.policy)
    (sameRetries : changed.retries = candidate.retries)
    (sameFlag : changed.exhausted = candidate.exhausted)
    (active : changed.ending = none → candidate.ending = none)
    (sameErrands : countUnderWay others = countUnderWay errands) :
    Tallied ⟨some changed, others, resends⟩ := by
  have counted := (tallied.counted candidate rfl).congr samePolicy sameRetries sameFlag
  apply tallied.change counted samePolicy
  rw [sameRetries, sameErrands]
  exact fun isActive below => ⟨active isActive, below, rfl⟩

/-- A job that is left of a candidate that has not ended means that it is not exhausted. -/
theorem Sound.exhausted_eq_false {candidate : Candidate} {errand : Errand}
    {errands : Multiset Errand} {resends : List Resend}
    (sound : Sound ⟨some candidate, errand ::ₘ errands, resends⟩)
    (active : candidate.ending = none) : candidate.exhausted = false := by
  have counted := sound.single candidate rfl active
  cases pending : candidate.pending with
  | true => exact ((sound.candidate candidate rfl).busy pending).2.1
  | false =>
      rw [pending, Multiset.card_cons] at counted
      cases counted

/-- When a resend begins, all others have been counted, and the limit allows it. -/
theorem Tallied.begins {candidate : Candidate} {job : Job} {errands : Multiset Errand}
    {resends : List Resend} (sound : Sound ⟨some candidate, .waiting job ::ₘ errands, resends⟩)
    (tallied : Tallied ⟨some candidate, .waiting job ::ₘ errands, resends⟩)
    (may : candidate.maySend = true) :
    errands = 0 ∧ (candidate.retries < greatestRetries → resends.length = candidate.retries) ∧
      ∀ most, candidate.policy.limit = .limited most → most ≤ RetryLimit.greatest →
        resends.length + 1 ≤ most := by
  obtain ⟨_, _, active, further, _⟩ := maySend_eq_true_iff.mp may
  have noOther : errands = 0 := Multiset.card_eq_zero.mp (sound.card_rest active)
  have even : candidate.retries < greatestRetries → resends.length = candidate.retries := by
    intro below
    have same := tallied.even candidate rfl active below
    rwa [countUnderWay_waiting, noOther] at same
  refine ⟨noOther, even, ?_⟩
  intro most limit atMost
  have below := (tallied.counted candidate rfl).retries_lt further limit
  rw [even (below.trans_le atMost)]
  exact below

/-- Every turn keeps the tally. -/
theorem Tallied.turn {now : Nat} {before after : Share} (sound : before.Sound)
    (tallied : before.Tallied) (turn : Turn now before after) : after.Tallied := by
  cases turn with
  | step step =>
      cases step with
      | quiet => exact tallied
      | @handOver identity candidate message errands resends free held =>
          exact tallied.keep rfl rfl rfl id (countUnderWay_waiting _ errands)
      | @begin job candidate errands resends may =>
          obtain ⟨noOther, even, bounded⟩ := tallied.begins sound may
          apply tallied_some (tallied.counted candidate rfl)
          · exact bounded
          · intro _ below
            rw [List.length_cons, even below, countUnderWay_underWay, noOther]
            rfl
      | @deliver job candidate errands resends may =>
          obtain ⟨noOther, even, bounded⟩ := tallied.begins sound may
          obtain ⟨_, _, active, further, _⟩ := maySend_eq_true_iff.mp may
          have retries := (completed_of_active active now).1
          apply tallied_some
          · exact (tallied.counted candidate rfl).completed (fun _ => further) now
          · intro most
            rw [(persists_completed now candidate).policy]
            exact bounded most
          · intro _ below
            rw [retries] at below ⊢
            rw [List.length_cons, noOther, even (by omega)]
            change candidate.retries + 1 = min (candidate.retries + 1) greatestRetries + 0
            omega
      | @conclude job candidate errands resends =>
          cases candidate with
          | none =>
              obtain rfl : resends = [] := tallied.vacant rfl
              exact tallied_none
          | some candidate =>
              have counted := (tallied.counted candidate rfl).completed
                sound.exhausted_eq_false now
              apply tallied.change counted (persists_completed now candidate).policy
              intro active below
              have wasActive : candidate.ending = none := by
                rcases candidate.completed_eq now with ⟨_, _, _, _, _, completed⟩
                rwa [completed] at active
              have retries := (completed_of_active wasActive now).1
              rw [retries] at below ⊢
              refine ⟨wasActive, by omega, ?_⟩
              rw [countUnderWay_underWay]
              omega
      | @skip job candidate errands resends refused =>
          cases candidate with
          | none =>
              obtain rfl : resends = [] := tallied.vacant rfl
              exact tallied_none
          | some candidate =>
              exact tallied.keep rfl rfl rfl id (countUnderWay_waiting job errands).symm
      | @finish ending candidate errands resends =>
          have ended := (sound_finished ending candidate).kept.mp rfl
          exact tallied.keep rfl rfl rfl (fun active => absurd active ended) rfl
  | @enroll routing suspended message errands resends =>
      obtain rfl : resends = [] := tallied.vacant rfl
      obtain rfl : errands = 0 := sound.vacant rfl
      apply tallied_some (counted_register now routing suspended message)
      · exact fun _ _ _ => Nat.zero_le _
      · exact fun _ _ => rfl
  | @suspend candidate errands resends =>
      rcases candidate.paused_eq with ⟨_, paused, _⟩
      rw [paused]
      exact tallied.keep rfl rfl rfl id rfl
  | @wake candidate errands resends =>
      rcases candidate.woken_eq now with ⟨_, _, woken⟩
      rw [woken]
      exact tallied.keep rfl rfl rfl id rfl

end Share

/-! ## The retries of an outline -/

namespace Outline

open Deed

/-- The number of retries of a message; one that is not registered has none. -/
def retriesOf (outline : Outline) (identity : Nat) : Nat :=
  ((outline.candidates[identity]?).map Candidate.retries).getD 0

/-- Whether a message is registered and has not ended. -/
def isActive (outline : Outline) (identity : Nat) : Bool :=
  ((outline.candidates[identity]?).map Candidate.ending).any Option.isNone

/-- The number of retries after so many more have completed. -/
def retriesAfter (outline : Outline) (identity more : Nat) : Nat :=
  if outline.isActive identity then
    min (outline.retriesOf identity + more) Candidate.greatestRetries
  else outline.retriesOf identity

theorem retriesAfter_zero {outline : Outline} {identity : Nat}
    (capped : outline.retriesOf identity ≤ Candidate.greatestRetries) :
    outline.retriesAfter identity 0 = outline.retriesOf identity := by
  unfold retriesAfter
  split
  · exact Nat.min_eq_left capped
  · rfl

theorem retriesAfter_le {outline : Outline} {identity : Nat}
    (capped : outline.retriesOf identity ≤ Candidate.greatestRetries) (more : Nat) :
    outline.retriesAfter identity more ≤ Candidate.greatestRetries := by
  unfold retriesAfter
  split
  · exact Nat.min_le_right _ _
  · exact capped

theorem retriesOf_modify {change : Candidate → Candidate}
    (same : ∀ candidate : Candidate, (change candidate).retries = candidate.retries)
    (outline : Outline) (identity other : Nat) :
    (outline.modify identity change).retriesOf other = outline.retriesOf other :=
  congrArg (Option.getD · 0) (view_modify same outline identity other)

theorem retriesOf_modifyAll {change : Candidate → Candidate}
    (same : ∀ candidate : Candidate, (change candidate).retries = candidate.retries)
    (outline : Outline) (identities : List Nat) (other : Nat) :
    (outline.modifyAll identities change).retriesOf other = outline.retriesOf other :=
  congrArg (Option.getD · 0) (view_modifyAll same outline identities other)

/-- A new message has no retry yet. -/
theorem retriesOf_enroll (outline : Outline) (now : Nat) (routing : Executor.Routing)
    (suspended : Bool) (message : Message) (roster : Roster) (identity : Nat) :
    ({ outline with
      candidates := outline.candidates ++ [Candidate.register now routing suspended message]
      roster } : Outline).retriesOf identity = outline.retriesOf identity := by
  simp only [retriesOf]
  rcases Nat.lt_trichotomy identity outline.candidates.length with known | rfl | unknown
  · rw [List.getElem?_append_left known]
  · rw [List.getElem?_concat_length, List.getElem?_eq_none_iff.mpr (Nat.le_refl _)]
    rfl
  · rw [List.getElem?_eq_none_iff.mpr (by simpa using Nat.succ_le_of_lt unknown),
      List.getElem?_eq_none_iff.mpr unknown.le]

/-- The completion of a resend is counted for its message. -/
theorem retriesOf_completed (outline : Outline) (identity now : Nat) :
    (outline.modify identity (Candidate.completed now)).retriesOf identity =
      outline.retriesAfter identity 1 := by
  have after : (outline.modify identity (Candidate.completed now)).candidates[identity]? =
      (outline.candidates[identity]?).map (Candidate.completed now) := by
    simp [modify]
  cases found : outline.candidates[identity]? with
  | none => simp [retriesAfter, retriesOf, isActive, after, found]
  | some candidate =>
      by_cases active : candidate.ending = none
      · simp [retriesAfter, retriesOf, isActive, after, found, active,
          (Candidate.completed_of_active active now).1]
      · simp [retriesAfter, retriesOf, isActive, after, found, active,
          Candidate.completed_of_ended active]

/-- What becomes of another message does not matter. -/
theorem retriesOf_modify_of_ne {outline : Outline} {identity other : Nat}
    (different : other ≠ identity) (change : Candidate → Candidate) :
    (outline.modify other change).retriesOf identity = outline.retriesOf identity := by
  simp [retriesOf, modify, different]

/-- Deeds that complete no resend count none. -/
theorem retriesAfter_of_none {outline : Outline} {identity : Nat}
    (capped : outline.retriesOf identity ≤ Candidate.greatestRetries) {deeds : List Deed}
    (noneCompletes : ∀ deed ∈ deeds, completed? deed = none) :
    outline.retriesAfter identity (Multiset.card (jobsOf completed? (about identity deeds))) =
      outline.retriesOf identity := by
  have noneAbout : jobsOf completed? (about identity deeds) = 0 :=
    jobsOf_eq_zero fun deed present => noneCompletes deed (List.mem_of_mem_filter present)
  rw [noneAbout, Multiset.card_zero, retriesAfter_zero capped]

/-- The completed resends of a message are counted, and no others. -/
theorem Deals.retriesOf_eq {now : Nat} {before after : Outline} {deeds : List Deed}
    (deals : Deals now before deeds after) {identity : Nat}
    (capped : before.retriesOf identity ≤ Candidate.greatestRetries) :
    after.retriesOf identity = before.retriesAfter identity
      (Multiset.card (jobsOf completed? (about identity deeds))) := by
  induction deals with
  | quiet sameCandidates _ =>
      rw [retriesAfter_of_none capped (by simp), retriesOf, sameCandidates, retriesOf]
  | build hands =>
      rw [retriesAfter_of_none capped (by simp [completed?])]
      cases hands with
      | nothing => rfl
      | job found free held =>
          apply retriesOf_modify
          exact fun _ => rfl
  | begin =>
      rw [retriesAfter_of_none capped (by simp [completed?])]
      rfl
  | @complete before job =>
      by_cases ours : job.candidate = identity
      · subst ours
        have completes : jobsOf completed? (about job.candidate [.completed job]) = {job} := by
          simp [about, Deed.job, jobsOf, completed?]
        rw [completes, Multiset.card_singleton, retriesOf_completed]
      · have notAbout : about identity [.completed job] = [] := by
          simp [about, Deed.job, ours]
        rw [notAbout, retriesOf_modify_of_ne ours]
        exact (retriesAfter_zero capped).symm
  | abandon =>
      rw [retriesAfter_of_none capped (by simp [completed?])]
      apply retriesOf_modify
      exact fun _ => rfl
  | @trans first middle last early late earlyDeals _ earlier later =>
      have sameActive : middle.isActive identity = first.isActive identity :=
        congrArg (Option.any Option.isNone) (earlyDeals.ending identity)
      have toMiddle := earlier capped
      have toLast := later (toMiddle ▸ retriesAfter_le capped _)
      rw [toLast, retriesAfter, sameActive, toMiddle, about_append, jobsOf_append,
        Multiset.card_add]
      unfold retriesAfter
      split <;> omega

end Outline

namespace Service

open Deed

/-! ## The retries of a run -/

theorem retriesOf_joined {before after : Service} (joined : before.Joined after) (identity : Nat) :
    after.outline.retriesOf identity = before.outline.retriesOf identity := by
  rcases joined with ⟨more, _, isAfter⟩
  rw [isAfter]
  rfl

/-- No command counts a retry. -/
theorem retriesOf_carryOut (service : Service) (command : Command) (identity : Nat) :
    (service.carryOut command).outline.retriesOf identity =
      service.outline.retriesOf identity := by
  have finished (ending : Ending) (identities : List Nat) :
      (service.outline.modifyAll identities (Candidate.finished ending)).retriesOf identity =
        service.outline.retriesOf identity := by
    apply Outline.retriesOf_modifyAll
    exact fun _ => rfl
  cases command with
  | add message =>
      rw [outline_add]
      split
      · exact Outline.retriesOf_enroll _ _ _ _ _ _ _
      · rfl
  | purgeAcknowledged sequence acknowledged =>
      rw [outline_purgeAcknowledged]
      split
      · rfl
      · exact finished .resolved _
  | purgeAll sequence =>
      rw [outline_purgeAll]
      exact finished .cancelled _
  | stop sequence =>
      rw [outline_stop]
      exact finished .cancelled _
  | shutdown =>
      rw [outline_shutdown]
      exact finished .cancelled _
  | suspend sequence =>
      rw [outline_suspend]
      apply Outline.retriesOf_modifyAll
      intro candidate
      rcases candidate.paused_eq with ⟨_, paused, _⟩
      rw [paused]
  | resume sequence =>
      rw [outline_resume]
      split
      · apply Outline.retriesOf_modifyAll
        intro candidate
        rcases candidate.woken_eq service.now with ⟨_, _, woken⟩
        rw [woken]
      · rfl
  | request _ _ | join _ | serve _ | announce _ | setExecutors _ | closeAgenda
  | prepare _ _ | exchangeStore _ => exact retriesOf_joined (joined_carryOut service rfl) identity

/-- What a move does with the resends of a message that is registered and has not ended. -/
def deedsBeforeEnd (identity : Nat) (service : Service) (move : Move) : List Deed :=
  if (service.world.candidate? identity).any fun candidate => !candidate.phase.isTerminal then
    about identity (service.deeds move)
  else []

/-- What a run does with the resends of a message until it ends, oldest deed first. -/
def historyUntilEnd (identity : Nat) (moves : List Move) (first : Service) : List Deed :=
  gather (deedsBeforeEnd identity) moves first

theorem isActive_outline (service : Service) (identity : Nat) :
    service.outline.isActive identity =
      (service.world.candidate? identity).any fun candidate => !candidate.phase.isTerminal := by
  have untimed : service.outline.candidates[identity]? =
      (service.world.candidate? identity).map Candidate.untimed :=
    Registry.getElem?_outline service.world identity
  rw [Outline.isActive, untimed]
  cases service.world.candidate? identity with
  | none => rfl
  | some candidate =>
      simp only [Option.map_some, Option.any_some, Candidate.isTerminal_phase]
      cases ended : candidate.ending <;> simp [Candidate.untimed, ended]

/-- A move counts the resends that it completes for a message that has not ended. -/
theorem retriesOf_move {service after : Service} {move : Move} (tidy : service.AllTidy)
    (moved : service.move? move = some after) {identity : Nat}
    (capped : service.outline.retriesOf identity ≤ Candidate.greatestRetries) :
    after.outline.retriesOf identity = min (service.outline.retriesOf identity +
        Multiset.card (jobsOf completed? (service.deedsBeforeEnd identity move)))
      Candidate.greatestRetries := by
  have uncounted (noDeed : service.deeds move = [])
      (same : after.outline.retriesOf identity = service.outline.retriesOf identity) :
      after.outline.retriesOf identity = min (service.outline.retriesOf identity +
        Multiset.card (jobsOf completed? (service.deedsBeforeEnd identity move)))
      Candidate.greatestRetries := by
    have none : service.deedsBeforeEnd identity move = [] := by
      rw [deedsBeforeEnd, noDeed]
      exact ite_self _
    rw [none, same]
    exact (Nat.min_eq_left capped).symm
  cases move with
  | command command =>
      obtain rfl := eq_carryOut moved
      exact uncounted rfl (retriesOf_carryOut service command identity)
  | step index =>
      cases (acts_stepAt tidy moved).1 with
      | deals deals =>
          rw [deals.retriesOf_eq capped, Outline.retriesAfter, isActive_outline, deedsBeforeEnd]
          split
          · rfl
          · exact (Nat.min_eq_left capped).symm
      | shutdown noDeed candidates _ =>
          apply uncounted noDeed
          rw [Outline.retriesOf, candidates]
          apply Outline.retriesOf_modifyAll
          exact fun _ => rfl
  | rouse index position =>
      apply uncounted rfl
      rw [outline_rouseTo moved]
  | wait instant =>
      apply uncounted rfl
      obtain rfl := eq_wait moved
      rfl
  | reorder roster =>
      apply uncounted rfl
      obtain ⟨_, rfl⟩ := eq_reorder moved
      rfl

/-- The retries of a message are the resends that were completed before it ended. -/
theorem retriesOf_run {first last : Service} {moves : List Move} (initial : first.IsInitial)
    (run : Run first moves last) (identity : Nat) :
    last.outline.retriesOf identity =
      min (Multiset.card (jobsOf completed? (historyUntilEnd identity moves first)))
        Candidate.greatestRetries := by
  induction run with
  | start =>
      rw [outline_of_isInitial initial]
      exact (Nat.zero_min _).symm
  | extend run moved inductionHypothesis =>
      have capped := inductionHypothesis.trans_le (Nat.min_le_right _ _)
      rw [historyUntilEnd] at inductionHypothesis ⊢
      rw [retriesOf_move (initial.sound.run run).tidy moved capped, inductionHypothesis,
        gather_concat _ run, jobsOf_append, Multiset.card_add]
      omega

theorem tallied_run {first last : Service} {moves : List Move} (initial : first.IsInitial)
    (run : Run first moves last) (identity : Nat) : (last.outline.share identity).Tallied :=
  share_run Share.tallied_none Share.Tallied.turn initial run identity

/-- No more resends of a message ever begin than its limit allows, whichever limit that can
be written down it has.  Its retries are the resends that were completed before it ended, as
far as they can be counted, and until it ends, it is in the phase of exhaustion exactly if
they have reached the limit. -/
theorem retries_exact {first last : Service} {moves : List Move} (initial : first.IsInitial)
    (run : Run first moves last) {identity : Nat} {candidate : Candidate}
    (found : last.world.candidate? identity = some candidate) :
    (∀ most, candidate.status.limit = .limited most → most ≤ RetryLimit.greatest →
        (last.world.journal.resends.filter fun resend =>
          resend.job.candidate = identity).length ≤ most) ∧
      candidate.status.retries =
        min (Multiset.card (jobsOf completed? (historyUntilEnd identity moves first)))
          Candidate.greatestRetries ∧
      (candidate.status.phase.isTerminal = false →
        (candidate.status.phase = .exhausted ↔
          ∃ most, candidate.status.limit = .limited most ∧ candidate.status.retries = most)) := by
  have inOutline := candidate_share found
  have tallied := tallied_run initial run identity
  refine ⟨?_, ?_, ?_⟩
  · exact fun most limit atMost => tallied.bounded _ most inOutline limit atMost
  · rw [← retriesOf_run initial run]
    exact (congrArg (fun untimed => (untimed.map Candidate.retries).getD 0) inOutline).symm
  · intro active
    have notEnded : candidate.ending = none := Candidate.ending_eq_none_of_phase active
    have counted := tallied.counted _ inOutline
    exact (Candidate.phase_eq_exhausted_iff notEnded).trans counted.exhausted_iff

end Service

namespace Sample

/-- A message that may be resent so many times. -/
def limitedMessage (most : Nat) : Message :=
  { message 1 none with policy := { Policy.standard with limit := .limited most } }

/-- A message that may be resent once is asked for twice. -/
def limitReached : List Move :=
  [.command (.add (limitedMessage 1)), .command (.request none (.attempt sequence 1)), .step 0,
    .step 0, .step 0, .command (.request none (.attempt sequence 1)), .step 0]

end Sample

namespace Service

/-- The message has gone out once, and is exhausted. -/
theorem retries_exact_of_limitReached :
    ∃ service candidate, Run (Sample.service .byHand) Sample.limitReached service ∧
      service.world.candidate? 0 = some candidate ∧ candidate.status.limit = .limited 1 ∧
      1 ≤ RetryLimit.greatest ∧ candidate.status.phase.isTerminal = false ∧
      (service.world.journal.resends.filter fun resend =>
        resend.job.candidate = 0).length ≤ 1 ∧
      candidate.status.retries = 1 ∧ candidate.status.phase = .exhausted := by
  obtain ⟨service, followed, looks⟩ := Option.bind_eq_some_iff.mp
    (rfl : ((follow Sample.limitReached (Sample.service .byHand)).bind fun service =>
      (service.world.candidate? 0).map fun candidate =>
        (candidate.status.limit, candidate.status.phase.isTerminal)) =
          some (.limited 1, false))
  obtain ⟨candidate, found, seen⟩ := Option.map_eq_some_iff.mp looks
  obtain ⟨limit, active⟩ := Prod.mk.inj seen
  have run := Run.of_follow followed
  have representable : 1 ≤ RetryLimit.greatest := by decide
  obtain ⟨bounded, retries, exhausted⟩ :=
    retries_exact (Sample.isInitial_service .byHand) run found
  have once : candidate.status.retries = 1 := by
    rw [retries]
    rfl
  exact ⟨service, candidate, run, found, limit, representable, active,
    bounded 1 limit representable, once, (exhausted active).mpr ⟨1, limit, once⟩⟩

end Service

end Redelivery
