import Redelivery.Proofs.CatchingUp
import Redelivery.Proofs.Separation

/-!
# Catching up in rounds

A registry that is driven by hand catches up by calls for what is due.  One call resends every
message that is ready, but none of them twice, so the call is repeated until it has nothing left
to resend.
-/

namespace Redelivery

namespace Service

/-- A call for what is due is repeated until it has resent nothing.  Before every call the maps
may come in another order. -/
inductive Drains : Service → Service → Prop where
  | done {service shuffled last : Service} :
      service.Shuffled shuffled →
      shuffled.Enacts (.command (.request none (.driveDue shuffled.now))) last →
      shuffled.answerOf last = some (.count 0) → Drains service last
  | again {service shuffled next last : Service} :
      service.Shuffled shuffled →
      shuffled.Enacts (.command (.request none (.driveDue shuffled.now))) next →
      shuffled.answerOf next ≠ some (.count 0) → Drains next last → Drains service last

/-- There is nothing to resend if and only if everybody has caught up. -/
theorem dueBy_eq_nil_iff {service : Service} (sound : service.Sound) :
    service.dueBy service.now = [] ↔ service.HasCaughtUp := by
  constructor
  · intro none sequence candidate present
    obtain ⟨identity, listed, found⟩ := Outline.exists_of_mem_excerpt present
    have nobody := sound.listed.filter_allActive service.now sequence
    rw [show service.outline.roster.allActive.filter (service.outline.isReady service.now) = []
      from none] at nobody
    have notReady := List.filter_eq_nil_iff.mp nobody.symm identity listed
    rw [Outline.isReady, found] at notReady
    exact Bool.eq_false_iff.mpr notReady
  · intro caughtUp
    apply List.filter_eq_nil_iff.mpr
    rintro identity _ ready
    obtain ⟨candidate, found, isReady⟩ := (Option.any_eq_true _ _).mp ready
    have active := (Candidate.isFree_eq_true_iff.mp (Bool.and_eq_true _ _ ▸ isReady).1).2.2.1
    have notReady := caughtUp _ candidate (sound.listed.mem_excerpt found active)
    exact Bool.false_ne_true (notReady.symm.trans isReady)

/-- What a round makes of a registry: everything that is ready is resent, and the answer tells
whether that was anything. -/
structure IsRound (before after : Service) (answer : Option Answer) : Prop where
  orderly : after.IsOrderly
  now : after.now = before.now
  routing : after.world.routing = before.world.routing
  excerpts : ∀ sequence, after.outline.excerpt sequence =
    (before.outline.excerpt sequence).resend before.now (Candidate.isReady before.now)
  nothing_iff : answer = some (.count 0) ↔ before.HasCaughtUp

/-- In whatever order the maps come, a call for what is due makes a round. -/
theorem IsOrderly.drives {before shuffled after : Service} (orderly : before.IsOrderly)
    (shuffles : before.Shuffled shuffled)
    (enacts : shuffled.Enacts (.command (.request none (.driveDue shuffled.now))) after) :
    before.IsRound after (shuffled.answerOf after) := by
  have sameExcerpt := Outline.excerpt_of_shuffled shuffles orderly.sound.listed.sound
  have shuffledOrderly := shuffles.isOrderly orderly
  obtain ⟨afterOrderly, stays, excerpts, _⟩ := shuffledOrderly.enacts rfl enacts
  obtain ⟨other, alsoEnacts, _, _, answer⟩ := enacts_driveDue shuffledOrderly.calm
    (shuffledOrderly.sound.listed.nodup_allActive shuffledOrderly.numbered) shuffled.now
  obtain rfl := enacts.unique alsoEnacts
  refine ⟨afterOrderly, stays.now.trans shuffles.now, stays.routing.trans shuffles.routing,
    fun sequence => ?_, ?_⟩
  · rw [← sameExcerpt, ← shuffles.now]
    exact excerpts sequence
  · have sameCatch : shuffled.HasCaughtUp ↔ before.HasCaughtUp := by
      simp only [HasCaughtUp, sameExcerpt, shuffles.now]
    rw [answer, ← sameCatch, ← dueBy_eq_nil_iff shuffledOrderly.sound, ← List.length_eq_zero_iff]
    simp

/-- Once all rounds are over, everybody has caught up.  All that the rounds do is to resend
candidates that are ready. -/
theorem Drains.spec {service last : Service} (drains : service.Drains last)
    (orderly : service.IsOrderly) :
    last.IsOrderly ∧ last.now = service.now ∧ last.world.routing = service.world.routing ∧
      last.HasCaughtUp ∧
      ∀ sequence, (service.outline.excerpt sequence).Trail service.now
        (last.outline.excerpt sequence) := by
  induction drains with
  | @done service shuffled last shuffles enacts answer =>
      have round := orderly.drives shuffles enacts
      have caughtUp := round.nothing_iff.mp answer
      have same (sequence : SequenceKey) :
          last.outline.excerpt sequence = service.outline.excerpt sequence :=
        (round.excerpts sequence).trans (Excerpt.resend_of_none _ _ (caughtUp sequence))
      refine ⟨round.orderly, round.now, round.routing, fun sequence => ?_, fun sequence => ?_⟩
      · rw [same, round.now]
        exact caughtUp sequence
      · rw [same]
        exact .refl _ _
  | @again service shuffled next last shuffles enacts _ _ inductionHypothesis =>
      have round := orderly.drives shuffles enacts
      obtain ⟨lastOrderly, sameNow, sameRouting, caughtUp, trails⟩ :=
        inductionHypothesis round.orderly
      refine ⟨lastOrderly, sameNow.trans round.now, sameRouting.trans round.routing, caughtUp,
        fun sequence => ?_⟩
      have trail := trails sequence
      obtain ⟨book, tracks⟩ := orderly.tracked
      rw [round.excerpts, round.now] at trail
      have numbered := Outline.isNumbered_excerpt (tracks.nodup_numbers sequence)
      exact (Excerpt.Trail.of_resend numbered fun _ _ ready => ready).trans trail

end Service

end Redelivery
