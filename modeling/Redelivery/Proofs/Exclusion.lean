import Redelivery.Proofs.History
import Redelivery.Proofs.Origin

/-!
# One resend at a time

A job of a message is outstanding from the moment it is built until it is completed or
abandoned, wherever it waits and whatever happens to the message meanwhile.  The candidate
marks this with a flag.  Suspending and resuming its sequence leaves the flag alone although
it arms a new timer, so that no second job is built, and no two resends of a message are
ever in progress at the same time.
-/

namespace Redelivery

namespace Deed

/-- The jobs that were built and have neither been completed nor abandoned. -/
def outstanding (deeds : List Deed) : Multiset Job :=
  jobsOf built? deeds - (jobsOf completed? deeds + jobsOf abandoned? deeds)

/-- The jobs that have begun and have not been completed. -/
def inProgress (deeds : List Deed) : Multiset Job :=
  jobsOf begun? deeds - jobsOf completed? deeds

theorem outstanding_of_accounted {errands : Multiset Errand} {deeds : List Deed}
    (accounted : errands + takenBy deeds = leftBy deeds) :
    outstanding deeds = errands.map Errand.job := by
  rw [outstanding, ← map_job_of_accounted accounted, add_tsub_cancel_right]

theorem inProgress_of_accounted {errands : Multiset Errand} {deeds : List Deed}
    (accounted : errands + takenBy deeds = leftBy deeds) :
    inProgress deeds = errands.filterMap Errand.underWay? := by
  rw [inProgress, ← underWay_of_accounted accounted, add_tsub_cancel_right]

theorem card_inProgress_le {errands : Multiset Errand} {deeds : List Deed}
    (accounted : errands + takenBy deeds = leftBy deeds) :
    Multiset.card (inProgress deeds) ≤ Multiset.card errands := by
  rw [inProgress_of_accounted accounted]
  induction errands using Quotient.inductionOn with
  | h errands => exact List.length_filterMap_le Errand.underWay? errands

end Deed

namespace Share

/-- No turn gives a message a second errand, whether or not the message has ended. -/
theorem Turn.card_errands {now : Nat} {before after : Share} (turn : Turn now before after)
    (sound : before.Sound) (atMost : Multiset.card before.errands ≤ 1) :
    Multiset.card after.errands ≤ 1 := by
  cases turn with
  | step step =>
      cases step with
      | quiet => exact atMost
      | @handOver identity candidate message errands resends free held =>
          rcases Candidate.isFree_eq_true_iff.mp free with ⟨idle, _, active, _⟩
          have counted := sound.single candidate rfl active
          rw [idle] at counted
          rw [Multiset.card_cons]
          exact Nat.succ_le_succ counted.le
      | begin may => simpa using atMost
      | deliver may => exact (Multiset.card_le_card (Multiset.le_cons_self _ _)).trans atMost
      | conclude => exact (Multiset.card_le_card (Multiset.le_cons_self _ _)).trans atMost
      | skip refused => exact (Multiset.card_le_card (Multiset.le_cons_self _ _)).trans atMost
      | finish ending => exact atMost
  | enroll routing suspended message => exact atMost
  | suspend => exact atMost
  | wake => exact atMost

end Share

namespace Service

open Deed

/-- A message has one errand at most. -/
theorem card_errands_run {first last : Service} {moves : List Move} (initial : first.IsInitial)
    (run : Run first moves last) (identity : Nat) :
    Multiset.card (last.outline.share identity).errands ≤ 1 :=
  share_run (Nat.zero_le 1)
    (fun sound atMost turn => turn.card_errands sound atMost) initial run identity

/-- As long as a candidate is not in a terminal phase, its flag tells whether one of its
jobs is outstanding.  There is never more than one, and never more than one resend of the
message in progress.  Whatever is completed or abandoned was built and begun before, and what
begins is what the journal notes. -/
theorem pending_iff_outstanding {first last : Service} {moves : List Move}
    (initial : first.IsInitial) (run : Run first moves last) (identity : Nat) :
    (∀ candidate, last.world.candidate? identity = some candidate →
        candidate.phase.isTerminal = false →
        (candidate.pending = true ↔ ∃ job, job ∈ outstanding (historyOf identity moves first))) ∧
      Multiset.card (outstanding (historyOf identity moves first)) ≤ 1 ∧
      Multiset.card (inProgress (historyOf identity moves first)) ≤ 1 ∧
      jobsOf completed? (historyOf identity moves first) +
        jobsOf abandoned? (historyOf identity moves first) ≤
          jobsOf built? (historyOf identity moves first) ∧
      jobsOf completed? (historyOf identity moves first) ≤
        jobsOf begun? (historyOf identity moves first) ∧
      jobsOf begun? (historyOf identity moves first) =
        ((last.world.journal.resends.filter fun resend =>
          resend.job.candidate = identity).map Resend.job : List Job) := by
  have accounted := errands_share initial run identity
  have atMost := card_errands_run initial run identity
  have isOutstanding := outstanding_of_accounted accounted
  refine ⟨?_, ?_, ?_, ?_, ?_, (resends_share_eq initial run identity).symm⟩
  · intro candidate found active
    have notEnded : candidate.ending = none := Candidate.ending_eq_none_of_phase active
    have counted := ((initial.sound.run run).share identity).single _ (candidate_share found)
      notEnded
    change _ = if candidate.pending then 1 else 0 at counted
    rw [isOutstanding, ← Multiset.card_pos_iff_exists_mem, Multiset.card_map, counted]
    cases candidate.pending <;> simp
  · rw [isOutstanding, Multiset.card_map]
    exact atMost
  · exact (card_inProgress_le accounted).trans atMost
  · rw [← map_job_of_accounted accounted]
    exact Multiset.le_add_left _ _
  · rw [← underWay_of_accounted accounted]
    exact Multiset.le_add_left _ _

end Service

namespace Sample

/-- A slow resend goes on while the sequence is suspended and resumed, and another one is
asked for in vain. -/
def slowResend : List Move :=
  [.command (.prepare (sequence, 1) [{ takes := 5, failure := none }]),
    .command (.add (message 1 none)), .command (.request none (.attempt sequence 1)), .step 0,
    .step 0, .command (.suspend sequence), .command (.resume sequence),
    .command (.request none (.attempt sequence 1)), .step 0]

end Sample

namespace Service

open Deed

/-- While a slow resend goes on, its job is outstanding and in progress. -/
theorem pending_iff_outstanding_of_slowResend :
    ∃ service candidate, Run (Sample.service .byHand) Sample.slowResend service ∧
      service.world.candidate? 0 = some candidate ∧ candidate.phase.isTerminal = false ∧
      candidate.pending = true ∧
      historyOf 0 Sample.slowResend (Sample.service .byHand) =
        [.built ⟨0, Sample.message 1 none, true⟩, .begun ⟨0, Sample.message 1 none, true⟩] ∧
      (candidate.pending = true ↔
        ∃ job, job ∈ outstanding (historyOf 0 Sample.slowResend (Sample.service .byHand))) := by
  obtain ⟨service, followed, looks⟩ := Option.bind_eq_some_iff.mp
    (rfl : ((follow Sample.slowResend (Sample.service .byHand)).bind fun service =>
      (service.world.candidate? 0).map fun candidate =>
        (candidate.phase.isTerminal, candidate.pending)) = some (false, true))
  obtain ⟨candidate, found, seen⟩ := Option.map_eq_some_iff.mp looks
  obtain ⟨active, pending⟩ := Prod.mk.inj seen
  have run := Run.of_follow followed
  have flag := (pending_iff_outstanding (Sample.isInitial_service .byHand) run 0).1
  exact ⟨service, candidate, run, found, active, pending, rfl, flag candidate found active⟩

end Service

end Redelivery
