import Redelivery.Proofs.Share

/-!
# Turns of shares

What happens to an outline in the course of a resend is a turn for the message
in question, and does not concern any other message.
-/

namespace Redelivery

namespace Share

/-! ## Handing over -/

/-- What handing over resends does to a share: nothing, or it adds one errand. -/
inductive Lends (identity : Nat) : Share → Share → Prop where
  | nothing {share : Share} : Lends identity share share
  | job {candidate : Candidate} {message : Message} {errands : Multiset Errand}
      {resends : List Resend} :
      candidate.isFree = true → candidate.message = some message →
      Lends identity ⟨some candidate, errands, resends⟩
        ⟨some candidate.handedOver, .waiting (candidate.job identity message) ::ₘ errands,
          resends⟩

theorem Lends.step {identity now : Nat} {before after : Share}
    (lends : Lends identity before after) : Step now before after := by
  cases lends with
  | nothing => exact .quiet
  | job free held => exact .handOver identity free held

/-- A candidate that has handed over a resend is not free to hand over another. -/
theorem Lends.trans {identity : Nat} {first second third : Share}
    (earlier : Lends identity first second) (later : Lends identity second third) :
    Lends identity first third := by
  cases earlier with
  | nothing => exact later
  | job free held =>
      cases later with
      | nothing => exact .job free held
      | job freeAgain _ =>
          have busy := (Candidate.isFree_eq_true_iff.mp freeAgain).1
          cases busy

end Share

namespace Outline

theorem shareWith_modify_of_ne {outline : Outline} {identity other : Nat}
    (different : identity ≠ other) (change : Candidate → Candidate) (others : Multiset Errand) :
    (outline.modify identity change).shareWith other others =
      outline.shareWith other others := by
  simp [shareWith, modify, different]

/-- The errands of a job that may have been handed over. -/
def errandsFor (job : Option Job) : Multiset Errand :=
  (job.toList.map Errand.waiting : List Errand)

/-- Handing over a resend of one candidate lends at most one errand to each
message. -/
theorem Hands.lends {before after : Outline} {identity : Nat} {job : Option Job}
    (hands : before.Hands identity after job) (others : Multiset Errand) (other : Nat) :
    Share.Lends other (before.shareWith other others)
      (after.shareWith other (errandsFor job + others)) := by
  cases hands with
  | nothing =>
      rw [errandsFor, Option.toList_none, List.map_nil, Multiset.coe_nil, zero_add]
      exact .nothing
  | @job candidate message found free held =>
      by_cases same : identity = other
      · subst same
        have lender : before.shareWith identity others =
            ⟨some candidate, (before.shareWith identity others).errands,
              (before.shareWith identity others).resends⟩ := by
          rw [← found]
          rfl
        have borrower : (before.modify identity Candidate.handedOver).shareWith identity
            (errandsFor (some (candidate.job identity message)) + others) =
            ⟨some candidate.handedOver,
              .waiting (candidate.job identity message) ::ₘ
                (before.shareWith identity others).errands,
              (before.shareWith identity others).resends⟩ := by
          simp only [shareWith, errandsFor, Option.toList_some, List.map_cons, List.map_nil,
            Multiset.coe_singleton, Multiset.singleton_add, Multiset.cons_add]
          rw [Multiset.filter_cons_of_pos _ (by simp)]
          simp [modify, found]
        rw [lender, borrower]
        exact .job free held
      · have notOurs : (before.modify identity Candidate.handedOver).shareWith other
            (errandsFor (some (candidate.job identity message)) + others) =
            before.shareWith other others := by
          rw [shareWith_modify_of_ne same]
          simp [shareWith, errandsFor, same]
        rw [notOurs]
        exact .nothing

/-- Outlines that agree on the candidates, the resends and all errands say the same
of every message. -/
theorem shareWith_congr {first second : Outline} {others more : Multiset Errand}
    (sameCandidates : first.candidates = second.candidates)
    (sameResends : first.resends = second.resends)
    (sameErrands : others + errandsIn first.programs = more + errandsIn second.programs)
    (identity : Nat) : first.shareWith identity others = second.shareWith identity more := by
  simp only [shareWith, sameCandidates, sameResends, sameErrands]

end Outline

namespace Outline

/-! ## The course of a resend -/

theorem shareWith_cons_self (outline : Outline) (errand : Errand) (identity : Nat)
    (ours : errand.job.candidate = identity) (others : Multiset Errand) :
    outline.shareWith identity (errand ::ₘ others) =
      ⟨outline.candidates[identity]?, errand ::ₘ (outline.shareWith identity others).errands,
        (outline.shareWith identity others).resends⟩ := by
  simp only [shareWith, Multiset.cons_add]
  congr 1
  exact Multiset.filter_cons_of_pos _ ours

theorem shareWith_cons_of_ne (outline : Outline) (errand : Errand) {identity : Nat}
    (notOurs : errand.job.candidate ≠ identity) (others : Multiset Errand) :
    outline.shareWith identity (errand ::ₘ others) = outline.shareWith identity others := by
  simp only [shareWith, Multiset.cons_add]
  congr 1
  exact Multiset.filter_cons_of_neg _ notOurs

theorem shareWith_modify_self (outline : Outline) (identity : Nat)
    (change : Candidate → Candidate) (others : Multiset Errand) :
    (outline.modify identity change).shareWith identity others =
      ⟨outline.candidates[identity]?.map change, (outline.shareWith identity others).errands,
        (outline.shareWith identity others).resends⟩ := by
  simp [shareWith, modify]

theorem shareWith_noteResend_self (outline : Outline) (now : Nat) (job : Job)
    (others : Multiset Errand) :
    (outline.noteResend now job).shareWith job.candidate others =
      ⟨outline.candidates[job.candidate]?, (outline.shareWith job.candidate others).errands,
        { instant := now, job } :: (outline.shareWith job.candidate others).resends⟩ := by
  simp [shareWith, noteResend]

theorem shareWith_noteResend_of_ne (outline : Outline) (now : Nat) {job : Job} {identity : Nat}
    (notOurs : job.candidate ≠ identity) (others : Multiset Errand) :
    (outline.noteResend now job).shareWith identity others =
      outline.shareWith identity others := by
  simp [shareWith, noteResend, notOurs]

/-- What may happen to one candidate may happen to several. -/
theorem related_modifyAll {related : Share → Share → Prop} {change : Candidate → Candidate}
    {outline : Outline} (quiet : ∀ share, related share share)
    (changes : ∀ candidate errands resends, related ⟨some candidate, errands, resends⟩
      ⟨some (change candidate), errands, resends⟩)
    (identities : List Nat) (others : Multiset Errand) (identity : Nat) :
    related (outline.shareWith identity others)
      ((outline.modifyAll identities change).shareWith identity others) := by
  have changed : (outline.modifyAll identities change).shareWith identity others =
      ⟨outline.candidates[identity]?.map fun candidate =>
          if identity ∈ identities then change candidate else candidate,
        (outline.shareWith identity others).errands,
        (outline.shareWith identity others).resends⟩ := by
    simp [shareWith, modifyAll]
  rw [changed]
  cases found : outline.candidates[identity]? with
  | none =>
      rw [Option.map_none, ← found]
      exact quiet _
  | some candidate =>
      have unchanged : outline.shareWith identity others =
          ⟨some candidate, (outline.shareWith identity others).errands,
            (outline.shareWith identity others).resends⟩ := by
        rw [← found]
        rfl
      rw [unchanged, Option.map_some]
      split
      · exact changes candidate _ _
      · exact quiet _

/-- A new candidate takes the first identity that is free. -/
theorem turn_enroll (outline : Outline) (routing : Executor.Routing) (suspended : Bool)
    (message : Message) (roster : Roster) (identity now : Nat) :
    Share.Turn now (outline.share identity)
      ({ outline with
        candidates := outline.candidates ++ [Candidate.register now routing suspended message]
        roster }.share identity) := by
  have after : ({ outline with
      candidates := outline.candidates ++ [Candidate.register now routing suspended message]
      roster } : Outline).share identity =
      ⟨(outline.candidates ++ [Candidate.register now routing suspended message])[identity]?,
        (outline.share identity).errands, (outline.share identity).resends⟩ := rfl
  rw [after]
  rcases Nat.lt_trichotomy identity outline.candidates.length with known | next | unknown
  · rw [List.getElem?_append_left known]
    exact .quiet
  · have before : outline.share identity =
        ⟨none, (outline.share identity).errands, (outline.share identity).resends⟩ := by
      rw [← List.getElem?_eq_none_iff.mpr next.ge]
      rfl
    rw [before, next, List.getElem?_concat_length]
    exact .enroll routing suspended message
  · have before : outline.candidates[identity]? = none :=
      List.getElem?_eq_none_iff.mpr unknown.le
    rw [List.getElem?_eq_none_iff.mpr (by simpa using Nat.succ_le_of_lt unknown), ← before]
    exact .quiet

/-- A message does not notice that the roster changes along with its candidate. -/
theorem turn_relist {change : Candidate → Candidate} {now : Nat} {outline : Outline}
    (turn : ∀ candidate errands resends, Share.Turn now ⟨some candidate, errands, resends⟩
      ⟨some (change candidate), errands, resends⟩)
    (identities : List Nat) (roster : Roster) (identity : Nat) :
    Share.Turn now (outline.share identity)
      ({ outline.modifyAll identities change with roster }.share identity) :=
  related_modifyAll (fun _ => .quiet) turn identities 0 identity

/-- A resend goes out and takes its time. -/
theorem step_begin {outline : Outline} {job : Job}
    (may : (outline.candidates[job.candidate]?).any Candidate.maySend = true)
    (others : Multiset Errand) (identity : Nat) {now : Nat} :
    Share.Step now (outline.shareWith identity (.waiting job ::ₘ others))
      ((outline.noteResend now job).shareWith identity (.underWay job ::ₘ others)) := by
  by_cases ours : job.candidate = identity
  · subst ours
    rcases (Option.any_eq_true _ _).mp may with ⟨candidate, found, candidateMay⟩
    rw [shareWith_cons_self _ (.waiting job) job.candidate rfl,
      shareWith_cons_self _ (.underWay job) job.candidate rfl, shareWith_noteResend_self, found]
    simp only [noteResend, found]
    exact .begin candidateMay
  · rw [shareWith_cons_of_ne _ (.waiting job) ours, shareWith_cons_of_ne _ (.underWay job) ours,
      shareWith_noteResend_of_ne _ _ ours]
    exact .quiet

/-- A resend goes out and completes at once. -/
theorem step_deliver {outline : Outline} {job : Job}
    (may : (outline.candidates[job.candidate]?).any Candidate.maySend = true)
    (others : Multiset Errand) (identity : Nat) {now : Nat} :
    Share.Step now (outline.shareWith identity (.waiting job ::ₘ others))
      (((outline.noteResend now job).modify job.candidate
        (Candidate.completed now)).shareWith identity others) := by
  by_cases ours : job.candidate = identity
  · subst ours
    rcases (Option.any_eq_true _ _).mp may with ⟨candidate, found, candidateMay⟩
    rw [shareWith_cons_self _ (.waiting job) job.candidate rfl, shareWith_modify_self,
      shareWith_noteResend_self, found]
    simp only [noteResend, found, Option.map_some]
    exact .deliver candidateMay
  · rw [shareWith_cons_of_ne _ (.waiting job) ours, shareWith_modify_of_ne ours,
      shareWith_noteResend_of_ne _ _ ours]
    exact .quiet

/-- A resend does not go out after all. -/
theorem step_skip {outline : Outline} {job : Job}
    (refused : (outline.candidates[job.candidate]?).any Candidate.maySend = false)
    (others : Multiset Errand) (identity : Nat) {now : Nat} :
    Share.Step now (outline.shareWith identity (.waiting job ::ₘ others))
      ((outline.modify job.candidate (Candidate.abandon · job.requestAck)).shareWith identity
        others) := by
  by_cases ours : job.candidate = identity
  · subst ours
    rw [shareWith_cons_self _ (.waiting job) job.candidate rfl, shareWith_modify_self]
    exact .skip refused
  · rw [shareWith_cons_of_ne _ (.waiting job) ours, shareWith_modify_of_ne ours]
    exact .quiet

/-- A resend completes. -/
theorem step_conclude (outline : Outline) (job : Job) (others : Multiset Errand)
    (identity now : Nat) :
    Share.Step now (outline.shareWith identity (.underWay job ::ₘ others))
      ((outline.modify job.candidate (Candidate.completed now)).shareWith identity others) := by
  by_cases ours : job.candidate = identity
  · subst ours
    rw [shareWith_cons_self _ (.underWay job) job.candidate rfl, shareWith_modify_self]
    exact .conclude
  · rw [shareWith_cons_of_ne _ (.underWay job) ours, shareWith_modify_of_ne ours]
    exact .quiet

end Outline

end Redelivery
