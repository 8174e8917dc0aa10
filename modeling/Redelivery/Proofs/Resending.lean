import Redelivery.Proofs.Driving
import Redelivery.Proofs.Surroundings

/-!
# Resends that take no time

A resend that is run by whoever hands it over, and with which the transport is done at once, is
over before anything else happens.  Such resends of several messages change each of the
candidates as it alone decides, and go out in the order in which they were handed over.
-/

namespace Redelivery

namespace Candidate

/-- The candidate after a resend that took no time. -/
def resent (now : Nat) (candidate : Candidate) : Candidate :=
  candidate.handedOver.completed now

theorem handedOver_handedOver (candidate : Candidate) :
    candidate.handedOver.handedOver = candidate.handedOver :=
  rfl

/-- What a free candidate hands over may go out. -/
theorem maySend_handedOver {candidate : Candidate} (free : candidate.isFree = true) :
    candidate.handedOver.maySend = true := by
  rw [isFree_eq_true_iff] at free
  rw [maySend_eq_true_iff]
  obtain ⟨_, unsuspended, active, further, held, _⟩ := free
  exact ⟨rfl, unsuspended, active, further, held⟩

end Candidate

namespace Outline

/-- The resend that a candidate hands over next. -/
def job? (outline : Outline) (identity : Nat) : Option Job :=
  (outline.candidates[identity]?).bind fun candidate =>
    candidate.message.map (candidate.job identity)

/-- Messages are resent one after the other, which takes no time. -/
def resendAll (outline : Outline) (now : Nat) (identities : List Nat) : Outline :=
  { outline.modifyAll identities (Candidate.resent now) with
    resends := ((identities.filterMap outline.job?).map (Resend.mk now)).reverse ++
      outline.resends }

@[simp]
theorem resendAll_nil (outline : Outline) (now : Nat) : outline.resendAll now [] = outline := by
  rw [resendAll, modifyAll_nil]
  rfl

/-- Whether forcing a candidate hands over a resend: it is free and, where an instant is given,
due by then. -/
def isForcible (outline : Outline) (upTo : Option Nat) (identity : Nat) : Bool :=
  (outline.candidates[identity]?).any fun candidate => candidate.isFree && upTo.all candidate.isDue

theorem isForcible_some (outline : Outline) (upTo identity : Nat) :
    outline.isForcible (some upTo) identity = outline.isReady upTo identity :=
  rfl

theorem modifyAll_modifyAll (outline : Outline) (identities : List Nat)
    (first second : Candidate → Candidate) :
    (outline.modifyAll identities first).modifyAll identities second =
      outline.modifyAll identities (second ∘ first) := by
  simp only [modifyAll]
  congr 1
  refine List.ext_getElem? fun other => ?_
  simp only [List.getElem?_mapIdx, Option.map_map]
  congr 1
  funext candidate
  by_cases listed : other ∈ identities <;> simp [listed]

theorem getElem?_modify_of_ne {changed other : Nat} (isOther : changed ≠ other)
    (outline : Outline) (change : Candidate → Candidate) :
    (outline.modify changed change).candidates[other]? = outline.candidates[other]? := by
  simp [modify, isOther]

theorem Hands.exists_candidate {before after : Outline} {identity : Nat} {job : Job}
    (hands : before.Hands identity after (some job)) :
    ∃ candidate, after.candidates[job.candidate]? = some candidate := by
  cases hands with
  | @job candidate message found =>
      refine ⟨candidate.handedOver, ?_⟩
      rw [Candidate.candidate_job, modify, List.getElem?_modify_eq, found]
      rfl

/-- Every free candidate hands over a resend of its own. -/
theorem map_candidate_jobs {outline : Outline} {identities : List Nat}
    (free : ∀ identity ∈ identities,
      (outline.candidates[identity]?).any Candidate.isFree = true) :
    (identities.filterMap outline.job?).map Job.candidate = identities := by
  have own : ∀ identity ∈ identities,
      (outline.job? identity).map Job.candidate = some identity := by
    intro identity present
    obtain ⟨candidate, found, isFree⟩ := (Option.any_eq_true _ _).mp (free identity present)
    obtain ⟨message, held⟩ := Candidate.exists_message_of_isFree isFree
    rw [job?, found, Option.bind_some, held, Option.map_some, Option.map_some,
      Candidate.candidate_job]
  rw [List.map_filterMap]
  exact (List.filterMap_congr own).trans List.filterMap_some

/-- Who is ready is free. -/
theorem isFree_of_isForcible {outline : Outline} {upTo : Option Nat} {identity : Nat}
    (forcible : outline.isForcible upTo identity = true) :
    (outline.candidates[identity]?).any Candidate.isFree = true := by
  obtain ⟨candidate, found, ready⟩ := (Option.any_eq_true _ _).mp forcible
  exact (Option.any_eq_true _ _).mpr ⟨candidate, found, (Bool.and_eq_true _ _ ▸ ready).1⟩

end Outline

namespace Registry

/-- Forcing a candidate hands over its next resend, or does nothing. -/
theorem force_eq (registry : Registry) (identity : Nat) (upTo : Option Nat) :
    (registry.force identity upTo).1.outline =
        (if registry.outline.isForcible upTo identity then
          registry.outline.modify identity Candidate.handedOver else registry.outline) ∧
      (registry.force identity upTo).2 =
        if registry.outline.isForcible upTo identity then registry.outline.job? identity
        else none := by
  rw [Outline.isForcible, Outline.job?, getElem?_outline]
  cases found : registry.candidate? identity with
  | none =>
      simp only [force, found]
      exact ⟨rfl, rfl⟩
  | some candidate =>
      have same : (candidate.untimed.isFree && upTo.all candidate.untimed.isDue) =
          (candidate.isFree && upTo.all candidate.isDue) := rfl
      simp only [force, found, Option.map_some, Option.any_some, same, Option.bind_some]
      split
      · next forced =>
          have free : candidate.disarm.isFree = true := (Bool.and_eq_true _ _ ▸ forced).1
          obtain ⟨message, held, handed⟩ := handOver_of_isFree (candidate?_disarm_self found) free
          rw [handed]
          constructor
          · rw [outline_modify _ identity _ Candidate.handedOver fun _ => rfl, outline_disarm]
          · have isHeld : candidate.untimed.message = some message := held
            rw [isHeld]
            rfl
      · exact ⟨rfl, rfl⟩

/-- The same for a list of one candidate. -/
theorem forced_one (registry : Registry) (identity : Nat) (upTo : Option Nat) :
    (registry.force identity upTo).1.outline =
        registry.outline.modifyAll ([identity].filter (registry.outline.isForcible upTo))
          Candidate.handedOver ∧
      (registry.force identity upTo).2.toList =
        ([identity].filter (registry.outline.isForcible upTo)).filterMap registry.outline.job? := by
  obtain ⟨sameOutline, sameJob⟩ := registry.force_eq identity upTo
  rw [sameOutline, sameJob]
  cases forcible : registry.outline.isForcible upTo identity with
  | false =>
      rw [List.filter_cons_of_neg (by simp [forcible])]
      exact ⟨(Outline.modifyAll_nil _ _).symm, rfl⟩
  | true =>
      rw [List.filter_cons_of_pos forcible]
      constructor
      · rw [List.filter_nil,
          Outline.modifyAll_cons _ fun _ => Candidate.handedOver_handedOver, Outline.modifyAll_nil]
        rfl
      · cases job : registry.outline.job? identity <;> simp [job]

theorem isSome_forced (registry : Registry) (identity : Nat) (upTo : Option Nat) :
    (registry.force identity upTo).2.isSome = registry.outline.isForcible upTo identity := by
  obtain ⟨_, sameJob⟩ := registry.force_eq identity upTo
  rw [sameJob]
  cases forcible : registry.outline.isForcible upTo identity with
  | false => rfl
  | true =>
      obtain ⟨candidate, found, isFree⟩ :=
        (Option.any_eq_true _ _).mp (Outline.isFree_of_isForcible forcible)
      obtain ⟨message, held⟩ := Candidate.exists_message_of_isFree isFree
      rw [if_pos rfl, Outline.job?, found, Option.bind_some, held]
      rfl

/-- Whoever has handed over a resend is known. -/
theorem exists_of_hands {before : Outline} {registry : Registry} {identity : Nat} {job : Job}
    (hands : before.Hands identity registry.outline (some job)) :
    ∃ candidate, registry.candidate? job.candidate = some candidate := by
  obtain ⟨untimed, found⟩ := hands.exists_candidate
  rw [getElem?_outline] at found
  obtain ⟨candidate, isCandidate, _⟩ := Option.map_eq_some_iff.mp found
  exact ⟨candidate, isCandidate⟩

end Registry

namespace Service

/-- Forcing candidates one after the other hands over the resends of those that are ready. -/
theorem forced_eq (upTo : Nat) {identities : List Nat} (distinct : identities.Nodup)
    (handed : Registry × List Job) :
    (identities.foldl (forceNext upTo) handed).1.outline =
        handed.1.outline.modifyAll (identities.filter (handed.1.outline.isReady upTo))
          Candidate.handedOver ∧
      (identities.foldl (forceNext upTo) handed).2 =
        handed.2 ++
          (identities.filter (handed.1.outline.isReady upTo)).filterMap handed.1.outline.job? := by
  induction identities generalizing handed with
  | nil => exact ⟨(Outline.modifyAll_nil _ _).symm, (List.append_nil _).symm⟩
  | cons identity rest inductionHypothesis =>
      obtain ⟨absent, restDistinct⟩ := List.nodup_cons.mp distinct
      obtain ⟨sameOutline, sameJob⟩ := handed.1.force_eq identity (some upTo)
      rw [Outline.isForcible_some] at sameOutline sameJob
      rw [List.foldl_cons]
      obtain ⟨restOutline, restJobs⟩ :=
        inductionHypothesis restDistinct (forceNext upTo handed identity)
      rw [restOutline, restJobs]
      simp only [forceNext]
      cases ready : handed.1.outline.isReady upTo identity with
      | false =>
          rw [ready, if_neg Bool.false_ne_true] at sameOutline sameJob
          rw [sameOutline, sameJob, List.filter_cons_of_neg (by simp [ready])]
          simp
      | true =>
          rw [ready, if_pos rfl] at sameOutline sameJob
          have sameOthers (other : Nat) (present : other ∈ rest) :
              (handed.1.outline.modify identity Candidate.handedOver).candidates[other]? =
                handed.1.outline.candidates[other]? :=
            Outline.getElem?_modify_of_ne (by rintro rfl; exact absent present) _ _
          have sameReady : rest.filter
                ((handed.1.outline.modify identity Candidate.handedOver).isReady upTo) =
              rest.filter (handed.1.outline.isReady upTo) :=
            List.filter_congr fun other present => by
              rw [Outline.isReady, sameOthers other present, Outline.isReady]
          have sameJobs : (rest.filter (handed.1.outline.isReady upTo)).filterMap
                (handed.1.outline.modify identity Candidate.handedOver).job? =
              (rest.filter (handed.1.outline.isReady upTo)).filterMap handed.1.outline.job? :=
            List.filterMap_congr fun other present => by
              rw [Outline.job?, sameOthers other (List.mem_filter.mp present).1, Outline.job?]
          rw [sameOutline, sameJob, sameReady, sameJobs, List.filter_cons_of_pos ready]
          constructor
          · exact (Outline.modifyAll_cons _ fun _ => Candidate.handedOver_handedOver).symm
          · cases job : handed.1.outline.job? identity <;> simp [job]

theorem forceDue_eq (registry : Registry) (distinct : registry.roster.allActive.Nodup)
    (upTo : Nat) :
    (forceDue registry upTo).1.outline =
        registry.outline.modifyAll (registry.roster.allActive.filter
          (registry.outline.isReady upTo)) Candidate.handedOver ∧
      (forceDue registry upTo).2 = (registry.roster.allActive.filter
        (registry.outline.isReady upTo)).filterMap registry.outline.job? :=
  forced_eq upTo distinct (registry, [])

end Service

/-! ## Deliveries -/

namespace Registry

/-- A resend that was handed over goes out and completes, unless that is no longer wanted. -/
def deliver (now : Nat) (registry : Registry) (job : Job) : Registry :=
  if registry.maySend job then
    (registry.beginSend now job).1.concludeSend now job (registry.beginSend now job).2.failure
  else registry.abandonSend job

theorem abides_deliver (registry : Registry) (now : Nat) (job : Job) :
    registry.Abides (registry.deliver now job) := by
  unfold deliver
  split
  · exact (abides_beginSend registry now job).trans (abides_concludeSend _ now job _)
  · exact abides_modify registry job.candidate _

theorem maySend_eq (registry : Registry) (job : Job) :
    registry.maySend job =
      (registry.outline.candidates[job.candidate]?).any Candidate.maySend := by
  rw [getElem?_outline, Option.any_map]
  rfl

theorem outline_deliver {registry : Registry} {job : Job} (may : registry.maySend job = true)
    (now : Nat) :
    (registry.deliver now job).outline =
      (registry.outline.noteResend now job).modify job.candidate (Candidate.completed now) := by
  rw [deliver, if_pos may, outline_concludeSend, outline_beginSend]

/-- Resends of different messages do not get in each other's way. -/
theorem outline_deliveries (now : Nat) {jobs : List Job} {registry : Registry}
    (distinct : (jobs.map Job.candidate).Nodup)
    (may : ∀ job ∈ jobs, registry.maySend job = true) :
    (jobs.foldl (deliver now) registry).outline =
      { registry.outline.modifyAll (jobs.map Job.candidate) (Candidate.completed now) with
        resends := (jobs.map (Resend.mk now)).reverse ++ registry.outline.resends } := by
  induction jobs generalizing registry with
  | nil => exact (Outline.modifyAll_nil _ _).symm
  | cons job rest inductionHypothesis =>
      obtain ⟨absent, restDistinct⟩ := List.nodup_cons.mp distinct
      have delivered := outline_deliver (may job List.mem_cons_self) now
      have stillMay : ∀ other ∈ rest, (registry.deliver now job).maySend other = true := by
        intro other present
        have isOther : job.candidate ≠ other.candidate := fun same =>
          absent (same ▸ List.mem_map_of_mem present)
        rw [maySend_eq, delivered, Outline.getElem?_modify_of_ne isOther]
        have before := may other (List.mem_cons_of_mem _ present)
        rw [maySend_eq] at before
        exact before
      rw [List.foldl_cons, inductionHypothesis restDistinct stillMay, delivered, List.map_cons,
        Outline.modifyAll_cons _ fun again => absurd again absent]
      simp [Outline.modify, Outline.modifyAll, Outline.noteResend]

/-- Handing over resends and delivering them is resending the messages. -/
theorem outline_resent {registry handed : Registry} (now : Nat) {identities : List Nat}
    {jobs : List Job} (distinct : identities.Nodup)
    (free : ∀ identity ∈ identities,
      (registry.outline.candidates[identity]?).any Candidate.isFree = true)
    (sameOutline : handed.outline = registry.outline.modifyAll identities Candidate.handedOver)
    (sameJobs : jobs = identities.filterMap registry.outline.job?) :
    (jobs.foldl (deliver now) handed).outline = registry.outline.resendAll now identities := by
  have candidates : jobs.map Job.candidate = identities := by
    rw [sameJobs]
    exact Outline.map_candidate_jobs free
  have may : ∀ job ∈ jobs, handed.maySend job = true := by
    intro job present
    have own : job.candidate ∈ identities := by
      rw [← candidates]
      exact List.mem_map_of_mem present
    obtain ⟨candidate, found, isFree⟩ := (Option.any_eq_true _ _).mp (free _ own)
    rw [maySend_eq, sameOutline, Outline.getElem?_modifyAll, found, Option.map_some, if_pos own,
      Option.any_some]
    exact Candidate.maySend_handedOver isFree
  rw [outline_deliveries now (by rw [candidates]; exact distinct) may, candidates, sameOutline,
    Outline.modifyAll_modifyAll, sameJobs]
  rfl

end Registry

end Redelivery
