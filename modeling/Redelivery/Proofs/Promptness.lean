import Redelivery.Proofs.Enactments
import Redelivery.Proofs.Growth

/-!
# Resends that are over at once

A registry resends promptly if whoever hands a resend over runs it, and the transport is done with
it at once.  It does so for good if nothing but inline executors is ever registered and the
transport never takes time.  What makes its schedules go on holds of every registry: the policy
of a candidate has no defect, and its interval does not vanish.
-/

namespace Redelivery

/-! ## What lasts -/

namespace Candidate

/-- A property of candidates that no resend and no operation takes away. -/
def IsLasting (holds : Candidate → Prop) : Prop :=
  ∀ now, SpansTurns now fun candidate later => holds candidate → holds later

/-- What follows from the origin of a candidate lasts. -/
theorem isLasting_of_persists {holds : Candidate → Prop}
    (kept : ∀ candidate later : Candidate, candidate.Persists later → holds candidate →
      holds later) : IsLasting holds :=
  fun now => (spansTurns_persists now).mono kept

/-- A candidate starts out with an interval that has not vanished. -/
theorem interval_register_ne_zero (now : Nat) (routing : Executor.Routing) (suspended : Bool)
    {message : Message} (usable : message.policy.defect? = none) :
    (Candidate.register now routing suspended message).interval ≠ 0 := by
  have base := Policy.baseInterval_ne_zero usable
  cases first : message.policy.initialInterval with
  | none => simpa [Candidate.register, first] using base
  | some interval =>
      simpa [Candidate.register, first] using Policy.nextInterval_ne_zero usable base first

/-- A completed resend leaves the interval as it is, or takes the next one. -/
theorem interval_completed (now : Nat) (candidate : Candidate) :
    (candidate.completed now).interval = candidate.interval ∨
      candidate.policy.nextInterval candidate.interval =
        some (candidate.completed now).interval := by
  obtain ⟨sequel, completes⟩ := candidate.exists_completed now
  generalize candidate.completed now = after at completes ⊢
  cases completes with
  | ended | exhausted | held | overflow => exact .inl rfl
  | next _ _ _ follows => exact .inr follows

/-- No completed resend lets the interval vanish. -/
theorem interval_completed_ne_zero {candidate : Candidate}
    (usable : candidate.policy.defect? = none) (growing : candidate.interval ≠ 0) (now : Nat) :
    (candidate.completed now).interval ≠ 0 := by
  rcases candidate.interval_completed now with same | follows
  · exact fun zero => growing (same.symm.trans zero)
  · exact Policy.nextInterval_ne_zero usable growing follows

/-- The schedule of a candidate goes on: its policy has no defect, and its interval has not
vanished. -/
structure IsGrowing (candidate : Candidate) : Prop where
  usable : candidate.policy.defect? = none
  growing : candidate.interval ≠ 0

theorem isLasting_isGrowing : IsLasting IsGrowing := fun now => {
  refl := fun _ => id
  handedOver := fun _ grows => ⟨grows.usable, grows.growing⟩
  completed := by
    intro candidate grows
    have growing := interval_completed_ne_zero grows.usable grows.growing now
    exact ⟨(persists_completed now candidate).policy ▸ grows.usable, growing⟩
  abandoned := fun _ _ grows => ⟨grows.usable, grows.growing⟩
  finished := fun _ _ grows => ⟨grows.usable, grows.growing⟩
  paused := by
    intro candidate grows
    obtain ⟨_, paused, _⟩ := candidate.paused_eq
    rw [paused]
    exact ⟨grows.usable, grows.growing⟩
  woken := by
    intro candidate grows
    obtain ⟨_, _, woken⟩ := candidate.woken_eq now
    rw [woken]
    exact ⟨grows.usable, grows.growing⟩ }

/-- Whoever runs a resend of the candidate is who hands it over. -/
def IsInline (candidate : Candidate) : Prop :=
  ∀ owner, candidate.routing.resolve owner = .inline

theorem isLasting_isInline : IsLasting IsInline := by
  refine isLasting_of_persists fun candidate later persists inline => ?_
  have same : later.routing = candidate.routing := congrArg Origin.routing persists.origin
  rw [IsInline, same]
  exact inline

end Candidate

open Candidate

variable {holds : Candidate → Prop}

namespace Outline

/-- A property that all candidates have. -/
def Everywhere (outline : Outline) (holds : Candidate → Prop) : Prop :=
  ∀ (identity : Nat) candidate, outline.candidates[identity]? = some candidate → holds candidate

theorem Everywhere.modifyAll {outline : Outline} (everywhere : outline.Everywhere holds)
    {change : Candidate → Candidate}
    (kept : ∀ candidate, holds candidate → holds (change candidate)) (identities : List Nat) :
    (outline.modifyAll identities change).Everywhere holds := by
  intro identity later found
  rw [getElem?_modifyAll] at found
  obtain ⟨candidate, was, rfl⟩ := Option.map_eq_some_iff.mp found
  split
  · exact kept candidate (everywhere identity candidate was)
  · exact everywhere identity candidate was

theorem Everywhere.append {outline : Outline} (everywhere : outline.Everywhere holds)
    {new : Candidate} (isNew : holds new) (roster : Roster) :
    { outline with candidates := outline.candidates ++ [new], roster }.Everywhere holds := by
  intro identity candidate found
  rcases eq_some_of_concat found with old | ⟨_, rfl⟩
  · exact everywhere identity candidate old
  · exact isNew

end Outline

namespace Service

theorem everywhere_carryOut {service : Service} (lasting : IsLasting holds)
    (everywhere : service.outline.Everywhere holds) {command : Command}
    (new : ∀ message, command = .add message → service.world.rejection? message = none →
      holds (Candidate.register service.now service.world.routing
        (service.world.roster.isSuspended message.sequence) message)) :
    (service.carryOut command).outline.Everywhere holds := by
  cases quiet : command.isQuiet with
  | true =>
      obtain ⟨more, _, after⟩ := joined_carryOut service quiet
      rw [after]
      exact everywhere
  | false =>
      cases command with
      | add message =>
          rw [outline_add]
          split
          · next accepted => exact everywhere.append (new message rfl accepted) _
          · exact everywhere
      | purgeAcknowledged sequence acknowledged =>
          rw [outline_purgeAcknowledged]
          split
          · exact everywhere
          · exact everywhere.modifyAll ((lasting service.now).finished _) _
      | purgeAll sequence =>
          rw [outline_purgeAll]
          exact everywhere.modifyAll ((lasting service.now).finished _) _
      | stop sequence =>
          rw [outline_stop]
          exact everywhere.modifyAll ((lasting service.now).finished _) _
      | shutdown =>
          rw [outline_shutdown]
          exact everywhere.modifyAll ((lasting service.now).finished _) _
      | suspend sequence =>
          rw [outline_suspend]
          exact everywhere.modifyAll (lasting service.now).paused _
      | resume sequence =>
          rw [outline_resume]
          split
          · exact everywhere.modifyAll (lasting service.now).woken _
          · exact everywhere
      | request _ _ | join _ | serve _ | announce _ | setExecutors _ | closeAgenda
      | prepare _ _ | exchangeStore _ => cases quiet

/-- What all candidates have and no move takes away, they keep if those that are registered have
it as well. -/
theorem everywhere_move {service after : Service} (lasting : IsLasting holds)
    (tidy : service.AllTidy) (everywhere : service.outline.Everywhere holds) {move : Move}
    (moved : service.move? move = some after)
    (new : ∀ message, move = .command (.add message) → service.world.rejection? message = none →
      holds (Candidate.register service.now service.world.routing
        (service.world.roster.isSuspended message.sequence) message)) :
    after.outline.Everywhere holds := by
  cases move with
  | command command =>
      obtain rfl := eq_carryOut moved
      exact everywhere_carryOut lasting everywhere fun message isAdd => new message (by rw [isAdd])
  | step index =>
      obtain ⟨_, _, _, steps⟩ := step_stepAt tidy moved
      intro identity later found
      have related := (steps identity).spans (lasting service.now).toSpansSteps
      have isLater : (after.outline.share identity).candidate = some later := found
      rw [isLater] at related
      cases was : (service.outline.share identity).candidate with
      | none =>
          rw [was] at related
          cases related
      | some candidate =>
          rw [was] at related
          cases related with
          | some kept => exact kept (everywhere identity candidate was)
  | rouse index position =>
      rw [outline_rouseTo moved]
      exact everywhere
  | wait instant =>
      obtain rfl := eq_wait moved
      exact everywhere
  | reorder roster =>
      obtain ⟨_, rfl⟩ := eq_reorder moved
      exact everywhere

/-- No schedule of a reachable service stands still. -/
theorem IsReachable.isGrowing {service : Service} (reachable : service.IsReachable)
    {identity : Nat} {candidate : Candidate}
    (found : service.world.candidate? identity = some candidate) : candidate.IsGrowing := by
  obtain ⟨first, moves, initial, run⟩ := reachable
  have everywhere : service.Sound ∧ service.outline.Everywhere IsGrowing := by
    clear found
    induction run with
    | start =>
        refine ⟨initial.sound, fun identity candidate found => ?_⟩
        rw [outline_of_isInitial initial] at found
        cases found
    | extend run moved inductionHypothesis =>
        obtain ⟨sound, everywhere⟩ := inductionHypothesis
        refine ⟨sound.move moved,
          everywhere_move isLasting_isGrowing sound.tidy everywhere moved ?_⟩
        intro message _ accepted
        obtain ⟨_, _, usable, _⟩ := Message.rejection?_eq_none_iff.mp accepted
        exact ⟨usable, interval_register_ne_zero _ _ _ usable⟩
  have grows := everywhere.2 identity _ (candidate_share found)
  exact ⟨grows.usable, grows.growing⟩

/-! ## Prompt services -/

/-- A queue drives the registry, whoever hands a resend over runs it, and no resend takes time. -/
structure IsPrompt (service : Service) : Prop where
  byQueue : service.world.driving = .byQueue
  inline : ∀ identity candidate, service.world.candidate? identity = some candidate →
    candidate.IsInline
  instant : service.world.script.IsInstant

/-- A registry that nothing has happened to has no resend that could take time. -/
theorem IsInitial.isPrompt {service : Service} (initial : service.IsInitial)
    (byQueue : service.world.driving = .byQueue) (instant : service.world.script.IsInstant) :
    service.IsPrompt := by
  refine ⟨byQueue, fun identity candidate found => ?_, instant⟩
  have isOurs := candidate_share found
  rw [outline_of_isInitial initial] at isOurs
  cases isOurs

/-- A move that lets nothing in leaves a service prompt, if a message that it registers is to be
run inline. -/
theorem IsPrompt.move {service after : Service} (prompt : service.IsPrompt)
    (tidy : service.AllTidy) {move : Move} (moved : service.move? move = some after)
    (isPrompt : move.isPrompt = true)
    (inline : ∀ message, move = .command (.add message) →
      ∀ owner, service.world.routing.resolve owner = .inline) : after.IsPrompt := by
  have upholds := upholds_move moved
  have everywhere : service.outline.Everywhere IsInline := by
    intro identity untimed found
    obtain ⟨candidate, isCandidate, rfl⟩ := exists_candidate found
    exact prompt.inline identity candidate isCandidate
  have still := everywhere_move isLasting_isInline tidy everywhere moved
    fun message isAdd _ => inline message isAdd
  exact ⟨upholds.driving.trans prompt.byQueue,
    fun identity candidate found => still identity candidate.untimed (candidate_share found),
    upholds.instant isPrompt prompt.instant⟩

/-- A registry that only ever has inline executors and a transport that takes no time is
prompt. -/
theorem isPrompt_run {first last : Service} {moves : List Move} (initial : first.IsInitial)
    (byQueue : first.world.driving = .byQueue)
    (inline : ∀ owner, first.world.routing.resolve owner = .inline)
    (instant : first.world.script.IsInstant) (prompt : ∀ move ∈ moves, move.isPrompt = true)
    (run : Run first moves last) : last.IsPrompt := by
  have kept : last.Sound ∧ last.IsPrompt ∧ ∀ owner, last.world.routing.resolve owner = .inline := by
    induction run with
    | start => exact ⟨initial.sound, initial.isPrompt byQueue instant, inline⟩
    | @extend moves move middle last run moved inductionHypothesis =>
        obtain ⟨sound, stillPrompt, stillInline⟩ :=
          inductionHypothesis fun move present => prompt move (List.mem_append_left _ present)
        have isPrompt := prompt move (List.mem_append_right moves (List.mem_singleton_self move))
        exact ⟨sound.move moved, stillPrompt.move sound.tidy moved isPrompt fun _ _ => stillInline,
          (upholds_move moved).inline isPrompt stillInline⟩
  exact kept.2.1

end Service

end Redelivery
