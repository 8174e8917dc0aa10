import Redelivery.Proofs.Outline

/-!
# What the functions of a registry do to its outline

One equation for each function.  Timers, reports and the store leave the outline
alone; a resend that begins, completes or is skipped, an operation on a sequence
and a shutdown change it by what they do to candidates and to the roster.
-/

namespace Redelivery

namespace Registry

/-- The registry apart from its timers. -/
def outline (registry : Registry) : Outline :=
  { candidates := registry.candidates.map Candidate.untimed
    roster := registry.roster
    resends := registry.journal.resends
    programs := apartFromRings registry.held }

theorem getElem?_outline (registry : Registry) (identity : Nat) :
    registry.outline.candidates[identity]? =
      (registry.candidate? identity).map Candidate.untimed :=
  List.getElem?_map

@[simp]
theorem roster_outline (registry : Registry) : registry.outline.roster = registry.roster :=
  rfl

/-! ## Changes of one candidate -/

/-- A change that does not depend on the timer changes the outline alike. -/
theorem outline_modify (registry : Registry) (identity : Nat)
    (change untimedChange : Candidate → Candidate)
    (alike : ∀ candidate, (change candidate).untimed = untimedChange candidate.untimed) :
    (registry.modify identity change).outline =
      registry.outline.modify identity untimedChange := by
  simp only [outline, modify, Outline.modify]
  congr 1
  refine List.ext_getElem? fun other => ?_
  simp only [List.getElem?_map, List.getElem?_modify]
  cases registry.candidates[other]? with
  | none => rfl
  | some candidate =>
      by_cases same : identity = other <;> simp [same, alike]

/-- A change of the timer does not change the outline. -/
theorem outline_modify_timer {change : Candidate → Candidate}
    (onlyTimer : ∀ candidate, (change candidate).untimed = candidate.untimed)
    (registry : Registry) (identity : Nat) :
    (registry.modify identity change).outline = registry.outline := by
  rw [outline_modify registry identity change (fun candidate => candidate) onlyTimer,
    Outline.modify_id]

/-- Putting what a change makes of a candidate in its place is that change. -/
theorem modify_const {registry : Registry} {identity : Nat} {candidate : Candidate}
    (found : registry.candidate? identity = some candidate) (change : Candidate → Candidate) :
    (registry.modify identity fun _ => change candidate) = registry.modify identity change := by
  simp only [modify]
  congr 1
  refine List.ext_getElem? fun other => ?_
  simp only [List.getElem?_modify]
  by_cases same : identity = other
  · subst same
    rw [candidate?] at found
    simp [found]
  · simp [same]

/-! ## Timers and reports -/

@[simp]
theorem outline_report (registry : Registry) (event : Log.Event) :
    (registry.report event).outline = registry.outline :=
  rfl

@[simp]
theorem outline_dropTimer (registry : Registry) (identity : Nat) :
    (registry.dropTimer identity).outline = registry.outline := by
  unfold dropTimer
  split <;> rfl

@[simp]
theorem outline_disarm (registry : Registry) (identity : Nat) :
    (registry.disarm identity).outline = registry.outline := by
  rw [disarm, outline_modify_timer Candidate.untimed_disarm, outline_dropTimer]

@[simp]
theorem outline_reportUnscheduled (registry : Registry) (candidate : Candidate)
    (refusal : Schedule.Refusal) :
    (registry.reportUnscheduled candidate refusal).outline = registry.outline :=
  rfl

theorem outline_start (registry : Registry) (program : Program) :
    (registry.start program).outline =
      registry.outline.withPrograms (apartFromRings {program}) := by
  simp only [outline, start, held, Outline.withPrograms, ← Multiset.coe_add, apartFromRings_add,
    Multiset.coe_singleton]
  rw [← add_assoc, add_comm]

/-- An alarm is accepted without a timer if a caller drives the registry by hand, and
otherwise waits on the agenda; a timer that is driven by the clock is started. -/
theorem acceptAlarm_eq_ok {registry accepted : Registry} {due : Nat} {alarm : Alarm}
    {ticket : Option Nat} (accepts : registry.acceptAlarm due alarm = .ok (ticket, accepted)) :
    (registry.driving = .byHand ∧ ticket = none ∧ accepted = registry) ∨
      ∃ number agenda, registry.agenda.schedule due alarm = .ok (number, agenda) ∧
        ticket = some number ∧
        accepted = { registry with
          agenda
          starting := registry.starting ++
            if registry.driving = .byQueue then [] else [[.ring number]] } := by
  rcases driving : registry.driving with _ | _ | hosted
  · simp only [acceptAlarm, driving, Except.ok.injEq, Prod.mk.injEq] at accepts
    exact .inl ⟨rfl, accepts.1.symm, accepts.2.symm⟩
  · simp only [acceptAlarm, driving] at accepts
    cases scheduled : registry.agenda.schedule due alarm with
    | error refusal => simp [scheduled, Except.map] at accepts
    | ok placed =>
        simp only [scheduled, Except.map, Except.ok.injEq, Prod.mk.injEq] at accepts
        refine .inr ⟨placed.1, placed.2, rfl, accepts.1.symm, ?_⟩
        rw [← accepts.2, if_pos rfl, List.append_nil]
  · simp only [acceptAlarm, driving, Schedule.Agenda.scheduleTimer] at accepts
    split at accepts
    · simp [Except.map] at accepts
    · cases scheduled : registry.agenda.schedule due alarm with
      | error refusal => simp [scheduled, Except.map] at accepts
      | ok placed =>
          simp only [scheduled, Except.map, Except.ok.injEq, Prod.mk.injEq] at accepts
          refine .inr ⟨placed.1, placed.2, rfl, accepts.1.symm, ?_⟩
          rw [← accepts.2, if_neg Driving.noConfusion]
          rfl

/-- Accepting an alarm starts the activity of a timer at most. -/
theorem outline_acceptAlarm {registry accepted : Registry} {due : Nat} {alarm : Alarm}
    {ticket : Option Nat} (accepts : registry.acceptAlarm due alarm = .ok (ticket, accepted)) :
    accepted.outline = registry.outline := by
  rcases acceptAlarm_eq_ok accepts with ⟨_, _, rfl⟩ | ⟨number, agenda, _, _, rfl⟩
  · rfl
  · split
    · simp [outline, held]
    · exact (outline_start registry [.ring number]).trans (Outline.withPrograms_zero _)

/-- Arming a timer changes timers only. -/
@[simp]
theorem outline_arm (registry : Registry) (identity due : Nat) :
    (registry.arm identity due).outline = registry.outline := by
  simp only [arm]
  split
  · exact outline_disarm registry identity
  · next candidate found =>
      cases accepts : (registry.disarm identity).acceptAlarm due
          { candidate := identity, generation := candidate.generation } with
      | error refusal => simp
      | ok accepted =>
          rcases accepted with ⟨ticket, accepted⟩
          calc
            (accepted.modify identity (Candidate.withTimer ticket)).outline = accepted.outline :=
              outline_modify_timer (Candidate.untimed_withTimer ticket) accepted identity
            _ = registry.outline := by rw [outline_acceptAlarm accepts, outline_disarm]

end Registry

/-! ## Handing over resends -/

/-- What an attempt to hand over a resend of a candidate leads to: nothing, or a
job that is built from a candidate that is free. -/
inductive Outline.Hands (before : Outline) (identity : Nat) : Outline → Option Job → Prop where
  | nothing : Hands before identity before none
  | job {candidate : Candidate} {message : Message} :
      before.candidates[identity]? = some candidate → candidate.isFree = true →
      candidate.message = some message →
      Hands before identity (before.modify identity Candidate.handedOver)
        (some (candidate.job identity message))

namespace Registry

theorem candidate?_modify_self (registry : Registry) (identity : Nat)
    (change : Candidate → Candidate) :
    (registry.modify identity change).candidate? identity =
      (registry.candidate? identity).map change := by
  simp [candidate?, modify]

/-- Changing a candidate changes what is found. -/
theorem candidate?_modify {registry : Registry} {identity : Nat} {candidate : Candidate}
    (found : registry.candidate? identity = some candidate) (change : Candidate → Candidate) :
    (registry.modify identity change).candidate? identity = some (change candidate) := by
  rw [candidate?_modify_self, found, Option.map_some]

@[simp]
theorem candidate?_dropTimer (registry : Registry) (identity other : Nat) :
    (registry.dropTimer identity).candidate? other = registry.candidate? other := by
  unfold dropTimer
  split <;> rfl

theorem candidate?_disarm_self {registry : Registry} {identity : Nat} {candidate : Candidate}
    (found : registry.candidate? identity = some candidate) :
    (registry.disarm identity).candidate? identity = some candidate.disarm := by
  rw [disarm, candidate?_modify_self, candidate?_dropTimer, found, Option.map_some]

/-- A candidate that is free is pending once it has handed over a resend. -/
theorem handOver_of_isFree {registry : Registry} {identity : Nat} {candidate : Candidate}
    (found : registry.candidate? identity = some candidate) (free : candidate.isFree = true) :
    ∃ message, candidate.message = some message ∧
      registry.handOver identity = (registry.modify identity Candidate.handedOver,
        some (candidate.job identity message)) := by
  rcases Candidate.exists_message_of_isFree free with ⟨message, held⟩
  refine ⟨message, held, ?_⟩
  simp only [handOver, found, Candidate.handOver_eq_some held]
  rw [modify_const found Candidate.handedOver]

/-- A candidate that is free hands over a resend. -/
theorem hands_handOver {registry : Registry} {identity : Nat} {candidate : Candidate}
    (found : registry.candidate? identity = some candidate) (free : candidate.isFree = true) :
    registry.outline.Hands identity (registry.handOver identity).1.outline
      (registry.handOver identity).2 := by
  rcases handOver_of_isFree found free with ⟨message, held, result⟩
  have inOutline : registry.outline.candidates[identity]? = some candidate.untimed := by
    rw [getElem?_outline, found, Option.map_some]
  rw [result]
  rw [outline_modify registry identity Candidate.handedOver Candidate.handedOver fun _ => rfl]
  have sameJob : candidate.job identity message = candidate.untimed.job identity message := rfl
  rw [sameJob]
  exact .job inOutline free held

/-- A timer that fires hands over a resend, or has no effect apart from timers. -/
theorem hands_fireTimer (registry : Registry) (alarm : Alarm) :
    registry.outline.Hands alarm.candidate (registry.fireTimer alarm).1.outline
      (registry.fireTimer alarm).2 := by
  cases found : registry.candidate? alarm.candidate with
  | none =>
      simp only [fireTimer, found]
      exact .nothing
  | some candidate =>
      simp only [fireTimer, found]
      generalize reports : Registry.report registry _ = reported
      have reportedOutline : reported.outline = registry.outline := by rw [← reports]; rfl
      have reportedFound : reported.candidate? alarm.candidate = some candidate := by
        rw [← reports]
        exact found
      rw [← reportedOutline]
      split
      · exact .nothing
      · have usedOutline : (reported.modify alarm.candidate (Candidate.withTimer none)).outline =
            reported.outline :=
          outline_modify_timer (Candidate.untimed_withTimer none) reported alarm.candidate
        split
        · next free =>
            rw [← usedOutline]
            exact hands_handOver (candidate?_modify reportedFound (Candidate.withTimer none)) free
        · rw [← usedOutline]
          exact .nothing

/-- Forcing a candidate hands over a resend, or has no effect apart from timers. -/
theorem hands_force (registry : Registry) (identity : Nat) (upTo : Option Nat) :
    registry.outline.Hands identity (registry.force identity upTo).1.outline
      (registry.force identity upTo).2 := by
  cases found : registry.candidate? identity with
  | none =>
      simp only [force, found]
      exact .nothing
  | some candidate =>
      simp only [force, found]
      split
      · next allowed =>
          have free : candidate.isFree = true := (Bool.and_eq_true _ _ ▸ allowed).1
          rw [← outline_disarm registry identity]
          exact hands_handOver (candidate?_disarm_self found) free
      · exact .nothing

/-! ## The course of a resend -/

theorem outline_beginSend (registry : Registry) (now : Nat) (job : Job) :
    (registry.beginSend now job).1.outline = registry.outline.noteResend now job :=
  rfl

/-- Where there is no candidate there is nothing to change. -/
theorem modify_of_none {registry : Registry} {identity : Nat}
    (absent : registry.candidate? identity = none) (change : Candidate → Candidate) :
    registry.outline.modify identity change = registry.outline := by
  have past : registry.outline.candidates.length ≤ identity := by
    rw [← List.getElem?_eq_none_iff, getElem?_outline, absent, Option.map_none]
  rw [Outline.modify, List.modify_eq_self past]

/-- A completed resend changes its candidate as the candidate alone decides. -/
theorem outline_completeSend (registry : Registry) (now identity : Nat) :
    (registry.completeSend now identity).outline =
      registry.outline.modify identity (Candidate.completed now) := by
  cases found : registry.candidate? identity with
  | none =>
      rw [modify_of_none found]
      simp only [completeSend, found]
  | some candidate =>
      have updated : (registry.modify identity fun _ => candidate.completed now).outline =
          registry.outline.modify identity (Candidate.completed now) := by
        rw [modify_const found (Candidate.completed now)]
        exact outline_modify registry identity _ _ (Candidate.untimed_completed now)
      simp only [completeSend, found]
      rw [← updated]
      cases (candidate.complete now).2 <;> simp [Candidate.completed]

/-- So does a resend with which the transport is done. -/
theorem outline_concludeSend (registry : Registry) (now : Nat) (job : Job)
    (failure : Option TransportFailure) :
    (registry.concludeSend now job failure).outline =
      registry.outline.modify job.candidate (Candidate.completed now) := by
  cases failure with
  | none => exact outline_completeSend registry now job.candidate
  | some failure =>
      exact outline_completeSend (registry.reportFailure job failure) now job.candidate

theorem outline_abandonSend (registry : Registry) (job : Job) :
    (registry.abandonSend job).outline =
      registry.outline.modify job.candidate (Candidate.abandon · job.requestAck) :=
  outline_modify registry job.candidate _ _ fun candidate =>
    Candidate.untimed_abandon candidate job.requestAck

/-! ## Operations -/

/-- A new candidate is listed under its sequence. -/
theorem outline_enroll (registry : Registry) (now : Nat) (message : Message) :
    (registry.enroll now message).1.outline =
      { registry.outline with
        candidates := registry.outline.candidates ++
          [Candidate.register now registry.routing
            (registry.roster.isSuspended message.sequence) message]
        roster := registry.roster.add message.sequence registry.candidates.length } := by
  have listed : ∀ candidate : Candidate, candidate.untimed = candidate →
      { registry with
        candidates := registry.candidates ++ [candidate]
        roster := registry.roster.add message.sequence registry.candidates.length }.outline =
      { registry.outline with
        candidates := registry.outline.candidates ++ [candidate]
        roster := registry.roster.add message.sequence registry.candidates.length } := by
    intro candidate isUntimed
    simp [outline, held, isUntimed]
  simp only [enroll]
  split
  · rw [outline_report, listed _ rfl]
  · split
    · rw [outline_arm, listed _ rfl]
    · rw [listed _ rfl]

/-- Changing candidates one after the other changes all of them, where a second change makes no
difference. -/
theorem outline_foldl {next : Registry → Nat → Registry} {change : Candidate → Candidate}
    (once : ∀ candidate, change (change candidate) = change candidate)
    (changes : ∀ (registry : Registry) identity,
      (next registry identity).outline = registry.outline.modify identity change)
    (identities : List Nat) (registry : Registry) :
    (identities.foldl next registry).outline = registry.outline.modifyAll identities change := by
  induction identities generalizing registry with
  | nil => exact (Outline.modifyAll_nil _ _).symm
  | cons identity rest inductionHypothesis =>
      rw [Outline.modifyAll_cons _ fun _ => once]
      exact (inductionHypothesis _).trans (by rw [changes])

/-- Ending candidates one after the other ends all of them. -/
theorem outline_finishAll (registry : Registry) (ending : Ending) (identities : List Nat) :
    (registry.finishAll ending identities).outline =
      registry.outline.modifyAll identities (Candidate.finished ending) :=
  outline_foldl (Candidate.finished_finished ending) (fun registry identity => by
    rw [outline_modify _ identity _ _ (Candidate.untimed_finish · ending), outline_dropTimer])
    identities registry

/-- The registry within the span of an operation. -/
def entered (registry : Registry) (operation : String) (fields : List Log.Field) : Registry :=
  { registry with journal := registry.journal.enter operation fields }

/-- Tracing an operation only adds to the journal. -/
theorem outline_traced {α : Type} (registry : Registry) (operation : String)
    (fields : List Log.Field) (body : Registry → Registry × α) :
    (registry.traced operation fields body).1.outline =
      (body (registry.entered operation fields)).1.outline := rfl

theorem fst_traced {α : Type} (registry : Registry) (operation : String)
    (fields : List Log.Field) (body : Registry → Registry × α) :
    (registry.traced operation fields body).1 =
      { (body (registry.entered operation fields)).1 with
        journal := (body (registry.entered operation fields)).1.journal.leave operation } := rfl

theorem snd_traced {α : Type} (registry : Registry) (operation : String)
    (fields : List Log.Field) (body : Registry → Registry × α) :
    (registry.traced operation fields body).2 =
      (body (registry.entered operation fields)).2 := rfl

/-- A message that is not rejected is enrolled. -/
theorem outline_add (registry : Registry) (now : Nat) (message : Message) :
    (registry.add now message).1.outline =
      if registry.rejection? message = none then (registry.enroll now message).1.outline
      else registry.outline := by
  rw [add, outline_traced]
  generalize inside : registry.entered _ _ = entered
  have sameRejection : entered.rejection? message = registry.rejection? message := by
    rw [← inside]
    rfl
  have sameOutline : entered.outline = registry.outline := by
    rw [← inside]
    rfl
  rw [sameRejection]
  cases registry.rejection? message with
  | none =>
      change (entered.enroll now message).1.outline = (registry.enroll now message).1.outline
      rw [outline_enroll, outline_enroll, sameOutline, ← inside]
      rfl
  | some rejection => exact sameOutline

@[simp]
theorem outline_dropRecords (registry : Registry) (sequence : SequenceKey) (numbers : List Nat) :
    (registry.dropRecords sequence numbers).outline = registry.outline := by
  unfold dropRecords
  split
  · rfl
  · simp only
    split <;> rfl

/-- The candidates of a sequence whose numbers are acknowledged. -/
def acknowledgedOf (registry : Registry) (sequence : SequenceKey)
    (acknowledged : Nat → Bool) : List Nat :=
  (registry.roster.listOf sequence).filter fun identity =>
    (registry.numberOf identity).any acknowledged

/-- Acknowledged messages end, and are struck off the roster. -/
theorem outline_purgeAcknowledged (registry : Registry) (sequence : SequenceKey)
    (acknowledged : Nat → Bool) :
    (registry.purgeAcknowledged sequence acknowledged).1.outline =
      if registry.acknowledgedOf sequence acknowledged = [] then registry.outline
      else
        { registry.outline.modifyAll (registry.acknowledgedOf sequence acknowledged)
            (Candidate.finished .resolved) with
          roster := registry.roster.strike sequence fun identity =>
            (registry.numberOf identity).any acknowledged } := by
  have finished := outline_finishAll
    (registry.entered "purge_acknowledged" [sequenceField sequence]) .resolved
    (registry.acknowledgedOf sequence acknowledged)
  simp only [purgeAcknowledged, traced]
  split
  · next none =>
      have isNone : registry.acknowledgedOf sequence acknowledged = [] := List.isEmpty_iff.mp none
      rw [if_pos isNone]
      rfl
  · next some =>
      have isSome : ¬ registry.acknowledgedOf sequence acknowledged = [] :=
        fun empty => some (List.isEmpty_iff.mpr empty)
      rw [if_neg isSome]
      rw [show registry.outline = (registry.entered "purge_acknowledged"
        [sequenceField sequence]).outline from rfl, ← finished]
      exact outline_dropRecords _ sequence _

/-- Every message of a purged sequence ends, and the sequence is forgotten. -/
theorem outline_purgeAll (registry : Registry) (sequence : SequenceKey) :
    (registry.purgeAll sequence).1.outline =
      { registry.outline.modifyAll (registry.roster.listOf sequence)
          (Candidate.finished .cancelled) with
        roster := registry.roster.forget sequence } := by
  have finished := outline_finishAll (registry.entered "purge_all" [sequenceField sequence])
    .cancelled (registry.roster.listOf sequence)
  rw [show registry.outline = (registry.entered "purge_all" [sequenceField sequence]).outline
    from rfl, ← finished]
  simp only [purgeAll, traced]
  split <;> rfl

/-- Every message of a stopped sequence ends and stays listed. -/
theorem outline_stop (registry : Registry) (sequence : SequenceKey) :
    (registry.stop sequence).outline =
      registry.outline.modifyAll (registry.roster.listOf sequence)
        (Candidate.finished .cancelled) :=
  outline_finishAll (registry.entered "stop" [sequenceField sequence]) .cancelled
    (registry.roster.listOf sequence)

theorem outline_shutdown (registry : Registry) :
    registry.shutdown.outline =
      registry.outline.modifyAll registry.roster.all (Candidate.finished .cancelled) :=
  outline_finishAll (registry.entered "shutdown" []) .cancelled registry.roster.all

/-- The candidates of a suspended sequence are suspended with it. -/
theorem outline_suspend (registry : Registry) (sequence : SequenceKey) :
    (registry.suspend sequence).outline =
      { registry.outline.modifyAll (registry.roster.activeOf sequence) Candidate.paused with
        roster := registry.roster.suspend sequence } := by
  have pauses (before : Registry) (identity : Nat) :
      ((before.dropTimer identity).modify identity Candidate.suspend).outline =
        before.outline.modify identity Candidate.paused := by
    rw [outline_modify _ identity _ _ Candidate.untimed_suspend, outline_dropTimer]
  have paused := outline_foldl Candidate.paused_paused pauses (registry.roster.activeOf sequence)
    (registry.entered "suspend" [sequenceField sequence])
  rw [show registry.outline = (registry.entered "suspend" [sequenceField sequence]).outline
    from rfl, ← paused]
  rfl

/-- Waking a candidate up arms a timer and changes nothing else but the
candidate. -/
theorem outline_wake (registry : Registry) (now identity : Nat) :
    (registry.wake now identity).outline =
      registry.outline.modify identity (Candidate.woken now) := by
  cases found : registry.candidate? identity with
  | none =>
      rw [modify_of_none found]
      simp only [wake, found]
  | some candidate =>
      have inOutline : registry.outline.candidates[identity]? = some candidate.untimed := by
        rw [getElem?_outline, found, Option.map_some]
      have freed : (registry.modify identity Candidate.unsuspend).outline =
          registry.outline.modify identity Candidate.unsuspend :=
        outline_modify registry identity _ _ fun _ => rfl
      simp only [wake, found]
      split
      · next active =>
          have unchanged : candidate.untimed.woken now = id candidate.untimed := if_pos active
          rw [Outline.modify_congr inOutline unchanged]
          exact (Outline.modify_id registry.outline identity).symm
      · next suspended =>
          split
          · next inert =>
              have onlyFreed : candidate.untimed.woken now = candidate.untimed.unsuspend :=
                (if_neg suspended).trans (if_pos inert)
              rw [freed, Outline.modify_congr inOutline onlyFreed]
          · next live =>
              let rush (candidate : Candidate) : Candidate := { candidate with next := now }
              have rushed : candidate.untimed.woken now = (rush ∘ Candidate.unsuspend)
                  candidate.untimed := (if_neg suspended).trans (if_neg live)
              rw [outline_arm, outline_modify _ identity _ rush fun _ => rfl, freed,
                Outline.modify_modify, Outline.modify_congr inOutline rushed]

/-- The candidates of a resumed sequence wake up. -/
theorem outline_resume (registry : Registry) (now : Nat) (sequence : SequenceKey) :
    (registry.resume now sequence).outline =
      if registry.roster.isSuspended sequence then
        { registry.outline.modifyAll (registry.roster.suspendedOf sequence)
            (Candidate.woken now) with
          roster := registry.roster.resume sequence }
      else registry.outline := by
  have woken := outline_foldl (Candidate.woken_woken now) (outline_wake · now ·)
    (registry.roster.suspendedOf sequence) (registry.entered "resume" [sequenceField sequence])
  rw [show registry.outline = (registry.entered "resume" [sequenceField sequence]).outline
    from rfl, ← woken]
  simp only [resume, traced]
  cases suspended : registry.roster.isSuspended sequence with
  | true => rfl
  | false => rfl

end Registry

end Redelivery
