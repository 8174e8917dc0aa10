import Redelivery.Proofs.Moves
import Redelivery.Proofs.Timers

/-!
# What every operation on messages keeps up

Operations on messages are put together from a few parts: they report, end and suspend candidates
one after the other, and replace the roster and the store.  A relation between a registry and what
becomes of it that each part keeps up is kept up by every operation.  What a message that is taken
in and a candidate that leaves suspension do to it is left to the relation.
-/

namespace Redelivery

namespace Registry

/-- A relation between a registry and what becomes of it that the parts of operations keep up. -/
structure IsUpkeep (relates : Registry → Registry → Prop) : Prop where
  refl : ∀ registry, relates registry registry
  trans : ∀ {first second third : Registry}, relates first second → relates second third →
    relates first third
  /-- No part of an operation reports that a message is left without a timer. -/
  tell : ∀ {registry : Registry} {journal : Journal} {event : Log.Event},
    journal.events = [event] ++ registry.journal.events → event.isUnscheduled = false →
      relates registry { registry with journal }
  relist : ∀ (registry : Registry) (roster : Roster), relates registry { registry with roster }
  exchange : ∀ (registry : Registry) (store : Option Store),
    relates registry { registry with store }
  finish : ∀ (registry : Registry) (ending : Ending) (identity : Nat),
    relates registry ((registry.dropTimer identity).modify identity (Candidate.finish · ending))
  pause : ∀ (registry : Registry) (identity : Nat),
    relates registry ((registry.dropTimer identity).modify identity Candidate.suspend)

namespace IsUpkeep

variable {relates : Registry → Registry → Prop} (upkeep : IsUpkeep relates)

include upkeep

/-! ## Parts of operations -/

/-- A report about anything but a candidate. -/
theorem report (registry : Registry) {event : Log.Event}
    (other : event.target ≠ Log.candidateTarget) : relates registry (registry.report event) :=
  upkeep.tell (registry.events_report event) (Log.Event.isUnscheduled_of_target other)

theorem reportEngine (registry : Registry) (level : Log.Level) (text : String) :
    relates registry (registry.report (.engine level text)) :=
  upkeep.report registry (by simp [Log.Event.engine, Log.engineTarget, Log.candidateTarget])

/-- An operation begins, which is reported within its own span. -/
theorem enter (registry : Registry) (operation : String) (fields : List Log.Field) :
    relates registry (registry.entered operation fields) := by
  obtain ⟨event, told, ofOperation⟩ : ∃ event : Log.Event,
      (registry.entered operation fields).journal.events = [event] ++ registry.journal.events ∧
        event.target = Log.operationTarget := ⟨_, events_report _ _, rfl⟩
  refine upkeep.tell told (Log.Event.isUnscheduled_of_target ?_)
  rw [ofOperation]
  simp [Log.operationTarget, Log.candidateTarget]

/-- What is carried out within a span is related as it would be by itself. -/
theorem traced {α : Type} (operation : String) (fields : List Log.Field)
    {body : Registry → Registry × α} {registry : Registry}
    (carries : relates (registry.entered operation fields)
      (body (registry.entered operation fields)).1) :
    relates registry (registry.traced operation fields body).1 := by
  refine upkeep.trans (upkeep.trans (upkeep.enter registry operation fields) carries)
    (upkeep.tell (events_report _ (.leave operation)) (Log.Event.isUnscheduled_of_target ?_))
  simp [Log.Event.leave, Log.operationTarget, Log.candidateTarget]

theorem finishAll (registry : Registry) (ending : Ending) (identities : List Nat) :
    relates registry (registry.finishAll ending identities) :=
  List.foldlRecOn identities _ (upkeep.refl registry) fun before earlier identity _ =>
    upkeep.trans earlier (upkeep.finish before ending identity)

theorem dropRecords (registry : Registry) (sequence : SequenceKey) (numbers : List Nat) :
    relates registry (registry.dropRecords sequence numbers) := by
  unfold Registry.dropRecords
  split
  · exact upkeep.refl registry
  · have drops := upkeep.exchange registry
    simp only
    split
    · exact upkeep.trans (drops _)
        (upkeep.report _ (by simp [Log.storeTarget, Log.candidateTarget]))
    · exact upkeep.trans (drops _)
        (upkeep.report _ (by simp [Log.registryTarget, Log.candidateTarget]))

/-! ## Operations -/

theorem add (now : Nat) (message : Message) {registry : Registry}
    (enrolls : ∀ entered : Registry, entered.candidates = registry.candidates →
      relates entered (entered.enroll now message).1) :
    relates registry (registry.add now message).1 := by
  apply upkeep.traced
  split
  · exact upkeep.refl _
  · exact enrolls _ rfl

theorem purgeAcknowledged (registry : Registry) (sequence : SequenceKey)
    (acknowledged : Nat → Bool) :
    relates registry (registry.purgeAcknowledged sequence acknowledged).1 := by
  apply upkeep.traced
  simp only
  split
  · exact upkeep.refl _
  · refine upkeep.trans (upkeep.trans (upkeep.trans (upkeep.finishAll _ _ _)
      (upkeep.relist _ _)) (upkeep.report _ ?_)) (upkeep.dropRecords _ _ _)
    simp [Log.registryTarget, Log.candidateTarget]

theorem purgeAll (registry : Registry) (sequence : SequenceKey) :
    relates registry (registry.purgeAll sequence).1 := by
  apply upkeep.traced
  have ends := upkeep.trans
    (upkeep.finishAll (registry.entered "purge_all" [sequenceField sequence]) .cancelled
      (registry.roster.listOf sequence))
    (upkeep.relist _ (registry.roster.forget sequence))
  simp only
  split
  · exact ends
  · exact upkeep.trans ends (upkeep.reportEngine _ _ _)

theorem stop (registry : Registry) (sequence : SequenceKey) :
    relates registry (registry.stop sequence) :=
  upkeep.traced _ _ (upkeep.finishAll _ _ _)

theorem shutdown (registry : Registry) : relates registry registry.shutdown :=
  upkeep.traced _ _ (upkeep.trans (upkeep.finishAll _ _ _) (upkeep.reportEngine _ _ _))

theorem suspend (registry : Registry) (sequence : SequenceKey) :
    relates registry (registry.suspend sequence) := by
  apply upkeep.traced
  have pauses : relates _ _ := List.foldlRecOn (registry.roster.activeOf sequence) _
    (upkeep.refl (registry.entered "suspend" [sequenceField sequence]))
    fun before earlier identity _ => upkeep.trans earlier (upkeep.pause before identity)
  exact upkeep.trans (upkeep.trans pauses (upkeep.relist _ _)) (upkeep.reportEngine _ _ _)

/-- Candidates leave suspension one after the other; whatever waking them takes for granted is
kept on the way. -/
theorem resume (now : Nat) (sequence : SequenceKey) {minded : Registry → Prop}
    (kept : ∀ {before after : Registry}, relates before after → minded before → minded after)
    (wakes : ∀ {registry : Registry}, minded registry → ∀ identity,
      relates registry (registry.wake now identity))
    {registry : Registry} (initially : minded registry) :
    relates registry (registry.resume now sequence) := by
  apply upkeep.traced
  split
  · exact upkeep.refl _
  · have enters := kept (upkeep.enter registry "resume" [sequenceField sequence]) initially
    have woken : relates _ _ := List.foldlRecOn (registry.roster.suspendedOf sequence) _
      (upkeep.refl (registry.entered "resume" [sequenceField sequence]))
      fun before earlier identity _ =>
        upkeep.trans earlier (wakes (kept earlier enters) identity)
    exact upkeep.trans (upkeep.trans woken (upkeep.relist _ _)) (upkeep.reportEngine _ _ _)

/-- A command on messages changes the registry by its operation. -/
theorem exists_change (service : Service) {command : Command}
    (operation : command.isQuiet = false)
    (adds : ∀ message, relates service.world (service.world.add service.now message).1)
    (resumes : ∀ sequence, relates service.world (service.world.resume service.now sequence)) :
    ∃ changes : Registry → Registry, service.carryOut command = service.change changes ∧
      relates service.world (changes service.world) := by
  cases command with
  | add message =>
      exact ⟨fun registry => (registry.add service.now message).1, rfl, adds message⟩
  | purgeAcknowledged sequence acknowledged =>
      exact ⟨fun registry => (registry.purgeAcknowledged sequence acknowledged).1, rfl,
        upkeep.purgeAcknowledged _ sequence acknowledged⟩
  | purgeAll sequence =>
      exact ⟨fun registry => (registry.purgeAll sequence).1, rfl, upkeep.purgeAll _ sequence⟩
  | stop sequence => exact ⟨(Registry.stop · sequence), rfl, upkeep.stop _ sequence⟩
  | suspend sequence => exact ⟨(Registry.suspend · sequence), rfl, upkeep.suspend _ sequence⟩
  | resume sequence =>
      exact ⟨(Registry.resume · service.now sequence), rfl, resumes sequence⟩
  | shutdown => exact ⟨Registry.shutdown, rfl, upkeep.shutdown _⟩
  | request _ _ | join _ | serve _ | announce _ | setExecutors _ | closeAgenda | prepare _ _
  | exchangeStore _ => cases operation

end IsUpkeep

end Registry

end Redelivery
