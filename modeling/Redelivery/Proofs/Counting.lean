import Redelivery.Proofs.Listing
import Redelivery.Registry.Queries

/-!
# Counting messages

The registry keeps the number of messages that await acknowledgment along,
although only registering and purging change it.  In every reachable state it is
the number of listed candidates, however often sequences are suspended, resumed,
stopped and purged, and whatever resends do meanwhile.  A purge reports as many
messages as it takes off the count, which had them.
-/

namespace Redelivery

namespace Registry

/-- A purge of a whole sequence reports what was listed. -/
theorem snd_purgeAll (registry : Registry) (sequence : SequenceKey) :
    (registry.purgeAll sequence).2 = registry.countOf sequence := by
  unfold countOf
  cases listed : registry.roster.listOf sequence with
  | nil => simp [purgeAll, traced, listed]
  | cons identity rest => simp [purgeAll, traced, listed]

/-- A purge of acknowledged messages reports how many they were. -/
theorem snd_purgeAcknowledged (registry : Registry) (sequence : SequenceKey)
    (acknowledged : Nat → Bool) :
    (registry.purgeAcknowledged sequence acknowledged).2 =
      (registry.acknowledgedOf sequence acknowledged).length := by
  simp only [purgeAcknowledged, traced]
  change (if (registry.acknowledgedOf sequence acknowledged).isEmpty = true then _ else _ :
    Registry × Nat).2 = _
  split
  · next none =>
      rw [List.isEmpty_iff.mp none]
      rfl
  · rfl

theorem countAll_outline (registry : Registry) :
    registry.countAll = registry.outline.roster.count :=
  rfl

/-- A purge of a whole sequence takes off the count what it reports. -/
theorem countAll_purgeAll {registry : Registry} (sound : registry.roster.Sound)
    (sequence : SequenceKey) :
    (registry.purgeAll sequence).1.countAll + (registry.purgeAll sequence).2 =
      registry.countAll := by
  have atMost := sound.length_listOf_le sequence
  rw [countAll_outline, outline_purgeAll, snd_purgeAll]
  exact Nat.sub_add_cancel atMost

/-- A purge of acknowledged messages takes off the count what it reports. -/
theorem countAll_purgeAcknowledged {registry : Registry} (sound : registry.roster.Sound)
    (sequence : SequenceKey) (acknowledged : Nat → Bool) :
    (registry.purgeAcknowledged sequence acknowledged).1.countAll +
        (registry.purgeAcknowledged sequence acknowledged).2 = registry.countAll := by
  have atMost : (registry.acknowledgedOf sequence acknowledged).length ≤ registry.roster.count :=
    (List.length_filter_le _ _).trans (sound.length_listOf_le sequence)
  rw [countAll_outline, outline_purgeAcknowledged, snd_purgeAcknowledged]
  split
  · next none =>
      rw [none]
      rfl
  · exact Nat.sub_add_cancel atMost

/-- Nothing awaits acknowledgment if and only if no sequence is reported. -/
theorem isEmpty_iff {registry : Registry} (sound : registry.roster.Sound) :
    registry.isEmpty = true ↔ registry.sequences = [] := by
  have sum := sound.sum_length_listOf
  rw [isEmpty, decide_eq_true_iff, countAll, ← sum]
  constructor
  · intro zero
    rw [List.eq_nil_iff_forall_not_mem]
    intro sequence reported
    have isZero := List.sum_eq_zero_iff_forall_eq_nat.mp zero _ (List.mem_map_of_mem reported)
    exact sound.mem_sequences_iff.mp reported (List.length_eq_zero_iff.mp isZero)
  · intro none
    rw [show registry.roster.sequences = [] from none]
    rfl

end Registry

namespace Service

/-- In every reachable state the count that is kept along is the number of messages of
all active and suspended lists, hence the sum of the counts of the sequences that are
reported; it is zero if and only if none is; and no purge takes off the count more than
there is. -/
theorem countAll_exact {service : Service} (reachable : service.IsReachable) :
    service.world.countAll =
        ((service.world.roster.active.values ++ service.world.roster.suspended.values).map
          List.length).sum ∧
      service.world.countAll = (service.world.sequences.map service.world.countOf).sum ∧
      service.world.roster.isCountExact = true ∧
      (service.world.isEmpty = true ↔ service.world.sequences = []) ∧
      (∀ sequence acknowledged,
        (service.world.purgeAcknowledged sequence acknowledged).1.countAll +
            (service.world.purgeAcknowledged sequence acknowledged).2 = service.world.countAll) ∧
      ∀ sequence, (service.world.purgeAll sequence).1.countAll +
        (service.world.purgeAll sequence).2 = service.world.countAll := by
  have sound : service.world.roster.Sound := reachable.sound.listed.sound
  refine ⟨?_, ?_, ?_, ?_, ?_, ?_⟩
  · calc
      service.world.countAll = service.world.roster.all.length := sound.exact_count
      _ = _ := by rw [Roster.all, Roster.allActive, ← List.flatten_append, List.length_flatten]
  · exact sound.sum_length_listOf.symm
  · exact decide_eq_true sound.exact_count.symm
  · exact Registry.isEmpty_iff sound
  · exact fun sequence acknowledged =>
      Registry.countAll_purgeAcknowledged sound sequence acknowledged
  · exact fun sequence => Registry.countAll_purgeAll sound sequence

/-- Of two messages, one registered while their sequence was suspended, both count. -/
theorem countAll_exact_of_suspended :
    ∃ service, Run (Sample.service .byHand)
        [.command (.add (Sample.message 1 none)), .command (.suspend Sample.sequence),
          .command (.add (Sample.message 2 none))] service ∧
      service.world.countAll = 2 ∧ service.world.roster.isCountExact = true ∧
      (service.world.purgeAll Sample.sequence).1.countAll +
        (service.world.purgeAll Sample.sequence).2 = 2 := by
  obtain ⟨service, followed, two⟩ := Option.map_eq_some_iff.mp
    (rfl : (follow [.command (.add (Sample.message 1 none)), .command (.suspend Sample.sequence),
      .command (.add (Sample.message 2 none))] (Sample.service .byHand)).map
        (fun service => service.world.countAll) = some 2)
  have run := Run.of_follow followed
  rcases countAll_exact ⟨_, _, Sample.isInitial_service _, run⟩ with ⟨_, _, kept, _, _, purge⟩
  exact ⟨service, run, two, kept, (purge Sample.sequence).trans two⟩

end Service

end Redelivery
