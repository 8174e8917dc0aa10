import Redelivery.Proofs.Purging

/-!
# What forgetting a whole sequence takes away

A sequence that is forgotten loses its lists and its suspension, whether it was suspended or
not.  Its candidates are given up and leave the agenda, and the registry reports how many
messages the sequence had.  No other candidate, task or sequence is concerned, and the store is
not asked for anything.
-/

namespace Redelivery

namespace Registry

variable {registry : Registry} {sequence : SequenceKey}

/-- Apart from the log, a registry that forgets a sequence ends its candidates and strikes it off
the roster. -/
theorem purgeAll_eq (registry : Registry) (sequence : SequenceKey) :
    ∃ events, (registry.purgeAll sequence).1 =
      { registry.finishAll .cancelled (registry.roster.listOf sequence) with
        roster := registry.roster.forget sequence
        journal := { registry.journal with events } } := by
  let journal := registry.journal.enter "purge_all" [sequenceField sequence]
  obtain ⟨candidates, agenda, finished⟩ :=
    registry.finishAll_eq .cancelled (registry.roster.listOf sequence)
  have ends : { registry with journal }.finishAll .cancelled (registry.roster.listOf sequence) =
      { registry with candidates, agenda, journal } := by
    apply (registry.finishAll_apart registry.store journal .cancelled _).trans
    rw [finished]
  rw [finished]
  simp only [purgeAll, traced]
  rw [ends]
  split
  · exact ⟨_, rfl⟩
  · exact ⟨_, rfl⟩

theorem roster_purgeAll :
    (registry.purgeAll sequence).1.roster = registry.roster.forget sequence := by
  obtain ⟨_, result⟩ := registry.purgeAll_eq sequence
  rw [result]

theorem numberOf_purgeAll (identity : Nat) :
    (registry.purgeAll sequence).1.numberOf identity = registry.numberOf identity := by
  rw [← numberOf_outline, ← numberOf_outline, outline_purgeAll]
  exact Outline.numberOf_modifyAll (Candidate.persists_finished .cancelled) _ _ identity

/-- Whoever is not listed for the sequence stays as it is. -/
theorem candidate?_purgeAll_of_not_mem {identity : Nat}
    (spared : identity ∉ registry.roster.listOf sequence) :
    (registry.purgeAll sequence).1.candidate? identity = registry.candidate? identity := by
  obtain ⟨_, result⟩ := registry.purgeAll_eq sequence
  rw [result]
  exact candidate?_finishAll_of_not_mem spared registry .cancelled

/-- Whoever is listed is given up, without a timer and without its message. -/
theorem candidate?_purgeAll_of_mem (timed : (registry.purgeAll sequence).1.Timed)
    {identity : Nat} {former : Candidate} (known : registry.candidate? identity = some former)
    (unresolved : former.ending ≠ some .resolved)
    (present : identity ∈ registry.roster.listOf sequence) :
    ∃ candidate, (registry.purgeAll sequence).1.candidate? identity = some candidate ∧
      candidate.phase = .cancelled ∧ candidate.timer = none ∧ candidate.message = none := by
  have finished : ((registry.purgeAll sequence).1.candidate? identity).map Candidate.untimed =
      some (former.untimed.finished .cancelled) := by
    rw [← getElem?_outline, outline_purgeAll, Outline.getElem?_modifyAll, getElem?_outline, known]
    simp [present]
  obtain ⟨candidate, found, untimed⟩ := Option.map_eq_some_iff.mp finished
  have givenUp : candidate.ending = some .cancelled := by
    have ending : candidate.ending = former.ending.or (some .cancelled) :=
      congrArg Candidate.ending untimed
    cases ended : former.ending with
    | none => rw [ending, ended, Option.none_or]
    | some first =>
        cases first with
        | resolved => exact absurd ended unresolved
        | cancelled => rw [ending, ended, Option.some_or]
  have quiet : candidate.timer = none := by
    apply (timed.settled identity candidate found).quiet
    rw [givenUp]
    exact nofun
  exact ⟨candidate, found, Candidate.phase_eq_cancelled givenUp, quiet,
    congrArg Candidate.message untimed⟩

theorem numbers_purgeAll (other : SequenceKey) :
    (registry.purgeAll sequence).1.numbers other =
      if other = sequence then [] else registry.numbers other := by
  have sameNumbers : (registry.purgeAll sequence).1.numberOf = registry.numberOf :=
    funext numberOf_purgeAll
  rw [numbers, sameNumbers, roster_purgeAll, Roster.listOf_forget_other]
  split
  · exact List.mergeSort_nil
  · rfl

/-- Nothing can be found of a sequence that was forgotten, and everything of any other. -/
theorem find?_purgeAll (other : SequenceKey) (number : Nat) :
    (registry.purgeAll sequence).1.find? other number =
      if other = sequence then none else registry.find? other number := by
  rw [find?, roster_purgeAll, Roster.listOf_forget_other]
  simp only [numberOf_purgeAll]
  split
  · rfl
  · rfl

theorem status?_purgeAll (listed : registry.outline.Listed) (other : SequenceKey)
    (number : Nat) :
    (registry.purgeAll sequence).1.status? other number =
      if other = sequence then none else registry.status? other number := by
  unfold status?
  rw [find?_purgeAll]
  split
  · rfl
  · next isOther =>
      cases found : registry.find? other number with
      | none => rfl
      | some identity =>
          have spared : identity ∉ registry.roster.listOf sequence := fun present =>
            isOther (listed.unique (List.mem_of_find?_eq_some found) present)
          rw [Option.bind_some, Option.bind_some, candidate?_purgeAll_of_not_mem spared]

/-! ## The main result -/

/-- What forgetting a sequence makes of a registry, and what it reports. -/
structure Cleared (before : Registry) (sequence : SequenceKey) (after : Registry)
    (count : Nat) : Prop where
  counts : count = before.countOf sequence
  countAll : after.countAll + count = before.countAll
  /-- The sequence has no list any more, and is not suspended. -/
  active : ∀ other, after.roster.activeOf other =
    if other = sequence then [] else before.roster.activeOf other
  suspended : ∀ other, after.roster.suspendedOf other =
    if other = sequence then [] else before.roster.suspendedOf other
  marks : ∀ other, after.isSuspended other =
    if other = sequence then false else before.isSuspended other
  numbers : ∀ other, after.numbers other =
    if other = sequence then [] else before.numbers other
  statuses : ∀ other number, after.status? other number =
    if other = sequence then none else before.status? other number
  ended : ∀ identity ∈ before.roster.listOf sequence,
    ∃ candidate, after.candidate? identity = some candidate ∧ candidate.phase = .cancelled ∧
      candidate.timer = none ∧ candidate.message = none
  spared : ∀ identity, identity ∉ before.roster.listOf sequence →
    after.candidate? identity = before.candidate? identity
  /-- What waits for another candidate goes on waiting. -/
  agenda : after.agenda =
    { before.agenda with
      entries := before.agenda.entries.filter fun entry =>
        decide (entry.task.candidate ∉ before.roster.listOf sequence) }
  resends : after.journal.resends = before.journal.resends
  /-- Nothing else changes, the store included. -/
  frame : { after with
    candidates := before.candidates
    roster := before.roster
    agenda := before.agenda
    journal := before.journal } = before

end Registry

/-- In every reachable state a whole sequence can be taken away, and nothing else is. -/
theorem Service.cleared_of_reachable {service : Service} (reachable : service.IsReachable)
    (sequence : SequenceKey) :
    service.world.Cleared sequence (service.world.purgeAll sequence).1
      (service.world.purgeAll sequence).2 := by
  obtain ⟨sound, isTimed, booked⟩ := reachable.isBooked
  obtain ⟨first, moves, initial, run⟩ := reachable
  have listed : service.world.outline.Listed :=
    ⟨sound.listed.sound, sound.listed.present, sound.listed.homed⟩
  have filed := filed_run initial run
  have books : Registry.Books (fun _ => False) service.world
      (service.world.purgeAll sequence).1 := Registry.isUpkeep_books.purgeAll service.world sequence
  obtain ⟨_, result⟩ := service.world.purgeAll_eq sequence
  obtain ⟨_, _, ends⟩ :=
    service.world.finishAll_eq .cancelled (service.world.roster.listOf sequence)
  constructor
  case counts => exact service.world.snd_purgeAll sequence
  case countAll => exact Registry.countAll_purgeAll listed.sound sequence
  case active =>
    intro other
    rw [Registry.roster_purgeAll, Roster.activeOf_forget]
  case suspended =>
    intro other
    rw [Registry.roster_purgeAll, Roster.suspendedOf_forget]
  case marks =>
    intro other
    rw [Registry.isSuspended, Registry.roster_purgeAll, Roster.isSuspended_forget]
    rfl
  case numbers => exact Registry.numbers_purgeAll
  case statuses => exact Registry.status?_purgeAll listed
  case ended =>
    intro identity present
    obtain ⟨former, isFormer, _⟩ := listed.homed sequence identity present
    obtain ⟨candidate, known, rfl⟩ := Option.map_eq_some_iff.mp
      ((Registry.getElem?_outline _ _).symm.trans isFormer)
    exact Registry.candidate?_purgeAll_of_mem (books.timed isTimed.timed) known
      (filed sequence identity present _ isFormer).unresolved present
  case spared => exact fun identity spared => Registry.candidate?_purgeAll_of_not_mem spared
  case agenda =>
    rw [result]
    exact Registry.agenda_finishAll isTimed.timed booked .cancelled _
  case resends => rw [result]
  case frame => rw [result, ends]

end Redelivery
