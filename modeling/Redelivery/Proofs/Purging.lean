import Mathlib.Data.List.Find
import Redelivery.Proofs.Counting
import Redelivery.Proofs.Filing
import Redelivery.Proofs.Queue

/-!
# What a purge takes away

An acknowledgment ends the candidates whose numbers it covers, wherever their sequence lists
them, takes their tasks off the agenda and asks the store to drop their records.  Everything
else stays as it was: the other candidates with their timers, the order of the lists, the
suspensions, and the activities that are under way.  What the store makes of the request has
no effect at all.
-/

namespace Redelivery

namespace Registry

/-! ## Ending candidates -/

theorem finishAll_cons (registry : Registry) (ending : Ending) (identity : Nat)
    (rest : List Nat) : registry.finishAll ending (identity :: rest) =
      ((registry.dropTimer identity).modify identity (Candidate.finish · ending)).finishAll
        ending rest :=
  rfl

/-- Ending candidates has to do with neither the store nor the journal. -/
theorem finishAll_apart (registry : Registry) (store : Option Store) (journal : Journal)
    (ending : Ending) (identities : List Nat) :
    { registry with store, journal }.finishAll ending identities =
      { registry.finishAll ending identities with store, journal } := by
  induction identities generalizing registry with
  | nil => rfl
  | cons identity rest inductionHypothesis =>
      have dropped : { registry with store, journal }.dropTimer identity =
          { registry.dropTimer identity with store, journal } := by
        simp only [dropTimer, candidate?]
        split <;> rfl
      rw [finishAll_cons, finishAll_cons, dropped]
      exact inductionHypothesis ((registry.dropTimer identity).modify identity _)

/-- It changes candidates and the agenda, and nothing else. -/
theorem finishAll_eq (registry : Registry) (ending : Ending) (identities : List Nat) :
    ∃ candidates agenda, registry.finishAll ending identities =
      { registry with candidates, agenda } := by
  induction identities generalizing registry with
  | nil => exact ⟨_, _, rfl⟩
  | cons identity rest inductionHypothesis =>
      obtain ⟨dropped, drops, _⟩ := registry.dropTimer_eq identity
      rw [finishAll_cons, drops]
      exact inductionHypothesis ({ registry with agenda := dropped }.modify identity _)

/-- Whoever is not among the candidates stays as it is. -/
theorem candidate?_finishAll_of_not_mem {identities : List Nat} {identity : Nat}
    (spared : identity ∉ identities) (registry : Registry) (ending : Ending) :
    (registry.finishAll ending identities).candidate? identity =
      registry.candidate? identity := by
  induction identities generalizing registry with
  | nil => rfl
  | cons first rest inductionHypothesis =>
      rw [List.mem_cons, not_or] at spared
      rw [finishAll_cons, inductionHypothesis spared.2, candidate?_modify_of_ne spared.1,
        candidate?_dropTimer]

/-- The tasks that wait for other candidates are left when the timer of a candidate is
dropped. -/
theorem agenda_dropTimer {registry : Registry} (timed : registry.Timed)
    (booked : registry.Booked) (identity : Nat) :
    (registry.dropTimer identity).agenda =
      { registry.agenda with
        entries := registry.agenda.entries.filter fun entry =>
          decide (entry.task.candidate ≠ identity) } := by
  obtain ⟨_, clear⟩ := booked.dropTimer identity
  unfold dropTimer at clear ⊢
  split at clear
  · have all : (registry.agenda.entries.filter fun entry =>
        decide (entry.task.candidate ≠ identity)) = registry.agenda.entries := by
      apply List.filter_eq_self.mpr
      exact fun entry present => decide_eq_true (clear entry present)
    rw [all]
  · next ticket isArmed =>
      obtain ⟨candidate, found, timer⟩ := Option.bind_eq_some_iff.mp isArmed
      obtain ⟨_, waits⟩ := timed.armed identity candidate ticket found timer
      simp only [Schedule.Agenda.cancel]
      congr 1
      apply List.filter_congr
      intro entry present
      apply decide_eq_decide.mpr
      apply not_congr
      constructor
      · intro sameTicket
        rw [timed.agenda.eq_of_ticket present waits sameTicket]
      · rintro rfl
        by_contra otherTicket
        exact clear entry (Schedule.Agenda.mem_cancel_iff.mpr ⟨present, otherTicket⟩) rfl

/-- Whoever ends leaves the agenda, and nobody else does. -/
theorem agenda_finishAll {registry : Registry} (timed : registry.Timed)
    (booked : registry.Booked) (ending : Ending) (identities : List Nat) :
    (registry.finishAll ending identities).agenda =
      { registry.agenda with
        entries := registry.agenda.entries.filter fun entry =>
          decide (entry.task.candidate ∉ identities) } := by
  induction identities generalizing registry with
  | nil =>
      change registry.agenda = _
      simp
  | cons identity rest inductionHypothesis =>
      have books : Books (fun _ => False) registry (registry.finishAll ending [identity]) :=
        isUpkeep_books.finish registry ending identity
      have first : (registry.finishAll ending [identity]).agenda =
          { registry.agenda with
            entries := registry.agenda.entries.filter fun entry =>
              decide (entry.task.candidate ≠ identity) } :=
        agenda_dropTimer timed booked identity
      apply (inductionHypothesis (books.timed timed) (books.booked timed booked)).trans
      rw [first, List.filter_filter]
      simp [Bool.and_comm]

/-! ## Who is concerned -/

variable {registry : Registry} {sequence : SequenceKey} {acknowledged : Nat → Bool}

theorem mem_acknowledgedOf_iff {identity : Nat} :
    identity ∈ registry.acknowledgedOf sequence acknowledged ↔
      identity ∈ registry.roster.listOf sequence ∧
        (registry.numberOf identity).any acknowledged = true :=
  List.mem_filter

/-- The message numbers of a sequence that an acknowledgment covers, ascending. -/
def covered (registry : Registry) (sequence : SequenceKey) (acknowledged : Nat → Bool) :
    List Nat :=
  (registry.numbers sequence).filter acknowledged

/-- Numbers that are filtered before they are put in order are in the same order. -/
theorem mergeSort_filter (numbers : List Nat) (wanted : Nat → Bool) :
    (numbers.filter wanted).mergeSort = numbers.mergeSort.filter wanted := by
  have ordered (list : List Nat) : list.mergeSort.Pairwise fun first second =>
      decide (first ≤ second) = true := by
    apply List.pairwise_mergeSort
    · simpa using fun _ _ _ => Nat.le_trans
    · simpa using Nat.le_total
  refine List.Perm.eq_of_pairwise ?_ (ordered _) ((ordered numbers).filter wanted) ?_
  · intro first second _ _ atMost atLeast
    exact Nat.le_antisymm (of_decide_eq_true atMost) (of_decide_eq_true atLeast)
  · exact (List.mergeSort_perm _ _).trans ((List.mergeSort_perm numbers _).symm.filter wanted)

/-- The numbers that are covered are those of the candidates that are acknowledged. -/
theorem covered_eq : registry.covered sequence acknowledged =
    ((registry.acknowledgedOf sequence acknowledged).filterMap registry.numberOf).mergeSort := by
  rw [covered, numbers, ← mergeSort_filter, acknowledgedOf, List.filter_filterMap,
    List.filterMap_filter]
  congr 2
  funext identity
  cases registry.numberOf identity with
  | none => rfl
  | some number => simp [Option.filter]

theorem length_covered : (registry.covered sequence acknowledged).length =
    (registry.acknowledgedOf sequence acknowledged).length := by
  rw [covered_eq, List.length_mergeSort]
  apply List.filterMap_length_eq_length.mpr
  intro identity concerned
  have named := (mem_acknowledgedOf_iff.mp concerned).2
  cases known : registry.numberOf identity with
  | none => simp [known] at named
  | some number => rfl

theorem covered_eq_nil_iff : registry.covered sequence acknowledged = [] ↔
    registry.acknowledgedOf sequence acknowledged = [] := by
  rw [← List.length_eq_zero_iff, length_covered, List.length_eq_zero_iff]

/-! ## What a purge does -/

/-- Asking the store to drop records changes the store and adds to the log. -/
theorem dropRecords_eq (registry : Registry) (sequence : SequenceKey) (numbers : List Nat) :
    ∃ events, registry.dropRecords sequence numbers =
      { registry with
        store := registry.store.map fun store => (store.remove sequence numbers).2
        journal := { registry.journal with events } } := by
  unfold dropRecords
  cases configured : registry.store with
  | none =>
      refine ⟨registry.journal.events, ?_⟩
      cases registry
      subst configured
      rfl
  | some store =>
      simp only [Option.map_some]
      cases (store.remove sequence numbers).1 with
      | ok removed => exact ⟨_, rfl⟩
      | error failure => exact ⟨_, rfl⟩

/-- A purge that finds nobody only leaves its span in the log. -/
theorem purgeAcknowledged_of_nil {registry : Registry} {sequence : SequenceKey}
    {acknowledged : Nat → Bool} (none : registry.acknowledgedOf sequence acknowledged = []) :
    ∃ events, (registry.purgeAcknowledged sequence acknowledged).1 =
      { registry with journal := { registry.journal with events } } :=
  ⟨_, congrArg (fun result : Registry × Nat =>
    { result.1 with journal := result.1.journal.leave "purge_acknowledged" })
      (if_pos (List.isEmpty_iff.mpr none))⟩

/-- A purge ends the candidates that are acknowledged, strikes them off the roster, and asks
the store to drop their records. -/
theorem purgeAcknowledged_of_ne_nil {registry : Registry} {sequence : SequenceKey}
    {acknowledged : Nat → Bool} (some : registry.acknowledgedOf sequence acknowledged ≠ []) :
    ∃ events, (registry.purgeAcknowledged sequence acknowledged).1 =
      { registry.finishAll .resolved (registry.acknowledgedOf sequence acknowledged) with
        roster := registry.roster.strike sequence fun identity =>
          (registry.numberOf identity).any acknowledged
        store := registry.store.map fun store => (store.remove sequence
          ((registry.acknowledgedOf sequence acknowledged).filterMap
            registry.numberOf).mergeSort).2
        journal := { registry.journal with events } } := by
  let purged := registry.acknowledgedOf sequence acknowledged
  let inside := registry.entered "purge_acknowledged" [sequenceField sequence]
  let finished :=
    { inside.finishAll .resolved purged with
      roster := registry.roster.strike sequence fun identity =>
        (registry.numberOf identity).any acknowledged }
  let reported := finished.report
    { level := .debug
      target := Log.registryTarget
      message := "Purged acknowledged messages"
      fields := [sequenceField sequence, .number "count" purged.length]
      spans := [] }
  let dropped := reported.dropRecords sequence (purged.filterMap registry.numberOf).mergeSort
  have result : (registry.purgeAcknowledged sequence acknowledged).1 =
      { dropped with journal := dropped.journal.leave "purge_acknowledged" } :=
    congrArg (fun result : Registry × Nat =>
      { result.1 with journal := result.1.journal.leave "purge_acknowledged" })
        (if_neg fun empty => some (List.isEmpty_iff.mp empty))
  have ends : inside.finishAll .resolved purged =
      { registry.finishAll .resolved purged with
        store := registry.store
        journal := inside.journal } :=
    registry.finishAll_apart registry.store inside.journal .resolved purged
  have drops := reported.dropRecords_eq sequence (purged.filterMap registry.numberOf).mergeSort
  obtain ⟨events, drops⟩ := drops
  rw [result]
  simp only [dropped, drops, reported, finished, ends, report]
  exact ⟨_, rfl⟩

/-- Apart from the log, this is all that a purge does. -/
theorem purgeAcknowledged_eq (registry : Registry) (sequence : SequenceKey)
    (acknowledged : Nat → Bool) :
    ∃ events, (registry.purgeAcknowledged sequence acknowledged).1 =
      { registry.finishAll .resolved (registry.acknowledgedOf sequence acknowledged) with
        roster := (registry.purgeAcknowledged sequence acknowledged).1.roster
        store := registry.store.map fun store =>
          if registry.covered sequence acknowledged = [] then store
          else (store.remove sequence (registry.covered sequence acknowledged)).2
        journal := { registry.journal with events } } := by
  by_cases none : registry.acknowledgedOf sequence acknowledged = []
  · obtain ⟨events, result⟩ := purgeAcknowledged_of_nil none
    refine ⟨events, ?_⟩
    rw [result, none]
    simp only [covered_eq_nil_iff.mpr none, if_true, Option.map_id']
    rfl
  · obtain ⟨events, result⟩ := purgeAcknowledged_of_ne_nil none
    refine ⟨events, ?_⟩
    rw [result]
    have some : registry.covered sequence acknowledged ≠ [] := mt covered_eq_nil_iff.mp none
    rw [covered_eq] at some
    simp only [covered_eq, if_neg some]

/-! ## What becomes of the rest -/

theorem roster_purgeAcknowledged :
    (registry.purgeAcknowledged sequence acknowledged).1.roster =
      if registry.acknowledgedOf sequence acknowledged = [] then registry.roster
      else registry.roster.strike sequence fun identity =>
        (registry.numberOf identity).any acknowledged := by
  rw [← roster_outline, outline_purgeAcknowledged]
  split <;> rfl

/-- A list of the sequence keeps whoever is not acknowledged, in the same order. -/
theorem list_purgeAcknowledged {listIn : Roster → SequenceKey → List Nat}
    (within : ∀ identity ∈ listIn registry.roster sequence,
      identity ∈ registry.roster.listOf sequence)
    (strikes : ∀ other struck, listIn (registry.roster.strike sequence struck) other =
      if other = sequence then
        (listIn registry.roster other).filter fun identity => !struck identity
      else listIn registry.roster other) (other : SequenceKey) :
    listIn (registry.purgeAcknowledged sequence acknowledged).1.roster other =
      if other = sequence then
        (listIn registry.roster other).filter fun identity =>
          !(registry.numberOf identity).any acknowledged
      else listIn registry.roster other := by
  rw [roster_purgeAcknowledged]
  split
  · next none =>
      split
      · next same =>
          subst same
          symm
          apply List.filter_eq_self.mpr
          intro identity present
          rw [Bool.not_eq_true', Bool.eq_false_iff]
          intro covers
          have concerned := mem_acknowledgedOf_iff.mpr ⟨within identity present, covers⟩
          rw [none] at concerned
          cases concerned
      · rfl
  · exact strikes other _

theorem numberOf_purgeAcknowledged (identity : Nat) :
    (registry.purgeAcknowledged sequence acknowledged).1.numberOf identity =
      registry.numberOf identity := by
  rw [← numberOf_outline, ← numberOf_outline, outline_purgeAcknowledged]
  split
  · rfl
  · exact Outline.numberOf_modifyAll (Candidate.persists_finished .resolved) _ _ identity

/-- Whoever is spared stays as it is. -/
theorem candidate?_purgeAcknowledged_of_not_mem {identity : Nat}
    (spared : identity ∉ registry.acknowledgedOf sequence acknowledged) :
    (registry.purgeAcknowledged sequence acknowledged).1.candidate? identity =
      registry.candidate? identity := by
  obtain ⟨_, result⟩ := registry.purgeAcknowledged_eq sequence acknowledged
  rw [result]
  exact candidate?_finishAll_of_not_mem spared registry .resolved

/-- Whoever is acknowledged ends, without a timer and without its message. -/
theorem candidate?_purgeAcknowledged_of_mem
    (timed : (registry.purgeAcknowledged sequence acknowledged).1.Timed) {identity : Nat}
    {former : Candidate} (known : registry.candidate? identity = some former)
    (unresolved : former.ending ≠ some .resolved)
    (concerned : identity ∈ registry.acknowledgedOf sequence acknowledged) :
    ∃ candidate,
      (registry.purgeAcknowledged sequence acknowledged).1.candidate? identity =
        some candidate ∧
      candidate.phase =
        (if former.phase = .cancelled then Phase.cancelled else Phase.resolved) ∧
      candidate.timer = none ∧ candidate.message = none := by
  have finished : ((registry.purgeAcknowledged sequence acknowledged).1.candidate? identity).map
      Candidate.untimed = some (former.untimed.finished .resolved) := by
    rw [← getElem?_outline, outline_purgeAcknowledged, if_neg (List.ne_nil_of_mem concerned),
      Outline.getElem?_modifyAll, getElem?_outline, known]
    simp [concerned]
  obtain ⟨candidate, found, untimed⟩ := Option.map_eq_some_iff.mp finished
  have ending : candidate.ending = former.ending.or (some .resolved) :=
    congrArg Candidate.ending untimed
  refine ⟨candidate, found, ?_, ?_, congrArg Candidate.message untimed⟩
  · cases ended : former.ending with
    | none =>
        have notCancelled : former.phase ≠ .cancelled := by
          intro cancelled
          have terminal := former.isTerminal_phase
          rw [ended, cancelled] at terminal
          cases terminal
        rw [if_neg notCancelled]
        simp [Candidate.phase, ending, ended]
    | some first =>
        cases first with
        | resolved => exact absurd ended unresolved
        | cancelled => simp [Candidate.phase, ending, ended]
  · apply (timed.settled identity candidate found).quiet
    rw [ending]
    cases former.ending <;> nofun

/-- A message that is not acknowledged is not concerned. -/
theorem spared_of_numberOf (listed : registry.outline.Listed) {other : SequenceKey}
    {identity number : Nat} (present : identity ∈ registry.roster.listOf other)
    (named : registry.numberOf identity = some number)
    (stays : ¬ (other = sequence ∧ acknowledged number = true)) :
    identity ∉ registry.acknowledgedOf sequence acknowledged := by
  intro concerned
  obtain ⟨home, covers⟩ := mem_acknowledgedOf_iff.mp concerned
  rw [named] at covers
  exact stays ⟨listed.unique present home, covers⟩

/-- What can be found of a message is found as before, unless it is acknowledged. -/
theorem find?_purgeAcknowledged (other : SequenceKey) (number : Nat) :
    (registry.purgeAcknowledged sequence acknowledged).1.find? other number =
      if other = sequence ∧ acknowledged number = true then none
      else registry.find? other number := by
  have kept : (registry.purgeAcknowledged sequence acknowledged).1.roster.listOf other = _ :=
    list_purgeAcknowledged (fun _ present => present) (registry.roster.listOf_strike sequence)
      other
  unfold find?
  simp only [numberOf_purgeAcknowledged, kept]
  by_cases same : other = sequence
  · subst same
    rw [if_pos rfl, List.find?_filter]
    split
    · next gone =>
        apply List.find?_eq_none.mpr
        intro identity _
        simp only [Bool.not_eq_true', decide_eq_true_eq, not_and]
        intro uncovered named
        rw [named, Option.any_some, gone.2] at uncovered
        cases uncovered
    · next stays =>
        apply List.find?_congr
        intro identity _
        apply decide_eq_decide.mpr
        rw [decide_eq_true_eq, Bool.not_eq_true', and_iff_right_iff_imp]
        intro named
        rw [named, Option.any_some, Bool.eq_false_iff]
        exact fun covers => stays ⟨rfl, covers⟩
  · rw [if_neg same, if_neg (fun gone => same gone.1)]

/-- So is its status. -/
theorem status?_purgeAcknowledged (listed : registry.outline.Listed) (other : SequenceKey)
    (number : Nat) :
    (registry.purgeAcknowledged sequence acknowledged).1.status? other number =
      if other = sequence ∧ acknowledged number = true then none
      else registry.status? other number := by
  unfold status?
  rw [find?_purgeAcknowledged]
  split
  · rfl
  · next stays =>
      cases found : registry.find? other number with
      | none => rfl
      | some identity =>
          have spared : identity ∉ registry.acknowledgedOf sequence acknowledged :=
            spared_of_numberOf listed (List.mem_of_find?_eq_some found) (numberOf_of_find? found)
              stays
          rw [Option.bind_some, Option.bind_some, candidate?_purgeAcknowledged_of_not_mem spared]

/-! ## The store -/

/-- The registry apart from its store and its log. -/
def storeless (registry : Registry) : Registry :=
  { registry with store := none, journal := { registry.journal with events := [] } }

/-- The store decides neither what a purge does to the registry nor what it reports. -/
theorem storeless_purgeAcknowledged (registry : Registry) (store : Option Store)
    (sequence : SequenceKey) (acknowledged : Nat → Bool) :
    ({ registry with store }.purgeAcknowledged sequence acknowledged).1.storeless =
        (registry.purgeAcknowledged sequence acknowledged).1.storeless ∧
      ({ registry with store }.purgeAcknowledged sequence acknowledged).2 =
        (registry.purgeAcknowledged sequence acknowledged).2 := by
  have sameConcern : { registry with store }.acknowledgedOf sequence acknowledged =
      registry.acknowledgedOf sequence acknowledged := rfl
  have ends : { registry with store }.finishAll .resolved
      (registry.acknowledgedOf sequence acknowledged) = _ :=
    registry.finishAll_apart store registry.journal .resolved
      (registry.acknowledgedOf sequence acknowledged)
  constructor
  · obtain ⟨_, result⟩ := registry.purgeAcknowledged_eq sequence acknowledged
    obtain ⟨_, otherResult⟩ :=
      { registry with store }.purgeAcknowledged_eq sequence acknowledged
    rw [result, otherResult, sameConcern, ends, roster_purgeAcknowledged,
      roster_purgeAcknowledged]
    rfl
  · rw [snd_purgeAcknowledged, snd_purgeAcknowledged, sameConcern]

/-! ## The main result -/

/-- What a purge of acknowledged messages makes of a registry, and what it reports. -/
structure Purged (before : Registry) (sequence : SequenceKey) (acknowledged : Nat → Bool)
    (after : Registry) (count : Nat) : Prop where
  /-- The lists of the sequence lose what is acknowledged, and keep the order of the rest. -/
  active : ∀ other, after.roster.activeOf other =
    if other = sequence then
      (before.roster.activeOf other).filter fun identity =>
        !(before.numberOf identity).any acknowledged
    else before.roster.activeOf other
  suspended : ∀ other, after.roster.suspendedOf other =
    if other = sequence then
      (before.roster.suspendedOf other).filter fun identity =>
        !(before.numberOf identity).any acknowledged
    else before.roster.suspendedOf other
  marks : ∀ other, after.isSuspended other = before.isSuspended other
  numbers : ∀ other, after.numbers other =
    if other = sequence then (before.numbers other).filter fun number => !acknowledged number
    else before.numbers other
  statuses : ∀ other number, after.status? other number =
    if other = sequence ∧ acknowledged number = true then none
    else before.status? other number
  counts : count = (before.covered sequence acknowledged).length
  countAll : after.countAll + count = before.countAll
  /-- What is acknowledged ends, unless it was given up before. -/
  ended : ∀ identity ∈ before.acknowledgedOf sequence acknowledged,
    ∃ former candidate, before.candidate? identity = some former ∧
      after.candidate? identity = some candidate ∧
      candidate.phase =
        (if former.phase = .cancelled then Phase.cancelled else Phase.resolved) ∧
      candidate.timer = none ∧ candidate.message = none
  spared : ∀ identity, identity ∉ before.acknowledgedOf sequence acknowledged →
    after.candidate? identity = before.candidate? identity
  /-- What waits for another candidate goes on waiting. -/
  agenda : after.agenda =
    { before.agenda with
      entries := before.agenda.entries.filter fun entry =>
        decide (entry.task.candidate ∉ before.acknowledgedOf sequence acknowledged) }
  ascending : (before.covered sequence acknowledged).Pairwise (· < ·)
  /-- The store is asked once, and only if there is something to remove. -/
  store : after.store = before.store.map fun store =>
    if before.covered sequence acknowledged = [] then store
    else (store.remove sequence (before.covered sequence acknowledged)).2
  requests : ∀ watched, before.store = some (.watched watched) →
    (after.store.elim [] Store.removals) = watched.removals ++
      if before.covered sequence acknowledged = [] then []
      else [(sequence, before.covered sequence acknowledged)]
  resends : after.journal.resends = before.journal.resends
  /-- Nothing else changes. -/
  frame : { after with
    candidates := before.candidates
    roster := before.roster
    agenda := before.agenda
    store := before.store
    journal := before.journal } = before

end Registry

namespace Service

theorem starting_purgeAcknowledged (registry : Registry) (sequence : SequenceKey)
    (acknowledged : Nat → Bool) :
    (registry.purgeAcknowledged sequence acknowledged).1.starting = registry.starting := by
  obtain ⟨_, result⟩ := registry.purgeAcknowledged_eq sequence acknowledged
  obtain ⟨_, _, ends⟩ := registry.finishAll_eq .resolved
    (registry.acknowledgedOf sequence acknowledged)
  rw [result, ends]

/-- A purge starts no activity and stops none. -/
theorem carryOut_purgeAcknowledged {service : Service} (idle : service.world.starting = [])
    (sequence : SequenceKey) (acknowledged : Nat → Bool) :
    service.carryOut (.purgeAcknowledged sequence acknowledged) =
      { service with world := (service.world.purgeAcknowledged sequence acknowledged).1 } :=
  launch_of_idle ((starting_purgeAcknowledged _ _ _).trans idle)

/-- The numbers that can be asked for are the book's, before a purge and after it. -/
theorem numbers_purgeAcknowledged {service : Service} {book : Book}
    (idle : service.world.starting = []) (tracks : service.outline.Tracks book)
    (sequence : SequenceKey) (acknowledged : Nat → Bool) (other : SequenceKey) :
    (service.world.purgeAcknowledged sequence acknowledged).1.numbers other =
      if other = sequence then
        (service.world.numbers other).filter fun number => !acknowledged number
      else service.world.numbers other := by
  have after := tracks_world (tracks_purgeAcknowledged tracks sequence acknowledged)
  rw [carryOut_purgeAcknowledged idle] at after
  rw [Registry.numbers, Registry.filterMap_numberOf after, Registry.numbers,
    Registry.filterMap_numberOf (tracks_world tracks), ← Registry.mergeSort_filter]
  by_cases same : other = sequence
  · subst same
    rw [if_pos rfl, Book.write_self]
    rfl
  · rw [if_neg same, Book.write_of_ne same]

/-- What is acknowledged is taken away in every reachable state, and nothing else is. -/
theorem purged_of_reachable {service : Service} (reachable : service.IsReachable)
    (sequence : SequenceKey) (acknowledged : Nat → Bool) :
    service.world.Purged sequence acknowledged
      (service.world.purgeAcknowledged sequence acknowledged).1
      (service.world.purgeAcknowledged sequence acknowledged).2 := by
  obtain ⟨sound, isTimed, booked⟩ := reachable.isBooked
  obtain ⟨first, moves, initial, run⟩ := reachable
  have listed : service.world.outline.Listed :=
    ⟨sound.listed.sound, sound.listed.present, sound.listed.homed⟩
  have tracks := tracks_run initial run
  have filed := filed_run initial run
  have books : Registry.Books (fun _ => False) service.world
      (service.world.purgeAcknowledged sequence acknowledged).1 :=
    Registry.isUpkeep_books.purgeAcknowledged service.world sequence acknowledged
  obtain ⟨_, result⟩ := service.world.purgeAcknowledged_eq sequence acknowledged
  obtain ⟨_, _, ends⟩ := service.world.finishAll_eq .resolved
    (service.world.acknowledgedOf sequence acknowledged)
  constructor
  case active =>
    exact Registry.list_purgeAcknowledged
      (fun _ present => Roster.mem_listOf.mpr (.inl present))
      fun other struck => service.world.roster.activeOf_strike sequence other struck
  case suspended =>
    exact Registry.list_purgeAcknowledged
      (fun _ present => Roster.mem_listOf.mpr (.inr present))
      fun other struck => service.world.roster.suspendedOf_strike sequence other struck
  case marks =>
    intro other
    rw [Registry.isSuspended, Registry.roster_purgeAcknowledged]
    split
    · rfl
    · exact service.world.roster.isSuspended_strike sequence other _
  case numbers => exact numbers_purgeAcknowledged isTimed.started tracks sequence acknowledged
  case statuses =>
    exact fun other number => Registry.status?_purgeAcknowledged listed other number
  case counts => rw [Registry.snd_purgeAcknowledged, Registry.length_covered]
  case countAll =>
    exact Registry.countAll_purgeAcknowledged listed.sound sequence acknowledged
  case ended =>
    intro identity concerned
    obtain ⟨home, _⟩ := Registry.mem_acknowledgedOf_iff.mp concerned
    obtain ⟨former, isFormer, _⟩ := listed.homed sequence identity home
    obtain ⟨candidate, known, rfl⟩ := Option.map_eq_some_iff.mp
      ((Registry.getElem?_outline _ _).symm.trans isFormer)
    obtain ⟨after, found, phase, quiet, released⟩ :=
      Registry.candidate?_purgeAcknowledged_of_mem (books.timed isTimed.timed) known
        (filed sequence identity home _ isFormer).unresolved concerned
    exact ⟨candidate, after, known, found, phase, quiet, released⟩
  case spared =>
    exact fun identity spared => Registry.candidate?_purgeAcknowledged_of_not_mem spared
  case agenda =>
    rw [result]
    exact Registry.agenda_finishAll isTimed.timed booked .resolved _
  case ascending =>
    have shows := Registry.shows_of_tracks listed.sound (tracks_world tracks)
    exact (shows.ascending sequence).filter acknowledged
  case store => rw [result]
  case requests =>
    intro watched configured
    rw [result, configured]
    split
    · simp [Store.removals]
    · simp [Store.removals, Store.remove]
  case resends => rw [result]
  case frame =>
    rw [result, ends]

/-- In every reachable state, a purge takes away exactly what is acknowledged, reports how
much that is, and asks the store once for all of it; it leaves everything else as it is, and
what the store answers makes no difference. -/
theorem purge_exact {service : Service} (reachable : service.IsReachable)
    (sequence : SequenceKey) (acknowledged : Nat → Bool) :
    service.world.Purged sequence acknowledged
        (service.world.purgeAcknowledged sequence acknowledged).1
        (service.world.purgeAcknowledged sequence acknowledged).2 ∧
      service.carryOut (.purgeAcknowledged sequence acknowledged) =
        { service with world := (service.world.purgeAcknowledged sequence acknowledged).1 } ∧
      ∀ store,
        ({ service.world with store }.purgeAcknowledged sequence acknowledged).1.storeless =
            (service.world.purgeAcknowledged sequence acknowledged).1.storeless ∧
          ({ service.world with store }.purgeAcknowledged sequence acknowledged).2 =
            (service.world.purgeAcknowledged sequence acknowledged).2 := by
  have idle := reachable.isBooked.isTimed.started
  constructor
  · exact purged_of_reachable reachable sequence acknowledged
  constructor
  · exact carryOut_purgeAcknowledged idle sequence acknowledged
  · exact fun store =>
      Registry.storeless_purgeAcknowledged service.world store sequence acknowledged

end Service

namespace Sample

/-- One message is given up, one is registered, and one is registered while the sequence is
suspended; the store is going to fail. -/
def mixedFates : List Move :=
  [.command (.exchangeStore (some (.watched (Store.Watched.empty.failNext 1)))),
    .command (.add (message 3 none)), .command (.stop sequence),
    .command (.add (message 2 none)), .command (.suspend sequence),
    .command (.add (message 1 none))]

end Sample

namespace Service

/-- The first and the last of them are acknowledged. -/
theorem purge_exact_of_mixed_fates :
    ∃ service, Run (Sample.service .byQueue) Sample.mixedFates service ∧
      service.world.covered Sample.sequence (· != 2) = [1, 3] ∧
      (service.world.purgeAcknowledged Sample.sequence (· != 2)).2 = 2 ∧
      (service.world.purgeAcknowledged Sample.sequence (· != 2)).1.numbers Sample.sequence =
        [2] ∧
      ((service.world.purgeAcknowledged Sample.sequence (· != 2)).1.store.elim []
        Store.removals) = [(Sample.sequence, [1, 3])] ∧
      (service.world.purgeAcknowledged Sample.sequence (· != 2)).1.countAll = 1 := by
  obtain ⟨service, followed, seen⟩ := Option.map_eq_some_iff.mp
    (rfl : (follow Sample.mixedFates (Sample.service .byQueue)).map (fun service =>
      (service.world.store, service.world.countAll)) =
        some (some (.watched (Store.Watched.empty.failNext 1)), 3))
  obtain ⟨configured, three⟩ := Prod.mk.inj seen
  have run := Run.of_follow followed
  have reachable : service.IsReachable := ⟨_, _, Sample.isInitial_service _, run⟩
  have purged := (purge_exact reachable Sample.sequence (· != 2)).1
  have numbers : service.world.numbers Sample.sequence = [1, 2, 3] := by
    have tracks := tracks_world (tracks_run (Sample.isInitial_service .byQueue) run)
    rw [(Registry.shows_of_tracks reachable.sound.listed.sound tracks).numbers,
      show (Book.written Sample.mixedFates Sample.sequence).numbers = [3, 2, 1] from rfl]
    simp [List.mergeSort, List.MergeSort.Internal.splitInTwo]
  have covered : service.world.covered Sample.sequence (· != 2) = [1, 3] := by
    rw [Registry.covered, numbers]
    rfl
  have two : (service.world.purgeAcknowledged Sample.sequence (· != 2)).2 = 2 := by
    rw [purged.counts, covered]
    rfl
  refine ⟨service, run, covered, two, ?_, ?_, ?_⟩
  · rw [purged.numbers, if_pos rfl, numbers]
    rfl
  · rw [purged.requests _ configured, covered]
    rfl
  · have left := purged.countAll
    rw [two, show service.world.countAll = 1 + 2 from three] at left
    exact Nat.add_right_cancel left

end Service

end Redelivery
