import Redelivery.Proofs.History
import Redelivery.Proofs.Membership
import Redelivery.Proofs.Sending

/-!
# Every candidate in its place

A sequence that is suspended moves its list to another map, and each of its candidates is
marked.  The mark and the map are changed by different functions, and a candidate that has
ended is passed over when its sequence is suspended.  Still, the marks of a sequence that is
not suspended are off, and those of a suspended one are on, except for candidates that were
given up.  Nobody is listed twice, and whoever was purged is not listed at all.
-/

namespace Redelivery

/-! ## Marks -/

/-- How a candidate is marked that is listed for a suspended sequence, or for one that is
not suspended. -/
structure Candidate.Fits (candidate : Candidate) (suspended : Bool) : Prop where
  unresolved : candidate.ending ≠ some .resolved
  /-- A candidate that was given up does not notice that its sequence is suspended. -/
  marked : candidate.suspended = suspended ∨
    suspended = true ∧ candidate.ending = some .cancelled

namespace Candidate

theorem fits_register (now : Nat) (routing : Executor.Routing) (suspended : Bool)
    (message : Message) : (register now routing suspended message).Fits suspended where
  unresolved := nofun
  marked := .inl rfl

theorem Fits.congr {candidate later : Candidate} {suspended : Bool}
    (fits : candidate.Fits suspended) (sameEnding : later.ending = candidate.ending)
    (sameMark : later.suspended = candidate.suspended) : later.Fits suspended where
  unresolved := sameEnding ▸ fits.unresolved
  marked := by
    rw [sameEnding, sameMark]
    exact fits.marked

/-- Giving up a candidate leaves its mark as it is. -/
theorem Fits.cancelled {candidate : Candidate} {suspended : Bool}
    (fits : candidate.Fits suspended) : (candidate.finished .cancelled).Fits suspended := by
  have ended : (candidate.finished .cancelled).ending = some .cancelled := by
    change candidate.ending.or (some .cancelled) = some .cancelled
    cases was : candidate.ending with
    | none => rfl
    | some ending =>
        cases ending with
        | resolved => exact absurd was fits.unresolved
        | cancelled => rfl
  constructor
  · rw [ended]
    nofun
  · rcases fits.marked with same | ⟨isSuspended, _⟩
    · exact .inl same
    · exact .inr ⟨isSuspended, ended⟩

/-- A suspension marks every candidate that was not given up. -/
theorem Fits.paused {candidate : Candidate} {suspended : Bool}
    (fits : candidate.Fits suspended) : candidate.paused.Fits true := by
  rcases candidate.paused_eq with ⟨mark, paused, marks⟩
  rw [paused]
  constructor
  · exact fits.unresolved
  · cases ended : candidate.ending with
    | none => exact .inl (marks ended)
    | some ending =>
        cases ending with
        | resolved => exact absurd ended fits.unresolved
        | cancelled => exact .inr ⟨rfl, rfl⟩

/-- A resumption takes the mark off every candidate, even if it was given up. -/
theorem Fits.woken {candidate : Candidate} {suspended : Bool} (fits : candidate.Fits suspended)
    (now : Nat) : (candidate.woken now).Fits false := by
  rcases candidate.woken_eq now with ⟨_, _, woken⟩
  rw [woken]
  constructor
  · exact fits.unresolved
  · exact .inl rfl

end Candidate

namespace Outline

/-- Every candidate that is listed is marked as its sequence is. -/
def Filed (outline : Outline) : Prop :=
  ∀ sequence, ∀ identity ∈ outline.roster.listOf sequence, ∀ candidate,
    outline.candidates[identity]? = some candidate →
    candidate.Fits (outline.roster.isSuspended sequence)

theorem filed_initial : (Outline.mk [] Roster.empty [] 0).Filed := by
  intro sequence identity listed
  cases listed

/-- Nobody is listed under two sequences. -/
theorem Listed.unique {outline : Outline} (listed : outline.Listed)
    {sequence other : SequenceKey} {identity : Nat}
    (present : identity ∈ outline.roster.listOf sequence)
    (again : identity ∈ outline.roster.listOf other) : sequence = other := by
  rcases listed.homed sequence identity present with ⟨candidate, found, home⟩
  rw [← home, listed.sequence_eq found again]

/-- Activities that end nobody leave the marks alone. -/
theorem Filed.follows {before after : Outline} (filed : before.Filed)
    (sameRoster : after.roster = before.roster)
    (sameEndings : ∀ identity : Nat, (after.candidates[identity]?).map Candidate.ending =
      (before.candidates[identity]?).map Candidate.ending)
    (follows : ∀ identity : Nat, Option.Rel Candidate.Follows before.candidates[identity]?
      after.candidates[identity]?) : after.Filed := by
  intro sequence identity listed candidate found
  rw [sameRoster] at listed ⊢
  have related := follows identity
  have sameEnding := sameEndings identity
  rw [found] at related sameEnding
  cases was : before.candidates[identity]? with
  | none =>
      rw [was] at related
      cases related
  | some former =>
      rw [was] at related sameEnding
      cases related with
      | some follows =>
          exact (filed sequence identity listed former was).congr (Option.some.inj sameEnding)
            follows.suspended

/-- Candidates are changed along with the roster. -/
theorem Filed.relist {outline : Outline} (filed : outline.Filed)
    {change : Candidate → Candidate} {identities : List Nat} {roster : Roster}
    (struck : ∀ sequence, ∀ identity ∈ roster.listOf sequence,
      identity ∈ outline.roster.listOf sequence)
    (changed : ∀ sequence, ∀ identity ∈ roster.listOf sequence, identity ∈ identities →
      ∀ candidate : Candidate, candidate.Fits (outline.roster.isSuspended sequence) →
        (change candidate).Fits (roster.isSuspended sequence))
    (kept : ∀ sequence, ∀ identity ∈ roster.listOf sequence, identity ∉ identities →
      roster.isSuspended sequence = outline.roster.isSuspended sequence) :
    { outline.modifyAll identities change with roster }.Filed := by
  intro sequence identity listed candidate found
  simp only [getElem?_modifyAll] at found
  rcases Option.map_eq_some_iff.mp found with ⟨former, was, isAfter⟩
  have fits := filed sequence identity (struck sequence identity listed) former was
  by_cases among : identity ∈ identities
  · rw [if_pos among] at isAfter
    exact isAfter ▸ changed sequence identity listed among former fits
  · rw [if_neg among] at isAfter
    subst isAfter
    simp only [kept sequence identity listed among]
    exact fits

/-- Giving up candidates moves nobody. -/
theorem Filed.cancel {outline : Outline} (filed : outline.Filed) (identities : List Nat) :
    (outline.modifyAll identities (Candidate.finished .cancelled)).Filed :=
  filed.relist (fun _ _ listed => listed) (fun _ _ _ _ _ fits => fits.cancelled)
    fun _ _ _ _ => rfl

/-- In what order the maps come does not matter. -/
theorem Filed.reorder {outline : Outline} (filed : outline.Filed) (sound : outline.roster.Sound)
    {roster : Roster} (shuffled : outline.roster.Shuffled roster) :
    { outline with roster }.Filed := by
  intro sequence identity listed candidate found
  simp only [shuffled.listOf sound] at listed
  simp only [shuffled.isSuspended sound]
  exact filed sequence identity listed candidate found

/-- A new candidate is marked as its sequence is. -/
theorem Filed.enroll {outline : Outline} (filed : outline.Filed) (listed : outline.Listed)
    (now : Nat) (routing : Executor.Routing) (message : Message) :
    { outline with
      candidates := outline.candidates ++
        [Candidate.register now routing (outline.roster.isSuspended message.sequence) message]
      roster := outline.roster.add message.sequence outline.candidates.length }.Filed := by
  intro sequence identity present candidate found
  simp only [Roster.isSuspended_add]
  rcases eq_some_of_concat found with old | ⟨rfl, rfl⟩
  · rcases Roster.mem_listOf_add.mp present with was | ⟨rfl, rfl⟩
    · exact filed sequence identity was candidate old
    · obtain ⟨inside, _⟩ := List.getElem?_eq_some_iff.mp old
      exact absurd inside (Nat.lt_irrefl _)
  · rcases Roster.mem_listOf_add.mp present with was | ⟨rfl, _⟩
    · obtain ⟨former, isFormer, _⟩ := listed.homed sequence _ was
      obtain ⟨inside, _⟩ := List.getElem?_eq_some_iff.mp isFormer
      exact absurd inside (Nat.lt_irrefl _)
    · exact Candidate.fits_register now routing _ message

/-- The candidates of a sequence are marked when it is suspended. -/
theorem Filed.suspend {outline : Outline} (filed : outline.Filed) (listed : outline.Listed)
    (sequence : SequenceKey) :
    { outline.modifyAll (outline.roster.activeOf sequence) Candidate.paused with
      roster := outline.roster.suspend sequence }.Filed := by
  apply filed.relist
  · exact fun other identity present => Roster.mem_listOf_suspend.mp present
  · intro other identity present moved candidate fits
    obtain rfl := listed.unique (Roster.mem_listOf_suspend.mp present)
      (Roster.mem_listOf.mpr (.inl moved))
    rw [Roster.isSuspended_suspend]
    exact fits.paused
  · intro other identity present stays
    rw [Roster.isSuspended_suspend_other]
    split
    · next same =>
        subst same
        by_contra active
        exact stays (Roster.mem_activeOf_of_mem_listOf (Bool.eq_false_iff.mpr (Ne.symm active))
          (Roster.mem_listOf_suspend.mp present))
    · rfl

/-- The marks are taken off when a suspended sequence is resumed. -/
theorem Filed.resume {outline : Outline} (filed : outline.Filed) (listed : outline.Listed)
    (now : Nat) {sequence : SequenceKey} (suspended : outline.roster.isSuspended sequence = true) :
    { outline.modifyAll (outline.roster.suspendedOf sequence) (Candidate.woken now) with
      roster := outline.roster.resume sequence }.Filed := by
  apply filed.relist
  · exact fun other identity present => Roster.mem_listOf_resume.mp present
  · intro other identity present moved candidate fits
    obtain rfl := listed.unique (Roster.mem_listOf_resume.mp present)
      (Roster.mem_listOf.mpr (.inr moved))
    rw [Roster.isSuspended_resume]
    exact fits.woken now
  · intro other identity present stays
    have elsewhere : other ≠ sequence := by
      rintro rfl
      rcases Roster.mem_listOf.mp (Roster.mem_listOf_resume.mp present) with active | moved
      · exact absurd suspended
          (Bool.eq_false_iff.mp (listed.sound.isSuspended_of_mem_activeOf active))
      · exact stays moved
    rw [Roster.isSuspended_resume_other, if_neg elsewhere]

end Outline

namespace Service

/-- Joining programs move nobody. -/
theorem filed_joined {before after : Service} (filed : before.outline.Filed)
    (joined : before.Joined after) : after.outline.Filed := by
  rcases joined with ⟨more, _, isAfter⟩
  rw [isAfter]
  exact filed

/-- Every command leaves each candidate in its place. -/
theorem filed_carryOut {service : Service} (listed : service.outline.Listed)
    (filed : service.outline.Filed) (command : Command) :
    (service.carryOut command).outline.Filed := by
  cases command with
  | add message =>
      rw [outline_add]
      split
      · have sameLength : service.world.candidates.length = service.outline.candidates.length :=
          (List.length_map _).symm
        rw [sameLength]
        exact filed.enroll listed service.now service.world.routing message
      · exact filed
  | purgeAcknowledged sequence acknowledged =>
      rw [outline_purgeAcknowledged]
      split
      · exact filed
      · apply filed.relist
        · exact fun other identity present => (Roster.mem_listOf_strike.mp present).1
        · intro other identity present purged
          rcases List.mem_filter.mp purged with ⟨inSequence, isPurged⟩
          obtain ⟨was, kept⟩ := Roster.mem_listOf_strike.mp present
          rw [kept (listed.unique was inSequence)] at isPurged
          cases isPurged
        · exact fun _ _ _ _ => Roster.isSuspended_strike _ _ _ _
  | purgeAll sequence =>
      rw [outline_purgeAll]
      apply filed.relist
      · exact fun other identity present => (Roster.mem_listOf_forget.mp present).1
      · intro other identity present purged
        obtain ⟨was, elsewhere⟩ := Roster.mem_listOf_forget.mp present
        exact absurd (listed.unique was purged) elsewhere
      · intro other identity present _
        rw [Roster.isSuspended_forget, if_neg (Roster.mem_listOf_forget.mp present).2]
        rfl
  | stop sequence =>
      rw [outline_stop]
      exact filed.cancel _
  | shutdown =>
      rw [outline_shutdown]
      exact filed.cancel _
  | suspend sequence =>
      rw [outline_suspend]
      exact filed.suspend listed sequence
  | resume sequence =>
      rw [outline_resume]
      split
      · next suspended => exact filed.resume listed service.now suspended
      · exact filed
  | request _ _ | join _ | serve _ | announce _ | setExecutors _ | closeAgenda
  | prepare _ _ | exchangeStore _ => exact filed_joined filed (joined_carryOut service rfl)

/-- So does every other move. -/
theorem filed_move {service after : Service} {move : Move} (sound : service.Sound)
    (filed : service.outline.Filed) (moved : service.move? move = some after) :
    after.outline.Filed := by
  cases move with
  | command command =>
      obtain rfl := eq_carryOut moved
      exact filed_carryOut sound.listed filed command
  | step index =>
      rcases step_stepAt sound.tidy moved with ⟨sameRoster, _, _, steps⟩
      cases (acts_stepAt sound.tidy moved).1 with
      | deals deals =>
          exact filed.follows sameRoster deals.ending fun identity => (steps identity).follows
      | shutdown _ candidates _ =>
          intro sequence identity listed candidate found
          rw [roster_outline, sameRoster] at listed ⊢
          rw [candidates] at found
          exact filed.cancel service.world.roster.all sequence identity listed candidate found
  | rouse index position =>
      rw [outline_rouseTo moved]
      exact filed
  | wait instant =>
      obtain rfl := eq_wait moved
      exact filed
  | reorder roster =>
      obtain ⟨shuffled, rfl⟩ := eq_reorder moved
      exact filed.reorder sound.listed.sound shuffled

theorem filed_run {first last : Service} {moves : List Move} (initial : first.IsInitial)
    (run : Run first moves last) : last.outline.Filed := by
  induction run with
  | start =>
      rw [outline_of_isInitial initial]
      exact Outline.filed_initial
  | extend run moved inductionHypothesis =>
      exact filed_move (initial.sound.run run) inductionHypothesis moved

/-! ## Purged candidates -/

/-- The moves that purge a candidate. -/
inductive Purges (service : Service) (identity : Nat) : Move → Prop where
  | acknowledged {sequence : SequenceKey} {acknowledged : Nat → Bool} :
      identity ∈ service.world.acknowledgedOf sequence acknowledged →
      Purges service identity (.command (.purgeAcknowledged sequence acknowledged))
  | all {sequence : SequenceKey} : identity ∈ service.world.roster.listOf sequence →
      Purges service identity (.command (.purgeAll sequence))

/-- A candidate that is purged ends. -/
theorem Purges.ends {service : Service} {identity : Nat} {move : Move}
    (purges : service.Purges identity move) : service.Ends identity move := by
  cases purges with
  | acknowledged listed => exact .purgeAcknowledged listed
  | all listed => exact .purgeAll listed

/-- A candidate that is purged is struck off. -/
theorem notListed_of_purges {before after : Service} {identity : Nat} {move : Move}
    (listed : before.outline.Listed) (purges : before.Purges identity move)
    (moved : before.move? move = some after) (sequence : SequenceKey) :
    identity ∉ after.outline.roster.listOf sequence := by
  intro still
  cases purges with
  | @acknowledged home acknowledged purged =>
      obtain rfl := eq_carryOut moved
      rw [outline_purgeAcknowledged, if_neg (List.ne_nil_of_mem purged)] at still
      rcases List.mem_filter.mp purged with ⟨inSequence, isPurged⟩
      obtain ⟨was, kept⟩ := Roster.mem_listOf_strike.mp still
      rw [kept (listed.unique was inSequence)] at isPurged
      cases isPurged
  | @all home inSequence =>
      obtain rfl := eq_carryOut moved
      rw [outline_purgeAll] at still
      obtain ⟨was, elsewhere⟩ := Roster.mem_listOf_forget.mp still
      exact elsewhere (listed.unique was inSequence)

theorem roster_joined {before after : Service} (joined : before.Joined after) :
    after.outline.roster = before.outline.roster := by
  rcases joined with ⟨more, _, isAfter⟩
  rw [isAfter]
  rfl

/-- Only a new candidate is put on a list. -/
theorem wasListed_carryOut {service : Service} {identity : Nat} {candidate : Candidate}
    (known : service.outline.candidates[identity]? = some candidate) {command : Command}
    {sequence : SequenceKey}
    (isListed : identity ∈ (service.carryOut command).outline.roster.listOf sequence) :
    identity ∈ service.outline.roster.listOf sequence := by
  cases command with
  | add message =>
      rw [outline_add] at isListed
      split at isListed
      · rcases Roster.mem_listOf_add.mp isListed with was | ⟨_, rfl⟩
        · exact was
        · have sameLength : service.outline.candidates.length = service.world.candidates.length :=
            List.length_map _
          obtain ⟨inside, _⟩ := List.getElem?_eq_some_iff.mp known
          rw [sameLength] at inside
          exact absurd inside (Nat.lt_irrefl _)
      · exact isListed
  | purgeAcknowledged other acknowledged =>
      rw [outline_purgeAcknowledged] at isListed
      split at isListed
      · exact isListed
      · exact (Roster.mem_listOf_strike.mp isListed).1
  | purgeAll other =>
      rw [outline_purgeAll] at isListed
      exact (Roster.mem_listOf_forget.mp isListed).1
  | stop other =>
      rw [outline_stop] at isListed
      exact isListed
  | shutdown =>
      rw [outline_shutdown] at isListed
      exact isListed
  | suspend other =>
      rw [outline_suspend] at isListed
      exact Roster.mem_listOf_suspend.mp isListed
  | resume other =>
      rw [outline_resume] at isListed
      split at isListed
      · exact Roster.mem_listOf_resume.mp isListed
      · exact isListed
  | request _ _ | join _ | serve _ | announce _ | setExecutors _ | closeAgenda
  | prepare _ _ | exchangeStore _ =>
      rw [roster_joined (joined_carryOut service rfl)] at isListed
      exact isListed

theorem wasListed_move {before after : Service} {move : Move} (sound : before.Sound)
    (moved : before.move? move = some after) {identity : Nat} {candidate : Candidate}
    (known : before.outline.candidates[identity]? = some candidate) {sequence : SequenceKey}
    (isListed : identity ∈ after.outline.roster.listOf sequence) :
    identity ∈ before.outline.roster.listOf sequence := by
  cases move with
  | command command =>
      obtain rfl := eq_carryOut moved
      exact wasListed_carryOut known isListed
  | step index =>
      rw [roster_outline, (step_stepAt sound.tidy moved).1] at isListed
      exact isListed
  | rouse index position =>
      rw [outline_rouseTo moved] at isListed
      exact isListed
  | wait instant =>
      obtain rfl := eq_wait moved
      exact isListed
  | reorder roster =>
      obtain ⟨shuffled, rfl⟩ := eq_reorder moved
      rwa [roster_outline, withRoster, shuffled.listOf sound.listed.sound] at isListed

/-- Nobody comes back to a list. -/
theorem notListed_run {first last : Service} {moves : List Move} {identity : Nat}
    (sound : first.Sound) (ended : first.HasEnded identity)
    (absent : ∀ sequence, identity ∉ first.outline.roster.listOf sequence)
    (run : Run first moves last) (sequence : SequenceKey) :
    identity ∉ last.outline.roster.listOf sequence := by
  induction run with
  | start => exact absent sequence
  | extend run moved inductionHypothesis =>
      rcases ended.run sound run with ⟨candidate, known, _⟩
      intro isListed
      exact inductionHypothesis (wasListed_move (sound.run run) moved known isListed)

end Service

/-! ## The lists of a registry -/

/-- What is true of the two maps of a registry and of the candidates that they list. -/
structure Registry.InOrder (registry : Registry) : Prop where
  /-- No sequence has two lists. -/
  keys : (registry.roster.active.keys ++ registry.roster.suspended.keys).Nodup
  occupied : [] ∉ registry.roster.active.values
  /-- No candidate is listed twice. -/
  once : registry.roster.all.Nodup
  /-- The candidates of a sequence have different numbers. -/
  numbers : ∀ sequence, ((registry.roster.listOf sequence).map registry.numberOf).Nodup
  active : ∀ sequence list, (sequence, list) ∈ registry.roster.active.entries →
    ∀ identity ∈ list, ∃ candidate, registry.candidate? identity = some candidate ∧
      candidate.sequence = sequence ∧ candidate.suspended = false
  suspended : ∀ sequence list, (sequence, list) ∈ registry.roster.suspended.entries →
    ∀ identity ∈ list, ∃ candidate, registry.candidate? identity = some candidate ∧
      candidate.sequence = sequence ∧
        (candidate.suspended = true ∨ candidate.phase = .cancelled)

namespace Service

/-- Whoever is listed is a candidate of the sequence, and marked as the sequence is. -/
theorem exists_listed {service : Service} (listed : service.outline.Listed)
    (filed : service.outline.Filed) {sequence : SequenceKey} {identity : Nat}
    (present : identity ∈ service.world.roster.listOf sequence) :
    ∃ candidate, service.world.candidate? identity = some candidate ∧
      candidate.sequence = sequence ∧
      candidate.Fits (service.world.roster.isSuspended sequence) := by
  rcases listed.homed sequence identity present with ⟨untimed, found, home⟩
  have fits := filed sequence identity present untimed found
  obtain ⟨candidate, isCandidate, rfl⟩ := exists_candidate found
  exact ⟨candidate, isCandidate, home, fits.congr rfl rfl⟩

theorem inOrder_run {first last : Service} {moves : List Move} (initial : first.IsInitial)
    (run : Run first moves last) : last.world.InOrder := by
  have sound := initial.sound.run run
  have filed := filed_run initial run
  have rosterSound : last.world.roster.Sound := sound.listed.sound
  have numbers (sequence : SequenceKey) :
      ((last.world.roster.listOf sequence).map last.world.numberOf).Nodup := by
    rw [Registry.map_numberOf (tracks_world (tracks_run initial run))]
    exact (Book.written moves sequence).distinct.map (Option.some_injective Nat)
  constructor
  · exact rosterSound.nodup_keys
  · intro empty
    obtain ⟨sequence, found⟩ := (Keyed.mem_values_iff rosterSound.activeDistinct).mp empty
    exact rosterSound.occupied sequence found
  · apply rosterSound.nodup_all
    · exact fun sequence => (numbers sequence).of_map _
    · exact fun sequence other identity => sound.listed.unique
  · exact numbers
  · intro sequence list isEntry identity present
    rcases rosterSound.active_entry isEntry with ⟨rfl, notSuspended⟩
    obtain ⟨candidate, isCandidate, home, fits⟩ :=
      exists_listed sound.listed filed (Roster.mem_listOf.mpr (.inl present))
    rw [notSuspended] at fits
    exact ⟨candidate, isCandidate, home, fits.marked.resolve_right nofun⟩
  · intro sequence list isEntry identity present
    rcases rosterSound.suspended_entry isEntry with ⟨rfl, isSuspended⟩
    obtain ⟨candidate, isCandidate, home, fits⟩ :=
      exists_listed sound.listed filed (Roster.mem_listOf.mpr (.inr present))
    rw [isSuspended] at fits
    refine ⟨candidate, isCandidate, home, fits.marked.imp_right ?_⟩
    exact fun cancelled => Candidate.phase_eq_cancelled cancelled.2

/-- After every run, the lists of the registry are in order, and a candidate that was
purged is in a terminal phase and on no list. -/
theorem lists_inOrder {first last : Service} {moves : List Move} (initial : first.IsInitial)
    (run : Run first moves last) :
    last.world.InOrder ∧
      ∀ early purge late middle identity, moves = early ++ purge :: late →
        Run first early middle → middle.Purges identity purge →
        ∃ candidate, last.world.candidate? identity = some candidate ∧
          candidate.phase.isTerminal = true ∧ identity ∉ last.world.roster.all := by
  refine ⟨inOrder_run initial run, ?_⟩
  rintro early purge late middle identity rfl toMiddle purges
  rcases run.split with ⟨_, next, toSame, moved, toLast⟩
  obtain rfl := toSame.unique toMiddle
  have middleSound := initial.sound.run toMiddle
  have nextSound := middleSound.move moved
  have ended := hasEnded_of_ends middleSound purges.ends moved
  have absent := notListed_of_purges middleSound.listed purges moved
  rcases ended.run nextSound toLast with ⟨untimed, found, isEnded⟩
  obtain ⟨candidate, isCandidate, rfl⟩ := exists_candidate found
  refine ⟨candidate, isCandidate, ?_, ?_⟩
  · rw [Candidate.isTerminal_phase]
    exact Option.isSome_iff_ne_none.mpr isEnded
  · intro listed
    obtain ⟨sequence, inSequence⟩ :=
      (nextSound.run toLast).listed.sound.mem_all_iff.mp listed
    exact notListed_run nextSound ended absent toLast sequence inSequence

end Service

namespace Sample

/-- Of two messages that were given up, one is purged; the other one does not notice that
its sequence is suspended again. -/
def givenUp : List Move :=
  [.command (.add (message 1 none)), .command (.add (message 2 none)),
    .command (.suspend sequence), .command (.stop sequence),
    .command (.purgeAcknowledged sequence fun number => number == 1),
    .command (.resume sequence), .command (.suspend sequence)]

end Sample

namespace Service

/-- The message that was purged is not listed any more. -/
theorem lists_inOrder_of_givenUp :
    ∃ service, Run (Sample.service .byHand) Sample.givenUp service ∧ service.world.InOrder ∧
      service.world.roster.suspended.entries = [(Sample.sequence, [1])] ∧
      ∃ candidate, service.world.candidate? 0 = some candidate ∧
        candidate.phase.isTerminal = true ∧ 0 ∉ service.world.roster.all := by
  obtain ⟨service, followed, entries⟩ := Option.map_eq_some_iff.mp
    (rfl : (follow Sample.givenUp (Sample.service .byHand)).map
      (fun service => service.world.roster.suspended.entries) = some [(Sample.sequence, [1])])
  obtain ⟨middle, toMiddle, purged⟩ := Option.map_eq_some_iff.mp
    (rfl : (follow (Sample.givenUp.take 4) (Sample.service .byHand)).map
      (fun service => service.world.acknowledgedOf Sample.sequence fun number => number == 1) =
        some [0])
  have run := Run.of_follow followed
  have ordered := lists_inOrder (Sample.isInitial_service .byHand) run
  refine ⟨service, run, ordered.1, entries, ?_⟩
  apply ordered.2 _ _ _ middle 0 (List.take_append_drop 4 Sample.givenUp).symm (.of_follow toMiddle)
  apply Purges.acknowledged
  rw [purged]
  exact List.mem_singleton_self 0

end Service

end Redelivery
