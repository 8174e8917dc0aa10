import Mathlib.Data.Option.Basic
import Redelivery.Proofs.Moves
import Redelivery.Proofs.Roster

/-!
# Who is listed where

Every candidate that has not ended is listed under its sequence, and is suspended
exactly if its sequence is.  Only commands change the roster, and each of them
changes the candidates along with it; a candidate that is struck off has ended.
-/

namespace Redelivery

/-! ## Listed candidates -/

/-- The roster agrees with the candidates. -/
structure Outline.Listed (outline : Outline) : Prop where
  sound : outline.roster.Sound
  /-- A candidate that has not ended is listed, and suspended with its sequence. -/
  present : ∀ identity candidate, outline.candidates[identity]? = some candidate →
    candidate.ending = none →
    identity ∈ outline.roster.listOf candidate.sequence ∧
      candidate.suspended = outline.roster.isSuspended candidate.sequence
  /-- Whatever is listed is a candidate of the sequence. -/
  homed : ∀ sequence, ∀ identity ∈ outline.roster.listOf sequence,
    ∃ candidate, outline.candidates[identity]? = some candidate ∧ candidate.sequence = sequence

/-- What an activity leaves of a candidate. -/
structure Candidate.Follows (candidate after : Candidate) : Prop where
  sequence : after.sequence = candidate.sequence
  suspended : after.suspended = candidate.suspended
  ending : after.ending = none → candidate.ending = none

theorem Candidate.Follows.refl (candidate : Candidate) : candidate.Follows candidate :=
  ⟨rfl, rfl, id⟩

theorem Candidate.spansSteps_follows (now : Nat) : SpansSteps now Follows where
  refl := .refl
  handedOver _ := ⟨rfl, rfl, id⟩
  completed candidate := by
    rcases candidate.completed_eq now with ⟨_, _, _, _, _, completed⟩
    rw [completed]
    exact ⟨rfl, rfl, id⟩
  abandoned _ _ := ⟨rfl, rfl, id⟩
  finished ending candidate := by
    have ended := (sound_finished ending candidate).kept.mp rfl
    exact ⟨rfl, rfl, fun active => absurd active ended⟩

/-- No activity moves a candidate to another sequence, suspends or resumes it, or
revives it. -/
theorem Share.Step.follows {now : Nat} {before after : Share} (step : Step now before after) :
    Option.Rel Candidate.Follows before.candidate after.candidate :=
  step.spans (Candidate.spansSteps_follows now)

namespace Outline

theorem Listed.follows {before after : Outline} (listed : before.Listed)
    (sameRoster : after.roster = before.roster)
    (follows : ∀ identity : Nat, Option.Rel Candidate.Follows before.candidates[identity]?
      after.candidates[identity]?) : after.Listed where
  sound := sameRoster ▸ listed.sound
  present := by
    intro identity candidate found active
    have related := follows identity
    rw [found] at related
    cases was : before.candidates[identity]? with
    | none =>
        rw [was] at related
        cases related
    | some former =>
        rw [was] at related
        cases related with
        | some follows =>
            rw [sameRoster, follows.sequence, follows.suspended]
            exact listed.present identity former was (follows.ending active)
  homed := by
    intro sequence identity present
    rw [sameRoster] at present
    rcases listed.homed sequence identity present with ⟨former, was, home⟩
    have related := follows identity
    rw [was] at related
    cases found : after.candidates[identity]? with
    | none =>
        rw [found] at related
        cases related
    | some candidate =>
        rw [found] at related
        cases related with
        | some follows => exact ⟨candidate, rfl, follows.sequence.trans home⟩

/-- Candidates that end may be struck off, and nobody else. -/
theorem Listed.finish {outline : Outline} (listed : outline.Listed) (identities : List Nat)
    (ending : Ending) {roster : Roster} (sound : roster.Sound)
    (struck : ∀ sequence, ∀ identity ∈ roster.listOf sequence,
      identity ∈ outline.roster.listOf sequence)
    (kept : ∀ sequence, ∀ identity ∈ outline.roster.listOf sequence, identity ∉ identities →
      identity ∈ roster.listOf sequence ∧
        roster.isSuspended sequence = outline.roster.isSuspended sequence) :
    { outline.modifyAll identities (Candidate.finished ending) with roster }.Listed where
  sound := sound
  present := by
    intro identity candidate found active
    simp only [getElem?_modifyAll] at found
    rcases Option.map_eq_some_iff.mp found with ⟨former, was, changed⟩
    by_cases ended : identity ∈ identities
    · rw [if_pos ended] at changed
      have isEnded := (Candidate.sound_finished ending former).kept.mp rfl
      exact absurd active (changed ▸ isEnded)
    · rw [if_neg ended] at changed
      subst changed
      obtain ⟨present, suspended⟩ := listed.present identity former was active
      rcases kept former.sequence identity present ended with ⟨stays, sameSide⟩
      exact ⟨stays, suspended.trans sameSide.symm⟩
  homed := by
    intro sequence identity present
    obtain ⟨former, was, home⟩ := listed.homed sequence identity (struck sequence identity present)
    simp only [getElem?_modifyAll, was, Option.map_some]
    refine ⟨_, rfl, ?_⟩
    split
    · exact home
    · exact home

/-- In what order the maps come does not matter. -/
theorem Listed.reorder {outline : Outline} (listed : outline.Listed) {roster : Roster}
    (shuffled : outline.roster.Shuffled roster) : { outline with roster }.Listed where
  sound := shuffled.sound listed.sound
  present := by
    intro identity candidate found active
    simp only [shuffled.listOf listed.sound, shuffled.isSuspended listed.sound]
    exact listed.present identity candidate found active
  homed := by
    intro sequence identity present
    simp only [shuffled.listOf listed.sound] at present
    exact listed.homed sequence identity present

theorem eq_some_of_concat {α : Type} {list : List α} {last found : α} {index : Nat}
    (atIndex : (list ++ [last])[index]? = some found) :
    list[index]? = some found ∨ (index = list.length ∧ found = last) := by
  rcases Nat.lt_trichotomy index list.length with old | rfl | beyond
  · rw [List.getElem?_append_left old] at atIndex
    exact .inl atIndex
  · rw [List.getElem?_concat_length] at atIndex
    exact .inr ⟨rfl, (Option.some.inj atIndex).symm⟩
  · have absent : (list ++ [last])[index]? = none :=
      List.getElem?_eq_none_iff.mpr (by simpa using Nat.succ_le_of_lt beyond)
    rw [absent] at atIndex
    cases atIndex

/-- A new candidate is listed, and suspended if its sequence is. -/
theorem Listed.enroll {outline : Outline} (listed : outline.Listed) (now : Nat)
    (routing : Executor.Routing) (message : Message) :
    { outline with
      candidates := outline.candidates ++
        [Candidate.register now routing (outline.roster.isSuspended message.sequence) message]
      roster := outline.roster.add message.sequence outline.candidates.length }.Listed where
  sound := listed.sound.add message.sequence outline.candidates.length
  present := by
    intro identity candidate found active
    simp only [Roster.mem_listOf_add, Roster.isSuspended_add]
    rcases eq_some_of_concat found with old | ⟨rfl, rfl⟩
    · rcases listed.present identity candidate old active with ⟨present, suspended⟩
      exact ⟨.inl present, suspended⟩
    · exact ⟨.inr ⟨rfl, rfl⟩, rfl⟩
  homed := by
    intro sequence identity present
    rcases Roster.mem_listOf_add.mp present with old | ⟨rfl, rfl⟩
    · rcases listed.homed sequence identity old with ⟨candidate, found, home⟩
      obtain ⟨inside, _⟩ := List.getElem?_eq_some_iff.mp found
      exact ⟨candidate, by rw [List.getElem?_append_left inside, found], home⟩
    · exact ⟨_, List.getElem?_concat_length, rfl⟩

/-- A candidate that is listed under a sequence belongs to it. -/
theorem Listed.sequence_eq {outline : Outline} (listed : outline.Listed) {identity : Nat}
    {candidate : Candidate} (found : outline.candidates[identity]? = some candidate)
    {sequence : SequenceKey} (present : identity ∈ outline.roster.listOf sequence) :
    candidate.sequence = sequence := by
  rcases listed.homed sequence identity present with ⟨owner, isOwner, home⟩
  rw [Option.some.inj (found.symm.trans isOwner), home]

/-- A sequence changes sides, and its candidates along with it. -/
theorem Listed.changeSides {outline : Outline} (listed : outline.Listed) {sequence : SequenceKey}
    {side : Bool} {roster : Roster} {identities : List Nat} {change : Candidate → Candidate}
    (sound : roster.Sound)
    (lists : ∀ other identity,
      identity ∈ roster.listOf other ↔ identity ∈ outline.roster.listOf other)
    (marks : ∀ other, roster.isSuspended other =
      if other = sequence then side else outline.roster.isSuspended other)
    (moved : ∀ identity ∈ identities, identity ∈ outline.roster.listOf sequence)
    (stays : ∀ identity ∈ outline.roster.listOf sequence, identity ∉ identities →
      outline.roster.isSuspended sequence = side)
    (home : ∀ candidate, (change candidate).sequence = candidate.sequence)
    (sided : ∀ candidate, (change candidate).ending = none → (change candidate).suspended = side) :
    { outline.modifyAll identities change with roster }.Listed where
  sound := sound
  present := by
    intro identity candidate found active
    simp only [getElem?_modifyAll] at found
    obtain ⟨former, was, changed⟩ := Option.map_eq_some_iff.mp found
    simp only [lists, marks]
    by_cases among : identity ∈ identities
    · rw [if_pos among] at changed
      subst changed
      have isHome := listed.sequence_eq was (moved identity among)
      rw [home, isHome, if_pos rfl]
      exact ⟨moved identity among, sided former active⟩
    · rw [if_neg among] at changed
      subst changed
      obtain ⟨present, sameSide⟩ := listed.present identity former was active
      refine ⟨present, ?_⟩
      split
      · next isHome =>
          rw [sameSide, isHome]
          exact stays identity (isHome ▸ present) among
      · exact sameSide
  homed := by
    intro other identity present
    obtain ⟨former, was, isHome⟩ := listed.homed other identity ((lists other identity).mp present)
    simp only [getElem?_modifyAll, was, Option.map_some]
    refine ⟨_, rfl, ?_⟩
    split
    · exact (home former).trans isHome
    · exact isHome

/-- Suspending a sequence suspends the candidates that it moves. -/
theorem Listed.suspend {outline : Outline} (listed : outline.Listed) (sequence : SequenceKey) :
    { outline.modifyAll (outline.roster.activeOf sequence) Candidate.paused with
      roster := outline.roster.suspend sequence }.Listed := by
  apply listed.changeSides (listed.sound.suspend sequence)
  case lists => exact fun _ _ => Roster.mem_listOf_suspend
  case marks => exact Roster.isSuspended_suspend_other _ _
  case moved => exact fun _ moved => Roster.mem_listOf.mpr (.inl moved)
  case stays =>
    intro identity present unmoved
    by_contra side
    exact unmoved (Roster.mem_activeOf_of_mem_listOf (Bool.eq_false_iff.mpr side) present)
  case home =>
    intro candidate
    obtain ⟨_, paused, _⟩ := candidate.paused_eq
    rw [paused]
  case sided =>
    intro candidate
    obtain ⟨_, paused, isSuspended⟩ := candidate.paused_eq
    rw [paused]
    exact isSuspended

/-- Resuming a suspended sequence resumes all its candidates. -/
theorem Listed.resume {outline : Outline} (listed : outline.Listed) (now : Nat)
    {sequence : SequenceKey} (suspended : outline.roster.isSuspended sequence = true) :
    { outline.modifyAll (outline.roster.suspendedOf sequence) (Candidate.woken now) with
      roster := outline.roster.resume sequence }.Listed := by
  apply listed.changeSides (listed.sound.resume sequence)
  case lists => exact fun _ _ => Roster.mem_listOf_resume
  case marks => exact Roster.isSuspended_resume_other _ _
  case moved => exact fun _ moved => Roster.mem_listOf.mpr (.inr moved)
  case stays =>
    intro identity present unmoved
    rcases Roster.mem_listOf.mp present with onActive | onSuspended
    · exact absurd suspended
        (Bool.eq_false_iff.mp (listed.sound.isSuspended_of_mem_activeOf onActive))
    · exact absurd onSuspended unmoved
  case home =>
    intro candidate
    obtain ⟨_, _, woken⟩ := candidate.woken_eq now
    rw [woken]
  case sided =>
    intro candidate _
    obtain ⟨_, _, woken⟩ := candidate.woken_eq now
    rw [woken]

theorem listed_initial :
    (Outline.mk [] Roster.empty [] 0).Listed where
  sound := Roster.sound_empty
  present := by
    intro identity candidate found
    cases found
  homed := by
    intro sequence identity present
    cases present

end Outline

namespace Service

/-- Every command keeps the roster in agreement with the candidates. -/
theorem listed_carryOut {service : Service} (listed : service.outline.Listed)
    (command : Command) : (service.carryOut command).outline.Listed := by
  cases quiet : command.isQuiet with
  | true =>
      rcases joined_carryOut service quiet with ⟨more, _, after⟩
      rw [after]
      exact ⟨listed.sound, listed.present, listed.homed⟩
  | false =>
      cases command with
      | add message =>
          rw [outline_add]
          split
          · have sameLength : service.world.candidates.length =
                service.outline.candidates.length := (List.length_map _).symm
            rw [sameLength]
            exact listed.enroll service.now service.world.routing message
          · exact listed
      | purgeAcknowledged sequence acknowledged =>
          rw [outline_purgeAcknowledged]
          split
          · exact listed
          · refine listed.finish _ .resolved (listed.sound.strike sequence _) ?_ ?_
            · intro other identity present
              exact (Roster.mem_listOf_strike.mp present).1
            · intro other identity present kept
              refine ⟨Roster.mem_listOf_strike.mpr ⟨present, ?_⟩, Roster.isSuspended_strike _ _ _ _⟩
              rintro rfl
              cases isPurged : (service.world.numberOf identity).any acknowledged with
              | false => rfl
              | true => exact absurd (List.mem_filter.mpr ⟨present, isPurged⟩) kept
      | purgeAll sequence =>
          rw [outline_purgeAll]
          refine listed.finish _ .cancelled (listed.sound.forget sequence) ?_ ?_
          · intro other identity present
            exact (Roster.mem_listOf_forget.mp present).1
          · intro other identity present kept
            have elsewhere : other ≠ sequence := by
              rintro rfl
              exact kept present
            refine ⟨Roster.mem_listOf_forget.mpr ⟨present, elsewhere⟩, ?_⟩
            rw [Roster.isSuspended_forget, if_neg elsewhere]
            rfl
      | stop sequence =>
          rw [outline_stop]
          exact listed.finish _ .cancelled listed.sound (fun _ _ present => present)
            fun _ _ present _ => ⟨present, rfl⟩
      | shutdown =>
          rw [outline_shutdown]
          exact listed.finish _ .cancelled listed.sound (fun _ _ present => present)
            fun _ _ present _ => ⟨present, rfl⟩
      | suspend sequence =>
          rw [outline_suspend]
          exact listed.suspend sequence
      | resume sequence =>
          rw [outline_resume]
          split
          · next suspended => exact listed.resume service.now suspended
          · exact listed
      | request _ _ | join _ | serve _ | announce _ | setExecutors _ | closeAgenda
      | prepare _ _ | exchangeStore _ => cases quiet

/-- So does every other move. -/
theorem listed_move {service after : Service} {move : Move} (tidy : service.AllTidy)
    (listed : service.outline.Listed) (moved : service.move? move = some after) :
    after.outline.Listed := by
  cases move with
  | command command =>
      obtain rfl := eq_carryOut moved
      exact listed_carryOut listed command
  | step index =>
      rcases step_stepAt tidy moved with ⟨sameRoster, _, _, steps⟩
      exact listed.follows sameRoster fun identity => (steps identity).follows
  | rouse index position =>
      rw [outline_rouseTo moved]
      exact listed
  | wait instant =>
      obtain rfl := eq_wait moved
      exact listed
  | reorder roster =>
      obtain ⟨shuffled, rfl⟩ := eq_reorder moved
      exact listed.reorder shuffled

/-- What holds of every reachable service: no errand gets lost, each errand belongs to
its candidate, and the roster agrees with the candidates. -/
structure Sound (service : Service) : Prop where
  tidy : service.AllTidy
  share : ∀ identity, (service.outline.share identity).Sound
  listed : service.outline.Listed

theorem IsInitial.sound {service : Service} (initial : service.IsInitial) : service.Sound where
  tidy := by
    rw [allTidy_iff, outline_of_isInitial initial]
    exact fun _ present => absurd present (Multiset.notMem_zero _)
  share := by
    intro identity
    rw [outline_of_isInitial initial]
    refine ⟨fun _ => rfl, ?_, ?_, ?_⟩
    · rintro _ ⟨⟩
    · rintro _ ⟨⟩
    · rintro _ _ ⟨⟩
  listed := by
    rw [outline_of_isInitial initial]
    exact Outline.listed_initial

theorem Sound.move {service after : Service} {move : Move} (sound : service.Sound)
    (moved : service.move? move = some after) : after.Sound := by
  obtain ⟨_, afterTidy, turns⟩ := turn_move sound.tidy moved
  exact {
    tidy := afterTidy
    share := fun identity => (sound.share identity).turn (turns identity)
    listed := listed_move sound.tidy sound.listed moved }

theorem Sound.run {first last : Service} {moves : List Move} (sound : first.Sound)
    (run : Run first moves last) : last.Sound :=
  run.preserves sound fun sound moved => sound.move moved

theorem IsReachable.sound {service : Service} (reachable : service.IsReachable) :
    service.Sound :=
  reachable.preserves (fun initial => initial.sound) fun sound moved => sound.move moved

/-- What holds of a share without a message, and is kept by every turn of a sound share, holds of
every share throughout a run. -/
theorem share_run {holds : Share → Prop} (initially : holds ⟨none, 0, []⟩)
    (turns : ∀ {now : Nat} {before after : Share}, before.Sound → holds before →
      Share.Turn now before after → holds after)
    {first last : Service} {moves : List Move} (initial : first.IsInitial)
    (run : Run first moves last) (identity : Nat) : holds (last.outline.share identity) := by
  induction run with
  | start =>
      rw [outline_of_isInitial initial]
      exact initially
  | extend run moved inductionHypothesis =>
      have sound := initial.sound.run run
      exact turns (sound.share identity) inductionHypothesis
        ((turn_move sound.tidy moved).2.2 identity)

end Service

end Redelivery
