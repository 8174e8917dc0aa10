import Mathlib.Data.List.Basic
import Redelivery.Proofs.Keyed
import Redelivery.Roster

/-!
# Sound rosters

A roster is sound if every candidate is listed under one sequence at most, on
one side at most, and the count is the number of listed candidates.  Every
change of a roster keeps it sound, so that subtracting from the count never
goes below zero and the count can be recomputed sequence by sequence.
-/

namespace Redelivery

namespace SequenceKey

theorem nodup_eraseDups (keys : List SequenceKey) : keys.eraseDups.Nodup := by
  induction length : keys.length using Nat.strongRecOn generalizing keys with
  | ind count inductionHypothesis =>
      cases keys with
      | nil => simp
      | cons key rest =>
          rw [List.eraseDups_cons]
          refine List.nodup_cons.mpr ⟨by simp, inductionHypothesis _ ?_ _ rfl⟩
          subst length
          exact Nat.lt_succ_of_le (List.length_filter_le _ rest)

theorem nodup_distinctSorted (keys : List SequenceKey) : (distinctSorted keys).Nodup :=
  (List.mergeSort_perm _ _).nodup_iff.mpr (nodup_eraseDups keys)

theorem mem_distinctSorted_iff {key : SequenceKey} {keys : List SequenceKey} :
    key ∈ distinctSorted keys ↔ key ∈ keys := by
  simp [distinctSorted]

/-- Keys in order go up from each to the next. -/
theorem pairwise_distinctSorted (keys : List SequenceKey) :
    (distinctSorted keys).Pairwise fun first second => first.text < second.text := by
  have ordered : (distinctSorted keys).Pairwise fun first second =>
      first.precedes second = true := by
    apply List.pairwise_mergeSort
    · intro first second third earlier later
      simp only [precedes, decide_eq_true_eq] at earlier later ⊢
      exact String.le_trans earlier later
    · intro first second
      simpa [precedes] using String.le_total first.text second.text
  refine (ordered.and (nodup_distinctSorted keys)).imp ?_
  rintro ⟨first⟩ ⟨second⟩ ⟨precedes, different⟩
  apply Std.lt_of_le_of_ne (of_decide_eq_true precedes)
  rintro rfl
  exact different rfl

end SequenceKey

namespace Roster

theorem activeOf_eq_listAt (roster : Roster) (sequence : SequenceKey) :
    roster.activeOf sequence = roster.active.listAt sequence :=
  rfl

theorem suspendedOf_eq_listAt (roster : Roster) (sequence : SequenceKey) :
    roster.suspendedOf sequence = roster.suspended.listAt sequence :=
  rfl

/-- The number of listed candidates. -/
theorem length_all (roster : Roster) :
    roster.all.length = roster.active.total + roster.suspended.total := by
  simp [all, allActive, Keyed.total]

/-- What every change of a roster keeps. -/
structure Sound (roster : Roster) : Prop where
  activeDistinct : roster.active.Distinct
  suspendedDistinct : roster.suspended.Distinct
  /-- No sequence is on both sides. -/
  apart : ∀ sequence, roster.isSuspended sequence = true → roster.active.find? sequence = none
  /-- An active sequence has a candidate. -/
  occupied : ∀ sequence, roster.active.find? sequence ≠ some []
  exact_count : roster.count = roster.all.length

/-! ## What the changes do to each sequence -/

theorem isSuspended_eq_has (roster : Roster) (sequence : SequenceKey) :
    roster.isSuspended sequence = roster.suspended.has sequence :=
  rfl

theorem suspendedOf_eq_nil {roster : Roster} {sequence : SequenceKey}
    (active : roster.isSuspended sequence = false) : roster.suspendedOf sequence = [] := by
  simp [suspendedOf, Keyed.find?_eq_none_of_has active]

theorem Sound.activeOf_eq_nil {roster : Roster} (sound : roster.Sound) {sequence : SequenceKey}
    (suspended : roster.isSuspended sequence = true) : roster.activeOf sequence = [] := by
  simp [activeOf, sound.apart sequence suspended]

/-- Nobody is on the active list of a suspended sequence. -/
theorem Sound.isSuspended_of_mem_activeOf {roster : Roster} (sound : roster.Sound)
    {sequence : SequenceKey} {identity : Nat} (active : identity ∈ roster.activeOf sequence) :
    roster.isSuspended sequence = false := by
  refine Bool.eq_false_iff.mpr fun suspended => ?_
  rw [sound.activeOf_eq_nil suspended] at active
  cases active

theorem add_of_suspended {roster : Roster} {sequence : SequenceKey}
    (suspended : roster.isSuspended sequence = true) (identity : Nat) :
    roster.add sequence identity =
      { roster with
        suspended := roster.suspended.put sequence (roster.suspendedOf sequence ++ [identity])
        count := roster.count + 1 } :=
  if_pos suspended

theorem add_of_active {roster : Roster} {sequence : SequenceKey}
    (active : roster.isSuspended sequence = false) (identity : Nat) :
    roster.add sequence identity =
      { roster with
        active := roster.active.put sequence (roster.activeOf sequence ++ [identity])
        count := roster.count + 1 } :=
  if_neg (by simp [active])

theorem isSuspended_add (roster : Roster) (sequence other : SequenceKey) (identity : Nat) :
    (roster.add sequence identity).isSuspended other = roster.isSuspended other := by
  cases suspended : roster.isSuspended sequence with
  | false => rw [add_of_active suspended]; rfl
  | true =>
      rw [add_of_suspended suspended, isSuspended_eq_has, Keyed.has_put]
      split
      · next same => rw [same, suspended]
      · rfl

theorem activeOf_add (roster : Roster) (sequence other : SequenceKey) (identity : Nat) :
    (roster.add sequence identity).activeOf other =
      if other = sequence ∧ roster.isSuspended sequence = false then
        roster.activeOf other ++ [identity]
      else roster.activeOf other := by
  cases suspended : roster.isSuspended sequence with
  | false =>
      rw [add_of_active suspended, activeOf_eq_listAt, Keyed.listAt_put]
      by_cases same : other = sequence <;> simp [same, activeOf_eq_listAt]
  | true =>
      rw [add_of_suspended suspended]
      simp [activeOf_eq_listAt]

theorem suspendedOf_add (roster : Roster) (sequence other : SequenceKey) (identity : Nat) :
    (roster.add sequence identity).suspendedOf other =
      if other = sequence ∧ roster.isSuspended sequence = true then
        roster.suspendedOf other ++ [identity]
      else roster.suspendedOf other := by
  cases suspended : roster.isSuspended sequence with
  | false =>
      rw [add_of_active suspended]
      simp [suspendedOf_eq_listAt]
  | true =>
      rw [add_of_suspended suspended, suspendedOf_eq_listAt, Keyed.listAt_put]
      by_cases same : other = sequence <;> simp [same, suspendedOf_eq_listAt]

/-- Striking candidates off a suspended sequence replaces its list, and there is
none to be replaced where the sequence is active. -/
theorem strike_suspended (roster : Roster) (sequence : SequenceKey) (struck : Nat → Bool) :
    (roster.strike sequence struck).suspended =
      if roster.isSuspended sequence then
        roster.suspended.put sequence
          ((roster.suspendedOf sequence).filter fun identity => !struck identity)
      else roster.suspended :=
  rfl

theorem isSuspended_strike (roster : Roster) (sequence other : SequenceKey)
    (struck : Nat → Bool) :
    (roster.strike sequence struck).isSuspended other = roster.isSuspended other := by
  rw [isSuspended_eq_has, strike_suspended]
  cases suspended : roster.isSuspended sequence with
  | false => rfl
  | true =>
      rw [if_pos rfl, Keyed.has_put]
      split
      · next same => rw [same, suspended]
      · rfl

theorem listAt_replaceActive (active : Keyed SequenceKey (List Nat)) (sequence other : SequenceKey)
    (list : List Nat) :
    (replaceActive active sequence list).listAt other =
      if other = sequence then list else active.listAt other := by
  by_cases empty : list = []
  · simp [replaceActive, empty, Keyed.listAt_remove]
  · simp [replaceActive, empty, Keyed.listAt_put]

theorem activeOf_strike (roster : Roster) (sequence other : SequenceKey) (struck : Nat → Bool) :
    (roster.strike sequence struck).activeOf other =
      if other = sequence then (roster.activeOf other).filter fun identity => !struck identity
      else roster.activeOf other := by
  by_cases present : roster.active.has sequence
  · by_cases same : other = sequence <;>
      simp [strike, present, activeOf_eq_listAt, listAt_replaceActive, same]
  · by_cases same : other = sequence
    · simp only [Keyed.has, Bool.not_eq_true, Option.isSome_eq_false_iff,
        Option.isNone_iff_eq_none] at present
      simp [strike, Keyed.has, present, activeOf, same]
    · simp [strike, present, activeOf, same]

theorem suspendedOf_strike (roster : Roster) (sequence other : SequenceKey)
    (struck : Nat → Bool) :
    (roster.strike sequence struck).suspendedOf other =
      if other = sequence then (roster.suspendedOf other).filter fun identity => !struck identity
      else roster.suspendedOf other := by
  rw [suspendedOf_eq_listAt, strike_suspended]
  cases suspended : roster.isSuspended sequence with
  | true =>
      rw [if_pos rfl, Keyed.listAt_put]
      by_cases same : other = sequence <;> simp [same, suspendedOf_eq_listAt]
  | false =>
      by_cases same : other = sequence
      · subst same
        simp [← suspendedOf_eq_listAt, suspendedOf_eq_nil suspended]
      · simp [same, suspendedOf_eq_listAt]

theorem isSuspended_forget (roster : Roster) (sequence other : SequenceKey) :
    (roster.forget sequence).isSuspended other =
      if other = sequence then false else roster.isSuspended other :=
  Keyed.has_remove roster.suspended sequence other

theorem activeOf_forget (roster : Roster) (sequence other : SequenceKey) :
    (roster.forget sequence).activeOf other =
      if other = sequence then [] else roster.activeOf other :=
  Keyed.listAt_remove roster.active sequence other

theorem suspendedOf_forget (roster : Roster) (sequence other : SequenceKey) :
    (roster.forget sequence).suspendedOf other =
      if other = sequence then [] else roster.suspendedOf other :=
  Keyed.listAt_remove roster.suspended sequence other

theorem isSuspended_suspend_other (roster : Roster) (sequence other : SequenceKey) :
    (roster.suspend sequence).isSuspended other =
      if other = sequence then true else roster.isSuspended other :=
  Keyed.has_put roster.suspended sequence _ other

theorem activeOf_suspend (roster : Roster) (sequence other : SequenceKey) :
    (roster.suspend sequence).activeOf other =
      if other = sequence then [] else roster.activeOf other :=
  Keyed.listAt_remove roster.active sequence other

theorem suspendedOf_suspend_other (roster : Roster) (sequence other : SequenceKey) :
    (roster.suspend sequence).suspendedOf other =
      if other = sequence then roster.suspendedOf sequence ++ roster.activeOf sequence
      else roster.suspendedOf other :=
  Keyed.listAt_put roster.suspended sequence _ other

/-- Suspending a sequence again moves nothing. -/
theorem suspend_suspend (roster : Roster) (sequence : SequenceKey) :
    (roster.suspend sequence).suspend sequence = roster.suspend sequence := by
  have sameActive : (roster.suspend sequence).active.remove sequence =
      (roster.suspend sequence).active := Keyed.remove_remove _ _
  have sameSuspended : (roster.suspend sequence).suspended.put sequence
      ((roster.suspend sequence).suspendedOf sequence ++
        (roster.suspend sequence).activeOf sequence) = (roster.suspend sequence).suspended := by
    rw [activeOf_suspend, if_pos rfl, List.append_nil, suspendedOf_suspend]
    exact Keyed.put_of_find? (Keyed.find?_put_self _ _ _)
  rw [suspend, sameActive, sameSuspended]

theorem isSuspended_resume_other (roster : Roster) (sequence other : SequenceKey) :
    (roster.resume sequence).isSuspended other =
      if other = sequence then false else roster.isSuspended other :=
  Keyed.has_remove roster.suspended sequence other

theorem activeOf_resume (roster : Roster) (sequence other : SequenceKey) :
    (roster.resume sequence).activeOf other =
      if other = sequence then roster.activeOf sequence ++ roster.suspendedOf sequence
      else roster.activeOf other := by
  have active : (roster.resume sequence).active =
      if (roster.activeOf sequence ++ roster.suspendedOf sequence).isEmpty then roster.active
      else roster.active.put sequence
        (roster.activeOf sequence ++ roster.suspendedOf sequence) := rfl
  rw [activeOf_eq_listAt, active]
  split
  · next empty =>
      split
      · next same =>
          rw [List.isEmpty_iff.mp empty, same]
          exact (List.append_eq_nil_iff.mp (List.isEmpty_iff.mp empty)).1
      · rfl
  · exact Keyed.listAt_put roster.active sequence _ other

theorem suspendedOf_resume (roster : Roster) (sequence other : SequenceKey) :
    (roster.resume sequence).suspendedOf other =
      if other = sequence then [] else roster.suspendedOf other :=
  Keyed.listAt_remove roster.suspended sequence other

/-! ## What the changes do to the candidates of each sequence -/

theorem mem_listOf {roster : Roster} {sequence : SequenceKey} {identity : Nat} :
    identity ∈ roster.listOf sequence ↔
      identity ∈ roster.activeOf sequence ∨ identity ∈ roster.suspendedOf sequence :=
  List.mem_append

/-- What is listed under a sequence that is not suspended is listed as active. -/
theorem mem_activeOf_of_mem_listOf {roster : Roster} {sequence : SequenceKey} {identity : Nat}
    (active : roster.isSuspended sequence = false) (present : identity ∈ roster.listOf sequence) :
    identity ∈ roster.activeOf sequence := by
  rcases mem_listOf.mp present with onActive | onSuspended
  · exact onActive
  · rw [suspendedOf_eq_nil active] at onSuspended
    cases onSuspended

theorem mem_listOf_add {roster : Roster} {sequence other : SequenceKey} {identity listed : Nat} :
    listed ∈ (roster.add sequence identity).listOf other ↔
      listed ∈ roster.listOf other ∨ (other = sequence ∧ listed = identity) := by
  simp only [mem_listOf, activeOf_add, suspendedOf_add]
  cases roster.isSuspended sequence <;> by_cases same : other = sequence <;>
    simp [same, or_assoc, or_comm, or_left_comm]

theorem mem_listOf_strike {roster : Roster} {sequence other : SequenceKey} {struck : Nat → Bool}
    {listed : Nat} :
    listed ∈ (roster.strike sequence struck).listOf other ↔
      listed ∈ roster.listOf other ∧ (other = sequence → struck listed = false) := by
  simp only [mem_listOf, activeOf_strike, suspendedOf_strike]
  by_cases same : other = sequence <;> simp [same, or_and_right]

theorem mem_listOf_forget {roster : Roster} {sequence other : SequenceKey} {listed : Nat} :
    listed ∈ (roster.forget sequence).listOf other ↔
      listed ∈ roster.listOf other ∧ other ≠ sequence := by
  simp only [mem_listOf, activeOf_forget, suspendedOf_forget]
  by_cases same : other = sequence <;> simp [same]

theorem mem_listOf_suspend {roster : Roster} {sequence other : SequenceKey} {listed : Nat} :
    listed ∈ (roster.suspend sequence).listOf other ↔ listed ∈ roster.listOf other := by
  simp only [mem_listOf, activeOf_suspend, suspendedOf_suspend_other]
  by_cases same : other = sequence <;> simp [same, or_comm]

theorem mem_listOf_resume {roster : Roster} {sequence other : SequenceKey} {listed : Nat} :
    listed ∈ (roster.resume sequence).listOf other ↔ listed ∈ roster.listOf other := by
  simp only [mem_listOf, activeOf_resume, suspendedOf_resume]
  by_cases same : other = sequence <;> simp [same]

/-! ## What the changes do to the order of each sequence -/

/-- A new candidate comes last in its sequence, whichever side the sequence is on. -/
theorem listOf_add (roster : Roster) (sequence other : SequenceKey) (identity : Nat) :
    (roster.add sequence identity).listOf other =
      if other = sequence then roster.listOf other ++ [identity] else roster.listOf other := by
  simp only [listOf, activeOf_add, suspendedOf_add]
  by_cases same : other = sequence
  · subst same
    cases suspended : roster.isSuspended other with
    | false => simp [suspendedOf_eq_nil suspended]
    | true => simp
  · simp [same]

theorem listOf_strike (roster : Roster) (sequence other : SequenceKey) (struck : Nat → Bool) :
    (roster.strike sequence struck).listOf other =
      if other = sequence then (roster.listOf other).filter fun identity => !struck identity
      else roster.listOf other := by
  simp only [listOf, activeOf_strike, suspendedOf_strike]
  by_cases same : other = sequence <;> simp [same]

theorem listOf_forget_other (roster : Roster) (sequence other : SequenceKey) :
    (roster.forget sequence).listOf other =
      if other = sequence then [] else roster.listOf other := by
  simp only [listOf, activeOf_forget, suspendedOf_forget]
  by_cases same : other = sequence <;> simp [same]

/-- Suspending a sequence keeps the order of its candidates, because they are all on one
side before. -/
theorem Sound.listOf_suspend {roster : Roster} (sound : roster.Sound)
    (sequence other : SequenceKey) :
    (roster.suspend sequence).listOf other = roster.listOf other := by
  simp only [listOf, activeOf_suspend, suspendedOf_suspend_other]
  by_cases same : other = sequence
  · subst same
    cases suspended : roster.isSuspended other with
    | false => simp [suspendedOf_eq_nil suspended]
    | true => simp [sound.activeOf_eq_nil suspended]
  · simp [same]

theorem listOf_resume (roster : Roster) (sequence other : SequenceKey) :
    (roster.resume sequence).listOf other = roster.listOf other := by
  simp only [listOf, activeOf_resume, suspendedOf_resume]
  by_cases same : other = sequence <;> simp [same]

/-! ## Every change keeps a roster sound -/

theorem sound_empty : empty.Sound where
  activeDistinct := Keyed.distinct_empty
  suspendedDistinct := Keyed.distinct_empty
  apart := fun _ _ => rfl
  occupied := fun _ present => by cases present
  exact_count := rfl

theorem Sound.add {roster : Roster} (sound : roster.Sound) (sequence : SequenceKey)
    (identity : Nat) : (roster.add sequence identity).Sound := by
  have counted := sound.exact_count
  rw [length_all] at counted
  cases suspended : roster.isSuspended sequence with
  | true =>
      have total := Keyed.total_put roster.suspended sequence
        (roster.suspendedOf sequence ++ [identity])
      rw [← suspendedOf_eq_listAt, List.length_append, List.length_singleton] at total
      refine ⟨?_, ?_, ?_, ?_, ?_⟩
      · rw [add_of_suspended suspended]
        exact sound.activeDistinct
      · rw [add_of_suspended suspended]
        exact sound.suspendedDistinct.put sequence _
      · intro other otherSuspended
        rw [isSuspended_add] at otherSuspended
        rw [add_of_suspended suspended]
        exact sound.apart other otherSuspended
      · rw [add_of_suspended suspended]
        exact sound.occupied
      · rw [length_all, add_of_suspended suspended]
        simp only
        omega
  | false =>
      have total := Keyed.total_put roster.active sequence
        (roster.activeOf sequence ++ [identity])
      rw [← activeOf_eq_listAt, List.length_append, List.length_singleton] at total
      refine ⟨?_, ?_, ?_, ?_, ?_⟩
      · rw [add_of_active suspended]
        exact sound.activeDistinct.put sequence _
      · rw [add_of_active suspended]
        exact sound.suspendedDistinct
      · intro other otherSuspended
        rw [isSuspended_add] at otherSuspended
        have different : other ≠ sequence := by
          rintro rfl
          simp [suspended] at otherSuspended
        rw [add_of_active suspended]
        simpa [Keyed.find?_put, different] using sound.apart other otherSuspended
      · intro other
        rw [add_of_active suspended]
        simp only [Keyed.find?_put]
        split
        · simp
        · exact sound.occupied other
      · rw [length_all, add_of_active suspended]
        simp only
        omega

theorem find?_replaceActive (active : Keyed SequenceKey (List Nat))
    (sequence other : SequenceKey) (list : List Nat) :
    (replaceActive active sequence list).find? other =
      if other = sequence then if list.isEmpty then none else some list
      else active.find? other := by
  by_cases empty : list.isEmpty <;> simp [replaceActive, empty, Keyed.find?_remove, Keyed.find?_put]

theorem total_replaceActive {active : Keyed SequenceKey (List Nat)} (distinct : active.Distinct)
    (sequence : SequenceKey) (list : List Nat) :
    (replaceActive active sequence list).total + (active.listAt sequence).length =
      active.total + list.length := by
  by_cases empty : list.isEmpty
  · simpa [replaceActive, List.isEmpty_iff.mp empty] using Keyed.total_remove distinct sequence
  · simpa [replaceActive, empty] using Keyed.total_put active sequence list

theorem strike_active (roster : Roster) (sequence : SequenceKey) (struck : Nat → Bool) :
    (roster.strike sequence struck).active =
      if roster.active.has sequence then
        replaceActive roster.active sequence
          ((roster.activeOf sequence).filter fun identity => !struck identity)
      else roster.active :=
  rfl

/-- What is struck from the active side and what is left of it are all there was. -/
theorem Sound.total_active_strike {roster : Roster} (sound : roster.Sound)
    (sequence : SequenceKey) (struck : Nat → Bool) :
    (roster.strike sequence struck).active.total +
      ((roster.activeOf sequence).filter struck).length = roster.active.total := by
  have parts := List.length_eq_length_filter_add (l := roster.activeOf sequence) struck
  rw [strike_active]
  split
  · have total := total_replaceActive sound.activeDistinct sequence
      ((roster.activeOf sequence).filter fun identity => !struck identity)
    rw [← activeOf_eq_listAt] at total
    omega
  · next absent =>
      have noneActive : roster.activeOf sequence = [] := by
        simp [activeOf, Keyed.find?_eq_none_of_has (Bool.not_eq_true _ ▸ absent)]
      simp [noneActive]

theorem total_suspended_strike (roster : Roster) (sequence : SequenceKey)
    (struck : Nat → Bool) :
    (roster.strike sequence struck).suspended.total +
      ((roster.suspendedOf sequence).filter struck).length = roster.suspended.total := by
  have parts := List.length_eq_length_filter_add (l := roster.suspendedOf sequence) struck
  rw [strike_suspended]
  split
  · have total := Keyed.total_put roster.suspended sequence
      ((roster.suspendedOf sequence).filter fun identity => !struck identity)
    rw [← suspendedOf_eq_listAt] at total
    omega
  · next active =>
      simp [suspendedOf_eq_nil (Bool.not_eq_true _ ▸ active)]

theorem Sound.strike {roster : Roster} (sound : roster.Sound) (sequence : SequenceKey)
    (struck : Nat → Bool) : (roster.strike sequence struck).Sound := by
  refine ⟨?_, ?_, ?_, ?_, ?_⟩
  · rw [strike_active]
    split
    · unfold replaceActive
      split
      · exact sound.activeDistinct.remove sequence
      · exact sound.activeDistinct.put sequence _
    · exact sound.activeDistinct
  · rw [strike_suspended]
    split
    · exact sound.suspendedDistinct.put sequence _
    · exact sound.suspendedDistinct
  · intro other otherSuspended
    rw [isSuspended_strike] at otherSuspended
    have absent := sound.apart other otherSuspended
    rw [strike_active]
    split
    · next present =>
        have different : other ≠ sequence := by
          rintro rfl
          simp [Keyed.has, absent] at present
        rw [find?_replaceActive, if_neg different, absent]
    · exact absent
  · intro other
    rw [strike_active]
    split
    · rw [find?_replaceActive]
      split
      · split
        · simp
        · next kept => simpa [List.isEmpty_iff] using kept
      · exact sound.occupied other
    · exact sound.occupied other
  · have counted := sound.exact_count
    have activeTotal := sound.total_active_strike sequence struck
    have suspendedTotal := total_suspended_strike roster sequence struck
    rw [length_all] at counted ⊢
    change roster.count - ((roster.listOf sequence).filter struck).length = _
    rw [listOf, List.filter_append, List.length_append]
    omega

theorem Sound.forget {roster : Roster} (sound : roster.Sound) (sequence : SequenceKey) :
    (roster.forget sequence).Sound where
  activeDistinct := sound.activeDistinct.remove sequence
  suspendedDistinct := sound.suspendedDistinct.remove sequence
  apart := by
    intro other otherSuspended
    rw [isSuspended_forget] at otherSuspended
    split at otherSuspended
    · cases otherSuspended
    · next different =>
        simpa [Roster.forget, Keyed.find?_remove, different] using sound.apart other otherSuspended
  occupied := by
    intro other
    simp only [Roster.forget, Keyed.find?_remove]
    split
    · simp
    · exact sound.occupied other
  exact_count := by
    have counted := sound.exact_count
    have activeTotal := Keyed.total_remove sound.activeDistinct sequence
    have suspendedTotal := Keyed.total_remove sound.suspendedDistinct sequence
    rw [length_all] at counted ⊢
    simp only [Roster.forget, listOf, List.length_append, activeOf_eq_listAt,
      suspendedOf_eq_listAt]
    omega

theorem Sound.suspend {roster : Roster} (sound : roster.Sound) (sequence : SequenceKey) :
    (roster.suspend sequence).Sound where
  activeDistinct := sound.activeDistinct.remove sequence
  suspendedDistinct := sound.suspendedDistinct.put sequence _
  apart := by
    intro other otherSuspended
    simp only [Roster.suspend, Keyed.find?_remove]
    split
    · rfl
    · next different =>
        rw [isSuspended_suspend_other, if_neg different] at otherSuspended
        exact sound.apart other otherSuspended
  occupied := by
    intro other
    simp only [Roster.suspend, Keyed.find?_remove]
    split
    · simp
    · exact sound.occupied other
  exact_count := by
    have counted := sound.exact_count
    have activeTotal := Keyed.total_remove sound.activeDistinct sequence
    have suspendedTotal := Keyed.total_put roster.suspended sequence
      (roster.suspendedOf sequence ++ roster.activeOf sequence)
    rw [List.length_append, activeOf_eq_listAt, suspendedOf_eq_listAt] at suspendedTotal
    rw [length_all] at counted ⊢
    simp only [Roster.suspend, activeOf_eq_listAt, suspendedOf_eq_listAt]
    omega

theorem Sound.resume {roster : Roster} (sound : roster.Sound) (sequence : SequenceKey) :
    (roster.resume sequence).Sound := by
  let list := roster.activeOf sequence ++ roster.suspendedOf sequence
  have activeNew : (roster.resume sequence).active =
      if list.isEmpty then roster.active else roster.active.put sequence list := rfl
  refine ⟨?_, sound.suspendedDistinct.remove sequence, ?_, ?_, ?_⟩
  · rw [activeNew]
    split
    · exact sound.activeDistinct
    · exact sound.activeDistinct.put sequence _
  · intro other otherSuspended
    rw [isSuspended_resume_other] at otherSuspended
    split at otherSuspended
    · cases otherSuspended
    · next different =>
        have absent := sound.apart other otherSuspended
        rw [activeNew]
        split
        · exact absent
        · rw [Keyed.find?_put, if_neg different, absent]
  · intro other
    rw [activeNew]
    split
    · exact sound.occupied other
    · next full =>
        rw [Keyed.find?_put]
        split
        · simpa [List.isEmpty_iff] using full
        · exact sound.occupied other
  · have counted := sound.exact_count
    have suspendedTotal := Keyed.total_remove sound.suspendedDistinct sequence
    have activeTotal : (roster.resume sequence).active.total =
        roster.active.total + (roster.suspendedOf sequence).length := by
      rw [activeNew]
      split
      · next empty =>
          have parts := List.append_eq_nil_iff.mp (List.isEmpty_iff.mp empty)
          simp [parts.2]
      · have total := Keyed.total_put roster.active sequence list
        simp only [list, List.length_append, ← activeOf_eq_listAt] at total ⊢
        omega
    rw [length_all] at counted ⊢
    change roster.count = _
    rw [activeTotal, counted, suspendedOf_eq_listAt]
    change _ = _ + (roster.suspended.remove sequence).total
    omega

/-- Whatever is listed is listed under a sequence. -/
theorem Sound.mem_all_iff {roster : Roster} (sound : roster.Sound) {identity : Nat} :
    identity ∈ roster.all ↔ ∃ sequence, identity ∈ roster.listOf sequence := by
  simp only [all, allActive, List.mem_append, mem_listOf, activeOf_eq_listAt,
    suspendedOf_eq_listAt, Keyed.mem_flatten_values_iff sound.activeDistinct,
    Keyed.mem_flatten_values_iff sound.suspendedDistinct, exists_or]

/-- No sequence has two lists. -/
theorem Sound.nodup_keys {roster : Roster} (sound : roster.Sound) :
    (roster.active.keys ++ roster.suspended.keys).Nodup := by
  refine List.nodup_append.mpr ⟨sound.activeDistinct, sound.suspendedDistinct, ?_⟩
  rintro sequence isActive _ isSuspended rfl
  obtain ⟨list, found⟩ := (Keyed.mem_keys_iff sound.activeDistinct).mp isActive
  obtain ⟨_, present⟩ := (Keyed.mem_keys_iff sound.suspendedDistinct).mp isSuspended
  have absent := sound.apart sequence (by simp [isSuspended_eq_has, Keyed.has, present])
  rw [found] at absent
  cases absent

/-- An entry on the active side is the list of a sequence that is not suspended. -/
theorem Sound.active_entry {roster : Roster} (sound : roster.Sound) {sequence : SequenceKey}
    {list : List Nat} (present : (sequence, list) ∈ roster.active.entries) :
    roster.activeOf sequence = list ∧ roster.isSuspended sequence = false := by
  have found := (Keyed.mem_entries_iff sound.activeDistinct).mp present
  constructor
  · rw [activeOf, found, Option.getD_some]
  · by_contra suspended
    have absent := sound.apart sequence ((Bool.not_eq_false _).mp suspended)
    rw [found] at absent
    cases absent

/-- An entry on the suspended side is the list of a suspended sequence. -/
theorem Sound.suspended_entry {roster : Roster} (sound : roster.Sound) {sequence : SequenceKey}
    {list : List Nat} (present : (sequence, list) ∈ roster.suspended.entries) :
    roster.suspendedOf sequence = list ∧ roster.isSuspended sequence = true := by
  have found := (Keyed.mem_entries_iff sound.suspendedDistinct).mp present
  constructor
  · rw [suspendedOf, found, Option.getD_some]
  · rw [isSuspended, Keyed.has, found, Option.isSome_some]

/-- If no candidate is listed under two sequences or twice under one, none is listed
twice. -/
theorem Sound.nodup_all {roster : Roster} (sound : roster.Sound)
    (each : ∀ sequence, (roster.listOf sequence).Nodup)
    (single : ∀ sequence other identity, identity ∈ roster.listOf sequence →
      identity ∈ roster.listOf other → sequence = other) : roster.all.Nodup := by
  have parts (sequence : SequenceKey) := List.nodup_append.mp (each sequence)
  refine List.nodup_append.mpr ⟨?_, ?_, ?_⟩
  · apply Keyed.nodup_flatten_values sound.activeDistinct
    · exact fun sequence => (parts sequence).1
    · exact fun sequence other identity listed again => single sequence other identity
        (mem_listOf.mpr (.inl listed)) (mem_listOf.mpr (.inl again))
  · apply Keyed.nodup_flatten_values sound.suspendedDistinct
    · exact fun sequence => (parts sequence).2.1
    · exact fun sequence other identity listed again => single sequence other identity
        (mem_listOf.mpr (.inr listed)) (mem_listOf.mpr (.inr again))
  · rintro identity onActive _ onSuspended rfl
    obtain ⟨sequence, listed⟩ := (Keyed.mem_flatten_values_iff sound.activeDistinct).mp onActive
    obtain ⟨other, again⟩ := (Keyed.mem_flatten_values_iff sound.suspendedDistinct).mp onSuspended
    obtain rfl := single sequence other identity (mem_listOf.mpr (.inl listed))
      (mem_listOf.mpr (.inr again))
    exact (parts sequence).2.2 identity listed identity again rfl

/-! ## Counting by sequences -/

/-- A sequence is reported if and only if it has a candidate. -/
theorem Sound.mem_sequences_iff {roster : Roster} (sound : roster.Sound)
    {sequence : SequenceKey} :
    sequence ∈ roster.sequences ↔ roster.listOf sequence ≠ [] := by
  have present : ∀ {map : Keyed SequenceKey (List Nat)}, map.Distinct →
      ((∃ list, (sequence, list) ∈ map.entries ∧ list ≠ []) ↔ map.listAt sequence ≠ []) := by
    intro map distinct
    simp only [Keyed.mem_entries_iff distinct, Keyed.listAt]
    cases map.find? sequence <;> simp
  have sides : (∃ list, ((sequence, list) ∈ roster.active.entries ∨
      (sequence, list) ∈ roster.suspended.entries) ∧ list ≠ []) ↔
      roster.listOf sequence ≠ [] := by
    rw [listOf, activeOf_eq_listAt, suspendedOf_eq_listAt, Ne, List.append_eq_nil_iff,
      not_and_or, ← Ne, ← Ne, ← present sound.activeDistinct, ← present sound.suspendedDistinct]
    simp only [or_and_right, exists_or]
  rw [← sides, sequences, SequenceKey.mem_distinctSorted_iff]
  simp [or_and_right, exists_or]

/-- The count is the sum of the numbers of candidates of all sequences. -/
theorem Sound.sum_length_listOf {roster : Roster} (sound : roster.Sound) :
    (roster.sequences.map fun sequence => (roster.listOf sequence).length).sum =
      roster.count := by
  have listed : ∀ {map : Keyed SequenceKey (List Nat)},
      (∀ sequence, map.listAt sequence ≠ [] → roster.listOf sequence ≠ []) →
      ∀ sequence, map.listAt sequence ≠ [] → sequence ∈ roster.sequences :=
    fun occupied sequence present => sound.mem_sequences_iff.mpr (occupied sequence present)
  have distinct : roster.sequences.Nodup := SequenceKey.nodup_distinctSorted _
  have activeSum := Keyed.sum_length_listAt sound.activeDistinct distinct
    (listed fun sequence present => by simp_all [listOf, activeOf_eq_listAt])
  have suspendedSum := Keyed.sum_length_listAt sound.suspendedDistinct distinct
    (listed fun sequence present => by simp_all [listOf, suspendedOf_eq_listAt])
  calc
    (roster.sequences.map fun sequence => (roster.listOf sequence).length).sum =
        (roster.sequences.map fun sequence => (roster.active.listAt sequence).length).sum +
          (roster.sequences.map fun sequence =>
            (roster.suspended.listAt sequence).length).sum := by
      rw [← List.sum_map_add]
      simp only [listOf, List.length_append, activeOf_eq_listAt, suspendedOf_eq_listAt]
    _ = roster.active.total + roster.suspended.total := by rw [activeSum, suspendedSum]
    _ = roster.count := by rw [sound.exact_count, length_all]

/-- What is listed under one sequence is part of what is counted. -/
theorem Sound.length_listOf_le {roster : Roster} (sound : roster.Sound)
    (sequence : SequenceKey) : (roster.listOf sequence).length ≤ roster.count := by
  have activeTotal := Keyed.total_remove sound.activeDistinct sequence
  have suspendedTotal := Keyed.total_remove sound.suspendedDistinct sequence
  rw [sound.exact_count, length_all, listOf, List.length_append, activeOf_eq_listAt,
    suspendedOf_eq_listAt]
  omega

/-! ## Rosters in another order -/

/-- Another order of the maps of a roster. -/
structure Shuffled (roster other : Roster) : Prop where
  active : other.active.entries.Perm roster.active.entries
  suspended : other.suspended.entries.Perm roster.suspended.entries
  count : other.count = roster.count

instance (roster other : Roster) : Decidable (roster.Shuffled other) :=
  decidable_of_iff
    (other.active.entries.isPerm roster.active.entries = true ∧
      other.suspended.entries.isPerm roster.suspended.entries = true ∧
      other.count = roster.count)
    ⟨fun both => ⟨List.isPerm_iff.mp both.1, List.isPerm_iff.mp both.2.1, both.2.2⟩,
      fun shuffled => ⟨List.isPerm_iff.mpr shuffled.active, List.isPerm_iff.mpr shuffled.suspended,
        shuffled.count⟩⟩

variable {roster other : Roster}

theorem Shuffled.refl (roster : Roster) : roster.Shuffled roster :=
  ⟨.refl _, .refl _, rfl⟩

/-- The order of the maps cannot be seen of a sequence. -/
theorem Shuffled.activeOf (shuffled : roster.Shuffled other) (sound : roster.Sound)
    (sequence : SequenceKey) : other.activeOf sequence = roster.activeOf sequence := by
  rw [Roster.activeOf, Keyed.find?_of_perm sound.activeDistinct shuffled.active, Roster.activeOf]

theorem Shuffled.suspendedOf (shuffled : roster.Shuffled other) (sound : roster.Sound)
    (sequence : SequenceKey) : other.suspendedOf sequence = roster.suspendedOf sequence := by
  rw [Roster.suspendedOf, Keyed.find?_of_perm sound.suspendedDistinct shuffled.suspended,
    Roster.suspendedOf]

theorem Shuffled.listOf (shuffled : roster.Shuffled other) (sound : roster.Sound)
    (sequence : SequenceKey) : other.listOf sequence = roster.listOf sequence := by
  rw [Roster.listOf, shuffled.activeOf sound, shuffled.suspendedOf sound, Roster.listOf]

theorem Shuffled.isSuspended (shuffled : roster.Shuffled other) (sound : roster.Sound)
    (sequence : SequenceKey) : other.isSuspended sequence = roster.isSuspended sequence := by
  rw [Roster.isSuspended, Keyed.has,
    Keyed.find?_of_perm sound.suspendedDistinct shuffled.suspended]
  rfl

theorem Shuffled.sound (shuffled : roster.Shuffled other) (sound : roster.Sound) :
    other.Sound where
  activeDistinct := (shuffled.active.map Prod.fst).nodup_iff.mpr sound.activeDistinct
  suspendedDistinct := (shuffled.suspended.map Prod.fst).nodup_iff.mpr sound.suspendedDistinct
  apart := by
    intro sequence suspended
    rw [shuffled.isSuspended sound] at suspended
    rw [Keyed.find?_of_perm sound.activeDistinct shuffled.active]
    exact sound.apart sequence suspended
  occupied := by
    intro sequence
    rw [Keyed.find?_of_perm sound.activeDistinct shuffled.active]
    exact sound.occupied sequence
  exact_count := by
    have active := (shuffled.active.map Prod.snd).flatten.length_eq
    have suspended := (shuffled.suspended.map Prod.snd).flatten.length_eq
    rw [shuffled.count, sound.exact_count, length_all, length_all]
    exact congrArg₂ (· + ·) active.symm suspended.symm

end Roster

end Redelivery
