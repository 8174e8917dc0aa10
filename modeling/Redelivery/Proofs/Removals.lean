import Redelivery.Proofs.Contents
import Redelivery.Proofs.Firings
import Redelivery.Store.Watched

/-!
# Removals asked for

A store under observation notes every removal.  Which of them fail is decided by the latest order to
fail alone: as many as it asks for, from then on.  The records are those of a store to which only
the other removals were made.
-/

namespace Redelivery.Store

/-! ## Demands -/

/-- What is demanded of a store under observation. -/
inductive Demand where
  /-- A message is stored. -/
  | insert (sequence : SequenceKey) (number : Nat) (payload : List UInt8)
  /-- The next removals are to fail. -/
  | failNext (count : Nat)
  | remove (sequence : SequenceKey) (numbers : List Nat)
  deriving DecidableEq, Repr

namespace Demand

/-- Whether it is said which removals fail. -/
def isOrder : Demand → Bool
  | failNext _ => true
  | insert _ _ _ | remove _ _ => false

/-- What is to be removed. -/
def removal? : Demand → Option (SequenceKey × List Nat)
  | remove sequence numbers => some (sequence, numbers)
  | insert _ _ _ | failNext _ => none

/-- Whether something is to be removed. -/
def isRemoval (demand : Demand) : Bool :=
  demand.removal?.isSome

end Demand

/-- A demand and its answer. -/
abbrev Call := Demand × Except Failure Nat

namespace Call

def isOrder (call : Call) : Bool :=
  call.1.isOrder

def isRemoval (call : Call) : Bool :=
  call.1.isRemoval

/-- Whether the call is a removal that failed. -/
def isFailedRemoval : Call → Bool
  | (.remove _ _, .error _) => true
  | _ => false

/-- What the call does to the records, and the answer.  A removal that failed does nothing to
them. -/
def edit? : Call → Option (Edit × Except Failure Nat)
  | (.insert sequence number payload, answer) => some (.insert sequence number payload, answer)
  | (.remove sequence numbers, .ok removed) => some (.remove sequence numbers, .ok removed)
  | (.remove _ _, .error _) | (.failNext _, _) => none

end Call

/-- Meet a demand.  Messages are stored in the records. -/
def Watched.meet (store : Watched) : Demand → Except Failure Nat × Watched
  | .insert sequence number payload =>
      let (answer, records) := store.records.edit (.insert sequence number payload)
      (answer, { store with records })
  | .failNext count => (.ok 0, store.failNext count)
  | .remove sequence numbers => store.remove sequence numbers

namespace Watched

variable {store : Watched}

theorem remove_of_failing (failing : 0 < store.failures) (sequence : SequenceKey)
    (numbers : List Nat) :
    store.remove sequence numbers =
      (.error .injected,
        { store with
          removals := store.removals ++ [(sequence, numbers)]
          failures := store.failures - 1 }) := by
  obtain ⟨records, removals, failures⟩ := store
  cases failures with
  | zero => cases failing
  | succ failures => rfl

theorem remove_of_not_failing (willing : store.failures = 0) (sequence : SequenceKey)
    (numbers : List Nat) :
    store.remove sequence numbers =
      (.ok (store.records.remove sequence numbers).1,
        { store with
          removals := store.removals ++ [(sequence, numbers)]
          records := (store.records.remove sequence numbers).2 }) := by
  obtain ⟨records, removals, failures⟩ := store
  cases willing
  rfl

end Watched

/-! ## The latest order -/

/-- The latest order to fail was for `count` removals, and was followed by `since`. -/
def Ordered (calls : List Call) (count : Nat) (since : List Call) : Prop :=
  ∃ earlier answer, calls = earlier ++ (.failNext count, answer) :: since ∧
    ∀ call ∈ since, call.isOrder = false

/-- A removal is to fail if fewer removals than the latest order asks for were made since. -/
def IsToFail (calls : List Call) : Prop :=
  ∃ count since, Ordered calls count since ∧ since.countP Call.isRemoval < count

section

variable {calls since : List Call} {call : Call} {count : Nat}

theorem not_ordered_nil : ¬ Ordered [] count since := by
  rintro ⟨earlier, answer, split, _⟩
  exact List.cons_ne_nil _ _ (List.append_eq_nil_iff.mp split.symm).2

/-- An order replaces those before it. -/
theorem ordered_concat_order {answer : Except Failure Nat} {asked : Nat} :
    Ordered (calls ++ [(.failNext asked, answer)]) count since ↔ asked = count ∧ since = [] := by
  constructor
  · rintro ⟨earlier, other, split, quiet⟩
    rcases List.eq_nil_or_concat since with rfl | ⟨before, last, rfl⟩
    · obtain ⟨_, same⟩ := List.append_inj' split rfl
      obtain ⟨⟨⟩, _⟩ := List.cons.inj same
      exact ⟨rfl, rfl⟩
    · rw [List.concat_eq_append, ← List.cons_append, ← List.append_assoc] at split
      obtain ⟨_, same⟩ := List.append_inj' split rfl
      have isLast := quiet last (by simp)
      rw [← List.singleton_inj.mp same] at isLast
      cases isLast
  · rintro ⟨rfl, rfl⟩
    exact ⟨calls, answer, rfl, fun _ present => nomatch present⟩

/-- Everything else leaves the latest order in force. -/
theorem ordered_concat (quiet : call.isOrder = false) :
    Ordered (calls ++ [call]) count since ↔
      ∃ before, Ordered calls count before ∧ since = before ++ [call] := by
  constructor
  · rintro ⟨earlier, answer, split, allQuiet⟩
    rcases List.eq_nil_or_concat since with rfl | ⟨before, last, rfl⟩
    · obtain ⟨_, same⟩ := List.append_inj' split rfl
      rw [List.singleton_inj.mp same] at quiet
      cases quiet
    · rw [List.concat_eq_append] at split allQuiet ⊢
      rw [← List.cons_append, ← List.append_assoc] at split
      obtain ⟨isCalls, same⟩ := List.append_inj' split rfl
      obtain rfl := List.singleton_inj.mp same
      exact ⟨before, ⟨earlier, answer, isCalls,
        fun other present => allQuiet other (List.mem_append_left _ present)⟩, rfl⟩
  · rintro ⟨before, ⟨earlier, answer, rfl, allQuiet⟩, rfl⟩
    refine ⟨earlier, answer, by rw [List.append_assoc, List.cons_append], fun other present => ?_⟩
    rcases List.mem_append.mp present with inBefore | isLast
    · exact allQuiet other inBefore
    · exact List.mem_singleton.mp isLast ▸ quiet

end

/-! ## What the calls tell about the store -/

/-- Which answer a removal gets after other calls. -/
def IsFair (past : List Call) : Call → Prop
  | (.remove _ _, answer) =>
      (IsToFail past ∧ answer = .error .injected) ∨
        (¬ IsToFail past ∧ ∃ removed, answer = .ok removed)
  | _ => True

/-- The store that calls lead to. -/
structure Accounts (calls : List Call) (store : Watched) : Prop where
  noted : store.removals = calls.filterMap fun call => call.1.removal?
  fair : Schedule.Each IsFair calls
  /-- The records are those of a store to which the removals that failed were never made. -/
  kept : playAll Records.edit ((calls.filterMap Call.edit?).map Prod.fst) (Records.empty none) =
    (calls.filterMap Call.edit?, store.records)
  /-- What the latest order asks for has failed, or is still to fail. -/
  budget : ∀ count since, Ordered calls count since →
    store.failures + since.countP Call.isFailedRemoval = count
  spent : ∀ count since, Ordered calls count since →
    since.countP Call.isFailedRemoval = min count (since.countP Call.isRemoval)
  unordered : (∀ count since, ¬ Ordered calls count since) → store.failures = 0

namespace Accounts

variable {calls : List Call} {store : Watched}

theorem empty : Accounts [] Watched.empty where
  noted := rfl
  fair := Schedule.each_nil
  kept := rfl
  budget := fun _ _ ordered => absurd ordered not_ordered_nil
  spent := fun _ _ ordered => absurd ordered not_ordered_nil
  unordered := fun _ => rfl

theorem isToFail_iff (accounts : Accounts calls store) :
    IsToFail calls ↔ 0 < store.failures := by
  constructor
  · rintro ⟨count, since, ordered, fewer⟩
    have left := accounts.budget count since ordered
    have failed := accounts.spent count since ordered
    omega
  · intro left
    by_contra none
    have allMade : ∀ count since, ¬ Ordered calls count since := by
      intro count since ordered
      have asked := accounts.budget count since ordered
      have failed := accounts.spent count since ordered
      exact none ⟨count, since, ordered, by omega⟩
    exact Nat.ne_of_gt left (accounts.unordered allMade)

/-- Storing a message has nothing to do with removals. -/
theorem insert (accounts : Accounts calls store) (sequence : SequenceKey) (number : Nat)
    (payload : List UInt8) :
    Accounts
      (calls ++ [(.insert sequence number payload,
        (store.meet (.insert sequence number payload)).1)])
      (store.meet (.insert sequence number payload)).2 := by
  have ordered {count : Nat} {since : List Call} (answer : Except Failure Nat) :=
    @ordered_concat calls since (.insert sequence number payload, answer) count rfl
  constructor
  case noted =>
    rw [List.filterMap_append, ← accounts.noted]
    exact (List.append_nil _).symm
  case fair => exact Schedule.each_concat.mpr ⟨accounts.fair, trivial⟩
  case kept =>
    rw [List.filterMap_append, List.map_append, List.filterMap_cons, Call.edit?,
      List.filterMap_nil, List.map_singleton, playAll_concat, accounts.kept]
    rfl
  case budget =>
    intro count since latest
    obtain ⟨before, wasLatest, rfl⟩ := (ordered _).mp latest
    rw [List.countP_append]
    exact accounts.budget count before wasLatest
  case spent =>
    intro count since latest
    obtain ⟨before, wasLatest, rfl⟩ := (ordered _).mp latest
    rw [List.countP_append, List.countP_append]
    exact accounts.spent count before wasLatest
  case unordered =>
    intro none
    exact accounts.unordered fun count since latest =>
      none count _ ((ordered _).mpr ⟨since, latest, rfl⟩)

/-- An order to fail takes the place of what was left of the one before. -/
theorem failNext (accounts : Accounts calls store) (count : Nat) :
    Accounts (calls ++ [(.failNext count, (store.meet (.failNext count)).1)])
      (store.meet (.failNext count)).2 := by
  constructor
  case noted =>
    rw [List.filterMap_append, ← accounts.noted]
    exact (List.append_nil _).symm
  case fair => exact Schedule.each_concat.mpr ⟨accounts.fair, trivial⟩
  case kept =>
    rw [List.filterMap_append, List.filterMap_cons, Call.edit?, List.filterMap_nil,
      List.append_nil]
    exact accounts.kept
  case budget =>
    intro asked since latest
    obtain ⟨rfl, rfl⟩ := ordered_concat_order.mp latest
    rfl
  case spent =>
    intro asked since latest
    obtain ⟨rfl, rfl⟩ := ordered_concat_order.mp latest
    exact (Nat.min_zero _).symm
  case unordered =>
    intro none
    exact absurd (ordered_concat_order.mpr ⟨rfl, rfl⟩) (none count [])

theorem remove (accounts : Accounts calls store) (sequence : SequenceKey) (numbers : List Nat) :
    Accounts
      (calls ++ [(.remove sequence numbers, (store.meet (.remove sequence numbers)).1)])
      (store.meet (.remove sequence numbers)).2 := by
  have ordered {count : Nat} {since : List Call} (answer : Except Failure Nat) :=
    @ordered_concat calls since (.remove sequence numbers, answer) count rfl
  have stillUnordered (answer : Except Failure Nat) (none : ∀ count since,
      ¬ Ordered (calls ++ [(.remove sequence numbers, answer)]) count since) :
      store.failures = 0 :=
    accounts.unordered fun count since latest =>
      none count _ ((ordered _).mpr ⟨since, latest, rfl⟩)
  have isNoted : store.removals ++ [(sequence, numbers)] =
      calls.filterMap (fun call => call.1.removal?) ++ [(sequence, numbers)] :=
    congrArg (· ++ [(sequence, numbers)]) accounts.noted
  rw [Watched.meet]
  rcases Nat.eq_zero_or_pos store.failures with willing | failing
  · rw [Watched.remove_of_not_failing willing]
    constructor
    case noted =>
      rw [List.filterMap_append]
      exact isNoted
    case fair =>
      refine Schedule.each_concat.mpr ⟨accounts.fair, .inr ⟨?_, _, rfl⟩⟩
      rw [accounts.isToFail_iff]
      exact Nat.not_lt_of_ge (Nat.le_of_eq willing)
    case kept =>
      rw [List.filterMap_append, List.map_append, List.filterMap_cons, Call.edit?,
        List.filterMap_nil, List.map_singleton, playAll_concat, accounts.kept]
      rfl
    case budget =>
      intro count since latest
      obtain ⟨before, wasLatest, rfl⟩ := (ordered _).mp latest
      rw [List.countP_append]
      exact accounts.budget count before wasLatest
    case spent =>
      intro count since latest
      obtain ⟨before, wasLatest, rfl⟩ := (ordered _).mp latest
      have left := accounts.budget count before wasLatest
      have failed := accounts.spent count before wasLatest
      rw [List.countP_append, List.countP_append]
      change _ + 0 = min count (_ + 1)
      omega
    case unordered => exact stillUnordered _
  · rw [Watched.remove_of_failing failing]
    constructor
    case noted =>
      rw [List.filterMap_append]
      exact isNoted
    case fair =>
      exact Schedule.each_concat.mpr
        ⟨accounts.fair, .inl ⟨accounts.isToFail_iff.mpr failing, rfl⟩⟩
    case kept =>
      rw [List.filterMap_append, List.filterMap_cons, Call.edit?, List.filterMap_nil,
        List.append_nil]
      exact accounts.kept
    case budget =>
      intro count since latest
      obtain ⟨before, wasLatest, rfl⟩ := (ordered _).mp latest
      have left := accounts.budget count before wasLatest
      rw [List.countP_append]
      change store.failures - 1 + (_ + 1) = count
      omega
    case spent =>
      intro count since latest
      obtain ⟨before, wasLatest, rfl⟩ := (ordered _).mp latest
      have left := accounts.budget count before wasLatest
      have failed := accounts.spent count before wasLatest
      rw [List.countP_append, List.countP_append]
      change _ + 1 = min count (_ + 1)
      omega
    case unordered =>
      intro none
      exact absurd (stillUnordered _ none) (Nat.ne_of_gt failing)

end Accounts

theorem accounts_playAll (demands : List Demand) :
    Accounts (playAll Watched.meet demands Watched.empty).1
      (playAll Watched.meet demands Watched.empty).2 := by
  induction demands using List.reverseRecOn with
  | nil => exact .empty
  | append_singleton demands demand inductionHypothesis =>
      rw [playAll_concat]
      cases demand with
      | insert sequence number payload => exact inductionHypothesis.insert sequence number payload
      | failNext count => exact inductionHypothesis.failNext count
      | remove sequence numbers => exact inductionHypothesis.remove sequence numbers

/-! ## The main result -/

/-- What removals that were asked for have done to a store. -/
structure Watched.Reflects (store : Watched) (calls : List Call) : Prop where
  fails : ∀ past sequence numbers answer later,
    calls = past ++ (.remove sequence numbers, answer) :: later →
      (answer = .error .injected ↔ IsToFail past) ∧
        (¬ IsToFail past → ∃ removed, answer = .ok removed)
  /-- The records are those of a store that was asked for the other removals only, and gave the same
  answers. -/
  kept : playAll Records.edit ((calls.filterMap Call.edit?).map Prod.fst) (Records.empty none) =
    (calls.filterMap Call.edit?, store.records)
  untouched : ∀ sequence numbers failure, (store.remove sequence numbers).1 = .error failure →
    failure = .injected ∧ (store.remove sequence numbers).2.records = store.records
  /-- No more removals have failed than the latest order asks for. -/
  budget : ∀ count since, Ordered calls count since →
    store.failures + since.countP Call.isFailedRemoval = count ∧
      since.countP Call.isFailedRemoval = min count (since.countP Call.isRemoval)

/-- However messages are stored, removals ordered to fail, and removals made: all removals are
noted, those fail that are to fail, and the records are as if these had never been made. -/
theorem Watched.removals_exact (demands : List Demand) :
    ∃ calls store, playAll meet demands empty = (calls, store) ∧ calls.map Prod.fst = demands ∧
      store.removals = demands.filterMap Demand.removal? ∧ store.Reflects calls := by
  have accounts := accounts_playAll demands
  have sameDemands := map_fst_playAll meet demands empty
  refine ⟨_, _, rfl, sameDemands, ?_, ?_⟩
  · rw [accounts.noted]
    nth_rewrite 2 [← sameDemands]
    rw [List.filterMap_map]
    rfl
  · constructor
    case fails =>
      intro past sequence numbers answer later split
      rcases accounts.fair past _ later split with ⟨isToFail, rfl⟩ | ⟨notToFail, removed, rfl⟩
      · exact ⟨iff_of_true rfl isToFail, fun notToFail => absurd isToFail notToFail⟩
      · exact ⟨iff_of_false (fun same => nomatch same) notToFail, fun _ => ⟨removed, rfl⟩⟩
    case kept => exact accounts.kept
    case untouched =>
      intro sequence numbers failure failed
      rcases Nat.eq_zero_or_pos
          (playAll meet demands empty).2.failures with willing | failing
      · rw [remove_of_not_failing willing] at failed
        cases failed
      · rw [remove_of_failing failing] at failed
        exact ⟨(Except.error.inj failed).symm, records_remove_of_failures_pos failing _ _⟩
    case budget =>
      exact fun count since latest =>
        ⟨accounts.budget count since latest, accounts.spent count since latest⟩

end Redelivery.Store
