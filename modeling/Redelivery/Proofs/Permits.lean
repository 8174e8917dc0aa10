import Redelivery.Proofs.Outline

/-!
# Who holds the permits of a pool

A program that runs a resend in a pool asks for a permit first, gives it back last, and does
nothing else.  The permits of a pool that are in use, and the programs that wait for one, add up
to the programs that are yet to give a permit back, wherever they are.  So no more resends of a
pool are under way than it has permits, and a program that a pool does not serve never waits for
one.
-/

namespace Redelivery

/-! ## Sizes of pools -/

namespace Executor.Pool

variable {α : Type}

theorem requestAt_fst (pools : List (Pool α)) (index : Nat) (job : α) :
    (requestAt pools index job).1 = pools.modify index fun pool => (pool.request job).1 := by
  rw [List.modify_eq_set_getElem?, requestAt]
  cases pools[index]? <;> rfl

theorem releaseAt_fst (pools : List (Pool α)) (index : Nat) :
    (releaseAt pools index).1 = pools.modify index fun pool => pool.release.1 := by
  rw [List.modify_eq_set_getElem?, releaseAt]
  cases pools[index]? <;> rfl

theorem map_capacity_modify {change : Pool α → Pool α}
    (same : ∀ pool, (change pool).capacity = pool.capacity) (pools : List (Pool α)) (index : Nat) :
    (pools.modify index change).map capacity = pools.map capacity := by
  refine List.ext_getElem? fun place => ?_
  rw [List.getElem?_map, List.getElem?_map, List.getElem?_modify, Option.map_eq_map,
    Option.map_map]
  refine congrFun (congrArg Option.map (funext fun pool => ?_)) _
  rw [Function.comp_apply]
  split
  · exact same pool
  · rfl

/-- No pool grows or shrinks because a job asks for a permit. -/
theorem map_capacity_requestAt (pools : List (Pool α)) (index : Nat) (job : α) :
    (requestAt pools index job).1.map capacity = pools.map capacity := by
  rw [requestAt_fst]
  refine map_capacity_modify (fun pool => ?_) pools index
  unfold request
  split <;> rfl

/-- Nor because it gives one back. -/
theorem map_capacity_releaseAt (pools : List (Pool α)) (index : Nat) :
    (releaseAt pools index).1.map capacity = pools.map capacity := by
  rw [releaseAt_fst]
  refine map_capacity_modify (fun pool => ?_) pools index
  unfold release
  split <;> rfl

end Executor.Pool

/-! ## Programs with permits -/

/-- Whether an instruction belongs in a program that asks no pool for a permit: what such a
program sends itself is routed to no pool. -/
def Instruction.IsApart (routing : Executor.Routing) : Instruction → Prop
  | .send job | .conclude job _ => routing.resolve job.message.owner = .inline
  | .enqueue pool job => routing.resolve job.message.owner = .pooled pool
  | .acquire _ | .release _ => False
  | _ => True

/-- The course of a job in a pool, or a program apart from pools. -/
inductive Follows (routing : Executor.Routing) : Program → Prop where
  | apart {program : Program} :
      (∀ instruction ∈ program, instruction.IsApart routing) → Follows routing program
  | asking {pool : Nat} {job : Job} : routing.resolve job.message.owner = .pooled pool →
      Follows routing [.acquire pool, .send job, .release pool]
  | admitted {pool : Nat} {job : Job} : routing.resolve job.message.owner = .pooled pool →
      Follows routing [.send job, .release pool]
  | underWay {pool : Nat} {job : Job} {failure : Option TransportFailure} :
      routing.resolve job.message.owner = .pooled pool →
      Follows routing [.conclude job failure, .release pool]
  | leaving {pool : Nat} : Follows routing [.release pool]

/-- Whether a program is yet to give a permit of a pool back, and is not to ask for one
first. -/
def owes (pool : Nat) : Program → Bool
  | [.send _, .release other] | [.conclude _ _, .release other] | [.release other] =>
      decide (other = pool)
  | _ => false

/-- The programs that are yet to give a permit of a pool back. -/
def dues (pool : Nat) (programs : Multiset Program) : Nat :=
  programs.countP fun program => owes pool program = true

@[simp]
theorem dues_add (pool : Nat) (first second : Multiset Program) :
    dues pool (first + second) = dues pool first + dues pool second :=
  Multiset.countP_add _ _ _

theorem dues_cons (pool : Nat) (program : Program) (programs : Multiset Program) :
    dues pool (program ::ₘ programs) = dues pool programs + (if owes pool program then 1 else 0) :=
  Multiset.countP_cons _ _ _

variable {routing : Executor.Routing}

/-- A program apart from pools has no permit. -/
theorem owes_of_apart {program : Program}
    (apart : ∀ instruction ∈ program, instruction.IsApart routing) (pool : Nat) :
    owes pool program = false := by
  unfold owes
  split
  · exact (apart (.release _) (List.mem_cons_of_mem _ (List.mem_singleton_self _))).elim
  · exact (apart (.release _) (List.mem_cons_of_mem _ (List.mem_singleton_self _))).elim
  · exact (apart (.release _) (List.mem_singleton_self _)).elim
  · rfl

/-- A delivery goes where the owner of the message is routed. -/
theorem isApart_delivery (job : Job) :
    ∀ instruction ∈ Registry.delivery routing job, instruction.IsApart routing := by
  unfold Registry.delivery
  cases resolved : routing.resolve job.message.owner with
  | inline =>
      intro instruction present
      rw [List.mem_singleton.mp present]
      exact resolved
  | pooled pool =>
      intro instruction present
      rw [List.mem_singleton.mp present]
      exact resolved

/-! ## The balance of the pools -/

/-- The pools and the programs agree: each program follows the course of its job, those that wait
in a pool are to run a resend there, and every permit in use is one that a program owes. -/
structure Balanced (routing : Executor.Routing) (pools : List (Executor.Pool Program))
    (programs : Multiset Program) : Prop where
  follows : ∀ program ∈ programs, Follows routing program
  waits : ∀ index pool, pools[index]? = some pool → ∀ program ∈ pool.waiting,
    ∃ job, program = [.send job, .release index] ∧
      routing.resolve job.message.owner = .pooled index
  lent : ∀ index pool, pools[index]? = some pool →
    dues index programs = pool.running + pool.waiting.length
  bounded : ∀ pool ∈ pools, pool.running ≤ pool.capacity

namespace Balanced

variable {pools : List (Executor.Pool Program)} {program : Program} {programs : Multiset Program}

/-- A program may be replaced by others, as long as they owe what it owed. -/
theorem replace (balanced : Balanced routing pools (program ::ₘ programs))
    {others : Multiset Program} (follows : ∀ other ∈ others, Follows routing other)
    (same : ∀ index pool, pools[index]? = some pool →
      dues index others = if owes index program then 1 else 0) :
    Balanced routing pools (others + programs) where
  follows := by
    intro other present
    rcases Multiset.mem_add.mp present with new | old
    · exact follows other new
    · exact balanced.follows other (Multiset.mem_cons_of_mem old)
  waits := balanced.waits
  lent := by
    intro index pool found
    rw [← balanced.lent index pool found, dues_add, dues_cons, same index pool found, Nat.add_comm]
  bounded := balanced.bounded

/-- Wherever there is a pool, the one program owes what the other one did. -/
theorem swap (balanced : Balanced routing pools (program ::ₘ programs)) {other : Program}
    (follows : Follows routing other)
    (same : ∀ index pool, pools[index]? = some pool → owes index other = owes index program) :
    Balanced routing pools (other ::ₘ programs) := by
  rw [← Multiset.singleton_add]
  refine balanced.replace (fun present isPresent => ?_) fun index pool found => ?_
  · rw [Multiset.mem_singleton.mp isPresent]
    exact follows
  · rw [← Multiset.cons_zero, dues_cons, same index pool found, dues, Multiset.countP_zero,
      zero_add]

/-- A program apart from pools may be replaced by others of its kind. -/
theorem replace_apart (balanced : Balanced routing pools (program ::ₘ programs))
    (apart : ∀ instruction ∈ program, instruction.IsApart routing) {others : Multiset Program}
    (alsoApart : ∀ other ∈ others, ∀ instruction ∈ other, instruction.IsApart routing) :
    Balanced routing pools (others + programs) := by
  refine balanced.replace (fun other present => .apart (alsoApart other present))
    fun index _ _ => ?_
  rw [owes_of_apart apart, if_neg Bool.false_ne_true]
  refine Multiset.countP_eq_zero.mpr fun other present => ?_
  rw [owes_of_apart (alsoApart other present)]
  exact Bool.false_ne_true

/-- Programs apart from pools may join. -/
theorem join (balanced : Balanced routing pools programs) {others : Multiset Program}
    (apart : ∀ other ∈ others, ∀ instruction ∈ other, instruction.IsApart routing) :
    Balanced routing pools (others + programs) where
  follows := by
    intro other present
    rcases Multiset.mem_add.mp present with new | old
    · exact .apart (apart other new)
    · exact balanced.follows other old
  waits := balanced.waits
  lent := by
    intro index pool found
    have noDues : dues index others = 0 := by
      refine Multiset.countP_eq_zero.mpr fun other present => ?_
      rw [owes_of_apart (apart other present)]
      exact Bool.false_ne_true
    rw [dues_add, noDues, zero_add, balanced.lent index pool found]
  bounded := balanced.bounded

/-- Where one pool changes along with the programs that owe it something. -/
theorem change (balanced : Balanced routing pools (program ::ₘ programs)) {other : Program}
    {index : Nat} {pool changed : Executor.Pool Program} (found : pools[index]? = some pool)
    (follows : Follows routing other)
    (elsewhere : ∀ place, place ≠ index → owes place other = owes place program)
    (waits : ∀ waiting ∈ changed.waiting, ∃ job, waiting = [.send job, .release index] ∧
      routing.resolve job.message.owner = .pooled index)
    (lent : changed.running + changed.waiting.length + (if owes index program then 1 else 0) =
      pool.running + pool.waiting.length + if owes index other then 1 else 0)
    (bounded : changed.running ≤ changed.capacity) :
    Balanced routing (pools.set index changed) (other ::ₘ programs) where
  follows := by
    intro present isPresent
    rcases Multiset.mem_cons.mp isPresent with rfl | old
    · exact follows
    · exact balanced.follows present (Multiset.mem_cons_of_mem old)
  waits := by
    intro place isPool isFound
    by_cases here : place = index
    · subst here
      rw [List.getElem?_set_self (List.getElem?_eq_some_iff.mp found).1] at isFound
      obtain rfl := Option.some.inj isFound
      exact waits
    · rw [List.getElem?_set_ne (Ne.symm here)] at isFound
      exact balanced.waits place isPool isFound
  lent := by
    intro place isPool isFound
    by_cases here : place = index
    · subst here
      rw [List.getElem?_set_self (List.getElem?_eq_some_iff.mp found).1] at isFound
      obtain rfl := Option.some.inj isFound
      have before := balanced.lent place pool found
      rw [dues_cons] at before ⊢
      omega
    · rw [List.getElem?_set_ne (Ne.symm here)] at isFound
      rw [← balanced.lent place isPool isFound, dues_cons, dues_cons, elsewhere place here]
  bounded := by
    intro isPool present
    rcases List.mem_or_eq_of_mem_set present with old | rfl
    · exact balanced.bounded isPool old
    · exact bounded

theorem ne_of_absent {index place : Nat} {pool : Executor.Pool Program}
    (absent : pools[index]? = none) (found : pools[place]? = some pool) : place ≠ index := by
  rintro rfl
  cases absent.symm.trans found

/-- A program that asks for a permit owes it from then on, whether it goes on or waits. -/
theorem request {index : Nat} {job : Job}
    (balanced : Balanced routing pools ([.acquire index, .send job, .release index] ::ₘ programs))
    (routed : routing.resolve job.message.owner = .pooled index) :
    Balanced routing (Executor.Pool.requestAt pools index [.send job, .release index]).1
      ([.send job, .release index] ::ₘ programs) := by
  have owesHere : owes index [.send job, .release index] = true := decide_eq_true rfl
  have owedNothing (place : Nat) :
      owes place [.acquire index, .send job, .release index] = false := rfl
  have elsewhere : ∀ place, place ≠ index → owes place [.send job, .release index] =
      owes place [.acquire index, .send job, .release index] :=
    fun place different => decide_eq_false different.symm
  unfold Executor.Pool.requestAt
  cases found : pools[index]? with
  | none => exact balanced.swap (.admitted routed) fun place pool isPool =>
      elsewhere place (ne_of_absent found isPool)
  | some pool =>
      have bounded := balanced.bounded pool (List.mem_of_getElem? found)
      have waits := balanced.waits index pool found
      simp only [Executor.Pool.request]
      split
      · next free =>
          change Balanced routing (pools.set index { pool with running := pool.running + 1 }) _
          refine balanced.change found (.admitted routed) elsewhere waits ?_ free
          simp only [owesHere, owedNothing, if_true, Bool.false_eq_true, if_false]
          omega
      · change Balanced routing (pools.set index
          { pool with waiting := pool.waiting ++ [[.send job, .release index]] }) _
        refine balanced.change found (.admitted routed) elsewhere ?_ ?_ bounded
        · intro waiting present
          rcases List.mem_append.mp present with old | new
          · exact waits waiting old
          · exact ⟨job, List.mem_singleton.mp new, routed⟩
        · simp only [owesHere, owedNothing, if_true, Bool.false_eq_true, if_false,
            List.length_append, List.length_singleton]
          omega

/-- A program that gives its permit back owes nothing any more. -/
theorem giveBack {index : Nat}
    (balanced : Balanced routing pools ([.release index] ::ₘ programs)) :
    Balanced routing (Executor.Pool.releaseAt pools index).1 ([] ::ₘ programs) := by
  have owed : owes index [.release index] = true := decide_eq_true rfl
  have owedNothing : owes index [] = false := rfl
  have elsewhere : ∀ place, place ≠ index → owes place [] = owes place [.release index] :=
    fun place different => (decide_eq_false different.symm).symm
  have nothing : Follows routing [] := .apart fun instruction present => by cases present
  unfold Executor.Pool.releaseAt
  cases found : pools[index]? with
  | none => exact balanced.swap nothing fun place pool isPool =>
      elsewhere place (ne_of_absent found isPool)
  | some pool =>
      have bounded := balanced.bounded pool (List.mem_of_getElem? found)
      have waits := balanced.waits index pool found
      have lent := balanced.lent index pool found
      rw [dues_cons, owed, if_pos rfl] at lent
      simp only [Executor.Pool.release]
      split
      · next idle =>
          change Balanced routing (pools.set index { pool with running := pool.running - 1 }) _
          refine balanced.change found nothing elsewhere waits ?_ ((Nat.sub_le _ _).trans bounded)
          rw [idle, List.length_nil] at lent
          simp only [owed, owedNothing, idle, List.length_nil, if_true, Bool.false_eq_true,
            if_false]
          omega
      · next heir rest isWaiting =>
          change Balanced routing (pools.set index { pool with waiting := rest }) _
          refine balanced.change found nothing elsewhere ?_ ?_ bounded
          · intro waiting present
            exact waits waiting (isWaiting ▸ List.mem_cons_of_mem heir present)
          · simp only [owed, owedNothing, isWaiting, List.length_cons, if_true,
              Bool.false_eq_true, if_false]
            omega

/-- The activities of timers ask for no permit. -/
theorem isApart_of_isRing {program : Program} (ring : isRing program = true) :
    ∀ instruction ∈ program, instruction.IsApart routing := by
  unfold isRing at ring
  split at ring
  · intro instruction present
    rw [List.mem_singleton.mp present]
    trivial
  · cases ring

theorem dues_apartFromRings (index : Nat) : dues index (apartFromRings programs) =
    dues index programs := by
  rw [dues, dues, apartFromRings, Multiset.countP_filter]
  refine Multiset.countP_congr rfl fun program _ => propext ⟨And.left, ?_⟩
  intro owed
  refine ⟨owed, ?_⟩
  cases ring : isRing program with
  | false => rfl
  | true =>
      have apart : ∀ instruction ∈ program, instruction.IsApart Executor.Routing.inlineOnly :=
        isApart_of_isRing ring
      rw [owes_of_apart apart] at owed
      cases owed

/-- It does not matter which timers there are. -/
theorem congr (balanced : Balanced routing pools programs) {others : Multiset Program}
    (same : apartFromRings others = apartFromRings programs) : Balanced routing pools others where
  follows := by
    intro program present
    cases ring : isRing program with
    | false =>
        have isThere : program ∈ apartFromRings others := Multiset.mem_filter.mpr ⟨present, ring⟩
        rw [same] at isThere
        exact balanced.follows program (Multiset.mem_of_mem_filter isThere)
    | true => exact .apart (isApart_of_isRing ring)
  waits := balanced.waits
  lent := by
    intro index pool found
    rw [← dues_apartFromRings, same, dues_apartFromRings]
    exact balanced.lent index pool found
  bounded := balanced.bounded

end Balanced

end Redelivery
