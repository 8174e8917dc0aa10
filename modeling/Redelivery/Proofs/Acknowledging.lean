import Mathlib.Data.Set.Card
import Mathlib.Order.Bounds.Basic
import Redelivery.Acks

/-!
# Acknowledging numbers

Numbers are acknowledged one by one or in ranges, in any order and as often as one likes.  What
is kept of them are the runs of consecutive acknowledged numbers, from low to high: every set of
numbers is kept in one form only.
-/

namespace Redelivery

/-! ## Ranges -/

namespace NumberRange

variable {range other grown next : NumberRange} {number : Nat}

theorem contains_iff :
    range.contains number = true ↔ range.lower ≤ number ∧ number ≤ range.upper :=
  decide_eq_true_iff

/-- The greatest number need not be told apart from what would follow it: no range begins
there. -/
theorem isApartBefore_iff (range : NumberRange) (within : other.lower ≤ greatestNumber) :
    range.isApartBefore other = true ↔ range.upper + 1 < other.lower := by
  rw [isApartBefore, following, decide_eq_true_iff]
  omega

/-- Nothing lies between two ranges neither of which ends before the other begins, with a number
between them. -/
theorem contains_cover (reaches : other.lower ≤ range.upper + 1)
    (isReached : range.lower ≤ other.upper + 1) :
    (range.cover other).contains number = true ↔
      range.contains number = true ∨ other.contains number = true := by
  simp only [contains_iff, cover]
  omega

/-- There is a number between two ranges, whichever comes first. -/
def AreApart (first second : NumberRange) : Prop :=
  first.upper + 1 < second.lower ∨ second.upper + 1 < first.lower

instance : Std.Symm AreApart := ⟨fun _ _ => Or.symm⟩

/-- A range holds a number, and no greater one than there is. -/
structure IsProper (range : NumberRange) : Prop where
  inOrder : range.lower ≤ range.upper
  within : range.upper ≤ greatestNumber

theorem IsProper.lower_le (proper : range.IsProper) : range.lower ≤ greatestNumber :=
  proper.inOrder.trans proper.within

theorem IsProper.contains_lower (proper : range.IsProper) : range.contains range.lower = true :=
  contains_iff.mpr ⟨Nat.le_refl _, proper.inOrder⟩

theorem IsProper.cover (proper : range.IsProper) (alsoProper : other.IsProper) :
    (range.cover other).IsProper where
  inOrder := (Nat.min_le_left _ _).trans (proper.inOrder.trans (Nat.le_max_left _ _))
  within := Nat.max_le.mpr ⟨proper.within, alsoProper.within⟩

/-! ## Lists of ranges -/

/-- One of the ranges contains the number. -/
def Cover (ranges : List NumberRange) (number : Nat) : Prop :=
  ∃ range ∈ ranges, range.contains number = true

@[simp]
theorem not_cover_nil : ¬ Cover [] number := by
  simp [Cover]

@[simp]
theorem cover_cons {ranges : List NumberRange} :
    Cover (range :: ranges) number ↔ range.contains number = true ∨ Cover ranges number := by
  simp [Cover]

/-- Ranges from low to high, with a number between any two of them. -/
structure AreCanonical (ranges : List NumberRange) : Prop where
  proper : ∀ range ∈ ranges, range.IsProper
  apart : ranges.Pairwise fun first second => first.upper + 1 < second.lower

namespace AreCanonical

variable {ranges : List NumberRange}

theorem nil : AreCanonical [] :=
  ⟨fun _ present => absurd present List.not_mem_nil, .nil⟩

theorem cons (proper : range.IsProper) (before : ∀ next ∈ ranges, range.upper + 1 < next.lower)
    (canonical : AreCanonical ranges) : AreCanonical (range :: ranges) where
  proper := List.forall_mem_cons.mpr ⟨proper, canonical.proper⟩
  apart := List.pairwise_cons.mpr ⟨before, canonical.apart⟩

theorem head (canonical : AreCanonical (range :: ranges)) : range.IsProper :=
  canonical.proper range List.mem_cons_self

theorem tail (canonical : AreCanonical (range :: ranges)) : AreCanonical ranges :=
  ⟨fun next present => canonical.proper next (List.mem_cons_of_mem _ present),
    canonical.apart.of_cons⟩

theorem before (canonical : AreCanonical (range :: ranges)) :
    ∀ next ∈ ranges, range.upper + 1 < next.lower :=
  (List.pairwise_cons.mp canonical.apart).1

/-- Who is behind the first range is behind whoever ends no later. -/
theorem before_of_le (canonical : AreCanonical (next :: ranges))
    (behind : range.upper + 1 < next.lower) :
    ∀ later ∈ next :: ranges, range.upper + 1 < later.lower := by
  intro later present
  rcases List.mem_cons.mp present with rfl | further
  · exact behind
  · have inOrder := canonical.head.inOrder
    have isBefore := canonical.before later further
    omega

/-- If the first range does not end before another one begins, with a number between them, no
range does. -/
theorem reached_of_touched (canonical : AreCanonical (next :: ranges))
    (touched : ¬ next.upper + 1 < range.lower) :
    ∀ later ∈ next :: ranges, range.lower ≤ later.upper + 1 := by
  intro later present
  rcases List.mem_cons.mp present with rfl | further
  · omega
  · have inOrder := (canonical.proper later present).inOrder
    have isBefore := canonical.before later further
    omega

/-- A range of the list begins where the list covers a number. -/
theorem cover_lower (canonical : AreCanonical ranges) (present : range ∈ ranges) :
    Cover ranges range.lower :=
  ⟨range, present, (canonical.proper range present).contains_lower⟩

theorem nodup (canonical : AreCanonical ranges) : ranges.Nodup := by
  refine canonical.apart.imp_of_mem fun present _ isBefore => ?_
  rintro rfl
  have inOrder := (canonical.proper _ present).inOrder
  omega

end AreCanonical

/-! ## Runs -/

/-- A range of covered numbers that cannot be extended. -/
structure IsRun (range : NumberRange) (covered : Nat → Prop) : Prop where
  inOrder : range.lower ≤ range.upper
  full : ∀ number, range.contains number = true → covered number
  first : ∀ number, number + 1 = range.lower → ¬ covered number
  last : ¬ covered (range.upper + 1)

namespace IsRun

variable {covered : Nat → Prop}

/-- A run that reaches another one begins no earlier. -/
theorem lower_le (run : range.IsRun covered) (also : other.IsRun covered)
    (reaches : other.lower ≤ range.upper + 1) : other.lower ≤ range.lower := by
  by_contra earlier
  have inRange : range.contains (other.lower - 1) = true := contains_iff.mpr (by omega)
  exact also.first (other.lower - 1) (by omega) (run.full _ inRange)

/-- A run that begins within another one ends no later. -/
theorem le_upper (run : range.IsRun covered) (also : other.IsRun covered)
    (reaches : range.lower ≤ other.upper + 1) : range.upper ≤ other.upper := by
  by_contra later
  have inRange : range.contains (other.upper + 1) = true := contains_iff.mpr (by omega)
  exact also.last (run.full _ inRange)

/-- Two runs that share a number are one. -/
theorem eq_of_contains (run : range.IsRun covered) (also : other.IsRun covered)
    (inRange : range.contains number = true) (inOther : other.contains number = true) :
    range = other := by
  rw [contains_iff] at inRange inOther
  have sameLower : range.lower = other.lower :=
    Nat.le_antisymm (also.lower_le run (by omega)) (run.lower_le also (by omega))
  have sameUpper : range.upper = other.upper :=
    Nat.le_antisymm (run.le_upper also (by omega)) (also.le_upper run (by omega))
  exact congrArg₂ NumberRange.mk sameLower sameUpper

end IsRun

namespace AreCanonical

variable {ranges others : List NumberRange}

theorem eq_or_apart (canonical : AreCanonical ranges) (present : range ∈ ranges)
    (alsoPresent : other ∈ ranges) : range = other ∨ AreApart range other := by
  have related : ranges.Pairwise AreApart := canonical.apart.imp .inl
  exact (eq_or_ne range other).imp_right (related.forall present alsoPresent)

/-- The ranges are the runs of what they cover. -/
theorem mem_iff_isRun (canonical : AreCanonical ranges) :
    range ∈ ranges ↔ range.IsRun (Cover ranges) := by
  have isRun (range : NumberRange) (present : range ∈ ranges) : range.IsRun (Cover ranges) := by
    have inOrder := (canonical.proper range present).inOrder
    constructor
    case inOrder => exact inOrder
    case full => exact fun number inRange => ⟨range, present, inRange⟩
    case first =>
      rintro number follows ⟨other, alsoPresent, inOther⟩
      rw [contains_iff] at inOther
      rcases canonical.eq_or_apart present alsoPresent with rfl | isBefore | isBehind <;> omega
    case last =>
      rintro ⟨other, alsoPresent, inOther⟩
      rw [contains_iff] at inOther
      rcases canonical.eq_or_apart present alsoPresent with rfl | isBefore | isBehind <;> omega
  constructor
  · exact isRun range
  · intro run
    have inRange : range.contains range.lower = true :=
      contains_iff.mpr ⟨Nat.le_refl _, run.inOrder⟩
    obtain ⟨other, present, inOther⟩ := run.full range.lower inRange
    rw [run.eq_of_contains (isRun other present) inRange inOther]
    exact present

/-- Canonical ranges are known by the numbers that they cover. -/
theorem ext (canonical : AreCanonical ranges) (alsoCanonical : AreCanonical others)
    (same : ∀ number, Cover ranges number ↔ Cover others number) : ranges = others := by
  have sameCover : Cover ranges = Cover others := funext fun number => propext (same number)
  have perm : ranges.Perm others := by
    refine (List.perm_ext_iff_of_nodup canonical.nodup alsoCanonical.nodup).mpr fun range => ?_
    rw [canonical.mem_iff_isRun, alsoCanonical.mem_iff_isRun, sameCover]
  refine perm.eq_of_pairwise (fun first second present alsoPresent isBefore isBehind => ?_)
    canonical.apart alsoCanonical.apart
  have inOrder := (canonical.proper first present).inOrder
  have alsoInOrder := (alsoCanonical.proper second alsoPresent).inOrder
  omega

/-- There are as many ranges as runs. -/
theorem encard_runs (canonical : AreCanonical ranges) :
    {range : NumberRange | range.IsRun (Cover ranges)}.encard = ranges.length := by
  have members : {range : NumberRange | range.IsRun (Cover ranges)} = ranges.toFinset := by
    ext range
    rw [Set.mem_ofPred_eq, ← canonical.mem_iff_isRun, List.coe_toFinset, Set.mem_ofPred_eq]
  rw [members, Set.encard_coe_eq_coe_finsetCard, List.toFinset_card_of_nodup canonical.nodup]

/-- The last range ends with the greatest number that is covered. -/
theorem isGreatest_upper {last : NumberRange} (canonical : AreCanonical (ranges ++ [last])) :
    IsGreatest {number | Cover (ranges ++ [last]) number} last.upper := by
  have isLast : last ∈ ranges ++ [last] := List.mem_append_right _ List.mem_cons_self
  have inOrder := (canonical.proper last isLast).inOrder
  refine ⟨⟨last, isLast, contains_iff.mpr ⟨inOrder, Nat.le_refl _⟩⟩, ?_⟩
  rintro number ⟨range, present, inRange⟩
  rw [contains_iff] at inRange
  rcases List.mem_append.mp present with earlier | own
  · have isBefore := (List.pairwise_append.mp canonical.apart).2.2 range earlier last
      List.mem_cons_self
    omega
  · rw [List.mem_singleton.mp own] at inRange
    exact inRange.2

end AreCanonical

end NumberRange

/-! ## Acknowledging a range -/

namespace Acks

open NumberRange

variable {range grown : NumberRange} {ranges : List NumberRange} {number : Nat}

/-- A range swallows numbers that it touches only, and no number between. -/
theorem cover_absorb (canonical : AreCanonical ranges) (within : range.upper ≤ grown.upper)
    (reached : ∀ next ∈ ranges, grown.lower ≤ next.upper + 1) :
    Cover (absorb range grown ranges) number ↔
      grown.contains number = true ∨ Cover ranges number := by
  induction ranges generalizing grown with
  | nil => simp [absorb]
  | cons next rest inductionHypothesis =>
      have touches := isApartBefore_iff range canonical.head.lower_le
      rw [absorb]
      split
      · rw [cover_cons]
      · next joins =>
          rw [touches] at joins
          have nextReached := reached next List.mem_cons_self
          have restReached : ∀ later ∈ rest, (grown.cover next).lower ≤ later.upper + 1 :=
            fun later present =>
              (Nat.min_le_left _ _).trans (reached later (List.mem_cons_of_mem _ present))
          rw [inductionHypothesis canonical.tail (within.trans (Nat.le_max_left _ _)) restReached,
            contains_cover (by omega) nextReached, cover_cons, or_assoc]

/-- Once the range has swallowed one that ends behind it, there is a number between it and the
next one. -/
theorem canonical_absorb (canonical : AreCanonical ranges) (proper : grown.IsProper)
    (within : range.upper ≤ grown.upper)
    (apart : grown.upper = range.upper ∨ ∀ next ∈ ranges, grown.upper + 1 < next.lower) :
    AreCanonical (absorb range grown ranges) := by
  induction ranges generalizing grown with
  | nil => exact .cons proper (fun _ present => absurd present List.not_mem_nil) .nil
  | cons next rest inductionHypothesis =>
      have touches := isApartBefore_iff range canonical.head.lower_le
      rw [absorb]
      split
      · next isApart =>
          rw [touches] at isApart
          refine .cons proper (apart.elim (fun same => ?_) id) canonical
          exact canonical.before_of_le (by omega)
      · next joins =>
          rw [touches] at joins
          apply inductionHypothesis canonical.tail (proper.cover canonical.head)
            (within.trans (Nat.le_max_left _ _))
          have grownApart := apart.imp_right fun behind => behind next List.mem_cons_self
          rcases Nat.le_total next.upper grown.upper with ends | goesOn
          · left
            have unchanged : (grown.cover next).upper = grown.upper := Nat.max_eq_left ends
            omega
          · right
            have extended : (grown.cover next).upper = next.upper := Nat.max_eq_right goesOn
            rw [extended]
            exact canonical.before

theorem cover_place (canonical : AreCanonical ranges) (proper : range.IsProper) :
    Cover (place range ranges) number ↔ range.contains number = true ∨ Cover ranges number := by
  induction ranges with
  | nil => simp [place]
  | cons next rest inductionHypothesis =>
      rw [place]
      split
      · rw [cover_cons, cover_cons, inductionHypothesis canonical.tail, or_left_comm]
      · next touched =>
          rw [isApartBefore_iff next proper.lower_le] at touched
          exact cover_absorb canonical (Nat.le_refl _) (canonical.reached_of_touched touched)

theorem canonical_place (canonical : AreCanonical ranges) (proper : range.IsProper) :
    AreCanonical (place range ranges) := by
  induction ranges with
  | nil => exact .cons proper (fun _ present => absurd present List.not_mem_nil) .nil
  | cons next rest inductionHypothesis =>
      rw [place]
      split
      · next isBefore =>
          rw [isApartBefore_iff next proper.lower_le] at isBefore
          have placed := inductionHypothesis canonical.tail
          refine .cons canonical.head (fun later present => ?_) placed
          -- Whatever the range was merged with, the result begins where something begins.
          rcases (cover_place canonical.tail proper).mp (placed.cover_lower present) with
            inRange | ⟨other, wasPresent, inOther⟩
          · rw [contains_iff] at inRange
            omega
          · rw [contains_iff] at inOther
            have wasBehind := canonical.before other wasPresent
            omega
      · exact canonical_absorb canonical proper (Nat.le_refl _) (.inl rfl)

/-! ## What is acknowledged -/

theorem contains_cons_of_lt (ends : range.upper < number) :
    (Acks.mk (range :: ranges)).contains number = (Acks.mk ranges).contains number := by
  simp [contains, ends]

theorem contains_cons_of_le (reaches : number ≤ range.upper) :
    (Acks.mk (range :: ranges)).contains number = range.contains number := by
  simp [contains, Nat.not_lt.mpr reaches]

/-- The first range that does not end before a number decides whether it is acknowledged. -/
theorem contains_iff_cover (canonical : AreCanonical ranges) :
    (Acks.mk ranges).contains number = true ↔ Cover ranges number := by
  induction ranges with
  | nil => simp [contains]
  | cons range rest inductionHypothesis =>
      rw [cover_cons]
      rcases Nat.lt_or_ge range.upper number with ends | reaches
      · rw [contains_cons_of_lt ends, inductionHypothesis canonical.tail, or_iff_right]
        intro inRange
        rw [NumberRange.contains_iff] at inRange
        omega
      · rw [contains_cons_of_le reaches, or_iff_left]
        rintro ⟨other, present, inOther⟩
        rw [NumberRange.contains_iff] at inOther
        have isBehind := canonical.before other present
        omega

theorem greatest?_eq_some_iff (canonical : AreCanonical ranges) :
    (Acks.mk ranges).greatest? = some number ↔
      IsGreatest {number | Cover ranges number} number := by
  rcases List.eq_nil_or_concat ranges with rfl | ⟨earlier, last, rfl⟩
  · simp [greatest?, IsGreatest]
  · rw [List.concat_eq_append] at canonical ⊢
    have greatest := canonical.isGreatest_upper
    simp only [greatest?, List.getLast?_concat, Option.map_some, Option.some.injEq]
    constructor
    · rintro rfl
      exact greatest
    · exact greatest.unique

theorem greatest?_eq_none_iff (canonical : AreCanonical ranges) :
    (Acks.mk ranges).greatest? = none ↔ ∀ number, ¬ Cover ranges number := by
  rw [greatest?, Option.map_eq_none_iff, List.getLast?_eq_none_iff]
  constructor
  · rintro rfl _
    exact not_cover_nil
  · intro uncovered
    refine List.eq_nil_iff_forall_not_mem.mpr fun range present => ?_
    exact uncovered range.lower (canonical.cover_lower present)

end Acks

/-! ## Calls -/

/-- A call that acknowledges a number, or a range of numbers. -/
inductive Acknowledgement where
  | number (number : UInt64)
  | range (lower upper : UInt64)

/-- The call acknowledges a number.  A range whose ends are in the wrong order has none. -/
def Acknowledgement.Covers (call : Acknowledgement) (number : Nat) : Prop :=
  match call with
  | .number own => number = own.toNat
  | .range lower upper => lower.toNat ≤ number ∧ number ≤ upper.toNat

namespace Acks

open NumberRange

/-- What a call does. -/
def acknowledge (acks : Acks) (call : Acknowledgement) : Acks :=
  match call with
  | .number number => acks.insert number.toNat
  | .range lower upper => acks.insertRange lower.toNat upper.toNat

/-- What is kept of calls that are made one after the other. -/
def acknowledged (calls : List Acknowledgement) : Acks :=
  calls.foldl acknowledge empty

theorem acknowledged_append (calls further : List Acknowledgement) :
    acknowledged (calls ++ further) = further.foldl acknowledge (acknowledged calls) :=
  List.foldl_append

theorem toNat_le_greatestNumber (number : UInt64) : number.toNat ≤ greatestNumber :=
  Nat.le_pred_of_lt number.toNat_lt

theorem canonical_insertRange {acks : Acks} (canonical : AreCanonical acks.ranges) (lower : Nat)
    {upper : Nat} (within : upper ≤ greatestNumber) :
    AreCanonical (acks.insertRange lower upper).ranges ∧
      ∀ number, Cover (acks.insertRange lower upper).ranges number ↔
        (lower ≤ number ∧ number ≤ upper) ∨ Cover acks.ranges number := by
  rw [insertRange]
  split
  · next isEmpty =>
      refine ⟨canonical, fun number => (or_iff_right ?_).symm⟩
      omega
  · next inOrder =>
      have proper : NumberRange.IsProper ⟨lower, upper⟩ := ⟨Nat.not_lt.mp inOrder, within⟩
      refine ⟨canonical_place canonical proper, fun number => ?_⟩
      rw [cover_place canonical proper, NumberRange.contains_iff]

/-- A call adds what it covers. -/
theorem canonical_acknowledge {acks : Acks} (canonical : AreCanonical acks.ranges)
    (call : Acknowledgement) :
    AreCanonical (acks.acknowledge call).ranges ∧
      ∀ number, Cover (acks.acknowledge call).ranges number ↔
        call.Covers number ∨ Cover acks.ranges number := by
  cases call with
  | number own =>
      obtain ⟨stays, covers⟩ :=
        canonical_insertRange canonical own.toNat (toNat_le_greatestNumber own)
      refine ⟨stays, fun number => (covers number).trans (or_congr_left ?_)⟩
      exact and_comm.trans Nat.le_antisymm_iff.symm
  | range lower upper =>
      exact canonical_insertRange canonical lower.toNat (toNat_le_greatestNumber upper)

theorem canonical_acknowledged (calls : List Acknowledgement) :
    AreCanonical (acknowledged calls).ranges ∧
      ∀ number, Cover (acknowledged calls).ranges number ↔
        ∃ call ∈ calls, call.Covers number := by
  induction calls using List.reverseRecOn with
  | nil => exact ⟨.nil, fun number => by simp [acknowledged, empty]⟩
  | append_singleton earlier call inductionHypothesis =>
      obtain ⟨canonical, covered⟩ := inductionHypothesis
      obtain ⟨stays, covers⟩ := canonical_acknowledge canonical call
      rw [acknowledged_append, List.foldl_cons, List.foldl_nil]
      refine ⟨stays, fun number => ?_⟩
      rw [covers, covered]
      simp [or_comm]

/-! ## The main results -/

/-- What `acks` keep are the numbers that are `covered`. -/
structure Keep (acks : Acks) (covered : Nat → Prop) : Prop where
  inOrder : ∀ range ∈ acks.ranges, range.lower ≤ range.upper
  /-- The ranges are sorted, and between any two of them lies a number. -/
  apart : acks.ranges.Pairwise fun first second => first.upper + 1 < second.lower
  contains : ∀ number, acks.contains number = true ↔ covered number
  ranges : ∀ number, acks.contains number = true ↔
    ∃ range ∈ acks.ranges, range.lower ≤ number ∧ number ≤ range.upper
  greatest : ∀ number, acks.greatest? = some number ↔ IsGreatest {number | covered number} number
  nothing : acks.greatest? = none ↔ ∀ number, ¬ covered number

/-- Whatever is acknowledged is kept, at the end of the numbers as well, and nothing else. -/
theorem keep_acknowledged (calls : List Acknowledgement) :
    (acknowledged calls).Keep fun number => ∃ call ∈ calls, call.Covers number := by
  obtain ⟨canonical, covers⟩ := canonical_acknowledged calls
  constructor
  case inOrder => exact fun range present => (canonical.proper range present).inOrder
  case apart => exact canonical.apart
  case contains => exact fun number => (contains_iff_cover canonical).trans (covers number)
  case ranges =>
    intro number
    rw [contains_iff_cover canonical]
    simp only [Cover, NumberRange.contains_iff]
  case greatest =>
    intro number
    rw [greatest?_eq_some_iff canonical]
    simp only [covers]
  case nothing =>
    rw [greatest?_eq_none_iff canonical]
    simp only [covers]

/-- Two numbers at the end of all numbers are one range. -/
example : (acknowledged [.number (-1), .number (-2), .range 5 4]).ranges =
    [⟨greatestNumber - 1, greatestNumber⟩] := by
  decide

/-- What is kept depends on the numbers that are acknowledged only. -/
theorem acknowledged_eq_iff {calls others : List Acknowledgement} :
    acknowledged calls = acknowledged others ↔
      ∀ number, (∃ call ∈ calls, call.Covers number) ↔ ∃ call ∈ others, call.Covers number := by
  obtain ⟨canonical, covers⟩ := canonical_acknowledged calls
  obtain ⟨alsoCanonical, alsoCovers⟩ := canonical_acknowledged others
  constructor
  · intro same number
    rw [← covers, ← alsoCovers, same]
  · intro same
    have sameRanges : (acknowledged calls).ranges = (acknowledged others).ranges :=
      canonical.ext alsoCanonical fun number => by rw [covers, alsoCovers, same]
    exact congrArg Acks.mk sameRanges

/-- There is one form only in which a set of numbers is kept: neither the order of the calls
matters, nor how often a number is acknowledged, nor how ranges are cut.  It has one range for
every run of consecutive numbers. -/
theorem acknowledged_canonical :
    (∀ calls others : List Acknowledgement,
      acknowledged calls = acknowledged others ↔
        ∀ number, (∃ call ∈ calls, call.Covers number) ↔ ∃ call ∈ others, call.Covers number) ∧
    (∀ (calls : List Acknowledgement) (first second : Acknowledgement),
      ((acknowledged calls).acknowledge first).acknowledge second =
        ((acknowledged calls).acknowledge second).acknowledge first) ∧
    (∀ (calls : List Acknowledgement) (call : Acknowledgement),
      ((acknowledged calls).acknowledge call).acknowledge call =
        (acknowledged calls).acknowledge call) ∧
    ∀ calls : List Acknowledgement, ((acknowledged calls).size : ℕ∞) =
      {range : NumberRange | range.IsRun fun number =>
        ∃ call ∈ calls, call.Covers number}.encard := by
  refine ⟨fun _ _ => acknowledged_eq_iff, fun calls first second => ?commutes,
    fun calls call => ?idempotent, fun calls => ?size⟩
  case commutes =>
    have same : acknowledged (calls ++ [first, second]) = acknowledged (calls ++ [second, first]) :=
      acknowledged_eq_iff.mpr fun number => by simp [or_comm]
    rwa [acknowledged_append, acknowledged_append] at same
  case idempotent =>
    have same : acknowledged (calls ++ [call, call]) = acknowledged (calls ++ [call]) :=
      acknowledged_eq_iff.mpr fun number => by simp
    rwa [acknowledged_append, acknowledged_append] at same
  case size =>
    obtain ⟨canonical, covers⟩ := canonical_acknowledged calls
    have runs := canonical.encard_runs
    rw [show Cover (acknowledged calls).ranges = _ from
      funext fun number => propext (covers number)] at runs
    exact runs.symm

end Acks

end Redelivery
