import Redelivery.Policy

/-!
# Intervals that do not vanish

A factor that is at least one, times a whole number that is not zero, is not rounded to zero.  So
the intervals of a policy without a defect are never zero: they overflow before they vanish.
-/

namespace Redelivery

namespace Binary64

/-- Rounding does not go below the quotient. -/
theorem div_le_divideToEven (numerator denominator : Nat) :
    numerator / denominator ≤ divideToEven numerator denominator := by
  unfold divideToEven
  dsimp only
  split
  · exact Nat.le_refl _
  · split
    · exact Nat.le_succ _
    · exact Nat.le_add_right _ _

/-- A whole number that is brought to 53 bits keeps the bits that it has. -/
theorem div_le_significant (whole : Nat) :
    whole / Nat.pow 2 (significant whole).2 ≤ (significant whole).1 :=
  div_le_divideToEven whole _

theorem two_pow_significant_le {whole : Nat} (nonzero : whole ≠ 0) :
    Nat.pow 2 (significant whole).2 ≤ whole := by
  have shift : (significant whole).2 ≤ whole.log2 := Nat.sub_le _ _
  exact Nat.le_trans (Nat.pow_le_pow_right Nat.two_pos shift) (Nat.log2_self_le nonzero)

theorem one_le_significant {whole : Nat} (nonzero : whole ≠ 0) : 1 ≤ (significant whole).1 :=
  Nat.le_trans (Nat.div_pos (two_pow_significant_le nonzero) (Nat.two_pow_pos _))
    (div_le_significant whole)

/-- What is at least one is not rounded to zero. -/
theorem wholeNearest_ne_zero {mantissa : Nat} {exponent : Int}
    (atLeastOne : Nat.pow 2 (-exponent).toNat ≤ mantissa * Nat.pow 2 exponent.toNat) :
    wholeNearest mantissa exponent ≠ 0 := by
  have unit : 0 < Nat.pow 2 (-exponent).toNat := Nat.two_pow_pos _
  apply Nat.pos_iff_ne_zero.mp
  apply Nat.div_pos
  · omega
  · exact Nat.mul_pos Nat.two_pos unit

/-- The product of a mantissa with one that stands for at least one stands for at least one. -/
theorem two_pow_le_significant_mul {factor mantissa : Nat} {exponent : Int} (shift : Nat)
    (nonzero : factor ≠ 0)
    (atLeastOne : Nat.pow 2 (-exponent).toNat ≤ mantissa * Nat.pow 2 exponent.toNat) :
    Nat.pow 2 (-(exponent + shift + (significant (factor * mantissa)).2)).toNat ≤
      (significant (factor * mantissa)).1 *
        Nat.pow 2 (exponent + shift + (significant (factor * mantissa)).2).toNat := by
  have mantissaNonzero : mantissa ≠ 0 := by
    rintro rfl
    have positive : 0 < Nat.pow 2 (-exponent).toNat := Nat.two_pow_pos _
    omega
  have factorLe : mantissa ≤ factor * mantissa :=
    Nat.le_mul_of_pos_left mantissa (Nat.pos_of_ne_zero nonzero)
  have productNonzero : factor * mantissa ≠ 0 := Nat.mul_ne_zero nonzero mantissaNonzero
  have kept := div_le_significant (factor * mantissa)
  have one := one_le_significant productNonzero
  generalize factor * mantissa = product at factorLe kept one
  generalize (significant product).1 = rounded at kept one
  generalize (significant product).2 = excess at kept
  by_cases whole : 0 ≤ exponent + shift + excess
  · have noUnit : (-(exponent + shift + excess)).toNat = 0 := by omega
    rw [noUnit]
    exact Nat.le_trans one (Nat.le_mul_of_pos_right rounded (Nat.two_pow_pos _))
  · have noPower : exponent.toNat = 0 := by omega
    have stillNoPower : (exponent + shift + excess).toNat = 0 := by omega
    have single : Nat.pow 2 0 = 1 := rfl
    rw [noPower, single, Nat.mul_one] at atLeastOne
    rw [stillNoPower, single, Nat.mul_one]
    calc Nat.pow 2 (-(exponent + shift + excess)).toNat
        ≤ Nat.pow 2 ((-exponent).toNat - excess) := Nat.pow_le_pow_right Nat.two_pos (by omega)
      _ = Nat.pow 2 (-exponent).toNat / Nat.pow 2 excess :=
          (Nat.pow_div (by omega) Nat.two_pos).symm
      _ ≤ product / Nat.pow 2 excess := Nat.div_le_div_right (Nat.le_trans atLeastOne factorLe)
      _ ≤ rounded := kept

/-- A product with a factor that is at least one is not zero. -/
theorem timesWhole_ne_zero {factor : Binary64} {whole product : Nat}
    (notBelow : factor.isBelowOne = false) (nonzero : whole ≠ 0)
    (times : factor.timesWhole whole = some product) : product ≠ 0 := by
  unfold timesWhole at times
  unfold isBelowOne at notBelow
  cases read : factor.reading with
  | nan negative => simp [read] at times
  | infinite negative => simp [read] at times
  | finite negative mantissa exponent =>
      simp only [read, Bool.or_eq_false_iff, decide_eq_false_iff_not, Nat.not_lt] at notBelow
      obtain ⟨rfl, atLeastOne⟩ := notBelow
      simp only [read, Bool.false_and, Bool.false_eq_true, if_false, Option.some.injEq] at times
      rw [← times]
      apply wholeNearest_ne_zero
      have wholeKept := Nat.pos_iff_ne_zero.mp (one_le_significant nonzero)
      exact two_pow_le_significant_mul (significant whole).2 wholeKept atLeastOne

end Binary64

namespace Policy

/-- The base interval of a policy without a defect is not zero. -/
theorem baseInterval_ne_zero {policy : Policy} (usable : policy.defect? = none) :
    policy.baseInterval ≠ 0 := by
  unfold defect? at usable
  split at usable
  · cases usable
  · next nonzero => exact Nat.mul_ne_zero nonzero (by decide)

/-- Without a defect, no interval that follows another one is zero. -/
theorem nextInterval_ne_zero {policy : Policy} (usable : policy.defect? = none)
    {current next : Nat} (nonzero : current ≠ 0)
    (follows : policy.nextInterval current = some next) : next ≠ 0 := by
  have notBelow : policy.backoff.isBelowOne = false := by
    unfold defect? at usable
    split at usable
    · cases usable
    · split at usable
      · cases usable
      · next sane =>
          rw [Bool.not_eq_true, Bool.or_eq_false_iff] at sane
          exact sane.2
  exact Binary64.timesWhole_ne_zero notBelow nonzero (Option.filter_eq_some_iff.mp follows).1

end Policy

end Redelivery
