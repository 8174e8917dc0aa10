import Redelivery.Binary64.Layout
import Redelivery.Binary64.Product
import Redelivery.Time

/-!
# Retry policies

A policy fixes when an unacknowledged message is resent: the delay before the
first resend, the factor by which the delay grows after every resend, and how
many resends there may be.  The interval that follows another one is the
product with the factor, in whole nanoseconds, as long as it stays below
`2 ^ 64` of them.
-/

namespace Redelivery

/-- A bound on the number of resends of one message. -/
inductive RetryLimit where
  | unlimited
  | limited (most : Nat)
  deriving DecidableEq, Repr

namespace RetryLimit

/-- The largest bound that can be written down. -/
def greatest : Nat :=
  Nat.pow 2 32 - 1

/-- A signed count as a bound: negative counts mean that there is none, and
counts that are too large are cut off. -/
def ofCount (count : Int) : RetryLimit :=
  if count < 0 then .unlimited else .limited (min count.toNat greatest)

/-- Whether another resend may follow `retries` completed ones. -/
def allows (limit : RetryLimit) (retries : Nat) : Bool :=
  match limit with
  | unlimited => true
  | limited most => decide (retries < most)

@[simp]
theorem allows_unlimited (retries : Nat) : unlimited.allows retries = true :=
  rfl

@[simp]
theorem allows_limited_eq_true_iff {most retries : Nat} :
    (limited most).allows retries = true ↔ retries < most := by
  simp [allows]

end RetryLimit

/-- The retransmission timing of one message. -/
structure Policy where
  /-- Milliseconds between sending the message and its first resend. -/
  baseMillis : Nat
  /-- The factor applied to the interval after every resend. -/
  backoff : Binary64
  /-- The bound on the number of resends. -/
  limit : RetryLimit
  deriving DecidableEq, Repr

namespace Policy

/-- The factor of one, under which the interval never grows. -/
def steady : Binary64 :=
  ⟨0x3ff0000000000000⟩

/-- The factor of two. -/
def doubling : Binary64 :=
  ⟨0x4000000000000000⟩

/-- Three seconds, doubled after every resend, without a bound. -/
def standard : Policy :=
  { baseMillis := 3000, backoff := doubling, limit := .unlimited }

/-- The largest number of milliseconds that a policy can hold. -/
def greatestMillis : Nat :=
  Nat.pow 2 64 - 1

/-- A policy from a base interval, which is rounded up to whole
milliseconds. -/
def ofInterval (base : Nat) (backoff : Binary64) (limit : RetryLimit) : Policy :=
  { baseMillis := min (Time.ceilMillis base) greatestMillis, backoff, limit }

/-- Retry after every `base` without growth. -/
def constant (base : Nat) (limit : RetryLimit) : Policy :=
  ofInterval base steady limit

/-- Double the interval after every resend. -/
def exponential (base : Nat) (limit : RetryLimit) : Policy :=
  ofInterval base doubling limit

/-- Why a policy cannot drive a retry schedule. -/
inductive Defect where
  | zeroInterval
  | invalidBackoff (backoff : Binary64)
  deriving DecidableEq, Repr

/-- What is wrong with a policy, in words. -/
def Defect.message : Defect → String
  | zeroInterval => "base retransmission interval must be greater than zero"
  | invalidBackoff backoff =>
      "backoff multiplier must be a finite number >= 1.0, got " ++
        Binary64.Layout.message.render backoff

/-- The first defect of a policy: the interval is looked at before the
factor. -/
def defect? (policy : Policy) : Option Defect :=
  if policy.baseMillis = 0 then some .zeroInterval
  else if !policy.backoff.isFinite || policy.backoff.isBelowOne then
    some (.invalidBackoff policy.backoff)
  else none

/-- The delay between sending the message and its first resend. -/
def baseInterval (policy : Policy) : Nat :=
  Time.ofMillis policy.baseMillis

/-- Intervals stay below this many nanoseconds. -/
def intervalBound : Nat :=
  Nat.pow 2 64

/-- The interval that follows `current`; there is none once it overflows. -/
def nextInterval (policy : Policy) (current : Nat) : Option Nat :=
  (policy.backoff.timesWhole current).filter (· < intervalBound)

/-- The interval between the first resend and the second, already scaled
once. -/
def initialInterval (policy : Policy) : Option Nat :=
  policy.nextInterval policy.baseInterval

/-- Whether another resend may follow `retries` completed ones. -/
def shouldRetry (policy : Policy) (retries : Nat) : Bool :=
  policy.limit.allows retries

/-- The intervals after `current`, at most `count` of them; an overflow ends
the list and is its last element. -/
def intervalsAfter (policy : Policy) (current : Nat) : (count : Nat) → List (Option Nat)
  | 0 => []
  | count + 1 =>
      match policy.nextInterval current with
      | none => [none]
      | some next => some next :: policy.intervalsAfter next count

end Policy

end Redelivery
