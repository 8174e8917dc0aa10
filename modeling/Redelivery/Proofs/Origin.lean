import Redelivery.Proofs.Moves

/-!
# What stays with a message

A message keeps what it is registered with: its sequence and its number, its policy, its
owner and where it goes.  Once it has ended, the first ending stands.  Whatever happens to
a candidate, both persist.
-/

namespace Redelivery

/-- What a candidate is registered with. -/
structure Origin where
  sequence : SequenceKey
  number : Nat
  policy : Policy
  owner : Option String
  addressable : Bool
  routing : Executor.Routing

namespace Candidate

/-- What the candidate was registered with. -/
def origin (candidate : Candidate) : Origin :=
  { sequence := candidate.sequence
    number := candidate.number
    policy := candidate.policy
    owner := candidate.owner
    addressable := candidate.addressable
    routing := candidate.routing }

/-- A candidate is in a terminal phase exactly if it has ended. -/
theorem isTerminal_phase (candidate : Candidate) :
    candidate.phase.isTerminal = candidate.ending.isSome := by
  unfold phase
  cases candidate.ending with
  | some ending => cases ending <;> rfl
  | none =>
      simp only
      repeat' split
      all_goals rfl

theorem ending_eq_none_of_phase {candidate : Candidate}
    (active : candidate.phase.isTerminal = false) : candidate.ending = none := by
  rw [isTerminal_phase] at active
  exact Option.isNone_iff_eq_none.mp (Option.isSome_eq_false_iff.mp active)

/-- A candidate that was given up is in the phase that says so. -/
theorem phase_eq_cancelled {candidate : Candidate} (ended : candidate.ending = some .cancelled) :
    candidate.phase = .cancelled := by
  unfold phase
  rw [ended]

/-- What stays with a candidate. -/
structure Persists (candidate later : Candidate) : Prop where
  origin : later.origin = candidate.origin
  /-- The first ending stands. -/
  ending : ∀ ending, candidate.ending = some ending → later.ending = some ending

theorem Persists.sequence {candidate later : Candidate} (persists : candidate.Persists later) :
    later.sequence = candidate.sequence :=
  congrArg Origin.sequence persists.origin

theorem Persists.number {candidate later : Candidate} (persists : candidate.Persists later) :
    later.number = candidate.number :=
  congrArg Origin.number persists.origin

theorem Persists.policy {candidate later : Candidate} (persists : candidate.Persists later) :
    later.policy = candidate.policy :=
  congrArg Origin.policy persists.origin

theorem Persists.refl (candidate : Candidate) : candidate.Persists candidate :=
  ⟨rfl, fun _ => id⟩

theorem persists_handedOver (candidate : Candidate) : candidate.Persists candidate.handedOver :=
  ⟨rfl, fun _ => id⟩

theorem persists_completed (now : Nat) (candidate : Candidate) :
    candidate.Persists (candidate.completed now) := by
  rcases candidate.completed_eq now with ⟨_, _, _, _, _, completed⟩
  rw [completed]
  exact ⟨rfl, fun _ => id⟩

theorem persists_abandon (candidate : Candidate) (requestAck : Bool) :
    candidate.Persists (candidate.abandon requestAck) :=
  ⟨rfl, fun _ => id⟩

theorem persists_finished (ending : Ending) (candidate : Candidate) :
    candidate.Persists (candidate.finished ending) :=
  ⟨rfl, fun _ ended => ending_finish_of_ending ended ending⟩

theorem persists_paused (candidate : Candidate) : candidate.Persists candidate.paused := by
  rcases candidate.paused_eq with ⟨_, paused, _⟩
  rw [paused]
  exact ⟨rfl, fun _ => id⟩

theorem persists_woken (now : Nat) (candidate : Candidate) :
    candidate.Persists (candidate.woken now) := by
  rcases candidate.woken_eq now with ⟨_, _, woken⟩
  rw [woken]
  exact ⟨rfl, fun _ => id⟩

theorem spansTurns_persists (now : Nat) : SpansTurns now Persists where
  refl := .refl
  handedOver := persists_handedOver
  completed := persists_completed now
  abandoned requestAck candidate := persists_abandon candidate requestAck
  finished := persists_finished
  paused := persists_paused
  woken := persists_woken now

end Candidate

namespace Share

open Candidate

/-- No activity registers or forgets a candidate, or changes what stays with it. -/
theorem Step.persists {now : Nat} {before after : Share} (step : Step now before after) :
    Option.Rel Persists before.candidate after.candidate :=
  step.spans (spansTurns_persists now).toSpansSteps

/-- No turn forgets a candidate, or changes what stays with it. -/
theorem Turn.persists {now : Nat} {before after : Share} (turn : Turn now before after)
    {candidate : Candidate} (found : before.candidate = some candidate) :
    ∃ later, after.candidate = some later ∧ candidate.Persists later :=
  turn.spans (spansTurns_persists now) found

end Share

namespace Outline

/-- The number of the message of an identity. -/
def numberOf (outline : Outline) (identity : Nat) : Option Nat :=
  (outline.candidates[identity]?).map Candidate.number

/-- What lasts of a candidate lasts of all of them. -/
theorem numberOf_modifyAll {change : Candidate → Candidate}
    (persists : ∀ candidate : Candidate, candidate.Persists (change candidate))
    (outline : Outline) (identities : List Nat) (identity : Nat) :
    (outline.modifyAll identities change).numberOf identity = outline.numberOf identity :=
  view_modifyAll (fun candidate => (persists candidate).number) outline identities identity

/-- A message keeps its number. -/
theorem numberOf_of_step {before after : Outline} {identity now : Nat}
    (step : Share.Step now (before.share identity) (after.share identity)) :
    after.numberOf identity = before.numberOf identity := by
  have persists : Option.Rel Candidate.Persists before.candidates[identity]?
      after.candidates[identity]? := step.persists
  rw [numberOf, numberOf]
  generalize before.candidates[identity]? = was at persists
  generalize after.candidates[identity]? = is at persists
  cases persists with
  | none => rfl
  | some persists => exact congrArg some persists.number

end Outline

end Redelivery
