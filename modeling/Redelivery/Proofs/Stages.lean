import Redelivery.Proofs.Agendas
import Redelivery.Schedule.Plan

/-!
# Catching up in stages

A queue may catch up at once or in stages: it runs the same tasks in the same order, whatever they
schedule and cancel, as long as they do not ask by which instant the queue catches up.
-/

namespace Redelivery.Schedule

namespace Agenda

variable {α σ : Type} {run : α → Agenda α × σ → Agenda α × σ} {upTo fuel count : Nat}
  {start final : Agenda α × σ}

/-- One task after the other is taken out and runs, until none is due any more. -/
inductive CatchesUp (run : α → Agenda α × σ → Agenda α × σ) (upTo : Nat) :
    Agenda α × σ → List (Entry α) → Agenda α × σ → Prop where
  | done {agenda : Agenda α} {state : σ} : agenda.takeDue? upTo = none →
      CatchesUp run upTo (agenda, state) [] (agenda, state)
  | next {agenda rest : Agenda α} {state : σ} {entry : Entry α} {taken : List (Entry α)}
      {final : Agenda α × σ} : agenda.takeDue? upTo = some (entry, rest) →
      CatchesUp run upTo (run entry.task (rest, state)) taken final →
      CatchesUp run upTo (agenda, state) (entry :: taken) final

theorem catchUp_of_none {agenda : Agenda α} (rest : agenda.takeDue? upTo = none) (fuel : Nat)
    (state : σ) : catchUp run upTo fuel (agenda, state) = some (0, agenda, state) := by
  rw [catchUp]
  simp only [rest]

theorem catchUp_zero_of_some {agenda rest : Agenda α} {entry : Entry α}
    (taken : agenda.takeDue? upTo = some (entry, rest)) (state : σ) :
    catchUp run upTo 0 (agenda, state) = none := by
  rw [catchUp]
  simp only [taken]

theorem catchUp_succ_of_some {agenda rest : Agenda α} {entry : Entry α}
    (taken : agenda.takeDue? upTo = some (entry, rest)) (fuel : Nat) (state : σ) :
    catchUp run upTo (fuel + 1) (agenda, state) =
      (catchUp run upTo fuel (run entry.task (rest, state))).map fun (ran, final) =>
        (ran + 1, final) := by
  rw [catchUp]
  simp only [taken]

/-- A queue catches up as soon as it may run as many tasks as it has to. -/
theorem catchUp_eq_some_iff :
    catchUp run upTo fuel start = some (count, final) ↔
      ∃ taken, CatchesUp run upTo start taken final ∧ taken.length = count ∧ count ≤ fuel := by
  constructor
  · intro ends
    induction fuel using Nat.strongRecOn generalizing start count with
    | ind fuel inductionHypothesis =>
        obtain ⟨agenda, state⟩ := start
        cases next : agenda.takeDue? upTo with
        | none =>
            rw [catchUp_of_none next] at ends
            cases ends
            exact ⟨[], .done next, rfl, Nat.zero_le _⟩
        | some taken =>
            cases fuel with
            | zero =>
                rw [catchUp_zero_of_some next] at ends
                cases ends
            | succ fuel =>
                rw [catchUp_succ_of_some next] at ends
                obtain ⟨⟨fewer, last⟩, further, counted⟩ := Option.map_eq_some_iff.mp ends
                cases counted
                obtain ⟨others, catchesUp, rfl, within⟩ :=
                  inductionHypothesis fuel (Nat.lt_succ_self fuel) further
                exact ⟨taken.1 :: others, .next next catchesUp, rfl, Nat.succ_le_succ within⟩
  · rintro ⟨taken, catchesUp, rfl, within⟩
    induction catchesUp generalizing fuel with
    | done rest => exact catchUp_of_none rest fuel _
    | next isTaken _ inductionHypothesis =>
        obtain ⟨fewer, rfl⟩ := Nat.exists_eq_add_of_le' (Nat.lt_of_lt_of_le (Nat.succ_pos _) within)
        rw [catchUp_succ_of_some isTaken, inductionHypothesis (Nat.le_of_succ_le_succ within)]
        rfl

/-- Whoever catches up by an instant may catch up by an earlier one first. -/
theorem CatchesUp.split {first second : Nat} (inOrder : first ≤ second) {taken : List (Entry α)}
    (catchesUp : CatchesUp run second start taken final) :
    ∃ middle earlier later, CatchesUp run first start earlier middle ∧
      CatchesUp run second middle later final ∧ earlier ++ later = taken := by
  induction catchesUp with
  | done rest =>
      exact ⟨_, [], [], .done (takeDue?_of_none rest inOrder), .done rest, rfl⟩
  | @next agenda rest state entry taken final isTaken further inductionHypothesis =>
      have sooner := takeDue?_of_some isTaken first
      split at sooner
      · obtain ⟨middle, earlier, later, before, after, rfl⟩ := inductionHypothesis
        exact ⟨middle, entry :: earlier, later, .next sooner before, after, rfl⟩
      · exact ⟨_, [], entry :: taken, .done sooner, .next isTaken further, rfl⟩

/-- A queue that catches up by an instant ends as it does if it has caught up by an earlier one
before, after the same tasks in the same order. -/
theorem catchUp_in_stages {first second : Nat} (inOrder : first ≤ second)
    (ends : catchUp run second fuel start = some (count, final)) :
    ∃ middle earlier later,
      catchUp run first fuel start = some (earlier.length, middle) ∧
      catchUp run second fuel middle = some (later.length, final) ∧
      earlier.length + later.length = count ∧
      CatchesUp run first start earlier middle ∧
      CatchesUp run second middle later final ∧
      CatchesUp run second start (earlier ++ later) final := by
  obtain ⟨taken, catchesUp, rfl, within⟩ := catchUp_eq_some_iff.mp ends
  obtain ⟨middle, earlier, later, before, after, rfl⟩ := catchesUp.split inOrder
  have counted : earlier.length + later.length = (earlier ++ later).length :=
    List.length_append.symm
  refine ⟨middle, earlier, later, ?_, ?_, counted, before, after, catchesUp⟩
  · exact catchUp_eq_some_iff.mpr ⟨earlier, before, rfl, by omega⟩
  · exact catchUp_eq_some_iff.mpr ⟨later, after, rfl, by omega⟩

end Agenda

namespace Plan

/-- Three tasks.  The first one schedules a task that is due before it and one that is due after
it, and cancels the second one. -/
def entangled : Agenda Task × Ledger :=
  let overdue := .mk "overdue" (.at 5) [] []
  let further := .mk "further" (.after 10) [] ["last"]
  let first := .mk "first" (.at 10) [overdue, further] ["second"]
  ({ entries := [⟨10, 0, first⟩, ⟨20, 1, .mk "second" (.at 20) [] []⟩,
        ⟨30, 2, .mk "last" (.at 30) [] []⟩]
     nextTicket := 3
     closed := false },
    { handles := ⟨[("first", 0), ("second", 1), ("last", 2)]⟩
      firings := []
      starting := [] })

end Plan

theorem Agenda.catchUp_in_stages_of_entangled :
    12 ≤ 28 ∧
    ∃ final, Agenda.catchUp (Plan.runTask false 18) 28 3 Plan.entangled = some (3, final) ∧
      ∃ middle earlier later,
        Agenda.catchUp (Plan.runTask false 18) 12 3 Plan.entangled =
          some (earlier.length, middle) ∧
        Agenda.catchUp (Plan.runTask false 18) 28 3 middle = some (later.length, final) ∧
        earlier.length + later.length = 3 ∧
        Agenda.CatchesUp (Plan.runTask false 18) 12 Plan.entangled earlier middle ∧
        Agenda.CatchesUp (Plan.runTask false 18) 28 middle later final ∧
        Agenda.CatchesUp (Plan.runTask false 18) 28 Plan.entangled (earlier ++ later) final :=
  ⟨by decide, _, rfl, Agenda.catchUp_in_stages (by decide) rfl⟩

end Redelivery.Schedule
