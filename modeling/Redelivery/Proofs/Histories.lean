/-!
# Histories

What moves from state to state, and tells what happens in each of its moves, has histories: the logs
of what happened, with the states they lead to.  Moves of some kind only may be allowed in them.
-/

namespace Redelivery

/-- Something that moves if it can. -/
structure Machine (σ μ ε : Type) where
  first : σ
  move? : σ → μ → Option σ
  /-- What happens in the course of a move. -/
  events : σ → μ → List ε

namespace Machine

variable {σ μ ε : Type} {machine : Machine σ μ ε}

/-- What happened from the start to a state, in moves of a kind. -/
inductive History (machine : Machine σ μ ε) (allowed : σ → μ → Prop) : List ε → σ → Prop where
  | start : History machine allowed [] machine.first
  | extend {log : List ε} {state after : σ} {move : μ} :
      History machine allowed log state → allowed state move →
      machine.move? state move = some after →
      History machine allowed (log ++ machine.events state move) after

/-- What happens in the course of several moves, and what it leads to. -/
def play (machine : Machine σ μ ε) : List μ → σ → Option (List ε × σ)
  | [], state => some ([], state)
  | move :: rest, state =>
      (machine.move? state move).bind fun after =>
        (machine.play rest after).map fun (later, last) =>
          (machine.events state move ++ later, last)

theorem play_cons_eq_some_iff {move : μ} {rest : List μ} {state last : σ} {log : List ε} :
    machine.play (move :: rest) state = some (log, last) ↔
      ∃ after later, machine.move? state move = some after ∧
        machine.play rest after = some (later, last) ∧
        machine.events state move ++ later = log := by
  simp [play, Option.bind_eq_some_iff]

/-- All of several moves are of a kind. -/
def Allows (machine : Machine σ μ ε) (allowed : σ → μ → Prop) : List μ → σ → Prop
  | [], _ => True
  | move :: rest, state =>
      allowed state move ∧ (machine.move? state move).elim True (machine.Allows allowed rest)

theorem allows_cons {allowed : σ → μ → Prop} {move : μ} {rest : List μ} {state after : σ}
    (moved : machine.move? state move = some after) (isAllowed : allowed state move)
    (restAllowed : machine.Allows allowed rest after) :
    machine.Allows allowed (move :: rest) state := by
  refine ⟨isAllowed, ?_⟩
  rw [moved]
  exact restAllowed

instance decidableAllows (machine : Machine σ μ ε) (allowed : σ → μ → Prop)
    [∀ state move, Decidable (allowed state move)] :
    (moves : List μ) → (state : σ) → Decidable (machine.Allows allowed moves state)
  | [], _ => .isTrue trivial
  | move :: rest, state =>
      have : Decidable ((machine.move? state move).elim True (machine.Allows allowed rest)) :=
        match machine.move? state move with
        | none => .isTrue trivial
        | some after => decidableAllows machine allowed rest after
      inferInstanceAs (Decidable (_ ∧ _))

theorem History.play {allowed : σ → μ → Prop} {log later : List ε} {state last : σ}
    {moves : List μ} (history : History machine allowed log state)
    (allows : machine.Allows allowed moves state)
    (played : machine.play moves state = some (later, last)) :
    History machine allowed (log ++ later) last := by
  induction moves generalizing log state later with
  | nil =>
      cases played
      rwa [List.append_nil]
  | cons move rest inductionHypothesis =>
      obtain ⟨middle, _, moved, isRest, rfl⟩ := play_cons_eq_some_iff.mp played
      obtain ⟨isAllowed, restAllowed⟩ := allows
      rw [moved] at restAllowed
      rw [← List.append_assoc]
      exact inductionHypothesis (history.extend isAllowed moved) restAllowed isRest

/-! ## Moves of any kind -/

theorem allows_anything (machine : Machine σ μ ε) (moves : List μ) (state : σ) :
    machine.Allows (fun _ _ => True) moves state := by
  induction moves generalizing state with
  | nil => trivial
  | cons move rest inductionHypothesis =>
      refine ⟨trivial, ?_⟩
      cases machine.move? state move with
      | none => trivial
      | some after => exact inductionHypothesis after

theorem play_append {early late : List μ} {first middle last : σ} {log later : List ε}
    (earlyPlayed : machine.play early first = some (log, middle))
    (latePlayed : machine.play late middle = some (later, last)) :
    machine.play (early ++ late) first = some (log ++ later, last) := by
  induction early generalizing first log with
  | nil =>
      cases earlyPlayed
      exact latePlayed
  | cons move rest inductionHypothesis =>
      obtain ⟨after, between, moved, restPlayed, rfl⟩ := play_cons_eq_some_iff.mp earlyPlayed
      exact play_cons_eq_some_iff.mpr ⟨after, between ++ later, moved,
        inductionHypothesis restPlayed, (List.append_assoc _ _ _).symm⟩

/-- Some moves lead from one state to another. -/
def Leads (machine : Machine σ μ ε) (first last : σ) : Prop :=
  ∃ moves log, machine.play moves first = some (log, last)

theorem Leads.refl (state : σ) : machine.Leads state state :=
  ⟨[], [], rfl⟩

theorem Leads.trans {first middle last : σ} (early : machine.Leads first middle)
    (late : machine.Leads middle last) : machine.Leads first last := by
  obtain ⟨_, _, earlyPlayed⟩ := early
  obtain ⟨_, _, latePlayed⟩ := late
  exact ⟨_, _, play_append earlyPlayed latePlayed⟩

theorem Leads.of_move {state after : σ} (move : μ) (moved : machine.move? state move = some after) :
    machine.Leads state after :=
  ⟨[move], _, play_cons_eq_some_iff.mpr ⟨after, [], moved, rfl, rfl⟩⟩

/-- Where moves lead from a history, a longer one leads. -/
theorem Leads.exists_history {log : List ε} {state last : σ} (leads : machine.Leads state last)
    (history : History machine (fun _ _ => True) log state) :
    ∃ later, History machine (fun _ _ => True) (log ++ later) last := by
  obtain ⟨moves, later, played⟩ := leads
  exact ⟨later, history.play (machine.allows_anything moves state) played⟩

/-! ## What holds throughout -/

/-- What holds at the start and is kept by every allowed move holds throughout. -/
theorem History.preserves {allowed : σ → μ → Prop} {log : List ε} {state : σ}
    {holds : List ε → σ → Prop} (history : History machine allowed log state)
    (atFirst : holds [] machine.first)
    (kept : ∀ {log state after move}, holds log state → allowed state move →
      machine.move? state move = some after →
      holds (log ++ machine.events state move) after) : holds log state := by
  induction history with
  | start => exact atFirst
  | extend _ isAllowed moved inductionHypothesis => exact kept inductionHypothesis isAllowed moved

end Machine

end Redelivery
