import Redelivery.Time

/-!
# Tasks that wait for their instants

An agenda holds tasks until their instants come.  Tasks wait in the order of
their instants; those of one instant wait in the order in which they were
accepted.  Accepting a task gives out a ticket, with which the task can be
cancelled as long as it has not been taken out.  A closed agenda accepts
nothing any more and keeps what it holds.
-/

namespace Redelivery.Schedule

/-- Why a task is not accepted. -/
inductive Refusal where
  /-- The agenda is closed. -/
  | shutdown
  /-- Nothing is there that could run timers. -/
  | noRuntime
  /-- The instant cannot be represented. -/
  | outOfRange
  deriving DecidableEq, Repr

/-- The refusal in words. -/
def Refusal.message : Refusal → String
  | shutdown => "Scheduler has been shut down"
  | noRuntime => "No tokio runtime available for retransmission timers"
  | outOfRange => "Retry instant out of range"

/-- A task with its instant and its ticket. -/
structure Entry (α : Type) where
  due : Nat
  ticket : Nat
  task : α
  deriving DecidableEq, Repr

/-- Tasks in the order of their instants. -/
structure Agenda (α : Type) where
  entries : List (Entry α)
  nextTicket : Nat
  closed : Bool
  deriving DecidableEq, Repr

namespace Agenda

variable {α : Type}

/-- An open agenda without a task. -/
def empty : Agenda α :=
  { entries := [], nextTicket := 0, closed := false }

/-- Put an entry behind all entries that are not due after it. -/
def place (entry : Entry α) : List (Entry α) → List (Entry α)
  | [] => [entry]
  | next :: rest =>
      if next.due ≤ entry.due then next :: place entry rest
      else entry :: next :: rest

/-- Accept a task and give out its ticket. -/
def schedule (agenda : Agenda α) (due : Nat) (task : α) :
    Except Refusal (Nat × Agenda α) :=
  if agenda.closed then .error .shutdown
  else
    let entry := { due, ticket := agenda.nextTicket, task }
    .ok (agenda.nextTicket,
      { agenda with
        entries := place entry agenda.entries
        nextTicket := agenda.nextTicket + 1 })

/-- Accept a task that a timer will start.  Nothing can run the timer unless the
agenda is hosted; a closed agenda says so first. -/
def scheduleTimer (agenda : Agenda α) (hosted : Bool) (due : Nat) (task : α) :
    Except Refusal (Nat × Agenda α) :=
  if !agenda.closed && !hosted then .error .noRuntime else agenda.schedule due task

/-- Take the task of a ticket off the agenda, if it still waits. -/
def cancel (agenda : Agenda α) (ticket : Nat) : Agenda α :=
  { agenda with entries := agenda.entries.filter fun entry => entry.ticket ≠ ticket }

/-- The waiting task of a ticket. -/
def find? (agenda : Agenda α) (ticket : Nat) : Option (Entry α) :=
  agenda.entries.find? fun entry => entry.ticket = ticket

/-- Take out the first task that is due. -/
def takeDue? (agenda : Agenda α) (now : Nat) : Option (Entry α × Agenda α) :=
  match agenda.entries with
  | [] => none
  | entry :: rest =>
      if entry.due ≤ now then some (entry, { agenda with entries := rest }) else none

/-- Take out and run the tasks that are due by an instant, those included that are
accepted meanwhile, and count them.  A task works on the agenda and on a state.
There is no result if more than `fuel` tasks run. -/
def catchUp {σ : Type} (run : α → Agenda α × σ → Agenda α × σ) (upTo : Nat) :
    (fuel : Nat) → Agenda α × σ → Option (Nat × Agenda α × σ)
  | fuel, (agenda, state) =>
      match agenda.takeDue? upTo with
      | none => some (0, agenda, state)
      | some (entry, rest) =>
          match fuel with
          | 0 => none
          | fuel + 1 =>
              (catchUp run upTo fuel (run entry.task (rest, state))).map fun (ran, final) =>
                (ran + 1, final)

/-- Accept nothing any more. -/
def close (agenda : Agenda α) : Agenda α :=
  { agenda with closed := true }

/-- The number of waiting tasks. -/
def size (agenda : Agenda α) : Nat :=
  agenda.entries.length

/-- Whether no task waits. -/
def isEmpty (agenda : Agenda α) : Bool :=
  agenda.entries.isEmpty

/-- The instant of the first waiting task. -/
def nextDue? (agenda : Agenda α) : Option Nat :=
  agenda.entries.head?.map Entry.due

/-- A short description: how many tasks wait, and whether more are accepted. -/
def debugText (agenda : Agenda α) : String :=
  "ManualScheduler \x7b scheduled: " ++ toString agenda.size ++ ", shutdown: " ++
    toString agenda.closed ++ " \x7d"

/-! ## Laws -/

/-- A task that is accepted joins the tasks that wait, and no other one leaves. -/
theorem mem_place_iff {entry other : Entry α} {entries : List (Entry α)} :
    other ∈ place entry entries ↔ other = entry ∨ other ∈ entries := by
  induction entries with
  | nil => simp [place]
  | cons next rest inductionHypothesis =>
      by_cases inOrder : next.due ≤ entry.due
      · simp only [place, inOrder, if_true, List.mem_cons, inductionHypothesis]
        exact or_left_comm
      · simp only [place, inOrder, if_false, List.mem_cons]

/-- Tasks wait in the order of their instants. -/
theorem pairwise_place {entry : Entry α} {entries : List (Entry α)}
    (sorted : entries.Pairwise fun first second => first.due ≤ second.due) :
    (place entry entries).Pairwise fun first second => first.due ≤ second.due := by
  induction entries with
  | nil => exact List.pairwise_singleton _ _
  | cons next rest inductionHypothesis =>
      obtain ⟨nextFirst, restSorted⟩ := List.pairwise_cons.mp sorted
      by_cases inOrder : next.due ≤ entry.due
      · simp only [place, inOrder, if_true]
        refine List.pairwise_cons.mpr ⟨?_, inductionHypothesis restSorted⟩
        intro other present
        rcases mem_place_iff.mp present with rfl | inRest
        · exact inOrder
        · exact nextFirst other inRest
      · simp only [place, inOrder, if_false]
        refine List.pairwise_cons.mpr ⟨?_, sorted⟩
        intro other present
        rcases List.mem_cons.mp present with rfl | inRest
        · omega
        · have := nextFirst other inRest
          omega

end Agenda

end Redelivery.Schedule
