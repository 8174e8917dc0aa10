import Redelivery.Proofs.Bookings

/-!
# Arming a timer

Arming the timer of a candidate that has none changes that candidate, the agenda and, where timers
ring by themselves, the activities to be started.  Whether it does is decided by what drives the
registry and by the agenda, and by nothing else.
-/

namespace Redelivery

/-! ## Agendas -/

namespace Schedule.Agenda

variable {α : Type}

/-- The agenda with another task. -/
def enter (agenda : Agenda α) (due : Nat) (task : α) : Agenda α :=
  { agenda with
    entries := place ⟨due, agenda.nextTicket, task⟩ agenda.entries
    nextTicket := agenda.nextTicket + 1 }

/-- An open agenda accepts every task. -/
theorem schedule_of_isOpen {agenda : Agenda α} (isOpen : agenda.closed = false) (due : Nat)
    (task : α) : agenda.schedule due task = .ok (agenda.nextTicket, agenda.enter due task) := by
  rw [schedule, if_neg (by simp [isOpen])]
  rfl

theorem schedule_of_closed {agenda : Agenda α} (closed : agenda.closed = true) (due : Nat)
    (task : α) : agenda.schedule due task = .error .shutdown :=
  if_pos closed

/-- A task is placed behind those that are not due after it. -/
theorem place_eq (entry : Entry α) (entries : List (Entry α)) :
    place entry entries =
      entries.takeWhile (fun other => other.due ≤ entry.due) ++
        entry :: entries.dropWhile (fun other => other.due ≤ entry.due) := by
  induction entries with
  | nil => rfl
  | cons next rest inductionHypothesis =>
      by_cases inOrder : next.due ≤ entry.due
      · simp only [place, if_pos inOrder, inductionHypothesis, List.takeWhile_cons,
          List.dropWhile_cons, decide_eq_true inOrder, if_true, List.cons_append]
      · simp only [place, if_neg inOrder, List.takeWhile_cons, List.dropWhile_cons,
          decide_eq_false inOrder, Bool.false_eq_true, if_false, List.nil_append]

/-- Where a new task is left out, the others are as before. -/
theorem filter_place {entry : Entry α} {kept : Entry α → Bool} (leftOut : kept entry = false)
    (entries : List (Entry α)) : (place entry entries).filter kept = entries.filter kept := by
  rw [place_eq, List.filter_append, List.filter_cons_of_neg (by simp [leftOut]),
    ← List.filter_append, List.takeWhile_append_dropWhile]

end Schedule.Agenda

/-! ## Registries -/

namespace Registry

theorem modify_modify (registry : Registry) (identity : Nat)
    (first second : Candidate → Candidate) :
    (registry.modify identity first).modify identity second =
      registry.modify identity (second ∘ first) := by
  simp [modify, List.modify_modify_eq]

/-- Whether whatever drives the registry accepts a timer. -/
def acceptsTimers (registry : Registry) : Bool :=
  !registry.agenda.closed &&
    match registry.driving with
    | .byHand => false
    | .byQueue => true
    | .byTimers hosted => hosted

/-- The activity of a timer that rings by itself. -/
def bells (registry : Registry) (ticket : Nat) : List Program :=
  match registry.driving with
  | .byHand | .byQueue => []
  | .byTimers _ => [[.ring ticket]]

/-- A timer that is accepted. -/
theorem acceptAlarm_of_accepts {registry : Registry} (accepts : registry.acceptsTimers = true)
    (due : Nat) (alarm : Alarm) :
    registry.acceptAlarm due alarm = .ok (some registry.agenda.nextTicket,
      { registry with
        agenda := registry.agenda.enter due alarm
        starting := registry.starting ++ registry.bells registry.agenda.nextTicket }) := by
  obtain ⟨notClosed, driven⟩ := Bool.and_eq_true _ _ ▸ accepts
  have isOpen : registry.agenda.closed = false := by simpa using notClosed
  have scheduled := Schedule.Agenda.schedule_of_isOpen isOpen due alarm
  unfold acceptAlarm bells
  cases driving : registry.driving with
  | byHand =>
      rw [driving] at driven
      cases driven
  | byQueue => simp only [scheduled, Except.map, List.append_nil]
  | byTimers hosted =>
      obtain rfl : hosted = true := by
        rw [driving] at driven
        exact driven
      simp only [Schedule.Agenda.scheduleTimer, Bool.not_true, Bool.and_false, Bool.false_eq_true,
        if_false, scheduled, Except.map, start]

/-- A timer that is not accepted: nobody takes note of it, or it is refused. -/
theorem acceptAlarm_of_refuses {registry : Registry} (refuses : registry.acceptsTimers = false)
    (due : Nat) (alarm : Alarm) :
    registry.acceptAlarm due alarm = .ok (none, registry) ∨
      ∃ refusal, registry.acceptAlarm due alarm = .error refusal := by
  unfold acceptAlarm
  cases driving : registry.driving with
  | byHand => exact .inl rfl
  | byQueue =>
      have closed : registry.agenda.closed = true := by simpa [acceptsTimers, driving] using refuses
      simp only [Schedule.Agenda.schedule_of_closed closed]
      exact .inr ⟨_, rfl⟩
  | byTimers hosted =>
      cases closed : registry.agenda.closed with
      | true =>
          simp only [Schedule.Agenda.scheduleTimer, closed, Bool.not_true, Bool.false_and,
            Bool.false_eq_true, if_false, Schedule.Agenda.schedule_of_closed closed]
          exact .inr ⟨_, rfl⟩
      | false =>
          obtain rfl : hosted = false := by simpa [acceptsTimers, driving, closed] using refuses
          simp only [Schedule.Agenda.scheduleTimer, closed, Bool.not_false, Bool.and_self, if_true]
          exact .inr ⟨_, rfl⟩

/-- The registry with a timer of a candidate that had none. -/
def armed (registry : Registry) (identity due : Nat) (generation : UInt64) : Registry :=
  { registry with
    candidates := registry.candidates.modify identity fun candidate =>
      candidate.disarm.withTimer (some registry.agenda.nextTicket)
    agenda := registry.agenda.enter due ⟨identity, generation⟩
    starting := registry.starting ++ registry.bells registry.agenda.nextTicket }

/-- Without a timer there is none to be taken off the agenda. -/
theorem dropTimer_of_timerless {registry : Registry} {identity : Nat} {candidate : Candidate}
    (found : registry.candidate? identity = some candidate) (timerless : candidate.timer = none) :
    registry.dropTimer identity = registry := by
  rw [dropTimer, found, Option.bind_some, timerless]

section

variable {registry : Registry} {identity : Nat} {candidate : Candidate}

theorem disarm_of_timerless (found : registry.candidate? identity = some candidate)
    (timerless : candidate.timer = none) :
    registry.disarm identity = registry.modify identity Candidate.disarm := by
  rw [disarm, dropTimer_of_timerless found timerless]

/-- What is asked for a timer, and what becomes of the candidate. -/
theorem arm_eq (found : registry.candidate? identity = some candidate)
    (timerless : candidate.timer = none) (due : Nat) :
    registry.arm identity due =
      match (registry.modify identity Candidate.disarm).acceptAlarm due
        ⟨identity, candidate.generation + 1⟩ with
      | .error refusal =>
          (registry.modify identity Candidate.disarm).reportUnscheduled candidate.disarm refusal
      | .ok (ticket, accepted) => accepted.modify identity (Candidate.withTimer ticket) := by
  have disarmed := candidate?_disarm_self found
  rw [disarm_of_timerless found timerless] at disarmed
  simp only [arm, disarm_of_timerless found timerless, disarmed]
  rfl

/-- A timer that is accepted is armed. -/
theorem arm_of_accepts (found : registry.candidate? identity = some candidate)
    (timerless : candidate.timer = none) (accepts : registry.acceptsTimers = true) (due : Nat) :
    registry.arm identity due = registry.armed identity due (candidate.generation + 1) := by
  have stillAccepts : (registry.modify identity Candidate.disarm).acceptsTimers = true := accepts
  rw [arm_eq found timerless, acceptAlarm_of_accepts stillAccepts]
  simp only [armed, modify, List.modify_modify_eq]
  rfl

/-- A timer that is not accepted leaves the candidate without one, and at most a report of it. -/
theorem arm_of_refuses (found : registry.candidate? identity = some candidate)
    (timerless : candidate.timer = none) (refuses : registry.acceptsTimers = false) (due : Nat) :
    ∃ events, registry.arm identity due =
      { registry.modify identity Candidate.disarm with
        journal := { registry.journal with events } } := by
  have stillRefuses : (registry.modify identity Candidate.disarm).acceptsTimers = false := refuses
  rw [arm_eq found timerless]
  rcases acceptAlarm_of_refuses stillRefuses due ⟨identity, candidate.generation + 1⟩ with
    unasked | ⟨refusal, refused⟩
  · rw [unasked]
    refine ⟨registry.journal.events, (modify_modify _ _ _ _).trans ?_⟩
    rfl
  · rw [refused]
    exact ⟨_, rfl⟩

/-- At most one task joins those that wait, and it is the candidate's. -/
theorem entries_arm (found : registry.candidate? identity = some candidate)
    (timerless : candidate.timer = none) (due : Nat) :
    (registry.arm identity due).agenda.entries = registry.agenda.entries ∨
      ∃ entry : Schedule.Entry Alarm, entry.task.candidate = identity ∧ entry.due = due ∧
        (registry.arm identity due).agenda.entries =
          Schedule.Agenda.place entry registry.agenda.entries := by
  cases accepts : registry.acceptsTimers with
  | false =>
      obtain ⟨events, arms⟩ := arm_of_refuses found timerless accepts due
      rw [arms]
      exact .inl rfl
  | true =>
      rw [arm_of_accepts found timerless accepts]
      exact .inr ⟨_, rfl, rfl, rfl⟩

end

end Registry

end Redelivery
