import Redelivery.Proofs.Agendas
import Redelivery.Proofs.Keyed
import Redelivery.Schedule.Plan

/-!
# What happens to tasks that wait for timers

Tasks are accepted or refused, cancelled through their handles, and they begin; a task that begins
schedules others and cancels some, itself perhaps.  Each of these events is lawful after those
before it, and the log of all of them tells which tasks wait.
-/

namespace Redelivery.Schedule

/-! ## Laws of a log -/

/-- Each item of a list stands by a law about those before it. -/
def Each {α : Type} (law : List α → α → Prop) (items : List α) : Prop :=
  ∀ past item later, items = past ++ item :: later → law past item

section

variable {α : Type} {law : List α → α → Prop} {items : List α} {item : α}

theorem each_nil : Each law [] := by
  intro past item later split
  cases (List.append_eq_nil_iff.mp split.symm).2

theorem each_concat : Each law (items ++ [item]) ↔ Each law items ∧ law items item := by
  constructor
  · intro each
    refine ⟨fun past other later split => ?_, each items item [] rfl⟩
    exact each past other (later ++ [item]) (by rw [split, List.append_assoc, List.cons_append])
  · rintro ⟨each, last⟩ past other later split
    rcases List.eq_nil_or_concat later with rfl | ⟨before, final, rfl⟩
    · obtain ⟨rfl, same⟩ := List.append_inj' split rfl
      obtain rfl := List.singleton_inj.mp same
      exact last
    · rw [List.concat_eq_append, ← List.cons_append, ← List.append_assoc] at split
      exact each past other before (List.append_inj' split rfl).1

theorem each_append {more : List α} (each : Each law items)
    (further : ∀ past item later, more = past ++ item :: later → law (items ++ past) item) :
    Each law (items ++ more) := by
  intro past item later split
  rcases List.append_eq_append_iff.mp split with ⟨between, rfl, isMore⟩ | ⟨between, isItems, rest⟩
  · exact further between item later isMore
  · cases between with
    | nil =>
        rw [List.append_nil] at isItems
        rw [← isItems, ← List.append_nil items]
        exact further [] item later rest.symm
    | cons first between =>
        obtain ⟨rfl, _⟩ := List.cons.inj rest
        exact each past item between isItems

/-- Of two items neither of which may stand behind the other, a list has only one. -/
theorem Each.eq_of_mem {other : α} (each : Each law items) (present : item ∈ items)
    (otherPresent : other ∈ items) (first : ∀ past, law past item → other ∉ past)
    (second : ∀ past, law past other → item ∉ past) : item = other := by
  obtain ⟨past, later, rfl⟩ := List.append_of_mem present
  rcases List.mem_append.mp otherPresent with before | behind
  · exact absurd before (first past (each past item later rfl))
  · rcases List.mem_cons.mp behind with same | later
    · exact same.symm
    · obtain ⟨between, rest, rfl⟩ := List.append_of_mem later
      have isLawful : law (past ++ item :: between) other :=
        each _ other rest (by rw [List.append_assoc, List.cons_append])
      exact absurd (List.mem_append_right past List.mem_cons_self) (second _ isLawful)

end

/-- Where something hosts timers, a task is accepted as by any agenda. -/
theorem Agenda.scheduleTimer_hosted {α : Type} (agenda : Agenda α) (due : Nat) (task : α) :
    agenda.scheduleTimer true due task = agenda.schedule due task := by
  simp [scheduleTimer]

namespace Plan

/-! ## Events -/

/-- What happens to tasks that wait for timers. -/
inductive Event where
  | accepted (now : Nat) (entry : Entry Task)
  | refused (now : Nat) (task : Task) (refusal : Refusal)
  /-- A handle is used to cancel its task. -/
  | cancelled (ticket : Nat)
  | closed
  | began (now : Nat) (entry : Entry Task)

namespace Event

def accepted? : Event → Option (Entry Task)
  | accepted _ entry => some entry
  | _ => none

/-- The task for which somebody asked for a timer. -/
def task? : Event → Option Task
  | accepted _ entry => some entry.task
  | refused _ task _ => some task
  | _ => none

/-- The ticket of a task that does not wait any more. -/
def ended? : Event → Option Nat
  | cancelled ticket => some ticket
  | began _ entry => some entry.ticket
  | _ => none

/-- The name of a task that begins, and the instant. -/
def ran? : Event → Option (String × Nat)
  | began now entry => some (entry.task.name, now)
  | _ => none

/-- What may happen after certain events, with a scheduler that was made inside a runtime or
before it. -/
def MayFollow (inside : Bool) (past : List Event) : Event → Prop
  -- Tasks are accepted until the scheduler is shut down, each under a ticket of its own.
  | accepted now entry =>
      .closed ∉ past ∧ entry.due = entry.task.due.instant now ∧
        entry.ticket = (past.filterMap accepted?).length
  -- After that they are refused, or before it if there is no runtime yet.
  | refused _ _ refusal =>
      (.closed ∈ past ∧ refusal = .shutdown) ∨
        (.closed ∉ past ∧ refusal = .noRuntime ∧ inside = false)
  -- Handles lead to tasks that were accepted.
  | cancelled ticket => ∃ entry ∈ past.filterMap accepted?, entry.ticket = ticket
  | closed => True
  -- A task that begins was accepted, its timer is up, and it has neither begun nor been cancelled
  -- so far.
  | began now entry =>
      (∃ since, .accepted since entry ∈ past ∧ since ≤ now) ∧ Time.wake entry.due ≤ now ∧
        ∀ event ∈ past, event.ended? ≠ some entry.ticket

theorem mem_accepted_iff {log : List Event} {entry : Entry Task} :
    entry ∈ log.filterMap accepted? ↔ ∃ now, .accepted now entry ∈ log := by
  rw [List.mem_filterMap]
  constructor
  · rintro ⟨event, present, isEntry⟩
    cases event <;> cases isEntry
    exact ⟨_, present⟩
  · rintro ⟨now, present⟩
    exact ⟨_, present, rfl⟩

/-- An event in which no task ends leaves those that wait alone. -/
theorem ended_concat {log : List Event} {event : Event} {ticket : Nat}
    (quiet : event.ended? = none) :
    (∀ other ∈ log ++ [event], other.ended? ≠ some ticket) ↔
      ∀ other ∈ log, other.ended? ≠ some ticket := by
  simp [or_imp, forall_and, quiet]

end Event

/-- What comes of asking for a timer, if something may host it. -/
def outcome (hosted : Bool) (now : Nat) (task : Task) (agenda : Agenda Task) : Event :=
  match agenda.scheduleTimer hosted (task.due.instant now) task with
  | .ok (ticket, _) => .accepted now ⟨task.due.instant now, ticket, task⟩
  | .error refusal => .refused now task refusal

/-- A task that runs schedules a follower. -/
def followIn (timed : Bool) (now : Nat) (state : Agenda Task × Ledger) (follower : Task) :
    Agenda Task × Ledger :=
  match scheduleIn timed now follower state with
  | .ok accepted => accepted
  | .error refusal => note (.refused refusal) state

/-- What comes of scheduling followers. -/
def followEvents (timed : Bool) (now : Nat) :
    List Task → Agenda Task × Ledger → List Event
  | [], _ => []
  | follower :: rest, state =>
      outcome true now follower state.1 ::
        followEvents timed now rest (followIn timed now state follower)

/-- What comes of cancelling tasks by their names. -/
def cancelEvents : List String → Agenda Task × Ledger → List Event
  | [], _ => []
  | name :: rest, state =>
      (state.2.handles.find? name).toList.map .cancelled ++ cancelEvents rest (cancelIn name state)

/-- What comes of a task that begins. -/
def runEvents (timed : Bool) (now : Nat) (entry : Entry Task) (state : Agenda Task × Ledger) :
    List Event :=
  let noted := note (.ran entry.task.name now) state
  .began now entry :: (followEvents timed now entry.task.followers noted ++
    cancelEvents entry.task.cancels (entry.task.followers.foldl (followIn timed now) noted))

theorem task?_outcome (hosted : Bool) (now : Nat) (task : Task) (agenda : Agenda Task) :
    (outcome hosted now task agenda).task? = some task := by
  unfold outcome
  split <;> rfl

/-- Every follower is scheduled. -/
theorem map_task?_followEvents (timed : Bool) (now : Nat) (followers : List Task)
    (state : Agenda Task × Ledger) :
    (followEvents timed now followers state).map Event.task? = followers.map some := by
  induction followers generalizing state with
  | nil => rfl
  | cons follower rest inductionHypothesis =>
      simp only [followEvents, List.map_cons, task?_outcome, inductionHypothesis]

theorem eq_of_mem_followEvents {timed : Bool} {now : Nat} {followers : List Task}
    {state : Agenda Task × Ledger} {event : Event}
    (present : event ∈ followEvents timed now followers state) :
    ∃ task agenda, event = outcome true now task agenda := by
  induction followers generalizing state with
  | nil => cases present
  | cons follower rest inductionHypothesis =>
      rcases List.mem_cons.mp present with rfl | later
      · exact ⟨follower, state.1, rfl⟩
      · exact inductionHypothesis later

theorem eq_of_mem_cancelEvents {names : List String} {state : Agenda Task × Ledger}
    {event : Event} (present : event ∈ cancelEvents names state) :
    ∃ ticket, event = .cancelled ticket := by
  induction names generalizing state with
  | nil => cases present
  | cons name rest inductionHypothesis =>
      rcases List.mem_append.mp present with isNow | later
      · obtain ⟨ticket, _, rfl⟩ := List.mem_map.mp isNow
        exact ⟨ticket, rfl⟩
      · exact inductionHypothesis later

/-- No handle that is to be used is held any longer. -/
theorem has_foldl_cancelIn {names : List String} {name : String} (state : Agenda Task × Ledger)
    (absent : name ∈ names ∨ state.2.handles.has name = false) :
    (names.foldl (fun state name => cancelIn name state) state).2.handles.has name = false := by
  induction names generalizing state with
  | nil => exact absent.resolve_left List.not_mem_nil
  | cons first rest inductionHypothesis =>
      apply inductionHypothesis
      by_cases later : name ∈ rest
      · exact .inl later
      · refine .inr ?_
        cases isHeld : state.2.handles.find? first with
        | none =>
            simp only [cancelIn, isHeld]
            rcases absent with present | absent
            · rcases List.mem_cons.mp present with rfl | present
              · rw [Keyed.has, isHeld]
                rfl
              · exact absurd present later
            · exact absent
        | some ticket =>
            simp only [cancelIn, isHeld, Keyed.has_remove]
            split
            · rfl
            · next differs =>
                refine absent.resolve_left fun present => ?_
                exact (List.mem_cons.mp present).elim differs later

end Plan

/-- What is noted of a task that ran. -/
def Firing.ran? : Firing → Option (String × Nat)
  | .ran name instant => some (name, instant)
  | .refused _ => none

namespace Plan

/-! ## The log and the state -/

/-- A lawful log tells which tasks wait. -/
structure Reflects (inside : Bool) (now : Nat) (log : List Event) (state : Agenda Task × Ledger) :
    Prop where
  lawful : Each (Event.MayFollow inside) log
  sound : state.1.Sound
  counted : (log.filterMap Event.accepted?).length = state.1.nextTicket
  waiting : ∀ entry, entry ∈ state.1.entries ↔
    entry ∈ log.filterMap Event.accepted? ∧ ∀ event ∈ log, event.ended? ≠ some entry.ticket
  handles : ∀ name ticket, state.2.handles.find? name = some ticket →
    ∃ entry ∈ log.filterMap Event.accepted?, entry.ticket = ticket ∧ entry.task.name = name
  closed : state.1.closed = true ↔ Event.closed ∈ log
  past : ∀ since entry, Event.accepted since entry ∈ log → since ≤ now
  issued : ∀ entry ∈ log.filterMap Event.accepted?, entry.ticket < state.1.nextTicket
  ended : ∀ event ∈ log, ∀ ticket, event.ended? = some ticket → ticket < state.1.nextTicket
  noted : state.2.firings.reverse.filterMap Firing.ran? = log.filterMap Event.ran?

namespace Reflects

variable {inside timed : Bool} {now : Nat} {log : List Event} {state after : Agenda Task × Ledger}

theorem empty (inside timed : Bool) (now : Nat) :
    Reflects inside now [] ((empty timed).agenda, (empty timed).ledger) where
  lawful := each_nil
  sound := ⟨fun _ present => absurd present List.not_mem_nil, List.nodup_nil⟩
  counted := rfl
  waiting := fun entry => ⟨fun present => absurd present List.not_mem_nil,
    fun both => absurd both.1 List.not_mem_nil⟩
  handles := by
    intro name ticket isHeld
    cases isHeld
  closed := by simp [Plan.empty, Agenda.empty]
  past := fun _ _ present => absurd present List.not_mem_nil
  issued := fun _ present => absurd present List.not_mem_nil
  ended := fun _ present => absurd present List.not_mem_nil
  noted := rfl

/-- Time passes. -/
theorem wait (reflects : Reflects inside now log state) {instant : Nat}
    (later : now ≤ instant) : Reflects inside instant log state :=
  { reflects with past := fun since entry present =>
      Nat.le_trans (reflects.past since entry present) later }

theorem accept (reflects : Reflects inside now log state) {task : Task}
    (accepted : scheduleIn timed now task state = .ok after) :
    Reflects inside now (log ++ [outcome true now task state.1]) after := by
  obtain ⟨agenda, ledger⟩ := state
  simp only [scheduleIn] at accepted
  cases scheduled : agenda.schedule (task.due.instant now) task with
  | error refusal =>
      rw [scheduled] at accepted
      cases accepted
  | ok placed =>
      obtain ⟨ticket, placed⟩ := placed
      rw [scheduled] at accepted
      obtain rfl := Except.ok.inj accepted
      have happens : outcome true now task agenda =
          .accepted now ⟨task.due.instant now, ticket, task⟩ := by
        rw [outcome, Agenda.scheduleTimer_hosted, scheduled]
      rw [happens]
      have sound := reflects.sound.schedule scheduled
      obtain ⟨isOpen, rfl, rfl⟩ := Agenda.schedule_eq_ok scheduled
      let entry : Entry Task := ⟨task.due.instant now, agenda.nextTicket, task⟩
      have listed : (log ++ [Event.accepted now entry]).filterMap Event.accepted? =
          log.filterMap Event.accepted? ++ [entry] := List.filterMap_append
      constructor
      case lawful =>
        refine each_concat.mpr ⟨reflects.lawful, ?_, rfl, reflects.counted.symm⟩
        intro wasClosed
        cases isOpen.symm.trans (reflects.closed.mpr wasClosed)
      case sound => exact sound
      case counted =>
        rw [listed, List.length_append, reflects.counted]
        rfl
      case waiting =>
        intro other
        rw [listed, Event.ended_concat rfl, List.mem_append, List.mem_singleton]
        refine ((Agenda.place_perm entry agenda.entries).mem_iff).trans ?_
        rw [List.mem_cons, reflects.waiting other, or_and_right, or_comm]
        refine or_congr_right (iff_self_and.mpr ?_)
        rintro rfl event happened same
        exact Nat.lt_irrefl _ (reflects.ended event happened _ same)
      case handles =>
        intro name other isHeld
        rw [listed]
        simp only [Keyed.find?_put] at isHeld
        split at isHeld
        · next same =>
            obtain rfl := Option.some.inj isHeld
            exact ⟨entry, List.mem_append_right _ (List.mem_singleton_self _), rfl, same.symm⟩
        · obtain ⟨holder, wasAccepted, own⟩ := reflects.handles name other isHeld
          exact ⟨holder, List.mem_append_left _ wasAccepted, own⟩
      case closed => exact reflects.closed.trans (by simp)
      case past =>
        intro since other happened
        rcases List.mem_append.mp happened with before | isNow
        · exact reflects.past since other before
        · obtain ⟨rfl, _⟩ := Event.accepted.inj (List.mem_singleton.mp isNow)
          exact Nat.le_refl _
      case issued =>
        intro other wasAccepted
        rw [listed] at wasAccepted
        rcases List.mem_append.mp wasAccepted with before | isNow
        · exact Nat.lt_succ_of_lt (reflects.issued other before)
        · rw [List.mem_singleton.mp isNow]
          exact Nat.lt_succ_self _
      case ended =>
        intro event happened other ends
        rcases List.mem_append.mp happened with before | isNow
        · exact Nat.lt_succ_of_lt (reflects.ended event before other ends)
        · rw [List.mem_singleton.mp isNow] at ends
          cases ends
      case noted =>
        rw [List.filterMap_append]
        exact reflects.noted.trans (List.append_nil _).symm

/-- An event in which no task is accepted and none ends leaves the agenda alone, but for closing
it. -/
theorem quiet (reflects : Reflects inside now log state) {event : Event}
    (may : event.MayFollow inside log) (noneAccepted : event.accepted? = none)
    (noneEnded : event.ended? = none) (noneBegun : event.ran? = none)
    (sameEntries : after.1.entries = state.1.entries)
    (sameTickets : after.1.nextTicket = state.1.nextTicket)
    (sameHandles : after.2.handles = state.2.handles)
    (closes : after.1.closed = true ↔ Event.closed ∈ log ++ [event])
    (sameNotes : after.2.firings.reverse.filterMap Firing.ran? =
      state.2.firings.reverse.filterMap Firing.ran?) :
    Reflects inside now (log ++ [event]) after := by
  have listed : (log ++ [event]).filterMap Event.accepted? = log.filterMap Event.accepted? := by
    rw [List.filterMap_append, List.filterMap_cons_none noneAccepted]
    exact List.append_nil _
  constructor
  case lawful => exact each_concat.mpr ⟨reflects.lawful, may⟩
  case sound =>
    refine ⟨?_, ?_⟩
    · rw [sameEntries, sameTickets]
      exact reflects.sound.issued
    · rw [sameEntries]
      exact reflects.sound.distinct
  case counted => rw [listed, sameTickets, reflects.counted]
  case waiting =>
    intro entry
    rw [listed, sameEntries, Event.ended_concat noneEnded]
    exact reflects.waiting entry
  case handles =>
    rw [listed, sameHandles]
    exact reflects.handles
  case closed => exact closes
  case past =>
    intro since entry happened
    rcases List.mem_append.mp happened with before | isNow
    · exact reflects.past since entry before
    · rw [← List.mem_singleton.mp isNow] at noneAccepted
      cases noneAccepted
  case issued =>
    rw [listed, sameTickets]
    exact reflects.issued
  case ended =>
    intro other happened ticket ends
    rw [sameTickets]
    rcases List.mem_append.mp happened with before | isNow
    · exact reflects.ended other before ticket ends
    · rw [List.mem_singleton.mp isNow, noneEnded] at ends
      cases ends
  case noted =>
    rw [sameNotes, List.filterMap_append, List.filterMap_cons_none noneBegun]
    exact reflects.noted.trans (List.append_nil _).symm

/-- An event in which a task ends takes it off the agenda. -/
theorem finish (reflects : Reflects inside now log state) {event : Event} {ticket : Nat}
    {ledger : Ledger} (may : event.MayFollow inside log) (noneAccepted : event.accepted? = none)
    (ends : event.ended? = some ticket) (old : ticket < state.1.nextTicket)
    (handles : ∀ name other, ledger.handles.find? name = some other →
      state.2.handles.find? name = some other)
    (noted : ledger.firings.reverse.filterMap Firing.ran? =
      (log ++ [event]).filterMap Event.ran?) :
    Reflects inside now (log ++ [event]) (state.1.cancel ticket, ledger) := by
  have listed : (log ++ [event]).filterMap Event.accepted? = log.filterMap Event.accepted? := by
    rw [List.filterMap_append, List.filterMap_cons_none noneAccepted]
    exact List.append_nil _
  constructor
  case lawful => exact each_concat.mpr ⟨reflects.lawful, may⟩
  case sound => exact (Agenda.shrinks_cancel _ _).sound reflects.sound
  case counted => rw [listed, reflects.counted]; rfl
  case waiting =>
    intro entry
    rw [listed, Agenda.mem_cancel_iff, reflects.waiting entry, and_assoc]
    refine and_congr_right fun _ => ?_
    simp [or_imp, forall_and, ends, ne_comm]
  case handles =>
    intro name other isHeld
    rw [listed]
    exact reflects.handles name other (handles name other isHeld)
  case closed =>
    refine reflects.closed.trans ?_
    rw [List.mem_append, List.mem_singleton, or_iff_left]
    intro isClosed
    rw [← isClosed] at ends
    cases ends
  case past =>
    intro since entry happened
    rcases List.mem_append.mp happened with before | isNow
    · exact reflects.past since entry before
    · rw [← List.mem_singleton.mp isNow] at noneAccepted
      cases noneAccepted
  case issued =>
    rw [listed]
    exact reflects.issued
  case ended =>
    intro other happened third endsOther
    rcases List.mem_append.mp happened with before | isNow
    · exact reflects.ended other before third endsOther
    · rw [List.mem_singleton.mp isNow, ends] at endsOther
      obtain rfl := Option.some.inj endsOther
      exact old
  case noted => exact noted

/-- Whoever is asked to schedule a task does so, or says that the scheduler is shut down. -/
theorem follow (reflects : Reflects inside now log state) (timed : Bool) (task : Task) :
    Reflects inside now (log ++ [outcome true now task state.1])
      (followIn timed now state task) := by
  unfold followIn
  cases scheduled : scheduleIn timed now task state with
  | ok accepted => exact reflects.accept scheduled
  | error refusal =>
      obtain ⟨agenda, ledger⟩ := state
      simp only [scheduleIn] at scheduled
      cases isRefused : agenda.schedule (task.due.instant now) task with
      | ok placed =>
          rw [isRefused] at scheduled
          cases scheduled
      | error reason =>
          have happens : outcome true now task agenda = .refused now task reason := by
            rw [outcome, Agenda.scheduleTimer_hosted, isRefused]
          have isClosed := Agenda.schedule_eq_error isRefused
          have wasClosed := reflects.closed.mp isClosed
          rw [happens]
          rw [Agenda.schedule, if_pos isClosed] at isRefused
          refine reflects.quiet (.inl ⟨wasClosed, (Except.error.inj isRefused).symm⟩) rfl rfl rfl
            rfl rfl rfl ?_ ?_
          · simp [note, isClosed, wasClosed]
          · simp [note, Firing.ran?]

/-- A task is cancelled by its name, if its handle is held. -/
theorem cancelIn (reflects : Reflects inside now log state) (name : String) :
    Reflects inside now
      (log ++ (state.2.handles.find? name).toList.map .cancelled) (Plan.cancelIn name state) := by
  obtain ⟨agenda, ledger⟩ := state
  cases isHeld : ledger.handles.find? name with
  | none =>
      simp only [Plan.cancelIn, isHeld, Option.toList_none, List.map_nil, List.append_nil]
      exact reflects
  | some ticket =>
      simp only [Plan.cancelIn, isHeld, Option.toList_some, List.map_cons, List.map_nil]
      obtain ⟨entry, wasAccepted, rfl, _⟩ := reflects.handles name ticket isHeld
      have may : (Event.cancelled entry.ticket).MayFollow inside log := ⟨entry, wasAccepted, rfl⟩
      refine reflects.finish may rfl rfl (reflects.issued entry wasAccepted) ?_ ?_
      · intro other third held
        rw [Keyed.find?_remove] at held
        split at held
        · cases held
        · exact held
      · rw [List.filterMap_append]
        exact reflects.noted.trans (List.append_nil _).symm

/-- A task whose timer is up begins. -/
theorem begin (reflects : Reflects inside now log state) {entry : Entry Task}
    (waits : entry ∈ state.1.entries) (due : Time.wake entry.due ≤ now) :
    Reflects inside now (log ++ [.began now entry])
      (note (.ran entry.task.name now) (state.1.cancel entry.ticket, state.2)) := by
  obtain ⟨wasAccepted, goesOn⟩ := (reflects.waiting entry).mp waits
  obtain ⟨since, accepted⟩ := Event.mem_accepted_iff.mp wasAccepted
  have may : (Event.began now entry).MayFollow inside log :=
    ⟨⟨since, accepted, reflects.past since entry accepted⟩, due, goesOn⟩
  refine reflects.finish may rfl rfl (reflects.issued entry wasAccepted) (fun _ _ => id) ?_
  simp [Firing.ran?, Event.ran?, reflects.noted]

theorem foldl_followIn (reflects : Reflects inside now log state) (timed : Bool)
    (followers : List Task) :
    Reflects inside now (log ++ followEvents timed now followers state)
      (followers.foldl (followIn timed now) state) := by
  induction followers generalizing log state with
  | nil =>
      rw [followEvents, List.append_nil]
      exact reflects
  | cons follower rest inductionHypothesis =>
      have further := inductionHypothesis (reflects.follow timed follower)
      rw [List.append_assoc] at further
      exact further

theorem foldl_cancelIn (reflects : Reflects inside now log state) (names : List String) :
    Reflects inside now (log ++ cancelEvents names state)
      (names.foldl (fun state name => Plan.cancelIn name state) state) := by
  induction names generalizing log state with
  | nil =>
      rw [cancelEvents, List.append_nil]
      exact reflects
  | cons name rest inductionHypothesis =>
      have further := inductionHypothesis (reflects.cancelIn name)
      rw [List.append_assoc] at further
      exact further

/-- A task that begins carries out all that it is to do. -/
theorem runTask (reflects : Reflects inside now log state) {entry : Entry Task}
    (waits : entry ∈ state.1.entries) (due : Time.wake entry.due ≤ now) :
    Reflects inside now
      (log ++ runEvents timed now entry (state.1.cancel entry.ticket, state.2))
      (Plan.runTask timed now entry.task (state.1.cancel entry.ticket, state.2)) := by
  have begun := reflects.begin waits due
  have carriedOut := (begun.foldl_followIn timed entry.task.followers).foldl_cancelIn
    entry.task.cancels
  rw [List.append_assoc, List.append_assoc] at carriedOut
  exact carriedOut

/-- The scheduler is shut down. -/
theorem close (reflects : Reflects inside now log state) :
    Reflects inside now (log ++ [.closed]) (state.1.close, state.2) :=
  reflects.quiet trivial rfl rfl rfl rfl rfl rfl
    (iff_of_true rfl (List.mem_append_right _ (List.mem_singleton_self _))) rfl

/-- A handle is dropped. -/
theorem release (reflects : Reflects inside now log state) (name : String) :
    Reflects inside now log
      (state.1, { state.2 with handles := state.2.handles.remove name }) :=
  { reflects with
    handles := by
      intro other ticket isHeld
      simp only [Keyed.find?_remove] at isHeld
      split at isHeld
      · cases isHeld
      · exact reflects.handles other ticket isHeld }

end Reflects

/-! ## Timers to be started -/

/-- Whoever is new on the agenda is to have a timer. -/
structure Starts (before after : Agenda Task × Ledger) : Prop where
  keeps : before.2.starting ⊆ after.2.starting
  starts : ∀ entry ∈ after.1.entries, entry ∈ before.1.entries ∨ entry.ticket ∈ after.2.starting

theorem Starts.refl (state : Agenda Task × Ledger) : Starts state state :=
  ⟨List.Subset.refl _, fun _ => .inl⟩

theorem Starts.trans {first middle last : Agenda Task × Ledger} (earlier : Starts first middle)
    (later : Starts middle last) : Starts first last where
  keeps := List.Subset.trans earlier.keeps later.keeps
  starts := by
    intro entry present
    rcases later.starts entry present with old | new
    · exact (earlier.starts entry old).imp_right fun starting => later.keeps starting
    · exact .inr new

theorem Starts.foldl {α : Type} {act : Agenda Task × Ledger → α → Agenda Task × Ledger}
    (starts : ∀ state item, Starts state (act state item)) (items : List α)
    (state : Agenda Task × Ledger) : Starts state (items.foldl act state) :=
  List.foldlRecOn items act (.refl _) fun before earlier item _ =>
    earlier.trans (starts before item)

theorem starts_scheduleIn {now : Nat} {task : Task} {state after : Agenda Task × Ledger}
    (accepted : scheduleIn true now task state = .ok after) : Starts state after := by
  obtain ⟨agenda, ledger⟩ := state
  simp only [scheduleIn] at accepted
  cases scheduled : agenda.schedule (task.due.instant now) task with
  | error refusal =>
      rw [scheduled] at accepted
      cases accepted
  | ok placed =>
      obtain ⟨ticket, placed⟩ := placed
      rw [scheduled] at accepted
      obtain rfl := Except.ok.inj accepted
      obtain ⟨_, rfl, rfl⟩ := Agenda.schedule_eq_ok scheduled
      refine ⟨List.subset_append_left _ _, fun entry present => ?_⟩
      rcases Agenda.mem_place_iff.mp present with rfl | old
      · exact .inr (List.mem_append_right _ (List.mem_singleton_self _))
      · exact .inl old

theorem starts_followIn (now : Nat) (state : Agenda Task × Ledger) (follower : Task) :
    Starts state (followIn true now state follower) := by
  unfold followIn
  split
  · next accepted scheduled => exact starts_scheduleIn scheduled
  · exact ⟨List.Subset.refl _, fun _ => .inl⟩

theorem starts_cancelIn (state : Agenda Task × Ledger) (name : String) :
    Starts state (cancelIn name state) := by
  obtain ⟨agenda, ledger⟩ := state
  simp only [cancelIn]
  split
  · exact .refl _
  · exact ⟨List.Subset.refl _, fun entry present => .inl (Agenda.mem_cancel_iff.mp present).1⟩

theorem starts_runTask (now : Nat) (task : Task) (state : Agenda Task × Ledger) :
    Starts state (runTask true now task state) := by
  have noted : Starts state (note (.ran task.name now) state) :=
    ⟨List.Subset.refl _, fun _ => .inl⟩
  exact (noted.trans (.foldl (starts_followIn now) task.followers _)).trans
    (.foldl starts_cancelIn task.cancels _)

end Plan

end Redelivery.Schedule
