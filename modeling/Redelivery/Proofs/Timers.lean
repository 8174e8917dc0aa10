import Redelivery.Proofs.Agendas
import Redelivery.Proofs.Share

/-!
# Timers

A timer is armed for a candidate by a schedule call, and is dropped when the
candidate is resent by other means, is suspended or ends.  A function of the
registry tends to every candidate that takes part in the schedule: it leaves
none of them without a timer that it does not find so, unless a resend is
pending or the log reports that a schedule call was refused or the schedule
overflowed.
-/

namespace Redelivery

/-! ## Reports -/

namespace Log.Event

/-- A report that a message is left without a timer. -/
def isUnscheduled (event : Event) : Bool :=
  decide (event.target = candidateTarget ∧
    (event.message = "Failed to schedule retransmission" ∨
      event.message =
        "Retry schedule overflows, message will not be retransmitted automatically"))

/-- A report that the schedule of a message ends because its next interval overflows. -/
def isOverflow (event : Event) : Bool :=
  decide (event.message =
      "Retry schedule overflows, message will not be retransmitted automatically" ∨
    Field.shown "error" Schedule.Refusal.outOfRange.message ∈ event.fields)

/-- A report that the message of a candidate is left without a timer. -/
def TellsOf (event : Event) (candidate : Candidate) : Prop :=
  event.isUnscheduled = true ∧ Registry.naming candidate <+: event.fields

theorem isUnscheduled_of_target {event : Event} (other : event.target ≠ candidateTarget) :
    event.isUnscheduled = false := by
  simp [isUnscheduled, other]

theorem within_spans (event : Event) (spans : List Span) :
    spans.foldl within event = { event with spans := spans.reverse ++ event.spans } := by
  induction spans generalizing event with
  | nil => rfl
  | cons span rest inductionHypothesis =>
      rw [List.foldl_cons, inductionHypothesis]
      simp [within]

end Log.Event

/-- The events that were reported since an earlier moment are those that came in
front. -/
theorem Journal.mem_eventsSince_iff {journal : Journal} {news old : List Log.Event}
    (events : journal.events = news ++ old) {event : Log.Event} :
    event ∈ journal.eventsSince old.length ↔ event ∈ news := by
  rw [eventsSince, events, List.length_append, Nat.add_sub_cancel, List.take_left,
    List.mem_reverse]

/-! ## Timers of candidates -/

namespace Candidate

/-- A candidate that keeps its message until it ends, and has no timer any more
then. -/
structure IsSettled (candidate : Candidate) : Prop where
  kept : candidate.message = none → candidate.ending ≠ none
  quiet : candidate.ending ≠ none → candidate.timer = none

/-- A candidate that takes part in the schedule, but has neither a timer nor a
pending resend. -/
structure IsNeglected (candidate : Candidate) : Prop where
  wants : candidate.wantsTimer = true
  active : candidate.ending = none
  idle : candidate.pending = false
  timerless : candidate.timer = none

end Candidate

namespace Registry

/-- What timers have in common in every reachable registry: the timer of a candidate
waits on the agenda with the generation of the candidate. -/
structure Timed (registry : Registry) : Prop where
  agenda : registry.agenda.Sound
  armed : ∀ identity candidate ticket, registry.candidate? identity = some candidate →
    candidate.timer = some ticket →
    ∃ due, ⟨due, ticket, ⟨identity, candidate.generation⟩⟩ ∈ registry.agenda.entries
  settled : ∀ identity candidate, registry.candidate? identity = some candidate →
    candidate.IsSettled

/-- The events that were reported between two moments. -/
def newsUntil (before after : Registry) : List Log.Event :=
  after.journal.eventsSince before.journal.events.length

/-- What every function of the registry does to timers and reports.  A task that is put
on the agenda has its timer started, and no message is reported to be left without a
timer unless the agenda refuses tasks or a schedule overflows. -/
structure Advances (before after : Registry) : Prop where
  driving : after.driving = before.driving
  closed : before.agenda.closed = true → after.agenda.closed = true
  timed : before.Timed → after.Timed
  rung : ∀ hosted, before.driving = .byTimers hosted → ∀ entry ∈ after.agenda.entries,
    entry ∈ before.agenda.entries ∨ [.ring entry.ticket] ∈ after.starting
  starting : before.starting ⊆ after.starting
  events : before.journal.events <:+ after.journal.events
  honest : ∀ event ∈ before.newsUntil after, event.isUnscheduled = true →
    after.agenda.closed = true ∨ before.driving = .byTimers false ∨ event.isOverflow = true

/-- What a function does that concerns one candidate only. -/
structure Touches (identity : Nat) (before after : Registry) : Prop
    extends Advances before after where
  others : ∀ other, other ≠ identity → after.candidate? other = before.candidate? other

/-- What every function of the registry does for candidates: one that it leaves
neglected was neglected before, or is reported to be left without a timer. -/
structure Tends (before after : Registry) : Prop extends Advances before after where
  minded : before.driving ≠ .byHand → ∀ identity candidate,
    after.candidate? identity = some candidate → candidate.IsNeglected →
    (∃ former, before.candidate? identity = some former ∧ former.IsNeglected ∧
      naming former = naming candidate) ∨
    ∃ event ∈ before.newsUntil after, event.TellsOf candidate

theorem mem_newsUntil_iff {before after : Registry} {news : List Log.Event}
    (events : after.journal.events = news ++ before.journal.events) {event : Log.Event} :
    event ∈ before.newsUntil after ↔ event ∈ news :=
  Journal.mem_eventsSince_iff events

/-- News add up. -/
theorem mem_newsUntil_trans {first second third : Registry} {event : Log.Event}
    (earlier : first.journal.events <:+ second.journal.events)
    (later : second.journal.events <:+ third.journal.events) :
    event ∈ first.newsUntil third ↔
      event ∈ first.newsUntil second ∨ event ∈ second.newsUntil third := by
  obtain ⟨early, earlyEvents⟩ := earlier
  rcases later with ⟨late, lateEvents⟩
  have events : third.journal.events = (late ++ early) ++ first.journal.events := by
    rw [← lateEvents, ← earlyEvents, List.append_assoc]
  rw [mem_newsUntil_iff earlyEvents.symm, mem_newsUntil_iff lateEvents.symm,
    mem_newsUntil_iff events, List.mem_append, or_comm]

theorem Advances.refl (registry : Registry) : registry.Advances registry where
  driving := rfl
  closed := id
  timed := id
  rung := fun _ _ _ present => .inl present
  starting := fun _ present => present
  events := List.suffix_refl _
  honest := by
    intro event present
    cases (mem_newsUntil_iff (List.nil_append _).symm).mp present

theorem Advances.trans {first second third : Registry} (earlier : first.Advances second)
    (later : second.Advances third) : first.Advances third where
  driving := later.driving.trans earlier.driving
  closed := fun closed => later.closed (earlier.closed closed)
  timed := fun timed => later.timed (earlier.timed timed)
  rung := by
    intro hosted driving entry present
    rcases later.rung hosted (earlier.driving.trans driving) entry present with middle | started
    · rcases earlier.rung hosted driving entry middle with old | started
      · exact .inl old
      · exact .inr (later.starting started)
    · exact .inr started
  starting := fun _ present => later.starting (earlier.starting present)
  events := earlier.events.trans later.events
  honest := by
    intro event present unscheduled
    rcases (mem_newsUntil_trans earlier.events later.events).mp present with early | late
    · rcases earlier.honest event early unscheduled with closed | rest
      · exact .inl (later.closed closed)
      · exact .inr rest
    · rcases later.honest event late unscheduled with closed | unhosted | overflow
      · exact .inl closed
      · exact .inr (.inl (earlier.driving ▸ unhosted))
      · exact .inr (.inr overflow)

theorem Touches.trans {identity : Nat} {first second third : Registry}
    (earlier : first.Touches identity second) (later : second.Touches identity third) :
    first.Touches identity third :=
  { earlier.toAdvances.trans later.toAdvances with
    others := fun other isOther =>
      (later.others other isOther).trans (earlier.others other isOther) }

/-- Where candidates stay as they are, none becomes neglected. -/
theorem Advances.tends {before after : Registry} (advances : before.Advances after)
    (same : ∀ identity, after.candidate? identity = before.candidate? identity) :
    before.Tends after :=
  { advances with
    minded := fun _ identity candidate found neglected =>
      .inl ⟨candidate, (same identity).symm.trans found, neglected, rfl⟩ }

theorem Tends.refl (registry : Registry) : registry.Tends registry :=
  (Advances.refl registry).tends fun _ => rfl

theorem Tends.trans {first second third : Registry} (earlier : first.Tends second)
    (later : second.Tends third) : first.Tends third :=
  { earlier.toAdvances.trans later.toAdvances with
    minded := by
      intro driven identity candidate found neglected
      have news {event : Log.Event} : event ∈ first.newsUntil third ↔
          event ∈ first.newsUntil second ∨ event ∈ second.newsUntil third :=
        mem_newsUntil_trans earlier.events later.events
      rcases later.minded (earlier.driving ▸ driven) identity candidate found neglected with
        ⟨former, isFormer, wasNeglected, sameName⟩ | ⟨event, late, tells⟩
      · rcases earlier.minded driven identity former isFormer wasNeglected with
          ⟨first, isFirst, firstNeglected, firstName⟩ | ⟨event, early, tells⟩
        · exact .inl ⟨first, isFirst, firstNeglected, firstName.trans sameName⟩
        · refine .inr ⟨event, news.mpr (.inl early), tells.1, ?_⟩
          rw [← sameName]
          exact tells.2
      · exact .inr ⟨event, news.mpr (.inr late), tells⟩ }

/-- What a registry is about to start makes no difference to timers. -/
theorem Timed.launched {registry : Registry} (timed : registry.Timed) :
    { registry with starting := [] }.Timed :=
  ⟨timed.agenda, timed.armed, timed.settled⟩

/-- What a registry was about to start before stays to be started. -/
theorem Tends.beside {registry after : Registry}
    (tends : { registry with starting := [] }.Tends after) :
    registry.Tends { after with starting := registry.starting ++ after.starting } where
  driving := tends.driving
  closed := tends.closed
  timed := by
    intro timed
    have afterTimed := tends.timed timed.launched
    exact ⟨afterTimed.agenda, afterTimed.armed, afterTimed.settled⟩
  rung := fun hosted driving entry present =>
    (tends.rung hosted driving entry present).imp id (List.mem_append_right _)
  starting := List.subset_append_left _ _
  events := tends.events
  honest := tends.honest
  minded := tends.minded

/-- A function that touches one candidate only has to mind that one. -/
theorem Touches.tends {identity : Nat} {before after : Registry}
    (touches : before.Touches identity after)
    (minded : before.driving ≠ .byHand → ∀ candidate,
      after.candidate? identity = some candidate → candidate.IsNeglected →
      (∃ former, before.candidate? identity = some former ∧ former.IsNeglected ∧
        naming former = naming candidate) ∨
      ∃ event ∈ before.newsUntil after, event.TellsOf candidate) :
    before.Tends after :=
  { touches.toAdvances with
    minded := by
      intro driven other candidate found neglected
      by_cases same : other = identity
      · subst same
        exact minded driven candidate found neglected
      · exact .inl ⟨candidate, (touches.others other same).symm.trans found, neglected, rfl⟩ }

/-! ## Changes of one candidate -/

theorem candidate?_modify_of_ne {identity other : Nat} (isOther : other ≠ identity)
    (registry : Registry) (change : Candidate → Candidate) :
    (registry.modify identity change).candidate? other = registry.candidate? other := by
  simp [candidate?, modify, isOther.symm]

/-- Timers stay in order if those of all other candidates are left on the agenda. -/
theorem Timed.change {before after : Registry} {identity : Nat} (timed : before.Timed)
    (agenda : after.agenda.Sound)
    (others : ∀ other, other ≠ identity → after.candidate? other = before.candidate? other)
    (left : ∀ entry ∈ before.agenda.entries, entry.task.candidate ≠ identity →
      entry ∈ after.agenda.entries)
    (own : ∀ candidate, after.candidate? identity = some candidate →
      candidate.IsSettled ∧ ∀ ticket, candidate.timer = some ticket →
        ∃ due, ⟨due, ticket, ⟨identity, candidate.generation⟩⟩ ∈ after.agenda.entries) :
    after.Timed where
  agenda := agenda
  armed := by
    intro other candidate ticket found isArmed
    by_cases same : other = identity
    · subst same
      exact (own candidate found).2 ticket isArmed
    · obtain ⟨due, waits⟩ := timed.armed other candidate ticket
        ((others other same).symm.trans found) isArmed
      exact ⟨due, left _ waits same⟩
  settled := by
    intro other candidate found
    by_cases same : other = identity
    · subst same
      exact (own candidate found).1
    · exact timed.settled other candidate ((others other same).symm.trans found)

/-- Dropping the timer of a candidate leaves the timers of all others. -/
theorem Timed.mem_dropTimer {registry : Registry} (timed : registry.Timed) {identity : Nat}
    {entry : Schedule.Entry Alarm} (present : entry ∈ registry.agenda.entries)
    (isOther : entry.task.candidate ≠ identity) :
    entry ∈ (registry.dropTimer identity).agenda.entries := by
  unfold dropTimer
  split
  · exact present
  · next ticket isArmed =>
      rcases Option.bind_eq_some_iff.mp isArmed with ⟨candidate, found, timer⟩
      rcases timed.armed identity candidate ticket found timer with ⟨due, waits⟩
      refine Schedule.Agenda.mem_cancel_iff.mpr ⟨present, fun sameTicket => isOther ?_⟩
      rw [timed.agenda.eq_of_ticket present waits sameTicket]

/-- Taking tasks off the agenda concerns one candidate only if they are all its own. -/
theorem touches_take {registry : Registry} {identity : Nat} {agenda : Schedule.Agenda Alarm}
    {candidates : List Candidate} (shrinks : registry.agenda.Shrinks agenda)
    (left : registry.Timed → ∀ entry ∈ registry.agenda.entries,
      entry.task.candidate ≠ identity → entry ∈ agenda.entries)
    (others : ∀ other, other ≠ identity → candidates[other]? = registry.candidate? other)
    (own : registry.Timed → ∀ candidate, candidates[identity]? = some candidate →
      candidate.IsSettled ∧ ∀ ticket, candidate.timer = some ticket →
        ∃ due, ⟨due, ticket, ⟨identity, candidate.generation⟩⟩ ∈ agenda.entries) :
    registry.Touches identity { registry with agenda, candidates } where
  others := others
  driving := rfl
  closed := fun closed => shrinks.sameClosed.trans closed
  timed := fun timed => timed.change (shrinks.sound timed.agenda) others (left timed) (own timed)
  rung := fun _ _ _ waits => .inl (shrinks.fewer.subset waits)
  starting := fun _ started => started
  events := List.suffix_refl _
  honest := by
    intro event present
    cases (mem_newsUntil_iff (List.nil_append _).symm).mp present

/-- A change of one candidate that neither arms nor drops its timer. -/
theorem touches_modify (registry : Registry) (identity : Nat) (change : Candidate → Candidate)
    (sameTimer : ∀ candidate, (change candidate).timer = candidate.timer)
    (sameGeneration : ∀ candidate, (change candidate).generation = candidate.generation)
    (settled : ∀ candidate, candidate.IsSettled → (change candidate).IsSettled) :
    registry.Touches identity (registry.modify identity change) := by
  apply touches_take (.refl _) (fun _ _ present _ => present)
    (fun _ isOther => candidate?_modify_of_ne isOther registry change)
  intro timed candidate found
  obtain ⟨former, was, rfl⟩ := Option.map_eq_some_iff.mp
    ((candidate?_modify_self registry identity change).symm.trans found)
  refine ⟨settled former (timed.settled identity former was), ?_⟩
  rw [sameTimer, sameGeneration]
  exact fun ticket isArmed => timed.armed identity former ticket was isArmed

/-- A change that leaves one candidate without a timer, while tasks of its own may be
taken off the agenda. -/
theorem touches_timerless {registry : Registry} {identity : Nat}
    {agenda : Schedule.Agenda Alarm} (shrinks : registry.agenda.Shrinks agenda)
    (left : registry.Timed → ∀ entry ∈ registry.agenda.entries,
      entry.task.candidate ≠ identity → entry ∈ agenda.entries)
    {change : Candidate → Candidate}
    (timerless : ∀ candidate, candidate.IsSettled → (change candidate).timer = none)
    (settled : ∀ candidate, candidate.IsSettled → (change candidate).IsSettled) :
    registry.Touches identity ({ registry with agenda }.modify identity change) := by
  apply touches_take shrinks left
    (fun _ isOther => candidate?_modify_of_ne isOther registry change)
  intro timed candidate found
  obtain ⟨former, was, rfl⟩ := Option.map_eq_some_iff.mp
    ((candidate?_modify_self registry identity change).symm.trans found)
  have isSettled := timed.settled identity former was
  refine ⟨settled former isSettled, fun ticket isArmed => ?_⟩
  rw [timerless former isSettled] at isArmed
  cases isArmed

/-- Dropping a timer takes its task off the agenda. -/
theorem dropTimer_eq (registry : Registry) (identity : Nat) :
    ∃ agenda, registry.dropTimer identity = { registry with agenda } ∧
      registry.agenda.Shrinks agenda := by
  unfold dropTimer
  split
  · exact ⟨_, rfl, .refl _⟩
  · exact ⟨_, rfl, Schedule.Agenda.shrinks_cancel _ _⟩

/-- A change of one candidate that drops its timer. -/
theorem touches_dropTimer (registry : Registry) (identity : Nat)
    (change : Candidate → Candidate)
    (timerless : ∀ candidate, candidate.IsSettled → (change candidate).timer = none)
    (settled : ∀ candidate, candidate.IsSettled → (change candidate).IsSettled) :
    registry.Touches identity ((registry.dropTimer identity).modify identity change) := by
  obtain ⟨agenda, drops, shrinks⟩ := registry.dropTimer_eq identity
  have left : registry.Timed → ∀ entry ∈ registry.agenda.entries,
      entry.task.candidate ≠ identity → entry ∈ agenda.entries := by
    intro timed entry present isOther
    have waits := timed.mem_dropTimer present isOther
    rwa [drops] at waits
  rw [drops]
  exact touches_timerless shrinks left timerless settled

/-- A change that leaves candidates, agenda and driving as they are, and reports no more
than it should. -/
theorem advances_of_same {before after : Registry} (news : List Log.Event)
    (sameCandidates : after.candidates = before.candidates)
    (sameAgenda : after.agenda = before.agenda) (sameDriving : after.driving = before.driving)
    (starting : before.starting ⊆ after.starting)
    (events : after.journal.events = news ++ before.journal.events)
    (honest : ∀ event ∈ news, event.isUnscheduled = true →
      before.agenda.closed = true ∨ before.driving = .byTimers false ∨
        event.isOverflow = true) : before.Advances after where
  driving := sameDriving
  closed := fun closed => sameAgenda ▸ closed
  timed := by
    intro timed
    have same : ∀ identity, after.candidate? identity = before.candidate? identity := by
      intro identity
      rw [candidate?, sameCandidates]
      rfl
    constructor
    · rw [sameAgenda]
      exact timed.agenda
    · intro identity candidate ticket found
      rw [sameAgenda]
      exact timed.armed identity candidate ticket ((same identity).symm.trans found)
    · intro identity candidate found
      exact timed.settled identity candidate ((same identity).symm.trans found)
  rung := fun _ _ _ present => .inl (sameAgenda ▸ present)
  starting := starting
  events := ⟨news, events.symm⟩
  honest := by
    intro event present
    rw [sameAgenda]
    exact honest event ((mem_newsUntil_iff events).mp present)

/-- A change of what has nothing to do with timers and reports. -/
theorem advances_of_silent {before after : Registry}
    (sameCandidates : after.candidates = before.candidates)
    (sameAgenda : after.agenda = before.agenda) (sameDriving : after.driving = before.driving)
    (sameStarting : after.starting = before.starting)
    (sameEvents : after.journal.events = before.journal.events) : before.Advances after :=
  advances_of_same [] sameCandidates sameAgenda sameDriving
    (fun _ present => sameStarting ▸ present) sameEvents fun _ present => by cases present

/-- A change that leaves candidates, agenda and driving as they are, and reports one event,
which is about something else. -/
theorem advances_of_calm {before after : Registry} {event : Log.Event}
    (events : after.journal.events = [event] ++ before.journal.events)
    (sameCandidates : after.candidates = before.candidates)
    (sameAgenda : after.agenda = before.agenda) (sameDriving : after.driving = before.driving)
    (starting : before.starting ⊆ after.starting) (calm : event.isUnscheduled = false) :
    before.Advances after := by
  apply advances_of_same [event] sameCandidates sameAgenda sameDriving starting events
  intro other present unscheduled
  rw [List.mem_singleton.mp present, calm] at unscheduled
  cases unscheduled

theorem tends_of_silent {before after : Registry}
    (sameCandidates : after.candidates = before.candidates)
    (sameAgenda : after.agenda = before.agenda) (sameDriving : after.driving = before.driving)
    (sameStarting : after.starting = before.starting)
    (sameEvents : after.journal.events = before.journal.events) : before.Tends after :=
  (advances_of_silent sameCandidates sameAgenda sameDriving sameStarting sameEvents).tends
    fun identity => congrArg (·[identity]?) sameCandidates

theorem events_report (registry : Registry) (event : Log.Event) :
    (registry.report event).journal.events =
      [{ event with spans := registry.journal.spans.reverse ++ event.spans }] ++
        registry.journal.events := by
  simp only [report, Journal.report, Log.Event.within_spans, List.singleton_append]

/-- A report changes nothing else. -/
theorem advances_report (registry : Registry) (event : Log.Event)
    (honest : event.isUnscheduled = true →
      registry.agenda.closed = true ∨ registry.driving = .byTimers false ∨
        event.isOverflow = true) : registry.Advances (registry.report event) := by
  refine advances_of_same _ rfl rfl rfl (fun _ present => present)
    (registry.events_report event) ?_
  intro other present
  rw [List.mem_singleton.mp present]
  exact honest

theorem touches_report (identity : Nat) (registry : Registry) (event : Log.Event)
    (honest : event.isUnscheduled = true →
      registry.agenda.closed = true ∨ registry.driving = .byTimers false ∨
        event.isOverflow = true) : registry.Touches identity (registry.report event) :=
  { advances_report registry event honest with others := fun _ _ => rfl }

theorem touches_report_of_calm (identity : Nat) (registry : Registry) {event : Log.Event}
    (calm : event.isUnscheduled = false) : registry.Touches identity (registry.report event) :=
  { advances_of_calm (registry.events_report event) rfl rfl rfl (fun _ present => present) calm
    with others := fun _ _ => rfl }

theorem tends_report {registry : Registry} {event : Log.Event}
    (calm : event.isUnscheduled = false) : registry.Tends (registry.report event) :=
  (touches_report_of_calm 0 registry calm).toAdvances.tends fun _ => rfl

/-- A report about a message is found among the news. -/
theorem tellsOf_report (registry : Registry) {event : Log.Event} {candidate : Candidate}
    (tells : event.TellsOf candidate) :
    ∃ told ∈ registry.newsUntil (registry.report event), told.TellsOf candidate :=
  ⟨_, (mem_newsUntil_iff (registry.events_report event)).mpr (List.mem_singleton_self _), tells⟩

/-! ## Arming -/

/-- An alarm is refused by a closed agenda, and where nothing hosts timers. -/
theorem acceptAlarm_eq_error {registry : Registry} {due : Nat} {alarm : Alarm}
    {refusal : Schedule.Refusal} (refused : registry.acceptAlarm due alarm = .error refusal) :
    registry.agenda.closed = true ∨ registry.driving = .byTimers false := by
  cases driving : registry.driving with
  | byHand => simp [acceptAlarm, driving] at refused
  | byQueue =>
      simp only [acceptAlarm, driving] at refused
      cases scheduled : registry.agenda.schedule due alarm with
      | error _ => exact .inl (Schedule.Agenda.schedule_eq_error scheduled)
      | ok placed => simp [scheduled, Except.map] at refused
  | byTimers hosted =>
      simp only [acceptAlarm, driving, Schedule.Agenda.scheduleTimer] at refused
      split at refused
      · next unhosted => simp_all
      · cases scheduled : registry.agenda.schedule due alarm with
        | error _ => exact .inl (Schedule.Agenda.schedule_eq_error scheduled)
        | ok placed => simp [scheduled, Except.map] at refused

end Registry

end Redelivery
