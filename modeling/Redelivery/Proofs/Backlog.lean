import Mathlib.Algebra.BigOperators.Group.List.Basic
import Redelivery.Proofs.Arming
import Redelivery.Proofs.CatchingUp
import Redelivery.Proofs.Promptness
import Redelivery.Proofs.Queue

/-!
# Working off what is due

A call that runs what is due takes one task after the other, those included that it books itself.
A task resends the message of its candidate, if the candidate is free, and at most books the next
resend for a later instant.  So what is overdue melts away, whatever else goes on, and nothing that
is left is due.
-/

namespace Redelivery

/-! ## How much is overdue -/

namespace Schedule.Agenda

variable {α : Type}

/-- By how much the waiting tasks are overdue together.  A task that is due at once counts. -/
def debt (upTo : Nat) (agenda : Agenda α) : Nat :=
  (agenda.entries.map fun entry => upTo + 1 - entry.due).sum

/-- Whoever takes out a task that is due takes its share of what is overdue. -/
theorem debt_takeDue {agenda rest : Agenda α} {entry : Entry α} {upTo : Nat}
    (taken : agenda.takeDue? upTo = some (entry, rest)) :
    agenda.debt upTo = (upTo + 1 - entry.due) + rest.debt upTo := by
  rw [debt, (takeDue?_eq_some taken).1]
  rfl

end Schedule.Agenda

/-- After a completed resend that is followed by another one, an interval passes. -/
theorem Candidate.due_eq_of_complete {candidate : Candidate} {now due : Nat}
    (next : (candidate.complete now).2 = .next due) :
    due = candidate.next + candidate.interval := by
  obtain ⟨after, sequel, outcome, completes⟩ := candidate.exists_completes now
  rw [outcome] at next
  cases completes with
  | next => exact (Sequel.next.inj next).symm
  | ended | exhausted | held | overflow => cases next

namespace Registry

/-! ## Tasks that fire -/

/-- The timer that a free candidate awaits has it hand over its resend. -/
theorem fireTimer_of_awaits {registry : Registry} {entry : Schedule.Entry Alarm}
    {candidate : Candidate}
    (found : registry.candidate? entry.task.candidate = some candidate)
    (awaits : candidate.Awaits entry) (free : candidate.isFree = true) :
    ∃ handed message, candidate.message = some message ∧
      registry.fireTimer entry.task =
        (handed, some (candidate.job entry.task.candidate message)) ∧
      handed.outline = registry.outline.modify entry.task.candidate Candidate.handedOver ∧
      handed.candidate? entry.task.candidate =
        some (candidate.withTimer none).handedOver := by
  simp only [fireTimer, found]
  generalize reports : registry.report _ = reported
  have reportedFound : reported.candidate? entry.task.candidate = some candidate := by
    rw [← reports]
    exact found
  have sameOutline : reported.outline = registry.outline := by
    rw [← reports]
    rfl
  rw [if_neg (not_not_intro awaits.generation), if_pos free]
  generalize uses : Registry.modify reported _ _ = used
  obtain rfl : reported.modify entry.task.candidate (Candidate.withTimer none) = used := uses
  have usedFound := candidate?_modify reportedFound (Candidate.withTimer none)
  obtain ⟨message, held, handed⟩ := handOver_of_isFree usedFound free
  refine ⟨_, message, held, handed, ?_, candidate?_modify usedFound _⟩
  rw [outline_modify _ _ _ Candidate.handedOver fun _ => rfl,
    outline_modify_timer (Candidate.untimed_withTimer none), sameOutline]

/-- A task that is due has its candidate hand over the next resend, and nothing else. -/
theorem exists_handed {registry : Registry} {agenda : Schedule.Agenda Alarm}
    {entry : Schedule.Entry Alarm} {upTo : Nat} {candidate : Candidate}
    (taken : registry.agenda.takeDue? upTo = some (entry, agenda))
    (found : registry.candidate? entry.task.candidate = some candidate)
    (awaits : candidate.Awaits entry) (free : candidate.isFree = true) :
    ∃ handed job, fireTimer { registry with agenda } entry.task = (handed, some job) ∧
      registry.Abides handed ∧ handed.agenda = agenda ∧
      handed.candidate? job.candidate = some (candidate.withTimer none).handedOver ∧
      handed.outline = registry.outline.modifyAll [entry.task.candidate] Candidate.handedOver ∧
      [job] = [entry.task.candidate].filterMap registry.outline.job? := by
  have abides := (abides_takeDue taken).trans (abides_fireTimer _ entry.task)
  have sameAgenda := Service.agenda_fireTimer { registry with agenda } entry.task
  have isOurs : registry.outline.candidates[entry.task.candidate]? = some candidate.untimed := by
    rw [getElem?_outline, found]
    rfl
  have openedFound : candidate? { registry with agenda } entry.task.candidate = some candidate :=
    found
  obtain ⟨handed, message, held, fires, outline, handedFound⟩ :=
    fireTimer_of_awaits openedFound awaits free
  rw [fires] at abides sameAgenda
  refine ⟨handed, _, fires, abides, sameAgenda, handedFound, ?_, ?_⟩
  · rw [outline, Outline.modifyAll_cons _ fun _ => Candidate.handedOver_handedOver,
      Outline.modifyAll_nil]
    rfl
  · have isHeld : candidate.untimed.message = some message := held
    have own : registry.outline.job? entry.task.candidate =
        some (candidate.job entry.task.candidate message) := by
      rw [Outline.job?, isOurs, Option.bind_some, isHeld]
      rfl
    rw [List.filterMap_cons, own]
    rfl

/-! ## One task -/

theorem candidate?_handOver_of_ne {identity other : Nat} (isOther : other ≠ identity)
    (registry : Registry) :
    (registry.handOver identity).1.candidate? other = registry.candidate? other := by
  unfold handOver
  split
  · rfl
  · split
    · rfl
    · exact candidate?_modify_of_ne isOther registry _

/-- A timer that fires leaves the other candidates alone. -/
theorem candidate?_fireTimer_of_ne {alarm : Alarm} {other : Nat} (isOther : other ≠ alarm.candidate)
    (registry : Registry) :
    (registry.fireTimer alarm).1.candidate? other = registry.candidate? other := by
  unfold fireTimer
  split
  · rfl
  · simp only
    split
    · rfl
    · split
      · exact (candidate?_handOver_of_ne isOther _).trans (candidate?_modify_of_ne isOther _ _)
      · exact candidate?_modify_of_ne isOther _ _

/-- So does a resend. -/
theorem candidate?_deliver_of_ne {job : Job} {other : Nat} (isOther : other ≠ job.candidate)
    (registry : Registry) (now : Nat) :
    (registry.deliver now job).candidate? other = registry.candidate? other := by
  unfold deliver
  split
  · cases failed : (registry.beginSend now job).2.failure with
    | none => exact candidate?_completeSend_of_ne isOther (registry.beginSend now job).1 now
    | some failure =>
        exact candidate?_completeSend_of_ne isOther
          ((registry.beginSend now job).1.reportFailure job failure) now
  · exact candidate?_modify_of_ne isOther registry _

/-- The timer of a candidate that is not free is used up for nothing. -/
theorem fireTimer_of_unfree {registry : Registry} {entry : Schedule.Entry Alarm}
    {candidate : Candidate} (found : registry.candidate? entry.task.candidate = some candidate)
    (awaits : candidate.Awaits entry) (unfree : candidate.isFree = false) :
    ∃ fired, registry.fireTimer entry.task = (fired, none) ∧ fired.outline = registry.outline := by
  simp only [fireTimer, found]
  rw [if_neg (not_not_intro awaits.generation), if_neg (Bool.eq_false_iff.mp unfree)]
  refine ⟨_, rfl, ?_⟩
  exact outline_modify_timer (Candidate.untimed_withTimer none) _ _

/-- After a completed resend at most one task joins those that wait, an interval later. -/
theorem entries_completeSend {registry : Registry} {identity : Nat} {candidate : Candidate}
    (found : registry.candidate? identity = some candidate) (timerless : candidate.timer = none)
    (now : Nat) :
    (registry.completeSend now identity).agenda.entries = registry.agenda.entries ∨
      ∃ entry : Schedule.Entry Alarm, entry.task.candidate = identity ∧
        entry.due = candidate.next + candidate.interval ∧
        (registry.completeSend now identity).agenda.entries =
          Schedule.Agenda.place entry registry.agenda.entries := by
  have updatedFound : (registry.modify identity fun _ => candidate.completed now).candidate?
      identity = some (candidate.completed now) := candidate?_modify found _
  have stillTimerless : (candidate.completed now).timer = none := by
    obtain ⟨_, _, _, _, _, completed⟩ := candidate.completed_eq now
    rw [completed]
    exact timerless
  have disarmed : ((registry.modify identity fun _ => candidate.completed now).disarm
      identity).agenda.entries = registry.agenda.entries := by
    rw [disarm_of_timerless updatedFound stillTimerless]
    rfl
  simp only [completeSend, found]
  cases sequel : (candidate.complete now).2 with
  | ended => exact .inl rfl
  | held => exact .inl rfl
  | exhausted => exact .inl disarmed
  | overflow => exact .inl disarmed
  | next due =>
      obtain rfl := Candidate.due_eq_of_complete sequel
      exact entries_arm updatedFound stillTimerless _

theorem entries_deliver {registry : Registry} {job : Job} {candidate : Candidate}
    (found : registry.candidate? job.candidate = some candidate)
    (timerless : candidate.timer = none) (now : Nat) :
    (registry.deliver now job).agenda.entries = registry.agenda.entries ∨
      ∃ entry : Schedule.Entry Alarm, entry.task.candidate = job.candidate ∧
        entry.due = candidate.next + candidate.interval ∧
        (registry.deliver now job).agenda.entries =
          Schedule.Agenda.place entry registry.agenda.entries := by
  unfold deliver
  split
  · cases failed : (registry.beginSend now job).2.failure with
    | none =>
        have begun : (registry.beginSend now job).1.candidate? job.candidate = some candidate :=
          found
        exact entries_completeSend begun timerless now
    | some failure =>
        have begun : ((registry.beginSend now job).1.reportFailure job failure).candidate?
            job.candidate = some candidate := found
        exact entries_completeSend begun timerless now
  · exact .inl rfl

/-- What a task that was taken out does: its candidate is resent if it is free, and may be armed
again for an interval later; nothing else changes. -/
structure TakesTurn (now : Nat) (before : Registry) (entry : Schedule.Entry Alarm)
    (rest : List (Schedule.Entry Alarm)) (candidate : Candidate) (after : Registry) : Prop where
  found : before.candidate? entry.task.candidate = some candidate
  awaits : candidate.Awaits entry
  abides : before.Abides after
  others : ∀ other, other ≠ entry.task.candidate →
    after.candidate? other = before.candidate? other
  outline : after.outline =
    if candidate.isFree then before.outline.resendAll now [entry.task.candidate]
    else before.outline
  entries : after.agenda.entries = rest ∨
    ∃ next : Schedule.Entry Alarm, next.task.candidate = entry.task.candidate ∧
      next.due = entry.due + candidate.interval ∧
      after.agenda.entries = Schedule.Agenda.place next rest

/-- The task of a free candidate hands over its resend, which goes out. -/
theorem takesTurn_of_free {registry : Registry} {agenda : Schedule.Agenda Alarm}
    {entry : Schedule.Entry Alarm} {upTo : Nat} {candidate : Candidate}
    (taken : registry.agenda.takeDue? upTo = some (entry, agenda))
    (found : registry.candidate? entry.task.candidate = some candidate)
    (awaits : candidate.Awaits entry) (free : candidate.isFree = true) (now : Nat) :
    ∃ handed job, fireTimer { registry with agenda } entry.task = (handed, some job) ∧
      registry.Abides handed ∧ job.candidate = entry.task.candidate ∧
      handed.candidate? entry.task.candidate = some (candidate.withTimer none).handedOver ∧
      TakesTurn now registry entry agenda.entries candidate (handed.deliver now job) := by
  obtain ⟨handed, job, fires, abides, sameAgenda, handedFound, handedOutline, sameJobs⟩ :=
    exists_handed taken found awaits free
  have own : job.candidate = entry.task.candidate := by
    have hands := hands_fireTimer { registry with agenda } entry.task
    rw [fires] at hands
    exact hands.candidate_eq
  refine ⟨handed, job, fires, abides, own, own ▸ handedFound,
    ⟨found, awaits, abides.trans (handed.abides_deliver now job), ?_, ?_, ?_⟩⟩
  · intro other isOther
    rw [candidate?_deliver_of_ne (own ▸ isOther)]
    have fired := candidate?_fireTimer_of_ne isOther { registry with agenda }
    rw [fires] at fired
    exact fired
  · rw [if_pos free]
    refine outline_resent now (List.nodup_singleton entry.task.candidate) ?_ handedOutline sameJobs
    intro identity present
    obtain rfl := List.mem_singleton.mp present
    rw [getElem?_outline, found]
    exact free
  · rw [awaits.due, ← own, ← sameAgenda]
    exact entries_deliver handedFound rfl now

/-- The task of any other candidate does nothing. -/
theorem takesTurn_of_unfree {registry : Registry} {agenda : Schedule.Agenda Alarm}
    {entry : Schedule.Entry Alarm} {upTo : Nat} {candidate : Candidate}
    (taken : registry.agenda.takeDue? upTo = some (entry, agenda))
    (found : registry.candidate? entry.task.candidate = some candidate)
    (awaits : candidate.Awaits entry) (unfree : candidate.isFree = false) (now : Nat) :
    ∃ fired, fireTimer { registry with agenda } entry.task = (fired, none) ∧
      TakesTurn now registry entry agenda.entries candidate fired := by
  have openedFound : candidate? { registry with agenda } entry.task.candidate = some candidate :=
    found
  obtain ⟨fired, fires, sameOutline⟩ := fireTimer_of_unfree openedFound awaits unfree
  have abides := (abides_takeDue taken).trans (abides_fireTimer { registry with agenda } entry.task)
  have sameAgenda := Service.agenda_fireTimer { registry with agenda } entry.task
  rw [fires] at abides sameAgenda
  refine ⟨fired, fires, ⟨found, awaits, abides, ?_, ?_, .inl ?_⟩⟩
  · intro other isOther
    have same := candidate?_fireTimer_of_ne isOther { registry with agenda }
    rw [fires] at same
    exact same
  · rw [sameOutline, if_neg (Bool.eq_false_iff.mp unfree)]
    rfl
  · rw [sameAgenda]

/-- Less is overdue after a task than before it. -/
theorem TakesTurn.debt_lt {now upTo : Nat} {before after : Registry}
    {entry : Schedule.Entry Alarm} {agenda : Schedule.Agenda Alarm} {candidate : Candidate}
    (turn : TakesTurn now before entry agenda.entries candidate after)
    (growing : candidate.interval ≠ 0)
    (taken : before.agenda.takeDue? upTo = some (entry, agenda)) :
    after.agenda.debt upTo < before.agenda.debt upTo := by
  have share := Schedule.Agenda.debt_takeDue taken
  have isDue := Schedule.Agenda.due_le_of_takeDue taken
  rcases turn.entries with same | ⟨next, _, due, placed⟩
  · have sameDebt : after.agenda.debt upTo = agenda.debt upTo := by
      rw [Schedule.Agenda.debt, same]
      rfl
    omega
  · have perm := Schedule.Agenda.place_perm next agenda.entries
    have debt : after.agenda.debt upTo = (upTo + 1 - next.due) + agenda.debt upTo := by
      rw [Schedule.Agenda.debt, placed]
      exact (perm.map fun entry => upTo + 1 - entry.due).sum_eq
    omega

/-! ## All tasks -/

/-- The tasks, the candidates and the lists fit together, and every schedule goes on. -/
structure IsOrderly (registry : Registry) : Prop where
  timed : registry.Timed
  booked : registry.Booked
  sorted : registry.agenda.IsSorted
  growing : ∀ identity candidate, registry.candidate? identity = some candidate →
    candidate.IsGrowing
  sound : ∀ (identity : Nat) (candidate : Candidate),
    registry.outline.candidates[identity]? = some candidate → candidate.Sound
  listed : registry.outline.Listed
  numbered : ∀ sequence,
    ((registry.outline.roster.listOf sequence).map registry.outline.numberOf).Nodup

/-- Tasks that are due are taken out and run, until none is due. -/
inductive WorksOff (now upTo : Nat) :
    Registry → List (Schedule.Entry Alarm) → Registry → Prop where
  | rest {registry : Registry} : registry.IsOrderly → registry.agenda.takeDue? upTo = none →
      WorksOff now upTo registry [] registry
  | turn {registry middle last : Registry} {agenda : Schedule.Agenda Alarm}
      {entry : Schedule.Entry Alarm} {further : List (Schedule.Entry Alarm)}
      {candidate : Candidate} : registry.IsOrderly →
      registry.agenda.takeDue? upTo = some (entry, agenda) →
      TakesTurn now registry entry agenda.entries candidate middle →
      WorksOff now upTo middle further last →
      WorksOff now upTo registry (entry :: further) last

variable {now upTo : Nat} {registry last : Registry} {ran : List (Schedule.Entry Alarm)}

theorem WorksOff.abides (worksOff : WorksOff now upTo registry ran last) :
    registry.Abides last := by
  induction worksOff with
  | rest => exact .refl _
  | turn _ _ turn _ inductionHypothesis => exact turn.abides.trans inductionHypothesis

theorem WorksOff.isOrderly (worksOff : WorksOff now upTo registry ran last) : last.IsOrderly := by
  induction worksOff with
  | rest orderly => exact orderly
  | turn _ _ _ _ inductionHypothesis => exact inductionHypothesis

/-- Nothing is due after the last task. -/
theorem WorksOff.takeDue?_eq_none (worksOff : WorksOff now upTo registry ran last) :
    last.agenda.takeDue? upTo = none := by
  induction worksOff with
  | rest _ rest => exact rest
  | turn _ _ _ _ inductionHypothesis => exact inductionHypothesis

/-- Where no task is due, every armed timer is for a later instant. -/
theorem IsOrderly.lt_next (orderly : registry.IsOrderly)
    (rest : registry.agenda.takeDue? upTo = none) {identity : Nat} {candidate : Candidate}
    (found : registry.candidate? identity = some candidate) (armed : candidate.timer.isSome) :
    upTo < candidate.next := by
  obtain ⟨ticket, timer⟩ := Option.isSome_iff_exists.mp armed
  obtain ⟨due, waits⟩ := orderly.timed.armed identity candidate ticket found timer
  obtain ⟨other, isOther, awaits⟩ := orderly.booked _ waits
  obtain rfl := Option.some.inj (found.symm.trans isOther)
  have later := orderly.sorted.lt_due rest waits
  rw [awaits.due] at later
  exact later

/-! ## What becomes of each sequence -/

/-- A candidate that is free and has not ended is the only one that an attempt on its number
reaches. -/
theorem IsOrderly.singleton_eq (orderly : registry.IsOrderly) {identity : Nat}
    {candidate : Candidate} (found : registry.outline.candidates[identity]? = some candidate)
    (free : candidate.isFree = true) :
    [identity] = ((registry.outline.roster.listOf candidate.sequence).filter fun other =>
        registry.outline.numberOf other = some candidate.number).filter
      (registry.outline.isForcible none) := by
  have active : candidate.ending = none := (Candidate.isFree_eq_true_iff.mp free).2.2.1
  have present := (orderly.listed.present identity candidate found active).1
  have named : registry.outline.numberOf identity = some candidate.number := by
    rw [Outline.numberOf, found]
    rfl
  have among : identity ∈ (registry.outline.roster.listOf candidate.sequence).filter
      fun other => registry.outline.numberOf other = some candidate.number :=
    List.mem_filter.mpr ⟨present, decide_eq_true named⟩
  have forcible : registry.outline.isForcible none identity = true := by
    rw [Outline.isForcible, found]
    simp [free]
  rw [filter_eq_toList_find? (orderly.numbered candidate.sequence)] at among ⊢
  rw [Option.mem_toList.mp among]
  exact (List.filter_eq_self.mpr (by simp [forcible])).symm

/-- A task that is due has a candidate resend its message that is ready, or does nothing. -/
theorem TakesTurn.trail {before after : Registry} {entry : Schedule.Entry Alarm}
    {rest : List (Schedule.Entry Alarm)} {candidate : Candidate}
    (turn : TakesTurn now before entry rest candidate after) (orderly : before.IsOrderly)
    (isDue : entry.due ≤ now) (sequence : SequenceKey) :
    (before.outline.excerpt sequence).Trail now (after.outline.excerpt sequence) := by
  have found : before.outline.candidates[entry.task.candidate]? = some candidate.untimed := by
    rw [getElem?_outline, turn.found]
    rfl
  rw [turn.outline]
  cases free : candidate.isFree with
  | false => exact .refl now _
  | true =>
      have ready : candidate.untimed.isReady now = true :=
        Bool.and_eq_true _ _ ▸ ⟨free, decide_eq_true (turn.awaits.due ▸ isDue)⟩
      rw [if_pos rfl, orderly.singleton_eq found free,
        orderly.listed.excerpt_resendOf orderly.sound]
      split
      · next own =>
          have numbered := Outline.isNumbered_excerpt (orderly.numbered sequence)
          apply Excerpt.Trail.of_resend numbered
          intro other present chosen
          have sameNumber : other.number = candidate.number :=
            of_decide_eq_true (Bool.and_eq_true _ _ ▸ chosen).1
          have listed : candidate.untimed ∈ (before.outline.excerpt sequence).listed :=
            own ▸ orderly.listed.mem_excerpt found turn.awaits.active
          rw [List.inj_on_of_nodup_map numbered present listed sameNumber]
          exact ready
      · exact .refl now _

/-- All that the tasks do is to resend candidates that are ready. -/
theorem WorksOff.trail (worksOff : WorksOff now now registry ran last) (sequence : SequenceKey) :
    (registry.outline.excerpt sequence).Trail now (last.outline.excerpt sequence) := by
  induction worksOff with
  | rest => exact .refl now _
  | turn orderly taken turn _ inductionHypothesis =>
      have isDue := Schedule.Agenda.due_le_of_takeDue taken
      exact (turn.trail orderly isDue sequence).trans inductionHypothesis

/-! ## Resends of some candidates -/

/-- No candidate has two tasks. -/
theorem IsOrderly.candidate_ne (orderly : registry.IsOrderly) {entry : Schedule.Entry Alarm}
    {rest : List (Schedule.Entry Alarm)} (entries : registry.agenda.entries = entry :: rest)
    {other : Schedule.Entry Alarm} (present : other ∈ rest) :
    other.task.candidate ≠ entry.task.candidate := by
  intro same
  have first : entry ∈ registry.agenda.entries := by
    rw [entries]
    exact List.mem_cons_self
  have second : other ∈ registry.agenda.entries := by
    rw [entries]
    exact List.mem_cons_of_mem entry present
  obtain ⟨candidate, found, awaits⟩ := orderly.booked entry first
  obtain ⟨again, alsoFound, alsoAwaits⟩ := orderly.booked other second
  rw [same] at alsoFound
  obtain rfl := Option.some.inj (found.symm.trans alsoFound)
  have sameTicket := Option.some.inj (awaits.timer.symm.trans alsoAwaits.timer)
  have distinct := orderly.timed.agenda.distinct
  rw [entries, List.map_cons, List.nodup_cons, sameTicket] at distinct
  exact distinct.1 (List.mem_map_of_mem present)

/-- Whether a candidate is free. -/
def isFreeAt (registry : Registry) (identity : Nat) : Bool :=
  (registry.candidate? identity).any Candidate.isFree

/-- The watched candidates whose tasks are due, as far as they are free, in the order of their
tasks. -/
def dueAmong (registry : Registry) (watched : Nat → Bool) (upTo : Nat)
    (entries : List (Schedule.Entry Alarm)) : List Nat :=
  ((entries.filter fun entry => watched entry.task.candidate && decide (entry.due ≤ upTo)).map
    fun entry => entry.task.candidate).filter registry.isFreeAt

/-- The resends with which candidates would begin. -/
def resendsOf (registry : Registry) (now : Nat) (identities : List Nat) : List Resend :=
  (identities.filterMap registry.outline.job?).map (Resend.mk now)

theorem dueAmong_cons (registry : Registry) (watched : Nat → Bool) (upTo : Nat)
    {entry : Schedule.Entry Alarm} (isDue : entry.due ≤ upTo)
    (rest : List (Schedule.Entry Alarm)) :
    registry.dueAmong watched upTo (entry :: rest) =
      ([entry.task.candidate].filter fun identity =>
        watched identity && registry.isFreeAt identity) ++
        registry.dueAmong watched upTo rest := by
  simp only [dueAmong, List.filter_cons, decide_eq_true isDue, Bool.and_true, List.filter_nil]
  cases watched entry.task.candidate with
  | false => simp
  | true => cases free : registry.isFreeAt entry.task.candidate <;> simp [free]

/-- What is due among the watched candidates after a task whose candidate is not due again. -/
theorem TakesTurn.dueAmong_eq {before after : Registry} {entry : Schedule.Entry Alarm}
    {rest : List (Schedule.Entry Alarm)} {candidate : Candidate} {watched : Nat → Bool}
    (turn : TakesTurn now before entry rest candidate after)
    (apart : ∀ other ∈ rest, other.task.candidate ≠ entry.task.candidate)
    (later : watched entry.task.candidate = true → upTo < entry.due + candidate.interval) :
    after.dueAmong watched upTo after.agenda.entries = before.dueAmong watched upTo rest ∧
      after.resendsOf now (before.dueAmong watched upTo rest) =
        before.resendsOf now (before.dueAmong watched upTo rest) := by
  have sameFree : ∀ identity ∈ rest.map fun entry => entry.task.candidate,
      after.candidate? identity = before.candidate? identity := by
    intro identity present
    obtain ⟨other, isOther, rfl⟩ := List.mem_map.mp present
    exact turn.others _ (apart other isOther)
  have sameEntries : (after.agenda.entries.filter fun entry =>
        watched entry.task.candidate && decide (entry.due ≤ upTo)) =
      rest.filter fun entry => watched entry.task.candidate && decide (entry.due ≤ upTo) := by
    rcases turn.entries with same | ⟨next, own, due, placed⟩
    · rw [same]
    · rw [placed]
      apply Schedule.Agenda.filter_place
      rw [own, due]
      cases isWatched : watched entry.task.candidate with
      | false => rfl
      | true => simpa using later isWatched
  constructor
  · rw [dueAmong, sameEntries, dueAmong]
    refine List.filter_congr fun identity present => ?_
    have among := List.Sublist.subset (List.filter_sublist.map _) present
    rw [isFreeAt, isFreeAt, sameFree identity among]
  · rw [resendsOf, resendsOf]
    congr 1
    refine List.filterMap_congr fun identity present => ?_
    have among := List.Sublist.subset (List.filter_sublist.map _) (List.mem_of_mem_filter present)
    rw [Outline.job?, Outline.job?, getElem?_outline, getElem?_outline, sameFree identity among]

/-- A task begins a resend of its candidate, if that is free. -/
theorem TakesTurn.resends_eq {before after : Registry} {entry : Schedule.Entry Alarm}
    {rest : List (Schedule.Entry Alarm)} {candidate : Candidate}
    (turn : TakesTurn now before entry rest candidate after) :
    after.journal.resends =
      (before.resendsOf now ([entry.task.candidate].filter before.isFreeAt)).reverse ++
        before.journal.resends := by
  have sameFree : before.isFreeAt entry.task.candidate = candidate.isFree := by
    rw [isFreeAt, turn.found]
    rfl
  have resends := congrArg Outline.resends turn.outline
  cases free : candidate.isFree with
  | false =>
      rw [free, if_neg Bool.false_ne_true] at resends
      rw [List.filter_cons_of_neg (by simp [sameFree, free])]
      exact resends
  | true =>
      rw [free, if_pos rfl] at resends
      rw [List.filter_cons_of_pos (by simp [sameFree, free])]
      exact resends

/-- The jobs of candidates bear their identities. -/
theorem filter_resendsOf (registry : Registry) (now : Nat) (watched : Nat → Bool)
    (identities : List Nat) :
    (registry.resendsOf now identities).filter (fun resend => watched resend.job.candidate) =
      registry.resendsOf now (identities.filter watched) := by
  induction identities with
  | nil => rfl
  | cons identity rest inductionHypothesis =>
      have own : ∀ job, registry.outline.job? identity = some job → job.candidate = identity := by
        intro job isJob
        obtain ⟨candidate, _, isMap⟩ := Option.bind_eq_some_iff.mp isJob
        obtain ⟨message, _, rfl⟩ := Option.map_eq_some_iff.mp isMap
        rfl
      simp only [resendsOf] at inductionHypothesis ⊢
      cases isJob : registry.outline.job? identity with
      | none =>
          rw [List.filterMap_cons_none isJob, inductionHypothesis, List.filter_cons]
          split
          · rw [List.filterMap_cons_none isJob]
          · rfl
      | some job =>
          rw [List.filterMap_cons_some isJob, List.map_cons, List.filter_cons, List.filter_cons,
            inductionHypothesis, own job isJob]
          split
          · rw [List.filterMap_cons_some isJob, List.map_cons]
          · rfl

/-- Where no watched task is overdue, each watched candidate whose task is due now is resent once,
as it was, in the order of the tasks. -/
theorem WorksOff.resends_of {watched : Nat → Bool}
    (worksOff : WorksOff now upTo registry ran last)
    (timely : ∀ entry ∈ registry.agenda.entries, watched entry.task.candidate = true →
      upTo ≤ entry.due) :
    last.journal.resends.filter (fun resend => watched resend.job.candidate) =
      (registry.resendsOf now (registry.dueAmong watched upTo registry.agenda.entries)).reverse ++
        registry.journal.resends.filter fun resend => watched resend.job.candidate := by
  induction worksOff with
  | @rest registry orderly rest =>
      have noneDue : (registry.agenda.entries.filter fun entry =>
          watched entry.task.candidate && decide (entry.due ≤ upTo)) = [] := by
        refine List.filter_eq_nil_iff.mpr fun entry present => ?_
        have later := orderly.sorted.lt_due rest present
        simp [Nat.not_le.mpr later]
      rw [dueAmong, noneDue]
      rfl
  | @turn registry middle last agenda entry further candidate orderly taken turn _
      inductionHypothesis =>
      obtain ⟨entries, _, _⟩ := Schedule.Agenda.takeDue?_eq_some taken
      have isDue := Schedule.Agenda.due_le_of_takeDue taken
      have growing := Nat.pos_of_ne_zero (orderly.growing _ _ turn.found).growing
      have later : watched entry.task.candidate = true →
          upTo < entry.due + candidate.interval := by
        intro isWatched
        have atLeast := timely entry (entries ▸ List.mem_cons_self) isWatched
        omega
      have stillTimely : ∀ other ∈ middle.agenda.entries, watched other.task.candidate = true →
          upTo ≤ other.due := by
        have inRest : ∀ other ∈ agenda.entries, watched other.task.candidate = true →
            upTo ≤ other.due := fun other present =>
          timely other (entries ▸ List.mem_cons_of_mem entry present)
        rcases turn.entries with same | ⟨next, own, due, placed⟩
        · rw [same]
          exact inRest
        · rw [placed]
          intro other present isWatched
          rcases Schedule.Agenda.mem_place_iff.mp present with rfl | old
          · have beyond := later (own ▸ isWatched)
            omega
          · exact inRest other old isWatched
      obtain ⟨sameDue, sameResends⟩ :=
        turn.dueAmong_eq (fun other => orderly.candidate_ne entries) later
      rw [inductionHypothesis stillTimely, sameDue, sameResends, turn.resends_eq, entries,
        dueAmong_cons _ _ _ isDue, List.filter_append, List.filter_reverse, filter_resendsOf,
        List.filter_filter]
      simp only [resendsOf, List.filterMap_append, List.map_append, List.reverse_append,
        List.append_assoc]

end Registry

namespace Service

open Registry

/-- No number occurs twice in a sequence. -/
theorem IsReachable.numbered {service : Service} (reachable : service.IsReachable)
    (sequence : SequenceKey) :
    ((service.outline.roster.listOf sequence).map service.outline.numberOf).Nodup := by
  obtain ⟨first, moves, initial, run⟩ := reachable
  exact (tracks_run initial run).nodup_numbers sequence

theorem IsReachable.isOrderly {service : Service} (reachable : service.IsReachable) :
    service.world.IsOrderly where
  timed := reachable.isBooked.isTimed.timed
  booked := reachable.isBooked.booked
  sorted := reachable.isSorted
  growing := fun _ _ found => reachable.isGrowing found
  sound := fun identity => (reachable.sound.share identity).candidate
  listed := { reachable.sound.listed with }
  numbered := reachable.numbered

theorem GoesOn.isPrompt {first last : Service} (goesOn : first.GoesOn last)
    (reachable : first.IsReachable) (prompt : first.IsPrompt) : last.IsPrompt := by
  induction goesOn using Relation.ReflTransGen.head_induction_on with
  | refl => exact prompt
  | @head service next stepped _ inductionHypothesis =>
      have isStep : service.move? (.step 0) = some next := stepped
      exact inductionHypothesis ((Leads.of_move _ isStep).isReachable reachable)
        (prompt.move reachable.sound.tidy isStep rfl fun _ => Move.noConfusion)

variable {service : Service} {registry : Registry} {upTo call : Nat}

/-- A task that is due has its turn while the call goes on. -/
theorem exists_takesTurn {ran : Nat} {agenda : Schedule.Agenda Alarm}
    {entry : Schedule.Entry Alarm}
    (reachable : (service.calling registry [.runDue upTo ran call]).IsReachable)
    (prompt : (service.calling registry [.runDue upTo ran call]).IsPrompt)
    (taken : registry.agenda.takeDue? upTo = some (entry, agenda)) :
    ∃ candidate after, TakesTurn service.now registry entry agenda.entries candidate after ∧
      (service.calling registry [.runDue upTo ran call]).GoesOn
        (service.calling after [.runDue upTo (ran + 1) call]) := by
  have orderly : registry.IsOrderly := reachable.isOrderly
  have starting : registry.starting = [] := reachable.isBooked.isTimed.started
  have untimed (hosted : Bool) : registry.driving ≠ .byTimers hosted := by
    have byQueue : registry.driving = .byQueue := prompt.byQueue
    rw [byQueue]
    exact Driving.noConfusion
  have present : entry ∈ registry.agenda.entries := by
    rw [(Schedule.Agenda.takeDue?_eq_some taken).1]
    exact List.mem_cons_self
  obtain ⟨candidate, found, awaits⟩ := orderly.booked entry present
  have inline : candidate.IsInline := prompt.inline entry.task.candidate candidate found
  have runs {handed : Registry × Option Job}
      (fires : fireTimer { registry with agenda } entry.task = handed)
      (known : ∀ job, handed.2 = some job → ∃ candidate,
        handed.1.candidate? job.candidate = some candidate ∧
          ∀ owner, candidate.routing.resolve owner = .inline) :
      perform (.runDue upTo ran call) [] { service with world := registry } =
        ({ service with world := handed.1 },
          .onward (handed.2.toList.map Instruction.send ++ [.runDue upTo (ran + 1) call])) := by
    simp only [perform, runDue, taken]
    rw [show fireTimer { registry with agenda } entry.task = handed from fires]
    exact pursue_inline known _ _
  cases free : candidate.isFree with
  | false =>
      obtain ⟨fired, fires, turn⟩ := takesTurn_of_unfree taken found awaits free service.now
      refine ⟨candidate, fired, turn, .single ?_⟩
      exact stepAt_calling service (runs fires fun _ isJob => by cases isJob)
        ((turn.abides.starting untimed).trans starting)
  | true =>
      obtain ⟨handed, job, fires, abides, own, handedFound, turn⟩ :=
        takesTurn_of_free taken found awaits free service.now
      have performs := runs fires fun other isOther => by
        obtain rfl := Option.some.inj isOther
        exact ⟨(candidate.withTimer none).handedOver, own ▸ handedFound, inline⟩
      have instant : handed.script.IsInstant := abides.instant prompt.instant
      have delivers : perform (.send job) [.runDue upTo (ran + 1) call]
          { service with world := handed } =
            ({ service with world := handed.deliver service.now job },
              .onward [.runDue upTo (ran + 1) call]) :=
        send_of_instant instant job _
      refine ⟨candidate, handed.deliver service.now job, turn, ?_⟩
      refine .head (stepAt_calling service performs ((abides.starting untimed).trans starting)) ?_
      exact .single (stepAt_calling service delivers
        ((turn.abides.starting untimed).trans starting))

/-- Task after task is run until none is due: every task leaves less overdue. -/
theorem exists_worksOff {ran : Nat}
    (reachable : (service.calling registry [.runDue upTo ran call]).IsReachable)
    (prompt : (service.calling registry [.runDue upTo ran call]).IsPrompt) :
    ∃ tasks last, WorksOff service.now upTo registry tasks last ∧
      (service.calling registry [.runDue upTo ran call]).GoesOn
        (service.calling last [.reply call (.count (ran + tasks.length))]) := by
  induction debt : registry.agenda.debt upTo using Nat.strong_induction_on
    generalizing registry ran with
  | _ debt inductionHypothesis =>
      have orderly : registry.IsOrderly := reachable.isOrderly
      cases taken : registry.agenda.takeDue? upTo with
      | none =>
          have performs : perform (.runDue upTo ran call) [] { service with world := registry } =
              ({ service with world := registry }, .onward [.reply call (.count ran)]) := by
            simp only [perform, runDue, taken, proceed]
          exact ⟨[], registry, .rest orderly taken,
            .single (stepAt_calling service performs reachable.isBooked.isTimed.started)⟩
      | some task =>
          obtain ⟨entry, agenda⟩ := task
          obtain ⟨candidate, middle, turn, goesOn⟩ := exists_takesTurn reachable prompt taken
          have less := turn.debt_lt (orderly.growing _ _ turn.found).growing taken
          obtain ⟨tasks, last, worksOff, further⟩ := inductionHypothesis _ (debt ▸ less)
            (goesOn.leads.isReachable reachable) (goesOn.isPrompt reachable prompt) rfl
          refine ⟨entry :: tasks, last, .turn orderly taken turn worksOff, goesOn.trans ?_⟩
          rw [Nat.add_right_comm] at further
          exact further

/-! ## The call -/

/-- What a call that runs everything due by an instant has done at its end. -/
structure RunsUpTo (service : Service) (upTo : Nat) (tasks : List (Schedule.Entry Alarm))
    (last : Service) : Prop where
  /-- The call goes on, step by step, until it is over. -/
  goesOn : (service.carryOut (.request none (.runDue upTo))).GoesOn last
  answered : service.answerOf last = some (.count tasks.length)
  now : last.now = service.now
  /-- No activity is left of the call. -/
  ready : last.ready = service.ready
  asleep : last.asleep = service.asleep
  worksOff : WorksOff service.now upTo
    { service.world with calls := service.world.calls.make.2 } tasks
    { last.world with calls := service.world.calls.make.2 }

theorem exists_runsUpTo {service : Service} (reachable : service.IsReachable)
    (prompt : service.IsPrompt) (upTo : Nat) : ∃ tasks last, service.RunsUpTo upTo tasks last := by
  let called := { service.world with calls := service.world.calls.make.2 }
  let call := service.world.calls.make.1
  have admitted : service.admits (.request none (.runDue upTo)) = true :=
    decide_eq_true prompt.byQueue
  have begins : service.move? (.command (.request none (.runDue upTo))) =
      some (service.calling called [.runDue upTo 0 call]) := if_pos admitted
  have begun := (Leads.of_move _ begins).isReachable reachable
  have stillPrompt : (service.calling called [.runDue upTo 0 call]).IsPrompt :=
    ⟨prompt.byQueue, prompt.inline, prompt.instant⟩
  obtain ⟨tasks, last, worksOff, goesOn⟩ := exists_worksOff begun stillPrompt
  rw [Nat.zero_add] at goesOn
  have sameCalls : last.calls = called.calls :=
    congrArg Surroundings.calls worksOff.abides.surroundings
  have unstarted : last.starting = [] :=
    (goesOn.leads.isReachable begun).isBooked.isTimed.started
  refine ⟨tasks, { service with world := last.reply call (.count tasks.length) },
    goesOn.trans (goesOn_reply service unstarted call _), ?_, rfl, rfl, rfl, ?_⟩
  · have made : call < last.calls.answers.length := by
      rw [sameCalls]
      simp [called, call, Calls.make]
    exact Calls.answer?_reply_self made _
  · have same : { last.reply call (.count tasks.length) with
        calls := service.world.calls.make.2 } = last := by
      rw [show service.world.calls.make.2 = last.calls from sameCalls.symm]
      rfl
    rw [same]
    exact worksOff

/-- A call that runs what is due comes to its end, however often a resend books the next one for
an instant that has passed as well, and every timer that is armed then is for a later instant. -/
theorem runDue_ends {service : Service} (reachable : service.IsReachable)
    (prompt : service.IsPrompt) (upTo : Nat) :
    ∃ count last, (service.carryOut (.request none (.runDue upTo))).GoesOn last ∧
      last.now = service.now ∧ last.ready = service.ready ∧ last.asleep = service.asleep ∧
      service.answerOf last = some (.count count) ∧
      last.world.agenda.takeDue? upTo = none ∧
      ∀ identity candidate, last.world.candidate? identity = some candidate →
        candidate.timer.isSome → upTo < candidate.next := by
  obtain ⟨tasks, last, runs⟩ := exists_runsUpTo reachable prompt upTo
  have rest := runs.worksOff.takeDue?_eq_none
  exact ⟨tasks.length, last, runs.goesOn, runs.now, runs.ready, runs.asleep, runs.answered, rest,
    fun _ _ found armed => runs.worksOff.isOrderly.lt_next rest found armed⟩

end Service

namespace Sample

/-- Two messages are registered, and nobody runs what is due for a minute. -/
def neglected : List Move :=
  [.command (.add (message 1 none)), .wait 1000000000, .command (.add (message 2 none)),
    .wait 60000000000]

theorem isPrompt_neglected {last : Service} (run : Run (service .byQueue) neglected last) :
    last.IsPrompt :=
  Service.isPrompt_run (isInitial_service .byQueue) rfl (fun owner => by cases owner <;> rfl)
    Script.isInstant_empty (by decide) run

end Sample

namespace Service

/-- Two tasks are due and overdue several times. -/
theorem runDue_ends_of_neglected :
    ∃ service, Run (Sample.service .byQueue) Sample.neglected service ∧
      service.IsPrompt ∧
      service.world.agenda.entries.map Schedule.Entry.due = [3000000000, 4000000000] ∧
      ∃ count last, (service.carryOut (.request none (.runDue 60000000000))).GoesOn last ∧
        service.answerOf last = some (.count count) ∧
        ∀ identity candidate, last.world.candidate? identity = some candidate →
          candidate.timer.isSome → 60000000000 < candidate.next := by
  have followed : (follow Sample.neglected (Sample.service .byQueue)).isSome = true := by
    decide +kernel
  obtain ⟨service, isService⟩ := Option.isSome_iff_exists.mp followed
  have run := Run.of_follow isService
  have prompt := Sample.isPrompt_neglected run
  have waiting : ((follow Sample.neglected (Sample.service .byQueue)).map fun service =>
      service.world.agenda.entries.map Schedule.Entry.due) = some [3000000000, 4000000000] := by
    decide +kernel
  rw [isService] at waiting
  have reachable : service.IsReachable := ⟨_, _, Sample.isInitial_service .byQueue, run⟩
  obtain ⟨count, last, goesOn, _, _, _, answered, _, later⟩ :=
    runDue_ends reachable prompt 60000000000
  exact ⟨service, run, prompt, Option.some.inj waiting, count, last, goesOn, answered, later⟩

end Service

end Redelivery
