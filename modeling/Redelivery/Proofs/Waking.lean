import Redelivery.Proofs.Backlog

/-!
# Waking candidates

A resumption takes the candidates of a sequence one after the other.  Each one that still resends
is armed for the instant of the resumption: its task comes behind all that is due by then, and
before what is due later.  The mark comes off all of them, and nobody else changes.
-/

namespace Redelivery

namespace Schedule.Agenda

variable {α : Type}

/-- Tasks in order are those that are due by an instant, and then the others. -/
theorem IsSorted.split {agenda : Agenda α} (sorted : agenda.IsSorted) (upTo : Nat) :
    agenda.entries = agenda.entries.filter (fun entry => entry.due ≤ upTo) ++
      agenda.entries.filter (fun entry => upTo < entry.due) := by
  obtain ⟨entries, nextTicket, closed⟩ := agenda
  rw [IsSorted] at sorted
  induction entries with
  | nil => rfl
  | cons entry rest inductionHypothesis =>
      obtain ⟨entryFirst, restSorted⟩ := List.pairwise_cons.mp sorted
      have restSplit := inductionHypothesis restSorted
      by_cases isDue : entry.due ≤ upTo
      · simpa [isDue, Nat.not_lt.mpr isDue] using restSplit
      · have noneDue : rest.filter (fun entry => decide (entry.due ≤ upTo)) = [] := by
          refine List.filter_eq_nil_iff.mpr fun other present => ?_
          have later := entryFirst other present
          simp only [decide_eq_true_eq]
          omega
        have allLater : rest.filter (fun entry => decide (upTo < entry.due)) = rest := by
          refine List.filter_eq_self.mpr fun other present => ?_
          have later := entryFirst other present
          simp only [decide_eq_true_eq]
          omega
        simp [isDue, Nat.not_le.mp isDue, noneDue, allLater]

/-- A task comes behind those that are due by its instant, and before the others. -/
theorem place_between {entry : Entry α} {early late : List (Entry α)}
    (isEarly : ∀ other ∈ early, other.due ≤ entry.due)
    (isLate : ∀ other ∈ late, entry.due < other.due) :
    place entry (early ++ late) = early ++ entry :: late := by
  have before : ∀ other ∈ early, decide (other.due ≤ entry.due) = true := fun other present =>
    decide_eq_true (isEarly other present)
  have notBefore : late.takeWhile (fun other => decide (other.due ≤ entry.due)) = [] ∧
      late.dropWhile (fun other => decide (other.due ≤ entry.due)) = late := by
    cases late with
    | nil => exact ⟨rfl, rfl⟩
    | cons first rest =>
        have notDue := Nat.not_le.mpr (isLate first List.mem_cons_self)
        simp [notDue]
  rw [place_eq, List.takeWhile_append_of_pos before, List.dropWhile_append_of_pos before,
    notBefore.1, notBefore.2, List.append_nil]

end Schedule.Agenda

/-! ## One candidate -/

namespace Candidate

/-- Whether a resumption has a suspended candidate resend: there is an address, the limit is not
reached, and the message was not given up. -/
def isResumable (candidate : Candidate) : Bool :=
  candidate.addressable && !candidate.exhausted && candidate.ending.isNone

/-- The candidate after a resumption that armed it. -/
def resumed (now ticket : Nat) (candidate : Candidate) : Candidate :=
  { candidate with
    suspended := false
    requestAck := true
    next := now
    timer := some ticket
    generation := candidate.generation + 1 }

/-- A candidate of a suspended sequence. -/
structure IsHeld (candidate : Candidate) : Prop where
  timerless : candidate.timer = none
  kept : candidate.message = none → candidate.ending ≠ none
  marked : candidate.ending = none → candidate.suspended = true

theorem isResumable_eq_true_iff {candidate : Candidate} :
    candidate.isResumable = true ↔
      candidate.addressable = true ∧ candidate.exhausted = false ∧ candidate.ending = none := by
  simp [isResumable, and_assoc]

/-- A candidate that is held and resumable is passed over by nothing in a resumption. -/
theorem IsHeld.wakes {candidate : Candidate} (held : candidate.IsHeld)
    (resumable : candidate.isResumable = true) :
    candidate.suspended = true ∧ (candidate.isInert || !candidate.addressable) = false := by
  obtain ⟨addressable, further, active⟩ := isResumable_eq_true_iff.mp resumable
  have message : candidate.message.isNone = false := by
    cases isMessage : candidate.message with
    | none => exact absurd active (held.kept isMessage)
    | some message => rfl
  exact ⟨held.marked active, by simp [isInert, addressable, further, active, message]⟩

/-- A candidate that a resumption arms is free as soon as no resend of it is under way. -/
theorem IsHeld.isFree_resumed {candidate : Candidate} (held : candidate.IsHeld)
    (resumable : candidate.isResumable = true) (now ticket : Nat) :
    (candidate.resumed now ticket).isFree = !candidate.pending := by
  obtain ⟨_, awake⟩ := held.wakes resumable
  obtain ⟨notInert, notUnaddressable⟩ := Bool.or_eq_false_iff.mp awake
  have addressable : candidate.addressable = true := by simpa using notUnaddressable
  have isFree : (candidate.resumed now ticket).isFree =
      (!candidate.pending && !false && !candidate.isInert && candidate.addressable) := rfl
  rw [isFree, notInert, addressable, Bool.not_false, Bool.and_true, Bool.and_true, Bool.and_true]

end Candidate

namespace Registry

open Candidate

section

variable {registry : Registry} {identity : Nat} {candidate : Candidate}

/-- A candidate that still resends is armed at once. -/
theorem wake_of_resumable (found : registry.candidate? identity = some candidate)
    (held : candidate.IsHeld) (resumable : candidate.isResumable = true)
    (accepts : registry.acceptsTimers = true) (now : Nat) :
    registry.wake now identity =
      { registry with
        candidates := registry.candidates.modify identity (resumed now registry.agenda.nextTicket)
        agenda := registry.agenda.enter now ⟨identity, candidate.generation + 1⟩
        starting := registry.starting ++ registry.bells registry.agenda.nextTicket } := by
  obtain ⟨suspended, awake⟩ := held.wakes resumable
  let due := (registry.modify identity unsuspend).modify identity fun candidate =>
    { candidate with next := now }
  have dueFound : due.candidate? identity = some { candidate.unsuspend with next := now } :=
    candidate?_modify (candidate?_modify found unsuspend) _
  have stillAccepts : due.acceptsTimers = true := accepts
  have arms := arm_of_accepts dueFound held.timerless stillAccepts now
  simp only [wake, found, suspended, awake, Bool.not_true, Bool.false_eq_true, if_false]
  refine arms.trans ?_
  simp only [armed, due, modify, List.modify_modify_eq]
  rfl

/-- Any other one at most loses its mark, and asks for an acknowledgment again. -/
theorem wake_of_unresumable (found : registry.candidate? identity = some candidate)
    (unresumable : candidate.isResumable = false) (now : Nat) :
    ∃ suspended requestAck, registry.wake now identity =
      registry.modify identity fun _ => { candidate with suspended, requestAck } := by
  have inert : (candidate.isInert || !candidate.addressable) = true := by
    rw [isResumable] at unresumable
    cases addressable : candidate.addressable with
    | false => simp
    | true =>
        rw [addressable, Bool.true_and] at unresumable
        cases further : candidate.exhausted with
        | true => simp [isInert, further]
        | false =>
            have ended : candidate.ending.isSome = true := by
              simpa [further, Option.isSome_iff_ne_none] using unresumable
            simp [isInert, ended]
  simp only [wake, found, inert, if_true]
  cases suspended : candidate.suspended with
  | false =>
      refine ⟨candidate.suspended, candidate.requestAck, ?_⟩
      have same := modify_const found id
      rw [show registry.modify identity id = registry by simp [modify]] at same
      exact same.symm
  | true => exact ⟨false, true, (modify_const found unsuspend).symm⟩

end

/-! ## All candidates of a sequence -/

/-- Whether a resumption has a candidate resend. -/
def isResumable (registry : Registry) (identity : Nat) : Bool :=
  (registry.candidate? identity).any Candidate.isResumable

/-- The candidates that a resumption of a sequence has resend, in the order of their
registration. -/
def resumable (registry : Registry) (sequence : SequenceKey) : List Nat :=
  (registry.roster.listOf sequence).filter registry.isResumable

/-- A task of a candidate that was armed by a resumption. -/
def Rearms (now : Nat) (before after : Registry) (entry : Schedule.Entry Alarm) : Prop :=
  entry.due = now ∧ ∃ candidate, before.candidate? entry.task.candidate = some candidate ∧
    entry.task.generation = candidate.generation + 1 ∧
    after.candidate? entry.task.candidate = some (candidate.resumed now entry.ticket)

/-- What waking candidates one after the other comes to. -/
structure Wakes (now : Nat) (before : Registry) (identities : List Nat) (after : Registry) :
    Prop where
  others : ∀ identity, identity ∉ identities →
    after.candidate? identity = before.candidate? identity
  flags : ∀ identity ∈ identities, ∀ candidate, before.candidate? identity = some candidate →
    candidate.isResumable = false →
    ∃ suspended requestAck,
      after.candidate? identity = some { candidate with suspended, requestAck }
  /-- The new tasks come behind those that are due by then, and before the others. -/
  tasks : ∃ fresh : List (Schedule.Entry Alarm),
    fresh.map (fun entry => entry.task.candidate) = identities.filter before.isResumable ∧
    (∀ entry ∈ fresh, Rearms now before after entry) ∧
    ∀ early late, before.agenda.entries = early ++ late → (∀ entry ∈ early, entry.due ≤ now) →
      (∀ entry ∈ late, now < entry.due) → after.agenda.entries = early ++ fresh ++ late
  frame : ∃ candidates agenda, after = { before with candidates, agenda }

theorem wakes_nil (now : Nat) (registry : Registry) : Wakes now registry [] registry where
  others := fun _ _ => rfl
  flags := nofun
  tasks := by
    refine ⟨[], rfl, nofun, fun early late entries _ _ => ?_⟩
    rw [entries, List.append_nil]
  frame := ⟨registry.candidates, registry.agenda, rfl⟩

/-- A candidate is woken before others, of which it is none. -/
theorem Wakes.cons {now identity : Nat} {rest : List Nat} {before middle after : Registry}
    (first : Wakes now before [identity] middle) (further : Wakes now middle rest after)
    (absent : identity ∉ rest) : Wakes now before (identity :: rest) after where
  others := by
    intro other unlisted
    obtain ⟨isOther, notRest⟩ := not_or.mp (mt List.mem_cons.mpr unlisted)
    rw [further.others other notRest, first.others other (by simpa using isOther)]
  flags := by
    intro other present candidate found unresumable
    rcases List.mem_cons.mp present with rfl | inRest
    · rw [further.others _ absent]
      exact first.flags _ List.mem_cons_self candidate found unresumable
    · have isOther : other ≠ identity := fun same => absent (same ▸ inRest)
      rw [← first.others other (by simpa using isOther)] at found
      exact further.flags other inRest candidate found unresumable
  tasks := by
    obtain ⟨fresh, own, arms, entries⟩ := first.tasks
    obtain ⟨more, others, alsoArms, moreEntries⟩ := further.tasks
    have sameRest : rest.filter middle.isResumable = rest.filter before.isResumable := by
      refine List.filter_congr fun other present => ?_
      have isOther : other ≠ identity := fun same => absent (same ▸ present)
      rw [isResumable, isResumable, first.others other (by simpa using isOther)]
    refine ⟨fresh ++ more, ?_, fun entry present => ?_, fun early late split isEarly isLate => ?_⟩
    · rw [List.map_append, own, others, sameRest, ← List.filter_append]
      rfl
    · rcases List.mem_append.mp present with isFirst | isFurther
      · obtain ⟨due, candidate, found, generation, isArmed⟩ := arms entry isFirst
        have among : entry.task.candidate ∈ [identity].filter before.isResumable :=
          own ▸ List.mem_map_of_mem isFirst
        have same := List.mem_singleton.mp (List.mem_of_mem_filter among)
        exact ⟨due, candidate, found, generation,
          (further.others _ (same ▸ absent)).trans isArmed⟩
      · obtain ⟨due, candidate, found, generation, isArmed⟩ := alsoArms entry isFurther
        have among : entry.task.candidate ∈ rest.filter middle.isResumable :=
          others ▸ List.mem_map_of_mem isFurther
        have isOther : entry.task.candidate ≠ identity := fun same =>
          absent (same ▸ List.mem_of_mem_filter among)
        rw [first.others _ (by simpa using isOther)] at found
        exact ⟨due, candidate, found, generation, isArmed⟩
    · have isEarlyFresh : ∀ entry ∈ early ++ fresh, entry.due ≤ now := by
        intro entry present
        rcases List.mem_append.mp present with old | new
        · exact isEarly entry old
        · exact Nat.le_of_eq (arms entry new).1
      rw [moreEntries (early ++ fresh) late (entries early late split isEarly isLate) isEarlyFresh
        isLate, List.append_assoc early fresh more]
  frame := by
    obtain ⟨_, _, rfl⟩ := first.frame
    obtain ⟨_, _, rfl⟩ := further.frame
    exact ⟨_, _, rfl⟩

/-- What waking one candidate comes to. -/
theorem wakes_one {registry : Registry} {identity : Nat} {candidate : Candidate}
    (byQueue : registry.driving = .byQueue) (isOpen : registry.agenda.closed = false)
    (found : registry.candidate? identity = some candidate) (held : candidate.IsHeld) (now : Nat) :
    Wakes now registry [identity] (registry.wake now identity) := by
  have accepts : registry.acceptsTimers = true := by simp [acceptsTimers, byQueue, isOpen]
  have others {change : Candidate → Candidate} (other : Nat) (unlisted : other ∉ [identity]) :
      (registry.candidates.modify identity change)[other]? = registry.candidates[other]? :=
    candidate?_modify_of_ne (by simpa using unlisted) registry change
  cases resumable : candidate.isResumable with
  | false =>
      obtain ⟨suspended, requestAck, wakes⟩ := wake_of_unresumable found resumable now
      have noneFresh : [identity].filter registry.isResumable = [] := by
        simp [isResumable, found, resumable]
      rw [wakes]
      refine ⟨others, ?_,
        ⟨[], noneFresh.symm, fun _ present => absurd present List.not_mem_nil, ?_⟩,
        ⟨_, registry.agenda, rfl⟩⟩
      · intro other present former isFormer _
        obtain rfl := List.mem_singleton.mp present
        obtain rfl := Option.some.inj (found.symm.trans isFormer)
        exact ⟨suspended, requestAck, candidate?_modify found _⟩
      · intro early late entries _ _
        rw [List.append_nil]
        exact entries
  | true =>
      have wakes := wake_of_resumable found held resumable accepts now
      have noBell : registry.bells registry.agenda.nextTicket = [] := by simp [bells, byQueue]
      let entry : Schedule.Entry Alarm :=
        ⟨now, registry.agenda.nextTicket, ⟨identity, candidate.generation + 1⟩⟩
      have oneFresh : [identity].filter registry.isResumable = [identity] := by
        simp [isResumable, found, resumable]
      rw [noBell, List.append_nil] at wakes
      rw [wakes]
      refine ⟨others, ?_, ⟨[entry], oneFresh.symm, ?_, ?_⟩, ⟨_, _, rfl⟩⟩
      · intro other present former isFormer unresumable
        obtain rfl := List.mem_singleton.mp present
        obtain rfl := Option.some.inj (found.symm.trans isFormer)
        cases resumable.symm.trans unresumable
      · intro other present
        obtain rfl := List.mem_singleton.mp present
        exact ⟨rfl, candidate, found, rfl, candidate?_modify found _⟩
      · intro early late entries isEarly isLate
        have placed : (registry.agenda.enter now entry.task).entries =
            Schedule.Agenda.place entry registry.agenda.entries := rfl
        rw [List.append_assoc]
        exact placed.trans (entries ▸ Schedule.Agenda.place_between isEarly isLate)

/-- Candidates of an open queue that are held are woken one after the other. -/
theorem wakes_foldl {registry : Registry} (byQueue : registry.driving = .byQueue)
    (isOpen : registry.agenda.closed = false) {identities : List Nat} (distinct : identities.Nodup)
    (held : ∀ identity ∈ identities, ∃ candidate, registry.candidate? identity = some candidate ∧
      candidate.IsHeld) (now : Nat) :
    Wakes now registry identities (identities.foldl (wake · now ·) registry) := by
  induction identities generalizing registry with
  | nil => exact wakes_nil now registry
  | cons identity rest inductionHypothesis =>
      obtain ⟨absent, restDistinct⟩ := List.nodup_cons.mp distinct
      obtain ⟨candidate, found, isHeld⟩ := held identity List.mem_cons_self
      have first := wakes_one byQueue isOpen found isHeld now
      have abides := registry.abides_wake now identity
      refine first.cons (inductionHypothesis (abides.driving.trans byQueue)
        (abides.closed.trans isOpen) restDistinct fun other present => ?_) absent
      have isOther : other ≠ identity := fun same => absent (same ▸ present)
      rw [first.others other (by simpa using isOther)]
      exact held other (List.mem_cons_of_mem identity present)

/-! ## The resumption -/

/-- Whether a candidate belongs to a sequence. -/
def isOf (registry : Registry) (sequence : SequenceKey) (identity : Nat) : Bool :=
  (registry.candidate? identity).any fun candidate => decide (candidate.sequence = sequence)

/-- What the resumption of a sequence does at an instant, and what it leaves alone. -/
structure Resumed (now : Nat) (before : Registry) (sequence : SequenceKey) (after : Registry) :
    Prop where
  lists : ∀ other, after.roster.listOf other = before.roster.listOf other
  marks : ∀ other, after.isSuspended other =
    if other = sequence then false else before.isSuspended other
  others : ∀ identity, before.isOf sequence identity = false →
    after.candidate? identity = before.candidate? identity
  /-- A candidate that does not resend changes in its mark and its request alone. -/
  flags : ∀ identity candidate, before.candidate? identity = some candidate →
    candidate.sequence = sequence → identity ∉ before.resumable sequence →
    ∃ suspended requestAck,
      after.candidate? identity = some { candidate with suspended, requestAck }
  /-- Each candidate that resends is armed once, at the instant of the resumption, and keeps its
  progress. -/
  armed : ∀ identity ∈ before.resumable sequence, ∃ candidate ticket,
    before.candidate? identity = some candidate ∧
    after.candidate? identity = some (candidate.resumed now ticket) ∧
    after.agenda.entries.filter (fun entry => entry.task.candidate = identity) =
      [⟨now, ticket, ⟨identity, candidate.generation + 1⟩⟩]
  /-- The new tasks come behind those that are due by then, in the order of registration. -/
  entries : ∃ fresh : List (Schedule.Entry Alarm),
    fresh.map (fun entry => (entry.task.candidate, entry.due)) =
      (before.resumable sequence).map (·, now) ∧
    after.agenda.entries = before.agenda.entries.filter (fun entry => entry.due ≤ now) ++ fresh ++
      before.agenda.entries.filter (fun entry => now < entry.due)
  /-- No task of the sequence waited before. -/
  clear : ∀ entry ∈ before.agenda.entries, before.isOf sequence entry.task.candidate = false
  frame : ∃ candidates roster agenda events, after =
    { before with
      candidates, roster, agenda, journal := { before.journal with events } }

/-- Apart from the log, a resumption wakes the candidates that are suspended and moves their
list. -/
theorem resume_of_suspended {registry : Registry} {sequence : SequenceKey}
    (suspended : registry.roster.isSuspended sequence = true) {now : Nat} {woken : Registry}
    (wakes : (registry.roster.suspendedOf sequence).foldl (wake · now ·)
      (registry.entered "resume" [sequenceField sequence]) = woken)
    (frame : ∃ candidates agenda, woken =
      { registry.entered "resume" [sequenceField sequence] with candidates, agenda }) :
    ∃ events, registry.resume now sequence =
      { registry with
        candidates := woken.candidates
        agenda := woken.agenda
        roster := registry.roster.resume sequence
        journal := { registry.journal with events } } := by
  have marked :
      (!(registry.entered "resume" [sequenceField sequence]).roster.isSuspended sequence) = false :=
    congrArg (!·) suspended
  obtain ⟨candidates, agenda, rfl⟩ := frame
  have resumes : registry.resume now sequence =
      { ({ (registry.roster.suspendedOf sequence).foldl (wake · now ·)
            (registry.entered "resume" [sequenceField sequence]) with
          roster := registry.roster.resume sequence }.report
            (sequenceReport "Resumed" sequence (registry.roster.suspendedOf sequence).length)) with
        journal := (({ (registry.roster.suspendedOf sequence).foldl (wake · now ·)
            (registry.entered "resume" [sequenceField sequence]) with
          roster := registry.roster.resume sequence }.report
            (sequenceReport "Resumed" sequence
              (registry.roster.suspendedOf sequence).length)).journal.leave "resume") } :=
    congrArg (fun result : Registry × Unit =>
      { result.1 with journal := result.1.journal.leave "resume" })
        (if_neg fun unmarked => Bool.false_ne_true (marked.symm.trans unmarked))
  rw [resumes, wakes]
  exact ⟨_, rfl⟩

/-- A sequence that is not suspended is not resumed. -/
theorem resume_of_active {registry : Registry} {sequence : SequenceKey}
    (active : registry.roster.isSuspended sequence = false) (now : Nat) :
    ∃ events, registry.resume now sequence =
      { registry with journal := { registry.journal with events } } := by
  have unmarked :
      (!(registry.entered "resume" [sequenceField sequence]).roster.isSuspended sequence) = true :=
    congrArg (!·) active
  exact ⟨_, congrArg (fun result : Registry × Unit =>
    { result.1 with journal := result.1.journal.leave "resume" })
      (if_pos unmarked)⟩

/-- A sequence without an active candidate is not suspended further. -/
theorem suspend_of_none {registry : Registry} {sequence : SequenceKey}
    (none : registry.roster.activeOf sequence = [])
    (settled : registry.roster.suspend sequence = registry.roster) :
    ∃ events, registry.suspend sequence =
      { registry with journal := { registry.journal with events } } := by
  let entered := registry.entered "suspend" [sequenceField sequence]
  let paused (moved : List Nat) : Registry :=
    { moved.foldl (fun (registry : Registry) identity =>
          (registry.dropTimer identity).modify identity Candidate.suspend) entered with
        roster := entered.roster.suspend sequence }.report
      (sequenceReport "Suspended" sequence moved.length)
  have suspends : registry.suspend sequence =
      { paused (registry.roster.activeOf sequence) with
        journal := (paused (registry.roster.activeOf sequence)).journal.leave "suspend" } := rfl
  have unmoved : paused [] = { registry with journal := (paused []).journal } := by
    have sameRoster : (paused []).roster = registry.roster := settled
    rw [← sameRoster]
    rfl
  rw [suspends, none, unmoved]
  exact ⟨_, rfl⟩

end Registry

end Redelivery
