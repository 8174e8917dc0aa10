import Redelivery.Proofs.Filing
import Redelivery.Proofs.Queue
import Redelivery.Proofs.Surroundings
import Redelivery.Proofs.Undisturbed

/-!
# Registering a message again

A message that was purged may be registered again while a timer of the former candidate is
still armed, or while one of its resends waits for a permit or is on its way.  What is left of
the former candidate finds it by its identity, which the new candidate does not share, and its
tickets are not given out a second time.
-/

namespace Redelivery

namespace Service

/-! ## Tickets -/

/-- A ticket is given out once in a run. -/
theorem issues_run {first last : Service} {moves : List Move} (run : Run first moves last) :
    first.world.agenda.Issues last.world.agenda := by
  induction run with
  | start => exact .refl _
  | extend _ moved inductionHypothesis =>
      exact inductionHypothesis.trans (upholds_move moved).issues

end Service

/-! ## Candidates that have ended -/

/-- A candidate that has ended keeps its place in the schedule and the way it ended. -/
structure Candidate.Rests (candidate later : Candidate) : Prop where
  retries : later.retries = candidate.retries
  next : later.next = candidate.next
  previous : later.previous = candidate.previous
  interval : later.interval = candidate.interval
  ending : later.ending = candidate.ending

namespace Candidate

theorem Rests.refl (candidate : Candidate) : candidate.Rests candidate :=
  ⟨rfl, rfl, rfl, rfl, rfl⟩

theorem Rests.trans {first second third : Candidate} (earlier : first.Rests second)
    (later : second.Rests third) : first.Rests third where
  retries := later.retries.trans earlier.retries
  next := later.next.trans earlier.next
  previous := later.previous.trans earlier.previous
  interval := later.interval.trans earlier.interval
  ending := later.ending.trans earlier.ending

variable {candidate : Candidate}

theorem rests_finished (ended : candidate.ending ≠ none) (ending : Ending) :
    candidate.Rests (candidate.finished ending) where
  retries := rfl
  next := rfl
  previous := rfl
  interval := rfl
  ending := by
    rcases Option.ne_none_iff_exists'.mp ended with ⟨first, isFirst⟩
    rw [isFirst]
    exact ending_finish_of_ending isFirst ending

theorem rests_paused : candidate.Rests candidate.paused := by
  rcases candidate.paused_eq with ⟨_, paused, _⟩
  rw [paused]
  exact ⟨rfl, rfl, rfl, rfl, rfl⟩

/-- A resumption does not reschedule what has ended. -/
theorem rests_woken (ended : candidate.ending ≠ none) (now : Nat) :
    candidate.Rests (candidate.woken now) := by
  have inert : candidate.isInert = true := by
    simp [isInert, Option.isSome_iff_ne_none.mpr ended]
  unfold woken
  rw [inert]
  split
  · exact .refl candidate
  · exact ⟨rfl, rfl, rfl, rfl, rfl⟩

theorem maySend_of_ended (ended : candidate.ending ≠ none) : candidate.maySend = false := by
  rw [Bool.eq_false_iff, ne_eq, maySend_eq_true_iff]
  exact fun may => ended may.2.2.1

end Candidate

/-- Nothing that happens to a message after its end counts or goes out. -/
theorem Share.Turn.rests {now : Nat} {before after : Share} (turn : Turn now before after)
    {candidate : Candidate} (found : before.candidate = some candidate)
    (ended : candidate.ending ≠ none) :
    after.resends = before.resends ∧
      ∃ later, after.candidate = some later ∧ candidate.Rests later := by
  cases turn with
  | step step =>
      cases step with
      | quiet => exact ⟨rfl, candidate, found, .refl candidate⟩
      | handOver identity free held =>
          cases found
          exact absurd (Candidate.isFree_eq_true_iff.mp free).2.2.1 ended
      | begin may =>
          cases found
          exact absurd (Candidate.maySend_eq_true_iff.mp may).2.2.1 ended
      | deliver may =>
          cases found
          exact absurd (Candidate.maySend_eq_true_iff.mp may).2.2.1 ended
      | conclude =>
          obtain rfl : _ = some candidate := found
          refine ⟨rfl, _, rfl, ?_⟩
          rw [Candidate.completed_of_ended ended]
          exact ⟨rfl, rfl, rfl, rfl, rfl⟩
      | skip refused =>
          obtain rfl : _ = some candidate := found
          exact ⟨rfl, _, rfl, rfl, rfl, rfl, rfl, rfl⟩
      | finish ending =>
          cases found
          exact ⟨rfl, _, rfl, Candidate.rests_finished ended ending⟩
  | enroll routing suspended message => cases found
  | suspend =>
      cases found
      exact ⟨rfl, _, rfl, Candidate.rests_paused⟩
  | wake =>
      cases found
      exact ⟨rfl, _, rfl, Candidate.rests_woken ended now⟩

namespace Service

/-- Whoever has ended rests for the remainder of the run. -/
theorem rests_run {first last : Service} {moves : List Move} {identity : Nat}
    {candidate : Candidate} (sound : first.Sound)
    (found : first.outline.candidates[identity]? = some candidate)
    (ended : candidate.ending ≠ none) (run : Run first moves last) :
    (last.outline.share identity).resends = (first.outline.share identity).resends ∧
      ∃ later, last.outline.candidates[identity]? = some later ∧ candidate.Rests later := by
  induction run with
  | start => exact ⟨rfl, candidate, found, .refl candidate⟩
  | extend run moved inductionHypothesis =>
      obtain ⟨sameResends, middle, isMiddle, rests⟩ := inductionHypothesis
      have stillEnded : middle.ending ≠ none := rests.ending ▸ ended
      have turn := (turn_move (sound.run run).tidy moved).2.2 identity
      obtain ⟨noResend, later, isLater, further⟩ := turn.rests isMiddle stillEnded
      exact ⟨noResend.trans sameResends, later, isLater, rests.trans further⟩

/-- A purge ends a candidate where it stands. -/
theorem finished_of_purges {before after : Service} {identity : Nat} {move : Move}
    {candidate : Candidate} (purges : before.Purges identity move)
    (moved : before.move? move = some after)
    (found : before.outline.candidates[identity]? = some candidate) :
    (after.outline.share identity).resends = (before.outline.share identity).resends ∧
      ∃ ending, after.outline.candidates[identity]? = some (candidate.finished ending) := by
  cases purges with
  | acknowledged purged =>
      obtain rfl := eq_carryOut moved
      simp only [Outline.share, Outline.shareWith]
      rw [outline_purgeAcknowledged, if_neg (List.ne_nil_of_mem purged)]
      refine ⟨rfl, .resolved, ?_⟩
      rw [Outline.getElem?_modifyAll, found, Option.map_some, if_pos purged]
  | all listed =>
      obtain rfl := eq_carryOut moved
      simp only [Outline.share, Outline.shareWith]
      rw [outline_purgeAll]
      refine ⟨rfl, .cancelled, ?_⟩
      rw [Outline.getElem?_modifyAll, found, Option.map_some, if_pos listed]

/-! ## What is left of a candidate -/

end Service

/-- Whether an instruction is left over from a candidate: it runs one of the candidate's jobs,
it waits for one of its tickets, or it is about the permit of a pool. -/
def Instruction.IsLeftover (identity : Nat) (held : Nat → Prop) : Instruction → Prop
  | .send job | .enqueue _ job | .conclude job _ => job.candidate = identity
  | .ring ticket => held ticket
  | .acquire _ | .release _ => True
  | _ => False

theorem Instruction.isLeftover_of_errand {instruction : Instruction} {errand : Errand}
    {held : Nat → Prop} (runs : instruction.errand? = some errand) :
    instruction.IsLeftover errand.job.candidate held := by
  cases instruction <;> cases runs <;> rfl

/-- All candidates but one are spared, with their timers and their places on the lists, and
nothing goes out. -/
structure Registry.Spares (identity : Nat) (before after : Registry) : Prop where
  others : ∀ other, other ≠ identity → after.candidate? other = before.candidate? other
  roster : after.roster = before.roster
  agenda : after.agenda = before.agenda
  resends : after.journal.resends = before.journal.resends

namespace Registry

theorem Spares.refl (identity : Nat) (registry : Registry) : registry.Spares identity registry :=
  ⟨fun _ _ => rfl, rfl, rfl, rfl⟩

theorem spares_modify (registry : Registry) (identity : Nat) (change : Candidate → Candidate) :
    registry.Spares identity (registry.modify identity change) :=
  ⟨fun _ isOther => candidate?_modify_of_ne isOther registry change, rfl, rfl, rfl⟩

/-- A completed resend is of no consequence after the end of its candidate. -/
theorem spares_concludeSend {registry : Registry} {job : Job} {candidate : Candidate}
    (found : registry.candidate? job.candidate = some candidate)
    (ended : candidate.ending ≠ none) (now : Nat) (failure : Option TransportFailure) :
    registry.Spares job.candidate (registry.concludeSend now job failure) := by
  have completes (reported : Registry) (same : reported.candidates = registry.candidates) :
      reported.completeSend now job.candidate =
        reported.modify job.candidate fun _ => { candidate with pending := false } := by
    have foundThere : reported.candidate? job.candidate = some candidate := by
      rw [candidate?, same]
      exact found
    have idle : candidate.complete now = ({ candidate with pending := false }, .ended) :=
      (Candidate.Completes.ended ended).eq
    simp only [completeSend, foundThere, idle]
  cases failure with
  | none =>
      change registry.Spares job.candidate (registry.completeSend now job.candidate)
      rw [completes registry rfl]
      exact spares_modify registry job.candidate _
  | some failure =>
      change registry.Spares job.candidate
        ((registry.reportFailure job failure).completeSend now job.candidate)
      rw [completes (registry.reportFailure job failure) rfl]
      have spares := spares_modify (registry.reportFailure job failure) job.candidate fun _ =>
        { candidate with pending := false }
      exact ⟨spares.others, spares.roster, spares.agenda, spares.resends⟩

end Registry

namespace Service

/-- What is left over from a candidate that has ended spares everybody else. -/
theorem spares_perform {service : Service} {identity : Nat} {held : Nat → Prop}
    {candidate : Candidate} (found : service.world.candidate? identity = some candidate)
    (ended : candidate.ending ≠ none)
    (gone : ∀ ticket, held ticket → service.world.agenda.find? ticket = none)
    {instruction : Instruction} (leftover : instruction.IsLeftover identity held)
    (rest : Program) :
    service.world.Spares identity (perform instruction rest service).1.world := by
  cases instruction with
  | ring ticket =>
      simp only [perform, ring, gone ticket leftover]
      exact .refl identity service.world
  | send job =>
      obtain rfl : job.candidate = identity := leftover
      have mayNot : service.world.maySend job = false := by
        simp [Registry.maySend, found, Candidate.maySend_of_ended ended]
      simp only [perform, send, mayNot, Bool.false_eq_true, if_false]
      exact Registry.spares_modify service.world job.candidate _
  | conclude job failure =>
      obtain rfl : job.candidate = identity := leftover
      exact Registry.spares_concludeSend found ended service.now failure
  | enqueue pool job => exact ⟨fun _ _ => rfl, rfl, rfl, rfl⟩
  | acquire pool => exact ⟨fun _ _ => rfl, rfl, rfl, rfl⟩
  | release pool =>
      simp only [perform, release, proceed]
      cases (Executor.Pool.releaseAt service.world.pools pool).2 <;>
        exact ⟨fun _ _ => rfl, rfl, rfl, rfl⟩
  | driveDue _ _ | attempt _ _ _ | runDue _ _ _ | serve _ | hear _ | leave _ | reply _ _ =>
      cases leftover

/-- So does the step of an activity. -/
theorem spares_stepAt {service after : Service} {identity index : Nat} {held : Nat → Prop}
    {candidate : Candidate} (found : service.world.candidate? identity = some candidate)
    (ended : candidate.ending ≠ none)
    (gone : ∀ ticket, held ticket → service.world.agenda.find? ticket = none)
    {instruction : Instruction} {rest : Program} {foreground : Bool}
    (ready : service.ready[index]? = some ⟨instruction :: rest, foreground⟩)
    (leftover : instruction.IsLeftover identity held)
    (stepped : service.stepAt behave index = some after) :
    service.world.Spares identity after.world := by
  obtain ⟨program, _, isReady, others, sameWorld, _, _, went⟩ := stepAt_eq_some stepped
  obtain ⟨rfl, _⟩ := Activity.mk.inj (Option.some.inj (ready.symm.trans isReady))
  rcases went with ⟨ended, _⟩ | ⟨first, others', middle, isProgram, isMiddle, world, _⟩
  · cases ended
  · obtain ⟨rfl, rfl⟩ := List.cons.inj isProgram
    rw [← sameWorld] at found gone ⊢
    have spares : others.world.Spares identity (perform instruction rest others).1.world :=
      spares_perform found ended gone leftover rest
    rw [world, isMiddle]
    exact ⟨spares.others, spares.roster, spares.agenda, spares.resends⟩

/-! ## The main result -/

/-- Whether a candidate has held a ticket at some moment of a run. -/
def HasHeld (first last : Service) (identity ticket : Nat) : Prop :=
  ∃ moves middle more, Run first moves middle ∧ Run middle more last ∧
    (middle.world.candidate? identity).bind Candidate.timer = some ticket

/-- A ticket that a candidate has held leads to nothing once no task waits for the
candidate. -/
theorem HasHeld.find?_eq_none {first middle last : Service} {moves : List Move}
    {identity ticket : Nat} (initial : first.IsInitial)
    (held : HasHeld first middle identity ticket)
    (further : Run middle moves last) (clear : last.world.IsClear identity) :
    last.world.agenda.find? ticket = none := by
  obtain ⟨_, holder, _, toHolder, toMiddle, armed⟩ := held
  obtain ⟨candidate, found, timer⟩ := Option.bind_eq_some_iff.mp armed
  have timed := (initial.isBooked.run toHolder).isTimed.timed
  obtain ⟨_, waits⟩ := timed.armed identity candidate ticket found timer
  have issues := issues_run (toMiddle.trans further)
  cases leads : last.world.agenda.find? ticket with
  | none => rfl
  | some entry =>
      have present := List.mem_of_find?_eq_some leads
      obtain rfl := issues.eq_of_ticket timed.agenda waits present
        (Schedule.Agenda.ticket_of_find? leads)
      exact absurd rfl (clear _ present)

/-- The candidate of a message that was purged is apart from the one that was registered for
the message afterwards. -/
structure IsApart (service : Service) (old new : Nat) (former : Candidate)
    (held : Nat → Prop) : Prop where
  distinct : new ≠ old
  /-- The new candidate stands for the same message. -/
  successor : ∃ candidate, service.world.candidate? new = some candidate ∧
    candidate.sequence = former.sequence ∧ candidate.number = former.number
  /-- The old one stays where it was when it was purged, without a timer. -/
  rests : ∃ candidate, service.world.candidate? old = some candidate ∧
    candidate.retries = former.retries ∧ candidate.next = former.next ∧
    candidate.previous = former.previous ∧ candidate.interval = former.interval ∧
    candidate.phase.isTerminal = true ∧ candidate.timer = none
  unlisted : old ∉ service.world.roster.all
  clear : service.world.IsClear old
  /-- None of its tickets leads to a task, let alone to one of another candidate. -/
  retired : ∀ ticket, held ticket → service.world.agenda.find? ticket = none
  /-- Whatever is left of it spares the new one, the lists and their count. -/
  steps : ∀ index instruction rest foreground after,
    service.ready[index]? = some ⟨instruction :: rest, foreground⟩ →
    instruction.IsLeftover old held → service.move? (.step index) = some after →
    service.world.Spares old after.world

/-- If a message is purged and registered again, then at every later moment nothing that is
left of the former candidate, be it a timer, a job that waits, or a resend under way, concerns
the new candidate or the lists; the former candidate stays as it was at the purge, and none of
its resends goes out any more. -/
theorem reregistration_safe {first before purged again last : Service}
    {early between late : List Move} {purge : Move} {old new : Nat} {former : Candidate}
    {message : Message} (initial : first.IsInitial) (toPurge : Run first early before)
    (isFormer : before.world.candidate? old = some former) (purges : before.Purges old purge)
    (isPurged : before.move? purge = some purged) (toAgain : Run purged between again)
    (sameSequence : message.sequence = former.sequence)
    (sameNumber : message.number = former.number)
    (accepted : (again.world.add again.now message).2 = .ok new)
    (toLast : Run (again.carryOut (.add message)) late last) :
    last.IsApart old new former (HasHeld first before old) ∧
      (last.world.journal.resends.filter fun resend => resend.job.candidate = old) =
        before.world.journal.resends.filter fun resend => resend.job.candidate = old := by
  have beforeSound := initial.sound.run toPurge
  have purgedSound := beforeSound.move isPurged
  have againSound := purgedSound.run toAgain
  have registers : again.move? (.command (.add message)) = some _ := rfl
  have further : Run purged (between ++ [.command (.add message)] ++ late) last :=
    (toAgain.extend registers).trans toLast
  have lastSound := purgedSound.run further
  have isBooked := (initial.isBooked.run (toPurge.extend isPurged)).run further
  -- what became of the former candidate
  have formerFound : before.outline.candidates[old]? = some former.untimed :=
    candidate_share isFormer
  obtain ⟨purgeSilent, ending, finished⟩ := finished_of_purges purges isPurged formerFound
  have ended : (former.untimed.finished ending).ending ≠ none :=
    (Candidate.sound_finished ending former.untimed).kept.mp rfl
  obtain ⟨silent, later, isLater, rests⟩ := rests_run purgedSound finished ended further
  obtain ⟨candidate, found, rfl⟩ := exists_candidate isLater
  have stillEnded : candidate.ending ≠ none := rests.ending ▸ ended
  have clear : last.world.IsClear old := by
    apply isBooked.booked.isClear
    intro other entry isOther awaits
    obtain rfl := Option.some.inj (found.symm.trans isOther)
    exact stillEnded awaits.active
  -- what became of the new one
  obtain ⟨successor, isSuccessor, carries⟩ := carries_run againSound accepted toLast
  obtain ⟨newCandidate, newFound, rfl⟩ := exists_candidate isSuccessor
  have retired : ∀ ticket, HasHeld first before old ticket →
      last.world.agenda.find? ticket = none := fun ticket held =>
    held.find?_eq_none initial ((Run.single isPurged).trans further) clear
  constructor
  · constructor
    case distinct =>
      obtain ⟨_, known, _⟩ := (rests_run purgedSound finished ended toAgain).2
      obtain ⟨_, isKnown, _⟩ := exists_candidate known
      have earlier : old < again.world.candidates.length :=
        (List.getElem?_eq_some_iff.mp isKnown).1
      rw [(Registry.eq_length_of_add accepted).2]
      exact Nat.ne_of_gt earlier
    case successor =>
      exact ⟨newCandidate, newFound,
        (congrArg Origin.sequence carries.origin).trans sameSequence,
        (congrArg Origin.number carries.origin).trans sameNumber⟩
    case rests =>
      have terminal : candidate.phase.isTerminal = true := by
        rw [Candidate.isTerminal_phase]
        exact Option.isSome_iff_ne_none.mpr stillEnded
      exact ⟨candidate, found, rests.retries, rests.next, rests.previous, rests.interval,
        terminal, (isBooked.isTimed.timed.settled old candidate found).quiet stillEnded⟩
    case unlisted =>
      intro listed
      obtain ⟨sequence, inSequence⟩ := lastSound.listed.sound.mem_all_iff.mp listed
      exact notListed_run purgedSound ⟨_, finished, ended⟩
        (notListed_of_purges beforeSound.listed purges isPurged) further sequence inSequence
    case clear => exact clear
    case retired => exact retired
    case steps =>
      intro index instruction rest foreground after ready leftover stepped
      exact spares_stepAt found stillEnded retired ready leftover stepped
  · exact silent.trans purgeSilent

end Service

namespace Sample

/-- The timer of a message that takes a while to deliver is armed. -/
def armed : List Move :=
  [.command (.prepare (sequence, 1) [⟨1000000, none⟩]), .command (.add (message 1 none))]

/-- A resend of the message begins. -/
def underWay : List Move :=
  [.command (.request none (.attempt sequence 1)), .step 0, .step 0]

/-- The resend arrives, and the first timer rings. -/
def arrives : List Move :=
  [.wait 10000000, .rouse 0 0]

end Sample

namespace Service

/-- The message is purged and registered again while its resend is under way.  The arrival of
the resend comes next then, and spares the new candidate; the ticket of the timer that rings
after it was the former candidate's. -/
theorem reregistration_safe_of_underWay :
    ∃ armed before last former, Run (Sample.service (.byTimers true)) Sample.armed armed ∧
      Run armed Sample.underWay before ∧ before.world.candidate? 0 = some former ∧
      Run ((before.carryOut (.purgeAll Sample.sequence)).carryOut (.add (Sample.message 1 none)))
        Sample.arrives last ∧
      (last.ready[0]?.bind fun activity => activity.program.head?.bind Instruction.errand?) =
        some (.underWay ⟨0, Sample.message 1 none, true⟩) ∧
      last.IsApart 0 1 former (HasHeld (Sample.service (.byTimers true)) before 0) ∧
      last.world.agenda.find? 0 = none ∧
      ∃ after, last.move? (.step 0) = some after ∧ last.world.Spares 0 after.world := by
  have early : ((follow Sample.armed (Sample.service (.byTimers true))).bind fun armed =>
      (follow Sample.underWay armed).map fun before =>
        ((armed.world.candidate? 0).bind Candidate.timer,
          (before.world.candidate? 0).map fun former => (former.sequence, former.number),
          before.world.roster.listOf Sample.sequence)) =
      some (some 0, some (Sample.sequence, 1), [0]) := by
    decide +kernel
  have late : ((follow (Sample.armed ++ Sample.underWay) (Sample.service (.byTimers true))).bind
      fun before =>
        let purged := before.carryOut (.purgeAll Sample.sequence)
        (follow Sample.arrives (purged.carryOut (.add (Sample.message 1 none)))).map fun last =>
          ((purged.world.add purged.now (Sample.message 1 none)).2.toOption,
            last.ready[0]?.bind fun activity => activity.program.head?.bind Instruction.errand?,
            (last.move? (.step 0)).isSome)) =
      some (some 1, some (.underWay ⟨0, Sample.message 1 none, true⟩), true) := by
    decide +kernel
  obtain ⟨armed, toArmed, fromArmed⟩ := Option.bind_eq_some_iff.mp early
  obtain ⟨before, toBefore, looks⟩ := Option.map_eq_some_iff.mp fromArmed
  obtain ⟨other, toOther, fromOther⟩ := Option.bind_eq_some_iff.mp late
  obtain ⟨last, toLast, shows⟩ := Option.map_eq_some_iff.mp fromOther
  have run := (Run.of_follow toArmed).trans (.of_follow toBefore)
  obtain rfl := run.unique (.of_follow toOther)
  simp only [Prod.mk.injEq, Option.map_eq_some_iff] at looks shows
  obtain ⟨timer, ⟨former, isFormer, isSequence, isNumber⟩, listed⟩ := looks
  obtain ⟨accepted, next, steps⟩ := shows
  have isOk (outcome : Except Rejection Nat) (isSome : outcome.toOption = some 1) :
      outcome = .ok 1 := by
    cases outcome <;> cases isSome
    rfl
  have held : HasHeld (Sample.service (.byTimers true)) before 0 0 :=
    ⟨_, armed, _, .of_follow toArmed, .of_follow toBefore, timer⟩
  have isPurged : before.move? (.command (.purgeAll Sample.sequence)) =
      some (before.carryOut (.purgeAll Sample.sequence)) := rfl
  have apart := (reregistration_safe (Sample.isInitial_service (.byTimers true)) run isFormer
    (.all (by rw [listed]; exact List.mem_singleton_self 0)) isPurged .start isSequence.symm
    isNumber.symm (isOk _ accepted) (.of_follow toLast)).1
  obtain ⟨⟨program, foreground⟩, isNext, errand⟩ := Option.bind_eq_some_iff.mp next
  obtain ⟨instruction, isFirst, about⟩ := Option.bind_eq_some_iff.mp errand
  obtain ⟨rest, rfl⟩ := List.head?_eq_some_iff.mp isFirst
  obtain ⟨after, stepped⟩ := Option.isSome_iff_exists.mp steps
  have leftover : instruction.IsLeftover 0
      (HasHeld (Sample.service (.byTimers true)) before 0) :=
    Instruction.isLeftover_of_errand about
  exact ⟨armed, before, last, former, .of_follow toArmed, .of_follow toBefore, isFormer,
    .of_follow toLast, next, apart, apart.retired 0 held, after, stepped,
    apart.steps 0 instruction rest foreground after isNext leftover stepped⟩

end Service

end Redelivery
