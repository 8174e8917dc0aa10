import Redelivery.Proofs.Backlog
import Redelivery.Proofs.Undisturbed

/-!
# Running what is due

A registry that is driven by a queue catches up when its caller runs the tasks that are due.  Where
everything is over at once, all that comes of it is that candidates that are ready are resent, and
unless a schedule has overflowed, none of them is left.
-/

namespace Redelivery

namespace Service

/-- Whoever settles goes on until nothing is left to do. -/
theorem Settles.goesOn {service last : Service} (settles : service.Settles last) :
    service.GoesOn last := by
  obtain ⟨fuel, settled, _⟩ := settles
  induction fuel generalizing service with
  | zero =>
      obtain rfl : service = last := settled
      exact .refl
  | succ fuel inductionHypothesis =>
      rw [Timeline.settle] at settled
      cases stepped : service.stepAt behave 0 with
      | none =>
          rw [stepped] at settled
          obtain rfl : service = last := settled
          exact .refl
      | some next =>
          rw [stepped] at settled
          exact .head stepped (inductionHypothesis settled)

/-! ## A registry that is driven by a queue -/

/-- What holds of a registry that is driven by a queue between two operations that are over at
once. -/
structure IsQueued (service : Service) : Prop where
  calm : service.IsCalm
  reachable : service.IsReachable
  prompt : service.IsPrompt
  isOpen : service.world.agenda.closed = false

theorem IsQueued.isNumbered {service : Service} (queued : service.IsQueued)
    (sequence : SequenceKey) : (service.outline.excerpt sequence).IsNumbered :=
  Outline.isNumbered_excerpt (queued.reachable.numbered sequence)

theorem Shuffled.isQueued {before after : Service} (shuffled : before.Shuffled after)
    (queued : before.IsQueued) : after.IsQueued := by
  have reachable := shuffled.leads.isReachable queued.reachable
  obtain ⟨roster, _, rfl⟩ := shuffled
  exact ⟨{ queued.calm with }, reachable, { queued.prompt with }, queued.isOpen⟩

/-- What is enacted by a move that lets nothing in keeps a calm service driven by its queue. -/
theorem IsQueued.staysCalm {before after : Service} {move : Move} (queued : before.IsQueued)
    (stays : before.StaysCalm after) (enacts : before.Enacts move after)
    (isPrompt : move.isPrompt = true) : after.IsQueued := by
  have reachable := enacts.leads.isReachable queued.reachable
  obtain ⟨moved, isMoved, settles⟩ := enacts
  have prompt := queued.prompt.move queued.reachable.sound.tidy isMoved isPrompt
    fun _ _ => queued.calm.inline
  have begun := (Leads.of_move _ isMoved).isReachable queued.reachable
  exact ⟨stays.calm, reachable, settles.goesOn.isPrompt begun prompt,
    stays.closed.trans queued.isOpen⟩

/-- An operation does to each sequence what its excerpt tells. -/
theorem IsQueued.enacts {before after : Service} {command : Command} (queued : before.IsQueued)
    (plain : command.isPlain = true) (enacts : before.Enacts (.command command) after) :
    after.IsQueued ∧ before.StaysCalm after ∧
      ∀ sequence, after.outline.excerpt sequence =
        if command.concerns sequence then
          (before.outline.excerpt sequence).step before.now before.world.routing command
        else before.outline.excerpt sequence := by
  obtain ⟨other, alsoEnacts, stays, excerpts, _⟩ :=
    queued.calm.exists_enacts queued.reachable.sound queued.reachable.numbered plain
  obtain rfl := enacts.unique alsoEnacts
  have isPrompt : command.isPrompt = true := by
    cases command <;> first | rfl | cases plain
  exact ⟨queued.staysCalm stays enacts isPrompt, stays, excerpts⟩

/-- A wait takes nothing but time. -/
theorem IsQueued.waits {before after : Service} {instant : Nat} (queued : before.IsQueued)
    (enacts : before.Enacts (.wait instant) after) :
    after = { before with now := instant } ∧ after.IsQueued := by
  have reachable := enacts.leads.isReachable queued.reachable
  obtain ⟨rfl, calm⟩ := queued.calm.eq_of_wait enacts
  obtain ⟨byQueue, inline, instant⟩ := queued.prompt
  exact ⟨rfl, calm, reachable, ⟨byQueue, inline, instant⟩, queued.isOpen⟩

/-- A call that runs what is due is over at once.  All that it does is to resend candidates that
are ready, and no task is due after it. -/
theorem IsQueued.exists_runDue {service : Service} (queued : service.IsQueued) :
    ∃ after, service.Enacts (.command (.request none (.runDue service.now))) after ∧
      after.IsQueued ∧ service.StaysCalm after ∧
      after.world.agenda.takeDue? service.now = none ∧
      ∀ sequence, (service.outline.excerpt sequence).Trail service.now
        (after.outline.excerpt sequence) := by
  obtain ⟨tasks, last, runs⟩ := exists_runsUpTo queued.reachable queued.prompt service.now
  have admitted : service.admits (.request none (.runDue service.now)) = true :=
    decide_eq_true queued.prompt.byQueue
  have settles := runs.goesOn.settles (.of_ready_nil (runs.ready.trans queued.calm.ready))
  have enacts : service.Enacts (.command (.request none (.runDue service.now))) last :=
    ⟨_, if_pos admitted, settles⟩
  have isIdle : last = idle service.now last.world := by
    rw [← runs.now]
    exact eq_idle (runs.ready.trans queued.calm.ready) (runs.asleep.trans queued.calm.asleep)
  have stays : service.StaysCalm last := by
    rw [isIdle]
    have called := queued.calm.withCalls service.world.calls.make.2
    have done := called.calm.staysCalm runs.worksOff.abides
    exact (called.trans done).trans (done.calm.withCalls last.world.calls)
  exact ⟨last, enacts, queued.staysCalm stays enacts rfl, stays,
    runs.worksOff.takeDue?_eq_none, runs.worksOff.trail⟩

/-- No schedule has overflowed between two moments: every overflow is reported. -/
def StaysFinite (before after : Service) : Prop :=
  ∀ event ∈ before.world.newsUntil after.world, event.isOverflow = false

theorem StaysFinite.earlier {first middle last : Service} (finite : first.StaysFinite last)
    (isTimed : first.IsTimed) (early : first.Leads middle) (late : middle.Leads last) :
    first.StaysFinite middle := by
  obtain ⟨_, toMiddle⟩ := early
  obtain ⟨_, toLast⟩ := late
  obtain ⟨middleTimed, middleRegistry, earlier, isMiddle⟩ := tends_run isTimed toMiddle
  obtain ⟨_, lastRegistry, later, isLast⟩ := tends_run middleTimed toLast
  have earlierEvents : first.world.journal.events <:+ middle.world.journal.events := by
    rw [isMiddle]
    exact earlier.events
  have laterEvents : middle.world.journal.events <:+ last.world.journal.events := by
    rw [isLast]
    exact later.events
  intro event told
  exact finite event ((Registry.mem_newsUntil_trans earlierEvents laterEvents).mpr (.inl told))

/-- Whoever is driven by an open queue is not neglected, as long as no schedule overflows. -/
theorem not_neglected_of_run {first last : Service} {moves : List Move}
    (initial : first.IsInitial) (run : Run first moves last) (queued : last.IsQueued)
    (finite : first.StaysFinite last) {identity : Nat} {candidate : Candidate}
    (found : last.world.candidate? identity = some candidate) : ¬ candidate.IsNeglected := by
  intro neglected
  have sameDriving := driving_run initial.isTimed run
  have driven : first.world.driving = .byQueue := sameDriving.symm.trans queued.prompt.byQueue
  obtain ⟨_, registry, tends, sameWorld⟩ := tends_run initial.isTimed run
  have isFound : registry.candidate? identity = some candidate := by
    rw [sameWorld] at found
    exact found
  have notByHand : first.world.driving ≠ .byHand := by
    rw [driven]
    exact Driving.noConfusion
  rcases tends.minded notByHand identity candidate isFound neglected with
    ⟨former, isFormer, _⟩ | ⟨event, told, tells⟩
  · obtain ⟨blank, fresh, rfl⟩ := initial
    have noCandidate : blank.candidate? identity = none := by
      rw [Registry.candidate?, fresh.candidates, List.getElem?_nil]
    cases noCandidate.symm.trans isFormer
  · have isTold : event ∈ first.world.newsUntil last.world := by
      rw [sameWorld]
      exact told
    rcases unscheduled_only_if_refused initial.isTimed run isTold tells.1 with
      closed | unhosted | overflow
    · exact Bool.false_ne_true (queued.isOpen.symm.trans closed)
    · cases driven.symm.trans unhosted
    · exact Bool.false_ne_true ((finite event isTold).symm.trans overflow)

/-- If no task is due and nobody is neglected, everybody has caught up. -/
theorem IsQueued.hasCaughtUp {service : Service} (queued : service.IsQueued)
    (rest : service.world.agenda.takeDue? service.now = none)
    (attended : ∀ identity candidate, service.world.candidate? identity = some candidate →
      ¬ candidate.IsNeglected) : service.HasCaughtUp := by
  intro sequence untimed present
  obtain ⟨identity, _, isUntimed⟩ := Outline.exists_of_mem_excerpt present
  obtain ⟨candidate, found, rfl⟩ := exists_candidate isUntimed
  apply Bool.eq_false_iff.mpr
  intro ready
  obtain ⟨free, isDue⟩ := Bool.and_eq_true _ _ ▸ ready
  obtain ⟨idle, unsuspended, active, further, _, addressable⟩ :=
    Candidate.isFree_eq_true_iff.mp (show candidate.isFree = true from free)
  cases timer : candidate.timer with
  | none =>
      have wants : candidate.wantsTimer = true := by
        simp [Candidate.wantsTimer, addressable, unsuspended, further]
      exact attended identity candidate found ⟨wants, active, idle, timer⟩
  | some ticket =>
      have armed : candidate.timer.isSome := by rw [timer]; rfl
      have later := queued.reachable.isOrderly.lt_next rest found armed
      have passed : candidate.next ≤ service.now := of_decide_eq_true isDue
      omega

end Service

end Redelivery
