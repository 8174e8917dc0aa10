import Redelivery.Proofs.Stages

/-!
# What happens to an agenda

Whoever uses an agenda schedules tasks, cancels them, lets go of their tickets and closes the
agenda; whoever catches up takes tasks out.  All this may happen in any turn: a task that is taken
out runs on, and may use the agenda, while others use it or catch up.  Whatever happened, the
tasks that wait are those that were accepted and neither taken out nor cancelled since, and the
next one to be taken out is the first of them.
-/

namespace Redelivery.Schedule

variable {α : Type}

/-! ## Occurrences -/

/-- What happens to an agenda. -/
inductive Occurrence (α : Type) where
  /-- A task is accepted under a ticket. -/
  | accepted (entry : Entry α)
  | refused (due : Nat) (task : α) (refusal : Refusal)
  | cancelled (ticket : Nat)
  /-- A ticket is let go of. -/
  | released (ticket : Nat)
  | closed
  /-- Whoever catches up by an instant takes out a task and runs it. -/
  | taken (upTo : Nat) (entry : Entry α)
  /-- Whoever catches up by an instant finds no task that is due. -/
  | caughtUp (upTo : Nat)

namespace Occurrence

/-- Who is accepted. -/
def accepted? : Occurrence α → Option (Entry α)
  | accepted entry => some entry
  | _ => none

/-- Who is taken out. -/
def taken? : Occurrence α → Option (Entry α)
  | taken _ entry => some entry
  | _ => none

/-- Whether it is an act of someone who uses the agenda, and does not catch up. -/
def isAct : Occurrence α → Bool
  | taken _ _ => false
  | caughtUp _ => false
  | _ => true

/-- Who waits after the occurrence, of those who waited before it. -/
def waiting (occurrence : Occurrence α) (before : List (Entry α)) : List (Entry α) :=
  match occurrence with
  | accepted entry => entry :: before
  | cancelled ticket => before.filter fun entry => entry.ticket ≠ ticket
  | taken _ first => before.filter fun entry => entry.ticket ≠ first.ticket
  | _ => before

theorem mem_accepted_iff {log : List (Occurrence α)} {entry : Entry α} :
    entry ∈ log.filterMap accepted? ↔ .accepted entry ∈ log := by
  rw [List.mem_filterMap]
  constructor
  · rintro ⟨occurrence, present, isEntry⟩
    cases occurrence <;> cases isEntry
    exact present
  · exact fun present => ⟨_, present, rfl⟩

theorem mem_taken_iff {log : List (Occurrence α)} {entry : Entry α} :
    entry ∈ log.filterMap taken? ↔ ∃ upTo, .taken upTo entry ∈ log := by
  rw [List.mem_filterMap]
  constructor
  · rintro ⟨occurrence, present, isEntry⟩
    cases occurrence <;> cases isEntry
    exact ⟨_, present⟩
  · rintro ⟨upTo, present⟩
    exact ⟨_, present, rfl⟩

end Occurrence

/-- Who waits after what happened, newest first: whoever was accepted, and was neither taken out
nor cancelled since. -/
def waitingAfter : List (Occurrence α) → List (Entry α)
  | [] => []
  | occurrence :: past => occurrence.waiting (waitingAfter past)

/-- How many tasks were cancelled while they waited. -/
def countWithdrawn : List (Occurrence α) → Nat
  | [] => 0
  | .cancelled ticket :: past =>
      (waitingAfter past).countP (fun entry => entry.ticket = ticket) + countWithdrawn past
  | _ :: past => countWithdrawn past

namespace Agenda

/-- What an agenda is after an occurrence. -/
inductive Step : Agenda α → Occurrence α → Agenda α → Prop where
  | accept {agenda after : Agenda α} {due ticket : Nat} {task : α} :
      agenda.schedule due task = .ok (ticket, after) →
      Step agenda (.accepted ⟨due, ticket, task⟩) after
  | refuse {agenda : Agenda α} {due : Nat} {task : α} {refusal : Refusal} :
      agenda.schedule due task = .error refusal → Step agenda (.refused due task refusal) agenda
  | cancel (agenda : Agenda α) (ticket : Nat) :
      Step agenda (.cancelled ticket) (agenda.cancel ticket)
  | release (agenda : Agenda α) (ticket : Nat) : Step agenda (.released ticket) agenda
  | close (agenda : Agenda α) : Step agenda .closed agenda.close
  | take {agenda rest : Agenda α} {upTo : Nat} {entry : Entry α} :
      agenda.takeDue? upTo = some (entry, rest) → Step agenda (.taken upTo entry) rest
  | catchUp {agenda : Agenda α} {upTo : Nat} :
      agenda.takeDue? upTo = none → Step agenda (.caughtUp upTo) agenda

/-- What an agenda is after several occurrences, which are listed newest first. -/
inductive Passes (first : Agenda α) : List (Occurrence α) → Agenda α → Prop where
  | start : Passes first [] first
  | step {past : List (Occurrence α)} {before after : Agenda α} {occurrence : Occurrence α} :
      Passes first past before → before.Step occurrence after →
      Passes first (occurrence :: past) after

namespace Passes

variable {first middle last : Agenda α} {past later : List (Occurrence α)}

theorem trans (earlier : first.Passes past middle) (further : middle.Passes later last) :
    first.Passes (later ++ past) last := by
  induction further with
  | start => exact earlier
  | step _ next inductionHypothesis => exact .step inductionHypothesis next

theorem split (passes : first.Passes (later ++ past) last) :
    ∃ middle, first.Passes past middle ∧ middle.Passes later last := by
  induction later generalizing last with
  | nil => exact ⟨last, passes, .start⟩
  | cons occurrence later inductionHypothesis =>
      cases passes with
      | step before next =>
          obtain ⟨middle, earlier, further⟩ := inductionHypothesis before
          exact ⟨middle, earlier, .step further next⟩

/-- What came before and after an occurrence. -/
theorem split_at {occurrence : Occurrence α}
    (passes : first.Passes (later ++ occurrence :: past) last) :
    ∃ before after, first.Passes past before ∧ before.Step occurrence after ∧
      after.Passes later last := by
  obtain ⟨after, upTo, further⟩ := passes.split
  cases upTo with
  | step earlier next => exact ⟨_, after, earlier, next, further⟩

end Passes

theorem Step.issues {before after : Agenda α} {occurrence : Occurrence α}
    (step : before.Step occurrence after) : before.Issues after := by
  cases step with
  | accept accepted => exact issues_schedule accepted
  | refuse _ => exact .refl _
  | cancel => exact (shrinks_cancel _ _).issues
  | release => exact .refl _
  | close =>
      refine ⟨Nat.le_refl _, fun _ present => .inl present, fun closed => ?_⟩
      exact ⟨.refl _, rfl, closed.symm⟩
  | take taken => exact (shrinks_takeDue taken).issues
  | catchUp _ => exact .refl _

theorem Passes.issues {first last : Agenda α} {log : List (Occurrence α)}
    (passes : first.Passes log last) : first.Issues last := by
  induction passes with
  | start => exact .refl _
  | step _ next inductionHypothesis => exact inductionHypothesis.trans next.issues

/-! ## Accounts -/

open Occurrence

/-- The log accounts for what is on the agenda. -/
structure Accounts (log : List (Occurrence α)) (agenda : Agenda α) : Prop where
  sound : agenda.Sound
  ordered : agenda.IsOrdered
  waiting : agenda.entries.Perm (waitingAfter log)
  closed : agenda.closed = true ↔ .closed ∈ log
  issued : ∀ entry ∈ log.filterMap accepted?, entry.ticket < agenda.nextTicket
  known : ∀ entry ∈ agenda.entries, entry ∈ log.filterMap accepted?
  gone : ∀ entry ∈ log.filterMap taken?, ∀ other ∈ agenda.entries, other.ticket ≠ entry.ticket
  listed : ∀ entry ∈ log.filterMap taken?, entry ∈ log.filterMap accepted?
  inTurn : ((log.filterMap accepted?).map Entry.ticket).Pairwise (· > ·)
  once : ((log.filterMap taken?).map Entry.ticket).Nodup
  counted : agenda.size + (log.filterMap taken?).length + countWithdrawn log =
    (log.filterMap accepted?).length

namespace Accounts

variable {log : List (Occurrence α)} {agenda after : Agenda α}

theorem empty : Accounts [] (Agenda.empty : Agenda α) where
  sound := ⟨fun _ present => absurd present List.not_mem_nil, List.nodup_nil⟩
  ordered := .nil
  waiting := .nil
  closed := by simp [Agenda.empty]
  issued := fun _ present => absurd present List.not_mem_nil
  known := fun _ present => absurd present List.not_mem_nil
  gone := fun _ present => absurd present List.not_mem_nil
  listed := fun _ present => absurd present List.not_mem_nil
  inTurn := .nil
  once := List.nodup_nil
  counted := rfl

theorem accept (accounts : Accounts log agenda) {due ticket : Nat} {task : α}
    (accepted : agenda.schedule due task = .ok (ticket, after)) :
    Accounts (.accepted ⟨due, ticket, task⟩ :: log) after := by
  have sound := accounts.sound.schedule accepted
  have ordered := accounts.ordered.schedule accounts.sound accepted
  obtain ⟨isOpen, rfl, rfl⟩ := schedule_eq_ok accepted
  let entry : Entry α := ⟨due, agenda.nextTicket, task⟩
  have perm := place_perm entry agenda.entries
  have issued : ∀ other ∈ entry :: log.filterMap accepted?,
      other.ticket < agenda.nextTicket + 1 :=
    List.forall_mem_cons.mpr
      ⟨Nat.lt_succ_self _, fun other was => Nat.lt_succ_of_lt (accounts.issued other was)⟩
  constructor
  case sound => exact sound
  case ordered => exact ordered
  case waiting => exact perm.trans (accounts.waiting.cons entry)
  case closed => simpa using accounts.closed
  case issued => exact issued
  case known =>
    intro other present
    exact List.mem_cons.mpr ((List.mem_cons.mp (perm.subset present)).imp_right
      (accounts.known other))
  case gone =>
    intro other was third present
    rcases List.mem_cons.mp (perm.subset present) with rfl | old
    · exact Nat.ne_of_gt (accounts.issued other (accounts.listed other was))
    · exact accounts.gone other was third old
  case listed => exact fun other was => List.mem_cons_of_mem _ (accounts.listed other was)
  case inTurn =>
    refine List.pairwise_cons.mpr ⟨?_, accounts.inTurn⟩
    intro other present
    obtain ⟨older, was, rfl⟩ := List.mem_map.mp present
    exact accounts.issued older was
  case once => exact accounts.once
  case counted =>
    have counted := accounts.counted
    have longer : (place entry agenda.entries).length = agenda.entries.length + 1 :=
      perm.length_eq
    simp only [size] at counted ⊢
    change (place entry agenda.entries).length + (log.filterMap taken?).length +
      countWithdrawn log = (log.filterMap accepted?).length + 1
    omega

theorem cancel (accounts : Accounts log agenda) (ticket : Nat) :
    Accounts (.cancelled ticket :: log) (agenda.cancel ticket) where
  sound := (shrinks_cancel agenda ticket).sound accounts.sound
  ordered := (shrinks_cancel agenda ticket).isOrdered accounts.ordered
  waiting := accounts.waiting.filter _
  closed := accounts.closed.trans (by simp)
  issued := accounts.issued
  known := fun entry present => accounts.known entry (mem_cancel_iff.mp present).1
  gone := fun entry was other present => accounts.gone entry was other (mem_cancel_iff.mp present).1
  listed := accounts.listed
  inTurn := accounts.inTurn
  once := accounts.once
  counted := by
    have counted := accounts.counted
    have split := agenda.entries.length_eq_countP_add_countP fun entry => entry.ticket = ticket
    have fewer : (agenda.cancel ticket).entries.length =
        agenda.entries.countP fun entry => ¬ entry.ticket = ticket :=
      List.countP_eq_length_filter.symm
    have withdrawn := accounts.waiting.countP_eq fun entry => entry.ticket = ticket
    simp only [size] at counted ⊢
    change (agenda.cancel ticket).entries.length + (log.filterMap taken?).length +
      ((waitingAfter log).countP (fun entry => entry.ticket = ticket) + countWithdrawn log) =
        (log.filterMap accepted?).length
    simp only [decide_eq_true_eq] at split
    omega

theorem take (accounts : Accounts log agenda) {upTo : Nat} {entry : Entry α}
    (taken : agenda.takeDue? upTo = some (entry, after)) :
    Accounts (.taken upTo entry :: log) after := by
  have shrinks := shrinks_takeDue taken
  obtain ⟨entries, sameTickets, sameClosed⟩ := takeDue?_eq_some taken
  have present : entry ∈ agenda.entries := entries ▸ List.mem_cons_self
  have stays : ∀ other ∈ after.entries, other ∈ agenda.entries := fun _ => (shrinks.fewer.subset ·)
  have others : ∀ other ∈ after.entries, other.ticket ≠ entry.ticket := by
    intro other isOther same
    have distinct := accounts.sound.distinct
    rw [entries, List.map_cons, List.nodup_cons] at distinct
    exact distinct.1 (same ▸ List.mem_map_of_mem isOther)
  constructor
  case sound => exact shrinks.sound accounts.sound
  case ordered => exact shrinks.isOrdered accounts.ordered
  case waiting =>
    have perm := accounts.waiting.filter fun other => other.ticket ≠ entry.ticket
    rw [entries, List.filter_cons_of_neg (by simp), List.filter_eq_self.mpr (by simpa using others)]
      at perm
    exact perm
  case closed =>
    rw [sameClosed]
    exact accounts.closed.trans (by simp)
  case issued =>
    rw [sameTickets]
    exact accounts.issued
  case known => exact fun other isOther => accounts.known other (stays other isOther)
  case gone =>
    exact List.forall_mem_cons.mpr
      ⟨others, fun was isGone other isOther => accounts.gone was isGone other (stays other isOther)⟩
  case listed => exact List.forall_mem_cons.mpr ⟨accounts.known entry present, accounts.listed⟩
  case inTurn => exact accounts.inTurn
  case once =>
    refine List.nodup_cons.mpr ⟨fun again => ?_, accounts.once⟩
    obtain ⟨was, isGone, same⟩ := List.mem_map.mp again
    exact accounts.gone was isGone entry present same.symm
  case counted =>
    have counted := accounts.counted
    simp only [size] at counted ⊢
    rw [entries, List.length_cons] at counted
    change after.entries.length + ((log.filterMap taken?).length + 1) + countWithdrawn log =
      (log.filterMap accepted?).length
    omega

theorem step (accounts : Accounts log agenda) {occurrence : Occurrence α}
    (step : agenda.Step occurrence after) : Accounts (occurrence :: log) after := by
  cases step with
  | accept accepted => exact accounts.accept accepted
  | refuse _ => exact { accounts with closed := accounts.closed.trans (by simp) }
  | cancel ticket => exact accounts.cancel ticket
  | release _ => exact { accounts with closed := accounts.closed.trans (by simp) }
  | close =>
      exact { accounts with
        sound := ⟨accounts.sound.issued, accounts.sound.distinct⟩
        closed := iff_of_true rfl List.mem_cons_self }
  | take taken => exact accounts.take taken
  | catchUp _ => exact { accounts with closed := accounts.closed.trans (by simp) }

end Accounts

/-- Whatever happened, the log accounts for it. -/
theorem accounts_of_passes {log : List (Occurrence α)} {agenda : Agenda α}
    (history : Agenda.empty.Passes log agenda) : Accounts log agenda := by
  induction history with
  | start => exact .empty
  | step _ next inductionHypothesis => exact inductionHypothesis.step next

/-! ## Catching up -/

/-- Someone who does not catch up makes one agenda of another. -/
def ActsTo (before after : Agenda α) : Prop :=
  ∃ acts, before.Passes acts after ∧ ∀ act ∈ acts, act.isAct = true

namespace ActsTo

variable {first middle last : Agenda α}

theorem refl (agenda : Agenda α) : agenda.ActsTo agenda :=
  ⟨[], .start, fun _ present => absurd present List.not_mem_nil⟩

theorem of_step {act : Occurrence α} (step : first.Step act last) (isAct : act.isAct = true) :
    first.ActsTo last :=
  ⟨[act], .step .start step, by simpa using isAct⟩

theorem trans (earlier : first.ActsTo middle) (further : middle.ActsTo last) :
    first.ActsTo last := by
  obtain ⟨acts, before, areActs⟩ := earlier
  obtain ⟨more, after, alsoActs⟩ := further
  refine ⟨more ++ acts, before.trans after, fun act present => ?_⟩
  exact (List.mem_append.mp present).elim (alsoActs act) (areActs act)

theorem foldl {β σ : Type} {act : Agenda α × σ → β → Agenda α × σ}
    (acts : ∀ (agenda : Agenda α) (state : σ) (item : β),
      agenda.ActsTo (act (agenda, state) item).1) (items : List β) (start : Agenda α × σ) :
    start.1.ActsTo (items.foldl act start).1 :=
  List.foldlRecOn (motive := fun state => start.1.ActsTo state.1) items act (.refl _)
    fun state earlier item _ => earlier.trans (acts state.1 state.2 item)

end ActsTo

/-- No act takes a task out. -/
theorem taken?_of_isAct {act : Occurrence α} (isAct : act.isAct = true) : act.taken? = none := by
  cases act with
  | taken => cases isAct
  | _ => rfl

/-- Tasks do not catch up themselves. -/
def Acts {σ : Type} (run : α → Agenda α × σ → Agenda α × σ) : Prop :=
  ∀ (task : α) (agenda : Agenda α) (state : σ), agenda.ActsTo (run task (agenda, state)).1

/-- To catch up is to take out one task after the other, and to let it act. -/
theorem CatchesUp.passes {σ : Type} {run : α → Agenda α × σ → Agenda α × σ} (acts : Acts run)
    {upTo : Nat} {start final : Agenda α × σ} {taken : List (Entry α)}
    (catchesUp : CatchesUp run upTo start taken final) :
    ∃ during, start.1.Passes (.caughtUp upTo :: during) final.1 ∧
      during.filterMap taken? = taken.reverse ∧
      ∀ other entry, .taken other entry ∈ during → other = upTo := by
  induction catchesUp with
  | done rest =>
      refine ⟨[], .step .start (.catchUp rest), rfl, fun _ _ present => ?_⟩
      exact absurd present List.not_mem_nil
  | @next agenda rest state entry taken final isTaken _ inductionHypothesis =>
      obtain ⟨own, ran, areActs⟩ := acts entry.task rest state
      obtain ⟨during, further, inOrder, sameInstant⟩ := inductionHypothesis
      have starts : agenda.Passes (own ++ [.taken upTo entry]) (run entry.task (rest, state)).1 :=
        (Passes.step .start (.take isTaken)).trans ran
      have none : own.filterMap taken? = [] :=
        List.filterMap_eq_nil_iff.mpr fun act present => taken?_of_isAct (areActs act present)
      refine ⟨during ++ (own ++ [Occurrence.taken upTo entry]), starts.trans further, ?_, ?_⟩
      · rw [List.filterMap_append, List.filterMap_append, inOrder, none, List.reverse_cons]
        rfl
      · intro other later present
        rcases List.mem_append.mp present with inDuring | inFirst
        · exact sameInstant other later inDuring
        · rcases List.mem_append.mp inFirst with act | isFirst
          · cases areActs _ act
          · cases List.mem_singleton.mp isFirst
            rfl

end Agenda

/-! ## Plans -/

namespace Plan

open Agenda

variable {timed : Bool} {now : Nat}

theorem actsTo_follow (agenda : Agenda Task) (ledger : Ledger) (follower : Task) :
    agenda.ActsTo (match scheduleIn timed now follower (agenda, ledger) with
      | .ok accepted => accepted
      | .error refusal => note (.refused refusal) (agenda, ledger)).1 := by
  simp only [scheduleIn]
  cases accepts : agenda.schedule (follower.due.instant now) follower with
  | ok accepted => exact .of_step (.accept accepts) rfl
  | error refusal => exact .refl _

theorem actsTo_cancelIn (agenda : Agenda Task) (ledger : Ledger) (name : String) :
    agenda.ActsTo (cancelIn name (agenda, ledger)).1 := by
  simp only [cancelIn]
  split
  · exact .refl _
  · exact .of_step (.cancel agenda _) rfl

/-- A task that runs schedules its followers, and cancels tasks by their names. -/
theorem acts_runTask : Acts (runTask timed now) := by
  intro task agenda ledger
  exact (ActsTo.foldl actsTo_follow task.followers
    (note (.ran task.name now) (agenda, ledger))).trans
    (ActsTo.foldl actsTo_cancelIn task.cancels _)

end Plan

/-! ## The main result -/

namespace Agenda

open Occurrence

/-- What an agenda owes to what happened to it. -/
structure Lawful (log : List (Occurrence α)) (agenda : Agenda α) : Prop where
  /-- Tickets are given out in turn. -/
  inTurn : ((log.filterMap accepted?).map Entry.ticket).Pairwise (· > ·)
  /-- No task is taken out twice. -/
  once : ((log.filterMap taken?).map Entry.ticket).Nodup
  /-- A task is taken out when it is due and has precedence over all that wait. -/
  taken : ∀ later upTo entry past, log = later ++ .taken upTo entry :: past →
    .accepted entry ∈ past ∧ entry.due ≤ upTo ∧ entry ∈ waitingAfter past ∧
      ∀ other ∈ waitingAfter past, other = entry ∨ entry.Precedes other
  /-- A task that was accepted and then cancelled is not taken out later. -/
  cancelled : ∀ later ticket past, log = later ++ .cancelled ticket :: past →
    (∃ entry, .accepted entry ∈ past ∧ entry.ticket = ticket) →
      ∀ upTo entry, .taken upTo entry ∈ later → entry.ticket ≠ ticket
  /-- Nothing comes of cancelling a task that was taken out. -/
  spent : ∀ upTo entry, .taken upTo entry ∈ log → agenda.cancel entry.ticket = agenda
  /-- Whoever has caught up leaves no task that is due. -/
  caughtUp : ∀ later upTo past, log = later ++ .caughtUp upTo :: past →
    ∀ entry ∈ waitingAfter past, upTo < entry.due
  /-- Tasks are refused once the agenda is closed, and only then. -/
  refused : ∀ later due task refusal past, log = later ++ .refused due task refusal :: past →
    .closed ∈ past ∧ refusal = .shutdown
  accepted : ∀ later entry past, log = later ++ .accepted entry :: past → .closed ∉ past
  /-- Who waits was accepted, and neither taken out nor cancelled since; a task that is refused
  does not. -/
  waiting : agenda.entries.Perm (waitingAfter log)
  size : agenda.size + (log.filterMap taken?).length + countWithdrawn log =
    (log.filterMap accepted?).length

/-- Whoever is taken out has precedence over all that wait. -/
theorem Accounts.precedes {log : List (Occurrence α)} {agenda rest : Agenda α}
    (accounts : Accounts log agenda) {upTo : Nat} {entry : Entry α}
    (taken : agenda.takeDue? upTo = some (entry, rest)) :
    .accepted entry ∈ log ∧ entry.due ≤ upTo ∧ entry ∈ waitingAfter log ∧
      ∀ other ∈ waitingAfter log, other = entry ∨ entry.Precedes other := by
  have entries := (takeDue?_eq_some taken).1
  have present : entry ∈ agenda.entries := entries ▸ List.mem_cons_self
  have ordered := accounts.ordered
  rw [IsOrdered, entries, List.pairwise_cons] at ordered
  refine ⟨mem_accepted_iff.mp (accounts.known entry present), due_le_of_takeDue taken,
    accounts.waiting.mem_iff.mp present, fun other waits => ?_⟩
  rw [← accounts.waiting.mem_iff, entries] at waits
  exact (List.mem_cons.mp waits).imp_right (ordered.1 other)

/-- A ticket that was given out, and under which nobody waits, leads to nobody any more. -/
theorem Passes.ticket_ne {first last : Agenda α} {past later : List (Occurrence α)}
    {upTo ticket : Nat} {entry : Entry α} (issued : ticket < first.nextTicket)
    (gone : ∀ other ∈ first.entries, other.ticket ≠ ticket)
    (passes : first.Passes (later ++ .taken upTo entry :: past) last) : entry.ticket ≠ ticket := by
  obtain ⟨before, after, earlier, step, _⟩ := passes.split_at
  cases step with
  | take taken =>
      have present : entry ∈ before.entries := (takeDue?_eq_some taken).1 ▸ List.mem_cons_self
      rcases earlier.issues.entries entry present with old | new
      · exact gone entry old
      · omega

theorem lawful_of_passes {log : List (Occurrence α)} {agenda : Agenda α}
    (history : Agenda.empty.Passes log agenda) : Lawful log agenda := by
  have accounts := accounts_of_passes history
  constructor
  case inTurn => exact accounts.inTurn
  case once => exact accounts.once
  case taken =>
    rintro later upTo entry past rfl
    obtain ⟨before, _, earlier, step, _⟩ := history.split_at
    cases step with
    | take taken => exact (accounts_of_passes earlier).precedes taken
  case cancelled =>
    rintro later ticket past rfl ⟨entry, wasAccepted, rfl⟩ upTo other isLater
    obtain ⟨before, _, earlier, step, further⟩ := history.split_at
    cases step with
    | cancel =>
        obtain ⟨since, until_, rfl⟩ := List.append_of_mem isLater
        refine further.ticket_ne ?_ fun third present => (mem_cancel_iff.mp present).2
        exact (accounts_of_passes earlier).issued entry (mem_accepted_iff.mpr wasAccepted)
  case spent =>
    intro upTo entry wasTaken
    have gone := accounts.gone entry (mem_taken_iff.mpr ⟨upTo, wasTaken⟩)
    have same : (agenda.entries.filter fun other => other.ticket ≠ entry.ticket) = agenda.entries :=
      List.filter_eq_self.mpr (by simpa using gone)
    rw [cancel, same]
  case caughtUp =>
    rintro later upTo past rfl entry waits
    obtain ⟨before, _, earlier, step, _⟩ := history.split_at
    have accountsBefore := accounts_of_passes earlier
    cases step with
    | catchUp rest =>
        exact accountsBefore.ordered.isSorted.lt_due rest (accountsBefore.waiting.mem_iff.mpr waits)
  case refused =>
    rintro later due task refusal past rfl
    obtain ⟨before, _, earlier, step, _⟩ := history.split_at
    cases step with
    | refuse refused =>
        have closed := schedule_eq_error refused
        refine ⟨(accounts_of_passes earlier).closed.mp closed, ?_⟩
        rw [schedule, if_pos closed] at refused
        exact (Except.error.inj refused).symm
  case accepted =>
    rintro later entry past rfl wasClosed
    obtain ⟨before, _, earlier, step, _⟩ := history.split_at
    have closed := (accounts_of_passes earlier).closed.mpr wasClosed
    cases step with
    | accept accepted => cases closed.symm.trans (schedule_eq_ok accepted).1
  case waiting => exact accounts.waiting
  case size => exact accounts.counted

/-- Whatever happens to an agenda, each task that is accepted is taken out once at most, in its
turn, when it is due, and not after it was cancelled; and to catch up is to let such things
happen. -/
theorem takes_in_turn {log : List (Occurrence α)} {agenda : Agenda α}
    (history : Agenda.empty.Passes log agenda) :
    Lawful log agenda ∧
      ∀ {σ : Type} (run : α → Agenda α × σ → Agenda α × σ), Acts run →
        ∀ (upTo fuel count : Nat) (state final : σ) (after : Agenda α),
          catchUp run upTo fuel (agenda, state) = some (count, after, final) →
          ∃ during, Agenda.empty.Passes (.caughtUp upTo :: (during ++ log)) after ∧
            (during.filterMap taken?).length = count ∧
            ∀ other entry, .taken other entry ∈ during → other = upTo := by
  refine ⟨lawful_of_passes history, fun run acts upTo fuel count state final after ends => ?_⟩
  obtain ⟨taken, catchesUp, rfl, _⟩ := catchUp_eq_some_iff.mp ends
  obtain ⟨during, passes, inOrder, sameInstant⟩ := catchesUp.passes acts
  refine ⟨during, history.trans passes, ?_, sameInstant⟩
  rw [inOrder, List.length_reverse]

/-- A task that schedules and cancels others while the queue catches up. -/
theorem takes_in_turn_of_entangled :
    ∃ log, Agenda.empty.Passes log Plan.entangled.1 ∧ Lawful log Plan.entangled.1 ∧
      Acts (Plan.runTask false 18) ∧
      ∃ final after,
        catchUp (Plan.runTask false 18) 28 3 Plan.entangled = some (3, after, final) ∧
        ∃ during, Agenda.empty.Passes (.caughtUp 28 :: (during ++ log)) after ∧
          (during.filterMap taken?).length = 3 ∧
          (∀ other entry, .taken other entry ∈ during → other = 28) ∧
          Lawful (.caughtUp 28 :: (during ++ log)) after := by
  have first : Agenda.empty.Passes [.accepted Plan.entangled.1.entries[0]] _ :=
    .step .start (.accept rfl)
  have second : Agenda.empty.Passes (.accepted Plan.entangled.1.entries[1] :: _) _ :=
    .step first (.accept rfl)
  have history : Agenda.empty.Passes (.accepted Plan.entangled.1.entries[2] :: _)
      Plan.entangled.1 := .step second (.accept rfl)
  obtain ⟨lawful, catchesUp⟩ := takes_in_turn history
  obtain ⟨during, further, counted, sameInstant⟩ :=
    catchesUp (Plan.runTask false 18) Plan.acts_runTask 28 3 3 Plan.entangled.2 _ _ rfl
  exact ⟨_, history, lawful, Plan.acts_runTask, _, _, rfl, during, further, counted, sameInstant,
    (takes_in_turn further).1⟩

end Agenda

end Redelivery.Schedule
