import Redelivery.Proofs.Filing
import Redelivery.Proofs.Waking

/-!
# Resuming a sequence

In a suspended sequence no timer is armed, so a resumption arms each of its candidates that still
resends exactly once.  The call that then runs what is due begins one resend for each of them, in
the order in which their messages were registered: what it books meanwhile is for later, and what
was due before belongs to other sequences.  Resuming or suspending once more changes nothing.
-/

namespace Redelivery

open Registry

theorem filter_eq_singleton {α β : Type} [DecidableEq β] {name : α → β} {list : List α}
    (distinct : (list.map name).Nodup) {item : α} (present : item ∈ list) :
    (list.filter fun other => name other = name item) = [item] := by
  induction list with
  | nil => cases present
  | cons first rest inductionHypothesis =>
      obtain ⟨absent, restDistinct⟩ := List.nodup_cons.mp distinct
      rcases List.mem_cons.mp present with rfl | inRest
      · have noneElse : (rest.filter fun other => name other = name item) = [] := by
          refine List.filter_eq_nil_iff.mpr fun other isOther same => absent ?_
          exact of_decide_eq_true same ▸ List.mem_map_of_mem isOther
        simp [noneElse]
      · have isOther : name first ≠ name item := fun same =>
          absent (same ▸ List.mem_map_of_mem inRest)
        simp [isOther, inductionHypothesis restDistinct inRest]

/-- What is put between others that bear other names is found there by its name. -/
theorem filter_between {α β : Type} [DecidableEq β] {name : α → β} {early list late : List α}
    (distinct : (list.map name).Nodup) {item : α} (present : item ∈ list)
    (apart : ∀ other, other ∈ early ∨ other ∈ late → name other ≠ name item) :
    ((early ++ list ++ late).filter fun other => name other = name item) = [item] := by
  have noneEarly : (early.filter fun other => name other = name item) = [] :=
    List.filter_eq_nil_iff.mpr fun other isOther same =>
      apart other (.inl isOther) (of_decide_eq_true same)
  have noneLate : (late.filter fun other => name other = name item) = [] :=
    List.filter_eq_nil_iff.mpr fun other isOther same =>
      apart other (.inr isOther) (of_decide_eq_true same)
  rw [List.filter_append, List.filter_append, noneEarly, noneLate,
    filter_eq_singleton distinct present, List.nil_append, List.append_nil]

namespace Service

variable {service : Service} {sequence : SequenceKey}

/-! ## The sequence before it is resumed -/

theorem IsReachable.exists_listed (reachable : service.IsReachable) {identity : Nat}
    (present : identity ∈ service.world.roster.listOf sequence) :
    ∃ candidate, service.world.candidate? identity = some candidate ∧
      candidate.sequence = sequence := by
  obtain ⟨untimed, found, home⟩ := reachable.sound.listed.homed sequence identity present
  obtain ⟨candidate, isCandidate, rfl⟩ := exists_candidate found
  exact ⟨candidate, isCandidate, home⟩

theorem IsReachable.isOf_of_listed (reachable : service.IsReachable) {identity : Nat}
    (present : identity ∈ service.world.roster.listOf sequence) :
    service.world.isOf sequence identity = true := by
  obtain ⟨candidate, found, own⟩ := reachable.exists_listed present
  simp [isOf, found, own]

theorem IsReachable.nodup_listOf (reachable : service.IsReachable) (sequence : SequenceKey) :
    (service.world.roster.listOf sequence).Nodup := by
  obtain ⟨first, moves, initial, run⟩ := reachable
  exact ((inOrder_run initial run).numbers sequence).of_map _

/-- An active candidate of a suspended sequence bears the mark. -/
theorem IsReachable.marked (reachable : service.IsReachable)
    (suspended : service.world.isSuspended sequence = true) {identity : Nat}
    {candidate : Candidate} (found : service.world.candidate? identity = some candidate)
    (own : candidate.sequence = sequence) (active : candidate.ending = none) :
    candidate.suspended = true := by
  obtain ⟨_, marked⟩ := reachable.sound.listed.present identity _ (candidate_share found) active
  exact marked.trans (own ▸ suspended)

/-- No task of a suspended sequence waits. -/
theorem IsReachable.clear_of_suspended (reachable : service.IsReachable)
    (suspended : service.world.isSuspended sequence = true) :
    ∀ entry ∈ service.world.agenda.entries,
      service.world.isOf sequence entry.task.candidate = false := by
  intro entry present
  obtain ⟨candidate, found, awaits⟩ := reachable.isBooked.booked entry present
  rw [isOf, found, Option.any_some, decide_eq_false_iff_not]
  intro own
  have wants := awaits.wants
  simp [Candidate.wantsTimer, reachable.marked suspended found own awaits.active] at wants

theorem IsReachable.isHeld (reachable : service.IsReachable)
    (suspended : service.world.isSuspended sequence = true) {identity : Nat}
    {candidate : Candidate} (found : service.world.candidate? identity = some candidate)
    (own : candidate.sequence = sequence) : candidate.IsHeld where
  timerless := by
    refine Option.eq_none_iff_forall_ne_some.mpr fun ticket timer => ?_
    obtain ⟨due, waits⟩ :=
      reachable.isBooked.isTimed.timed.armed identity candidate ticket found timer
    have isElsewhere := reachable.clear_of_suspended suspended _ waits
    simp [isOf, found, own] at isElsewhere
  kept := (reachable.isBooked.isTimed.timed.settled identity candidate found).kept
  marked := reachable.marked suspended found own

/-! ## The resumption -/

/-- A resumption arms each candidate of the sequence that still resends, and leaves all else
alone. -/
theorem IsReachable.resumed (reachable : service.IsReachable)
    (byQueue : service.world.driving = .byQueue) (isOpen : service.world.agenda.closed = false)
    (suspended : service.world.isSuspended sequence = true) :
    Resumed service.now service.world sequence (service.world.resume service.now sequence) := by
  have rosterSound : service.world.roster.Sound := reachable.sound.listed.sound
  have listed :
      service.world.roster.suspendedOf sequence = service.world.roster.listOf sequence := by
    rw [Roster.listOf, rosterSound.activeOf_eq_nil suspended, List.nil_append]
  have distinct := reachable.nodup_listOf sequence
  have clear := reachable.clear_of_suspended suspended
  have isOwn {identity : Nat} (present : identity ∈ service.world.roster.listOf sequence) :=
    reachable.isOf_of_listed present
  let entered := service.world.entered "resume" [sequenceField sequence]
  have held : ∀ identity ∈ service.world.roster.listOf sequence, ∃ candidate,
      entered.candidate? identity = some candidate ∧ candidate.IsHeld := by
    intro identity present
    obtain ⟨candidate, found, own⟩ := reachable.exists_listed present
    exact ⟨candidate, found, reachable.isHeld suspended found own⟩
  have wakes := wakes_foldl (show entered.driving = .byQueue from byQueue) isOpen distinct held
    service.now
  obtain ⟨events, resumes⟩ := resume_of_suspended suspended (by rw [listed]) wakes.frame
  obtain ⟨fresh, ids, arms, placed⟩ := wakes.tasks
  have sorted : service.world.agenda.IsSorted := reachable.isSorted
  have entries := placed _ _ (sorted.split service.now)
    (fun entry present => of_decide_eq_true (List.mem_filter.mp present).2)
    (fun entry present => of_decide_eq_true (List.mem_filter.mp present).2)
  have resumable : fresh.map (fun entry => entry.task.candidate) =
      service.world.resumable sequence := ids
  rw [resumes]
  constructor
  case lists => exact fun other => Roster.listOf_resume _ _ _
  case marks => exact fun other => Roster.isSuspended_resume_other _ _ _
  case others =>
    intro identity isElsewhere
    exact wakes.others identity fun present =>
      Bool.false_ne_true (isElsewhere.symm.trans (isOwn present))
  case flags =>
    intro identity candidate found own notResumable
    by_cases present : identity ∈ service.world.roster.listOf sequence
    · refine wakes.flags identity present candidate found (Bool.eq_false_iff.mpr fun resumes => ?_)
      exact notResumable (List.mem_filter.mpr ⟨present, by simp [isResumable, found, resumes]⟩)
    · exact ⟨candidate.suspended, candidate.requestAck, (wakes.others identity present).trans found⟩
  case armed =>
    intro identity present
    obtain ⟨entry, isFresh, rfl⟩ := List.mem_map.mp (resumable ▸ present)
    obtain ⟨due, candidate, found, generation, isArmed⟩ := arms entry isFresh
    have apart : ∀ other ∈ service.world.agenda.entries,
        other.task.candidate ≠ entry.task.candidate := by
      intro other isOther same
      have isClear := clear other isOther
      rw [same, isOwn (List.mem_of_mem_filter present)] at isClear
      cases isClear
    have freshDistinct : (fresh.map fun entry => entry.task.candidate).Nodup :=
      resumable ▸ distinct.filter _
    refine ⟨candidate, entry.ticket, found, isArmed, ?_⟩
    rw [show _ = _ from entries, filter_between freshDistinct isFresh fun other isOther =>
      apart other (isOther.elim List.mem_of_mem_filter List.mem_of_mem_filter), ← due, ← generation]
  case entries =>
    refine ⟨fresh, ?_, entries⟩
    rw [← resumable, List.map_map]
    refine List.map_congr_left fun entry isFresh => ?_
    rw [(arms entry isFresh).1]
    rfl
  case clear => exact clear
  case frame => exact ⟨_, _, _, _, rfl⟩

end Service

/-! ## What is run next -/

namespace Registry

/-- Whether no resend of a candidate is under way. -/
def isIdle (registry : Registry) (identity : Nat) : Bool :=
  (registry.candidate? identity).any fun candidate => !candidate.pending

/-- A resend of a candidate that asks for an acknowledgment. -/
def Renews (now : Nat) (registry : Registry) (identity : Nat) (resend : Resend) : Prop :=
  ∃ candidate message, registry.candidate? identity = some candidate ∧
    candidate.message = some message ∧
    resend = { instant := now, job := { candidate := identity, message, requestAck := true } }

variable {now : Nat} {before after : Registry} {sequence : SequenceKey}

theorem mem_resumable {identity : Nat} :
    identity ∈ before.resumable sequence ↔ identity ∈ before.roster.listOf sequence ∧
      ∃ candidate, before.candidate? identity = some candidate ∧ candidate.isResumable = true := by
  simp [resumable, isResumable, Option.any_eq_true]

/-- The candidates that were armed are due, and free unless a resend of theirs is under way. -/
theorem Resumed.dueAmong_eq (resumed : Resumed now before sequence after)
    (isOwn : ∀ identity ∈ before.resumable sequence, before.isOf sequence identity = true)
    (held : ∀ identity candidate, before.candidate? identity = some candidate →
      candidate.sequence = sequence → candidate.IsHeld) :
    after.dueAmong (before.isOf sequence) now after.agenda.entries =
      (before.resumable sequence).filter before.isIdle := by
  obtain ⟨fresh, armed, entries⟩ := resumed.entries
  have identities : fresh.map (fun entry => entry.task.candidate) = before.resumable sequence := by
    have firsts := congrArg (List.map Prod.fst) armed
    simpa [List.map_map, Function.comp_def] using firsts
  have isDue : ∀ entry ∈ fresh,
      (before.isOf sequence entry.task.candidate && decide (entry.due ≤ now)) = true := by
    intro entry isFresh
    have present : entry.task.candidate ∈ before.resumable sequence :=
      identities ▸ List.mem_map_of_mem isFresh
    have among : (entry.task.candidate, entry.due) ∈ (before.resumable sequence).map (·, now) :=
      armed ▸ List.mem_map_of_mem (f := fun entry : Schedule.Entry Alarm =>
        (entry.task.candidate, entry.due)) isFresh
    obtain ⟨_, _, same⟩ := List.mem_map.mp among
    have due : now = entry.due := congrArg Prod.snd same
    simp [isOwn _ present, due]
  have noneElse {others : List (Schedule.Entry Alarm)}
      (old : ∀ entry ∈ others, entry ∈ before.agenda.entries) :
      (others.filter fun entry =>
        before.isOf sequence entry.task.candidate && decide (entry.due ≤ now)) = [] := by
    refine List.filter_eq_nil_iff.mpr fun entry present => ?_
    simp [resumed.clear entry (old entry present)]
  rw [dueAmong, entries, List.filter_append, List.filter_append,
    noneElse fun entry => List.mem_of_mem_filter, noneElse fun entry => List.mem_of_mem_filter,
    List.filter_eq_self.mpr isDue, List.nil_append, List.append_nil, identities]
  refine List.filter_congr fun identity present => ?_
  obtain ⟨candidate, ticket, found, isArmed, _⟩ := resumed.armed identity present
  have isResumable : candidate.isResumable = true := by
    obtain ⟨_, other, isOther, resumes⟩ := mem_resumable.mp present
    exact Option.some.inj (found.symm.trans isOther) ▸ resumes
  have own : candidate.sequence = sequence := by
    simpa [isOf, found] using isOwn identity present
  have free := (held identity candidate found own).isFree_resumed isResumable now ticket
  rw [isFreeAt, isIdle, isArmed, found, Option.any_some, Option.any_some, free]

/-- No task of the sequence is overdue then. -/
theorem Resumed.le_due (resumed : Resumed now before sequence after)
    (entry : Schedule.Entry Alarm) (present : entry ∈ after.agenda.entries)
    (own : before.isOf sequence entry.task.candidate = true) : now ≤ entry.due := by
  obtain ⟨fresh, armed, entries⟩ := resumed.entries
  rw [entries] at present
  rcases List.mem_append.mp present with early | late
  · rcases List.mem_append.mp early with old | new
    · rw [resumed.clear entry (List.mem_of_mem_filter old)] at own
      cases own
    · have among : (entry.task.candidate, entry.due) ∈
          (before.resumable sequence).map (·, now) := armed ▸ List.mem_map_of_mem new
      obtain ⟨_, _, same⟩ := List.mem_map.mp among
      exact Nat.le_of_eq (congrArg Prod.snd same)
  · exact Nat.le_of_lt (of_decide_eq_true (List.mem_filter.mp late).2)

/-- Each of them hands over its message, and asks for an acknowledgment. -/
theorem Resumed.renews (resumed : Resumed now before sequence after)
    (kept : ∀ identity candidate, before.candidate? identity = some candidate →
      candidate.ending = none → candidate.message ≠ none) {identities : List Nat}
    (among : ∀ identity ∈ identities, identity ∈ before.resumable sequence) :
    List.Forall₂ (Renews now before) identities (after.resendsOf now identities) := by
  induction identities with
  | nil => exact .nil
  | cons identity rest inductionHypothesis =>
      have present := among identity List.mem_cons_self
      obtain ⟨candidate, ticket, found, isArmed, _⟩ := resumed.armed identity present
      obtain ⟨_, other, isOther, isResumable⟩ := mem_resumable.mp present
      obtain rfl := Option.some.inj (found.symm.trans isOther)
      have active := (Candidate.isResumable_eq_true_iff.mp isResumable).2.2
      obtain ⟨message, isMessage⟩ := Option.ne_none_iff_exists'.mp (kept identity _ found active)
      have hands : after.outline.job? identity =
          some { candidate := identity, message, requestAck := true } := by
        rw [Outline.job?, getElem?_outline, isArmed]
        simp only [Option.map_some, Option.bind_some]
        rw [show (candidate.resumed now ticket).untimed.message = some message from isMessage]
        rfl
      have splits : after.resendsOf now (identity :: rest) =
          { instant := now, job := { candidate := identity, message, requestAck := true } } ::
            after.resendsOf now rest := by
        simp [resendsOf, hands]
      rw [splits]
      exact .cons ⟨candidate, message, found, isMessage, rfl⟩
        (inductionHypothesis fun other isOther => among other (List.mem_cons_of_mem _ isOther))

end Registry

namespace Service

/-- Where no resend is under way, no candidate of a reachable service is pending. -/
theorem IsReachable.filter_isIdle {service : Service} (reachable : service.IsReachable)
    (rest : errandsIn service.programs = 0) (sequence : SequenceKey) :
    (service.world.resumable sequence).filter service.world.isIdle =
      service.world.resumable sequence := by
  refine List.filter_eq_self.mpr fun identity present => ?_
  obtain ⟨_, candidate, found, isResumable⟩ := mem_resumable.mp present
  have active := (Candidate.isResumable_eq_true_iff.mp isResumable).2.2
  have counted := (reachable.sound.share identity).single _ (candidate_share found) active
  have noErrand : (service.outline.share identity).errands = 0 := by
    rw [Outline.share, Outline.shareWith, programs_outline, errandsIn_apartFromRings, rest]
    rfl
  have idle : candidate.pending = false := by
    rw [noErrand, Multiset.card_zero] at counted
    have same : candidate.untimed.pending = candidate.pending := rfl
    rw [same] at counted
    cases pending : candidate.pending with
    | false => rfl
    | true => simp [pending] at counted
  simp [isIdle, found, idle]

/-- What the call has resent at its end that runs what is due after a resumption: each candidate
that was armed and is not busy once, in the order in which their messages were registered. -/
structure ResendsInTurn (service : Service) (sequence : SequenceKey) (resumed : Service)
    (tasks : List (Schedule.Entry Alarm)) (begun : List Resend) (last : Service) : Prop where
  runsUpTo : resumed.RunsUpTo service.now tasks last
  resends : last.world.journal.resends = begun.reverse ++ service.world.journal.resends
  inTurn : List.Forall₂ (Renews service.now service.world)
    ((service.world.resumable sequence).filter service.world.isIdle)
    (begun.filter fun resend => service.world.isOf sequence resend.job.candidate)

/-- The resumption of a sequence, and the call that then runs what is due. -/
structure Resumes (service : Service) (sequence : SequenceKey) (registered : List Nat)
    (resumed : Service) : Prop where
  /-- Only the registry changes. -/
  frame : resumed = { service with world := resumed.world }
  world : Resumed service.now service.world sequence resumed.world
  /-- The candidates of the sequence are listed as their messages were registered. -/
  inOrder : (service.world.roster.listOf sequence).map service.world.numberOf =
    registered.map some
  runs : ∃ tasks begun last, service.ResendsInTurn sequence resumed tasks begun last
  /-- Between two calls none of them is busy. -/
  idle : errandsIn service.programs = 0 →
    (service.world.resumable sequence).filter service.world.isIdle =
      service.world.resumable sequence

/-- The call that runs what is due resends what was armed, in order. -/
theorem IsReachable.exists_resends {service resumed : Service} {sequence : SequenceKey}
    (reachable : service.IsReachable) (prompt : service.IsPrompt)
    (suspended : service.world.isSuspended sequence = true)
    (moved : service.move? (.command (.resume sequence)) = some resumed)
    (world : Resumed service.now service.world sequence resumed.world)
    (sameNow : resumed.now = service.now) :
    ∃ tasks begun last, service.ResendsInTurn sequence resumed tasks begun last := by
  have stillReachable := (Leads.of_move _ moved).isReachable reachable
  have stillPrompt := prompt.move reachable.sound.tidy moved rfl fun _ => nofun
  have sameResends : resumed.world.journal.resends = service.world.journal.resends := by
    obtain ⟨_, _, _, _, same⟩ := world.frame
    rw [same]
  obtain ⟨tasks, last, runs⟩ := exists_runsUpTo stillReachable stillPrompt service.now
  have begins : resumed.move? (.command (.request none (.runDue service.now))) =
      some (resumed.carryOut (.request none (.runDue service.now))) :=
    if_pos (decide_eq_true stillPrompt.byQueue)
  obtain ⟨_, run⟩ := (Leads.of_move _ begins).trans runs.goesOn.leads
  obtain ⟨begun, splits⟩ := suffix_resends_run stillReachable.sound.tidy run
  have isOwn : ∀ identity ∈ service.world.resumable sequence,
      service.world.isOf sequence identity = true := fun _ present =>
    reachable.isOf_of_listed (mem_resumable.mp present).1
  let watched (resend : Resend) : Bool := service.world.isOf sequence resend.job.candidate
  have resends : last.world.journal.resends.filter watched =
      (resumed.world.resendsOf resumed.now (resumed.world.dueAmong (service.world.isOf sequence)
        service.now resumed.world.agenda.entries)).reverse ++
        resumed.world.journal.resends.filter watched := runs.worksOff.resends_of world.le_due
  have held : ∀ identity candidate, service.world.candidate? identity = some candidate →
      candidate.sequence = sequence → candidate.IsHeld := fun _ _ found own =>
    reachable.isHeld suspended found own
  rw [← splits, List.filter_append, List.append_cancel_right_eq, sameNow,
    world.dueAmong_eq isOwn held] at resends
  refine ⟨tasks, begun.reverse, last, runs, ?_, ?_⟩
  · rw [List.reverse_reverse, ← sameResends]
    exact splits.symm
  · rw [List.filter_reverse, show begun.filter watched = _ from resends, List.reverse_reverse]
    refine world.renews (fun identity candidate found active isNone => ?_) fun identity =>
      List.mem_of_mem_filter
    exact (reachable.isBooked.isTimed.timed.settled identity candidate found).kept isNone active

/-! ## Once more -/

/-- A sequence that was resumed just now is not resumed again. -/
theorem onlyReports_resume_again (service : Service) (sequence : SequenceKey) :
    (service.carryOut (.resume sequence)).OnlyReports
      ((service.carryOut (.resume sequence)).carryOut (.resume sequence)) := by
  have active :
      (service.carryOut (.resume sequence)).world.roster.isSuspended sequence = false := by
    rw [← roster_outline, outline_resume]
    cases suspended : service.world.roster.isSuspended sequence with
    | false => simpa using suspended
    | true => simp
  have unstarted : (service.carryOut (.resume sequence)).world.starting = [] := by
    simp [carryOut, change]
  exact @onlyReports_change _ unstarted (·.resume _ sequence) (resume_of_active active _)

/-- A sequence that was suspended just now has nothing left to suspend. -/
theorem onlyReports_suspend_again (service : Service) (sequence : SequenceKey) :
    (service.carryOut (.suspend sequence)).OnlyReports
      ((service.carryOut (.suspend sequence)).carryOut (.suspend sequence)) := by
  have roster : (service.carryOut (.suspend sequence)).world.roster =
      service.world.roster.suspend sequence := by
    rw [← roster_outline, outline_suspend]
  have unstarted : (service.carryOut (.suspend sequence)).world.starting = [] := by
    simp [carryOut, change]
  refine @onlyReports_change _ unstarted (·.suspend sequence) (suspend_of_none ?_ ?_)
  · rw [roster, Roster.activeOf_suspend, if_pos rfl]
  · rw [roster, Roster.suspend_suspend]

/-! ## The main result -/

/-- A resumption has every candidate of the sequence that still resends do so at once, in the order
of registration; and to resume or to suspend once more changes nothing. -/
theorem resumption_exact {first service : Service} {moves : List Move} (initial : first.IsInitial)
    (run : Run first moves service) (prompt : service.IsPrompt)
    (isOpen : service.world.agenda.closed = false) (sequence : SequenceKey) :
    (service.world.isSuspended sequence = true →
      service.Resumes sequence (Book.written moves sequence).numbers
        (service.carryOut (.resume sequence))) ∧
      (service.carryOut (.resume sequence)).OnlyReports
        ((service.carryOut (.resume sequence)).carryOut (.resume sequence)) ∧
      (service.carryOut (.suspend sequence)).OnlyReports
        ((service.carryOut (.suspend sequence)).carryOut (.suspend sequence)) := by
  refine ⟨fun suspended => ?_, service.onlyReports_resume_again sequence,
    service.onlyReports_suspend_again sequence⟩
  have reachable : service.IsReachable := ⟨first, moves, initial, run⟩
  have world := reachable.resumed prompt.byQueue isOpen suspended
  have unstarted : (service.world.resume service.now sequence).starting = [] := by
    obtain ⟨_, _, _, _, same⟩ := world.frame
    rw [same]
    exact reachable.isBooked.isTimed.started
  have after : service.carryOut (.resume sequence) =
      { service with world := service.world.resume service.now sequence } :=
    launch_of_idle unstarted
  have moved : service.move? (.command (.resume sequence)) =
      some { service with world := service.world.resume service.now sequence } := by
    rw [← after]
    rfl
  rw [after]
  exact ⟨rfl, world, map_numberOf (tracks_world (tracks_run initial run)) sequence,
    reachable.exists_resends prompt suspended moved world rfl,
    fun rest => reachable.filter_isIdle rest sequence⟩

end Service

namespace Sample

/-- Messages come and go while their sequence is suspended, resumed and suspended again; one number
is used a second time. -/
def interrupted : List Move :=
  [.command (.add (message 2 none)), .command (.add (message 1 none)),
    .command (.suspend sequence), .command (.add (message 3 none)), .wait 1000000000,
    .command (.resume sequence), .command (.suspend sequence),
    .command (.purgeAcknowledged sequence fun number => number == 1),
    .command (.add (message 1 none)), .wait 5000000000]

end Sample

namespace Service

/-- The number that was used again comes last. -/
theorem resumption_exact_of_interrupted :
    ∃ service, Run (Sample.service .byQueue) Sample.interrupted service ∧ service.IsPrompt ∧
      service.world.agenda.closed = false ∧ errandsIn service.programs = 0 ∧
      service.world.resumable Sample.sequence = [0, 2, 3] ∧
      service.Resumes Sample.sequence [2, 3, 1] (service.carryOut (.resume Sample.sequence)) := by
  obtain ⟨service, followed, facts⟩ := Option.map_eq_some_iff.mp
    (by decide +kernel : (follow Sample.interrupted (Sample.service .byQueue)).map (fun service =>
      (service.world.agenda.closed, Multiset.card (errandsIn service.programs),
        service.world.resumable Sample.sequence, service.world.isSuspended Sample.sequence)) =
          some (false, 0, [0, 2, 3], true))
  simp only [Prod.mk.injEq] at facts
  obtain ⟨isOpen, noErrand, resumable, suspended⟩ := facts
  have run := Run.of_follow followed
  have prompt : service.IsPrompt := isPrompt_run (Sample.isInitial_service .byQueue) rfl
    (fun owner => by cases owner <;> rfl) Script.isInstant_empty (by decide) run
  have resumption :=
    resumption_exact (Sample.isInitial_service .byQueue) run prompt isOpen Sample.sequence
  exact ⟨service, run, prompt, isOpen, Multiset.card_eq_zero.mp noErrand, resumable,
    resumption.1 suspended⟩

end Service

end Redelivery
