import Redelivery.Proofs.Enactments
import Redelivery.Proofs.Forcing

/-!
# Resending all that is due

A call for what is due hands over one resend of each candidate that is due, before the first of them
goes out, and leaves every other candidate alone.  It comes back with their number.  If it has the
service to itself, and runs its resends itself, each of them begins once, in the order in which they
were handed over, which in each sequence is the order of registration.  Whether a candidate is due
again by then makes no difference.
-/

namespace Redelivery

namespace Registry

/-! ## Handing over several resends -/

/-- A candidate of an active sequence whose next resend may go out, and is due by an instant. -/
structure IsDue (registry : Registry) (upTo identity : Nat) (candidate : Candidate) : Prop where
  active : ∃ sequence, identity ∈ registry.roster.activeOf sequence
  found : registry.candidate? identity = some candidate
  idle : candidate.pending = false
  allowed : candidate.exhausted = false
  ongoing : candidate.phase.isTerminal = false
  addressable : candidate.addressable = true
  due : candidate.next ≤ upTo

/-- Resends of different candidates are handed over: their timers are given up, and nobody else
notices. -/
structure HandsOverAll (before : Registry) (jobs : List Job) (after : Registry) : Prop where
  distinct : (jobs.map Job.candidate).Nodup
  each : ∀ job ∈ jobs, ∃ former, before.candidate? job.candidate = some former ∧
    former.isFree = true ∧ former.message = some job.message ∧
    job.requestAck = former.requestAck ∧
    after.candidate? job.candidate =
      some { former with
        pending := true
        requestAck := false
        timer := none
        generation := former.generation + 1 }
  others : ∀ other, other ∉ jobs.map Job.candidate →
    after.candidate? other = before.candidate? other
  agenda : after.agenda =
    { before.agenda with
      entries := before.agenda.entries.filter fun entry =>
        entry.task.candidate ∉ jobs.map Job.candidate }
  frame : ∃ candidates agenda, after = { before with candidates, agenda }

variable {registry : Registry}

theorem HandsOverAll.refl (registry : Registry) : registry.HandsOverAll [] registry where
  distinct := List.nodup_nil
  each := fun _ present => absurd present List.not_mem_nil
  others := fun _ _ => rfl
  agenda := by simp
  frame := ⟨_, _, rfl⟩

theorem HandsOverAll.trans {first middle last : Registry} {jobs more : List Job}
    (early : first.HandsOverAll jobs middle) (late : middle.HandsOverAll more last)
    (apart : ∀ job ∈ more, job.candidate ∉ jobs.map Job.candidate) :
    first.HandsOverAll (jobs ++ more) last where
  distinct := by
    rw [List.map_append]
    refine List.nodup_append.mpr ⟨early.distinct, late.distinct, ?_⟩
    rintro identity isEarly other isLate rfl
    obtain ⟨job, isJob, rfl⟩ := List.mem_map.mp isLate
    exact apart job isJob isEarly
  each := by
    intro job present
    rcases List.mem_append.mp present with isEarly | isLate
    · obtain ⟨former, was, free, held, asks, is⟩ := early.each job isEarly
      have untouched : job.candidate ∉ more.map Job.candidate := by
        intro isLate
        obtain ⟨other, isOther, same⟩ := List.mem_map.mp isLate
        exact apart other isOther (same ▸ List.mem_map_of_mem isEarly)
      exact ⟨former, was, free, held, asks, (late.others _ untouched).trans is⟩
    · obtain ⟨former, was, free, held, asks, is⟩ := late.each job isLate
      exact ⟨former, (early.others _ (apart job isLate)).symm.trans was, free, held, asks, is⟩
  others := by
    intro other untouched
    rw [List.map_append, List.mem_append, not_or] at untouched
    exact (late.others other untouched.2).trans (early.others other untouched.1)
  agenda := by
    rw [late.agenda, early.agenda]
    simp only [List.filter_filter, List.map_append, List.mem_append, not_or, Bool.decide_and]
    congr 2
    funext entry
    exact Bool.and_comm _ _
  frame := by
    obtain ⟨_, _, rfl⟩ := early.frame
    obtain ⟨_, _, rfl⟩ := late.frame
    exact ⟨_, _, rfl⟩

/-- The tasks on the agenda that are for a candidate are those of its timer. -/
theorem cancel_timer_eq (timed : registry.Timed) (booked : registry.Booked) {identity : Nat}
    {candidate : Candidate} (found : registry.candidate? identity = some candidate) :
    candidate.timer.elim registry.agenda registry.agenda.cancel =
      { registry.agenda with
        entries := registry.agenda.entries.filter fun entry =>
          entry.task.candidate ≠ identity } := by
  have own : ∀ entry ∈ registry.agenda.entries,
      (entry.task.candidate = identity ↔ candidate.timer = some entry.ticket) := by
    intro entry present
    constructor
    · rintro rfl
      obtain ⟨holder, isHolder, awaits⟩ := booked entry present
      obtain rfl := Option.some.inj (found.symm.trans isHolder)
      exact awaits.timer
    · intro armed
      obtain ⟨due, waits⟩ := timed.armed identity candidate entry.ticket found armed
      rw [timed.agenda.eq_of_ticket present waits rfl]
  cases armed : candidate.timer with
  | none =>
      have all : registry.agenda.entries.filter (fun entry => entry.task.candidate ≠ identity) =
          registry.agenda.entries := by
        refine List.filter_eq_self.mpr fun entry present => decide_eq_true fun isOwn => ?_
        cases armed.symm.trans ((own entry present).mp isOwn)
      rw [Option.elim_none, all]
  | some ticket =>
      rw [Option.elim_some, Schedule.Agenda.cancel]
      congr 1
      refine List.filter_congr fun entry present => decide_eq_decide.mpr (not_congr ?_)
      rw [own entry present, armed, Option.some_inj]
      exact eq_comm

/-- Forcing one candidate hands over at most one resend. -/
theorem handsOverAll_force (timed : registry.Timed) (booked : registry.Booked) (identity : Nat)
    (upTo : Option Nat) :
    registry.HandsOverAll (registry.force identity upTo).2.toList
        (registry.force identity upTo).1 ∧
      ∀ job ∈ (registry.force identity upTo).2.toList, job.candidate = identity := by
  have nothing (declines : registry.force identity upTo = (registry, none)) :
      registry.HandsOverAll (registry.force identity upTo).2.toList
          (registry.force identity upTo).1 ∧
        ∀ job ∈ (registry.force identity upTo).2.toList, job.candidate = identity := by
    rw [declines]
    exact ⟨.refl registry, fun _ present => absurd present List.not_mem_nil⟩
  cases found : registry.candidate? identity with
  | none => exact nothing (by simp only [force, found])
  | some candidate =>
      by_cases forcible : (candidate.isFree && upTo.all candidate.isDue) = true
      · obtain ⟨free, due⟩ := Bool.and_eq_true_iff.mp forcible
        obtain ⟨message, held, forces⟩ := force_of_isFree found free upTo due
        rw [forces, Option.toList_some]
        refine ⟨?_, fun job present => by rw [List.mem_singleton.mp present]; rfl⟩
        constructor
        case distinct => exact List.nodup_singleton _
        case each =>
          intro job present
          obtain rfl := List.mem_singleton.mp present
          exact ⟨candidate, found, free, held, rfl, candidate?_forced_self found⟩
        case others =>
          intro other untouched
          exact candidate?_forced_of_ne fun same => untouched (same ▸ List.mem_cons_self)
        case agenda =>
          have cancels := cancel_timer_eq timed booked found
          simpa [forced] using cancels
        case frame => exact ⟨_, _, rfl⟩
      · exact nothing (by simp only [force, found, if_neg forcible])

end Registry

namespace Service

open Registry

/-- Forcing different candidates one after the other hands over resends of some of them. -/
theorem handsOverAll_foldl (upTo : Nat) {identities : List Nat} (distinct : identities.Nodup)
    (handed : Registry × List Job) (timed : handed.1.Timed) (booked : handed.1.Booked) :
    ∃ jobs, (identities.foldl (forceNext upTo) handed).2 = handed.2 ++ jobs ∧
      handed.1.HandsOverAll jobs (identities.foldl (forceNext upTo) handed).1 ∧
      ∀ job ∈ jobs, job.candidate ∈ identities := by
  induction identities generalizing handed with
  | nil =>
      refine ⟨[], (List.append_nil _).symm, .refl _, ?_⟩
      exact fun _ present => absurd present List.not_mem_nil
  | cons identity rest inductionHypothesis =>
      obtain ⟨absent, restDistinct⟩ := List.nodup_cons.mp distinct
      obtain ⟨first, own⟩ := handsOverAll_force timed booked identity (some upTo)
      have books : Registry.Books (fun _ => False) handed.1
          (handed.1.force identity (some upTo)).1 :=
        handed.1.books_force identity (some upTo)
      obtain ⟨jobs, grown, further, among⟩ := inductionHypothesis restDistinct
        (forceNext upTo handed identity) (books.timed timed) (books.booked timed booked)
      refine ⟨(handed.1.force identity (some upTo)).2.toList ++ jobs, ?_, ?_, ?_⟩
      · rw [List.foldl_cons, grown, ← List.append_assoc]
        rfl
      · refine first.trans further fun job isJob again => absent ?_
        obtain ⟨other, isOther, same⟩ := List.mem_map.mp again
        rw [← own other isOther, same]
        exact among job isJob
      · intro job present
        rcases List.mem_append.mp present with isFirst | isFurther
        · rw [own job isFirst]
          exact List.mem_cons_self
        · exact List.mem_cons_of_mem _ (among job isFurther)

/-- Forcing all that is due hands over a resend of each candidate that is ready. -/
theorem handsOverAll_forceDue {registry : Registry} (timed : registry.Timed)
    (booked : registry.Booked) (distinct : registry.roster.allActive.Nodup) (upTo : Nat) :
    registry.HandsOverAll (forceDue registry upTo).2 (forceDue registry upTo).1 ∧
      (forceDue registry upTo).2.map Job.candidate =
        registry.roster.allActive.filter (registry.outline.isReady upTo) := by
  constructor
  · obtain ⟨jobs, grown, hands, _⟩ :=
      handsOverAll_foldl upTo distinct (registry, []) timed booked
    have isAll : (forceDue registry upTo).2 = jobs := grown
    rw [isAll]
    exact hands
  · rw [(forceDue_eq registry distinct upTo).2]
    refine Outline.map_candidate_jobs fun identity present => ?_
    have ready : registry.outline.isForcible (some upTo) identity = true :=
      (List.mem_filter.mp present).2
    exact Outline.isFree_of_isForcible ready

/-- The candidates that a call for what is due resends are those that are due. -/
theorem mem_dueBy_iff {service : Service} (isBooked : service.IsBooked)
    (filed : service.outline.Filed) {upTo identity : Nat} :
    identity ∈ service.dueBy upTo ↔ ∃ candidate, service.world.IsDue upTo identity candidate := by
  have listed := isBooked.sound.listed
  have isActive : identity ∈ service.world.roster.allActive ↔
      ∃ sequence, identity ∈ service.world.roster.activeOf sequence :=
    Keyed.mem_flatten_values_iff listed.sound.activeDistinct
  have isReady {candidate : Candidate}
      (found : service.world.candidate? identity = some candidate) :
      candidate.isFree = true ↔ candidate.IsReady :=
    Candidate.isFree_iff_isReady (isBooked.isTimed.timed.settled identity candidate found).kept
  rw [dueBy, List.mem_filter, Outline.isReady, getElem?_outline, Option.any_map,
    Option.any_eq_true, isActive]
  constructor
  · rintro ⟨active, candidate, found, ready⟩
    obtain ⟨free, due⟩ := Bool.and_eq_true_iff.mp ready
    obtain ⟨idle, _, allowed, ongoing, addressable⟩ := (isReady found).mp free
    exact ⟨candidate, active, found, idle, allowed, ongoing, addressable, of_decide_eq_true due⟩
  · rintro ⟨candidate, ⟨sequence, active⟩, found, idle, allowed, ongoing, addressable, due⟩
    -- a candidate on an active list is not suspended
    have resumed : candidate.suspended = false := by
      obtain ⟨other, isOther, _, fits⟩ :=
        exists_listed listed filed (Roster.mem_listOf.mpr (.inl active))
      obtain rfl := Option.some.inj (found.symm.trans isOther)
      have onActive : service.world.roster.isSuspended sequence = false :=
        listed.sound.isSuspended_of_mem_activeOf active
      rw [onActive] at fits
      exact fits.marked.resolve_right fun given => Bool.false_ne_true given.1
    exact ⟨⟨sequence, active⟩, candidate, found, Bool.and_eq_true_iff.mpr
      ⟨(isReady found).mpr ⟨idle, resumed, allowed, ongoing, addressable⟩,
        decide_eq_true due⟩⟩

/-! ## The call -/

variable {service : Service} {upTo : Nat}

/-- A call for what is due: what it hands over, and what it goes on to do. -/
structure Submits (service : Service) (jobs : List Job) (decided : Service) : Prop where
  hands : service.world.HandsOverAll jobs { decided.world with
    journal := service.world.journal
    calls := service.world.calls }
  /-- The call goes on to deliver the jobs, one after the other, and then to say how many they
  are. -/
  submits : decided.ready =
    ⟨jobs.flatMap (Registry.delivery service.world.routing) ++
      [.leave "drive_due", .reply service.world.calls.make.1 (.count jobs.length)], true⟩ ::
        service.ready
  errands : errandsIn decided.programs =
    (jobs.map Errand.waiting : List Errand) + errandsIn service.programs
  journal : decided.world.journal = service.world.journal.report (.enter "drive_due")
  calls : decided.world.calls = service.world.calls.make.2
  frame : decided = { service with ready := decided.ready, world := decided.world }

/-- Whether a program is to answer a call with a number. -/
def tellsCount (call : Nat) (program : Program) : Bool :=
  program.any fun instruction =>
    match instruction with
    | .reply other (.count _) => decide (other = call)
    | _ => false

/-- A call comes back with a number, and needs nobody else for that: some run in which only its own
activity has a turn answers it so, and none answers it with another number. -/
structure Counts (service : Service) (call number : Nat) : Prop where
  answers : ∃ last, service.LeadsAlone (tellsCount call) last ∧
    last.world.calls.answer? call = some (.count number)
  only : ∀ last, service.Leads last → ∀ other,
    last.world.calls.answer? call = some (.count other) → other = number

theorem carryOut_driveDue :
    service.carryOut (.request none (.driveDue upTo)) =
      service.calling service.counted [.driveDue upTo service.world.calls.make.1] :=
  rfl

/-- A call for what is due hands over a resend of each candidate that is due. -/
theorem exists_submits (isBooked : service.IsBooked)
    (distinct : service.world.roster.allActive.Nodup) :
    ∃ (decided : Service) (jobs : List Job),
      (service.carryOut (.request none (.driveDue upTo))).stepAt behave 0 = some decided ∧
      jobs.map Job.candidate = service.dueBy upTo ∧ service.Submits jobs decided := by
  have unstarted : service.world.starting = [] := isBooked.isTimed.started
  let begun := service.counted.report (.enter "drive_due")
  have timed : begun.Timed :=
    ⟨isBooked.isTimed.timed.agenda, isBooked.isTimed.timed.armed, isBooked.isTimed.timed.settled⟩
  obtain ⟨hands, candidates⟩ := handsOverAll_forceDue timed isBooked.booked distinct upTo
  generalize isHanded : forceDue begun upTo = handed at hands candidates
  obtain ⟨after, jobs⟩ := handed
  obtain ⟨candidatesAfter, agenda, isAfter⟩ := hands.frame
  have isAfter : after = { begun with candidates := candidatesAfter, agenda } := isAfter
  let program := jobs.flatMap (Registry.delivery service.world.routing) ++
    [.leave "drive_due", .reply service.world.calls.make.1 (.count jobs.length)]
  have performs : perform (.driveDue upTo service.world.calls.make.1) []
      { service with world := service.counted } =
        ({ service with world := after }, .onward program) := by
    have sameRouting : after.routing = service.world.routing := by rw [isAfter]; rfl
    have isHere : forceDue (service.counted.report (.enter "drive_due")) upTo = (after, jobs) :=
      isHanded
    simp only [perform, driveDue, isHere, sameRouting]
    rfl
  have stillUnstarted : after.starting = [] := by rw [isAfter]; exact unstarted
  have sameHeld : after.held = service.world.held := by rw [isAfter]; rfl
  refine ⟨service.calling after program, jobs,
    (congrArg _ carryOut_driveDue).trans (stepAt_calling service performs stillUnstarted),
    candidates, ?_⟩
  constructor
  case hands =>
    refine ⟨hands.distinct, hands.each, hands.others, hands.agenda, candidatesAfter, agenda, ?_⟩
    change { after with journal := service.world.journal, calls := service.world.calls } = _
    rw [isAfter]
    rfl
  case submits => rfl
  case errands =>
    rw [programs_calling service sameHeld, errandsIn_cons, errandsOf_append, errandsOf_deliveries]
    have noErrand : errandsOf
        [.leave "drive_due", .reply service.world.calls.make.1 (.count jobs.length)] = 0 := rfl
    rw [noErrand, add_zero]
    rfl
  case journal =>
    change after.journal = _
    rw [isAfter]
    rfl
  case calls =>
    change after.calls = _
    rw [isAfter]
    rfl
  case frame => rfl

/-- An activity can be done with all jobs that it is to deliver. -/
theorem leadsAlone_past_deliveries (own : Program → Bool) {service : Service}
    {routing : Executor.Routing} {jobs : List Job} {rest : Program} {foreground : Bool}
    (ready : (⟨jobs.flatMap (Registry.delivery routing) ++ rest, foreground⟩ :
      Activity Instruction) ∈ service.ready)
    (isOwn : ∀ front, own (front ++ rest) = true) :
    ∃ after, service.LeadsAlone own after ∧
      (⟨rest, foreground⟩ : Activity Instruction) ∈ after.ready := by
  induction jobs generalizing service with
  | nil => exact ⟨service, .refl own service, ready⟩
  | cons job more inductionHypothesis =>
      rw [List.flatMap_cons, List.append_assoc] at ready
      obtain ⟨middle, delivers, isReady⟩ := leadsAlone_past_delivery own ready fun front => by
        rw [← List.append_assoc]
        exact isOwn _
      obtain ⟨after, further, isOver⟩ := inductionHypothesis isReady
      exact ⟨after, delivers.trans further, isOver⟩

/-! ## The answer -/

@[simp]
theorem tellsCount_append_reply (call number : Nat) (front : Program) :
    tellsCount call (front ++ [.reply call (.count number)]) = true := by
  simp [tellsCount]

theorem Submits.eq_calling {decided : Service} {jobs : List Job}
    (submits : service.Submits jobs decided) :
    decided = service.calling decided.world
      (jobs.flatMap (Registry.delivery service.world.routing) ++ [.leave "drive_due"] ++
        [.reply service.world.calls.make.1 (.count jobs.length)]) := by
  rw [List.append_assoc]
  exact submits.frame.trans (congrArg (fun ready => { service with ready, world := decided.world })
    submits.submits)

/-- A call for what is due is owed the number of the resends that it has handed over. -/
theorem Submits.owes {decided : Service} {jobs : List Job} (numbered : service.IsNumbered)
    (submits : service.Submits jobs decided) :
    decided.Owes service.world.calls.make.1 (.count jobs.length) := by
  obtain ⟨_, _, isAfter⟩ := submits.hands.frame
  have sameHeld : decided.world.held = service.world.held := (congrArg Registry.held isAfter :)
  rw [submits.eq_calling]
  refine owes_of_new numbered decided.world sameHeld submits.calls _ (fun instruction among => ?_) _
  rcases List.mem_append.mp among with delivers | leaves
  · obtain ⟨job, _, delivery⟩ := List.mem_flatMap.mp delivers
    exact call?_delivery delivery
  · rw [List.mem_singleton.mp leaves]
    rfl

/-- A call for what is due comes back with that number. -/
theorem Submits.counts {decided : Service} {jobs : List Job} (numbered : service.IsNumbered)
    (submits : service.Submits jobs decided) :
    decided.Counts service.world.calls.make.1 jobs.length := by
  have owes := submits.owes numbered
  have ready : _ ∈ decided.ready := submits.submits ▸ List.mem_cons_self
  constructor
  case answers =>
    have isOwn (front : Program) : tellsCount service.world.calls.make.1 (front ++
        [.leave "drive_due", .reply service.world.calls.make.1 (.count jobs.length)]) = true := by
      simp [tellsCount]
    obtain ⟨middle, delivers, isReady⟩ :=
      leadsAlone_past_deliveries (tellsCount service.world.calls.make.1) ready isOwn
    obtain ⟨later, leaves, isLast⟩ := leadsAlone_past isReady (fun _ _ _ => rfl) (isOwn [])
      (tellsCount_append_reply _ _ [])
    exact exists_answered owes (delivers.trans leaves) isLast (tellsCount_append_reply _ _ [])
  case only =>
    rintro last ⟨_, run⟩ other answered
    rcases (owes.run run).given _ answered with same | served
    · cases same
      rfl
    · cases served

/-! ## A call that has the service to itself -/

/-- The programs that are to answer a call with a number. -/
def tellers (call : Nat) (programs : Multiset Program) : Multiset Program :=
  programs.filter fun program => tellsCount call program = true

@[simp]
theorem tellers_add (call : Nat) (first second : Multiset Program) :
    tellers call (first + second) = tellers call first + tellers call second :=
  Multiset.filter_add _ first second

/-- No activity of a timer answers a call. -/
@[simp]
theorem tellers_apartFromRings (call : Nat) (programs : Multiset Program) :
    tellers call (apartFromRings programs) = tellers call programs := by
  rw [tellers, apartFromRings, Multiset.filter_filter]
  refine Multiset.filter_congr fun program _ => and_iff_left_of_imp fun tells => ?_
  unfold isRing
  split
  · cases tells
  · rfl

theorem tellers_outline (call : Nat) (service : Service) :
    tellers call service.outline.programs = tellers call service.programs := by
  rw [programs_outline, tellers_apartFromRings]

theorem tellers_cons_of_tells {call : Nat} {program : Program}
    (tells : tellsCount call program = true) (programs : Multiset Program) :
    tellers call (program ::ₘ programs) = program ::ₘ tellers call programs :=
  Multiset.filter_cons_of_pos programs tells

/-- The only program that is to answer a call has its turn: it does an instruction, and nobody takes
its place but itself. -/
structure TellsOn (service : Service) (call : Nat) (instruction : Instruction) (rest : Program)
    (others after : Service) : Prop where
  sameWorld : others.world = service.world
  world : after.world = { (perform instruction rest others).1.world with starting := [] }
  tellers : (perform instruction rest others).1.world.outline.programs =
      service.world.outline.programs →
    tellers call after.outline.programs = tellers call (perform instruction rest others).2.programs

/-- Whoever has its turn is one of those that are to answer. -/
theorem tellers_ne_zero {call index : Nat} {after : Service}
    (stepped : service.stepAt behave index = some after)
    (turn : service.isTurnOf (tellsCount call) (.step index) = true) :
    tellers call service.outline.programs ≠ 0 := by
  obtain ⟨own, _, found, _, _, _, before, _⟩ := stepAt_eq_some stepped
  have tells : tellsCount call own = true := by simpa [isTurnOf, found] using turn
  rw [tellers_outline, before, tellers_cons_of_tells tells]
  exact Multiset.cons_ne_zero

theorem exists_tellsOn {call index : Nat} {after : Service} {program : Program}
    (stepped : service.stepAt behave index = some after)
    (turn : service.isTurnOf (tellsCount call) (.step index) = true)
    (only : tellers call service.outline.programs = {program}) :
    ∃ instruction rest others, program = instruction :: rest ∧
      service.TellsOn call instruction rest others after := by
  obtain ⟨own, _, found, others, sameWorld, _, before, went⟩ := stepAt_eq_some stepped
  have tells : tellsCount call own = true := by simpa [isTurnOf, found] using turn
  rw [tellers_outline, before, tellers_cons_of_tells tells] at only
  obtain ⟨isOwn, alone⟩ := (Multiset.singleton_eq_cons_iff _).mp only.symm
  rcases went with ⟨rfl, _⟩ | ⟨instruction, rest, middle, rfl, isMiddle, world, programs⟩
  · cases tells
  · refine ⟨instruction, rest, others, isOwn, sameWorld, by rw [world, isMiddle], fun same => ?_⟩
    have samePrograms : middle.outline.programs = others.outline.programs := by
      rw [isMiddle, outline, outline, Outline.withPrograms, Outline.withPrograms, same, sameWorld]
      rfl
    have noneElse : tellers call middle.programs = 0 := by
      rw [← tellers_outline, samePrograms, tellers_outline, alone]
    rw [tellers_outline, programs, tellers_add, noneElse, add_zero]

/-- What is left of a call that delivers jobs by itself: those that have not begun, and its
program. -/
inductive Remains (call number : Nat) : List Job → Program → Prop
  | delivering (rest : List Job) :
      Remains call number rest
        (rest.map Instruction.send ++ [.leave "drive_due", .reply call (.count number)])
  | waiting {job : Job} {rest : List Job} (failure : Option TransportFailure)
      (isOther : job.candidate ∉ rest.map Job.candidate) :
      Remains call number rest (.conclude job failure ::
        (rest.map Instruction.send ++ [.leave "drive_due", .reply call (.count number)]))
  | replying : Remains call number [] [.reply call (.count number)]

/-- A call that delivers jobs by itself: of those that are left, none has begun, and all may. -/
structure Delivers (service : Service) (call number : Nat) (resends : List Resend)
    (rest : List Job) : Prop where
  resends : service.outline.resends = resends
  distinct : (rest.map Job.candidate).Nodup
  may : ∀ job ∈ rest, (service.outline.candidates[job.candidate]?).any Candidate.maySend = true
  left : rest = [] ∨ service.world.calls.answer? call = none
  remains : rest = [] ∧ tellers call service.outline.programs = 0 ∨
    ∃ program, Remains call number rest program ∧
      tellers call service.outline.programs = {program}

/-- What has to be kept for the jobs that are still left. -/
theorem Delivers.further {after : Service} {call number : Nat} {resends more : List Resend}
    {rest stillLeft : List Job} (delivers : service.Delivers call number resends rest)
    (suffix : stillLeft <:+ rest) (further : after.outline.resends = more)
    (same : ∀ job ∈ stillLeft, after.outline.candidates[job.candidate]? =
      service.outline.candidates[job.candidate]?)
    (calls : stillLeft = [] ∨ after.world.calls = service.world.calls)
    (remains : stillLeft = [] ∧ tellers call after.outline.programs = 0 ∨
      ∃ program, Remains call number stillLeft program ∧
        tellers call after.outline.programs = {program}) :
    after.Delivers call number more stillLeft where
  resends := further
  distinct := delivers.distinct.sublist (suffix.sublist.map Job.candidate)
  may := by
    intro job present
    rw [same job present]
    exact delivers.may job (suffix.subset present)
  left := by
    rcases calls with done | sameCalls
    · exact .inl done
    · rw [sameCalls]
      refine delivers.left.imp_left fun none => ?_
      rw [none] at suffix
      exact List.suffix_nil.mp suffix
  remains := remains

/-- A resend that may go out begins, and ends either at once or after a while. -/
theorem send_of_maySend {job : Job} (may : service.world.maySend job = true) (rest : Program) :
    ((perform (.send job) rest service).1.world.outline =
        (service.world.outline.noteResend service.now job).modify job.candidate
          (Candidate.completed service.now) ∧
      (perform (.send job) rest service).2.programs = {rest}) ∨
    ∃ failure,
      (perform (.send job) rest service).1.world.outline =
        service.world.outline.noteResend service.now job ∧
      (perform (.send job) rest service).2.programs = {.conclude job failure :: rest} := by
  simp only [perform, send, may, if_true]
  split
  · left
    rw [proceed, Registry.outline_concludeSend, Registry.outline_beginSend]
    exact ⟨rfl, rfl⟩
  · exact .inr ⟨_, Registry.outline_beginSend _ _ _, rfl⟩

/-- Nobody is to answer the next call. -/
theorem tellers_of_isNumbered (numbered : service.IsNumbered) :
    tellers service.world.calls.make.1 service.programs = 0 := by
  refine Multiset.filter_eq_nil.mpr fun program present tells => ?_
  obtain ⟨instruction, among, isReply⟩ := List.any_eq_true.mp tells
  split at isReply
  · next other number =>
      obtain rfl := of_decide_eq_true isReply
      rcases numbered _ _ ⟨program, present, among⟩ rfl with tooEarly | served
      · exact absurd tooEarly (Nat.lt_irrefl _)
      · cases served
  · cases isReply

theorem Remains.tells {call number : Nat} {rest : List Job} {program : Program}
    (remains : Remains call number rest program) : tellsCount call program = true := by
  cases remains <;> simp [tellsCount]

theorem Remains.tellers_singleton {call number : Nat} {rest : List Job} {program : Program}
    (remains : Remains call number rest program) : tellers call {program} = {program} :=
  tellers_cons_of_tells remains.tells 0

section Turns

variable {after others : Service} {instruction : Instruction} {next : Program}
  {call number : Nat} {resends : List Resend} {rest : List Job}

/-- What is left after an instruction follows from what it does to the outline. -/
theorem Delivers.goesOn (delivers : service.Delivers call number resends rest)
    (tellsOn : service.TellsOn call instruction next others after) {outline : Outline}
    (changed : (perform instruction next others).1.world.outline = outline)
    (samePrograms : outline.programs = service.world.outline.programs) {stillLeft : List Job}
    (suffix : stillLeft <:+ rest) {more : List Resend} (further : outline.resends = more)
    (same : ∀ job ∈ stillLeft, outline.candidates[job.candidate]? =
      service.outline.candidates[job.candidate]?)
    (silent : stillLeft = [] ∨ ∀ call answer, instruction ≠ .reply call answer)
    (remains : stillLeft = [] ∧ tellers call (perform instruction next others).2.programs = 0 ∨
      ∃ program, Remains call number stillLeft program ∧
        (perform instruction next others).2.programs = {program}) :
    after.Delivers call number more stillLeft := by
  have isAfter : after.outline.resends = outline.resends ∧
      after.outline.candidates = outline.candidates := by
    rw [Service.outline, tellsOn.world, ← changed]
    exact ⟨rfl, rfl⟩
  obtain ⟨sameResends, sameCandidates⟩ := isAfter
  have tellers := tellsOn.tellers (by rw [changed, samePrograms])
  refine delivers.further suffix (sameResends.trans further) ?_
    (silent.imp_right fun quiet => ?_) ?_
  · intro job present
    rw [sameCandidates, same job present]
  · rw [tellsOn.world, ← tellsOn.sameWorld]
    refine (calls_perform others instruction next).resolve_right ?_
    rintro ⟨call, answer, isReply, _⟩
    exact quiet call answer isReply
  · rw [tellers]
    refine remains.imp_right ?_
    rintro ⟨program, left, goesOn⟩
    exact ⟨program, left, goesOn ▸ left.tellers_singleton⟩

/-- The next job begins, and ends either at once or later. -/
theorem Delivers.send {job : Job} (delivers : service.Delivers call number resends (job :: rest))
    (tellsOn : service.TellsOn call (.send job)
      (rest.map Instruction.send ++ [.leave "drive_due", .reply call (.count number)]) others
      after) :
    after.Delivers call number (⟨others.now, job⟩ :: resends) rest := by
  have isOther := (List.nodup_cons.mp delivers.distinct).1
  have sameOutline : others.world.outline = service.world.outline := by rw [tellsOn.sameWorld]
  have isResent : service.world.outline.resends = resends := delivers.resends
  have may : others.world.maySend job = true := by
    rw [Registry.maySend_eq, sameOutline]
    exact delivers.may job List.mem_cons_self
  rcases send_of_maySend may _ with ⟨changed, pace⟩ | ⟨failure, changed, pace⟩
  · rw [sameOutline] at changed
    refine delivers.goesOn tellsOn changed rfl (List.suffix_cons _ _)
      (congrArg (Resend.mk others.now job :: ·) isResent) (fun other present => ?_)
      (.inr fun _ _ => Instruction.noConfusion) (.inr ⟨_, .delivering rest, pace⟩)
    exact Outline.getElem?_modify_of_ne (fun same : job.candidate = other.candidate =>
      isOther (same ▸ List.mem_map_of_mem present)) _ _
  · rw [sameOutline] at changed
    exact delivers.goesOn tellsOn changed rfl (List.suffix_cons _ _)
      (congrArg (Resend.mk others.now job :: ·) isResent) (fun _ _ => rfl)
      (.inr fun _ _ => Instruction.noConfusion) (.inr ⟨_, .waiting failure isOther, pace⟩)

/-- A job that took a while ends. -/
theorem Delivers.conclude {job : Job} {failure : Option TransportFailure}
    (delivers : service.Delivers call number resends rest)
    (isOther : job.candidate ∉ rest.map Job.candidate)
    (tellsOn : service.TellsOn call (.conclude job failure)
      (rest.map Instruction.send ++ [.leave "drive_due", .reply call (.count number)]) others
      after) :
    after.Delivers call number resends rest := by
  have changed (next : Program) :
      (perform (.conclude job failure) next others).1.world.outline =
        service.world.outline.modify job.candidate (Candidate.completed others.now) :=
    tellsOn.sameWorld ▸ others.world.outline_concludeSend others.now job failure
  refine delivers.goesOn tellsOn (changed _) rfl (List.suffix_refl _) delivers.resends
    (fun other present => ?_) (.inr fun _ _ => Instruction.noConfusion)
    (.inr ⟨_, .delivering rest, rfl⟩)
  exact Outline.getElem?_modify_of_ne (fun same : job.candidate = other.candidate =>
    isOther (same ▸ List.mem_map_of_mem present)) _ _

/-- After the last job the call is left and answered. -/
theorem Delivers.leave (delivers : service.Delivers call number resends [])
    (tellsOn : service.TellsOn call (.leave "drive_due") [.reply call (.count number)] others
      after) : after.Delivers call number resends [] :=
  delivers.goesOn tellsOn (congrArg Registry.outline tellsOn.sameWorld :) rfl (List.suffix_refl _)
    delivers.resends (fun _ present => absurd present List.not_mem_nil) (.inl rfl)
    (.inr ⟨_, .replying, rfl⟩)

theorem Delivers.reply (delivers : service.Delivers call number resends [])
    (tellsOn : service.TellsOn call (.reply call (.count number)) [] others after) :
    after.Delivers call number resends [] :=
  delivers.goesOn tellsOn (congrArg Registry.outline tellsOn.sameWorld :) rfl (List.suffix_refl _)
    delivers.resends (fun _ present => absurd present List.not_mem_nil) (.inl rfl)
    (.inl ⟨rfl, rfl⟩)

/-- The activity of a call that delivers jobs by itself begins with the next one, ends one, or is
done with them. -/
theorem Delivers.step {index : Nat} (delivers : service.Delivers call number resends rest)
    (stepped : service.stepAt behave index = some after)
    (turn : service.isTurnOf (tellsCount call) (.step index) = true) :
    ∃ (begun : List Resend) (stillLeft : List Job),
      begun.map Resend.job ++ stillLeft = rest ∧
      after.Delivers call number (begun.reverse ++ resends) stillLeft := by
  rcases delivers.remains with ⟨_, noneLeft⟩ | ⟨program, remains, only⟩
  · exact absurd noneLeft (tellers_ne_zero stepped turn)
  · obtain ⟨instruction, next, others, isHere, tellsOn⟩ := exists_tellsOn stepped turn only
    cases remains with
    | delivering _ =>
        cases rest with
        | nil =>
            obtain ⟨rfl, rfl⟩ := List.cons.inj isHere
            exact ⟨[], [], rfl, delivers.leave tellsOn⟩
        | cons job more =>
            obtain ⟨rfl, rfl⟩ := List.cons.inj isHere
            exact ⟨[⟨others.now, job⟩], more, rfl, delivers.send tellsOn⟩
    | waiting failure isOther =>
        obtain ⟨rfl, rfl⟩ := List.cons.inj isHere
        exact ⟨[], rest, rfl, delivers.conclude isOther tellsOn⟩
    | replying =>
        obtain ⟨rfl, rfl⟩ := List.cons.inj isHere
        exact ⟨[], [], rfl, delivers.reply tellsOn⟩

end Turns

theorem Delivers.move {after : Service} {move : Move} {call number : Nat} {resends : List Resend}
    {rest : List Job} (delivers : service.Delivers call number resends rest)
    (moved : service.move? move = some after)
    (turn : service.isTurnOf (tellsCount call) move = true) :
    ∃ (begun : List Resend) (stillLeft : List Job),
      begun.map Resend.job ++ stillLeft = rest ∧
      after.Delivers call number (begun.reverse ++ resends) stillLeft := by
  have stays (sameOutline : after.outline = service.outline)
      (sameCalls : after.world.calls = service.world.calls) :
      after.Delivers call number resends rest :=
    delivers.further (List.suffix_refl rest) (sameOutline ▸ delivers.resends)
      (fun _ _ => by rw [sameOutline]) (.inr sameCalls) (sameOutline ▸ delivers.remains)
  cases move with
  | command command => cases turn
  | step index => exact delivers.step moved turn
  | rouse index position =>
      obtain ⟨_, sameWorld⟩ := Timeline.rouseTo_eq_some moved
      exact ⟨[], rest, rfl, stays (outline_rouseTo moved) (by rw [sameWorld])⟩
  | wait instant =>
      obtain rfl := eq_wait moved
      exact ⟨[], rest, rfl, stays rfl rfl⟩
  | reorder roster => cases turn

/-- In a run that a call has for itself, its jobs begin one after the other. -/
theorem Delivers.run {first last : Service} {moves : List Move} {call number : Nat}
    {resends : List Resend} {rest : List Job} (delivers : first.Delivers call number resends rest)
    (run : Run first moves last) (alone : IsAlone (tellsCount call) moves first) :
    ∃ (begun : List Resend) (stillLeft : List Job),
      begun.map Resend.job ++ stillLeft = rest ∧
      last.Delivers call number (begun.reverse ++ resends) stillLeft := by
  induction run with
  | start => exact ⟨[], rest, rfl, delivers⟩
  | extend toMiddle moved inductionHypothesis =>
      obtain ⟨aloneBefore, turn⟩ := (throughout_concat toMiddle).mp alone
      obtain ⟨begun, middleLeft, early, middle⟩ := inductionHypothesis aloneBefore
      obtain ⟨more, stillLeft, late, delivers⟩ := middle.move moved turn
      refine ⟨begun ++ more, stillLeft, ?_, ?_⟩
      · rw [List.map_append, List.append_assoc, late, early]
      · rw [List.reverse_append, List.append_assoc]
        exact delivers

/-- A call that runs its resends itself is about to deliver them. -/
theorem Submits.delivers {decided : Service} {jobs : List Job} (numbered : service.IsNumbered)
    (submits : service.Submits jobs decided)
    (inline : ∀ owner, service.world.routing.resolve owner = .inline) :
    decided.Delivers service.world.calls.make.1 jobs.length service.world.journal.resends
      jobs where
  resends := (congrArg Journal.resends submits.journal :)
  distinct := submits.hands.distinct
  may := by
    intro job present
    obtain ⟨former, _, free, _, _, is⟩ := submits.hands.each job present
    have may : decided.world.maySend job = true := by
      have isHere : decided.world.candidate? job.candidate = _ := is
      rw [Registry.maySend, isHere]
      exact Candidate.maySend_handedOver free
    rw [Registry.maySend_eq] at may
    exact may
  left := by
    right
    rw [submits.calls]
    exact Calls.answer?_make _
  remains := by
    obtain ⟨_, _, isAfter⟩ := submits.hands.frame
    have sameHeld : decided.world.held = service.world.held := (congrArg Registry.held isAfter :)
    refine .inr ⟨_, .delivering jobs, ?_⟩
    rw [tellers_outline, submits.eq_calling, programs_calling service sameHeld,
      deliveries_inline inline, List.append_assoc]
    refine (tellers_cons_of_tells (Remains.tells (.delivering jobs)) _).trans ?_
    rw [tellers_of_isNumbered numbered]
    rfl

/-- Jobs begin once each, in their order, and nothing else does. -/
def BeginsInOrder (before after : Service) (jobs : List Job) : Prop :=
  ∃ begun : List Resend, begun.map Resend.job = jobs ∧
    after.world.journal.resends = begun.reverse ++ before.world.journal.resends

/-- A call that has the service to itself, and runs its resends itself, has begun each of them by
the time it is answered. -/
theorem Submits.beginsInOrder {decided last : Service} {jobs : List Job}
    (numbered : service.IsNumbered) (submits : service.Submits jobs decided)
    (inline : ∀ owner, service.world.routing.resolve owner = .inline)
    (alone : decided.LeadsAlone (tellsCount service.world.calls.make.1) last)
    (answered : last.world.calls.answer? service.world.calls.make.1 =
      some (.count jobs.length)) : service.BeginsInOrder last jobs := by
  obtain ⟨moves, run, isAlone⟩ := alone
  obtain ⟨begun, stillLeft, all, delivers⟩ :=
    (submits.delivers numbered inline).run run isAlone
  obtain rfl : stillLeft = [] := by
    refine delivers.left.resolve_right fun unanswered => ?_
    rw [answered] at unanswered
    cases unanswered
  rw [List.append_nil] at all
  exact ⟨begun, all, delivers.resends⟩

/-! ## The order of registration -/

/-- A job that was handed over belongs to the sequence of its message, and bears its number. -/
theorem named_of_handed (sound : service.Sound) {former : Candidate} {job : Job}
    (found : service.world.candidate? job.candidate = some former) (free : former.isFree = true)
    (held : former.message = some job.message) (sequence : SequenceKey) :
    (job.candidate ∈ service.world.roster.listOf sequence ↔ job.message.sequence = sequence) ∧
      service.world.numberOf job.candidate = some job.message.number := by
  have isCandidate : service.outline.candidates[job.candidate]? = some former.untimed :=
    (service.world.getElem?_outline job.candidate).trans (congrArg (Option.map _) found)
  obtain ⟨home, number, _⟩ :=
    ((sound.share job.candidate).candidate _ isCandidate).named job.message held
  have ongoing : former.untimed.ending = none := (Candidate.isFree_eq_true_iff.mp free).2.2.1
  constructor
  · constructor
    · exact fun inSequence => home.trans (sound.listed.sequence_eq isCandidate inSequence)
    · rintro rfl
      rw [home]
      exact (sound.listed.present job.candidate _ isCandidate ongoing).1
  · rw [Registry.numberOf, found, Option.map_some, number]
    rfl

/-- The resends of a sequence are in the order in which its messages were registered. -/
theorem Submits.sublist_numbers {first decided : Service} {moves : List Move} {jobs : List Job}
    (initial : first.IsInitial) (run : Run first moves service)
    (submits : service.Submits jobs decided)
    (candidates : jobs.map Job.candidate = service.dueBy upTo) (sequence : SequenceKey) :
    ((jobs.filter fun job => job.message.sequence = sequence).map fun job =>
      job.message.number).Sublist (Book.written moves sequence).numbers := by
  have sound : service.Sound := initial.sound.run run
  have named : ∀ job ∈ jobs,
      (job.candidate ∈ service.world.roster.listOf sequence ↔ job.message.sequence = sequence) ∧
        service.world.numberOf job.candidate = some job.message.number := by
    intro job present
    obtain ⟨former, found, free, held, _⟩ := submits.hands.each job present
    exact named_of_handed sound found free held sequence
  have listed : ((service.dueBy upTo).filter fun identity =>
        identity ∈ service.world.roster.listOf sequence).Sublist
      (service.world.roster.listOf sequence) := by
    have ready := sound.listed.filter_allActive upTo sequence
    exact ready ▸ List.filter_sublist
  have numbers : (jobs.filter fun job => job.message.sequence = sequence).map
        (fun job => some job.message.number) =
      ((service.dueBy upTo).filter fun identity =>
        identity ∈ service.world.roster.listOf sequence).map service.world.numberOf := by
    rw [← candidates, List.filter_map, List.map_map]
    refine Eq.trans (List.map_congr_left fun job present => ?_)
      (congrArg _ (List.filter_congr fun job present => ?_))
    · exact (named job (List.mem_of_mem_filter present)).2.symm
    · exact decide_eq_decide.mpr (named job present).1.symm
  have among : ((jobs.filter fun job => job.message.sequence = sequence).map
      fun job => some job.message.number).Sublist
        ((Book.written moves sequence).numbers.map some) := by
    rw [numbers, ← Registry.map_numberOf (tracks_world (tracks_run initial run))]
    exact listed.map _
  have sublist := among.filterMap id
  rw [List.filterMap_map, List.filterMap_map] at sublist
  simpa [Function.comp_def] using sublist

/-! ## The main result -/

/-- In whatever order the sequences come by the time of a call for what is due, it hands over one
resend of each candidate that is due, and none of another one, and comes back with their number.  If
it has the service to itself and runs its resends itself, each of them has begun once by then, in
the order in which its message was registered. -/
theorem driveDue_exact {first service : Service} {moves : List Move} (initial : first.IsInitial)
    (run : Run first moves service) (upTo : Nat) :
    ∃ (decided : Service) (jobs : List Job),
      (service.carryOut (.request none (.driveDue upTo))).stepAt behave 0 = some decided ∧
      (∀ identity, identity ∈ jobs.map Job.candidate ↔
        ∃ candidate, service.world.IsDue upTo identity candidate) ∧
      service.Submits jobs decided ∧
      decided.Counts service.world.calls.make.1 jobs.length ∧
      (∀ sequence, ((jobs.filter fun job => job.message.sequence = sequence).map fun job =>
        job.message.number).Sublist (Book.written moves sequence).numbers) ∧
      ((∀ owner, service.world.routing.resolve owner = .inline) →
        ∀ last, decided.LeadsAlone (tellsCount service.world.calls.make.1) last →
          last.world.calls.answer? service.world.calls.make.1 = some (.count jobs.length) →
          service.BeginsInOrder last jobs) := by
  have reachable : service.IsReachable := ⟨first, moves, initial, run⟩
  have isBooked := reachable.isBooked
  obtain ⟨decided, jobs, steps, candidates, submits⟩ :=
    @exists_submits service upTo isBooked (inOrder_run initial run).once.of_append_left
  refine ⟨decided, jobs, steps, fun identity => ?_, submits,
    submits.counts reachable.isNumbered, submits.sublist_numbers initial run candidates,
    fun inline last alone answered =>
      submits.beginsInOrder reachable.isNumbered inline alone answered⟩
  rw [candidates]
  exact mem_dueBy_iff isBooked (filed_run initial run)

end Service

namespace Sample

/-- Three messages are registered in descending order, and a resend of the second one is on its
way. -/
def descending : List Move :=
  [.command (.prepare (sequence, 2) [⟨5000000, none⟩]), .command (.add (message 3 none)),
    .command (.add (message 2 none)), .command (.add (message 1 none)),
    .command (.request none (.attempt sequence 2)), .step 0, .step 0]

/-- The other two are due then, and everything is run inline. -/
theorem exists_descending :
    ∃ last, Run (service .byHand) descending last ∧ last.dueBy 1000000000000 = [0, 2] ∧
      last.world.calls.make.1 = 1 ∧ ∀ owner, last.world.routing.resolve owner = .inline := by
  obtain ⟨last, followed, facts⟩ := Option.map_eq_some_iff.mp
    (by decide +kernel :
      (Service.follow descending (service .byHand)).map (fun last =>
        (last.dueBy 1000000000000, last.world.calls.make.1, last.world.routing)) =
        some ([0, 2], 1, Executor.Routing.inlineOnly))
  simp only [Prod.mk.injEq] at facts
  obtain ⟨due, isNext, inline⟩ := facts
  refine ⟨last, .of_follow followed, due, isNext, fun owner => ?_⟩
  rw [inline]
  cases owner <;> rfl

end Sample

namespace Service

/-- Both messages that are due are resent once, in a call that has the service to itself. -/
theorem driveDue_exact_of_descending :
    ∃ (service decided last : Service) (jobs : List Job),
      Run (Sample.service .byHand) Sample.descending service ∧
      (service.carryOut (.request none (.driveDue 1000000000000))).stepAt behave 0 =
        some decided ∧
      (∀ identity, identity ∈ jobs.map Job.candidate ↔ identity = 0 ∨ identity = 2) ∧
      service.Submits jobs decided ∧ decided.LeadsAlone (tellsCount 1) last ∧
      last.world.calls.answer? 1 = some (.count jobs.length) ∧
      service.BeginsInOrder last jobs := by
  obtain ⟨service, run, due, isNext, inline⟩ := Sample.exists_descending
  have initial := Sample.isInitial_service .byHand
  obtain ⟨decided, jobs, steps, candidates, submits, counts, _, begins⟩ :=
    driveDue_exact initial run 1000000000000
  rw [isNext] at counts begins
  obtain ⟨last, alone, answered⟩ := counts.answers
  refine ⟨service, decided, last, jobs, run, steps, fun identity => ?_, submits, alone, answered,
    begins inline last alone answered⟩
  have reachable : service.IsReachable := ⟨_, _, initial, run⟩
  rw [candidates, ← mem_dueBy_iff reachable.isBooked (filed_run initial run), due]
  simp

end Service

end Redelivery
