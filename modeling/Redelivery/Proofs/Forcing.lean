import Redelivery.Proofs.Answers
import Redelivery.Proofs.Enrolment
import Redelivery.Proofs.Reregistration
import Redelivery.Proofs.Turns

/-!
# Resending one message on demand

Whoever asks for a resend of one message learns whether the message awaits acknowledgment, and
whether the resend was handed over.  It is handed over exactly if nothing stands in its way; the
timer that was armed until then leads to nothing any more.  In all other cases the call leaves
no trace but its answer.
-/

namespace Redelivery

/-! ## The candidate -/

/-- Nothing stands in the way of a resend, apart from the time. -/
structure Candidate.IsReady (candidate : Candidate) : Prop where
  idle : candidate.pending = false
  resumed : candidate.suspended = false
  allowed : candidate.exhausted = false
  ongoing : candidate.phase.isTerminal = false
  addressable : candidate.addressable = true

/-- A candidate that keeps its message until it ends is free exactly if it is ready. -/
theorem Candidate.isFree_iff_isReady {candidate : Candidate}
    (kept : candidate.message = none → candidate.ending ≠ none) :
    candidate.isFree = true ↔ candidate.IsReady := by
  rw [isFree_eq_true_iff]
  constructor
  · rintro ⟨idle, resumed, active, allowed, _, addressable⟩
    have ongoing : candidate.phase.isTerminal = false := by
      rw [isTerminal_phase, active, Option.isSome_none]
    exact ⟨idle, resumed, allowed, ongoing, addressable⟩
  · rintro ⟨idle, resumed, allowed, ongoing, addressable⟩
    rw [isTerminal_phase, Option.isSome_eq_false_iff, Option.isNone_iff_eq_none] at ongoing
    exact ⟨idle, resumed, ongoing, allowed, fun released => kept released ongoing, addressable⟩

namespace Registry

/-- The candidate of a message that awaits acknowledgment. -/
structure StandsFor (registry : Registry) (sequence : SequenceKey) (number identity : Nat)
    (candidate : Candidate) : Prop where
  listed : identity ∈ registry.roster.listOf sequence
  found : registry.candidate? identity = some candidate
  named : candidate.number = number

variable {registry : Registry} {identity : Nat} {candidate : Candidate}

/-- Where the numbers of a sequence differ, whoever stands for a message is the one that is
found. -/
theorem StandsFor.find? {sequence : SequenceKey} {number : Nat}
    (distinct : ((registry.roster.listOf sequence).map registry.numberOf).Nodup)
    (standsFor : registry.StandsFor sequence number identity candidate) :
    registry.find? sequence number = some identity := by
  have numbered : registry.numberOf identity = some number := by
    rw [numberOf, standsFor.found, Option.map_some, standsFor.named]
  cases found : registry.find? sequence number with
  | none =>
      have absent := List.find?_eq_none.mp found identity standsFor.listed
      exact absurd (decide_eq_true numbered) absent
  | some other =>
      have present : other ∈ registry.roster.listOf sequence := List.mem_of_find?_eq_some found
      rw [List.inj_on_of_nodup_map distinct present standsFor.listed
        ((numberOf_of_find? found).trans numbered.symm)]

/-- Whoever is found stands for the message. -/
theorem exists_standsFor {sequence : SequenceKey} {number : Nat}
    (found : registry.find? sequence number = some identity) :
    ∃ candidate, registry.StandsFor sequence number identity candidate := by
  obtain ⟨candidate, isCandidate, named⟩ := Option.map_eq_some_iff.mp (numberOf_of_find? found)
  exact ⟨candidate, List.mem_of_find?_eq_some found, isCandidate, named⟩

/-- What a call to resend one message comes back with. -/
def verdict (registry : Registry) (sequence : SequenceKey) (number : Nat) :
    Except Rejection Bool :=
  match registry.find? sequence number with
  | none => .error (.unknownMessage sequence number)
  | some identity => .ok ((registry.candidate? identity).any Candidate.isFree)

section

variable {sequence : SequenceKey} {number : Nat}

/-- The message is unknown exactly if its number is not in use. -/
theorem verdict_eq_error_iff :
    registry.verdict sequence number = .error (.unknownMessage sequence number) ↔
      number ∉ registry.numbers sequence := by
  rw [← isSome_find?_iff, verdict]
  cases registry.find? sequence number with
  | none => simp
  | some identity => simp

/-- Otherwise the candidate that stands for it decides. -/
theorem verdict_eq_ok_iff
    (distinct : ((registry.roster.listOf sequence).map registry.numberOf).Nodup) {free : Bool} :
    registry.verdict sequence number = .ok free ↔
      ∃ identity candidate, registry.StandsFor sequence number identity candidate ∧
        candidate.isFree = free := by
  constructor
  · intro isVerdict
    cases isFound : registry.find? sequence number with
    | none => simp [verdict, isFound] at isVerdict
    | some identity =>
        obtain ⟨candidate, standsFor⟩ := exists_standsFor isFound
        refine ⟨identity, candidate, standsFor, ?_⟩
        simpa [verdict, isFound, standsFor.found] using isVerdict
  · rintro ⟨identity, candidate, standsFor, isFree⟩
    simp [verdict, standsFor.find? distinct, standsFor.found, isFree]

end

/-! ## Handing over a resend -/

/-- Giving up a timer takes it off the agenda and disowns it. -/
theorem disarm_eq (found : registry.candidate? identity = some candidate) :
    registry.disarm identity =
      { registry with
        candidates := registry.candidates.modify identity Candidate.disarm
        agenda := candidate.timer.elim registry.agenda registry.agenda.cancel } := by
  unfold disarm dropTimer
  rw [found, Option.bind_some]
  cases candidate.timer <;> rfl

/-- The registry once the next resend of a candidate is handed over and its timer superseded. -/
def forced (registry : Registry) (identity : Nat) (former : Candidate) : Registry :=
  { registry with
    candidates := (registry.candidates.modify identity Candidate.disarm).modify identity
      Candidate.handedOver
    agenda := former.timer.elim registry.agenda registry.agenda.cancel }

theorem candidate?_forced_self (found : registry.candidate? identity = some candidate) :
    (registry.forced identity candidate).candidate? identity =
      some candidate.disarm.handedOver :=
  candidate?_modify (candidate?_modify found Candidate.disarm) Candidate.handedOver

theorem candidate?_forced_of_ne {other : Nat} (isOther : other ≠ identity) :
    (registry.forced identity candidate).candidate? other = registry.candidate? other :=
  (candidate?_modify_of_ne isOther _ Candidate.handedOver).trans
    (candidate?_modify_of_ne isOther registry Candidate.disarm)

/-- A resend that nothing stands in the way of is handed over. -/
theorem force_of_isFree (found : registry.candidate? identity = some candidate)
    (free : candidate.isFree = true) (upTo : Option Nat)
    (due : upTo.all candidate.isDue = true) :
    ∃ message, candidate.message = some message ∧
      registry.force identity upTo =
        (registry.forced identity candidate, some (candidate.job identity message)) := by
  have stillFree : candidate.disarm.isFree = true := free
  obtain ⟨message, held, hands⟩ := handOver_of_isFree (candidate?_disarm_self found) stillFree
  refine ⟨message, held, ?_⟩
  simp only [force, found, free, due, Bool.and_self, if_true, hands]
  rw [disarm_eq found]
  rfl

/-- Otherwise nothing happens. -/
theorem force_of_not_isFree (found : registry.candidate? identity = some candidate)
    (busy : candidate.isFree = false) : registry.force identity none = (registry, none) := by
  simp [force, found, busy]

end Registry

namespace Service

/-! ## What a call comes back with -/

/-- A call comes back with a result: some run answers it so, and none answers it with another
one. -/
structure Returns (service : Service) (call : Nat) (result : Except Rejection Bool) : Prop where
  answers : ∃ last, service.Leads last ∧
    last.world.calls.answer? call = some (.attempted result)
  only : ∀ last, service.Leads last → ∀ other,
    last.world.calls.answer? call = some (.attempted other) → other = result

/-- A call is answered with what it is owed once its reply can be given. -/
theorem exists_answered {service middle : Service} {own : Program → Bool} {call : Nat}
    {answer : Answer} {foreground : Bool} (owes : service.Owes call answer)
    (leads : service.LeadsAlone own middle)
    (ready : (⟨[.reply call answer], foreground⟩ : Activity Instruction) ∈ middle.ready)
    (isOwn : own [.reply call answer] = true) :
    ∃ last, service.LeadsAlone own last ∧ last.world.calls.answer? call = some answer := by
  obtain ⟨_, run⟩ := leads.leads
  have isMade := (owes.run run).made
  obtain ⟨index, inside, atIndex⟩ := List.getElem_of_mem ready
  have steps : (middle.move? (.step index)).map (fun last => last.world.calls) =
      some (middle.world.calls.reply call answer) := by
    simp only [move?, Timeline.stepAt, List.getElem?_eq_getElem inside, atIndex, behave,
      Option.map_some, Timeline.world_resume, world_launch]
    rfl
  have turn : middle.isTurnOf own (.step index) = true := by
    simp [isTurnOf, List.getElem?_eq_getElem inside, atIndex, isOwn]
  obtain ⟨last, stepped, calls⟩ := Option.map_eq_some_iff.mp steps
  refine ⟨last, leads.trans (.of_move stepped turn), ?_⟩
  rw [calls]
  exact Calls.answer?_reply_self isMade _

/-- A call comes back with what it is owed once its reply can be given. -/
theorem returns_of_owes {service middle : Service} {own : Program → Bool} {call : Nat}
    {result : Except Rejection Bool} {foreground : Bool}
    (owes : service.Owes call (.attempted result)) (leads : service.LeadsAlone own middle)
    (ready : (⟨[.reply call (.attempted result)], foreground⟩ : Activity Instruction) ∈
      middle.ready)
    (isOwn : own [.reply call (.attempted result)] = true) : service.Returns call result where
  answers := by
    obtain ⟨last, alone, answered⟩ := exists_answered owes leads ready isOwn
    exact ⟨last, alone.leads, answered⟩
  only := by
    rintro last ⟨_, run⟩ other answered
    rcases (owes.run run).given _ answered with same | served
    · cases same
      rfl
    · cases served

theorem programs_calling (service : Service) {registry : Registry}
    (sameHeld : registry.held = service.world.held) (program : Program) :
    (service.calling registry program).programs = program ::ₘ service.programs := by
  rw [programs, calling, Timeline.running_call, Multiset.cons_add]
  exact congrArg (fun held => program ::ₘ (service.running + held)) sameHeld

/-- A new call is owed the reply with which its program ends. -/
theorem owes_of_new {service : Service} (numbered : service.IsNumbered) (registry : Registry)
    (sameHeld : registry.held = service.world.held)
    (calls : registry.calls = service.world.calls.make.2) (front : Program)
    (silent : ∀ instruction ∈ front, instruction.call? = none) (answer : Answer) :
    (service.calling registry (front ++ [.reply service.world.calls.make.1 answer])).Owes
      service.world.calls.make.1 answer where
  made := by
    change service.world.calls.answers.length < registry.calls.answers.length
    simp [calls, Calls.make]
  left := by
    rintro instruction ⟨program, present, among⟩ speaks
    rw [programs_calling service sameHeld] at present
    rcases Multiset.mem_cons.mp present with rfl | old
    · rcases List.mem_append.mp among with before | last
      · rw [silent instruction before] at speaks
        cases speaks
      · exact .inl (List.mem_singleton.mp last)
    · rcases numbered instruction _ ⟨program, old, among⟩ speaks with tooEarly | served
      · exact absurd tooEarly (Nat.lt_irrefl _)
      · exact .inr served
  given := by
    intro other answered
    have answered : registry.calls.answer? service.world.calls.make.1 = some other := answered
    rw [calls, Calls.answer?_make] at answered
    cases answered

/-! ## The call -/

/-- The registry once the next call has got its number. -/
def counted (service : Service) : Registry :=
  { service.world with calls := service.world.calls.make.2 }

/-- A call that finds nothing to resend: all that it leaves behind is its answer. -/
structure Declines (service : Service) (result : Except Rejection Bool) (decided : Service) :
    Prop where
  replies : decided =
    service.calling service.counted [.reply service.world.calls.make.1 (.attempted result)]
  ends : decided.GoesOn
    { service with
      world := service.counted.reply service.world.calls.make.1 (.attempted result) }

/-- A call that hands over the next resend of a candidate. -/
structure Forces (service : Service) (identity : Nat) (former : Candidate) (job : Job)
    (decided : Service) : Prop where
  next : job.candidate = identity ∧ former.message = some job.message ∧
    job.requestAck = former.requestAck
  /-- The call goes on to deliver the job, and then to say so. -/
  submits : decided.ready =
    ⟨Registry.delivery service.world.routing job ++
      [.reply service.world.calls.make.1 (.attempted (.ok true))], true⟩ :: service.ready
  errands : errandsIn decided.programs = .waiting job ::ₘ errandsIn service.programs
  candidate : decided.world.candidate? identity =
    some { former with
      pending := true
      requestAck := false
      timer := none
      generation := former.generation + 1 }
  others : ∀ other, other ≠ identity →
    decided.world.candidate? other = service.world.candidate? other
  agenda : decided.world.agenda =
    former.timer.elim service.world.agenda service.world.agenda.cancel
  /-- The timer that was armed leads to nothing any more. -/
  silenced : ∀ ticket, former.timer = some ticket → ∀ last, decided.Leads last →
    (∀ entry ∈ last.world.agenda.entries, entry.ticket ≠ ticket) ∧
      ∀ rest, perform (.ring ticket) rest last = (last, .retire)
  frame : ∃ ready candidates agenda calls, decided =
    { service with ready, world := { service.world with candidates, agenda, calls } }

variable {service : Service} {sequence : SequenceKey} {number : Nat}

/-- An attempt on a message whose candidate is not free only has to say so. -/
theorem attempt_of_not_isFree (service : Service) {identity : Nat} {candidate : Candidate}
    (isFound : service.world.find? sequence number = some identity)
    (found : service.world.candidate? identity = some candidate)
    (busy : candidate.isFree = false) (call : Nat) (rest : Program) :
    service.attempt sequence number call rest =
      (service, .onward (.reply call (.attempted (.ok false)) :: rest)) := by
  simp only [attempt, isFound, Registry.force_of_not_isFree found busy]
  rfl

theorem carryOut_attempt :
    service.carryOut (.request none (.attempt sequence number)) =
      service.calling service.counted [.attempt sequence number service.world.calls.make.1] :=
  rfl

/-- A call that finds nothing to resend comes back with its answer. -/
theorem exists_declines (unstarted : service.world.starting = []) (numbered : service.IsNumbered)
    {result : Except Rejection Bool}
    (declines : perform (.attempt sequence number service.world.calls.make.1) []
      { service with world := service.counted } =
        ({ service with world := service.counted },
          .onward [.reply service.world.calls.make.1 (.attempted result)])) :
    ∃ decided : Service,
      (service.carryOut (.request none (.attempt sequence number))).stepAt behave 0 =
        some decided ∧
      decided.Returns service.world.calls.make.1 result ∧ service.Declines result decided := by
  have owes := owes_of_new numbered service.counted rfl rfl []
    (fun _ among => absurd among List.not_mem_nil) (.attempted result)
  refine ⟨_, ?_, returns_of_owes owes (.refl (fun _ => true) _) List.mem_cons_self rfl, rfl,
    @goesOn_reply service service.counted unstarted _ _⟩
  rw [carryOut_attempt]
  exact stepAt_calling service declines unstarted

/-- A ticket that was taken off the agenda leads to nothing any more. -/
theorem silenced_of_cancel {decided last : Service} {ticket : Nat}
    (issued : ticket < service.world.agenda.nextTicket)
    (cancels : decided.world.agenda = service.world.agenda.cancel ticket)
    (leads : decided.Leads last) :
    (∀ entry ∈ last.world.agenda.entries, entry.ticket ≠ ticket) ∧
      ∀ rest, perform (.ring ticket) rest last = (last, .retire) := by
  obtain ⟨_, run⟩ := leads
  have issues := issues_run run
  rw [cancels] at issues
  have gone : ∀ entry ∈ last.world.agenda.entries, entry.ticket ≠ ticket := by
    intro entry present
    rcases issues.entries entry present with old | new
    · exact (Schedule.Agenda.mem_cancel_iff.mp old).2
    · exact Nat.ne_of_gt (Nat.lt_of_lt_of_le issued new)
  refine ⟨gone, fun rest => ?_⟩
  have absent : last.world.agenda.find? ticket = none :=
    List.find?_eq_none.mpr fun entry present => by simpa using gone entry present
  simp only [perform, ring, absent]

/-- A call that finds a candidate free hands over its next resend. -/
theorem exists_forces (isBooked : service.IsBooked) (numbered : service.IsNumbered)
    {identity : Nat} {candidate : Candidate}
    (isFound : service.world.find? sequence number = some identity)
    (found : service.world.candidate? identity = some candidate)
    (free : candidate.isFree = true) :
    ∃ (decided : Service) (job : Job),
      (service.carryOut (.request none (.attempt sequence number))).stepAt behave 0 =
        some decided ∧
      decided.Returns service.world.calls.make.1 (.ok true) ∧
      service.Forces identity candidate job decided := by
  have unstarted : service.world.starting = [] := isBooked.isTimed.started
  have countedFound : service.counted.candidate? identity = some candidate := found
  obtain ⟨message, held, forces⟩ :=
    Registry.force_of_isFree countedFound free none rfl
  let job := candidate.job identity message
  let forced := service.counted.forced identity candidate
  let program := Registry.delivery service.world.routing job ++
    [.reply service.world.calls.make.1 (.attempted (.ok true))]
  have performs : perform (.attempt sequence number service.world.calls.make.1) []
      { service with world := service.counted } =
        ({ service with world := forced }, .onward program) := by
    have isHere : service.counted.find? sequence number = some identity := isFound
    simp only [perform, attempt, isHere, forces]
    exact @pursue_of_some forced job _ (Registry.candidate?_forced_self countedFound) _ _ _
  have owes := owes_of_new numbered forced rfl rfl (Registry.delivery service.world.routing job)
    (fun _ => call?_delivery) (.attempted (.ok true))
  have isReady : ⟨program, true⟩ ∈ (service.calling forced program).ready := List.mem_cons_self
  obtain ⟨middle, delivers, ready⟩ :=
    leadsAlone_past_delivery (fun _ => true) isReady fun _ => rfl
  refine ⟨service.calling forced program, job,
    (congrArg _ carryOut_attempt).trans (stepAt_calling service performs unstarted),
    returns_of_owes owes delivers ready rfl, ?_⟩
  constructor
  case next => exact ⟨rfl, held, rfl⟩
  case submits => rfl
  case errands =>
    rw [@programs_calling service forced rfl, errandsIn_cons, errandsOf_append, errandsOf_delivery]
    rfl
  case candidate => exact Registry.candidate?_forced_self countedFound
  case others => exact fun other isOther => Registry.candidate?_forced_of_ne isOther
  case agenda => rfl
  case silenced =>
    intro ticket armed last leads
    have timed := isBooked.isTimed.timed
    obtain ⟨due, waits⟩ := timed.armed identity candidate ticket found armed
    refine silenced_of_cancel (timed.agenda.issued _ waits) ?_ leads
    change candidate.timer.elim service.world.agenda service.world.agenda.cancel = _
    rw [armed]
    rfl
  case frame => exact ⟨_, _, _, _, rfl⟩

/-- A call to resend one message comes back with its verdict, and has done what that says. -/
theorem exists_verdict (isBooked : service.IsBooked) (numbered : service.IsNumbered) :
    ∃ decided : Service,
      (service.carryOut (.request none (.attempt sequence number))).stepAt behave 0 =
        some decided ∧
      decided.Returns service.world.calls.make.1 (service.world.verdict sequence number) ∧
      (service.world.verdict sequence number = .ok true →
        ∃ identity candidate job, service.world.StandsFor sequence number identity candidate ∧
          service.Forces identity candidate job decided) ∧
      (service.world.verdict sequence number ≠ .ok true →
        service.Declines (service.world.verdict sequence number) decided) := by
  have unstarted : service.world.starting = [] := isBooked.isTimed.started
  cases isFound : service.world.find? sequence number with
  | none =>
      have verdict : service.world.verdict sequence number =
          .error (.unknownMessage sequence number) := by
        simp only [Registry.verdict, isFound]
      obtain ⟨decided, steps, returns, declines⟩ := exists_declines unstarted numbered
        (attempt_of_none { service with world := service.counted } isFound _ [])
      rw [verdict]
      exact ⟨decided, steps, returns, (fun isTrue => by cases isTrue), fun _ => declines⟩
  | some identity =>
      obtain ⟨candidate, standsFor⟩ := Registry.exists_standsFor isFound
      have found := standsFor.found
      have verdict : service.world.verdict sequence number = .ok candidate.isFree := by
        simp only [Registry.verdict, isFound, found, Option.any_some]
      rw [verdict]
      cases free : candidate.isFree with
      | true =>
          obtain ⟨decided, job, steps, returns, forces⟩ :=
            exists_forces isBooked numbered isFound found free
          exact ⟨decided, steps, returns, fun _ => ⟨identity, candidate, job, standsFor, forces⟩,
            fun refused => absurd rfl refused⟩
      | false =>
          obtain ⟨decided, steps, returns, declines⟩ := exists_declines unstarted numbered
            (attempt_of_not_isFree { service with world := service.counted } isFound found free _
              [])
          exact ⟨decided, steps, returns, (fun isTrue => by cases isTrue), fun _ => declines⟩

/-! ## The main result -/

/-- A call to resend one message fails exactly if its number is not in use, and otherwise says
whether the candidate is ready.  If it is, one job is submitted, and the timer leads to nothing
any more; if it is not, or if there is none, the answer is all that the call leaves behind. -/
theorem attempt_exact {service : Service} (reachable : service.IsReachable)
    (sequence : SequenceKey) (number : Nat) :
    ∃ (decided : Service) (result : Except Rejection Bool),
      (service.carryOut (.request none (.attempt sequence number))).stepAt behave 0 =
        some decided ∧
      decided.Returns service.world.calls.make.1 result ∧
      (result = .error (.unknownMessage sequence number) ↔
        number ∉ service.world.numbers sequence) ∧
      (result = .ok true ↔
        ∃ identity candidate, service.world.StandsFor sequence number identity candidate ∧
          candidate.IsReady) ∧
      (result = .ok false ↔
        ∃ identity candidate, service.world.StandsFor sequence number identity candidate ∧
          ¬ candidate.IsReady) ∧
      (result = .ok true →
        ∃ identity candidate job, service.world.StandsFor sequence number identity candidate ∧
          service.Forces identity candidate job decided) ∧
      (result ≠ .ok true → service.Declines result decided) := by
  have isBooked := reachable.isBooked
  have distinct : ((service.world.roster.listOf sequence).map service.world.numberOf).Nodup := by
    obtain ⟨first, moves, initial, run⟩ := reachable
    exact (inOrder_run initial run).numbers sequence
  have isReady {identity : Nat} {candidate : Candidate}
      (standsFor : service.world.StandsFor sequence number identity candidate) :
      candidate.isFree = true ↔ candidate.IsReady :=
    Candidate.isFree_iff_isReady
      (isBooked.isTimed.timed.settled identity candidate standsFor.found).kept
  obtain ⟨decided, steps, returns, does⟩ :=
    @exists_verdict service sequence number isBooked reachable.isNumbered
  refine ⟨decided, _, steps, returns, Registry.verdict_eq_error_iff, ?_, ?_, does⟩
  · rw [Registry.verdict_eq_ok_iff distinct]
    exact exists_congr fun _ => exists_congr fun _ => and_congr_right isReady
  · rw [Registry.verdict_eq_ok_iff distinct]
    refine exists_congr fun _ => exists_congr fun _ => and_congr_right fun standsFor => ?_
    rw [← isReady standsFor, Bool.not_eq_true]

end Service

namespace Sample

/-- Two messages are registered, and a resend of the second one is on its way. -/
def oneUnderWay : List Move :=
  [.command (.prepare (sequence, 2) [⟨5000000, none⟩]), .command (.add (message 1 none)),
    .command (.add (message 2 none)), .command (.request none (.attempt sequence 2)), .step 0,
    .step 0]

/-- Only the first of the two messages is free then, and it has a timer. -/
theorem exists_oneUnderWay :
    ∃ last free busy, Run (service .byQueue) oneUnderWay last ∧
      last.world.StandsFor sequence 1 0 free ∧ free.timer = some 0 ∧ free.isFree = true ∧
      last.world.StandsFor sequence 2 1 busy ∧ busy.isFree = false ∧
      (last.world.roster.listOf sequence).map last.world.numberOf = [some 1, some 2] := by
  obtain ⟨last, followed, facts⟩ := Option.map_eq_some_iff.mp
    (by decide +kernel :
      (Service.follow oneUnderWay (service .byQueue)).map (fun last =>
        (last.world.roster.listOf sequence, last.world.candidates.map fun candidate =>
          (candidate.number, candidate.timer, candidate.isFree))) =
        some ([0, 1], [(1, some 0, true), (2, none, false)]))
  simp only [Prod.mk.injEq] at facts
  obtain ⟨listed, candidates⟩ := facts
  have known (identity : Nat) {number : Nat} {timer : Option Nat} {free : Bool}
      (isHere : [(1, some 0, true), (2, none, false)][identity]? = some (number, timer, free))
      (present : identity ∈ [0, 1]) :
      ∃ candidate, last.world.StandsFor sequence number identity candidate ∧
        candidate.timer = timer ∧ candidate.isFree = free := by
    rw [← candidates, List.getElem?_map] at isHere
    obtain ⟨candidate, found, same⟩ := Option.map_eq_some_iff.mp isHere
    simp only [Prod.mk.injEq] at same
    obtain ⟨named, isTimer, isFree⟩ := same
    exact ⟨candidate, ⟨listed ▸ present, found, named⟩, isTimer, isFree⟩
  obtain ⟨free, isFirst, armed, isFree⟩ := known 0 rfl (by decide)
  obtain ⟨busy, isSecond, _, isBusy⟩ := known 1 rfl (by decide)
  refine ⟨last, free, busy, .of_follow followed, isFirst, armed, isFree, isSecond, isBusy, ?_⟩
  simp [listed, Registry.numberOf, isFirst.found, isSecond.found, isFirst.named, isSecond.named]

end Sample

namespace Service

/-- The first message can be resent on demand, and its timer is given up then; the second one
cannot, and a third one is unknown. -/
theorem attempt_exact_of_oneUnderWay :
    ∃ service, Run (Sample.service .byQueue) Sample.oneUnderWay service ∧
      (∃ (decided : Service) (candidate : Candidate) (job : Job),
        (service.carryOut (.request none (.attempt Sample.sequence 1))).stepAt behave 0 =
          some decided ∧
        decided.Returns service.world.calls.make.1 (.ok true) ∧
        service.Forces 0 candidate job decided ∧ candidate.timer = some 0) ∧
      (∃ decided : Service,
        (service.carryOut (.request none (.attempt Sample.sequence 2))).stepAt behave 0 =
          some decided ∧
        decided.Returns service.world.calls.make.1 (.ok false) ∧
        service.Declines (.ok false) decided) ∧
      ∃ decided : Service,
        (service.carryOut (.request none (.attempt Sample.sequence 3))).stepAt behave 0 =
          some decided ∧
        decided.Returns service.world.calls.make.1
          (.error (.unknownMessage Sample.sequence 3)) ∧
        service.Declines (.error (.unknownMessage Sample.sequence 3)) decided := by
  obtain ⟨service, free, busy, run, isFirst, armed, isFree, isSecond, isBusy, numbers⟩ :=
    Sample.exists_oneUnderWay
  have reachable : service.IsReachable := ⟨_, _, Sample.isInitial_service .byQueue, run⟩
  have isReady {identity : Nat} {candidate : Candidate}
      (found : service.world.candidate? identity = some candidate) :
      candidate.isFree = true ↔ candidate.IsReady :=
    Candidate.isFree_iff_isReady
      (reachable.isBooked.isTimed.timed.settled identity candidate found).kept
  have distinct : ((service.world.roster.listOf Sample.sequence).map
      service.world.numberOf).Nodup := by
    rw [numbers]
    decide
  refine ⟨service, run, ?_, ?_, ?_⟩
  · obtain ⟨decided, result, steps, returns, _, ready, _, forces, _⟩ :=
      attempt_exact reachable Sample.sequence 1
    obtain rfl := ready.mpr ⟨0, free, isFirst, (isReady isFirst.found).mp isFree⟩
    obtain ⟨identity, candidate, job, standsFor, forced⟩ := forces rfl
    obtain rfl := Option.some.inj
      ((isFirst.find? distinct).symm.trans (standsFor.find? distinct))
    obtain rfl := Option.some.inj (isFirst.found.symm.trans standsFor.found)
    exact ⟨decided, free, job, steps, returns, forced, armed⟩
  · obtain ⟨decided, result, steps, returns, _, _, refused, _, declines⟩ :=
      attempt_exact reachable Sample.sequence 2
    obtain rfl := refused.mpr ⟨1, busy, isSecond, fun ready =>
      Bool.false_ne_true (isBusy.symm.trans ((isReady isSecond.found).mpr ready))⟩
    exact ⟨decided, steps, returns, declines (by simp)⟩
  · obtain ⟨decided, result, steps, returns, unknown, _, _, _, declines⟩ :=
      attempt_exact reachable Sample.sequence 3
    have absent : 3 ∉ service.world.numbers Sample.sequence := by
      intro inUse
      obtain ⟨identity, present, named⟩ := Registry.mem_numbers_iff.mp inUse
      have among := List.mem_map_of_mem (f := service.world.numberOf) present
      rw [numbers, named] at among
      simp at among
    obtain rfl := unknown.mpr absent
    exact ⟨decided, steps, returns, declines (by simp)⟩

end Service

end Redelivery
