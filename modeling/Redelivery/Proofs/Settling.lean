import Mathlib.Logic.Relation
import Redelivery.Proofs.Resending

/-!
# Services that come to rest at once

Where every resend is run by whoever hands it over and takes no time, an operation and all that
it sets off are over before the next one: the service settles in one way only, and there is no
activity left.
-/

namespace Redelivery

namespace Service

/-! ## Settling -/

/-- Ready activities run until none is left. -/
def Settles (service last : Service) : Prop :=
  ∃ fuel, service.settle behave fuel = last ∧ last.ready = []

theorem stepAt_of_ready_nil {service : Service} (rest : service.ready = []) :
    service.stepAt behave 0 = none := by
  simp [Timeline.stepAt, rest]

theorem settle_of_ready_nil {service : Service} (rest : service.ready = []) (fuel : Nat) :
    service.settle behave fuel = service := by
  cases fuel with
  | zero => rfl
  | succ fuel => simp [Timeline.settle, stepAt_of_ready_nil rest]

theorem Settles.of_ready_nil {service : Service} (rest : service.ready = []) :
    service.Settles service :=
  ⟨0, rfl, rest⟩

theorem Settles.step {service next last : Service} (stepped : service.stepAt behave 0 = some next)
    (settles : next.Settles last) : service.Settles last := by
  obtain ⟨fuel, settled, rest⟩ := settles
  refine ⟨fuel + 1, ?_, rest⟩
  rw [Timeline.settle, stepped]
  exact settled

/-- A service settles in one way only. -/
theorem Settles.unique {service last other : Service} (settles : service.Settles last)
    (also : service.Settles other) : last = other := by
  obtain ⟨fuel, settled, rest⟩ := settles
  obtain ⟨more, alsoSettled, alsoRest⟩ := also
  induction fuel generalizing service more with
  | zero =>
      obtain rfl : service = last := settled
      exact (settle_of_ready_nil rest more).symm.trans alsoSettled
  | succ fuel inductionHypothesis =>
      cases stepped : service.stepAt behave 0 with
      | none =>
          have stays (fuel : Nat) : service.settle behave fuel = service := by
            cases fuel <;> simp [Timeline.settle, stepped]
          exact ((stays _).symm.trans settled).symm.trans ((stays _).symm.trans alsoSettled)
      | some next =>
          cases more with
          | zero =>
              obtain rfl : service = other := alsoSettled
              rw [stepAt_of_ready_nil alsoRest] at stepped
              cases stepped
          | succ more =>
              simp only [Timeline.settle, stepped] at settled alsoSettled
              exact inductionHypothesis settled more alsoSettled

theorem Settles.leads {service last : Service} (settles : service.Settles last) :
    service.Leads last := by
  obtain ⟨fuel, rfl, _⟩ := settles
  exact leads_settle fuel service

/-- The activity that became ready first makes some steps. -/
def GoesOn (first last : Service) : Prop :=
  Relation.ReflTransGen (fun service next => service.stepAt behave 0 = some next) first last

theorem GoesOn.settles {first middle last : Service} (goesOn : first.GoesOn middle)
    (settles : middle.Settles last) : first.Settles last := by
  induction goesOn using Relation.ReflTransGen.head_induction_on with
  | refl => exact settles
  | head stepped _ inductionHypothesis => exact inductionHypothesis.step stepped

theorem GoesOn.leads {first last : Service} (goesOn : first.GoesOn last) : first.Leads last := by
  induction goesOn with
  | refl => exact .refl first
  | tail _ stepped inductionHypothesis =>
      exact inductionHypothesis.trans (Leads.of_move (.step 0) stepped)

/-- A service takes a move and settles. -/
def Enacts (service : Service) (move : Move) (after : Service) : Prop :=
  ∃ moved, service.move? move = some moved ∧ moved.Settles after

theorem Enacts.unique {service after other : Service} {move : Move}
    (enacts : service.Enacts move after) (also : service.Enacts move other) : after = other := by
  obtain ⟨moved, isMoved, settles⟩ := enacts
  obtain ⟨alsoMoved, isAlsoMoved, alsoSettles⟩ := also
  obtain rfl := Option.some.inj (isMoved.symm.trans isAlsoMoved)
  exact settles.unique alsoSettles

theorem Enacts.leads {service after : Service} {move : Move}
    (enacts : service.Enacts move after) : service.Leads after := by
  obtain ⟨moved, isMoved, settles⟩ := enacts
  exact (Leads.of_move move isMoved).trans settles.leads

/-! ## Calm services -/

/-- Nothing is under way, no resend takes time or is run by somebody else, and no timer rings by
itself. -/
structure IsCalm (service : Service) : Prop where
  ready : service.ready = []
  asleep : service.asleep = []
  starting : service.world.starting = []
  untimed : ∀ hosted, service.world.driving ≠ .byTimers hosted
  inline : ∀ owner, service.world.routing.resolve owner = .inline
  instant : service.world.script.IsInstant

/-- A fresh registry without timers is calm. -/
theorem isCalm_start {registry : Registry} (fresh : registry.IsFresh)
    (untimed : ∀ hosted, registry.driving ≠ .byTimers hosted)
    (inline : ∀ owner, registry.routing.resolve owner = .inline)
    (instant : registry.script.IsInstant) : IsCalm (Timeline.start registry) :=
  ⟨rfl, rfl, fresh.starting, untimed, inline, instant⟩

/-- A wait that does not go back is possible. -/
theorem IsCalm.enacts_wait {service : Service} (calm : service.IsCalm) {instant : Nat}
    (forward : service.now ≤ instant) :
    service.Enacts (.wait instant) { service with now := instant } := by
  have waited : service.move? (.wait instant) = some { service with now := instant } :=
    if_pos forward
  exact ⟨_, waited, .of_ready_nil calm.ready⟩

/-- A wait takes nothing but time. -/
theorem IsCalm.eq_of_wait {service after : Service} (calm : service.IsCalm) {instant : Nat}
    (enacts : service.Enacts (.wait instant) after) :
    after = { service with now := instant } ∧ after.IsCalm := by
  obtain ⟨moved, isMoved, settles⟩ := enacts
  obtain rfl := eq_wait isMoved
  have waited : IsCalm { service with now := instant } := { calm with }
  obtain rfl := settles.unique (.of_ready_nil waited.ready)
  exact ⟨rfl, waited⟩

/-- A registry at an instant, without an activity. -/
def idle (now : Nat) (registry : Registry) : Service :=
  { now, ready := [], asleep := [], world := registry }

/-- A registry at an instant, with a call as its only activity. -/
def busy (now : Nat) (registry : Registry) (program : Program) : Service :=
  { now, ready := [⟨program, true⟩], asleep := [], world := registry }

theorem eq_idle {service : Service} (noneReady : service.ready = [])
    (noneAsleep : service.asleep = []) : service = idle service.now service.world := by
  rcases service with ⟨now, ready, asleep, world⟩
  subst noneReady noneAsleep
  rfl

theorem IsCalm.eq_idle {service : Service} (calm : service.IsCalm) :
    service = idle service.now service.world :=
  Service.eq_idle calm.ready calm.asleep

theorem launch_idle {registry : Registry} (unstarted : registry.starting = []) (now : Nat) :
    (idle now registry).launch = idle now registry :=
  launch_of_idle unstarted

/-- An idle service has the outline of its registry. -/
theorem outline_idle (now : Nat) (registry : Registry) :
    (idle now registry).outline = registry.outline :=
  Outline.withPrograms_zero _

/-- A calm service stays calm, at the same instant and in the same surroundings. -/
structure StaysCalm (before after : Service) : Prop where
  calm : after.IsCalm
  now : after.now = before.now
  routing : after.world.routing = before.world.routing
  driving : after.world.driving = before.world.driving
  /-- Whoever drives by hand puts nothing on the agenda. -/
  unasked : before.world.driving = .byHand → before.world.agenda.Shrinks after.world.agenda
  sorted : before.world.agenda.IsSorted → after.world.agenda.IsSorted
  closed : after.world.agenda.closed = before.world.agenda.closed

theorem IsCalm.staysCalm {service : Service} (calm : service.IsCalm) {registry : Registry}
    (abides : service.world.Abides registry) : service.StaysCalm (idle service.now registry) where
  calm := {
    ready := rfl
    asleep := rfl
    starting := (abides.starting calm.untimed).trans calm.starting
    untimed := by
      intro hosted
      rw [show (idle service.now registry).world.driving = service.world.driving from
        abides.driving]
      exact calm.untimed hosted
    inline := by
      intro owner
      rw [show (idle service.now registry).world.routing = service.world.routing from
        abides.routing]
      exact calm.inline owner
    instant := abides.instant calm.instant }
  now := rfl
  routing := abides.routing
  driving := abides.driving
  unasked := abides.unasked
  sorted := abides.sorted
  closed := abides.closed

/-- Calls that begin and end disturb nobody. -/
theorem IsCalm.withCalls {service : Service} (calm : service.IsCalm) (calls : Calls Answer) :
    service.StaysCalm (idle service.now { service.world with calls }) :=
  ⟨⟨rfl, rfl, calm.starting, calm.untimed, calm.inline, calm.instant⟩, rfl, rfl, rfl,
    fun _ => .refl _, id, rfl⟩

theorem StaysCalm.trans {first second third : Service} (earlier : first.StaysCalm second)
    (later : second.StaysCalm third) : first.StaysCalm third where
  calm := later.calm
  now := later.now.trans earlier.now
  routing := later.routing.trans earlier.routing
  driving := later.driving.trans earlier.driving
  unasked byHand := (earlier.unasked byHand).trans (later.unasked (earlier.driving.trans byHand))
  sorted sorted := later.sorted (earlier.sorted sorted)
  closed := later.closed.trans earlier.closed

/-- Operations on messages set nothing off in a calm service. -/
theorem IsCalm.carryOut {service : Service} (calm : service.IsCalm) {command : Command}
    (operation : command.isQuiet = false) :
    ∃ registry, service.world.Abides registry ∧
      service.carryOut command = idle service.now registry := by
  obtain ⟨changes, after, abides⟩ := service.exists_change operation
  refine ⟨changes service.world, abides, ?_⟩
  have launched := launch_idle ((abides.starting calm.untimed).trans calm.starting) service.now
  rw [after, change]
  generalize changes service.world = registry at launched
  rw [calm.eq_idle]
  exact launched

/-! ## Calls that are answered at once -/

/-- A call that has its turn, whatever else goes on. -/
def calling (service : Service) (registry : Registry) (program : Program) : Service :=
  { service with world := registry }.call program

/-- An instruction after which the call goes on at once. -/
theorem stepAt_calling (service : Service) {registry after : Registry} {instruction : Instruction}
    {rest program : Program}
    (goesOn : perform instruction rest { service with world := registry } =
      ({ service with world := after }, .onward program))
    (unstarted : after.starting = []) :
    (service.calling registry (instruction :: rest)).stepAt behave 0 =
      some (service.calling after program) := by
  have launched : launch { service with world := after } = { service with world := after } :=
    launch_of_idle unstarted
  have behaves : behave instruction rest { service with world := registry } =
      ({ service with world := after }, .onward program) := by
    simp only [behave, goesOn, launched]
  have stepped : (service.calling registry (instruction :: rest)).stepAt behave 0 =
      some ((behave instruction rest { service with world := registry }).1.resume 0 true
        (behave instruction rest { service with world := registry }).2) := rfl
  rw [stepped, behaves]
  rfl

theorem stepAt_busy {now : Nat} {registry after : Registry} {instruction : Instruction}
    {rest program : Program}
    (goesOn : perform instruction rest (idle now registry) = (idle now after, .onward program))
    (unstarted : after.starting = []) :
    (busy now registry (instruction :: rest)).stepAt behave 0 = some (busy now after program) :=
  stepAt_calling (idle now registry) goesOn unstarted

/-- A reply is the last thing that a call does. -/
theorem goesOn_reply (service : Service) {registry : Registry}
    (unstarted : registry.starting = []) (call : Nat) (answer : Answer) :
    (service.calling registry [.reply call answer]).GoesOn
      { service with world := registry.reply call answer } := by
  have replies : (service.calling registry [.reply call answer]).stepAt behave 0 =
      some (service.calling (registry.reply call answer) []) :=
    stepAt_calling service rfl unstarted
  exact .tail (.single replies) rfl

theorem settles_reply {registry : Registry} (unstarted : registry.starting = []) (now call : Nat)
    (answer : Answer) : (busy now registry [.reply call answer]).Settles
      (idle now (registry.reply call answer)) :=
  (goesOn_reply (idle now registry) unstarted call answer).settles (.of_ready_nil rfl)

/-- A resend that takes no time is over at once. -/
theorem send_of_instant {service : Service} (instant : service.world.script.IsInstant) (job : Job)
    (rest : Program) :
    service.send job rest =
      ({ service with world := service.world.deliver service.now job }, .onward rest) := by
  have noTime : (service.world.beginSend service.now job).2.takes = 0 := (instant.next _).1
  unfold send Registry.deliver
  cases may : service.world.maySend job with
  | false => simp [proceed]
  | true => simp [proceed, noTime]

theorem send_idle {registry : Registry} (instant : registry.script.IsInstant) (now : Nat)
    (job : Job) (rest : Program) :
    (idle now registry).send job rest = (idle now (registry.deliver now job), .onward rest) :=
  send_of_instant instant job rest

/-- So are several ones. -/
theorem goesOn_deliveries {now : Nat} {registry : Registry} (calm : (idle now registry).IsCalm)
    (jobs : List Job) (rest : Program) :
    (busy now registry (jobs.map Instruction.send ++ rest)).GoesOn
      (busy now (jobs.foldl (Registry.deliver now) registry) rest) := by
  induction jobs generalizing registry with
  | nil => exact .refl
  | cons job further inductionHypothesis =>
      have delivered := (calm.staysCalm (registry.abides_deliver now job)).calm
      apply Relation.ReflTransGen.head _ (inductionHypothesis delivered)
      exact stepAt_busy (send_idle calm.instant now job _) delivered.starting

theorem abides_deliveries (registry : Registry) (now : Nat) (jobs : List Job) :
    registry.Abides (jobs.foldl (Registry.deliver now) registry) :=
  Registry.abides_foldl (fun registry job => registry.abides_deliver now job) registry jobs

/-- Where everything is run inline, the caller runs what it has handed over. -/
theorem deliveries_inline {routing : Executor.Routing}
    (inline : ∀ owner, routing.resolve owner = .inline) (jobs : List Job) :
    jobs.flatMap (Registry.delivery routing) = jobs.map Instruction.send := by
  have single : Registry.delivery routing = fun job => [.send job] := by
    funext job
    rw [Registry.delivery, inline]
  rw [single, List.map_eq_flatMap]

/-- A calm service after a call has begun. -/
theorem carryOut_request {service : Service} (calm : service.IsCalm) (request : Request) :
    service.carryOut (.request none request) =
      busy service.now { service.world with calls := service.world.calls.make.2 }
        (request.program service.world.calls.make.1) := by
  rw [calm.eq_idle]
  rfl

/-- The answer to the call that is made next. -/
def answerOf (before after : Service) : Option Answer :=
  after.world.calls.answer? before.world.calls.make.1

/-- The candidate that is resent by an attempt, if there is one. -/
def attempted (service : Service) (sequence : SequenceKey) (number : Nat) : List Nat :=
  (service.world.find? sequence number).toList.filter (service.world.outline.isForcible none)

/-- The answer to an attempt: whether a resend was handed over, if the message is known. -/
def attemptAnswer (service : Service) (sequence : SequenceKey) (number : Nat) : Answer :=
  match service.world.find? sequence number with
  | none => .attempted (.error (.unknownMessage sequence number))
  | some identity => .attempted (.ok (service.world.outline.isForcible none identity))

/-- The candidates that are resent by a call for what is due. -/
def dueBy (service : Service) (upTo : Nat) : List Nat :=
  service.world.roster.allActive.filter (service.world.outline.isReady upTo)

/-- A call that ends keeps a calm service calm, and is answered. -/
theorem IsCalm.replied {service : Service} (calm : service.IsCalm) {registry : Registry}
    (abides : { service.world with calls := service.world.calls.make.2 }.Abides registry)
    (answer : Answer) :
    service.StaysCalm (idle service.now (registry.reply service.world.calls.make.1 answer)) ∧
      service.answerOf (idle service.now (registry.reply service.world.calls.make.1 answer)) =
        some answer := by
  constructor
  · have called := calm.withCalls service.world.calls.make.2
    have done := called.calm.staysCalm abides
    exact (called.trans done).trans (done.calm.withCalls _)
  · have made : service.world.calls.make.1 < registry.calls.answers.length := by
      have sameCalls : registry.calls = service.world.calls.make.2 :=
        congrArg Surroundings.calls abides.surroundings
      rw [sameCalls]
      simp [Calls.make]
    exact Calls.answer?_reply_self made answer

/-- A call for what is due, where everything is run inline and takes no time: everything is
handed over before the first resend goes out. -/
theorem settles_driveDue {now : Nat} {registry : Registry} (calm : (idle now registry).IsCalm)
    (upTo call : Nat) {handed : Registry × List Job}
    (forces : forceDue (registry.report (.enter "drive_due")) upTo = handed) :
    (busy now registry [.driveDue upTo call]).Settles
      (idle now (((handed.2.foldl (Registry.deliver now) handed.1).report
        (.leave "drive_due")).reply call (.count handed.2.length))) := by
  have abides : registry.Abides handed.1 := by
    rw [← forces]
    exact (registry.abides_report _).trans (abides_forceDue _ upTo)
  have handedCalm : (idle now handed.1).IsCalm := (calm.staysCalm abides).calm
  have leaves := (abides.trans (abides_deliveries handed.1 now handed.2)).trans
    (Registry.abides_report _ (.leave "drive_due"))
  have unstarted := (leaves.starting calm.untimed).trans calm.starting
  have performs : perform (.driveDue upTo call) [] (idle now registry) =
      (idle now handed.1, .onward (handed.2.map Instruction.send ++
        [.leave "drive_due", .reply call (.count handed.2.length)])) := by
    rw [← deliveries_inline handedCalm.inline, ← forces]
    rfl
  have performsLast (registry : Registry) (rest : Program) :
      perform (.leave "drive_due") rest (idle now registry) =
        (idle now (registry.report (.leave "drive_due")), .onward rest) := rfl
  apply Settles.step (stepAt_busy performs handedCalm.starting)
  apply (goesOn_deliveries handedCalm handed.2 _).settles
  apply Settles.step (stepAt_busy (performsLast _ _) unstarted)
  exact settles_reply unstarted now call _

/-- Such a call resends each message that is ready, in the order of the lists. -/
theorem enacts_driveDue {service : Service} (calm : service.IsCalm)
    (distinct : service.world.roster.allActive.Nodup) (upTo : Nat) :
    ∃ after, service.Enacts (.command (.request none (.driveDue upTo))) after ∧
      service.StaysCalm after ∧
      after.outline = service.outline.resendAll service.now (service.dueBy upTo) ∧
      service.answerOf after = some (.count (service.dueBy upTo).length) := by
  let called := { service.world with calls := service.world.calls.make.2 }
  let begun := called.report (.enter "drive_due")
  have sameOutline : service.outline = begun.outline := by
    rw [calm.eq_idle]
    exact outline_idle _ _
  have free : ∀ identity ∈ service.dueBy upTo,
      (begun.outline.candidates[identity]?).any Candidate.isFree = true := by
    intro identity present
    have ready : service.outline.isForcible (some upTo) identity = true := by
      rw [sameOutline]
      exact (List.mem_filter.mp present).2
    rw [← sameOutline]
    exact Outline.isFree_of_isForcible ready
  have forces : called.Abides (forceDue begun upTo).1 :=
    (called.abides_report _).trans (abides_forceDue begun upTo)
  have settles := settles_driveDue (calm.withCalls service.world.calls.make.2).calm upTo
    service.world.calls.make.1 rfl
  obtain ⟨sameForced, sameJobs⟩ := forceDue_eq begun distinct upTo
  generalize forceDue begun upTo = handed at settles forces sameForced sameJobs
  have resent := Registry.outline_resent service.now (distinct.filter _) free sameForced sameJobs
  have leaves := (forces.trans (abides_deliveries handed.1 service.now handed.2)).trans
    (Registry.abides_report _ (.leave "drive_due"))
  obtain ⟨replies, answered⟩ := calm.replied leaves (.count handed.2.length)
  refine ⟨_, ⟨_, rfl, ?_⟩, replies, ?_, ?_⟩
  · rw [carryOut_request calm]
    exact settles
  · rw [outline_idle, sameOutline]
    exact resent
  · have all := congrArg List.length (Outline.map_candidate_jobs free)
    rw [answered, sameJobs, ← List.length_map Job.candidate]
    exact congrArg (fun number => some (Answer.count number)) all

/-- A job that was handed over is delivered next. -/
theorem pursue_of_some {handed : Registry} {job : Job} {candidate : Candidate}
    (found : handed.candidate? job.candidate = some candidate) (service : Service)
    (routing : Candidate → Executor.Routing) (rest : Program) :
    service.pursue (handed, some job) routing rest = ({ service with world := handed },
      .onward (Registry.delivery (routing candidate) job ++ rest)) := by
  simp only [pursue, found]
  rfl

/-- A job that was handed over is run by whoever handed it over. -/
theorem pursue_inline {handed : Registry × Option Job} {routing : Candidate → Executor.Routing}
    (known : ∀ job, handed.2 = some job → ∃ candidate,
      handed.1.candidate? job.candidate = some candidate ∧
        ∀ owner, (routing candidate).resolve owner = .inline)
    (service : Service) (rest : Program) :
    service.pursue handed routing rest = ({ service with world := handed.1 },
      .onward (handed.2.toList.map Instruction.send ++ rest)) := by
  obtain ⟨after, job⟩ := handed
  cases job with
  | none => rfl
  | some job =>
      obtain ⟨candidate, found, inline⟩ := known job rfl
      have delivery : Registry.delivery (routing candidate) job = [.send job] := by
        rw [Registry.delivery, inline]
      rw [pursue_of_some found, delivery]
      rfl

theorem pursue_idle {now : Nat} {handed : Registry × Option Job}
    {routing : Candidate → Executor.Routing}
    (known : ∀ job, handed.2 = some job → ∃ candidate,
      handed.1.candidate? job.candidate = some candidate ∧
        ∀ owner, (routing candidate).resolve owner = .inline)
    (registry : Registry) (rest : Program) :
    (idle now registry).pursue handed routing rest =
      (idle now handed.1, .onward (handed.2.toList.map Instruction.send ++ rest)) :=
  pursue_inline known (idle now registry) rest

/-- An attempt on a message that is unknown only has to say so. -/
theorem attempt_of_none (service : Service) {sequence : SequenceKey} {number : Nat}
    (absent : service.world.find? sequence number = none) (call : Nat) (rest : Program) :
    service.attempt sequence number call rest =
      (service, .onward
        (.reply call (.attempted (.error (.unknownMessage sequence number))) :: rest)) := by
  simp only [attempt, absent]
  rfl

/-- An attempt on a message that is known, where everything is run inline and takes no time. -/
theorem settles_attempt {now : Nat} {registry : Registry} (calm : (idle now registry).IsCalm)
    {sequence : SequenceKey} {number identity : Nat}
    (found : registry.find? sequence number = some identity) (call : Nat)
    {handed : Registry × Option Job} (forces : registry.force identity none = handed) :
    (busy now registry [.attempt sequence number call]).Settles
      (idle now ((handed.2.toList.foldl (Registry.deliver now) handed.1).reply call
        (.attempted (.ok handed.2.isSome)))) := by
  have abides : registry.Abides handed.1 := forces ▸ registry.abides_force identity none
  have handedCalm : (idle now handed.1).IsCalm := (calm.staysCalm abides).calm
  have delivers := abides.trans (abides_deliveries handed.1 now handed.2.toList)
  have unstarted := (calm.staysCalm delivers).calm.starting
  have isKnown : ∀ job, handed.2 = some job → ∃ candidate,
      handed.1.candidate? job.candidate = some candidate ∧
        ∀ owner, handed.1.routing.resolve owner = .inline := by
    intro job isJob
    have hands := registry.hands_force identity none
    rw [forces, isJob] at hands
    obtain ⟨candidate, isCandidate⟩ := Registry.exists_of_hands hands
    exact ⟨candidate, isCandidate, handedCalm.inline⟩
  have performs : perform (.attempt sequence number call) [] (idle now registry) =
      (idle now handed.1, .onward (handed.2.toList.map Instruction.send ++
        [.reply call (.attempted (.ok handed.2.isSome))])) := by
    have isHere : (idle now registry).world.find? sequence number = some identity := found
    rw [← forces] at isKnown ⊢
    simp only [perform, attempt, isHere]
    exact pursue_idle isKnown registry _
  apply Settles.step (stepAt_busy performs handedCalm.starting)
  apply (goesOn_deliveries handedCalm handed.2.toList _).settles
  exact settles_reply unstarted now call _

/-- An attempt on a message that is unknown. -/
theorem settles_attempt_of_none {now : Nat} {registry : Registry}
    (calm : (idle now registry).IsCalm) {sequence : SequenceKey} {number : Nat}
    (absent : registry.find? sequence number = none) (call : Nat) :
    (busy now registry [.attempt sequence number call]).Settles
      (idle now (registry.reply call
        (.attempted (.error (.unknownMessage sequence number))))) :=
  Settles.step
    (stepAt_busy (attempt_of_none (idle now registry) absent call []) calm.starting)
    (settles_reply calm.starting now call _)

/-- An attempt resends the message if it is free. -/
theorem enacts_attempt {service : Service} (calm : service.IsCalm) (sequence : SequenceKey)
    (number : Nat) :
    ∃ after, service.Enacts (.command (.request none (.attempt sequence number))) after ∧
      service.StaysCalm after ∧
      after.outline =
        service.outline.resendAll service.now (service.attempted sequence number) ∧
      service.answerOf after = some (service.attemptAnswer sequence number) := by
  let called := { service.world with calls := service.world.calls.make.2 }
  have calledCalm := (calm.withCalls service.world.calls.make.2).calm
  have sameOutline : service.outline = called.outline := by
    rw [calm.eq_idle]
    exact outline_idle _ _
  cases isKnown : service.world.find? sequence number with
  | none =>
      have absent : called.find? sequence number = none := isKnown
      obtain ⟨replies, answered⟩ := calm.replied (.refl called)
        (.attempted (.error (.unknownMessage sequence number)))
      refine ⟨_, ⟨_, rfl, ?_⟩, replies, ?_, ?_⟩
      · rw [carryOut_request calm]
        exact settles_attempt_of_none calledCalm absent _
      · rw [attempted, isKnown, outline_idle, sameOutline]
        exact (Outline.resendAll_nil _ _).symm
      · rw [answered, attemptAnswer, isKnown]
  | some identity =>
      have isHere : called.find? sequence number = some identity := isKnown
      have chosen : service.attempted sequence number =
          [identity].filter (called.outline.isForcible none) := by
        rw [attempted, isKnown]
        rfl
      have free : ∀ other ∈ [identity].filter (called.outline.isForcible none),
          (called.outline.candidates[other]?).any Candidate.isFree = true := fun other present =>
        Outline.isFree_of_isForcible (List.mem_filter.mp present).2
      have abides := called.abides_force identity none
      have settles := settles_attempt calledCalm isHere service.world.calls.make.1 rfl
      obtain ⟨forcedOutline, forcedJobs⟩ := called.forced_one identity none
      have hasJob := called.isSome_forced identity none
      generalize called.force identity none = handed at *
      have delivers := abides.trans (abides_deliveries handed.1 service.now handed.2.toList)
      obtain ⟨replies, answered⟩ := calm.replied delivers (.attempted (.ok handed.2.isSome))
      have resent := Registry.outline_resent service.now ((List.nodup_singleton identity).filter _)
        free forcedOutline forcedJobs
      refine ⟨_, ⟨_, rfl, ?_⟩, replies, ?_, ?_⟩
      · rw [carryOut_request calm]
        exact settles
      · rw [outline_idle, sameOutline, chosen]
        exact resent
      · rw [answered, attemptAnswer, isKnown, hasJob]
        rfl

end Service

end Redelivery
