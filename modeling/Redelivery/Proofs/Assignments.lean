import Redelivery.Proofs.Enactments
import Redelivery.Proofs.Lending
import Redelivery.Proofs.Settling
import Redelivery.Proofs.Undisturbed

/-!
# Which executor a resend is given to

Executors that are set anew are meant for the messages to come.  Whatever a timer or the queue sets
off is given to the executor that the owner of its message had when the message was registered.  A
call for what is due, or for one message, gives its resends to the executor that the owner has at
the moment.  So a message stays with its executor exactly if no such call hands over a resend of it
while its owner has another one.
-/

namespace Redelivery

/-- The instructions with which an activity goes on. -/
def Pace.next {ι : Type} : Pace ι → List ι
  | onward program => program
  | sleepUntil _ program => program
  | retire => []

/-! ## Assignments -/

/-- The job that an instruction gives to an executor. -/
def Instruction.assignment? : Instruction → Option (Job × Executor.Route)
  | .send job => some (job, .inline)
  | .enqueue pool job => some (job, .pooled pool)
  | .ring _ | .conclude _ _ | .acquire _ | .release _ | .driveDue _ _ | .attempt _ _ _
  | .runDue _ _ _ | .serve _ | .hear _ | .leave _ | .reply _ _ => none

/-- Whether an instruction hands over what a caller asks for. -/
def Instruction.isAsked : Instruction → Bool
  | .driveDue _ _ | .attempt _ _ _ => true
  | .ring _ | .send _ | .conclude _ _ | .enqueue _ _ | .acquire _ | .release _ | .runDue _ _ _
  | .serve _ | .hear _ | .leave _ | .reply _ _ => false

/-- The jobs that a program gives to executors, in its order. -/
def assignmentsOf (program : Program) : List (Job × Executor.Route) :=
  program.filterMap Instruction.assignment?

@[simp]
theorem assignmentsOf_append (first second : Program) :
    assignmentsOf (first ++ second) = assignmentsOf first ++ assignmentsOf second :=
  List.filterMap_append

/-- Delivering a job is giving it to the executor of its owner. -/
theorem assignmentsOf_delivery (routing : Executor.Routing) (job : Job) :
    assignmentsOf (Registry.delivery routing job) =
      [(job, routing.resolve job.message.owner)] := by
  unfold Registry.delivery
  cases resolved : routing.resolve job.message.owner <;> rfl

theorem assignmentsOf_deliveries (routing : Executor.Routing) (jobs : List Job) :
    assignmentsOf (jobs.flatMap (Registry.delivery routing)) =
      jobs.map fun job => (job, routing.resolve job.message.owner) := by
  induction jobs with
  | nil => rfl
  | cons job rest inductionHypothesis =>
      rw [List.flatMap_cons, assignmentsOf_append, assignmentsOf_delivery, inductionHypothesis]
      rfl

/-- The executors that a candidate was registered with. -/
def Registry.routingOf (registry : Registry) (identity : Nat) : Executor.Routing :=
  (registry.candidate? identity).elim Executor.Routing.inlineOnly Candidate.routing

/-- The executors from which an instruction takes the one for a candidate: those of the moment for
what a caller asks for, and else those that the candidate was registered with. -/
def Instruction.routingFor (instruction : Instruction) (registry : Registry) (identity : Nat) :
    Executor.Routing :=
  if instruction.isAsked then registry.routing else registry.routingOf identity

namespace Service

/-- The jobs that a move gives to executors: those that its activity delivers before it comes to
what it was to do anyway. -/
def assignments (service : Service) : Move → List (Job × Executor.Route)
  | .step index =>
      match service.ready[index]? with
      | some ⟨instruction :: rest, _⟩ =>
          let others := { service with ready := service.ready.eraseIdx index }
          let next := assignmentsOf (perform instruction rest others).2.next
          next.take (next.length - (assignmentsOf rest).length)
      | _ => []
  | .command _ | .rouse _ _ | .wait _ | .reorder _ => []

/-- Whether a move hands over what a caller asks for. -/
def isAsked (service : Service) : Move → Bool
  | .step index =>
      match service.ready[index]? with
      | some ⟨instruction :: _, _⟩ => instruction.isAsked
      | _ => false
  | .command _ | .rouse _ _ | .wait _ | .reorder _ => false

/-! ## The assignments of an instruction -/

/-- An activity gives some jobs to executors before it comes to what it was to do anyway. -/
inductive Assigns (rest : Program) (pace : Pace Instruction) :
    List (Job × Executor.Route) → Prop where
  | rests : pace.next = [] → Assigns rest pace []
  | goesOn {front back : Program} : pace.next = front ++ back →
      assignmentsOf back = assignmentsOf rest → Assigns rest pace (assignmentsOf front)

variable {rest : Program} {pace : Pace Instruction}

theorem Assigns.take_eq {assigned : List (Job × Executor.Route)}
    (assigns : Assigns rest pace assigned) :
    (assignmentsOf pace.next).take
      ((assignmentsOf pace.next).length - (assignmentsOf rest).length) = assigned := by
  cases assigns with
  | rests nothing => rw [nothing]; exact List.take_nil
  | @goesOn front back splits same => simp [splits, same]

/-- Nothing new is given to an executor. -/
theorem assigns_nil (same : assignmentsOf pace.next = assignmentsOf rest) :
    Assigns rest pace [] :=
  @Assigns.goesOn _ _ [] _ (List.nil_append _).symm same

/-- Whoever pursues a job that was handed over gives it to an executor. -/
theorem assigns_pursue {before : Outline} {identity : Nat} {handed : Registry × Option Job}
    (hands : before.Hands identity handed.1.outline handed.2) (service : Service)
    {routing : Candidate → Executor.Routing} (chosen : Nat → Executor.Routing)
    (chooses : ∀ job candidate, handed.2 = some job →
      handed.1.candidate? job.candidate = some candidate →
      routing candidate = chosen job.candidate)
    {next : Program} (same : assignmentsOf next = assignmentsOf rest) :
    Assigns rest (service.pursue handed routing next).2
      (handed.2.toList.map fun job =>
        (job, (chosen job.candidate).resolve job.message.owner)) := by
  obtain ⟨after, _ | job⟩ := handed
  · exact assigns_nil same
  · obtain ⟨candidate, found⟩ := Registry.exists_of_hands hands
    rw [pursue_of_some found, chooses job candidate rfl found, Option.toList_some,
      List.map_singleton, ← assignmentsOf_delivery]
    exact .goesOn rfl same

/-- Whoever hands over a resend keeps the executors that it was registered with. -/
theorem routing_of_hands {registry : Registry} {identity : Nat} {handed : Registry × Option Job}
    (hands : registry.outline.Hands identity handed.1.outline handed.2) {job : Job}
    {candidate : Candidate} (isJob : handed.2 = some job)
    (found : handed.1.candidate? job.candidate = some candidate) :
    candidate.routing = registry.routingOf job.candidate := by
  have isAfter := handed.1.getElem?_outline job.candidate
  rw [isJob] at hands
  obtain ⟨former, message, isFormer, _, _, modified, rfl⟩ := hands.of_some
  rw [Candidate.candidate_job] at found isAfter
  rw [found, modified, Outline.found_modify isFormer, if_pos rfl] at isAfter
  obtain ⟨timed, isTimed, rfl⟩ := Option.map_eq_some_iff.mp
    ((registry.getElem?_outline identity).symm.trans isFormer)
  rw [Candidate.candidate_job, Registry.routingOf, isTimed]
  exact (congrArg Candidate.routing (Option.some.inj isAfter)).symm

/-- What fires is given to the executor that its message was registered with. -/
theorem assigns_fireTimer (service : Service) (agenda : Schedule.Agenda Alarm) (alarm : Alarm)
    {next : Program} (same : assignmentsOf next = assignmentsOf rest) :
    Assigns rest (service.pursue ({ service.world with agenda }.fireTimer alarm)
        Candidate.routing next).2
      (({ service.world with agenda }.fireTimer alarm).2.toList.map fun job =>
        (job, (service.world.routingOf job.candidate).resolve job.message.owner)) := by
  have hands := Registry.hands_fireTimer { service.world with agenda } alarm
  exact assigns_pursue hands service service.world.routingOf
    (fun _ _ => routing_of_hands hands) same

theorem filterMap_built (jobs : List Job) : (jobs.map Deed.built).filterMap Deed.built? = jobs := by
  rw [List.filterMap_map]
  exact List.filterMap_some

/-- The jobs that an instruction hands over, in their order. -/
def handed (service : Service) (instruction : Instruction) : List Job :=
  (instruction.deeds service.world service.now).filterMap Deed.built?

theorem assigns_ring (service : Service) (ticket : Nat) (rest : Program) :
    Assigns rest (service.ring ticket rest).2
      ((service.handed (.ring ticket)).map fun job =>
        (job, (service.world.routingOf job.candidate).resolve job.message.owner)) := by
  simp only [ring, handed, Instruction.deeds]
  cases service.world.agenda.find? ticket with
  | none => exact .rests rfl
  | some entry =>
      simp only
      by_cases late : Time.wake entry.due ≤ service.now
      · rw [if_pos late, if_pos late, filterMap_built]
        exact assigns_fireTimer service _ _ rfl
      · rw [if_neg late, if_neg late]
        exact assigns_nil rfl

theorem assigns_send (service : Service) (job : Job) (rest : Program) :
    Assigns rest (service.send job rest).2 [] := by
  unfold send
  split
  · simp only
    split <;> exact assigns_nil rfl
  · exact assigns_nil rfl

theorem handed_send (service : Service) (job : Job) : service.handed (.send job) = [] := by
  simp only [handed, Instruction.deeds]
  split
  · split <;> rfl
  · rfl

/-- What a caller asks for is given to the executors of the moment. -/
theorem assigns_driveDue (service : Service) (upTo call : Nat) (rest : Program) :
    Assigns rest (service.driveDue upTo call rest).2
      ((service.handed (.driveDue upTo call)).map fun job =>
        (job, service.world.routing.resolve job.message.owner)) := by
  have sameRouting := (abides_forceDue (service.world.report (.enter "drive_due")) upTo).routing
  simp only [driveDue, proceed, handed, Instruction.deeds, filterMap_built]
  generalize forceDue (service.world.report (.enter "drive_due")) upTo = forced at sameRouting
  have sameRouting : forced.1.routing = service.world.routing := sameRouting
  rw [sameRouting, ← assignmentsOf_deliveries]
  exact .goesOn rfl rfl

theorem assigns_attempt (service : Service) (sequence : SequenceKey) (number call : Nat)
    (rest : Program) :
    Assigns rest (service.attempt sequence number call rest).2
      ((service.handed (.attempt sequence number call)).map fun job =>
        (job, service.world.routing.resolve job.message.owner)) := by
  simp only [attempt, handed, Instruction.deeds]
  cases service.world.find? sequence number with
  | none => exact assigns_nil rfl
  | some identity =>
      rw [filterMap_built]
      exact assigns_pursue (service.world.hands_force identity none) service
        (fun _ => service.world.routing)
        (fun _ _ _ _ => (service.world.abides_force identity none).routing) rfl

theorem assigns_runDue (service : Service) (upTo ran call : Nat) (rest : Program) :
    Assigns rest (service.runDue upTo ran call rest).2
      ((service.handed (.runDue upTo ran call)).map fun job =>
        (job, (service.world.routingOf job.candidate).resolve job.message.owner)) := by
  simp only [runDue, handed, Instruction.deeds]
  cases service.world.agenda.takeDue? upTo with
  | none => exact assigns_nil rfl
  | some due =>
      rw [filterMap_built]
      exact assigns_fireTimer service _ _ rfl

/-- Each job that an instruction hands over is given to one executor, and no other one is. -/
theorem assigns_perform (service : Service) (instruction : Instruction) (rest : Program) :
    Assigns rest (perform instruction rest service).2
      ((service.handed instruction).map fun job =>
        (job, (instruction.routingFor service.world job.candidate).resolve job.message.owner)) := by
  cases instruction with
  | ring ticket => exact assigns_ring service ticket rest
  | send job =>
      rw [handed_send]
      exact assigns_send service job rest
  | acquire pool =>
      simp only [perform, acquire]
      split
      · exact assigns_nil rfl
      · exact .rests rfl
  | driveDue upTo call => exact assigns_driveDue service upTo call rest
  | attempt sequence number call => exact assigns_attempt service sequence number call rest
  | runDue upTo ran call => exact assigns_runDue service upTo ran call rest
  | serve call => exact .rests rfl
  | conclude _ _ | enqueue _ _ | release _ | hear _ | leave _ | reply _ _ => exact assigns_nil rfl

/-- Each job that a move hands over is given to one executor, and no other one is: to the executor
of the moment if a caller asks for it, and else to the one that its message was registered with. -/
theorem assignments_eq (service : Service) (move : Move) :
    service.assignments move =
      ((service.deeds move).filterMap Deed.built?).map fun job =>
        (job, (if service.isAsked move then service.world.routing
          else service.world.routingOf job.candidate).resolve job.message.owner) := by
  cases move with
  | command _ | rouse _ _ | wait _ | reorder _ => rfl
  | step index =>
      cases ready : service.ready[index]? with
      | none => simp only [assignments, Service.deeds, ready, List.filterMap_nil, List.map_nil]
      | some activity =>
          obtain ⟨_ | ⟨instruction, rest⟩, foreground⟩ := activity
          · simp only [assignments, Service.deeds, ready, List.filterMap_nil, List.map_nil]
          · simp only [assignments, Service.deeds, isAsked, ready]
            exact (assigns_perform { service with ready := service.ready.eraseIdx index }
              instruction rest).take_eq

end Service

/-- A job that is handed over is a resend of the message that its candidate has at the moment. -/
theorem Outline.Deals.exists_of_built {now : Nat} {before after : Outline} {deeds : List Deed}
    (deals : before.Deals now deeds after) {job : Job} (built : .built job ∈ deeds) :
    ∃ candidate, before.candidates[job.candidate]? = some candidate ∧
      candidate.message = some job.message := by
  induction deals with
  | quiet | begin | complete | abandon => simp at built
  | @build before after identity handed hands =>
      obtain ⟨own, isOwn, same⟩ := List.mem_map.mp built
      obtain rfl : own = job := Deed.built.inj same
      rw [Option.mem_toList.mp isOwn] at hands
      obtain ⟨candidate, message, found, _, held, _, rfl⟩ := hands.of_some
      exact ⟨candidate, found, held⟩
  | @trans first middle last early late earlier _ ofEarly ofLate =>
      rcases List.mem_append.mp built with isEarly | isLate
      · exact ofEarly isEarly
      · obtain ⟨later, isLater, held⟩ := ofLate isLate
        have same : (middle.candidates[job.candidate]?).map Candidate.message =
            (first.candidates[job.candidate]?).map Candidate.message :=
          earlier.view (fun _ _ _ _ _ _ _ _ => rfl) job.candidate
        rw [isLater, Option.map_some] at same
        obtain ⟨candidate, found, sameMessage⟩ := Option.map_eq_some_iff.mp same.symm
        exact ⟨candidate, found, sameMessage.trans held⟩

namespace Service

/-! ## Executors in force -/

/-- Only new executors replace those in force. -/
theorem routing_move {service after : Service} {move : Move}
    (moved : service.move? move = some after)
    (kept : ∀ executors, move ≠ .command (.setExecutors executors)) :
    after.world.routing = service.world.routing := by
  cases move with
  | command command =>
      obtain rfl := eq_carryOut moved
      have operates (operation : command.isQuiet = false) :
          (service.carryOut command).world.routing = service.world.routing := by
        obtain ⟨changes, after, abides⟩ := service.exists_change operation
        rw [after, change, world_launch]
        exact abides.routing
      have announces (news : ShutdownNews) :
          (service.announce news).1.world.routing = service.world.routing := by
        unfold announce
        split <;> rfl
      cases command with
      | add _ | purgeAcknowledged _ _ | purgeAll _ | stop _ | suspend _ | resume _ | shutdown =>
          exact operates rfl
      | request name request => cases name <;> rfl
      | join name => rfl
      | serve name => exact announces .closed
      | announce news => exact announces news
      | setExecutors executors => exact absurd rfl (kept executors)
      | closeAgenda => exact (congrArg Registry.routing (world_launch _) :)
      | prepare message outcomes => exact (congrArg Registry.routing (world_launch _) :)
      | exchangeStore store => exact (congrArg Registry.routing (world_launch _) :)
  | step index =>
      obtain ⟨program, _, _, others, sameWorld, _, _, went⟩ := stepAt_eq_some moved
      rcases went with ⟨_, rfl⟩ | ⟨instruction, rest, middle, _, isMiddle, world, _⟩
      · rw [sameWorld]
      · rw [world, isMiddle, ← sameWorld]
        exact (executors_perform others instruction rest).1
  | rouse index position =>
      obtain ⟨_, sameWorld⟩ := Timeline.rouseTo_eq_some moved
      rw [sameWorld]
  | wait instant =>
      obtain rfl := eq_wait moved
      rfl
  | reorder roster =>
      obtain ⟨_, rfl⟩ := eq_reorder moved
      rfl

theorem routing_run {first last : Service} {moves : List Move} (run : Run first moves last)
    (kept : ∀ executors, .command (.setExecutors executors) ∉ moves) :
    last.world.routing = first.world.routing := by
  induction run with
  | start => rfl
  | @extend moves move middle last _ moved inductionHypothesis =>
      have keptBefore : ∀ executors, .command (.setExecutors executors) ∉ moves :=
        fun executors among => kept executors (List.mem_append_left _ among)
      rw [routing_move moved fun executors same =>
        kept executors (same ▸ List.mem_append_right _ List.mem_cons_self)]
      exact inductionHypothesis keptBefore

/-! ## The executor of a message -/

/-- Every resend of a message that is handed over in the course of a run is given to one and the
same executor. -/
def StaysWith (identity : Nat) (route : Executor.Route) (moves : List Move) (first : Service) :
    Prop :=
  Throughout (fun service move => ∀ given ∈ service.assignments move,
    given.1.candidate = identity → given.2 = route) moves first

instance (identity : Nat) (route : Executor.Route) (moves : List Move) (first : Service) :
    Decidable (StaysWith identity route moves first) :=
  inferInstanceAs (Decidable (Throughout _ moves first))

theorem handsOver_iff {service : Service} {move : Move} {identity : Nat} :
    service.handsOver move identity = true ↔
      ∃ given ∈ service.assignments move, given.1.candidate = identity := by
  rw [assignments_eq]
  simp only [handsOver, List.any_eq_true, Deed.about, List.mem_filter, decide_eq_true_eq,
    List.mem_map, List.mem_filterMap]
  constructor
  · rintro ⟨deed, ⟨done, own⟩, isBuilt⟩
    obtain ⟨job, isJob⟩ := Option.isSome_iff_exists.mp isBuilt
    cases deed with
    | built built => exact ⟨_, ⟨built, ⟨_, done, rfl⟩, rfl⟩, own⟩
    | begun _ | completed _ | abandoned _ => cases isJob
  · rintro ⟨_, ⟨job, ⟨deed, done, isJob⟩, rfl⟩, own⟩
    cases deed with
    | built built =>
        obtain rfl : built = job := Option.some.inj isJob
        exact ⟨_, ⟨done, own⟩, rfl⟩
    | begun _ | completed _ | abandoned _ => cases isJob

/-- A resend of a registered message is given to the executor of its owner: to that of the moment
if a caller asks for it, and else to the one that the owner had when the message was registered. -/
theorem route_of_assignment {start last : Service} {moves : List Move} {message : Message}
    {identity : Nat} (sound : start.Sound)
    (accepted : (start.world.add start.now message).2 = .ok identity)
    (run : Run (start.carryOut (.add message)) moves last) {move : Move} {after : Service}
    (moved : last.move? move = some after) {given : Job × Executor.Route}
    (assigned : given ∈ last.assignments move) (own : given.1.candidate = identity) :
    given.2 = (if last.isAsked move then last.world.routing
      else start.world.routing).resolve message.owner := by
  have lastSound : last.Sound :=
    (sound.move (rfl : start.move? (.command (.add message)) = _)).run run
  rw [assignments_eq] at assigned
  obtain ⟨job, built, rfl⟩ := List.mem_map.mp assigned
  obtain ⟨deed, done, isJob⟩ := List.mem_filterMap.mp built
  obtain rfl : deed = .built job := by
    cases deed with
    | built other => exact congrArg Deed.built (Option.some.inj isJob)
    | begun _ | completed _ | abandoned _ => cases isJob
  have exists_held : ∃ candidate, last.outline.candidates[job.candidate]? = some candidate ∧
      candidate.message = some job.message := by
    cases move with
    | command _ | rouse _ _ | wait _ | reorder _ => cases done
    | step index =>
        cases (acts_stepAt lastSound.tidy moved).1 with
        | deals deals => exact deals.exists_of_built done
        | shutdown noDeed => rw [noDeed] at done; cases done
  obtain ⟨candidate, found, held⟩ := exists_held
  obtain ⟨carrier, isCarrier, carries⟩ := carries_run sound accepted run
  obtain rfl : job.candidate = identity := own
  obtain rfl := Option.some.inj (found.symm.trans isCarrier)
  have active : candidate.ending = none := by
    by_contra ended
    rw [(((lastSound.share job.candidate).candidate candidate found).kept).mpr ended] at held
    cases held
  have sameMessage : job.message = message :=
    Option.some.inj (held.symm.trans (carries.message active))
  have sameRouting : last.world.routingOf job.candidate = start.world.routing := by
    obtain ⟨timed, isTimed, rfl⟩ := exists_candidate found
    rw [Registry.routingOf, isTimed]
    exact carries.routing
  rw [sameMessage, sameRouting]

/-- What becomes of the resends of a message for which certain executors were in force when it was
registered.  Each one that is handed over is given to one executor.  What a timer or the queue sets
off is given to the executor that the owner had then, and what a caller asks for to the one that the
owner has now.  So all of them are given to the former exactly if the owner has that one whenever a
resend is handed over because a caller asks for it.  This is so if no executors are set after the
registration; and those in force then are those that were set last. -/
theorem staysWith_iff {first start last : Service} {early late : List Move} {message : Message}
    {identity : Nat} (initial : first.IsInitial) (toStart : Run first early start)
    (accepted : (start.world.add start.now message).2 = .ok identity)
    (run : Run (start.carryOut (.add message)) late last) :
    (∀ move, (last.assignments move).map Prod.fst =
        (last.deeds move).filterMap Deed.built?) ∧
      (∀ move after, last.move? move = some after →
        ∀ given ∈ last.assignments move, given.1.candidate = identity →
          given.2 = (if last.isAsked move then last.world.routing
            else start.world.routing).resolve message.owner) ∧
      (StaysWith identity (start.world.routing.resolve message.owner) late
          (start.carryOut (.add message)) ↔
        Throughout (fun service move => service.isAsked move = true →
          service.handsOver move identity = true →
          service.world.routing.resolve message.owner =
            start.world.routing.resolve message.owner) late (start.carryOut (.add message))) ∧
      ((∀ executors, .command (.setExecutors executors) ∉ late) →
        StaysWith identity (start.world.routing.resolve message.owner) late
          (start.carryOut (.add message))) ∧
      ∀ (replaced : Service) executors between,
        Run (replaced.carryOut (.setExecutors executors)) between start →
        (∀ others, .command (.setExecutors others) ∉ between) →
        start.world.routing = (replaced.world.setExecutors executors).routing := by
  have sound := initial.sound.run toStart
  have inForce : (start.carryOut (.add message)).world.routing = start.world.routing :=
    routing_move (rfl : start.move? (.command (.add message)) = _) fun _ same => by cases same
  have asRegistered : StaysWith identity (start.world.routing.resolve message.owner) late
        (start.carryOut (.add message)) ↔
      Throughout (fun service move => service.isAsked move = true →
        service.handsOver move identity = true →
        service.world.routing.resolve message.owner =
          start.world.routing.resolve message.owner) late (start.carryOut (.add message)) := by
    refine throughout_congr run fun early middle move next toMiddle moved => ?_
    have route {given : Job × Executor.Route} (assigned : given ∈ middle.assignments move)
        (own : given.1.candidate = identity) :=
      route_of_assignment sound accepted toMiddle moved assigned own
    constructor
    · intro stays asked handsOver
      obtain ⟨given, assigned, own⟩ := handsOver_iff.mp handsOver
      rw [← stays given assigned own, route assigned own, if_pos asked]
    · intro agrees given assigned own
      rw [route assigned own]
      split
      · next asked => exact agrees asked (handsOver_iff.mpr ⟨given, assigned, own⟩)
      · rfl
  refine ⟨fun move => ?_, fun move after moved given assigned own =>
    route_of_assignment sound accepted run moved assigned own, asRegistered, fun kept => ?_, ?_⟩
  · rw [assignments_eq, List.map_map]
    exact List.map_id _
  · rw [asRegistered]
    clear asRegistered
    induction run with
    | start => trivial
    | @extend moves move middle last toMiddle moved inductionHypothesis =>
        have keptBefore : ∀ executors, .command (.setExecutors executors) ∉ moves :=
          fun executors among => kept executors (List.mem_append_left _ among)
        refine (throughout_concat toMiddle).mpr ⟨inductionHypothesis keptBefore, fun _ _ => ?_⟩
        rw [routing_run toMiddle keptBefore, inForce]
  · intro replaced executors between toHere kept
    rw [routing_run toHere kept]
    exact (congrArg Registry.routing (world_launch _) :)

end Service

namespace Sample

/-- A message that has just been registered for an owner that has no pool. -/
def registered : Service :=
  (service .byQueue).carryOut (.add (message 1 (some "o")))

/-- The owner gets a pool, then a resend is taken from the queue, and then one is asked for. -/
def poolComesLate : List Move :=
  [.command (.setExecutors [("o", some 1)]), .wait 3000000000,
    .command (.request none (.runDue 3000000000)), .step 0, .step 0, .step 0, .step 0, .step 0,
    .command (.request none (.attempt sequence 1))]

theorem exists_poolComesLate :
    ∃ last after, Run registered poolComesLate last ∧ last.move? (.step 0) = some after ∧
      last.world.routing.resolve (some "o") = .pooled 0 ∧ last.isAsked (.step 0) = true ∧
      last.handsOver (.step 0) 0 = true := by
  obtain ⟨last, followed, looks⟩ := Option.map_eq_some_iff.mp
    (by decide +kernel :
      (Service.follow poolComesLate registered).map (fun last =>
        ((last.move? (.step 0)).isSome, last.world.routing.resolve (some "o"),
          last.isAsked (.step 0), last.handsOver (.step 0) 0)) =
        some (true, .pooled 0, true, true))
  simp only [Prod.mk.injEq] at looks
  obtain ⟨goesOn, resolved, asked, handsOver⟩ := looks
  obtain ⟨after, moved⟩ := Option.isSome_iff_exists.mp goesOn
  exact ⟨last, after, .of_follow followed, moved, resolved, asked, handsOver⟩

end Sample

namespace Service

/-- What is taken from the queue stays with the caller, and what is asked for after that goes to the
pool. -/
theorem staysWith_iff_of_poolComesLate :
    ∃ last given, Run Sample.registered Sample.poolComesLate last ∧
      StaysWith 0 .inline Sample.poolComesLate Sample.registered ∧
      given ∈ last.assignments (.step 0) ∧ given.1.candidate = 0 ∧ given.2 = .pooled 0 := by
  obtain ⟨last, after, run, moved, resolved, asked, handsOver⟩ := Sample.exists_poolComesLate
  obtain ⟨given, assigned, own⟩ := handsOver_iff.mp handsOver
  obtain ⟨_, route, stays, _⟩ :=
    staysWith_iff (Sample.isInitial_service .byQueue) .start rfl run
  refine ⟨last, given, run, stays.mpr (by decide +kernel), assigned, own, ?_⟩
  rw [route _ _ moved given assigned own, if_pos asked]
  exact resolved

/-- A message does not always stay with the executor that its owner had when it was registered. -/
theorem not_always_staysWith :
    ¬ ∀ (first start last : Service) (early late : List Move) (message : Message) (identity : Nat),
      first.IsInitial → Run first early start →
      (start.world.add start.now message).2 = .ok identity →
      Run (start.carryOut (.add message)) late last →
      StaysWith identity (start.world.routing.resolve message.owner) late
        (start.carryOut (.add message)) := by
  intro always
  obtain ⟨last, after, run, moved, resolved, asked, handsOver⟩ := Sample.exists_poolComesLate
  obtain ⟨given, assigned, own⟩ := handsOver_iff.mp handsOver
  have stays := always _ _ _ [] _ (Sample.message 1 (some "o")) 0
    (Sample.isInitial_service .byQueue) .start rfl (run.extend moved)
  have kept := ((throughout_concat run).mp stays).2 given assigned own
  have route := route_of_assignment (Sample.isInitial_service .byQueue).sound rfl run moved
    assigned own
  rw [if_pos asked] at route
  cases (kept.symm.trans route).trans resolved

end Service

end Redelivery
