import Redelivery.Registry.Queries
import Redelivery.Timeline

/-!
# A registry at work

A service is a registry on a clock.  Operations of the registry happen at once;
timers, resends and the calls that wait for resends are activities.
-/

namespace Redelivery

/-- A registry, its activities and the clock. -/
abbrev Service := Timeline Instruction Registry

namespace Service

/-- Take over the activities that the registry has started. -/
def launch (service : Service) : Service :=
  (service.spawnAll service.world.starting).mapWorld fun registry =>
    { registry with starting := [] }

/-! ## What instructions do -/

/-- Change the registry and go on with a program. -/
def proceed (service : Service) (registry : Registry) (program : Program) :
    Service × Pace Instruction :=
  ({ service with world := registry }, .onward program)

/-- Go on with the job that a candidate has handed over, if there is one. -/
def pursue (service : Service) (handed : Registry × Option Job)
    (routing : Candidate → Executor.Routing) (rest : Program) : Service × Pace Instruction :=
  let program := match handed.2 with
    | none => []
    | some job =>
        match handed.1.candidate? job.candidate with
        | none => []
        | some candidate => Registry.delivery (routing candidate) job
  service.proceed handed.1 (program ++ rest)

/-- Take a timer off the agenda and let it fire, once its instant has come.  A
timer that is not on the agenda was given up. -/
def ring (service : Service) (ticket : Nat) (rest : Program) : Service × Pace Instruction :=
  match service.world.agenda.find? ticket with
  | none => (service, .retire)
  | some entry =>
      if Time.wake entry.due ≤ service.now then
        let taken := { service.world with agenda := service.world.agenda.cancel ticket }
        service.pursue (taken.fireTimer entry.task) Candidate.routing rest
      else (service, .sleepUntil entry.due (.ring ticket :: rest))

/-- Hand a message to the transport, unless that is no longer wanted. -/
def send (service : Service) (job : Job) (rest : Program) : Service × Pace Instruction :=
  if service.world.maySend job then
    let (begun, outcome) := service.world.beginSend service.now job
    if outcome.takes = 0 then
      service.proceed (begun.concludeSend service.now job outcome.failure) rest
    else
      ({ service with world := begun },
        .sleepUntil (service.now + outcome.takes) (.conclude job outcome.failure :: rest))
  else service.proceed (service.world.abandonSend job) rest

/-- Ask for a permit of a pool, and wait for it with the rest of the program. -/
def acquire (service : Service) (pool : Nat) (rest : Program) : Service × Pace Instruction :=
  let (pools, granted) := Executor.Pool.requestAt service.world.pools pool rest
  ({ service with world := { service.world with pools } },
    if granted then .onward rest else .retire)

/-- Give a permit back, so that the first program that waits for it goes on. -/
def release (service : Service) (pool : Nat) (rest : Program) : Service × Pace Instruction :=
  let (pools, heir) := Executor.Pool.releaseAt service.world.pools pool
  let registry := { service.world with pools }
  service.proceed (heir.elim registry registry.start) rest

/-- Hand over the resends of all active candidates that are due, one sequence after the other in
the order in which the roster comes. -/
def forceDue (registry : Registry) (upTo : Nat) : Registry × List Job :=
  registry.roster.allActive.foldl
    (fun (registry, jobs) identity =>
      let (forced, job) := registry.force identity (some upTo)
      (forced, jobs ++ job.toList))
    (registry, [])

/-- Resend what is due: all resends are handed over before the first of them goes
out. -/
def driveDue (service : Service) (upTo call : Nat) (rest : Program) :
    Service × Pace Instruction :=
  let (forced, jobs) := forceDue (service.world.report (.enter "drive_due")) upTo
  service.proceed forced
    (jobs.flatMap (Registry.delivery forced.routing) ++
      .leave "drive_due" :: .reply call (.count jobs.length) :: rest)

/-- Resend one message, whether or not it is due. -/
def attempt (service : Service) (sequence : SequenceKey) (number call : Nat)
    (rest : Program) : Service × Pace Instruction :=
  match service.world.find? sequence number with
  | none =>
      service.proceed service.world
        (.reply call (.attempted (.error (.unknownMessage sequence number))) :: rest)
  | some identity =>
      let handed := service.world.force identity none
      service.pursue handed (fun _ => handed.1.routing)
        (.reply call (.attempted (.ok handed.2.isSome)) :: rest)

/-- Run the first waiting task that is due, then those after it. -/
def runDue (service : Service) (upTo ran call : Nat) (rest : Program) :
    Service × Pace Instruction :=
  match service.world.agenda.takeDue? upTo with
  | none => service.proceed service.world (.reply call (.count ran) :: rest)
  | some (entry, agenda) =>
      service.pursue ({ service.world with agenda }.fireTimer entry.task) Candidate.routing
        (.runDue upTo (ran + 1) call :: rest)

/-- Wait for a shutdown signal. -/
def serve (service : Service) (call : Nat) : Service × Pace Instruction :=
  let registry := (service.world.report (.enter "serve")).report
    (.engine .trace "Retransmission registry serving")
  ({ service with world := { registry with listener := some call } }, .retire)

/-- The report of the news that ended the wait for a signal. -/
def newsReport : ShutdownNews → Log.Event
  | .signalled => .engine .trace "Retransmission registry received shutdown signal"
  | .lagged lost => failure ("channel lagged by " ++ toString lost)
  | .closed => failure "channel closed"
where
  failure (reason : String) : Log.Event :=
    { level := .error
      target := Log.registryTarget
      message := "Retransmission registry shutdown channel error: " ++ reason
      fields := []
      spans := [] }

/-- One instruction of an activity. -/
def perform : Behaviour Instruction Registry := fun instruction rest service =>
  match instruction with
  | .ring ticket => ring service ticket rest
  | .send job => send service job rest
  | .conclude job failure =>
      proceed service (service.world.concludeSend service.now job failure) rest
  | .enqueue pool job =>
      proceed service (service.world.start [.acquire pool, .send job, .release pool]) rest
  | .acquire pool => acquire service pool rest
  | .release pool => release service pool rest
  | .driveDue upTo call => driveDue service upTo call rest
  | .attempt sequence number call => attempt service sequence number call rest
  | .runDue upTo ran call => runDue service upTo ran call rest
  | .serve call => serve service call
  | .hear news => proceed service (service.world.report (newsReport news)).shutdown rest
  | .leave operation => proceed service (service.world.report (.leave operation)) rest
  | .reply call answer => proceed service (service.world.reply call answer) rest

/-- One instruction, and the activities that it starts. -/
def behave : Behaviour Instruction Registry := fun instruction rest service =>
  let (after, pace) := perform instruction rest service
  (launch after, pace)

/-! ## Operations -/

/-- Carry out an operation of the registry, and start the activities that it
starts. -/
def apply {α : Type} (operation : Registry → Registry × α) (service : Service) : Service × α :=
  let (registry, result) := operation service.world
  (launch { service with world := registry }, result)

/-- Begin a call for whose answer the caller waits, and get its number. -/
def beginCall (program : Nat → Program) (service : Service) : Service × Nat :=
  let (number, calls) := service.world.calls.make
  ({ service with world := { service.world with calls } }.call (program number), number)

/-- Begin a call under a name. -/
def beginNamed (name : String) (program : Nat → Program) (service : Service) : Service :=
  let (number, calls) := service.world.calls.makeNamed name
  { service with world := { service.world with calls } }.spawn (program number)

/-- Tell the call that waits for a shutdown signal, if there is one, and say
whether there was. -/
def announce (news : ShutdownNews) (service : Service) : Service × Bool :=
  match service.world.listener with
  | none => (service, false)
  | some call =>
      let deaf := service.mapWorld fun registry => { registry with listener := none }
      (deaf.spawn [.hear news, .leave "serve", .reply call .served], true)

/-- Serve under a name until a shutdown signal comes.  Whoever has served so far
learns that no signal can come any more. -/
def beginServing (name : String) (service : Service) : Service :=
  beginNamed name (fun call => [.serve call]) (announce .closed service).1

/-- Send shutdown signals in one go, and say of each whether somebody waited for
it.  All but the latest are lost. -/
def signal (count : Nat) (service : Service) : Service × List Bool :=
  match count with
  | 0 => (service, [])
  | lost + 1 =>
      let (after, heard) :=
        announce (if lost = 0 then .signalled else .lagged lost) service
      (after, List.replicate count heard)

/-! ## Operations and what they set off -/

/-- Carry out an operation, and let everything happen that it sets off. -/
def act {α : Type} (fuel : Nat) (operation : Registry → Registry × α) (service : Service) :
    Service × α :=
  let (after, result) := apply operation service
  (after.settle behave fuel, result)

/-- Make a call and wait for its answer, however long it takes. -/
def callNow (fuel : Nat) (program : Nat → Program) (service : Service) :
    Service × Option Answer :=
  let (called, number) := beginCall program service
  let ended := called.await behave (fun registry => (registry.calls.answer? number).isSome) fuel
  (ended.settle behave fuel, ended.world.calls.answer? number)

/-- Make a call, under a name and without waiting, or else wait for its answer. -/
def request (fuel : Nat) (name : Option String) (program : Nat → Program)
    (service : Service) : Service × Option Answer :=
  match name with
  | some name => ((beginNamed name program service).settle behave fuel, none)
  | none => callNow fuel program service

/-- Ask for the answer of a named call. -/
def join (name : String) (service : Service) : Service × Outlook Answer :=
  let (outlook, calls) := service.world.calls.join name
  ({ service with world := { service.world with calls } }, outlook)

end Service

end Redelivery
