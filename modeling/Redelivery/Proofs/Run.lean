import Mathlib.Data.List.TakeWhile
import Redelivery.Proofs.Roster
import Redelivery.Registry.Building
import Redelivery.Service

/-!
# Runs of a service

A run is a sequence of moves: a caller carries out a command, a ready activity
does its next instruction, a sleeper whose instant has come wakes up, or time
passes.  Whatever is ready may move next, and time may pass at any moment, so
that every order of timers, resends and calls is a run.  The order in which a
service settles and lets time pass by itself is one of them.  The maps of a
registry keep no order of their own: before any move they may come in another
one, so that a run is one for every order in which they are gone through.
-/

namespace Redelivery

namespace Timeline

variable {ι σ : Type}

/-- Wake the sleeper at an index, if its instant has come, and put it at a
position among the activities that are ready. -/
def rouseTo (index position : Nat) (timeline : Timeline ι σ) : Option (Timeline ι σ) :=
  match timeline.asleep[index]? with
  | none => none
  | some sleeper =>
      if sleeper.wake ≤ timeline.now ∧ position ≤ timeline.ready.length then
        some
          { timeline with
            ready := timeline.ready.insertIdx position sleeper.activity
            asleep := timeline.asleep.eraseIdx index }
      else none

/-- Waking a sleeper by itself puts it last. -/
theorem rouseAt_eq_rouseTo (index : Nat) (timeline : Timeline ι σ) :
    timeline.rouseAt index = timeline.rouseTo index timeline.ready.length := by
  cases found : timeline.asleep[index]? with
  | none => simp [rouseAt, rouseTo, found]
  | some sleeper => simp [rouseAt, rouseTo, found]

/-! ## Timelines that settle and let time pass -/

theorem insertIdx_behind {α : Type} (front rest : List α) (new : α) :
    (front ++ rest).insertIdx front.length new = front ++ new :: rest := by
  induction front with
  | nil => rfl
  | cons first front inductionHypothesis =>
      rw [List.cons_append, List.length_cons, List.insertIdx_succ_cons, inductionHypothesis,
        List.cons_append]

/-- A relation of a timeline to whatever steps, awakenings and the passing of time make of it. -/
structure IsPassage (behave : Behaviour ι σ) (leads : Timeline ι σ → Timeline ι σ → Prop) :
    Prop where
  refl : ∀ timeline, leads timeline timeline
  trans : ∀ {first middle last}, leads first middle → leads middle last → leads first last
  step : ∀ {timeline after : Timeline ι σ} {index : Nat},
    timeline.stepAt behave index = some after → leads timeline after
  rouse : ∀ {timeline after : Timeline ι σ} {index position : Nat},
    timeline.rouseTo index position = some after → leads timeline after
  pass : ∀ {timeline : Timeline ι σ} {instant : Nat},
    timeline.now ≤ instant → leads timeline { timeline with now := instant }

namespace IsPassage

variable {behave : Behaviour ι σ} {leads : Timeline ι σ → Timeline ι σ → Prop}

/-- Whatever settles makes steps. -/
theorem settle (passage : IsPassage behave leads) (fuel : Nat) (timeline : Timeline ι σ) :
    leads timeline (timeline.settle behave fuel) := by
  induction fuel generalizing timeline with
  | zero => exact passage.refl timeline
  | succ fuel inductionHypothesis =>
      simp only [Timeline.settle]
      cases stepped : timeline.stepAt behave 0 with
      | none => exact passage.refl timeline
      | some next => exact passage.trans (passage.step stepped) (inductionHypothesis next)

/-- Sleepers whose instant has come wake up one after the other: the foreground in front
of what is ready, behind what was put there before, and the rest at the end. -/
theorem rouseAll (passage : IsPassage behave leads) {front middle back : List (Activity ι)}
    {due rest : List (Sleeper ι)} {timeline : Timeline ι σ}
    (late : ∀ sleeper ∈ due, sleeper.wake ≤ timeline.now)
    (ready : timeline.ready = front ++ (middle ++ back)) (asleep : timeline.asleep = due ++ rest) :
    leads timeline
      { timeline with
        ready := front ++ (due.map Sleeper.activity).filter Activity.foreground ++
          (middle ++ (back ++ (due.map Sleeper.activity).filter fun activity =>
            !activity.foreground))
        asleep := rest } := by
  induction due generalizing timeline front back with
  | nil =>
      have same : { timeline with ready := front ++ (middle ++ back), asleep := rest } =
          timeline := by
        rw [← ready, ← List.nil_append rest, ← asleep]
      simp only [List.map_nil, List.filter_nil, List.append_nil, same]
      exact passage.refl timeline
  | cons sleeper due inductionHypothesis =>
      have come : sleeper.wake ≤ timeline.now := late sleeper List.mem_cons_self
      have others : ∀ other ∈ due, other.wake ≤ timeline.now :=
        fun other present => late other (List.mem_cons_of_mem sleeper present)
      have roused {position : Nat} (inside : position ≤ timeline.ready.length) :
          timeline.rouseTo 0 position = some
            { timeline with
              ready := timeline.ready.insertIdx position sleeper.activity
              asleep := due ++ rest } := by
        simp only [Timeline.rouseTo, asleep, List.cons_append, List.getElem?_cons_zero]
        rw [if_pos ⟨come, inside⟩]
        rfl
      cases foreground : sleeper.activity.foreground with
      | true =>
          have inside : front.length ≤ timeline.ready.length := by simp [ready]
          have placed : timeline.ready.insertIdx front.length sleeper.activity =
              (front ++ [sleeper.activity]) ++ (middle ++ back) := by
            rw [ready, insertIdx_behind, List.append_assoc, List.singleton_append]
          have further := @inductionHypothesis (front ++ [sleeper.activity]) back
            { timeline with
              ready := timeline.ready.insertIdx front.length sleeper.activity
              asleep := due ++ rest } others placed rfl
          simpa [foreground] using passage.trans (passage.rouse (roused inside)) further
      | false =>
          have placed : timeline.ready.insertIdx timeline.ready.length sleeper.activity =
              front ++ (middle ++ (back ++ [sleeper.activity])) := by
            rw [List.insertIdx_length_self, ready, List.append_assoc, List.append_assoc]
          have further := @inductionHypothesis front (back ++ [sleeper.activity])
            { timeline with
              ready := timeline.ready.insertIdx timeline.ready.length sleeper.activity
              asleep := due ++ rest } others placed rfl
          simpa [foreground] using
            passage.trans (passage.rouse (roused (Nat.le_refl _))) further

/-- Moving the clock lets time pass and wakes what is due. -/
theorem moveTo (passage : IsPassage behave leads) (timeline : Timeline ι σ) (instant : Nat) :
    leads timeline (timeline.moveTo instant) := by
  refine passage.trans (passage.pass (Nat.le_max_left timeline.now instant)) ?_
  simp only [Timeline.moveTo, Timeline.rouseDue]
  generalize isTimely : (fun sleeper : Sleeper ι =>
    decide (sleeper.wake ≤ max timeline.now instant)) = timely
  have late : ∀ sleeper ∈ timeline.asleep.takeWhile timely,
      sleeper.wake ≤ max timeline.now instant := by
    intro sleeper present
    have isLate := List.mem_takeWhile_imp present
    rw [← isTimely] at isLate
    exact of_decide_eq_true isLate
  have roused := @rouseAll _ _ _ _ passage [] timeline.ready [] _
    (timeline.asleep.dropWhile timely) { timeline with now := max timeline.now instant } late
    (List.append_nil _).symm List.takeWhile_append_dropWhile.symm
  simpa using roused

/-- So does letting time pass, with all that is due on the way. -/
theorem elapse (passage : IsPassage behave leads) (target fuel : Nat) (timeline : Timeline ι σ) :
    leads timeline (timeline.elapse behave target fuel) := by
  induction fuel generalizing timeline with
  | zero => exact passage.refl timeline
  | succ fuel inductionHypothesis =>
      simp only [Timeline.elapse]
      apply passage.trans (passage.settle fuel timeline)
      split
      · split
        · exact passage.trans (passage.moveTo _ _) (inductionHypothesis _)
        · exact passage.moveTo _ _
      · exact passage.moveTo _ _

/-- So does waiting until something is true of the world. -/
theorem await (passage : IsPassage behave leads) (finished : σ → Bool) (fuel : Nat)
    (timeline : Timeline ι σ) : leads timeline (timeline.await behave finished fuel) := by
  induction fuel generalizing timeline with
  | zero => exact passage.refl timeline
  | succ fuel inductionHypothesis =>
      simp only [Timeline.await]
      apply passage.trans (passage.settle fuel timeline)
      split
      · exact passage.refl _
      · split
        · exact passage.trans (passage.moveTo _ _) (inductionHypothesis _)
        · exact passage.refl _

theorem advance (passage : IsPassage behave leads) (fuel duration : Nat)
    (timeline : Timeline ι σ) : leads timeline (timeline.advance behave fuel duration) :=
  passage.trans (passage.trans (passage.settle fuel timeline) (passage.elapse _ fuel _))
    (passage.settle fuel _)

theorem jump (passage : IsPassage behave leads) (fuel duration : Nat) (timeline : Timeline ι σ) :
    leads timeline (timeline.jump behave fuel duration) :=
  passage.trans (passage.trans (passage.settle fuel timeline) (passage.moveTo _ _))
    (passage.settle fuel _)

end IsPassage

end Timeline

/-- A call that takes time. -/
inductive Request where
  /-- Resend what is due. -/
  | driveDue (upTo : Nat)
  /-- Resend one message. -/
  | attempt (sequence : SequenceKey) (number : Nat)
  /-- Run the waiting tasks that are due. -/
  | runDue (upTo : Nat)

/-- What a call does, given its number. -/
def Request.program : Request → Nat → Program
  | driveDue upTo, call => [.driveDue upTo call]
  | attempt sequence number, call => [.attempt sequence number call]
  | runDue upTo, call => [.runDue upTo 0 call]

/-- What a caller can ask of a service, its surroundings included: the executors
to come, the scheduler, the transport and the store. -/
inductive Command where
  | add (message : Message)
  | purgeAcknowledged (sequence : SequenceKey) (acknowledged : Nat → Bool)
  | purgeAll (sequence : SequenceKey)
  | stop (sequence : SequenceKey)
  | suspend (sequence : SequenceKey)
  | resume (sequence : SequenceKey)
  | shutdown
  /-- Make a call, under a name or waiting for its answer. -/
  | request (name : Option String) (request : Request)
  | join (name : String)
  | serve (name : String)
  | announce (news : ShutdownNews)
  | setExecutors (executors : List (String × Option Nat))
  | closeAgenda
  | prepare (message : SequenceKey × Nat) (outcomes : List Outcome)
  | exchangeStore (store : Option Store)

/-- One move of a run. -/
inductive Move where
  | command (command : Command)
  /-- The next instruction of the ready activity at an index. -/
  | step (index : Nat)
  /-- The sleeper at an index wakes up, and is ready at a position. -/
  | rouse (index position : Nat)
  /-- Time passes until an instant. -/
  | wait (instant : Nat)
  /-- The maps of the registry come in another order, that of a roster. -/
  | reorder (roster : Roster)

namespace Service

/-- Change the registry, and start the activities that it starts. -/
def change (operation : Registry → Registry) (service : Service) : Service :=
  launch { service with world := operation service.world }

theorem apply_fst {α : Type} (operation : Registry → Registry × α) (service : Service) :
    (service.apply operation).1 = service.change fun registry => (operation registry).1 :=
  rfl

/-- A command is carried out. -/
def carryOut (service : Service) : Command → Service
  | .add message => (service.apply fun registry => registry.add service.now message).1
  | .purgeAcknowledged sequence acknowledged =>
      (service.apply fun registry => registry.purgeAcknowledged sequence acknowledged).1
  | .purgeAll sequence => (service.apply fun registry => registry.purgeAll sequence).1
  | .stop sequence => service.change fun registry => registry.stop sequence
  | .suspend sequence => service.change fun registry => registry.suspend sequence
  | .resume sequence => service.change fun registry => registry.resume service.now sequence
  | .shutdown => service.change Registry.shutdown
  | .request none request => (service.beginCall request.program).1
  | .request (some name) request => service.beginNamed name request.program
  | .join name => (service.join name).1
  | .serve name => service.beginServing name
  | .announce news => (service.announce news).1
  | .setExecutors executors => service.change fun registry => registry.setExecutors executors
  | .closeAgenda =>
      service.change fun registry => { registry with agenda := registry.agenda.close }
  | .prepare message outcomes =>
      service.change fun registry =>
        { registry with script := registry.script.prepare message outcomes }
  | .exchangeStore store => service.change fun registry => { registry with store }

/-- The service with another roster. -/
def withRoster (service : Service) (roster : Roster) : Service :=
  { service with world := { service.world with roster } }

/-- Whether a command is possible.  Only a queue of tasks is run by the caller. -/
def admits (service : Service) : Command → Bool
  | .request _ (.runDue _) => decide (service.world.driving = .byQueue)
  | _ => true

/-- The service after a move, if the move is possible. -/
def move? (service : Service) : Move → Option Service
  | .command command => if service.admits command then some (service.carryOut command) else none
  | .step index => service.stepAt behave index
  | .rouse index position => service.rouseTo index position
  | .wait instant => if service.now ≤ instant then some { service with now := instant } else none
  | .reorder roster =>
      if service.world.roster.Shuffled roster then some (service.withRoster roster) else none

theorem eq_carryOut {service after : Service} {command : Command}
    (moved : service.move? (.command command) = some after) : after = service.carryOut command := by
  simp only [move?] at moved
  split at moved
  · exact (Option.some.inj moved).symm
  · cases moved

theorem eq_wait {service after : Service} {instant : Nat}
    (moved : service.move? (.wait instant) = some after) :
    after = { service with now := instant } := by
  simp only [move?] at moved
  split at moved
  · exact (Option.some.inj moved).symm
  · cases moved

theorem eq_reorder {service after : Service} {roster : Roster}
    (moved : service.move? (.reorder roster) = some after) :
    service.world.roster.Shuffled roster ∧ after = service.withRoster roster := by
  simp only [move?] at moved
  split at moved
  · next shuffled => exact ⟨shuffled, (Option.some.inj moved).symm⟩
  · cases moved

/-- A service whose registry has its maps in another order. -/
def Shuffled (before after : Service) : Prop :=
  ∃ roster, before.world.roster.Shuffled roster ∧ after = before.withRoster roster

theorem Shuffled.refl (service : Service) : service.Shuffled service :=
  ⟨service.world.roster, .refl _, rfl⟩

theorem Shuffled.now {before after : Service} (shuffled : before.Shuffled after) :
    after.now = before.now := by
  obtain ⟨roster, _, rfl⟩ := shuffled
  rfl

theorem Shuffled.routing {before after : Service} (shuffled : before.Shuffled after) :
    after.world.routing = before.world.routing := by
  obtain ⟨roster, _, rfl⟩ := shuffled
  rfl

/-- Make moves one after the other. -/
def follow : List Move → Service → Option Service
  | [], service => some service
  | move :: rest, service => (service.move? move).bind (follow rest)

theorem follow_append (early late : List Move) (service : Service) :
    follow (early ++ late) service = (follow early service).bind (follow late) := by
  induction early generalizing service with
  | nil => rfl
  | cons move rest inductionHypothesis =>
      simp only [List.cons_append, follow]
      cases service.move? move with
      | none => rfl
      | some next => exact inductionHypothesis next

end Service

/-- The moves of a run, oldest first, lead from one service to another. -/
inductive Run (first : Service) : List Move → Service → Prop where
  | start : Run first [] first
  | extend {moves : List Move} {move : Move} {middle last : Service} :
      Run first moves middle → middle.move? move = some last →
      Run first (moves ++ [move]) last

namespace Run

/-- What holds at first and is kept by every move holds after every run. -/
theorem preserves {holds : Service → Prop} {first last : Service} {moves : List Move}
    (run : Run first moves last) (atFirst : holds first)
    (kept : ∀ {service after : Service} {move : Move},
      holds service → service.move? move = some after → holds after) : holds last := by
  induction run with
  | start => exact atFirst
  | extend _ moved inductionHypothesis => exact kept inductionHypothesis moved

theorem trans {first middle last : Service} {moves more : List Move}
    (run : Run first moves middle) (further : Run middle more last) :
    Run first (moves ++ more) last := by
  induction further with
  | start => simpa using run
  | extend _ moved inductionHypothesis =>
      rw [← List.append_assoc]
      exact inductionHypothesis.extend moved

theorem single {first last : Service} {move : Move} (moved : first.move? move = some last) :
    Run first [move] last :=
  start.extend moved

theorem of_follow {first last : Service} {moves : List Move}
    (followed : Service.follow moves first = some last) : Run first moves last := by
  induction moves generalizing first with
  | nil =>
      cases followed
      exact start
  | cons move rest inductionHypothesis =>
      rcases Option.bind_eq_some_iff.mp followed with ⟨middle, moved, restFollowed⟩
      exact (single moved).trans (inductionHypothesis restFollowed)

theorem follow_eq {first last : Service} {moves : List Move} (run : Run first moves last) :
    Service.follow moves first = some last := by
  induction run with
  | start => rfl
  | extend _ moved inductionHypothesis =>
      rw [Service.follow_append, inductionHypothesis]
      simp [Service.follow, moved]

/-- A run leads to one service only. -/
theorem unique {first last other : Service} {moves : List Move} (run : Run first moves last)
    (otherRun : Run first moves other) : last = other :=
  Option.some.inj (run.follow_eq.symm.trans otherRun.follow_eq)

/-- A run splits at each of its moves. -/
theorem split {first last : Service} {early late : List Move} {move : Move}
    (run : Run first (early ++ move :: late) last) :
    ∃ middle next, Run first early middle ∧ middle.move? move = some next ∧
      Run next late last := by
  have followed := run.follow_eq
  rw [Service.follow_append] at followed
  rcases Option.bind_eq_some_iff.mp followed with ⟨middle, earlyFollowed, rest⟩
  rcases Option.bind_eq_some_iff.mp rest with ⟨next, moved, lateFollowed⟩
  exact ⟨middle, next, of_follow earlyFollowed, moved, of_follow lateFollowed⟩

end Run

/-- A registry that nothing has happened to yet. -/
structure Registry.IsFresh (registry : Registry) : Prop where
  candidates : registry.candidates = []
  roster : registry.roster = Roster.empty
  entries : registry.agenda.entries = []
  waiting : ∀ pool ∈ registry.pools, pool.waiting = []
  resends : registry.journal.resends = []
  starting : registry.starting = []

theorem Registry.isFresh_empty (driving : Driving) : (Registry.empty driving).IsFresh where
  candidates := rfl
  roster := rfl
  entries := rfl
  waiting := by simp [Registry.empty]
  resends := rfl
  starting := rfl

/-- Executors may be set before anything happens. -/
theorem Registry.IsFresh.setExecutors {registry : Registry} (fresh : registry.IsFresh)
    (executors : List (String × Option Nat)) : (registry.setExecutors executors).IsFresh := by
  unfold Registry.setExecutors
  generalize started : { registry with routing := Executor.Routing.inlineOnly } = initial
  have initialFresh : initial.IsFresh := by
    subst started
    exact { fresh with }
  clear started
  induction executors generalizing initial with
  | nil => exact initialFresh
  | cons executor rest inductionHypothesis =>
      apply inductionHypothesis _
      obtain ⟨owner, _ | size⟩ := executor
      · exact { initialFresh with }
      · refine { initialFresh with waiting := ?_ }
        intro pool present
        rcases List.mem_append.mp present with old | new
        · exact initialFresh.waiting pool old
        · rw [List.mem_singleton.mp new]
          rfl

/-- A registry that a configuration describes is fresh. -/
theorem Registry.isFresh_build {config : Config} {store : Option Store} {registry : Registry}
    (built : Registry.build config store = .ok registry) : registry.IsFresh := by
  unfold Registry.build at built
  split at built
  · cases built
  · cases built
    have fresh := ({ Registry.isFresh_empty (Registry.drivingOf config.scheduling) with } :
      { Registry.empty (Registry.drivingOf config.scheduling) with store }.IsFresh)
    exact { fresh.setExecutors _ with }

/-- A service with a fresh registry, at the start of the clock. -/
def Service.IsInitial (service : Service) : Prop :=
  ∃ registry : Registry, registry.IsFresh ∧ service = Timeline.start registry

/-- A service that some run leads to. -/
def Service.IsReachable (service : Service) : Prop :=
  ∃ first moves, first.IsInitial ∧ Run first moves service

theorem Service.IsReachable.preserves {holds : Service → Prop} {service : Service}
    (reachable : service.IsReachable) (atFirst : ∀ {first : Service}, first.IsInitial → holds first)
    (kept : ∀ {before after : Service} {move : Move},
      holds before → before.move? move = some after → holds after) : holds service := by
  rcases reachable with ⟨first, moves, initial, run⟩
  exact run.preserves (atFirst initial) kept

/-! ## The order in which a service settles -/

namespace Service

/-- Some run leads from one service to another. -/
def Leads (first last : Service) : Prop :=
  ∃ moves, Run first moves last

theorem Leads.refl (service : Service) : service.Leads service :=
  ⟨[], .start⟩

theorem Leads.trans {first middle last : Service} (early : first.Leads middle)
    (late : middle.Leads last) : first.Leads last := by
  rcases early with ⟨_, toMiddle⟩
  rcases late with ⟨_, toLast⟩
  exact ⟨_, toMiddle.trans toLast⟩

theorem Leads.of_move {service after : Service} (move : Move)
    (moved : service.move? move = some after) : service.Leads after :=
  ⟨[move], .single moved⟩

/-- What is led to from a reachable service is reachable. -/
theorem Leads.isReachable {service after : Service} (leads : service.Leads after)
    (reachable : service.IsReachable) : after.IsReachable := by
  obtain ⟨_, further⟩ := leads
  rcases reachable with ⟨first, _, initial, run⟩
  exact ⟨first, _, initial, run.trans further⟩

/-- That the maps come in another order is a move. -/
theorem Shuffled.leads {before after : Service} (shuffled : before.Shuffled after) :
    before.Leads after := by
  obtain ⟨roster, isShuffled, rfl⟩ := shuffled
  exact .of_move (.reorder roster) (if_pos isShuffled)

/-- Steps, awakenings and the passing of time are moves. -/
theorem isPassage_leads : Timeline.IsPassage behave Leads where
  refl := .refl
  trans := .trans
  step := fun stepped => .of_move (.step _) stepped
  rouse := fun roused => .of_move (.rouse _ _) roused
  pass := fun later => .of_move (.wait _) (if_pos later)

/-- A service that settles makes steps. -/
theorem leads_settle (fuel : Nat) (service : Service) :
    service.Leads (service.settle behave fuel) :=
  isPassage_leads.settle fuel service

/-- Moving the clock lets time pass and wakes what is due. -/
theorem leads_moveTo (service : Service) (instant : Nat) :
    service.Leads (service.moveTo instant) :=
  isPassage_leads.moveTo service instant

/-- Letting time pass, with all that is due on the way, is a run. -/
theorem leads_elapse (target fuel : Nat) (service : Service) :
    service.Leads (service.elapse behave target fuel) :=
  isPassage_leads.elapse target fuel service

/-- So is waiting until something is true of the registry. -/
theorem leads_await (finished : Registry → Bool) (fuel : Nat) (service : Service) :
    service.Leads (service.await behave finished fuel) :=
  isPassage_leads.await finished fuel service

theorem leads_advance (fuel duration : Nat) (service : Service) :
    service.Leads (service.advance behave fuel duration) :=
  isPassage_leads.advance fuel duration service

theorem leads_jump (fuel duration : Nat) (service : Service) :
    service.Leads (service.jump behave fuel duration) :=
  isPassage_leads.jump fuel duration service

/-- An operation and what it sets off are a run. -/
theorem leads_act {α : Type} (fuel : Nat) (operation : Registry → Registry × α)
    {service : Service} {command : Command} (admitted : service.admits command = true)
    (carries : service.carryOut command = (service.apply operation).1) :
    service.Leads (service.act fuel operation).1 :=
  (Leads.of_move (.command command) (if_pos admitted)).trans
    (carries ▸ leads_settle fuel (service.apply operation).1)

/-- A call that is waited for, however long it takes, is a run. -/
theorem leads_request (fuel : Nat) (name : Option String) {request : Request} {service : Service}
    (admitted : service.admits (.request name request) = true) :
    service.Leads (service.request fuel name request.program).1 := by
  have begins : service.Leads (service.carryOut (.request name request)) :=
    .of_move (.command (.request name request)) (if_pos admitted)
  cases name with
  | some name => exact begins.trans (leads_settle fuel _)
  | none => exact begins.trans ((leads_await _ fuel _).trans (leads_settle fuel _))

end Service

/-! ## Sample runs -/

namespace Sample

/-- A sequence to try things with. -/
def sequence : SequenceKey :=
  ⟨"S"⟩

/-- A message of the sequence. -/
def message (number : Nat) (owner : Option String) : Message :=
  { sequence
    number
    payload := []
    destination := .address "tcp://peer"
    policy := Policy.standard
    owner }

/-- A service to begin with. -/
def service (driving : Driving) : Service :=
  Timeline.start (Registry.empty driving)

theorem isInitial_service (driving : Driving) : (service driving).IsInitial :=
  ⟨_, Registry.isFresh_empty driving, rfl⟩

end Sample

end Redelivery
