import Redelivery.Proofs.Keyed
import Redelivery.Proofs.Moves
import Redelivery.Proofs.Tending

/-!
# What the functions of a registry leave alone

No operation on messages, no timer and no resend changes how a registry is driven, which
executors there are, and which calls are under way.  A ticket that the agenda has given out is
never given out again, a transport that takes no time goes on taking none, only a registry that
is driven by timers starts activities, and one that is driven by hand asks for no timer.
-/

namespace Redelivery

/-! ## Transports that take no time -/

/-- No resend takes time. -/
def Script.IsInstant (script : Script) : Prop :=
  ∀ message outcomes, script.outcomes.find? message = some outcomes →
    ∀ outcome ∈ outcomes, outcome.takes = 0

namespace Script

theorem isInstant_empty : empty.IsInstant := by
  intro message outcomes found
  cases found

/-- Outcomes that take no time may be fixed. -/
theorem IsInstant.prepare {script : Script} (instant : script.IsInstant)
    (message : SequenceKey × Nat) {outcomes : List Outcome}
    (quick : ∀ outcome ∈ outcomes, outcome.takes = 0) :
    (script.prepare message outcomes).IsInstant := by
  intro other fixed found
  simp only [Script.prepare, Keyed.find?_put] at found
  split at found
  · cases found
    exact quick
  · exact instant other fixed found

/-- The next resend takes no time, and neither do those after it. -/
theorem IsInstant.next {script : Script} (instant : script.IsInstant)
    (message : SequenceKey × Nat) :
    (script.next message).1.takes = 0 ∧ (script.next message).2.IsInstant := by
  unfold Script.next
  split
  · exact ⟨rfl, instant⟩
  · exact ⟨rfl, instant⟩
  · next last found => exact ⟨instant message _ found last (List.mem_singleton_self _), instant⟩
  · next outcome rest _ found =>
      constructor
      · exact instant message _ found outcome List.mem_cons_self
      · apply instant.prepare message
        exact fun other present => instant message _ found other (List.mem_cons_of_mem _ present)

end Script

/-! ## Registries -/

/-- What a registry has around its messages. -/
structure Surroundings where
  routing : Executor.Routing
  driving : Driving
  pools : List (Executor.Pool Program)
  calls : Calls Answer
  listener : Option Nat

namespace Registry

/-- What a registry has around its messages. -/
def surroundings (registry : Registry) : Surroundings :=
  { routing := registry.routing
    driving := registry.driving
    pools := registry.pools
    calls := registry.calls
    listener := registry.listener }

/-- What every function that concerns messages leaves alone. -/
structure Abides (before after : Registry) : Prop where
  surroundings : after.surroundings = before.surroundings
  issues : before.agenda.Issues after.agenda
  instant : before.script.IsInstant → after.script.IsInstant
  /-- Only a timer is an activity of its own. -/
  starting : (∀ hosted, before.driving ≠ .byTimers hosted) → after.starting = before.starting
  /-- Whoever drives by hand puts nothing on the agenda. -/
  unasked : before.driving = .byHand → before.agenda.Shrinks after.agenda
  sorted : before.agenda.IsSorted → after.agenda.IsSorted
  closed : after.agenda.closed = before.agenda.closed

theorem Abides.driving {before after : Registry} (abides : before.Abides after) :
    after.driving = before.driving :=
  congrArg Surroundings.driving abides.surroundings

theorem Abides.routing {before after : Registry} (abides : before.Abides after) :
    after.routing = before.routing :=
  congrArg Surroundings.routing abides.surroundings

theorem Abides.refl (registry : Registry) : registry.Abides registry :=
  ⟨rfl, .refl _, id, fun _ => rfl, fun _ => .refl _, id, rfl⟩

theorem Abides.trans {first second third : Registry} (earlier : first.Abides second)
    (later : second.Abides third) : first.Abides third where
  surroundings := later.surroundings.trans earlier.surroundings
  issues := earlier.issues.trans later.issues
  instant := fun instant => later.instant (earlier.instant instant)
  starting := by
    intro untimed
    rw [← earlier.driving] at untimed
    rw [later.starting untimed]
    rw [earlier.driving] at untimed
    exact earlier.starting untimed
  unasked := fun byHand =>
    (earlier.unasked byHand).trans (later.unasked (earlier.driving.trans byHand))
  sorted := fun sorted => later.sorted (earlier.sorted sorted)
  closed := later.closed.trans earlier.closed

/-- A change of candidates, roster, store and journal. -/
theorem abides_of_same {before after : Registry}
    (sameSurroundings : after.surroundings = before.surroundings)
    (sameAgenda : after.agenda = before.agenda) (sameScript : after.script = before.script)
    (sameStarting : after.starting = before.starting) : before.Abides after where
  surroundings := sameSurroundings
  issues := by
    rw [sameAgenda]
    exact .refl _
  instant := fun instant => sameScript ▸ instant
  starting := fun _ => sameStarting
  unasked := by
    rw [sameAgenda]
    exact fun _ => .refl _
  sorted := fun sorted => sameAgenda ▸ sorted
  closed := congrArg Schedule.Agenda.closed sameAgenda

/-- Functions that are applied one after the other. -/
theorem abides_foldl {ι : Type} {next : Registry → ι → Registry}
    (abides : ∀ (registry : Registry) item, registry.Abides (next registry item))
    (registry : Registry)
    (items : List ι) : registry.Abides (items.foldl next registry) :=
  List.foldlRecOn items next (.refl registry) fun before earlier item _ =>
    earlier.trans (abides before item)

theorem abides_modify (registry : Registry) (identity : Nat) (change : Candidate → Candidate) :
    registry.Abides (registry.modify identity change) :=
  abides_of_same rfl rfl rfl rfl

theorem abides_report (registry : Registry) (event : Log.Event) :
    registry.Abides (registry.report event) :=
  abides_of_same rfl rfl rfl rfl

/-! ## Timers -/

/-- Tasks may be taken off the agenda. -/
theorem abides_of_shrinks {registry : Registry} {agenda : Schedule.Agenda Alarm}
    (shrinks : registry.agenda.Shrinks agenda) : registry.Abides { registry with agenda } :=
  ⟨rfl, shrinks.issues, id, fun _ => rfl, fun _ => shrinks, shrinks.isSorted, shrinks.sameClosed⟩

/-- Taking out a task that is due is like cancelling it. -/
theorem abides_takeDue {registry : Registry} {agenda : Schedule.Agenda Alarm}
    {entry : Schedule.Entry Alarm} {upTo : Nat}
    (taken : registry.agenda.takeDue? upTo = some (entry, agenda)) :
    registry.Abides { registry with agenda } :=
  abides_of_shrinks (Schedule.Agenda.shrinks_takeDue taken)

theorem abides_dropTimer (registry : Registry) (identity : Nat) :
    registry.Abides (registry.dropTimer identity) := by
  obtain ⟨agenda, drops, shrinks⟩ := registry.dropTimer_eq identity
  rw [drops]
  exact abides_of_shrinks shrinks

theorem abides_disarm (registry : Registry) (identity : Nat) :
    registry.Abides (registry.disarm identity) :=
  (abides_dropTimer registry identity).trans (abides_modify _ identity _)

theorem abides_acceptAlarm {registry accepted : Registry} {due : Nat} {alarm : Alarm}
    {ticket : Option Nat} (accepts : registry.acceptAlarm due alarm = .ok (ticket, accepted)) :
    registry.Abides accepted := by
  rcases acceptAlarm_eq_ok accepts with ⟨_, _, rfl⟩ | ⟨number, agenda, scheduled, isTicket, rfl⟩
  · exact .refl accepted
  · have notByHand (byHand : registry.driving = .byHand) : False := by
      simp only [acceptAlarm, byHand, Except.ok.injEq, Prod.mk.injEq] at accepts
      cases accepts.1.trans isTicket
    refine ⟨rfl, Schedule.Agenda.issues_schedule scheduled, id, ?_, ?_,
      fun sorted => sorted.schedule scheduled, Schedule.Agenda.closed_schedule scheduled⟩
    · intro untimed
      cases driving : registry.driving with
      | byHand => exact absurd driving notByHand
      | byQueue => exact List.append_nil _
      | byTimers hosted => exact absurd driving (untimed hosted)
    · exact fun byHand => absurd byHand notByHand

theorem abides_arm (registry : Registry) (identity due : Nat) :
    registry.Abides (registry.arm identity due) := by
  apply (abides_disarm registry identity).trans
  simp only [arm]
  split
  · exact .refl _
  · next candidate _ =>
      cases accepts : (registry.disarm identity).acceptAlarm due
          { candidate := identity, generation := candidate.generation } with
      | error refusal => exact abides_report _ _
      | ok accepted => exact (abides_acceptAlarm accepts).trans (abides_modify _ identity _)

/-! ## Resends -/

theorem abides_handOver (registry : Registry) (identity : Nat) :
    registry.Abides (registry.handOver identity).1 := by
  unfold handOver
  split
  · exact .refl registry
  · split
    · exact .refl registry
    · exact abides_modify registry identity _

theorem abides_fireTimer (registry : Registry) (alarm : Alarm) :
    registry.Abides (registry.fireTimer alarm).1 := by
  unfold fireTimer
  split
  · exact .refl registry
  · simp only
    split
    · exact abides_report registry _
    · split
      · apply Abides.trans _ (abides_handOver _ alarm.candidate)
        exact (abides_report registry _).trans (abides_modify _ alarm.candidate _)
      · exact (abides_report registry _).trans (abides_modify _ alarm.candidate _)

theorem abides_force (registry : Registry) (identity : Nat) (upTo : Option Nat) :
    registry.Abides (registry.force identity upTo).1 := by
  unfold force
  split
  · exact .refl registry
  · split
    · exact (abides_disarm registry identity).trans (abides_handOver _ identity)
    · exact .refl registry

theorem abides_beginSend (registry : Registry) (now : Nat) (job : Job) :
    registry.Abides (registry.beginSend now job).1 :=
  ⟨rfl, .refl _, fun instant => (instant.next _).2, fun _ => rfl, fun _ => .refl _, id, rfl⟩

theorem abides_completeSend (registry : Registry) (now identity : Nat) :
    registry.Abides (registry.completeSend now identity) := by
  unfold completeSend
  split
  · exact .refl registry
  · next candidate _ =>
      have updated := abides_modify registry identity fun _ => candidate.completed now
      simp only
      split
      · exact updated
      · exact updated
      · exact (updated.trans (abides_disarm _ identity)).trans (abides_report _ _)
      · exact updated.trans (abides_arm _ identity _)
      · exact (updated.trans (abides_disarm _ identity)).trans (abides_report _ _)

theorem abides_concludeSend (registry : Registry) (now : Nat) (job : Job)
    (failure : Option TransportFailure) :
    registry.Abides (registry.concludeSend now job failure) := by
  cases failure with
  | none => exact abides_completeSend registry now job.candidate
  | some failure => exact (abides_report registry _).trans (abides_completeSend _ now job.candidate)

/-! ## Operations -/

theorem abides_enroll (registry : Registry) (now : Nat) (message : Message) :
    registry.Abides (registry.enroll now message).1 := by
  have listed (candidate : Candidate) :
      registry.Abides (registry.enlist message.sequence candidate) :=
    abides_of_same rfl rfl rfl rfl
  simp only [enroll]
  split
  · exact (listed _).trans (abides_report _ _)
  · split
    · exact (listed _).trans (abides_arm _ _ _)
    · exact listed _

/-- The parts of operations abide by the surroundings. -/
theorem isUpkeep_abides : IsUpkeep Abides where
  refl := .refl
  trans := .trans
  tell _ _ := abides_of_same rfl rfl rfl rfl
  relist _ _ := abides_of_same rfl rfl rfl rfl
  exchange _ _ := abides_of_same rfl rfl rfl rfl
  finish registry _ identity :=
    (abides_dropTimer registry identity).trans (abides_modify _ identity _)
  pause registry identity :=
    (abides_dropTimer registry identity).trans (abides_modify _ identity _)

theorem abides_add (registry : Registry) (now : Nat) (message : Message) :
    registry.Abides (registry.add now message).1 :=
  isUpkeep_abides.add now message fun entered _ => abides_enroll entered now message

theorem abides_wake (registry : Registry) (now identity : Nat) :
    registry.Abides (registry.wake now identity) := by
  unfold wake
  split
  · exact .refl registry
  · split
    · exact .refl registry
    · have freed := abides_modify registry identity Candidate.unsuspend
      simp only
      split
      · exact freed
      · exact (freed.trans (abides_modify _ identity _)).trans (abides_arm _ identity now)

theorem abides_resume (registry : Registry) (now : Nat) (sequence : SequenceKey) :
    registry.Abides (registry.resume now sequence) :=
  isUpkeep_abides.resume now sequence (fun _ _ => trivial)
    (fun _ identity => abides_wake _ now identity) trivial

end Registry

theorem Service.abides_forceDue (registry : Registry) (upTo : Nat) :
    registry.Abides (forceDue registry upTo).1 :=
  forceDue_relates (fun first last => first.1.Abides last.1) registry upTo (fun _ => .refl _)
    .trans fun handed identity => Registry.abides_force handed.1 identity (some upTo)

/-! ## Moves -/

/-- Whether a command lets no pool in and no resend that takes time. -/
def Command.isPrompt : Command → Bool
  | .setExecutors executors => executors.all fun executor => executor.2.isNone
  | .prepare _ outcomes => outcomes.all fun outcome => outcome.takes == 0
  | _ => true

/-- Whether a move lets no pool in and no resend that takes time. -/
def Move.isPrompt : Move → Bool
  | .command operation => operation.isPrompt
  | .step _ | .rouse _ _ | .wait _ | .reorder _ => true

namespace Registry

/-- What every move keeps up, and what a prompt one does. -/
structure Upholds (prompt : Prop) (before after : Registry) : Prop where
  driving : after.driving = before.driving
  issues : before.agenda.Issues after.agenda
  sorted : before.agenda.IsSorted → after.agenda.IsSorted
  inline : prompt → (∀ owner, before.routing.resolve owner = .inline) →
    ∀ owner, after.routing.resolve owner = .inline
  instant : prompt → before.script.IsInstant → after.script.IsInstant

theorem Abides.upholds {before after : Registry} (abides : before.Abides after) (prompt : Prop) :
    Upholds prompt before after where
  driving := abides.driving
  issues := abides.issues
  sorted := abides.sorted
  inline := fun _ inline => abides.routing ▸ inline
  instant := fun _ => abides.instant

theorem upholds_of_same {before after : Registry} {prompt : Prop}
    (sameDriving : after.driving = before.driving) (sameAgenda : after.agenda = before.agenda)
    (sameRouting : after.routing = before.routing) (sameScript : after.script = before.script) :
    Upholds prompt before after where
  driving := sameDriving
  issues := by
    rw [sameAgenda]
    exact .refl _
  sorted := fun sorted => sameAgenda ▸ sorted
  inline := fun _ inline => sameRouting ▸ inline
  instant := fun _ instant => sameScript ▸ instant

/-- New executors leave the agenda and the transport alone; those that run inline bring no pool
in. -/
theorem upholds_setExecutors (registry : Registry) (executors : List (String × Option Nat)) :
    Upholds ((Command.setExecutors executors).isPrompt = true) registry
      (registry.setExecutors executors) := by
  have same : (registry.setExecutors executors).driving = registry.driving ∧
      (registry.setExecutors executors).agenda = registry.agenda ∧
      (registry.setExecutors executors).script = registry.script := by
    unfold setExecutors
    refine List.foldlRecOn (motive := fun changed : Registry =>
      changed.driving = registry.driving ∧ changed.agenda = registry.agenda ∧
        changed.script = registry.script)
      executors _ ⟨rfl, rfl, rfl⟩ fun former kept executor _ => ?_
    rcases executor with ⟨owner, _ | size⟩
    · exact kept
    · exact kept
  obtain ⟨sameDriving, sameAgenda, sameScript⟩ := same
  refine ⟨sameDriving, ?_, fun sorted => sameAgenda ▸ sorted, fun prompt _ => ?_,
    fun _ instant => sameScript ▸ instant⟩
  · rw [sameAgenda]
    exact .refl _
  · unfold setExecutors
    refine List.foldlRecOn (motive := fun changed : Registry =>
      ∀ owner, changed.routing.resolve owner = .inline) executors _ ?_
      fun former kept executor present => ?_
    · rintro (_ | owner) <;> rfl
    · rcases executor with ⟨registered, _ | size⟩
      · rintro (_ | owner)
        · rfl
        · have before := kept (some owner)
          simp only [Executor.Routing.resolve, Executor.Routing.register, Keyed.find?_put]
            at before ⊢
          split
          · rfl
          · exact before
      · have inlineOnly := List.all_eq_true.mp prompt _ present
        cases inlineOnly

end Registry

namespace Service

/-- Nothing but reports lies between two moments. -/
def OnlyReports (before after : Service) : Prop :=
  ∃ events, after =
    { before with
      world := { before.world with journal := { before.world.journal with events } } }

/-- A command that only reports starts nothing. -/
theorem onlyReports_change {service : Service} (unstarted : service.world.starting = [])
    {operation : Registry → Registry}
    (reports : ∃ events, operation service.world =
      { service.world with journal := { service.world.journal with events } }) :
    service.OnlyReports (service.change operation) := by
  obtain ⟨events, reports⟩ := reports
  refine ⟨events, ?_⟩
  rw [change, reports]
  exact launch_of_idle unstarted

end Service

/-- Whether an instruction leaves the pools, the calls, the listener and what is to be started to
others. -/
def Instruction.isInner : Instruction → Bool
  | .enqueue _ _ | .acquire _ | .release _ | .serve _ | .reply _ _ => false
  | .ring _ | .send _ | .conclude _ _ | .driveDue _ _ | .attempt _ _ _ | .runDue _ _ _ | .hear _
  | .leave _ => true

namespace Service

theorem abides_perform (service : Service) {instruction : Instruction}
    (inner : instruction.isInner = true) (rest : Program) :
    service.world.Abides (perform instruction rest service).1.world := by
  cases instruction with
  | enqueue _ _ | acquire _ | release _ | serve _ | reply _ _ => cases inner
  | ring ticket =>
      simp only [perform, ring]
      split
      · exact Registry.Abides.refl _
      · next entry _ =>
          split
          · have taken : service.world.Abides
                { service.world with agenda := service.world.agenda.cancel ticket } :=
              Registry.abides_of_shrinks (Schedule.Agenda.shrinks_cancel _ ticket)
            exact taken.trans (Registry.abides_fireTimer _ entry.task)
          · exact Registry.Abides.refl _
  | send job =>
      simp only [perform, send]
      split
      · have begun := service.world.abides_beginSend service.now job
        split
        · exact begun.trans (Registry.abides_concludeSend _ service.now job _)
        · exact begun
      · exact Registry.abides_modify _ _ _
  | conclude job failure => exact service.world.abides_concludeSend service.now job failure
  | driveDue upTo call =>
      exact (service.world.abides_report (.enter "drive_due")).trans (abides_forceDue _ upTo)
  | attempt sequence number call =>
      simp only [perform, attempt]
      split
      · exact Registry.Abides.refl _
      · next identity _ => exact service.world.abides_force identity none
  | runDue upTo ran call =>
      simp only [perform, runDue]
      split
      · exact Registry.Abides.refl _
      · next entry agenda taken =>
          exact (Registry.abides_takeDue taken).trans (Registry.abides_fireTimer _ entry.task)
  | hear news => exact (service.world.abides_report _).trans (Registry.isUpkeep_abides.shutdown _)
  | leave operation => exact service.world.abides_report _

/-- Whatever is done next keeps the agenda in order, and brings nothing in. -/
theorem upholds_perform (service : Service) (instruction : Instruction) (rest : Program)
    (prompt : Prop) :
    Registry.Upholds prompt service.world (perform instruction rest service).1.world := by
  cases inner : instruction.isInner with
  | true => exact (service.abides_perform inner rest).upholds prompt
  | false =>
      cases instruction with
      | release pool =>
          simp only [perform, release, proceed]
          cases (Executor.Pool.releaseAt service.world.pools pool).2 <;>
            exact Registry.upholds_of_same rfl rfl rfl rfl
      | enqueue _ _ | acquire _ | serve _ | reply _ _ =>
          exact Registry.upholds_of_same rfl rfl rfl rfl
      | ring _ | send _ | conclude _ _ | driveDue _ _ | attempt _ _ _ | runDue _ _ _ | hear _
      | leave _ => cases inner

theorem upholds_change {service : Service} {prompt : Prop} (operation : Registry → Registry)
    (upholds : Registry.Upholds prompt service.world (operation service.world)) :
    Registry.Upholds prompt service.world (service.change operation).world := by
  rw [change, world_launch]
  exact ⟨upholds.driving, upholds.issues, upholds.sorted, upholds.inline, upholds.instant⟩

/-- An operation on messages changes the registry, and abides by its surroundings. -/
theorem exists_change (service : Service) {command : Command}
    (operation : command.isQuiet = false) :
    ∃ changes : Registry → Registry, service.carryOut command = service.change changes ∧
      service.world.Abides (changes service.world) :=
  Registry.isUpkeep_abides.exists_change service operation
    (Registry.abides_add _ _) (Registry.abides_resume _ _)

/-- Commands keep the agenda in order; only new executors and new outcomes may bring something
in. -/
theorem upholds_carryOut (service : Service) (command : Command) :
    Registry.Upholds (command.isPrompt = true) service.world (service.carryOut command).world := by
  have operates (operation : command.isQuiet = false) :
      Registry.Upholds (command.isPrompt = true) service.world
        (service.carryOut command).world := by
    obtain ⟨changes, after, abides⟩ := service.exists_change operation
    rw [after]
    exact upholds_change changes (abides.upholds _)
  cases command with
  | add _ | purgeAcknowledged _ _ | purgeAll _ | stop _ | suspend _ | resume _ | shutdown =>
      exact operates rfl
  | request name request => cases name <;> exact Registry.upholds_of_same rfl rfl rfl rfl
  | join name => exact Registry.upholds_of_same rfl rfl rfl rfl
  | serve name =>
      simp only [carryOut, beginServing, announce]
      split <;> exact Registry.upholds_of_same rfl rfl rfl rfl
  | announce news =>
      simp only [carryOut, announce]
      split <;> exact Registry.upholds_of_same rfl rfl rfl rfl
  | setExecutors executors =>
      exact upholds_change (Registry.setExecutors · executors)
        (service.world.upholds_setExecutors executors)
  | closeAgenda =>
      have closes : service.world.agenda.Issues service.world.agenda.close :=
        ⟨Nat.le_refl _, fun _ => .inl, fun closed => ⟨List.Sublist.refl _, rfl, closed.symm⟩⟩
      exact upholds_change (fun registry => { registry with agenda := registry.agenda.close })
        ⟨rfl, closes, id, fun _ => id, fun _ => id⟩
  | prepare message outcomes =>
      refine upholds_change (fun registry =>
        { registry with script := registry.script.prepare message outcomes })
        ⟨rfl, .refl _, id, fun _ => id, fun prompt instant => ?_⟩
      apply instant.prepare message
      intro outcome present
      exact eq_of_beq (List.all_eq_true.mp prompt outcome present)
  | exchangeStore store =>
      exact upholds_change (fun registry => { registry with store })
        (Registry.upholds_of_same rfl rfl rfl rfl)

theorem upholds_move {service after : Service} {move : Move}
    (moved : service.move? move = some after) :
    Registry.Upholds (move.isPrompt = true) service.world after.world := by
  cases move with
  | command command =>
      obtain rfl := eq_carryOut moved
      exact upholds_carryOut service command
  | step index =>
      obtain ⟨_, _, _, others, sameWorld, _, _, went⟩ := stepAt_eq_some moved
      rw [← sameWorld]
      rcases went with ⟨_, rfl⟩ | ⟨instruction, rest, middle, _, isMiddle, world, _⟩
      · exact Registry.upholds_of_same rfl rfl rfl rfl
      · rw [world, isMiddle]
        have upholds := upholds_perform others instruction rest (Move.isPrompt (.step index) = true)
        exact ⟨upholds.driving, upholds.issues, upholds.sorted, upholds.inline, upholds.instant⟩
  | rouse index position =>
      obtain ⟨_, sameWorld⟩ := Timeline.rouseTo_eq_some moved
      rw [sameWorld]
      exact Registry.upholds_of_same rfl rfl rfl rfl
  | wait instant =>
      obtain rfl := eq_wait moved
      exact Registry.upholds_of_same rfl rfl rfl rfl
  | reorder roster =>
      obtain ⟨_, rfl⟩ := eq_reorder moved
      exact Registry.upholds_of_same rfl rfl rfl rfl

/-- In every reachable service the tasks wait in the order of their instants. -/
theorem IsReachable.isSorted {service : Service} (reachable : service.IsReachable) :
    service.world.agenda.IsSorted := by
  refine reachable.preserves (fun initial => ?_)
    fun sorted moved => (upholds_move moved).sorted sorted
  obtain ⟨registry, fresh, rfl⟩ := initial
  have noEntry : (Timeline.start registry : Service).world.agenda.entries = [] := fresh.entries
  rw [Schedule.Agenda.IsSorted, noEntry]
  exact .nil

end Service

end Redelivery
