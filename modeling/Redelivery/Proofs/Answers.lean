import Mathlib.Logic.Relation
import Redelivery.Proofs.Surroundings

/-!
# The answers to calls

A call gets a number of its own, and the program that is started for it is the only one that
bears the number.  Instructions pass the number on to instructions, and the listener keeps it for a
while, until somebody replies.  So once all that is left to be said of a call is one reply, the call
is never answered in another way.
-/

namespace Redelivery

/-- The call that an instruction has something to say of. -/
def Instruction.call? : Instruction → Option Nat
  | .driveDue _ call | .attempt _ _ call | .runDue _ _ call | .serve call | .reply call _ =>
      some call
  | .ring _ | .send _ | .conclude _ _ | .enqueue _ _ | .acquire _ | .release _ | .hear _
  | .leave _ => none

/-- Whether an instruction has another one say something of its call. -/
def Instruction.Prompts (instruction : Instruction) (call : Nat) : Prop :=
  instruction.call? = some call ∧ ∀ answer, instruction ≠ .reply call answer

theorem call?_delivery {routing : Executor.Routing} {job : Job} {instruction : Instruction}
    (present : instruction ∈ Registry.delivery routing job) : instruction.call? = none := by
  unfold Registry.delivery at present
  split at present <;> rw [List.mem_singleton.mp present] <;> rfl

/-- An instruction that says something of a call is in no activity of a timer. -/
theorem mem_apartFromRings {programs : Multiset Program} {program : Program}
    (present : program ∈ programs) {instruction : Instruction} (among : instruction ∈ program)
    {call : Nat} (speaks : instruction.call? = some call) : program ∈ apartFromRings programs := by
  refine Multiset.mem_filter.mpr ⟨present, ?_⟩
  unfold isRing
  split
  · rw [List.mem_singleton.mp among] at speaks
    cases speaks
  · rfl

namespace Service

/-! ## What an instruction passes on -/

/-- Whatever is said of a call after an instruction was to be said before, or the instruction has
it said. -/
def PassesOn (service : Service) (instruction : Instruction) (rest : Program)
    (result : Service × Pace Instruction) : Prop :=
  ∀ program ∈ result.2.programs + result.1.world.outline.programs, ∀ next ∈ program, ∀ call,
    next.call? = some call →
    next ∈ rest ∨ (∃ held ∈ service.world.outline.programs, next ∈ held) ∨
      instruction.Prompts call

variable {service : Service} {instruction : Instruction} {rest : Program}

/-- An instruction that puts others before the rest of its program. -/
theorem passesOn_of_front {result : Service × Pace Instruction} (front : Program)
    (same : result.1.world.outline.programs = service.world.outline.programs)
    (goesOn : ∀ program ∈ result.2.programs, program = front ++ rest)
    (prompts : ∀ next ∈ front, ∀ call, next.call? = some call → instruction.Prompts call) :
    service.PassesOn instruction rest result := by
  intro program present next among call speaks
  rcases Multiset.mem_add.mp present with goes | stays
  · rw [goesOn program goes] at among
    rcases List.mem_append.mp among with isNew | old
    · exact .inr (.inr (prompts next isNew call speaks))
    · exact .inl old
  · exact .inr (.inl ⟨program, same ▸ stays, among⟩)

theorem passesOn_proceed {registry : Registry} (front : Program)
    (same : registry.outline.programs = service.world.outline.programs)
    (prompts : ∀ next ∈ front, ∀ call, next.call? = some call → instruction.Prompts call) :
    service.PassesOn instruction rest (service.proceed registry (front ++ rest)) :=
  passesOn_of_front front same (fun _ => Multiset.mem_singleton.mp) prompts

/-- An instruction that goes on with the rest of its program. -/
theorem passesOn_rest {registry : Registry}
    (same : registry.outline.programs = service.world.outline.programs) :
    service.PassesOn instruction rest (service.proceed registry rest) :=
  passesOn_proceed [] same fun _ among => absurd among List.not_mem_nil

/-- Delivering a job says nothing of a call. -/
theorem passesOn_pursue {handed : Registry × Option Job}
    {routing : Candidate → Executor.Routing} (front : Program)
    (keeps : service.world.outline.Keeps handed.1.outline)
    (prompts : ∀ next ∈ front, ∀ call, next.call? = some call → instruction.Prompts call) :
    service.PassesOn instruction rest (service.pursue handed routing (front ++ rest)) := by
  simp only [pursue]
  split
  · exact passesOn_proceed front keeps.programs prompts
  · next job _ =>
      split
      · exact passesOn_proceed front keeps.programs prompts
      · next candidate _ =>
          rw [← List.append_assoc]
          refine passesOn_proceed _ keeps.programs fun next among call speaks => ?_
          rcases List.mem_append.mp among with delivers | fronts
          · rw [call?_delivery delivers] at speaks
            cases speaks
          · exact prompts next fronts call speaks

theorem passesOn_pursue_rest {handed : Registry × Option Job}
    {routing : Candidate → Executor.Routing}
    (keeps : service.world.outline.Keeps handed.1.outline) :
    service.PassesOn instruction rest (service.pursue handed routing rest) := by
  have pursues : service.PassesOn instruction rest (service.pursue handed routing ([] ++ rest)) :=
    passesOn_pursue [] keeps fun _ among => absurd among List.not_mem_nil
  rw [List.nil_append] at pursues
  exact pursues

theorem passesOn_retire {after : Service}
    (same : after.world.outline.programs = service.world.outline.programs) :
    service.PassesOn instruction rest (after, .retire) :=
  passesOn_of_front [] same (fun _ present => absurd present (Multiset.notMem_zero _))
    fun _ among => absurd among List.not_mem_nil

/-- An instruction that waits, and says nothing of a call. -/
theorem passesOn_sleep {after : Service} {instant : Nat} {next : Instruction}
    (same : after.world.outline.programs = service.world.outline.programs)
    (silent : next.call? = none) :
    service.PassesOn instruction rest (after, .sleepUntil instant (next :: rest)) := by
  refine passesOn_of_front [next] same (fun _ => Multiset.mem_singleton.mp) ?_
  intro other among call speaks
  rw [List.mem_singleton.mp among, silent] at speaks
  cases speaks

/-- An instruction that says something of its call, and is no reply, may have another one do so. -/
theorem prompts_of_replies {next : Instruction} {call : Nat}
    (isCause : instruction.call? = some call)
    (notReply : ∀ answer, instruction ≠ .reply call answer)
    (isNext : next.call? = some call) :
    ∀ other ∈ [next], ∀ said, other.call? = some said → instruction.Prompts said := by
  intro other among said speaks
  rw [List.mem_singleton.mp among, isNext] at speaks
  cases speaks
  exact ⟨isCause, notReply⟩

theorem passesOn_ring (service : Service) (ticket : Nat) (rest : Program) :
    service.PassesOn (.ring ticket) rest (service.ring ticket rest) := by
  unfold ring
  split
  · exact passesOn_retire rfl
  · next entry _ =>
      split
      · have hands := Registry.hands_fireTimer
          { service.world with agenda := service.world.agenda.cancel ticket } entry.task
        exact passesOn_pursue_rest hands.keeps
      · exact passesOn_sleep rfl rfl

theorem passesOn_send (service : Service) (job : Job) (rest : Program) :
    service.PassesOn (.send job) rest (service.send job rest) := by
  unfold send
  split
  · simp only
    split
    · refine passesOn_rest ?_
      rw [Registry.outline_concludeSend, Registry.outline_beginSend]
      rfl
    · refine passesOn_sleep ?_ rfl
      rw [Registry.outline_beginSend]
      rfl
  · refine passesOn_rest ?_
    rw [Registry.outline_abandonSend]
    rfl

theorem passesOn_enqueue (service : Service) (pool : Nat) (job : Job) (rest : Program) :
    service.PassesOn (.enqueue pool job) rest
      (service.proceed (service.world.start [.acquire pool, .send job, .release pool]) rest) := by
  intro program present next among call speaks
  rcases Multiset.mem_add.mp present with goes | held
  · rw [Multiset.mem_singleton.mp goes] at among
    exact .inl among
  · simp only [proceed, Registry.outline_start, Outline.withPrograms] at held
    rcases Multiset.mem_add.mp held with started | stays
    · rw [Multiset.mem_singleton.mp (Multiset.mem_of_mem_filter started)] at among
      simp only [List.mem_cons, List.not_mem_nil, or_false] at among
      rcases among with rfl | rfl | rfl <;> cases speaks
    · exact .inr (.inl ⟨program, stays, among⟩)

theorem passesOn_acquire (service : Service) (pool : Nat) (rest : Program) :
    service.PassesOn (.acquire pool) rest (service.acquire pool rest) := by
  intro program present next among call speaks
  have here : program ∈ ({rest} : Multiset Program) + service.world.held := by
    rw [← programs_acquire service pool rest]
    rcases Multiset.mem_add.mp present with goes | stays
    · exact Multiset.mem_add.mpr (.inl goes)
    · exact Multiset.mem_add.mpr (.inr (Multiset.mem_of_mem_filter stays))
  rcases Multiset.mem_add.mp here with goes | held
  · rw [Multiset.mem_singleton.mp goes] at among
    exact .inl among
  · exact .inr (.inl ⟨program, mem_apartFromRings held among speaks, among⟩)

theorem passesOn_driveDue (service : Service) (upTo call : Nat) (rest : Program) :
    service.PassesOn (.driveDue upTo call) rest (service.driveDue upTo call rest) := by
  have same := (keeps_forceDue (service.world.report (.enter "drive_due")) upTo).programs
  rw [Registry.outline_report] at same
  unfold driveDue
  generalize forceDue (service.world.report (.enter "drive_due")) upTo = handed at same
  obtain ⟨forced, jobs⟩ := handed
  refine passesOn_of_front (jobs.flatMap (Registry.delivery forced.routing) ++
    [.leave "drive_due", .reply call (.count jobs.length)]) same (fun program goes => ?_) ?_
  · rw [Multiset.mem_singleton.mp goes, List.append_assoc]
    rfl
  · intro next among said speaks
    rcases List.mem_append.mp among with delivers | ends
    · obtain ⟨job, _, delivery⟩ := List.mem_flatMap.mp delivers
      rw [call?_delivery delivery] at speaks
      cases speaks
    · rcases List.mem_cons.mp ends with rfl | replies
      · cases speaks
      · exact prompts_of_replies rfl (fun _ => Instruction.noConfusion) rfl next replies said speaks

/-- No instruction has more said of a call than it was to say itself. -/
theorem passesOn_perform (service : Service) (instruction : Instruction) (rest : Program) :
    service.PassesOn instruction rest (perform instruction rest service) := by
  cases instruction with
  | ring ticket => exact passesOn_ring service ticket rest
  | send job => exact passesOn_send service job rest
  | conclude job failure =>
      refine passesOn_rest ?_
      rw [Registry.outline_concludeSend]
      rfl
  | enqueue pool job => exact passesOn_enqueue service pool job rest
  | acquire pool => exact passesOn_acquire service pool rest
  | release pool =>
      exact passesOn_rest (congrArg Outline.programs (outline_release service pool rest))
  | driveDue upTo call => exact passesOn_driveDue service upTo call rest
  | attempt sequence number call =>
      simp only [perform, attempt]
      split
      · exact passesOn_proceed [_] rfl
          (prompts_of_replies rfl (fun _ => Instruction.noConfusion) rfl)
      · exact passesOn_pursue [_] (service.world.hands_force _ none).keeps
          (prompts_of_replies rfl (fun _ => Instruction.noConfusion) rfl)
  | runDue upTo ran call =>
      simp only [perform, runDue]
      split
      · exact passesOn_proceed [_] rfl
          (prompts_of_replies rfl (fun _ => Instruction.noConfusion) rfl)
      · next entry agenda _ =>
          exact passesOn_pursue [_] (Registry.hands_fireTimer { service.world with agenda }
            entry.task).keeps (prompts_of_replies rfl (fun _ => Instruction.noConfusion) rfl)
  | serve call =>
      have same := (Registry.outline_report (service.world.report (.enter "serve"))
        (.engine .trace "Retransmission registry serving")).trans
          (service.world.outline_report (.enter "serve"))
      exact passesOn_retire (congrArg Outline.programs same)
  | hear news =>
      refine passesOn_rest ?_
      rw [Registry.outline_shutdown]
      rfl
  | leave operation =>
      have same := service.world.outline_report (.leave operation)
      exact passesOn_rest (congrArg Outline.programs same)
  | reply call answer =>
      have same : (service.world.reply call answer).outline = service.world.outline := rfl
      exact passesOn_rest (congrArg Outline.programs same)

/-- Only a reply answers a call. -/
theorem calls_perform (service : Service) (instruction : Instruction) (rest : Program) :
    (perform instruction rest service).1.world.calls = service.world.calls ∨
      ∃ call answer, instruction = .reply call answer ∧
        (perform instruction rest service).1.world.calls =
          service.world.calls.reply call answer := by
  cases inner : instruction.isInner with
  | true =>
      have abides := service.abides_perform inner rest
      exact .inl (congrArg Surroundings.calls abides.surroundings)
  | false =>
      cases instruction with
      | reply call answer => exact .inr ⟨call, answer, rfl, rfl⟩
      | release pool =>
          simp only [perform, release, proceed]
          cases (Executor.Pool.releaseAt service.world.pools pool).2 <;> exact .inl rfl
      | enqueue _ _ | acquire _ | serve _ => exact .inl rfl
      | ring _ | send _ | conclude _ _ | driveDue _ _ | attempt _ _ _ | runDue _ _ _ | hear _
      | leave _ => cases inner

/-! ## What a move passes on -/

/-- Whether some instruction of a service is to say something of a call. -/
def Mentions (service : Service) (instruction : Instruction) : Prop :=
  ∃ program ∈ service.programs, instruction ∈ program

/-- What is said of calls at a later moment was to be said before, is of a new call, or is the
answer to one that served. -/
structure Relays (before after : Service) : Prop where
  mentions : ∀ instruction call, after.Mentions instruction → instruction.call? = some call →
    before.Mentions instruction ∨
      (∃ cause, before.Mentions cause ∧ cause.Prompts call) ∨
      instruction = .reply call .served ∨
      before.world.calls.answers.length ≤ call ∧ call < after.world.calls.answers.length
  made : before.world.calls.answers.length ≤ after.world.calls.answers.length
  answers : ∀ call < before.world.calls.answers.length,
    after.world.calls.answer? call = before.world.calls.answer? call ∨
      ∃ answer, before.Mentions (.reply call answer) ∧
        after.world.calls.answer? call = some answer

/-- A change that leaves the programs and the answers alone. -/
theorem relays_of_same {before after : Service}
    (samePrograms : after.outline.programs = before.outline.programs)
    (sameAnswers : after.world.calls.answers = before.world.calls.answers) :
    before.Relays after where
  mentions := by
    rintro instruction call ⟨program, present, among⟩ speaks
    have apart := mem_apartFromRings present among speaks
    rw [← programs_outline, samePrograms, programs_outline] at apart
    exact .inl ⟨program, Multiset.mem_of_mem_filter apart, among⟩
  made := Nat.le_of_eq (by rw [sameAnswers])
  answers := fun call _ => .inl (by rw [Calls.answer?, sameAnswers, Calls.answer?])

/-- What is said of calls after a step was to be said before, or the instruction has it said. -/
theorem mentions_stepAt {service after : Service} {index : Nat}
    (stepped : service.stepAt behave index = some after) {next : Instruction} {call : Nat}
    (mentioned : after.Mentions next) (speaks : next.call? = some call) :
    service.Mentions next ∨ ∃ cause, service.Mentions cause ∧ cause.Prompts call := by
  obtain ⟨other, present, among⟩ := mentioned
  obtain ⟨program, _, _, others, _, _, before, went⟩ := stepAt_eq_some stepped
  have wasMentioned {instruction : Instruction} {other : Program}
      (present : other ∈ others.programs) (among : instruction ∈ other) :
      service.Mentions instruction :=
    ⟨other, before ▸ Multiset.mem_cons_of_mem present, among⟩
  rcases went with ⟨rfl, rfl⟩ | ⟨instruction, rest, middle, rfl, isMiddle, _, programs⟩
  · exact .inl (wasMentioned present among)
  · have own {next : Instruction} (among : next ∈ instruction :: rest) : service.Mentions next :=
      ⟨_, before ▸ Multiset.mem_cons_self _ _, among⟩
    have passed (isHere : other ∈ (perform instruction rest others).2.programs +
        (perform instruction rest others).1.world.outline.programs) :
        service.Mentions next ∨ ∃ cause, service.Mentions cause ∧ cause.Prompts call := by
      rcases passesOn_perform others instruction rest other isHere next among call speaks with
        inRest | ⟨held, isHeld, inHeld⟩ | prompts
      · exact .inl (own (List.mem_cons_of_mem _ inRest))
      · exact .inl (wasMentioned
          (Multiset.mem_add.mpr (.inr (Multiset.mem_of_mem_filter isHeld))) inHeld)
      · exact .inr ⟨instruction, own List.mem_cons_self, prompts⟩
    rw [programs] at present
    rcases Multiset.mem_add.mp present with goes | stays
    · exact passed (Multiset.mem_add.mpr (.inl goes))
    · rw [isMiddle] at stays
      rcases Multiset.mem_add.mp stays with runs | held
      · exact .inl (wasMentioned (Multiset.mem_add.mpr (.inl runs)) among)
      · exact passed (Multiset.mem_add.mpr (.inr (mem_apartFromRings held among speaks)))

/-- Only a reply that was to be given answers a call in a step. -/
theorem calls_stepAt {service after : Service} {index : Nat}
    (stepped : service.stepAt behave index = some after) :
    after.world.calls = service.world.calls ∨
      ∃ call answer, service.Mentions (.reply call answer) ∧
        after.world.calls = service.world.calls.reply call answer := by
  obtain ⟨program, _, _, others, sameWorld, _, before, went⟩ := stepAt_eq_some stepped
  rcases went with ⟨rfl, rfl⟩ | ⟨instruction, rest, middle, rfl, isMiddle, world, _⟩
  · exact .inl (by rw [sameWorld])
  · have calls : after.world.calls = (perform instruction rest others).1.world.calls := by
      rw [world, isMiddle]
    rw [calls, ← sameWorld]
    rcases calls_perform others instruction rest with same | ⟨call, answer, rfl, replies⟩
    · exact .inl same
    · exact .inr ⟨call, answer, ⟨_, before ▸ Multiset.mem_cons_self _ _, List.mem_cons_self⟩,
        replies⟩

/-- A step of an activity. -/
theorem relays_step {service after : Service} {index : Nat}
    (stepped : service.stepAt behave index = some after) : service.Relays after := by
  have calls := calls_stepAt stepped
  constructor
  case mentions =>
    intro next call mentioned speaks
    rcases mentions_stepAt stepped mentioned speaks with old | prompted
    · exact .inl old
    · exact .inr (.inl prompted)
  case made =>
    rcases calls with same | ⟨_, _, _, replies⟩
    · rw [same]
    · rw [replies]
      exact Nat.le_of_eq (List.length_set).symm
  case answers =>
    intro call isMade
    rcases calls with same | ⟨answered, answer, mentioned, replies⟩
    · exact .inl (by rw [same])
    · rw [replies]
      by_cases isOwn : answered = call
      · subst isOwn
        exact .inr ⟨answer, mentioned, Calls.answer?_reply_self isMade answer⟩
      · exact .inl (Calls.answer?_reply_of_ne isOwn _ _)

/-- A program is started for a new call. -/
theorem relays_begun {before after : Service} {program : Program}
    (running : after.running = program ::ₘ before.running)
    (sameHeld : after.world.held = before.world.held)
    (fresh : ∀ instruction ∈ program, ∀ call, instruction.call? = some call →
      call = before.world.calls.answers.length)
    (answers : after.world.calls.answers = before.world.calls.answers ++ [none]) :
    before.Relays after where
  mentions := by
    rintro instruction call ⟨other, present, among⟩ speaks
    rw [programs, running, sameHeld, Multiset.cons_add] at present
    rcases Multiset.mem_cons.mp present with rfl | old
    · obtain rfl := fresh instruction among call speaks
      exact .inr (.inr (.inr ⟨Nat.le_refl _, by simp [answers]⟩))
    · exact .inl ⟨other, old, among⟩
  made := by simp [answers]
  answers := by
    intro call isMade
    refine .inl ?_
    simp only [Calls.answer?, answers]
    rw [List.getElem?_append_left isMade]

theorem call?_request {request : Request} {number : Nat} {instruction : Instruction}
    (present : instruction ∈ request.program number) : instruction.call? = some number := by
  cases request <;> rw [List.mem_singleton.mp present] <;> rfl

/-- A request speaks of its own call. -/
theorem eq_of_mem_request {request : Request} {number : Nat} {instruction : Instruction}
    (present : instruction ∈ request.program number) {call : Nat}
    (speaks : instruction.call? = some call) : call = number :=
  Option.some.inj (speaks.symm.trans (call?_request present))

theorem relays_beginNamed (service : Service) (name : String) {program : Nat → Program}
    (own : ∀ number, ∀ instruction ∈ program number, ∀ call, instruction.call? = some call →
      call = number) : service.Relays (service.beginNamed name program) :=
  relays_begun (Timeline.running_spawn _ _) rfl (own _) rfl

/-- The news about a signal goes to whoever listens. -/
theorem relays_announce (service : Service) (news : ShutdownNews) :
    service.Relays (service.announce news).1 := by
  unfold announce
  split
  · exact relays_of_same rfl rfl
  · next call _ =>
      refine ⟨?_, Nat.le_refl _, fun _ _ => .inl rfl⟩
      rintro instruction said ⟨program, present, among⟩ speaks
      have running := Timeline.running_spawn (service.mapWorld fun registry =>
        { registry with listener := none }) [.hear news, .leave "serve", .reply call .served]
      rw [programs, running, Multiset.cons_add] at present
      rcases Multiset.mem_cons.mp present with rfl | old
      · simp only [List.mem_cons, List.not_mem_nil, or_false] at among
        rcases among with rfl | rfl | rfl
        · cases speaks
        · cases speaks
        · cases speaks
          exact .inr (.inr (.inl rfl))
      · exact .inl ⟨program, old, among⟩

/-- New executors leave the calls alone. -/
theorem calls_setExecutors (registry : Registry) (executors : List (String × Option Nat)) :
    (registry.setExecutors executors).calls = registry.calls := by
  unfold Registry.setExecutors
  refine List.foldlRecOn (motive := fun changed : Registry => changed.calls = registry.calls)
    executors _ rfl fun former kept executor _ => ?_
  rcases executor with ⟨owner, _ | size⟩
  · exact kept
  · exact kept

/-- An operation on messages leaves the programs alone. -/
theorem programs_carryOut (service : Service) {command : Command}
    (operation : command.isQuiet = false) :
    (service.carryOut command).outline.programs = service.outline.programs := by
  cases command with
  | add message =>
      rw [outline_add]
      split <;> rfl
  | purgeAcknowledged sequence acknowledged =>
      rw [outline_purgeAcknowledged]
      split <;> rfl
  | purgeAll sequence => rw [outline_purgeAll, Outline.modifyAll]
  | stop sequence => rw [outline_stop, Outline.modifyAll]
  | suspend sequence => rw [outline_suspend, Outline.modifyAll]
  | resume sequence =>
      rw [outline_resume]
      split
      · rw [Outline.modifyAll]
      · rfl
  | shutdown => rw [outline_shutdown, Outline.modifyAll]
  | request _ _ | join _ | serve _ | announce _ | setExecutors _ | closeAgenda
  | prepare _ _ | exchangeStore _ => cases operation

/-- Commands begin calls, and pass the news on. -/
theorem relays_carryOut (service : Service) (command : Command) :
    Relation.ReflTransGen Relays service (service.carryOut command) := by
  have operates (operation : command.isQuiet = false) :
      Relation.ReflTransGen Relays service (service.carryOut command) := by
    obtain ⟨changes, after, abides⟩ := service.exists_change operation
    refine .single (relays_of_same (service.programs_carryOut operation) ?_)
    rw [after, change, world_launch]
    exact congrArg (fun surroundings => surroundings.calls.answers) abides.surroundings
  have settles (changes : Registry → Registry)
      (same : (changes service.world).outline = service.world.outline)
      (sameCalls : (changes service.world).calls = service.world.calls) :
      Relation.ReflTransGen Relays service (service.change changes) := by
    refine .single (relays_of_same (congrArg Outline.programs (outline_change_of_same same)) ?_)
    rw [change, world_launch]
    exact congrArg Calls.answers sameCalls
  cases command with
  | add _ | purgeAcknowledged _ _ | purgeAll _ | stop _ | suspend _ | resume _ | shutdown =>
      exact operates rfl
  | request name request =>
      cases name with
      | none =>
          exact .single (relays_begun (Timeline.running_call _ _) rfl
            (fun _ present _ => eq_of_mem_request present) rfl)
      | some name =>
          exact .single (relays_beginNamed service name fun _ _ present _ =>
            eq_of_mem_request present)
  | join name =>
      refine .single (relays_of_same rfl ?_)
      change (service.world.calls.join name).2.answers = service.world.calls.answers
      unfold Calls.join
      split
      · rfl
      · split <;> rfl
  | serve name =>
      have own (number : Nat) : ∀ instruction ∈ ([.serve number] : Program), ∀ call,
          instruction.call? = some call → call = number := by
        intro instruction present call speaks
        rw [List.mem_singleton.mp present] at speaks
        exact (Option.some.inj speaks).symm
      exact .tail (.single (relays_announce service .closed))
        (relays_beginNamed (service.announce .closed).1 name own)
  | announce news => exact .single (relays_announce service news)
  | setExecutors executors =>
      exact settles (Registry.setExecutors · executors)
        (outline_setExecutors service.world executors) (calls_setExecutors service.world executors)
  | closeAgenda =>
      exact settles (fun registry => { registry with agenda := registry.agenda.close }) rfl rfl
  | prepare message outcomes =>
      exact settles (fun registry =>
        { registry with script := registry.script.prepare message outcomes }) rfl rfl
  | exchangeStore store => exact settles (fun registry => { registry with store }) rfl rfl

/-- Whatever moves, what is said of calls is passed on. -/
theorem relays_move {service after : Service} {move : Move}
    (moved : service.move? move = some after) : Relation.ReflTransGen Relays service after := by
  cases move with
  | command command =>
      obtain rfl := eq_carryOut moved
      exact relays_carryOut service command
  | step index => exact .single (relays_step moved)
  | rouse index position =>
      obtain ⟨_, sameWorld⟩ := Timeline.rouseTo_eq_some moved
      exact .single (relays_of_same (congrArg Outline.programs (outline_rouseTo moved))
        (by rw [sameWorld]))
  | wait instant =>
      obtain rfl := eq_wait moved
      exact .single (relays_of_same rfl rfl)
  | reorder roster =>
      obtain ⟨_, rfl⟩ := eq_reorder moved
      exact .single (relays_of_same rfl rfl)

/-- What is kept by relaying is kept by every run. -/
theorem holds_run_of_relays (holds : Service → Prop) {first last : Service} {moves : List Move}
    (kept : ∀ before after : Service, before.Relays after → holds before → holds after)
    (atFirst : holds first) (run : Run first moves last) : holds last := by
  refine run.preserves atFirst fun {service after move} held moved => ?_
  exact Relation.ReflTransGen.rec held (fun _ relays holding => kept _ _ relays holding)
    (relays_move moved)

/-! ## Calls in the course of a run -/

/-- Nothing is said of a call before it is made, except that whoever has served learns that the
wait is over. -/
def IsNumbered (service : Service) : Prop :=
  ∀ instruction call, service.Mentions instruction → instruction.call? = some call →
    call < service.world.calls.answers.length ∨ instruction = .reply call .served

theorem Relays.isNumbered {before after : Service} (relays : before.Relays after)
    (numbered : before.IsNumbered) : after.IsNumbered := by
  intro instruction call mentioned speaks
  rcases relays.mentions instruction call mentioned speaks with
    old | ⟨cause, old, causes, notReply⟩ | served | ⟨_, isMade⟩
  · exact (numbered instruction call old speaks).imp (Nat.lt_of_lt_of_le · relays.made) id
  · rcases numbered cause call old causes with isMade | replies
    · exact .inl (Nat.lt_of_lt_of_le isMade relays.made)
    · exact absurd replies (notReply .served)
  · exact .inr served
  · exact .inl isMade

theorem isNumbered_of_isInitial {service : Service} (initial : service.IsInitial) :
    service.IsNumbered := by
  rintro instruction call ⟨program, present, among⟩ speaks
  have apart := mem_apartFromRings present among speaks
  rw [← programs_outline, outline_of_isInitial initial] at apart
  exact absurd apart (Multiset.notMem_zero _)

theorem IsReachable.isNumbered {service : Service} (reachable : service.IsReachable) :
    service.IsNumbered := by
  obtain ⟨first, moves, initial, run⟩ := reachable
  exact holds_run_of_relays IsNumbered (fun _ _ => Relays.isNumbered)
    (isNumbered_of_isInitial initial) run

/-- All that is left to be said of a call is one reply, or it has been given. -/
structure Owes (service : Service) (call : Nat) (answer : Answer) : Prop where
  made : call < service.world.calls.answers.length
  left : ∀ instruction, service.Mentions instruction → instruction.call? = some call →
    instruction = .reply call answer ∨ instruction = .reply call .served
  given : ∀ other, service.world.calls.answer? call = some other →
    other = answer ∨ other = .served

theorem Relays.owes {before after : Service} (relays : before.Relays after) {call : Nat}
    {answer : Answer} (owes : before.Owes call answer) : after.Owes call answer where
  made := Nat.lt_of_lt_of_le owes.made relays.made
  left := by
    intro instruction mentioned speaks
    rcases relays.mentions instruction call mentioned speaks with
      old | ⟨cause, old, causes, notReply⟩ | served | ⟨tooLate, _⟩
    · exact owes.left instruction old speaks
    · rcases owes.left cause old causes with replies | replies
      · exact absurd replies (notReply _)
      · exact absurd replies (notReply _)
    · exact .inr served
    · exact absurd owes.made (Nat.not_lt.mpr tooLate)
  given := by
    intro other answered
    rcases relays.answers call owes.made with same | ⟨replied, mentioned, replies⟩
    · exact owes.given other (same ▸ answered)
    · obtain rfl := Option.some.inj (replies.symm.trans answered)
      rcases owes.left _ mentioned rfl with same | same
      · cases same
        exact .inl rfl
      · cases same
        exact .inr rfl

/-- A call that is owed one answer is never given another one. -/
theorem Owes.run {first last : Service} {moves : List Move} {call : Nat} {answer : Answer}
    (owes : first.Owes call answer) (run : Run first moves last) : last.Owes call answer :=
  holds_run_of_relays (Owes · call answer) (fun _ _ relays owing => relays.owes owing) owes run

end Service

end Redelivery
