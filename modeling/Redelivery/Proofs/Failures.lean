import Mathlib.Data.List.Forall2
import Redelivery.Proofs.Alike
import Redelivery.Proofs.History

/-!
# Failures are only reported

Two runs of one script may have transports that fail at different resends, for different reasons
or not at all.  As long as every resend takes the same time, what the services look like is the
same after every move, whatever drives them and in whatever order their activities go on: the
same resends go out at the same instants, and every status, count, answer, timer and record is the
same.  Only what is logged differs.
-/

namespace Redelivery

/-! ## Pools -/

theorem muted_append (first second : Program) :
    muted (first ++ second) = muted first ++ muted second :=
  List.map_append

namespace Executor.Pool

/-- A pool takes no notice of the failures that its jobs are to report. -/
theorem requestAt_muted (pools : List (Pool Program)) (index : Nat) (program : Program) :
    requestAt (pools.map muted) index (Redelivery.muted program) =
      ((requestAt pools index program).1.map muted, (requestAt pools index program).2) := by
  simp only [requestAt, List.getElem?_map]
  cases pools[index]? with
  | none => rfl
  | some pool =>
      simp only [Option.map_some, request, muted]
      split
      · simp only [List.map_set, muted]
      · simp only [List.map_set, muted, List.map_append, List.map_singleton]

theorem releaseAt_muted (pools : List (Pool Program)) (index : Nat) :
    releaseAt (pools.map muted) index =
      ((releaseAt pools index).1.map muted,
        (releaseAt pools index).2.map Redelivery.muted) := by
  simp only [releaseAt, List.getElem?_map]
  cases pools[index]? with
  | none => rfl
  | some pool =>
      obtain ⟨capacity, running, waiting⟩ := pool
      cases waiting with
      | nil => simp [release, muted, List.map_set]
      | cons heir rest => simp [release, muted, List.map_set]

end Executor.Pool

/-! ## Services -/

/-- The activity without the failures that it reports. -/
def Activity.muted (activity : Activity Instruction) : Activity Instruction :=
  { activity with program := Redelivery.muted activity.program }

/-- The sleeper without the failures that it reports. -/
def Sleeper.muted (sleeper : Sleeper Instruction) : Sleeper Instruction :=
  { sleeper with activity := sleeper.activity.muted }

/-- The pace without the failures that are reported on the way. -/
def Pace.muted : Pace Instruction → Pace Instruction
  | .onward program => .onward (Redelivery.muted program)
  | .sleepUntil instant program => .sleepUntil instant (Redelivery.muted program)
  | .retire => .retire

namespace Service

/-- Two services that differ in failures and in reports only. -/
structure Alike (first second : Service) : Prop where
  now : first.now = second.now
  ready : first.ready.map Activity.muted = second.ready.map Activity.muted
  asleep : first.asleep.map Sleeper.muted = second.asleep.map Sleeper.muted
  world : first.world.Alike second.world

/-- What two services make of an instruction is alike. -/
structure GoAlike (result other : Service × Pace Instruction) : Prop where
  service : result.1.Alike other.1
  pace : result.2.muted = other.2.muted

variable {first second : Service}

theorem Alike.withWorld (alike : first.Alike second) {registry other : Registry}
    (world : registry.Alike other) :
    Alike { first with world := registry } { second with world := other } :=
  ⟨alike.now, alike.ready, alike.asleep, world⟩

theorem Alike.proceed (alike : first.Alike second) {registry other : Registry}
    (world : registry.Alike other) {program otherProgram : Program}
    (same : muted program = muted otherProgram) :
    GoAlike (first.proceed registry program) (second.proceed other otherProgram) :=
  ⟨alike.withWorld world, congrArg Pace.onward same⟩

/-- Both go on with the same job. -/
theorem Alike.pursue (alike : first.Alike second) {handed other : Registry × Option Job}
    (sameJob : handed.2 = other.2) (world : handed.1.Alike other.1)
    {routing otherRouting : Candidate → Executor.Routing} (sameRouting : routing = otherRouting)
    {rest otherRest : Program} (same : muted rest = muted otherRest) :
    GoAlike (first.pursue handed routing rest) (second.pursue other otherRouting otherRest) := by
  obtain ⟨registry, job⟩ := handed
  obtain ⟨otherRegistry, otherJob⟩ := other
  cases sameJob
  subst sameRouting
  refine alike.proceed world ?_
  simp only [world.candidate?, muted_append, same]

/-- Resends of the same candidates are handed over, one after the other. -/
theorem alike_foldl_forceNext (upTo : Nat) (identities : List Nat) {registry other : Registry}
    (alike : registry.Alike other) (jobs : List Job) :
    (identities.foldl (forceNext upTo) (registry, jobs)).2 =
        (identities.foldl (forceNext upTo) (other, jobs)).2 ∧
      (identities.foldl (forceNext upTo) (registry, jobs)).1.Alike
        (identities.foldl (forceNext upTo) (other, jobs)).1 := by
  induction identities generalizing registry other jobs with
  | nil => exact ⟨rfl, alike⟩
  | cons identity rest inductionHypothesis =>
      obtain ⟨sameJob, forced⟩ := alike.force identity (some upTo)
      simp only [List.foldl_cons, forceNext, sameJob]
      exact inductionHypothesis forced _

theorem alike_forceDue {registry other : Registry} (alike : registry.Alike other) (upTo : Nat) :
    (forceDue registry upTo).2 = (forceDue other upTo).2 ∧
      (forceDue registry upTo).1.Alike (forceDue other upTo).1 := by
  simp only [forceDue, alike.roster]
  exact alike_foldl_forceNext upTo other.roster.allActive alike []

/-! ## Instructions -/

theorem muted_cons (instruction : Instruction) (rest : Program) :
    muted (instruction :: rest) = instruction.muted :: muted rest :=
  rfl

variable {rest otherRest : Program}

theorem Alike.ring (alike : first.Alike second) (ticket : Nat)
    (same : muted rest = muted otherRest) :
    GoAlike (first.ring ticket rest) (second.ring ticket otherRest) := by
  unfold Service.ring
  rw [alike.world.agenda, alike.now]
  split
  · exact ⟨alike, rfl⟩
  · next entry _ =>
      split
      · have taken := alike.world.withAgenda (second.world.agenda.cancel ticket)
        obtain ⟨sameJob, fired⟩ := taken.fireTimer entry.task
        exact alike.pursue sameJob fired rfl same
      · exact ⟨alike,
          congrArg (fun rest => Pace.sleepUntil entry.due (Instruction.ring ticket :: rest)) same⟩

/-- A resend goes out on both sides or on neither, takes the same time, and may fail on one side
only. -/
theorem Alike.send (alike : first.Alike second) (job : Job) (same : muted rest = muted otherRest) :
    GoAlike (first.send job rest) (second.send job otherRest) := by
  have sameNow := alike.now
  unfold Service.send
  rw [alike.world.maySend]
  split
  · obtain ⟨sameTime, begun⟩ := alike.world.beginSend second.now job
    rw [← sameNow] at sameTime begun
    simp only [← sameNow, sameTime]
    split
    · exact alike.proceed (begun.concludeSend first.now job _ _) same
    · refine ⟨⟨rfl, alike.ready, alike.asleep, begun⟩, ?_⟩
      exact congrArg (fun rest => Pace.sleepUntil _ (Instruction.conclude job none :: rest)) same
  · exact alike.proceed (alike.world.modify job.candidate _) same

theorem Alike.acquire (alike : first.Alike second) (pool : Nat)
    (same : muted rest = muted otherRest) :
    GoAlike (first.acquire pool rest) (second.acquire pool otherRest) := by
  have asked := Executor.Pool.requestAt_muted first.world.pools pool rest
  rw [alike.world.pools, same, Executor.Pool.requestAt_muted] at asked
  obtain ⟨pools, granted⟩ := Prod.mk.inj asked
  refine ⟨alike.withWorld (alike.world.withPools pools.symm), ?_⟩
  simp only [Service.acquire, ← granted]
  split
  · exact congrArg Pace.onward same
  · rfl

theorem Alike.release (alike : first.Alike second) (pool : Nat)
    (same : muted rest = muted otherRest) :
    GoAlike (first.release pool rest) (second.release pool otherRest) := by
  have given := Executor.Pool.releaseAt_muted first.world.pools pool
  rw [alike.world.pools, Executor.Pool.releaseAt_muted] at given
  obtain ⟨pools, heirs⟩ := Prod.mk.inj given
  exact alike.proceed (alike.world.startHeir pools.symm heirs.symm) same

theorem Alike.driveDue (alike : first.Alike second) (upTo call : Nat)
    (same : muted rest = muted otherRest) :
    GoAlike (first.driveDue upTo call rest) (second.driveDue upTo call otherRest) := by
  obtain ⟨sameJobs, forced⟩ :=
    alike_forceDue (alike.world.report (.enter "drive_due") (.enter "drive_due")) upTo
  let program (handed : Registry × List Job) (rest : Program) : Program :=
    handed.2.flatMap (Registry.delivery handed.1.routing) ++
      .leave "drive_due" :: .reply call (.count handed.2.length) :: rest
  have samePrograms :
      muted (program (forceDue (first.world.report (.enter "drive_due")) upTo) rest) =
        muted (program (forceDue (second.world.report (.enter "drive_due")) upTo) otherRest) := by
    simp only [program, muted_append, muted_cons, same, sameJobs, forced.routing]
  exact alike.proceed forced samePrograms

theorem Alike.attempt (alike : first.Alike second) (sequence : SequenceKey) (number call : Nat)
    (same : muted rest = muted otherRest) :
    GoAlike (first.attempt sequence number call rest)
      (second.attempt sequence number call otherRest) := by
  unfold Service.attempt
  rw [alike.world.find?]
  split
  · exact alike.proceed alike.world (congrArg (List.cons _) same)
  · next identity _ =>
      obtain ⟨sameJob, forced⟩ := alike.world.force identity none
      simp only [sameJob]
      exact alike.pursue sameJob forced (funext fun _ => forced.routing)
        (congrArg (List.cons _) same)

theorem Alike.runDue (alike : first.Alike second) (upTo ran call : Nat)
    (same : muted rest = muted otherRest) :
    GoAlike (first.runDue upTo ran call rest) (second.runDue upTo ran call otherRest) := by
  unfold Service.runDue
  rw [alike.world.agenda]
  split
  · exact alike.proceed alike.world (congrArg (List.cons _) same)
  · next entry agenda _ =>
      obtain ⟨sameJob, fired⟩ := (alike.world.withAgenda agenda).fireTimer entry.task
      exact alike.pursue sameJob fired rfl (congrArg (List.cons _) same)

/-- Instructions that differ in failures only are the same, or conclude the same resend. -/
theorem eq_or_conclude_of_muted {instruction other : Instruction}
    (same : instruction.muted = other.muted) :
    other = instruction ∨ ∃ job failure otherFailure,
      instruction = .conclude job failure ∧ other = .conclude job otherFailure := by
  cases instruction with
  | conclude job failure =>
      cases other with
      | conclude otherJob otherFailure =>
          cases same
          exact .inr ⟨job, failure, otherFailure, rfl, rfl⟩
      | _ => cases same
  | _ =>
      left
      cases other with
      | conclude otherJob otherFailure => cases same
      | _ => exact same.symm

/-- Whatever comes next, both services make the same of it, whether or not resends fail. -/
theorem Alike.perform (alike : first.Alike second) {instruction other : Instruction}
    (sameInstruction : instruction.muted = other.muted) (same : muted rest = muted otherRest) :
    GoAlike (perform instruction rest first) (perform other otherRest second) := by
  rcases eq_or_conclude_of_muted sameInstruction with rfl | ⟨job, failure, otherFailure, rfl, rfl⟩
  · cases other with
    | ring ticket => exact alike.ring ticket same
    | send job => exact alike.send job same
    | conclude job failure =>
        refine alike.proceed ?_ same
        rw [alike.now]
        exact alike.world.concludeSend second.now job failure failure
    | enqueue pool job => exact alike.proceed (alike.world.start rfl) same
    | acquire pool => exact alike.acquire pool same
    | release pool => exact alike.release pool same
    | driveDue upTo call => exact alike.driveDue upTo call same
    | attempt sequence number call => exact alike.attempt sequence number call same
    | runDue upTo ran call => exact alike.runDue upTo ran call same
    | serve call =>
        have listens := ((alike.world.report (.enter "serve") (.enter "serve")).report
          (.engine .trace "Retransmission registry serving")
          (.engine .trace "Retransmission registry serving")).withListener (some call)
        exact ⟨alike.withWorld listens, rfl⟩
    | hear news => exact alike.proceed (alike.world.report _ _).shutdown same
    | leave operation => exact alike.proceed (alike.world.report _ _) same
    | reply call answer => exact alike.proceed (alike.world.reply call answer) same
  · refine alike.proceed ?_ same
    rw [alike.now]
    exact alike.world.concludeSend second.now job failure otherFailure

/-! ## Moves -/

theorem Alike.launch (alike : first.Alike second) : first.launch.Alike second.launch where
  now := by
    rw [now_launch, now_launch]
    exact alike.now
  ready := by
    have starting :
        first.world.starting.map (fun program => (⟨muted program, false⟩ : Activity _)) =
        second.world.starting.map fun program => ⟨muted program, false⟩ := by
      have same := congrArg (List.map fun program => (⟨program, false⟩ : Activity Instruction))
        alike.world.starting
      rwa [List.map_map, List.map_map] at same
    rw [ready_launch, ready_launch, List.map_append, List.map_append, alike.ready, List.map_map,
      List.map_map]
    exact congrArg (List.map Activity.muted second.ready ++ ·) starting
  asleep := by
    rw [asleep_launch, asleep_launch]
    exact alike.asleep
  world := by
    rw [world_launch, world_launch]
    exact alike.world.withStarting rfl

theorem map_placeSleeper (sleeper : Sleeper Instruction) (asleep : List (Sleeper Instruction)) :
    (Timeline.placeSleeper sleeper asleep).map Sleeper.muted =
      Timeline.placeSleeper sleeper.muted (asleep.map Sleeper.muted) := by
  induction asleep with
  | nil => rfl
  | cons next rest inductionHypothesis =>
      by_cases inOrder : next.wake ≤ sleeper.wake
      · have alsoInOrder : next.muted.wake ≤ sleeper.muted.wake := inOrder
        simp only [Timeline.placeSleeper, List.map_cons, if_pos inOrder, if_pos alsoInOrder,
          inductionHypothesis]
      · have notInOrder : ¬ next.muted.wake ≤ sleeper.muted.wake := inOrder
        simp only [Timeline.placeSleeper, List.map_cons, if_neg inOrder, if_neg notInOrder]

/-- Both activities go on at the same place. -/
theorem Alike.resume (alike : first.Alike second) (index : Nat) (foreground : Bool)
    {pace other : Pace Instruction} (same : pace.muted = other.muted) :
    Alike (first.resume index foreground pace) (second.resume index foreground other) := by
  have readied {program otherProgram : Program} (same : muted program = muted otherProgram) :
      Alike { first with ready := first.ready.insertIdx index ⟨program, foreground⟩ }
        { second with ready := second.ready.insertIdx index ⟨otherProgram, foreground⟩ } := by
    refine ⟨alike.now, ?_, alike.asleep, alike.world⟩
    have sameActivity : Activity.muted ⟨program, foreground⟩ =
        Activity.muted ⟨otherProgram, foreground⟩ :=
      congrArg (fun program => (⟨program, foreground⟩ : Activity Instruction)) same
    simp only [List.map_insertIdx, alike.ready, sameActivity]
  cases pace with
  | onward program =>
      cases other with
      | onward otherProgram => exact readied (Pace.onward.inj same)
      | _ => cases same
  | sleepUntil instant program =>
      cases other with
      | sleepUntil otherInstant otherProgram =>
          obtain ⟨rfl, samePrograms⟩ := Pace.sleepUntil.inj same
          simp only [Timeline.resume]
          by_cases come : Time.wake instant ≤ second.now
          · rw [if_pos come, if_pos (alike.now ▸ come)]
            exact readied samePrograms
          · rw [if_neg come, if_neg (alike.now ▸ come)]
            refine ⟨alike.now, alike.ready, ?_, alike.world⟩
            have sameSleeper : Sleeper.muted ⟨Time.wake instant, ⟨program, foreground⟩⟩ =
                Sleeper.muted ⟨Time.wake instant, ⟨otherProgram, foreground⟩⟩ :=
              congrArg (fun program => (⟨Time.wake instant, ⟨program, foreground⟩⟩ :
                Sleeper Instruction)) samePrograms
            rw [map_placeSleeper, map_placeSleeper, alike.asleep, sameSleeper]
      | _ => cases same
  | retire =>
      cases other with
      | retire => exact alike
      | _ => cases same

/-- The same activity of both services may go on. -/
theorem Alike.stepAt (alike : first.Alike second) {index : Nat} {after : Service}
    (stepped : first.stepAt behave index = some after) :
    ∃ other, second.stepAt behave index = some other ∧ after.Alike other := by
  have sameAt : (first.ready[index]?).map Activity.muted =
      (second.ready[index]?).map Activity.muted := by
    rw [← List.getElem?_map, alike.ready, List.getElem?_map]
  unfold Timeline.stepAt at stepped ⊢
  cases found : first.ready[index]? with
  | none =>
      rw [found] at stepped
      cases stepped
  | some activity =>
      rw [found] at sameAt
      obtain ⟨other, alsoFound, sameActivity⟩ := Option.map_eq_some_iff.mp sameAt.symm
      have samePrograms : muted other.program = muted activity.program :=
        (congrArg Activity.program sameActivity :)
      have sameForeground : other.foreground = activity.foreground :=
        (congrArg Activity.foreground sameActivity :)
      have others : Alike { first with ready := first.ready.eraseIdx index }
          { second with ready := second.ready.eraseIdx index } := by
        refine ⟨alike.now, ?_, alike.asleep, alike.world⟩
        simp only [← List.eraseIdx_map, alike.ready]
      simp only [found, alsoFound] at stepped ⊢
      cases program : activity.program with
      | nil =>
          rw [program] at samePrograms
          simp only [program, List.map_eq_nil_iff.mp samePrograms, Option.some.injEq] at stepped ⊢
          exact ⟨_, rfl, stepped ▸ others⟩
      | cons instruction rest =>
          rw [program] at samePrograms
          obtain ⟨otherInstruction, otherRest, isProgram, sameInstruction, sameRest⟩ :=
            List.map_eq_cons_iff.mp samePrograms
          simp only [program, isProgram, Option.some.injEq] at stepped ⊢
          have went := others.perform sameInstruction.symm sameRest.symm
          refine ⟨_, rfl, ?_⟩
          rw [← stepped, sameForeground]
          exact went.service.launch.resume index activity.foreground went.pace

theorem Alike.rouseTo (alike : first.Alike second) {index position : Nat} {after : Service}
    (roused : first.rouseTo index position = some after) :
    ∃ other, second.rouseTo index position = some other ∧ after.Alike other := by
  have sameAt : (first.asleep[index]?).map Sleeper.muted =
      (second.asleep[index]?).map Sleeper.muted := by
    rw [← List.getElem?_map, alike.asleep, List.getElem?_map]
  have sameLength : first.ready.length = second.ready.length := by
    have same := congrArg List.length alike.ready
    rwa [List.length_map, List.length_map] at same
  unfold Timeline.rouseTo at roused ⊢
  cases found : first.asleep[index]? with
  | none =>
      rw [found] at roused
      cases roused
  | some sleeper =>
      rw [found] at sameAt
      obtain ⟨other, alsoFound, sameSleeper⟩ := Option.map_eq_some_iff.mp sameAt.symm
      have sameWake : other.wake = sleeper.wake := (congrArg Sleeper.wake sameSleeper :)
      have sameActivity : other.activity.muted = sleeper.activity.muted :=
        (congrArg Sleeper.activity sameSleeper :)
      simp only [found] at roused
      split at roused
      · next allowed =>
          have alsoAllowed : other.wake ≤ second.now ∧ position ≤ second.ready.length := by
            rw [sameWake, ← alike.now, ← sameLength]
            exact allowed
          simp only [alsoFound]
          rw [if_pos alsoAllowed]
          refine ⟨_, rfl, ?_⟩
          cases roused
          refine ⟨alike.now, ?_, ?_, alike.world⟩
          · simp only [List.map_insertIdx, alike.ready, sameActivity]
          · simp only [← List.eraseIdx_map, alike.asleep]
      · cases roused

end Service

/-- Two commands that differ in what a transport is prepared to return only. -/
inductive Command.Alike : Command → Command → Prop where
  | same (command : Command) : Alike command command
  | prepare (message : SequenceKey × Nat) {outcomes others : List Outcome} :
      (∀ index, durations outcomes index = durations others index) →
      Alike (.prepare message outcomes) (.prepare message others)

/-- Two moves that differ in what a transport is prepared to return only. -/
inductive Move.Alike : Move → Move → Prop where
  | same (move : Move) : Alike move move
  | command {command other : Command} : command.Alike other →
      Alike (.command command) (.command other)

/-- What a command gives back to whoever asks for it.  The answers of calls come later. -/
inductive Response where
  | nothing
  | added (result : Except Rejection Nat)
  | counted (count : Nat)
  /-- A call was made under a number. -/
  | called (number : Nat)
  | joined (outlook : Outlook Answer)
  /-- Whether somebody waited for the news. -/
  | heard (somebody : Bool)

namespace Service

variable {first second : Service}

/-- What a command gives back. -/
def responseTo (service : Service) : Command → Response
  | .add message => .added (service.apply fun registry => registry.add service.now message).2
  | .purgeAcknowledged sequence acknowledged =>
      .counted (service.apply fun registry => registry.purgeAcknowledged sequence acknowledged).2
  | .purgeAll sequence =>
      .counted (service.apply fun registry => registry.purgeAll sequence).2
  | .request none request => .called (service.beginCall request.program).2
  | .join name => .joined (service.join name).2
  | .announce news => .heard (service.announce news).2
  | _ => .nothing

/-- What a move gives back. -/
def responses (service : Service) : Move → List Response
  | .command command => [service.responseTo command]
  | _ => []

theorem Alike.spawn (alike : first.Alike second) (program : Program) :
    Alike (first.spawn program) (second.spawn program) := by
  refine ⟨alike.now, ?_, alike.asleep, alike.world⟩
  simp only [Timeline.spawn, List.map_append, alike.ready]

theorem Alike.call (alike : first.Alike second) (program : Program) :
    Alike (first.call program) (second.call program) := by
  refine ⟨alike.now, ?_, alike.asleep, alike.world⟩
  simp only [Timeline.call, List.map_cons, alike.ready]

theorem Alike.change (alike : first.Alike second) {registry other : Registry}
    (world : registry.Alike other) :
    (Service.launch { first with world := registry }).Alike
      (Service.launch { second with world := other }) :=
  (alike.withWorld world).launch

theorem Alike.announce (alike : first.Alike second) (news : ShutdownNews) :
    (first.announce news).2 = (second.announce news).2 ∧
      (first.announce news).1.Alike (second.announce news).1 := by
  unfold Service.announce
  rw [alike.world.listener]
  split
  · exact ⟨rfl, alike⟩
  · exact ⟨rfl, (alike.withWorld (alike.world.withListener none)).spawn _⟩

theorem Alike.beginNamed (alike : first.Alike second) (name : String) (program : Nat → Program) :
    (first.beginNamed name program).Alike (second.beginNamed name program) := by
  unfold Service.beginNamed
  rw [alike.world.calls]
  exact (alike.withWorld (alike.world.withCalls _)).spawn _

theorem Alike.join (alike : first.Alike second) (name : String) :
    (first.join name).2 = (second.join name).2 ∧
      (first.join name).1.Alike (second.join name).1 := by
  unfold Service.join
  rw [alike.world.calls]
  exact ⟨rfl, alike.withWorld (alike.world.withCalls _)⟩

theorem Alike.beginCall (alike : first.Alike second) (program : Nat → Program) :
    (first.beginCall program).2 = (second.beginCall program).2 ∧
      (first.beginCall program).1.Alike (second.beginCall program).1 := by
  unfold Service.beginCall
  rw [alike.world.calls]
  exact ⟨rfl, (alike.withWorld (alike.world.withCalls _)).call _⟩

theorem alike_setExecutors {registry other : Registry} (alike : registry.Alike other)
    (executors : List (String × Option Nat)) :
    (registry.setExecutors executors).Alike (other.setExecutors executors) := by
  refine Registry.Alike.foldl (fun {former later} executor same => ?_) (alike.withRouting _)
    executors
  obtain ⟨owner, _ | size⟩ := executor
  · simp only [same.routing]
    exact same.withRouting _
  · have sameLength := congrArg List.length same.pools
    rw [List.length_map, List.length_map] at sameLength
    have samePools : (former.pools ++ [Executor.Pool.ofSize size]).map Executor.Pool.muted =
        (later.pools ++ [Executor.Pool.ofSize size]).map Executor.Pool.muted := by
      rw [List.map_append, List.map_append, same.pools]
    have staffed := (same.withRouting
      (later.routing.register owner (.pooled later.pools.length))).withPools samePools
    simp only [same.routing, sameLength]
    exact staffed

/-- Both services give the same back, and are alike afterwards. -/
theorem Alike.carryOut (alike : first.Alike second) {command other : Command}
    (same : command.Alike other) :
    first.responseTo command = second.responseTo other ∧
      (first.carryOut command).Alike (second.carryOut other) := by
  cases same with
  | prepare message sameTimes =>
      refine ⟨rfl, alike.change ⟨alike.world.muted, ?_⟩⟩
      exact alike.world.script.prepare message sameTimes
  | same =>
      cases command with
      | add message =>
          have after : (first.world.add first.now message).2 =
                (second.world.add second.now message).2 ∧
              (first.world.add first.now message).1.Alike
                (second.world.add second.now message).1 := by
            rw [alike.now]
            exact alike.world.add second.now message
          exact ⟨congrArg Response.added after.1, alike.change after.2⟩
      | purgeAcknowledged sequence acknowledged =>
          obtain ⟨sameCount, after⟩ := alike.world.purgeAcknowledged sequence acknowledged
          exact ⟨congrArg Response.counted sameCount, alike.change after⟩
      | purgeAll sequence =>
          obtain ⟨sameCount, after⟩ := alike.world.purgeAll sequence
          exact ⟨congrArg Response.counted sameCount, alike.change after⟩
      | stop sequence => exact ⟨rfl, alike.change (alike.world.stop sequence)⟩
      | suspend sequence => exact ⟨rfl, alike.change (alike.world.suspend sequence)⟩
      | resume sequence =>
          refine ⟨rfl, alike.change ?_⟩
          rw [alike.now]
          exact alike.world.resume second.now sequence
      | shutdown => exact ⟨rfl, alike.change alike.world.shutdown⟩
      | request name request =>
          cases name with
          | none =>
              obtain ⟨sameNumber, after⟩ := alike.beginCall request.program
              exact ⟨congrArg Response.called sameNumber, after⟩
          | some name => exact ⟨rfl, alike.beginNamed name request.program⟩
      | join name =>
          obtain ⟨sameOutlook, after⟩ := alike.join name
          exact ⟨congrArg Response.joined sameOutlook, after⟩
      | serve name =>
          exact ⟨rfl, (alike.announce .closed).2.beginNamed name fun call => [.serve call]⟩
      | announce news =>
          obtain ⟨sameNews, after⟩ := alike.announce news
          exact ⟨congrArg Response.heard sameNews, after⟩
      | setExecutors executors =>
          exact ⟨rfl, alike.change (alike_setExecutors alike.world executors)⟩
      | closeAgenda =>
          have closed := congrArg (fun registry : Registry =>
            { registry with agenda := registry.agenda.close }) alike.world.muted
          exact ⟨rfl, alike.change ⟨closed, alike.world.script⟩⟩
      | prepare message outcomes =>
          refine ⟨rfl, alike.change ⟨alike.world.muted, ?_⟩⟩
          exact alike.world.script.prepare message fun _ => rfl
      | exchangeStore store => exact ⟨rfl, alike.change (alike.world.withStore store)⟩

theorem Alike.admits (alike : first.Alike second) {command other : Command}
    (same : command.Alike other) : first.admits command = second.admits other := by
  cases same with
  | prepare message sameTimes => rfl
  | same =>
      unfold Service.admits
      rw [alike.world.driving]

/-- Whatever is possible in one service is possible in the other one, and gives the same back. -/
theorem Alike.move (alike : first.Alike second) {move other : Move} (same : move.Alike other)
    {after : Service} (moved : first.move? move = some after) :
    first.responses move = second.responses other ∧
      ∃ otherAfter, second.move? other = some otherAfter ∧ after.Alike otherAfter := by
  have commanded {command otherCommand : Command} (same : command.Alike otherCommand)
      (moved : first.move? (.command command) = some after) :
      first.responses (.command command) = second.responses (.command otherCommand) ∧
        ∃ otherAfter, second.move? (.command otherCommand) = some otherAfter ∧
          after.Alike otherAfter := by
    obtain ⟨sameResponse, afterwards⟩ := alike.carryOut same
    simp only [move?] at moved ⊢
    split at moved
    · next admitted =>
        rw [alike.admits same] at admitted
        rw [if_pos admitted]
        cases moved
        exact ⟨congrArg (fun response => [response]) sameResponse, _, rfl, afterwards⟩
    · cases moved
  cases same with
  | command same => exact commanded same moved
  | same =>
      cases move with
      | command command => exact commanded (.same command) moved
      | step index => exact ⟨rfl, alike.stepAt moved⟩
      | rouse index position => exact ⟨rfl, alike.rouseTo moved⟩
      | wait instant =>
          simp only [move?] at moved ⊢
          rw [alike.now] at moved
          split at moved
          · next forward =>
              rw [if_pos forward]
              cases moved
              exact ⟨rfl, _, rfl, rfl, alike.ready, alike.asleep, alike.world⟩
          · cases moved
      | reorder roster =>
          obtain ⟨shuffled, rfl⟩ := eq_reorder moved
          rw [alike.world.roster] at shuffled
          exact ⟨rfl, _, if_pos shuffled, alike.now, alike.ready, alike.asleep,
            alike.world.withRoster roster⟩

/-- Moves that are alike keep services alike. -/
theorem Alike.follow (alike : first.Alike second) {moves others : List Move}
    (same : List.Forall₂ Move.Alike moves others) {last : Service}
    (followed : follow moves first = some last) :
    gather responses moves first = gather responses others second ∧
      ∃ otherLast, Service.follow others second = some otherLast ∧ last.Alike otherLast := by
  induction same generalizing first second with
  | nil =>
      cases followed
      exact ⟨rfl, second, rfl, alike⟩
  | @cons move other moves others sameMove _ inductionHypothesis =>
      obtain ⟨middle, moved, rest⟩ := Option.bind_eq_some_iff.mp followed
      obtain ⟨sameResponse, otherMiddle, alsoMoved, middleAlike⟩ := alike.move sameMove moved
      obtain ⟨sameResponses, otherLast, alsoFollowed, lastAlike⟩ :=
        inductionHypothesis middleAlike rest
      refine ⟨?_, otherLast, ?_, lastAlike⟩
      · simp only [gather, moved, alsoMoved, Option.elim_some, sameResponse, sameResponses]
      · simp only [Service.follow, alsoMoved, Option.bind_some, alsoFollowed]

/-! ## The main result -/

/-- Nobody can tell one service from the other, apart from what is logged. -/
structure LooksLike (service other : Service) : Prop where
  now : other.now = service.now
  /-- The same resends went out at the same instants, and asked for the same
  acknowledgments. -/
  resends : other.world.journal.resends = service.world.journal.resends
  /-- Whoever holds on to a candidate sees the same, also once it has been purged. -/
  candidates : other.world.candidates = service.world.candidates
  status : ∀ sequence number, other.world.status? sequence number =
    service.world.status? sequence number
  statuses : ∀ sequence, other.world.statuses sequence = service.world.statuses sequence
  countOf : ∀ sequence, other.world.countOf sequence = service.world.countOf sequence
  countAll : other.world.countAll = service.world.countAll
  sequences : other.world.sequences = service.world.sequences
  suspended : ∀ sequence, other.world.isSuspended sequence = service.world.isSuspended sequence
  /-- As many jobs hold a permit of each pool. -/
  inFlight : ∀ pool, other.world.inFlight pool = service.world.inFlight pool
  /-- The same calls are under way, and the others have got the same answers. -/
  calls : other.world.calls = service.world.calls
  /-- The same timers are armed. -/
  agenda : other.world.agenda = service.world.agenda
  /-- The store was asked for the same and keeps the same. -/
  store : other.world.store = service.world.store

theorem Alike.looksLike (alike : first.Alike second) : first.LooksLike second where
  now := alike.now.symm
  resends := alike.world.resends.symm
  candidates := alike.world.candidates.symm
  status := fun sequence number =>
    (congrArg (fun registry => registry.status? sequence number) alike.world.muted.symm :)
  statuses := fun sequence =>
    (congrArg (fun registry => registry.statuses sequence) alike.world.muted.symm :)
  countOf := fun sequence =>
    (congrArg (fun registry => registry.countOf sequence) alike.world.muted.symm :)
  countAll := (congrArg Registry.countAll alike.world.muted.symm :)
  sequences := (congrArg Registry.sequences alike.world.muted.symm :)
  suspended := fun sequence =>
    (congrArg (fun registry => registry.isSuspended sequence) alike.world.muted.symm :)
  inFlight := fun pool => (alike.world.inFlight pool).symm
  calls := alike.world.calls.symm
  agenda := alike.world.agenda.symm
  store := alike.world.store.symm

/-- If two transports take the same time for every resend, a run with the one of them is possible
with the other one as well, whatever they return.  The operations have the same results, and
afterwards nobody can tell the two services apart.  As every part of a run that it begins with is
a run, this is so at every moment. -/
theorem failures_only_reported (registry : Registry) {script other : Script}
    (sameTimes : script.Alike other) {moves others : List Move}
    (sameMoves : List.Forall₂ Move.Alike moves others) {last : Service}
    (run : Run (Timeline.start { registry with script }) moves last) :
    ∃ otherLast, Run (Timeline.start { registry with script := other }) others otherLast ∧
      last.LooksLike otherLast ∧
      gather responses moves (Timeline.start { registry with script }) =
        gather responses others (Timeline.start { registry with script := other }) := by
  have alike : Service.Alike (Timeline.start { registry with script })
      (Timeline.start { registry with script := other }) :=
    ⟨rfl, rfl, rfl, rfl, sameTimes⟩
  obtain ⟨sameResponses, otherLast, followed, lastAlike⟩ := alike.follow sameMoves run.follow_eq
  exact ⟨otherLast, .of_follow followed, lastAlike.looksLike, sameResponses⟩

end Service

namespace Sample

/-- A transport that takes its time for the first message, and what it then returns. -/
def slowTransport (failure : Option TransportFailure) : Script :=
  Script.empty.prepare (sequence, 1) [{ takes := 5, failure }]

/-- A message is resent, and the transport is done with it later on. -/
def resentOnce : List Move :=
  [.command (.add (message 1 none)), .command (.request none (.attempt sequence 1)), .step 0,
    .step 0, .wait 1000000, .rouse 0 0, .step 0, .step 0]

end Sample

namespace Service

/-- A resend that is refused is logged as such, and nothing else differs. -/
theorem failures_only_reported_of_refusal :
    ∃ last otherLast,
      Run (Timeline.start { Registry.empty .byHand with script := Sample.slowTransport none })
        Sample.resentOnce last ∧
      Run (Timeline.start { Registry.empty .byHand with
        script := Sample.slowTransport (some (.connectionRefused "peer")) }) Sample.resentOnce
        otherLast ∧
      last.LooksLike otherLast ∧
      last.world.journal.resends.length = 1 ∧ last.world.countAll = 1 ∧
      last.world.journal.events.length < otherLast.world.journal.events.length := by
  have sameTimes : (Sample.slowTransport none).Alike
      (Sample.slowTransport (some (.connectionRefused "peer"))) := by
    intro message index
    rw [Sample.slowTransport, Script.takes_prepare, Sample.slowTransport, Script.takes_prepare]
    split
    · cases index <;> rfl
    · rfl
  have sameMoves : List.Forall₂ Move.Alike Sample.resentOnce Sample.resentOnce :=
    List.forall₂_same.mpr fun move _ => .same move
  have course : ((follow Sample.resentOnce (Timeline.start { Registry.empty .byHand with
      script := Sample.slowTransport none })).map fun service =>
        (service.world.journal.resends.length, service.world.countAll,
          service.world.journal.events.length)) = some (1, 1, 3) := by decide +kernel
  have otherCourse : ((follow Sample.resentOnce (Timeline.start { Registry.empty .byHand with
      script := Sample.slowTransport (some (.connectionRefused "peer")) })).map fun service =>
        service.world.journal.events.length) = some 4 := by decide +kernel
  obtain ⟨last, followed, looks⟩ := Option.map_eq_some_iff.mp course
  obtain ⟨resends, rest⟩ := Prod.mk.inj looks
  obtain ⟨counted, events⟩ := Prod.mk.inj rest
  have run := Run.of_follow followed
  obtain ⟨otherLast, otherRun, looksLike, _⟩ :=
    failures_only_reported (Registry.empty .byHand) sameTimes sameMoves run
  obtain ⟨reported, otherFollowed, otherEvents⟩ := Option.map_eq_some_iff.mp otherCourse
  obtain rfl := otherRun.unique (Run.of_follow otherFollowed)
  refine ⟨last, otherLast, run, otherRun, looksLike, resends, counted, ?_⟩
  rw [events, otherEvents]
  exact Nat.lt_succ_self _

end Service

end Redelivery
