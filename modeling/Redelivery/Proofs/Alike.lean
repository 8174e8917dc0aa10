import Redelivery.Proofs.Effects
import Redelivery.Proofs.Keyed

/-!
# Registries that differ in failures only

Two registries are alike if their transports take the same time for every resend to come and
everything else about them is the same, except for how resends fail and what was reported.  No
function of a registry tells registries apart that are alike.
-/

namespace Redelivery

/-! ## Transports that take the same time -/

/-- How long each of the resends to come takes.  The last outcome is used again and again. -/
def durations : List Outcome → Nat → Nat
  | [], _ => 0
  | [last], _ => last.takes
  | outcome :: _ :: _, 0 => outcome.takes
  | _ :: next :: rest, index + 1 => durations (next :: rest) index

namespace Script

/-- How long each of the resends of a message to come takes. -/
def takes (script : Script) (message : SequenceKey × Nat) (index : Nat) : Nat :=
  durations ((script.outcomes.find? message).getD []) index

/-- Two transports that take the same time for every resend, whatever comes of it. -/
def Alike (first second : Script) : Prop :=
  ∀ message index, first.takes message index = second.takes message index

theorem takes_prepare (script : Script) (message : SequenceKey × Nat) (outcomes : List Outcome)
    (other : SequenceKey × Nat) (index : Nat) :
    (script.prepare message outcomes).takes other index =
      if other = message then durations outcomes index else script.takes other index := by
  simp only [takes, prepare, Keyed.find?_put]
  split <;> rfl

/-- The next resend of a message takes its time, and those after it take theirs. -/
theorem takes_next (script : Script) (message : SequenceKey × Nat) :
    (script.next message).1.takes = script.takes message 0 ∧
      ∀ other index, (script.next message).2.takes other index =
        if other = message then script.takes message (index + 1) else script.takes other index := by
  have unchanged (constant : ∀ index, script.takes message (index + 1) =
      script.takes message index) (other : SequenceKey × Nat) (index : Nat) :
      script.takes other index =
        if other = message then script.takes message (index + 1) else script.takes other index := by
    split
    · next same => rw [same, constant]
    · rfl
  unfold next
  cases found : script.outcomes.find? message with
  | none =>
      have none (index : Nat) : script.takes message index = 0 := by rw [takes, found]; rfl
      exact ⟨(none 0).symm, unchanged fun index => by rw [none, none]⟩
  | some outcomes =>
      rcases outcomes with _ | ⟨outcome, _ | ⟨following, rest⟩⟩
      · have none (index : Nat) : script.takes message index = 0 := by rw [takes, found]; rfl
        exact ⟨(none 0).symm, unchanged fun index => by rw [none, none]⟩
      · have last (index : Nat) : script.takes message index = outcome.takes := by
          rw [takes, found]
          rfl
        exact ⟨(last 0).symm, unchanged fun index => by rw [last, last]⟩
      · refine ⟨by rw [takes, found]; rfl, fun other index => ?_⟩
        simp only [takes_prepare]
        split
        · rw [takes, found]
          rfl
        · rfl

theorem Alike.prepare {first second : Script} (alike : first.Alike second)
    (message : SequenceKey × Nat) {outcomes others : List Outcome}
    (same : ∀ index, durations outcomes index = durations others index) :
    (first.prepare message outcomes).Alike (second.prepare message others) := by
  intro other index
  rw [takes_prepare, takes_prepare, same, alike]

theorem Alike.next {first second : Script} (alike : first.Alike second)
    (message : SequenceKey × Nat) :
    (first.next message).1.takes = (second.next message).1.takes ∧
      (first.next message).2.Alike (second.next message).2 := by
  obtain ⟨now, later⟩ := first.takes_next message
  obtain ⟨alsoNow, alsoLater⟩ := second.takes_next message
  refine ⟨by rw [now, alsoNow, alike], fun other index => ?_⟩
  rw [later, alsoLater, alike, alike]

end Script

/-! ## Leaving failures out -/

/-- The instruction without the failure that it reports. -/
def Instruction.muted : Instruction → Instruction
  | .conclude job _ => .conclude job none
  | instruction => instruction

/-- The program without the failures that it reports. -/
def muted (program : Program) : Program :=
  program.map Instruction.muted

/-- The pool without the failures that its jobs are to report. -/
def Executor.Pool.muted (pool : Executor.Pool Program) : Executor.Pool Program :=
  { pool with waiting := pool.waiting.map Redelivery.muted }

namespace Registry

/-- The registry without its transport, its log and the failures that are to be reported. -/
def muted (registry : Registry) : Registry :=
  { registry with
    pools := registry.pools.map Executor.Pool.muted
    starting := registry.starting.map Redelivery.muted
    journal := { registry.journal with events := [] }
    script := Script.empty }

/-- What drives a registry takes no notice of what is left out. -/
theorem acceptAlarm_muted (registry : Registry) (due : Nat) (alarm : Alarm) :
    registry.muted.acceptAlarm due alarm =
      (registry.acceptAlarm due alarm).map fun accepted => (accepted.1, accepted.2.muted) := by
  obtain ⟨_, _, _, driving, agenda, _, _, _, _, _, _, starting⟩ := registry
  cases driving with
  | byHand => rfl
  | byQueue =>
      simp only [acceptAlarm, muted]
      cases agenda.schedule due alarm <;> rfl
  | byTimers hosted =>
      simp only [acceptAlarm, muted, start]
      cases agenda.scheduleTimer hosted due alarm with
      | error refusal => rfl
      | ok accepted =>
          simp only [Except.map, List.map_append]
          rfl

theorem script_acceptAlarm {registry : Registry} {due : Nat} {alarm : Alarm}
    {accepted : Option Nat × Registry} (accepts : registry.acceptAlarm due alarm = .ok accepted) :
    accepted.2.script = registry.script := by
  rcases acceptAlarm_eq_ok accepts with ⟨_, _, same⟩ | ⟨_, _, _, _, same⟩
  · rw [same]
  · rw [same]

/-- Two registries that differ in failures and in reports only. -/
structure Alike (first second : Registry) : Prop where
  muted : first.muted = second.muted
  script : first.script.Alike second.script

variable {first second : Registry}

namespace Alike

theorem candidates (alike : first.Alike second) : first.candidates = second.candidates :=
  (congrArg Registry.candidates alike.muted :)

theorem candidate? (alike : first.Alike second) (identity : Nat) :
    first.candidate? identity = second.candidate? identity :=
  (congrArg (fun registry => registry.candidate? identity) alike.muted :)

theorem roster (alike : first.Alike second) : first.roster = second.roster :=
  (congrArg Registry.roster alike.muted :)

theorem routing (alike : first.Alike second) : first.routing = second.routing :=
  (congrArg Registry.routing alike.muted :)

theorem driving (alike : first.Alike second) : first.driving = second.driving :=
  (congrArg Registry.driving alike.muted :)

theorem agenda (alike : first.Alike second) : first.agenda = second.agenda :=
  (congrArg Registry.agenda alike.muted :)

theorem store (alike : first.Alike second) : first.store = second.store :=
  (congrArg Registry.store alike.muted :)

theorem calls (alike : first.Alike second) : first.calls = second.calls :=
  (congrArg Registry.calls alike.muted :)

theorem listener (alike : first.Alike second) : first.listener = second.listener :=
  (congrArg Registry.listener alike.muted :)

theorem resends (alike : first.Alike second) :
    first.journal.resends = second.journal.resends :=
  (congrArg (fun registry => registry.journal.resends) alike.muted :)

theorem pools (alike : first.Alike second) :
    first.pools.map Executor.Pool.muted = second.pools.map Executor.Pool.muted :=
  (congrArg Registry.pools alike.muted :)

/-- What the jobs of a pool are to report does not matter for its permits. -/
theorem inFlight (alike : first.Alike second) (pool : Nat) :
    first.inFlight pool = second.inFlight pool := by
  have permits (registry : Registry) : registry.inFlight pool =
      ((registry.pools.map Executor.Pool.muted)[pool]?).elim 0 Executor.Pool.inFlight := by
    rw [Registry.inFlight, List.getElem?_map]
    cases registry.pools[pool]? <;> rfl
  rw [permits, permits, alike.pools]

theorem starting (alike : first.Alike second) :
    first.starting.map Redelivery.muted = second.starting.map Redelivery.muted :=
  (congrArg Registry.starting alike.muted :)

theorem refl (registry : Registry) : registry.Alike registry :=
  ⟨rfl, fun _ _ => rfl⟩

theorem withAgenda (alike : first.Alike second) (agenda : Schedule.Agenda Alarm) :
    { first with agenda }.Alike { second with agenda } :=
  ⟨(congrArg (fun registry : Registry => { registry with agenda }) alike.muted :), alike.script⟩

theorem withRoster (alike : first.Alike second) (roster : Roster) :
    { first with roster }.Alike { second with roster } :=
  ⟨(congrArg (fun registry : Registry => { registry with roster }) alike.muted :), alike.script⟩

theorem withStore (alike : first.Alike second) (store : Option Store) :
    { first with store }.Alike { second with store } :=
  ⟨(congrArg (fun registry : Registry => { registry with store }) alike.muted :), alike.script⟩

theorem withCalls (alike : first.Alike second) (calls : Calls Answer) :
    { first with calls }.Alike { second with calls } :=
  ⟨(congrArg (fun registry : Registry => { registry with calls }) alike.muted :), alike.script⟩

theorem withListener (alike : first.Alike second) (listener : Option Nat) :
    { first with listener }.Alike { second with listener } :=
  ⟨(congrArg (fun registry : Registry => { registry with listener }) alike.muted :),
    alike.script⟩

theorem withRouting (alike : first.Alike second) (routing : Executor.Routing) :
    { first with routing }.Alike { second with routing } :=
  ⟨(congrArg (fun registry : Registry => { registry with routing }) alike.muted :),
    alike.script⟩

theorem withPools (alike : first.Alike second) {pools others : List (Executor.Pool Program)}
    (same : pools.map Executor.Pool.muted = others.map Executor.Pool.muted) :
    { first with pools }.Alike { second with pools := others } := by
  have changed := congrArg (fun registry : Registry =>
    { registry with pools := others.map Executor.Pool.muted }) alike.muted
  exact ⟨(congrArg (fun pools => { first.muted with pools }) same).trans changed, alike.script⟩

/-- Programs that differ in failures only may be started. -/
theorem withStarting (alike : first.Alike second) {starting others : List Program}
    (same : starting.map Redelivery.muted = others.map Redelivery.muted) :
    { first with starting }.Alike { second with starting := others } := by
  have changed := congrArg (fun registry : Registry =>
    { registry with starting := others.map Redelivery.muted }) alike.muted
  exact ⟨(congrArg (fun starting => { first.muted with starting }) same).trans changed,
    alike.script⟩

theorem start (alike : first.Alike second) {program other : Program}
    (same : Redelivery.muted program = Redelivery.muted other) :
    (first.start program).Alike (second.start other) := by
  apply alike.withStarting
  rw [List.map_append, List.map_append, alike.starting, List.map_singleton, same,
    List.map_singleton]

/-- The program that takes a permit over may report a failure on one side only. -/
theorem startHeir (alike : first.Alike second) {pools others : List (Executor.Pool Program)}
    (same : pools.map Executor.Pool.muted = others.map Executor.Pool.muted)
    {heir other : Option Program} (heirs : heir.map Redelivery.muted = other.map Redelivery.muted) :
    (heir.elim { first with pools } { first with pools }.start).Alike
      (other.elim { second with pools := others } { second with pools := others }.start) := by
  have released := alike.withPools same
  cases heir with
  | none =>
      rw [Option.map_eq_none_iff.mp heirs.symm]
      exact released
  | some program =>
      obtain ⟨otherProgram, rfl, sameProgram⟩ := Option.map_eq_some_iff.mp heirs.symm
      exact released.start sameProgram.symm

/-! ## Timers -/

/-- What is reported makes no difference. -/
theorem report (alike : first.Alike second) (event other : Log.Event) :
    (first.report event).Alike (second.report other) :=
  ⟨alike.muted, alike.script⟩

theorem modify (alike : first.Alike second) (identity : Nat) (change : Candidate → Candidate) :
    (first.modify identity change).Alike (second.modify identity change) :=
  ⟨(congrArg (Registry.modify · identity change) alike.muted :), alike.script⟩

theorem dropTimer (alike : first.Alike second) (identity : Nat) :
    (first.dropTimer identity).Alike (second.dropTimer identity) := by
  unfold Registry.dropTimer
  rw [alike.candidate?]
  split
  · exact alike
  · rw [alike.agenda]
    exact alike.withAgenda _

theorem disarm (alike : first.Alike second) (identity : Nat) :
    (first.disarm identity).Alike (second.disarm identity) :=
  (alike.dropTimer identity).modify identity Candidate.disarm

/-- Both refuse an alarm, or both accept it. -/
theorem acceptAlarm (alike : first.Alike second) (due : Nat) (alarm : Alarm) :
    (∃ refusal, first.acceptAlarm due alarm = .error refusal ∧
        second.acceptAlarm due alarm = .error refusal) ∨
      ∃ ticket accepted other, first.acceptAlarm due alarm = .ok (ticket, accepted) ∧
        second.acceptAlarm due alarm = .ok (ticket, other) ∧ accepted.Alike other := by
  have same := (acceptAlarm_muted first due alarm).symm.trans
    ((congrArg (fun registry => registry.acceptAlarm due alarm) alike.muted).trans
      (acceptAlarm_muted second due alarm))
  cases accepts : first.acceptAlarm due alarm with
  | error refusal =>
      cases alsoAccepts : second.acceptAlarm due alarm with
      | error other =>
          rw [accepts, alsoAccepts] at same
          exact .inl ⟨refusal, rfl, congrArg Except.error (Except.error.inj same).symm⟩
      | ok other =>
          rw [accepts, alsoAccepts] at same
          cases same
  | ok accepted =>
      cases alsoAccepts : second.acceptAlarm due alarm with
      | error other =>
          rw [accepts, alsoAccepts] at same
          cases same
      | ok other =>
          rw [accepts, alsoAccepts] at same
          obtain ⟨sameTicket, muted⟩ := Prod.mk.inj (Except.ok.inj same)
          refine .inr ⟨accepted.1, accepted.2, other.2, rfl, ?_, muted, ?_⟩
          · rw [sameTicket]
          · rw [script_acceptAlarm accepts, script_acceptAlarm alsoAccepts]
            exact alike.script

theorem arm (alike : first.Alike second) (identity due : Nat) :
    (first.arm identity due).Alike (second.arm identity due) := by
  have disarmed := alike.disarm identity
  unfold Registry.arm
  simp only [disarmed.candidate?]
  split
  · exact disarmed
  · next candidate _ =>
      rcases disarmed.acceptAlarm due ⟨identity, candidate.generation⟩ with
        ⟨refusal, refuses, alsoRefuses⟩ | ⟨ticket, accepted, other, accepts, alsoAccepts, same⟩
      · simp only [refuses, alsoRefuses]
        exact disarmed.report _ _
      · simp only [accepts, alsoAccepts]
        exact same.modify identity _

/-! ## Resends -/

theorem handOver (alike : first.Alike second) (identity : Nat) :
    (first.handOver identity).2 = (second.handOver identity).2 ∧
      (first.handOver identity).1.Alike (second.handOver identity).1 := by
  unfold Registry.handOver
  rw [alike.candidate?]
  split
  · exact ⟨rfl, alike⟩
  · split
    · exact ⟨rfl, alike⟩
    · exact ⟨rfl, alike.modify identity _⟩

theorem fireTimer (alike : first.Alike second) (alarm : Alarm) :
    (first.fireTimer alarm).2 = (second.fireTimer alarm).2 ∧
      (first.fireTimer alarm).1.Alike (second.fireTimer alarm).1 := by
  unfold Registry.fireTimer
  rw [alike.candidate?]
  split
  · exact ⟨rfl, alike⟩
  · next candidate _ =>
      have used (event : Log.Event) := (alike.report event event).modify alarm.candidate
        fun candidate => { candidate with timer := none }
      split
      · exact ⟨rfl, alike.report _ _⟩
      · simp only
        split
        · exact (used _).handOver alarm.candidate
        · exact ⟨rfl, used _⟩

theorem force (alike : first.Alike second) (identity : Nat) (upTo : Option Nat) :
    (first.force identity upTo).2 = (second.force identity upTo).2 ∧
      (first.force identity upTo).1.Alike (second.force identity upTo).1 := by
  unfold Registry.force
  rw [alike.candidate?]
  split
  · exact ⟨rfl, alike⟩
  · split
    · exact (alike.disarm identity).handOver identity
    · exact ⟨rfl, alike⟩

/-- A resend that goes out takes the same time, whatever comes of it. -/
theorem beginSend (alike : first.Alike second) (now : Nat) (job : Job) :
    (first.beginSend now job).2.takes = (second.beginSend now job).2.takes ∧
      (first.beginSend now job).1.Alike (second.beginSend now job).1 := by
  obtain ⟨sameTime, scripts⟩ := alike.script.next (job.message.sequence, job.message.number)
  have noted := congrArg (fun registry : Registry =>
    { registry with journal := registry.journal.noteResend now job }) alike.muted
  exact ⟨sameTime, noted, scripts⟩

theorem completeSend (alike : first.Alike second) (now identity : Nat) :
    (first.completeSend now identity).Alike (second.completeSend now identity) := by
  unfold Registry.completeSend
  rw [alike.candidate?]
  split
  · exact alike
  · next candidate _ =>
      have updated := alike.modify identity fun _ => (candidate.complete now).1
      simp only
      split
      · exact updated
      · exact updated
      · exact (updated.disarm identity).report _ _
      · exact updated.arm identity _
      · exact (updated.disarm identity).report _ _

/-- A failure is reported, and has no other consequence. -/
theorem concludeSend (alike : first.Alike second) (now : Nat) (job : Job)
    (failure other : Option TransportFailure) :
    (first.concludeSend now job failure).Alike (second.concludeSend now job other) := by
  have reported {registry : Registry} (failure : Option TransportFailure) :
      (failure.elim registry (registry.reportFailure job)).Alike registry := by
    cases failure with
    | none => exact .refl registry
    | some failure => exact ⟨rfl, fun _ _ => rfl⟩
  have same : (failure.elim first (first.reportFailure job)).Alike
      (other.elim second (second.reportFailure job)) := by
    constructor
    · exact (reported failure).muted.trans (alike.muted.trans (reported other).muted.symm)
    · intro message index
      rw [(reported failure).script, (reported other).script, alike.script]
  exact same.completeSend now job.candidate

theorem maySend (alike : first.Alike second) (job : Job) :
    first.maySend job = second.maySend job := by
  rw [Registry.maySend, alike.candidate?, Registry.maySend]

/-! ## Operations -/

theorem reply (alike : first.Alike second) (call : Nat) (answer : Answer) :
    (first.reply call answer).Alike (second.reply call answer) :=
  ⟨(congrArg (Registry.reply · call answer) alike.muted :), alike.script⟩

theorem entered (alike : first.Alike second) (operation : String) (fields : List Log.Field) :
    (first.entered operation fields).Alike (second.entered operation fields) := by
  have opened := congrArg (fun registry : Registry =>
    { registry with
      journal := { registry.journal with
        spans := { name := operation, fields } :: registry.journal.spans } }) alike.muted
  exact ⟨opened, alike.script⟩

/-- What is done within a span is done alike. -/
theorem traced {α : Type} {operation : String} {fields : List Log.Field}
    {body : Registry → Registry × α}
    (same : (body (first.entered operation fields)).2 = (body (second.entered operation fields)).2 ∧
      (body (first.entered operation fields)).1.Alike
        (body (second.entered operation fields)).1) :
    (first.traced operation fields body).2 = (second.traced operation fields body).2 ∧
      (first.traced operation fields body).1.Alike (second.traced operation fields body).1 := by
  obtain ⟨sameResult, after⟩ := same
  have closed := congrArg (fun registry : Registry =>
    { registry with
      journal := { registry.journal with spans := registry.journal.spans.tail } }) after.muted
  exact ⟨sameResult, closed, after.script⟩

theorem traced_fst {operation : String} {fields : List Log.Field}
    {body : Registry → Registry × Unit}
    (same : (body (first.entered operation fields)).1.Alike
      (body (second.entered operation fields)).1) :
    (first.traced operation fields body).1.Alike (second.traced operation fields body).1 := by
  have sameResult : (body (first.entered operation fields)).2 =
      (body (second.entered operation fields)).2 := rfl
  exact (traced (And.intro sameResult same)).2

/-- Changes that are made one after the other. -/
theorem foldl {ι : Type} {next : Registry → ι → Registry}
    (each : ∀ {first second : Registry} (item : ι), first.Alike second →
      (next first item).Alike (next second item)) (alike : first.Alike second) (items : List ι) :
    (items.foldl next first).Alike (items.foldl next second) := by
  induction items generalizing first second with
  | nil => exact alike
  | cons item rest inductionHypothesis => exact inductionHypothesis (each item alike)

theorem rejection? (alike : first.Alike second) (message : Message) :
    first.rejection? message = second.rejection? message :=
  (congrArg (fun registry => registry.rejection? message) alike.muted :)

theorem find? (alike : first.Alike second) (sequence : SequenceKey) (number : Nat) :
    first.find? sequence number = second.find? sequence number :=
  (congrArg (fun registry => registry.find? sequence number) alike.muted :)

theorem numberOf (alike : first.Alike second) : first.numberOf = second.numberOf :=
  (congrArg Registry.numberOf alike.muted :)

theorem enroll (alike : first.Alike second) (now : Nat) (message : Message) :
    (first.enroll now message).2 = (second.enroll now message).2 ∧
      (first.enroll now message).1.Alike (second.enroll now message).1 := by
  let candidateIn (registry : Registry) : Candidate :=
    Candidate.register now registry.routing (registry.roster.isSuspended message.sequence) message
  let listedIn (registry : Registry) : Registry :=
    { registry with
      candidates := registry.candidates ++ [candidateIn registry]
      roster := registry.roster.add message.sequence registry.candidates.length }
  have listed : (listedIn first).Alike (listedIn second) :=
    ⟨congrArg listedIn alike.muted, alike.script⟩
  have identity : first.candidates.length = second.candidates.length := by rw [alike.candidates]
  have candidate : candidateIn first = candidateIn second :=
    (congrArg candidateIn alike.muted :)
  have wants := congrArg Candidate.wantsTimer candidate
  have due := congrArg Candidate.next candidate
  simp only [Registry.enroll]
  by_cases overflows : message.policy.initialInterval.isNone = true
  · rw [if_pos overflows, if_pos overflows]
    exact ⟨identity, listed.report _ _⟩
  · rw [if_neg overflows, if_neg overflows]
    by_cases wanted : (candidateIn second).wantsTimer = true
    · rw [if_pos (wants.trans wanted), if_pos wanted]
      have armed := listed.arm second.candidates.length (candidateIn second).next
      rw [← congrArg₂ (listedIn first).arm identity due] at armed
      exact ⟨identity, armed⟩
    · rw [if_neg (wants ▸ wanted), if_neg wanted]
      exact ⟨identity, listed⟩

theorem add (alike : first.Alike second) (now : Nat) (message : Message) :
    (first.add now message).2 = (second.add now message).2 ∧
      (first.add now message).1.Alike (second.add now message).1 := by
  refine traced ?_
  have inside := alike.entered "add_unacknowledged"
    [sequenceField message.sequence, .number "number" message.number]
  simp only [inside.rejection?]
  split
  · exact ⟨rfl, inside⟩
  · obtain ⟨sameIdentity, enrolled⟩ := inside.enroll now message
    exact ⟨congrArg Except.ok sameIdentity, enrolled⟩

theorem finishAll (alike : first.Alike second) (ending : Ending) (identities : List Nat) :
    (first.finishAll ending identities).Alike (second.finishAll ending identities) :=
  foldl (fun identity same => (same.dropTimer identity).modify identity _) alike identities

theorem dropRecords (alike : first.Alike second) (sequence : SequenceKey) (numbers : List Nat) :
    (first.dropRecords sequence numbers).Alike (second.dropRecords sequence numbers) := by
  unfold Registry.dropRecords
  rw [alike.store]
  split
  · exact alike
  · next store _ =>
      have dropped := alike.withStore (some (store.remove sequence numbers).2)
      simp only
      split
      · exact dropped.report _ _
      · exact dropped.report _ _

theorem purgeAcknowledged (alike : first.Alike second) (sequence : SequenceKey)
    (acknowledged : Nat → Bool) :
    (first.purgeAcknowledged sequence acknowledged).2 =
        (second.purgeAcknowledged sequence acknowledged).2 ∧
      (first.purgeAcknowledged sequence acknowledged).1.Alike
        (second.purgeAcknowledged sequence acknowledged).1 := by
  refine traced ?_
  have inside := alike.entered "purge_acknowledged" [sequenceField sequence]
  simp only [inside.numberOf, inside.roster]
  split
  · exact ⟨rfl, inside⟩
  · exact ⟨rfl, (((inside.finishAll .resolved _).withRoster _).report _ _).dropRecords _ _⟩

theorem purgeAll (alike : first.Alike second) (sequence : SequenceKey) :
    (first.purgeAll sequence).2 = (second.purgeAll sequence).2 ∧
      (first.purgeAll sequence).1.Alike (second.purgeAll sequence).1 := by
  refine traced ?_
  have inside := alike.entered "purge_all" [sequenceField sequence]
  simp only [inside.roster]
  split
  · exact ⟨rfl, (inside.finishAll .cancelled _).withRoster _⟩
  · exact ⟨rfl, ((inside.finishAll .cancelled _).withRoster _).report _ _⟩

theorem stop (alike : first.Alike second) (sequence : SequenceKey) :
    (first.stop sequence).Alike (second.stop sequence) := by
  unfold Registry.stop
  apply traced_fst
  have inside := alike.entered "stop" [sequenceField sequence]
  simp only [inside.roster]
  exact inside.finishAll .cancelled _

theorem shutdown (alike : first.Alike second) : first.shutdown.Alike second.shutdown := by
  unfold Registry.shutdown
  apply traced_fst
  have inside := alike.entered "shutdown" []
  simp only [inside.roster]
  exact (inside.finishAll .cancelled _).report _ _

theorem suspend (alike : first.Alike second) (sequence : SequenceKey) :
    (first.suspend sequence).Alike (second.suspend sequence) := by
  unfold Registry.suspend
  apply traced_fst
  have inside := alike.entered "suspend" [sequenceField sequence]
  simp only [inside.roster]
  have paused := inside.foldl (fun identity same =>
    (same.dropTimer identity).modify identity Candidate.suspend)
    (second.roster.activeOf sequence)
  exact (paused.withRoster _).report _ _

theorem wake (alike : first.Alike second) (now identity : Nat) :
    (first.wake now identity).Alike (second.wake now identity) := by
  have freed := alike.modify identity Candidate.unsuspend
  unfold Registry.wake
  rw [alike.candidate?]
  split
  · exact alike
  · split
    · exact alike
    · simp only
      split
      · exact freed
      · exact (freed.modify identity _).arm identity now

theorem resume (alike : first.Alike second) (now : Nat) (sequence : SequenceKey) :
    (first.resume now sequence).Alike (second.resume now sequence) := by
  unfold Registry.resume
  apply traced_fst
  have inside := alike.entered "resume" [sequenceField sequence]
  simp only [inside.roster]
  split
  · exact inside
  · have woken := inside.foldl (fun identity same => same.wake now identity)
      (second.roster.suspendedOf sequence)
    exact (woken.withRoster _).report _ _

end Alike

end Registry

end Redelivery
