import Redelivery.Proofs.Moves

/-!
# What is done with resends

A resend is built, it begins, and the transport completes it, unless it is abandoned before
it begins.  Which of this an instruction does can be told from what it looks at.  The deeds
are entered twice: what they do to candidates is what the instruction does to them, and the
errands that they take and leave account for all errands before and after.
-/

namespace Redelivery

/-- What is done with a resend. -/
inductive Deed where
  /-- It is handed over. -/
  | built (job : Job)
  /-- The message is handed to the transport. -/
  | begun (job : Job)
  /-- The transport is done with the message. -/
  | completed (job : Job)
  /-- It does not go out after all. -/
  | abandoned (job : Job)
  deriving DecidableEq, Repr

namespace Deed

/-- The job that the deed is about. -/
def job : Deed → Job
  | built job | begun job | completed job | abandoned job => job

/-- The errand that is done with. -/
def taken? : Deed → Option Errand
  | built _ => none
  | begun job => some (.waiting job)
  | completed job => some (.underWay job)
  | abandoned job => some (.waiting job)

/-- The errand that is to be run from now on. -/
def left? : Deed → Option Errand
  | built job => some (.waiting job)
  | begun job => some (.underWay job)
  | completed _ => none
  | abandoned _ => none

/-- The errands that deeds take. -/
def takenBy (deeds : List Deed) : Multiset Errand :=
  (deeds.filterMap taken? : List Errand)

/-- The errands that deeds leave. -/
def leftBy (deeds : List Deed) : Multiset Errand :=
  (deeds.filterMap left? : List Errand)

@[simp]
theorem takenBy_append (first second : List Deed) :
    takenBy (first ++ second) = takenBy first + takenBy second := by
  simp [takenBy]

@[simp]
theorem leftBy_append (first second : List Deed) :
    leftBy (first ++ second) = leftBy first + leftBy second := by
  simp [leftBy]

/-- Jobs that are built wait. -/
theorem takenBy_built (jobs : List Job) : takenBy (jobs.map built) = 0 := by
  simp [takenBy, taken?, List.filterMap_map, Function.comp_def]

theorem leftBy_built (jobs : List Job) :
    leftBy (jobs.map built) = (jobs.map Errand.waiting : List Errand) := by
  simp [leftBy, left?, List.filterMap_map, Function.comp_def]

/-- The job of a resend that is built. -/
def built? : Deed → Option Job
  | built job => some job
  | _ => none

/-- The job of a resend that begins. -/
def begun? : Deed → Option Job
  | begun job => some job
  | _ => none

/-- The job of a resend that is completed. -/
def completed? : Deed → Option Job
  | completed job => some job
  | _ => none

/-- The job of a resend that is abandoned. -/
def abandoned? : Deed → Option Job
  | abandoned job => some job
  | _ => none

/-- The jobs with which deeds do one kind of thing. -/
def jobsOf (kind? : Deed → Option Job) (deeds : List Deed) : Multiset Job :=
  (deeds.filterMap kind? : List Job)

theorem jobsOf_cons (kind? : Deed → Option Job) (deed : Deed) (rest : List Deed) :
    jobsOf kind? (deed :: rest) = ((kind? deed).toList : List Job) + jobsOf kind? rest := by
  cases kind : kind? deed <;> simp [jobsOf, kind]

@[simp]
theorem jobsOf_append (kind? : Deed → Option Job) (first second : List Deed) :
    jobsOf kind? (first ++ second) = jobsOf kind? first + jobsOf kind? second := by
  simp [jobsOf]

theorem jobsOf_eq_zero {kind? : Deed → Option Job} {deeds : List Deed}
    (noneSuch : ∀ deed ∈ deeds, kind? deed = none) : jobsOf kind? deeds = 0 := by
  rw [jobsOf, List.filterMap_eq_nil_iff.mpr noneSuch]
  rfl

/-- The deeds that are about a message. -/
def about (identity : Nat) (deeds : List Deed) : List Deed :=
  deeds.filter fun deed => decide (deed.job.candidate = identity)

@[simp]
theorem about_append (identity : Nat) (first second : List Deed) :
    about identity (first ++ second) = about identity first ++ about identity second :=
  List.filter_append first second

end Deed

namespace Outline

/-- What deeds do to the candidates and the resends of an outline, at an instant. -/
inductive Deals (now : Nat) : Outline → List Deed → Outline → Prop where
  | quiet {before after : Outline} : after.candidates = before.candidates →
      after.resends = before.resends → Deals now before [] after
  | build {before after : Outline} {identity : Nat} {job : Option Job} :
      before.Hands identity after job → Deals now before (job.toList.map .built) after
  | begin {before : Outline} {job : Job} :
      Deals now before [.begun job] (before.noteResend now job)
  | complete {before : Outline} {job : Job} :
      Deals now before [.completed job] (before.modify job.candidate (Candidate.completed now))
  | abandon {before : Outline} {job : Job} :
      Deals now before [.abandoned job]
        (before.modify job.candidate (Candidate.abandon · job.requestAck))
  | trans {first middle last : Outline} {early late : List Deed} :
      Deals now first early middle → Deals now middle late last →
      Deals now first (early ++ late) last

/-- Deeds note the resends that begin. -/
theorem Deals.resends {now : Nat} {before after : Outline} {deeds : List Deed}
    (deals : Deals now before deeds after) :
    (after.resends.map Resend.job : Multiset Job) =
      Deed.jobsOf Deed.begun? deeds + (before.resends.map Resend.job : List Job) := by
  induction deals with
  | quiet _ sameResends =>
      rw [sameResends]
      exact (zero_add _).symm
  | build hands =>
      rw [Deed.jobsOf_eq_zero (by simp [Deed.begun?])]
      cases hands with
      | nothing => exact (zero_add _).symm
      | job found free held => exact (zero_add _).symm
  | begin => rfl
  | complete => exact (zero_add _).symm
  | abandon => exact (zero_add _).symm
  | trans _ _ earlier later =>
      rw [later, earlier, Deed.jobsOf_append, ← add_assoc, add_comm (Deed.jobsOf _ _)]

/-- Only the candidates and the resends matter. -/
theorem Deals.congr {now : Nat} {before after first last : Outline} {deeds : List Deed}
    (deals : Deals now before deeds after) (sameCandidates : before.candidates = first.candidates)
    (sameResends : before.resends = first.resends)
    (laterCandidates : last.candidates = after.candidates)
    (laterResends : last.resends = after.resends) : Deals now first deeds last := by
  have extended := (Deals.quiet sameCandidates sameResends).trans
    (deals.trans (.quiet laterCandidates laterResends))
  rwa [List.nil_append, List.append_nil] at extended

/-- Deeds leave alone what a resend does not change about its candidate. -/
theorem Deals.view {β : Type} {view : Candidate → β}
    (same : ∀ (candidate : Candidate) pending requestAck retries previous next interval exhausted,
      view { candidate with pending, requestAck, retries, previous, next, interval, exhausted } =
        view candidate)
    {now : Nat} {before after : Outline} {deeds : List Deed}
    (deals : Deals now before deeds after) (identity : Nat) :
    (after.candidates[identity]?).map view = (before.candidates[identity]?).map view := by
  induction deals with
  | quiet sameCandidates _ => rw [sameCandidates]
  | build hands =>
      cases hands with
      | nothing => rfl
      | job found free held =>
          apply view_modify
          exact fun candidate => same candidate _ _ _ _ _ _ _
  | begin => rfl
  | complete =>
      apply view_modify
      intro candidate
      obtain ⟨_, _, _, _, _, completed⟩ := candidate.completed_eq now
      rw [completed]
      exact same candidate _ _ _ _ _ _ _
  | abandon =>
      apply view_modify
      exact fun candidate => same candidate _ _ _ _ _ _ _
  | trans _ _ earlier later => rw [later, earlier]

/-- Deeds neither end nor revive a candidate. -/
theorem Deals.ending {now : Nat} {before after : Outline} {deeds : List Deed}
    (deals : Deals now before deeds after) (identity : Nat) :
    (after.candidates[identity]?).map Candidate.ending =
      (before.candidates[identity]?).map Candidate.ending :=
  deals.view (fun _ _ _ _ _ _ _ _ => rfl) identity

end Outline

/-! ## The deeds of an instruction -/

/-- What an instruction does with resends, at an instant. -/
def Instruction.deeds (registry : Registry) (now : Nat) : Instruction → List Deed
  | .ring ticket =>
      match registry.agenda.find? ticket with
      | none => []
      | some entry =>
          if Time.wake entry.due ≤ now then
            let taken := { registry with agenda := registry.agenda.cancel ticket }
            (taken.fireTimer entry.task).2.toList.map .built
          else []
  | .send job =>
      if registry.maySend job then
        if (registry.beginSend now job).2.takes = 0 then [.begun job, .completed job]
        else [.begun job]
      else [.abandoned job]
  | .conclude job _ => [.completed job]
  | .driveDue upTo _ =>
      (Service.forceDue (registry.report (.enter "drive_due")) upTo).2.map .built
  | .attempt sequence number _ =>
      match registry.find? sequence number with
      | none => []
      | some identity => (registry.force identity none).2.toList.map .built
  | .runDue upTo _ _ =>
      match registry.agenda.takeDue? upTo with
      | none => []
      | some (entry, agenda) =>
          ({ registry with agenda }.fireTimer entry.task).2.toList.map .built
  | .enqueue _ _ | .acquire _ | .release _ | .serve _ | .hear _ | .leave _ | .reply _ _ => []

namespace Service

open Deed

/-- Deeds account for what the first instruction of a program does. -/
structure Accounts (service : Service) (program : Program)
    (result : Service × Pace Instruction) (deeds : List Deed) : Prop where
  deals : service.world.outline.Deals service.now deeds result.1.world.outline
  errands : errandsIn result.2.programs + errandsIn result.1.world.outline.programs +
      takenBy deeds =
    errandsOf program + errandsIn service.world.outline.programs + leftBy deeds

/-- An instruction that leaves the programs of the registry alone. -/
theorem accounts_change {service : Service} {program rest : Program} {registry : Registry}
    {deeds : List Deed}
    (deals : service.world.outline.Deals service.now deeds registry.outline)
    (samePrograms : registry.outline.programs = service.world.outline.programs)
    (errands : errandsOf rest + takenBy deeds = errandsOf program + leftBy deeds) :
    Accounts service program (service.proceed registry rest) deeds where
  deals := deals
  errands := by
    simp only [proceed, Pace.programs, errandsIn_singleton, samePrograms]
    rw [add_right_comm, errands, add_right_comm]

/-- An instruction that does nothing with resends. -/
theorem accounts_quiet {service : Service} {program : Program}
    {result : Service × Pace Instruction}
    (sameCandidates : result.1.world.outline.candidates = service.world.outline.candidates)
    (sameResends : result.1.world.outline.resends = service.world.outline.resends)
    (errands : errandsIn result.2.programs + errandsIn result.1.world.outline.programs =
      errandsOf program + errandsIn service.world.outline.programs) :
    Accounts service program result [] where
  deals := .quiet sameCandidates sameResends
  errands := congrArg (· + 0) errands

theorem accounts_proceed {service : Service} {program rest : Program} {registry : Registry}
    (sameOutline : registry.outline = service.world.outline)
    (sameErrands : errandsOf program = errandsOf rest) :
    Accounts service program (service.proceed registry rest) [] := by
  apply accounts_change
  · rw [sameOutline]
    exact .quiet rfl rfl
  · rw [sameOutline]
  · rw [sameErrands]
    rfl

/-- Pursuing a job that may have been handed over. -/
theorem accounts_pursue {service : Service} {program rest : Program} {identity : Nat}
    {handed : Registry × Option Job}
    (hands : service.world.outline.Hands identity handed.1.outline handed.2)
    (sameErrands : errandsOf program = errandsOf rest)
    (routing : Candidate → Executor.Routing) :
    Accounts service program (service.pursue handed routing rest)
      (handed.2.toList.map .built) where
  deals := .build hands
  errands := by
    have samePrograms : (service.pursue handed routing rest).1.world.outline.programs =
        service.world.outline.programs := hands.keeps.programs
    rw [errandsIn_pursue hands service routing rest, samePrograms, takenBy_built, leftBy_built,
      sameErrands, Outline.errandsFor]
    abel

theorem accounts_ring (service : Service) (ticket : Nat) :
    Accounts service [.ring ticket] (service.ring ticket [])
      ((Instruction.ring ticket).deeds service.world service.now) := by
  simp only [ring, Instruction.deeds]
  cases service.world.agenda.find? ticket with
  | none =>
      simp only
      apply accounts_quiet
      · rfl
      · rfl
      · rfl
  | some entry =>
      simp only
      split
      · have noErrand : errandsOf [.ring ticket] = errandsOf [] := rfl
        exact accounts_pursue (Registry.hands_fireTimer
          { service.world with agenda := service.world.agenda.cancel ticket } entry.task) noErrand
          Candidate.routing
      · apply accounts_quiet
        · rfl
        · rfl
        · rfl

theorem accounts_send (service : Service) (job : Job) (rest : Program) :
    Accounts service (.send job :: rest) (service.send job rest)
      ((Instruction.send job).deeds service.world service.now) := by
  have waits : errandsOf (.send job :: rest) = .waiting job ::ₘ errandsOf rest :=
    errandsOf_cons_of_some rfl rest
  have begun := Registry.outline_beginSend service.world service.now job
  simp only [send, Instruction.deeds]
  split
  · split
    · have after := Registry.outline_concludeSend (service.world.beginSend service.now job).1
        service.now job (service.world.beginSend service.now job).2.failure
      rw [begun] at after
      apply accounts_change
      · rw [after]
        exact .trans .begin .complete
      · rw [after]
        rfl
      · rw [waits, ← Multiset.singleton_add, add_comm {_}, add_assoc]
        rfl
    · have concludes (failure : Option TransportFailure) :
          errandsOf (.conclude job failure :: rest) = .underWay job ::ₘ errandsOf rest :=
        errandsOf_cons_of_some rfl rest
      have left : leftBy [.begun job] = {.underWay job} := rfl
      have taken : takenBy [.begun job] = {.waiting job} := rfl
      exact {
        deals := begun ▸ .begin
        errands := by
          simp only [Pace.programs, errandsIn_singleton, begun, waits, concludes, left, taken,
            Outline.noteResend, ← Multiset.singleton_add]
          abel }
  · have after := Registry.outline_abandonSend service.world job
    have left : leftBy [.abandoned job] = 0 := rfl
    have taken : takenBy [.abandoned job] = {.waiting job} := rfl
    apply accounts_change
    · rw [after]
      exact .abandon
    · rw [after]
      rfl
    · rw [waits, left, taken, add_zero, add_comm, Multiset.singleton_add]

theorem accounts_conclude (service : Service) (job : Job) (failure : Option TransportFailure)
    (rest : Program) :
    Accounts service (.conclude job failure :: rest)
      (service.proceed (service.world.concludeSend service.now job failure) rest)
      [.completed job] := by
  have after := Registry.outline_concludeSend service.world service.now job failure
  have concludes : errandsOf (.conclude job failure :: rest) = .underWay job ::ₘ errandsOf rest :=
    errandsOf_cons_of_some rfl rest
  have left : leftBy [.completed job] = 0 := rfl
  have taken : takenBy [.completed job] = {.underWay job} := rfl
  apply accounts_change
  · rw [after]
    exact .complete
  · rw [after]
    rfl
  · rw [concludes, left, taken, add_zero, add_comm, Multiset.singleton_add]

/-- Resends of several candidates are built one after the other. -/
theorem deals_forceDue (registry : Registry) (upTo now : Nat) :
    registry.outline.Deals now ((forceDue registry upTo).2.map .built)
      (forceDue registry upTo).1.outline := by
  have builds (handed : Registry × List Job) (identity : Nat) :
      handed.1.outline.Deals now ((handed.1.force identity (some upTo)).2.toList.map .built)
        (forceNext upTo handed identity).1.outline :=
    .build (handed.1.hands_force identity (some upTo))
  obtain ⟨jobs, all, deals⟩ := forceDue_relates
    (fun first last => ∃ jobs, last.2 = first.2 ++ jobs ∧
      first.1.outline.Deals now (jobs.map .built) last.1.outline)
    registry upTo (fun _ => ⟨[], (List.append_nil _).symm, .quiet rfl rfl⟩)
    (fun {_ _ _} ⟨early, earlyGrown, earlier⟩ ⟨late, lateGrown, later⟩ =>
      ⟨early ++ late, by rw [lateGrown, earlyGrown, List.append_assoc],
        List.map_append ▸ earlier.trans later⟩)
    fun handed identity => ⟨_, rfl, builds handed identity⟩
  rw [all, List.nil_append]
  exact deals

theorem accounts_driveDue (service : Service) (upTo call : Nat) (rest : Program) :
    Accounts service (.driveDue upTo call :: rest) (service.driveDue upTo call rest)
      ((Instruction.driveDue upTo call).deeds service.world service.now) := by
  simp only [Instruction.deeds, driveDue]
  apply accounts_change
    (deals_forceDue (service.world.report (.enter "drive_due")) upTo service.now)
    (keeps_forceDue (service.world.report (.enter "drive_due")) upTo).programs
  rw [takenBy_built, leftBy_built, errandsOf_append, errandsOf_deliveries,
    errandsOf_cons_of_none rfl, errandsOf_cons_of_none rfl, errandsOf_cons_of_none rfl, add_zero,
    add_comm]
  rfl

/-- Every instruction but one is accounted for by its deeds; the other one ends all
candidates. -/
theorem accounts_perform (service : Service) {instruction : Instruction} (rest : Program)
    (last : instruction.isLast = true → rest = [])
    (noEnd : ∀ news, instruction ≠ .hear news) :
    Accounts service (instruction :: rest) (perform instruction rest service)
      (instruction.deeds service.world service.now) := by
  cases instruction with
  | ring ticket =>
      obtain rfl := last rfl
      exact accounts_ring service ticket
  | send job => exact accounts_send service job rest
  | conclude job failure => exact accounts_conclude service job failure rest
  | enqueue pool job =>
      apply accounts_quiet
      · rfl
      · rfl
      · simp only [perform, proceed, Pace.programs, errandsIn_singleton]
        exact errandsIn_enqueue service pool job rest
  | acquire pool =>
      apply accounts_quiet
      · rfl
      · rfl
      · exact errandsIn_acquire service pool rest
  | release pool =>
      exact accounts_proceed (outline_release service pool rest) (errandsOf_cons_of_none rfl rest)
  | driveDue upTo call => exact accounts_driveDue service upTo call rest
  | attempt sequence number call =>
      have replies (answer : Answer) : errandsOf (.attempt sequence number call :: rest) =
          errandsOf (.reply call answer :: rest) := by
        rw [errandsOf_cons_of_none rfl, errandsOf_cons_of_none rfl]
      simp only [perform, attempt, Instruction.deeds]
      cases service.world.find? sequence number with
      | none => exact accounts_proceed rfl (replies _)
      | some identity =>
          exact accounts_pursue (service.world.hands_force identity none) (replies _) _
  | runDue upTo ran call =>
      simp only [perform, runDue, Instruction.deeds]
      cases service.world.agenda.takeDue? upTo with
      | none =>
          apply accounts_proceed rfl
          rw [errandsOf_cons_of_none rfl, errandsOf_cons_of_none rfl]
      | some due =>
          obtain ⟨entry, agenda⟩ := due
          refine accounts_pursue (Registry.hands_fireTimer { service.world with agenda }
            entry.task) ?_ _
          rw [errandsOf_cons_of_none rfl, errandsOf_cons_of_none rfl]
  | serve call =>
      obtain rfl := last rfl
      apply accounts_quiet
      · rfl
      · rfl
      · rfl
  | hear news => exact absurd rfl (noEnd news)
  | leave operation =>
      exact accounts_proceed (Registry.outline_report _ _) (errandsOf_cons_of_none rfl rest)
  | reply call answer => exact accounts_proceed rfl (errandsOf_cons_of_none rfl rest)

end Service

end Redelivery
