import Redelivery.Proofs.Programs

/-!
# What matters apart from timers

The outline of a registry leaves out the timers, their activities, and the log.
What remains are the candidates without their timers, the roster, the resends
that went out, and the other programs.  Those hold the errands: resends that
were handed over and have neither completed nor been skipped.  Every function of
the registry has an exact effect on the outline, whatever the timers do.
-/

namespace Redelivery

/-! ## Candidates without timers -/

namespace Candidate

/-- The candidate without its timer. -/
def untimed (candidate : Candidate) : Candidate :=
  { candidate with timer := none, generation := 0 }

@[simp]
theorem untimed_disarm (candidate : Candidate) : candidate.disarm.untimed = candidate.untimed :=
  rfl

/-- The candidate with another timer. -/
def withTimer (ticket : Option Nat) (candidate : Candidate) : Candidate :=
  { candidate with timer := ticket }

@[simp]
theorem untimed_withTimer (ticket : Option Nat) (candidate : Candidate) :
    (candidate.withTimer ticket).untimed = candidate.untimed :=
  rfl

theorem untimed_abandon (candidate : Candidate) (requestAck : Bool) :
    (candidate.abandon requestAck).untimed = candidate.untimed.abandon requestAck :=
  rfl

/-- The candidate with one more resend completed. -/
def counted (now : Nat) (candidate : Candidate) : Candidate :=
  { candidate with
    pending := false
    retries := min (candidate.retries + 1) greatestRetries
    previous := some now }

/-- A resend completes at an instant: what becomes of its candidate, and what it leads to. -/
inductive Completes (candidate : Candidate) (now : Nat) : Candidate → Sequel → Prop where
  | ended :
      candidate.ending ≠ none →
      candidate.Completes now { candidate with pending := false } .ended
  | exhausted :
      candidate.ending = none →
      candidate.policy.shouldRetry (candidate.counted now).retries = false →
      candidate.Completes now { candidate.counted now with exhausted := true } .exhausted
  | held :
      candidate.ending = none →
      candidate.policy.shouldRetry (candidate.counted now).retries = true →
      candidate.suspended = true →
      candidate.Completes now (candidate.counted now) .held
  | next {interval : Nat} :
      candidate.ending = none →
      candidate.policy.shouldRetry (candidate.counted now).retries = true →
      candidate.suspended = false →
      candidate.policy.nextInterval candidate.interval = some interval →
      candidate.Completes now
        { candidate.counted now with next := candidate.next + candidate.interval, interval }
        (.next (candidate.next + candidate.interval))
  | overflow :
      candidate.ending = none →
      candidate.policy.shouldRetry (candidate.counted now).retries = true →
      candidate.suspended = false →
      candidate.policy.nextInterval candidate.interval = none →
      candidate.Completes now (candidate.counted now) .overflow

theorem Completes.eq {candidate after : Candidate} {now : Nat} {sequel : Sequel}
    (completes : candidate.Completes now after sequel) :
    candidate.complete now = (after, sequel) := by
  cases completes with
  | ended ended => exact if_pos (Option.isSome_iff_ne_none.mpr ended)
  | exhausted active last =>
      simp only [counted] at last
      simp [complete, counted, active, last]
  | held active further suspended =>
      simp only [counted] at further
      simp [complete, counted, active, further, suspended]
  | next active further unsuspended interval =>
      simp only [counted] at further
      simp [complete, counted, active, further, unsuspended, interval]
  | overflow active further unsuspended interval =>
      simp only [counted] at further
      simp [complete, counted, active, further, unsuspended, interval]

/-- Every resend completes in one of these ways. -/
theorem exists_completes (candidate : Candidate) (now : Nat) :
    ∃ after sequel, candidate.complete now = (after, sequel) ∧
      candidate.Completes now after sequel := by
  obtain ⟨after, sequel, completes⟩ :
      ∃ after sequel, candidate.Completes now after sequel := by
    cases ended : candidate.ending with
    | some ending => exact ⟨_, _, .ended (ended ▸ Option.some_ne_none ending)⟩
    | none =>
        cases further : candidate.policy.shouldRetry (candidate.counted now).retries with
        | false => exact ⟨_, _, .exhausted ended further⟩
        | true =>
            cases suspended : candidate.suspended with
            | true => exact ⟨_, _, .held ended further suspended⟩
            | false =>
                cases follows : candidate.policy.nextInterval candidate.interval with
                | some interval => exact ⟨_, _, .next ended further suspended follows⟩
                | none => exact ⟨_, _, .overflow ended further suspended follows⟩
  exact ⟨after, sequel, completes.eq, completes⟩

/-- The candidate after a completed resend. -/
def completed (now : Nat) (candidate : Candidate) : Candidate :=
  (candidate.complete now).1

theorem exists_completed (now : Nat) (candidate : Candidate) :
    ∃ sequel, candidate.Completes now (candidate.completed now) sequel := by
  obtain ⟨after, sequel, outcome, completes⟩ := candidate.exists_completes now
  rw [completed, outcome]
  exact ⟨sequel, completes⟩

/-- Completion does not look at the timer, which stays. -/
theorem Completes.timer {candidate after : Candidate} {now : Nat} {sequel : Sequel}
    (completes : candidate.Completes now after sequel) : after.timer = candidate.timer := by
  cases completes <;> rfl

theorem Completes.untimed {candidate after : Candidate} {now : Nat} {sequel : Sequel}
    (completes : candidate.Completes now after sequel) :
    candidate.untimed.Completes now after.untimed sequel := by
  cases completes with
  | ended ended => exact .ended ended
  | exhausted active last => exact .exhausted active last
  | held active further suspended => exact .held active further suspended
  | next active further unsuspended interval => exact .next active further unsuspended interval
  | overflow active further unsuspended interval =>
      exact .overflow active further unsuspended interval

theorem untimed_completed (now : Nat) (candidate : Candidate) :
    (candidate.completed now).untimed = candidate.untimed.completed now := by
  obtain ⟨sequel, completes⟩ := candidate.exists_completed now
  exact (congrArg Prod.fst completes.untimed.eq).symm

/-- Completion ends the wait for the resend, and apart from that changes the
schedule only. -/
theorem completed_eq (now : Nat) (candidate : Candidate) :
    ∃ retries previous next interval exhausted, candidate.completed now =
      { candidate with pending := false, retries, previous, next, interval, exhausted } := by
  obtain ⟨sequel, completes⟩ := candidate.exists_completed now
  generalize candidate.completed now = after at completes ⊢
  cases completes with
  | ended _ | exhausted _ _ | held _ _ _ | next _ _ _ _ | overflow _ _ _ _ =>
      exact ⟨_, _, _, _, _, rfl⟩

/-- The end of a candidate, its timer left out. -/
def finished (ending : Ending) (candidate : Candidate) : Candidate :=
  (candidate.finish ending).untimed

theorem untimed_finish (candidate : Candidate) (ending : Ending) :
    (candidate.finish ending).untimed = candidate.untimed.finished ending :=
  rfl

/-- The first ending stands. -/
theorem finished_finished (ending : Ending) (candidate : Candidate) :
    (candidate.finished ending).finished ending = candidate.finished ending := by
  cases ended : candidate.ending <;> simp [finished, finish, disarm, untimed, ended]

/-- The suspension of a candidate, its timer left out. -/
def paused (candidate : Candidate) : Candidate :=
  candidate.suspend.untimed

theorem untimed_suspend (candidate : Candidate) :
    candidate.suspend.untimed = candidate.untimed.paused := by
  cases ended : candidate.ending <;> simp [paused, suspend, disarm, untimed, ended]

/-- Suspension changes the mark of suspension only, timers apart. -/
theorem paused_eq (candidate : Candidate) :
    ∃ suspended, candidate.paused =
        { candidate with suspended, timer := none, generation := 0 } ∧
      (candidate.ending = none → suspended = true) := by
  unfold paused suspend
  split
  · next ended => exact ⟨_, rfl, fun active => by simp [active] at ended⟩
  · exact ⟨_, rfl, fun _ => rfl⟩

theorem paused_paused (candidate : Candidate) : candidate.paused.paused = candidate.paused := by
  cases ended : candidate.ending <;> simp [paused, suspend, disarm, untimed, ended]

/-- What a resumption at `now` makes of a candidate, its timer left out. -/
def woken (now : Nat) (candidate : Candidate) : Candidate :=
  if !candidate.suspended then candidate
  else if candidate.isInert || !candidate.addressable then candidate.unsuspend
  else { candidate.unsuspend with next := now }

/-- Waking up ends suspension, and apart from that changes the due instant and the
request for an acknowledgment only. -/
theorem woken_eq (now : Nat) (candidate : Candidate) :
    ∃ next requestAck, candidate.woken now =
      { candidate with suspended := false, next, requestAck } := by
  unfold woken
  split
  · next active =>
      have notSuspended : candidate.suspended = false := by simpa using active
      exact ⟨candidate.next, candidate.requestAck, by rw [← notSuspended]⟩
  · split <;> exact ⟨_, _, rfl⟩

/-- A candidate that leaves suspension asks for an acknowledgment again. -/
theorem requestAck_woken {candidate : Candidate} (suspended : candidate.suspended = true)
    (now : Nat) : (candidate.woken now).requestAck = true := by
  unfold woken
  rw [suspended]
  simp only [Bool.not_true, Bool.false_eq_true, if_false]
  split <;> rfl

theorem woken_woken (now : Nat) (candidate : Candidate) :
    (candidate.woken now).woken now = candidate.woken now := by
  have active : (candidate.woken now).suspended = false := by
    rcases candidate.woken_eq now with ⟨_, _, woken⟩
    rw [woken]
  exact if_pos (by rw [active]; rfl)

/-- A candidate that has handed over a resend, which has taken the request for an
acknowledgment along. -/
def handedOver (candidate : Candidate) : Candidate :=
  { candidate with pending := true, requestAck := false }

/-- The resend that a candidate hands over. -/
def job (candidate : Candidate) (identity : Nat) (message : Message) : Job :=
  { candidate := identity, message, requestAck := candidate.requestAck }

@[simp]
theorem candidate_job (candidate : Candidate) (identity : Nat) (message : Message) :
    (candidate.job identity message).candidate = identity :=
  rfl

theorem handOver_eq_some {candidate : Candidate} {message : Message}
    (held : candidate.message = some message) (identity : Nat) :
    candidate.handOver identity =
      some (candidate.job identity message, candidate.handedOver) :=
  congrArg (Option.map fun message =>
    (candidate.job identity message, candidate.handedOver)) held

/-- A free candidate has a message to resend. -/
theorem exists_message_of_isFree {candidate : Candidate} (free : candidate.isFree = true) :
    ∃ message, candidate.message = some message := by
  apply Option.isSome_iff_exists.mp
  cases message : candidate.message with
  | none => simp [isFree, isInert, message] at free
  | some message => rfl

end Candidate

/-! ## Errands -/

/-- A resend that is on its way. -/
inductive Errand where
  /-- It was handed over and has not begun. -/
  | waiting (job : Job)
  /-- It has begun and has not completed. -/
  | underWay (job : Job)
  deriving DecidableEq

/-- The job of an errand. -/
def Errand.job : Errand → Job
  | waiting job => job
  | underWay job => job

@[simp]
theorem Errand.job_waiting (job : Job) : (waiting job).job = job :=
  rfl

@[simp]
theorem Errand.job_underWay (job : Job) : (underWay job).job = job :=
  rfl

/-- The errand that an instruction runs. -/
def Instruction.errand? : Instruction → Option Errand
  | .send job => some (.waiting job)
  | .enqueue _ job => some (.waiting job)
  | .conclude job _ => some (.underWay job)
  | _ => none

/-- The errands of a program. -/
def errandsOf (program : Program) : Multiset Errand :=
  (program.filterMap Instruction.errand? : List Errand)

/-- The errands of programs. -/
def errandsIn (programs : Multiset Program) : Multiset Errand :=
  programs.bind errandsOf

@[simp]
theorem errandsOf_nil : errandsOf [] = 0 :=
  rfl

theorem errandsOf_cons (instruction : Instruction) (rest : Program) :
    errandsOf (instruction :: rest) =
      (instruction.errand?.toList : List Errand) + errandsOf rest := by
  cases errand : instruction.errand? <;>
    simp [errandsOf, errand]

theorem errandsOf_cons_of_none {instruction : Instruction} (noErrand : instruction.errand? = none)
    (rest : Program) : errandsOf (instruction :: rest) = errandsOf rest := by
  simp [errandsOf_cons, noErrand]

theorem errandsOf_cons_of_some {instruction : Instruction} {errand : Errand}
    (isErrand : instruction.errand? = some errand) (rest : Program) :
    errandsOf (instruction :: rest) = errand ::ₘ errandsOf rest := by
  simp [errandsOf_cons, isErrand]

@[simp]
theorem errandsOf_append (first second : Program) :
    errandsOf (first ++ second) = errandsOf first + errandsOf second := by
  simp [errandsOf]

/-- A delivery is one errand, wherever it is run. -/
@[simp]
theorem errandsOf_delivery (routing : Executor.Routing) (job : Job) :
    errandsOf (Registry.delivery routing job) = {.waiting job} := by
  unfold Registry.delivery
  split <;> rfl

@[simp]
theorem errandsIn_singleton (program : Program) : errandsIn {program} = errandsOf program :=
  Multiset.singleton_bind program errandsOf

@[simp]
theorem errandsIn_cons (program : Program) (programs : Multiset Program) :
    errandsIn (program ::ₘ programs) = errandsOf program + errandsIn programs :=
  Multiset.cons_bind program programs errandsOf

@[simp]
theorem errandsIn_add (first second : Multiset Program) :
    errandsIn (first + second) = errandsIn first + errandsIn second :=
  Multiset.add_bind first second errandsOf

theorem errandsIn_eq_zero {programs : Multiset Program}
    (noErrand : ∀ program ∈ programs, errandsOf program = 0) : errandsIn programs = 0 :=
  (Multiset.bind_congr noErrand).trans (Multiset.bind_zero programs)

/-! ## Outlines -/

/-- Whether a program is the activity of a timer. -/
def isRing : Program → Bool
  | [.ring _] => true
  | _ => false

/-- The programs that are not activities of timers. -/
def apartFromRings (programs : Multiset Program) : Multiset Program :=
  programs.filter fun program => isRing program = false

@[simp]
theorem apartFromRings_add (first second : Multiset Program) :
    apartFromRings (first + second) = apartFromRings first + apartFromRings second :=
  Multiset.filter_add _ first second

/-- The activity of a timer runs no errand. -/
@[simp]
theorem errandsIn_apartFromRings (programs : Multiset Program) :
    errandsIn (apartFromRings programs) = errandsIn programs := by
  induction programs using Multiset.induction_on with
  | empty => rfl
  | cons program rest inductionHypothesis =>
      cases ring : isRing program with
      | false => simp [apartFromRings, ring, ← inductionHypothesis]
      | true =>
          have noErrand : errandsOf program = 0 := by
            unfold isRing at ring
            split at ring
            · rfl
            · cases ring
          rw [errandsIn_cons, noErrand, zero_add, ← inductionHypothesis]
          simp [apartFromRings, ring]

/-- What matters of a registry or a service apart from its timers. -/
structure Outline where
  candidates : List Candidate
  roster : Roster
  /-- The resends that went out, newest first. -/
  resends : List Resend
  programs : Multiset Program

namespace Outline

/-- Change the candidate of an identity. -/
def modify (outline : Outline) (identity : Nat) (change : Candidate → Candidate) : Outline :=
  { outline with candidates := outline.candidates.modify identity change }

/-- Change the candidates of several identities. -/
def modifyAll (outline : Outline) (identities : List Nat) (change : Candidate → Candidate) :
    Outline :=
  { outline with
    candidates := outline.candidates.mapIdx fun identity candidate =>
      if identity ∈ identities then change candidate else candidate }

/-- Note a resend that goes out. -/
def noteResend (outline : Outline) (now : Nat) (job : Job) : Outline :=
  { outline with resends := { instant := now, job } :: outline.resends }

/-- Add programs. -/
def withPrograms (outline : Outline) (programs : Multiset Program) : Outline :=
  { outline with programs := programs + outline.programs }

@[simp]
theorem modify_id (outline : Outline) (identity : Nat) :
    (outline.modify identity fun candidate => candidate) = outline := by
  rw [modify, show (fun candidate : Candidate => candidate) = id from rfl, List.modify_id]

theorem modify_modify (outline : Outline) (identity : Nat) (first second : Candidate → Candidate) :
    (outline.modify identity first).modify identity second =
      outline.modify identity (second ∘ first) := by
  simp [modify, List.modify_modify_eq]

/-- Only what a change does to the candidate in question matters. -/
theorem modify_congr {outline : Outline} {identity : Nat} {candidate : Candidate}
    (found : outline.candidates[identity]? = some candidate)
    {first second : Candidate → Candidate} (agree : first candidate = second candidate) :
    outline.modify identity first = outline.modify identity second := by
  simp only [modify]
  congr 1
  refine List.ext_getElem? fun other => ?_
  simp only [List.getElem?_modify]
  by_cases same : identity = other
  · subst same
    simp [found, agree]
  · simp [same]

@[simp]
theorem withPrograms_zero (outline : Outline) : outline.withPrograms 0 = outline := by
  simp [withPrograms]

theorem getElem?_modifyAll (outline : Outline) (identities : List Nat)
    (change : Candidate → Candidate) (identity : Nat) :
    (outline.modifyAll identities change).candidates[identity]? =
      outline.candidates[identity]?.map fun candidate =>
        if identity ∈ identities then change candidate else candidate := by
  simp [modifyAll]

/-- What no change of one candidate touches stays the same for all of them. -/
theorem view_modify {β : Type} {view : Candidate → β} {change : Candidate → Candidate}
    (same : ∀ candidate, view (change candidate) = view candidate) (outline : Outline)
    (identity other : Nat) :
    ((outline.modify identity change).candidates[other]?).map view =
      (outline.candidates[other]?).map view := by
  rw [modify, List.getElem?_modify]
  cases outline.candidates[other]? with
  | none => rfl
  | some candidate =>
      by_cases changed : identity = other
      · simp [changed, same]
      · simp [changed]

theorem view_modifyAll {β : Type} {view : Candidate → β} {change : Candidate → Candidate}
    (same : ∀ candidate, view (change candidate) = view candidate) (outline : Outline)
    (identities : List Nat) (other : Nat) :
    ((outline.modifyAll identities change).candidates[other]?).map view =
      (outline.candidates[other]?).map view := by
  rw [getElem?_modifyAll, Option.map_map]
  cases outline.candidates[other]? with
  | none => rfl
  | some candidate =>
      simp only [Option.map_some, Function.comp_apply]
      split
      · rw [same]
      · rfl

theorem modifyAll_nil (outline : Outline) (change : Candidate → Candidate) :
    outline.modifyAll [] change = outline := by
  have same : (outline.candidates.mapIdx fun _ candidate => candidate) = outline.candidates := by
    simp [List.mapIdx_eq_zipIdx_map]
  simp [modifyAll, same]

/-- A change that makes no difference where it is made a second time may be made one candidate
after the other. -/
theorem modifyAll_cons (outline : Outline) {identity : Nat} {rest : List Nat}
    {change : Candidate → Candidate}
    (idempotent : identity ∈ rest → ∀ candidate, change (change candidate) = change candidate) :
    outline.modifyAll (identity :: rest) change =
      (outline.modify identity change).modifyAll rest change := by
  simp only [modifyAll, modify]
  congr 1
  refine List.ext_getElem? fun other => ?_
  simp only [List.getElem?_mapIdx, List.getElem?_modify, List.mem_cons]
  cases outline.candidates[other]? with
  | none => rfl
  | some candidate =>
      by_cases same : other = identity
      · by_cases again : identity ∈ rest
        · simp [same, again, idempotent again]
        · simp [same, again]
      · simp [same, Ne.symm same]

end Outline

end Redelivery
