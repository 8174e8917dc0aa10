import Redelivery.Proofs.Steps

/-!
# What instructions do

Whatever instruction an activity performs, the share of each message takes one
step and the roster stays as it is.  No errand gets lost, because an activity
that may end early has nothing left to do.
-/

namespace Redelivery

/-! ## Tidy programs -/

/-- An activity ends with the wait for a timer, which may have been given up, and
with the wait for a shutdown signal. -/
def Instruction.isLast : Instruction → Bool
  | .ring _ => true
  | .serve _ => true
  | _ => false

/-- A program in which nothing follows an instruction with which it may end. -/
def IsTidy (program : Program) : Prop :=
  program.Pairwise fun first _ => first.isLast = false

theorem isTidy_nil : IsTidy [] :=
  List.Pairwise.nil

theorem IsTidy.cons {rest : Program} (tidy : IsTidy rest) {instruction : Instruction}
    (goesOn : instruction.isLast = false) : IsTidy (instruction :: rest) :=
  List.pairwise_cons.mpr ⟨fun _ _ => goesOn, tidy⟩

theorem IsTidy.tail {instruction : Instruction} {rest : Program}
    (tidy : IsTidy (instruction :: rest)) : IsTidy rest :=
  (List.pairwise_cons.mp tidy).2

/-- Nothing follows an instruction with which a tidy program may end. -/
theorem IsTidy.eq_nil {instruction : Instruction} {rest : Program}
    (tidy : IsTidy (instruction :: rest)) (last : instruction.isLast = true) : rest = [] := by
  cases rest with
  | nil => rfl
  | cons next rest =>
      have goesOn := (List.pairwise_cons.mp tidy).1 next List.mem_cons_self
      rw [last] at goesOn
      cases goesOn

/-- The activity of a timer is tidy. -/
theorem isTidy_of_apartFromRings {programs : Multiset Program}
    (tidy : ∀ program ∈ apartFromRings programs, IsTidy program) :
    ∀ program ∈ programs, IsTidy program := by
  intro program present
  cases ring : isRing program with
  | false => exact tidy program (Multiset.mem_filter.mpr ⟨present, ring⟩)
  | true =>
      unfold isRing at ring
      split at ring
      · exact List.pairwise_singleton _ _
      · cases ring

theorem IsTidy.delivery {rest : Program} (tidy : IsTidy rest) (routing : Executor.Routing)
    (job : Job) : IsTidy (Registry.delivery routing job ++ rest) := by
  unfold Registry.delivery
  split
  · exact tidy.cons rfl
  · exact tidy.cons rfl

theorem IsTidy.deliveries {rest : Program} (tidy : IsTidy rest) (routing : Executor.Routing)
    (jobs : List Job) : IsTidy (jobs.flatMap (Registry.delivery routing) ++ rest) := by
  induction jobs with
  | nil => exact tidy
  | cons job more inductionHypothesis =>
      rw [List.flatMap_cons, List.append_assoc]
      exact inductionHypothesis.delivery routing job

namespace Outline

/-- What a change of candidates and the note of a resend leave alone. -/
structure Keeps (before after : Outline) : Prop where
  roster : after.roster = before.roster
  programs : after.programs = before.programs
  resends : before.resends <:+ after.resends

theorem Keeps.refl (outline : Outline) : outline.Keeps outline :=
  ⟨rfl, rfl, List.suffix_refl _⟩

theorem Keeps.trans {first second third : Outline} (earlier : first.Keeps second)
    (later : second.Keeps third) : first.Keeps third :=
  ⟨later.roster.trans earlier.roster, later.programs.trans earlier.programs,
    earlier.resends.trans later.resends⟩

theorem keeps_modify (outline : Outline) (identity : Nat) (change : Candidate → Candidate) :
    outline.Keeps (outline.modify identity change) :=
  ⟨rfl, rfl, List.suffix_refl _⟩

theorem keeps_modifyAll (outline : Outline) (identities : List Nat)
    (change : Candidate → Candidate) : outline.Keeps (outline.modifyAll identities change) :=
  ⟨rfl, rfl, List.suffix_refl _⟩

theorem keeps_noteResend (outline : Outline) (now : Nat) (job : Job) :
    outline.Keeps (outline.noteResend now job) :=
  ⟨rfl, rfl, List.suffix_cons _ _⟩

theorem Hands.keeps {before after : Outline} {identity : Nat} {job : Option Job}
    (hands : before.Hands identity after job) : before.Keeps after := by
  cases hands with
  | nothing => exact .refl _
  | job found free held => exact keeps_modify _ _ _

end Outline

namespace Service

/-! ## Handing over by instructions -/

/-- Whoever pursues a job that was handed over takes its errand on. -/
theorem errandsIn_pursue {before : Outline} {identity : Nat} {handed : Registry × Option Job}
    (hands : before.Hands identity handed.1.outline handed.2) (service : Service)
    (routing : Candidate → Executor.Routing) (rest : Program) :
    errandsIn (service.pursue handed routing rest).2.programs =
      Outline.errandsFor handed.2 + errandsOf rest := by
  rcases handed with ⟨registry, job⟩
  simp only [pursue, proceed, Pace.programs, errandsIn_singleton, errandsOf_append]
  cases job with
  | none => rfl
  | some job =>
      have present : (registry.candidate? job.candidate).isSome := by
        simp only at hands
        generalize after : registry.outline = outline at hands
        cases hands with
        | @job candidate message found free held =>
            have still := registry.getElem?_outline identity
            rw [after] at still
            simp only [Outline.modify, List.getElem?_modify_eq, found] at still
            rcases Option.map_eq_some_iff.mp still.symm with ⟨present, isPresent, _⟩
            rw [Candidate.candidate_job, isPresent]
            rfl
      rcases Option.isSome_iff_exists.mp present with ⟨candidate, found⟩
      simp only [found, errandsOf_delivery]
      rfl

/-- What the first instruction of a program may do: the roster stays, resends are only
ever added, programs stay tidy, and every message takes a step, whatever other
errands there are. -/
structure TakesStep (service : Service) (program : Program)
    (result : Service × Pace Instruction) : Prop where
  roster : result.1.world.roster = service.world.roster
  resends : service.world.outline.resends <:+ result.1.world.outline.resends
  tidy : IsTidy program → (∀ other ∈ service.world.outline.programs, IsTidy other) →
    ∀ other ∈ result.2.programs + result.1.world.outline.programs, IsTidy other
  step : ∀ (others : Multiset Errand) (identity : Nat),
    Share.Step service.now
      (service.world.outline.shareWith identity (errandsOf program + others))
      (result.1.world.outline.shareWith identity (errandsIn result.2.programs + others))

/-- Where the registry keeps its programs, those that go on have to be tidy. -/
theorem tidy_of_goesOn {program : Program} {before after pace : Multiset Program}
    (kept : after = before) (goesOn : IsTidy program → ∀ other ∈ pace, IsTidy other) :
    IsTidy program → (∀ other ∈ before, IsTidy other) →
      ∀ other ∈ pace + after, IsTidy other := by
  intro tidy allTidy other present
  rcases Multiset.mem_add.mp present with goes | stays
  · exact goesOn tidy other goes
  · exact allTidy other (kept ▸ stays)

/-- An instruction that only carries errands from one place to another. -/
theorem step_of_same {service : Service} {program : Program}
    {result : Service × Pace Instruction}
    (sameCandidates : service.world.outline.candidates = result.1.world.outline.candidates)
    (sameResends : service.world.outline.resends = result.1.world.outline.resends)
    (sameErrands : errandsOf program + errandsIn service.world.outline.programs =
      errandsIn result.2.programs + errandsIn result.1.world.outline.programs)
    (others : Multiset Errand) (identity : Nat) :
    Share.Step service.now
      (service.world.outline.shareWith identity (errandsOf program + others))
      (result.1.world.outline.shareWith identity (errandsIn result.2.programs + others)) := by
  have same := Outline.shareWith_congr sameCandidates sameResends
    (by rw [add_right_comm, sameErrands, add_right_comm] :
      errandsOf program + others + errandsIn service.world.outline.programs =
        errandsIn result.2.programs + others + errandsIn result.1.world.outline.programs) identity
  rw [same]
  exact .quiet

/-- An instruction that changes neither the roster nor the programs of the
registry. -/
theorem takesStep_change {service : Service} {program rest : Program} {registry : Registry}
    (keeps : service.world.outline.Keeps registry.outline)
    (goesOn : IsTidy program → IsTidy rest)
    (step : ∀ (others : Multiset Errand) (identity : Nat), Share.Step service.now
      (service.world.outline.shareWith identity (errandsOf program + others))
      (registry.outline.shareWith identity (errandsOf rest + others))) :
    TakesStep service program (service.proceed registry rest) where
  roster := keeps.roster
  resends := keeps.resends
  tidy := by
    refine tidy_of_goesOn keeps.programs fun tidy other present => ?_
    rw [Multiset.mem_singleton.mp present]
    exact goesOn tidy
  step := by
    intro others identity
    simp only [proceed, Pace.programs, errandsIn_singleton]
    exact step others identity

/-- An instruction that changes nothing in the outline and runs no errand. -/
theorem takesStep_proceed {service : Service} {program rest : Program} {registry : Registry}
    (sameOutline : registry.outline = service.world.outline)
    (sameErrands : errandsOf program = errandsOf rest) (goesOn : IsTidy program → IsTidy rest) :
    TakesStep service program (service.proceed registry rest) := by
  apply takesStep_change (sameOutline ▸ .refl _) goesOn
  intro others identity
  rw [sameOutline, sameErrands]
  exact .quiet

/-- Pursuing a job that was handed over. -/
theorem takesStep_pursue {service : Service} {program rest : Program} {identity : Nat}
    {handed : Registry × Option Job}
    (hands : service.world.outline.Hands identity handed.1.outline handed.2)
    (sameErrands : errandsOf program = errandsOf rest) (goesOn : IsTidy program → IsTidy rest)
    (routing : Candidate → Executor.Routing) :
    TakesStep service program (service.pursue handed routing rest) := by
  have errands := errandsIn_pursue hands service routing rest
  simp only [pursue, proceed, Pace.programs, errandsIn_singleton] at errands
  refine takesStep_change hands.keeps ?_ ?_
  · intro tidy
    split
    · exact goesOn tidy
    · split
      · exact goesOn tidy
      · exact (goesOn tidy).delivery _ _
  · intro others other
    rw [errands, add_assoc, sameErrands]
    exact (hands.lends (errandsOf rest + others) other).step

/-- Force one more candidate, and add its job to those that were handed over. -/
def forceNext (upTo : Nat) (handed : Registry × List Job) (identity : Nat) :
    Registry × List Job :=
  ((handed.1.force identity (some upTo)).1,
    handed.2 ++ (handed.1.force identity (some upTo)).2.toList)

/-- A reflexive and transitive relation that forcing one more candidate keeps is kept when all
that is due is forced. -/
theorem forceDue_relates (relates : Registry × List Job → Registry × List Job → Prop)
    (registry : Registry) (upTo : Nat) (refl : ∀ handed, relates handed handed)
    (trans : ∀ {first middle last}, relates first middle → relates middle last →
      relates first last)
    (forces : ∀ handed identity, relates handed (forceNext upTo handed identity)) :
    relates (registry, []) (forceDue registry upTo) :=
  List.foldlRecOn (motive := relates (registry, [])) registry.roster.allActive (forceNext upTo)
    (refl _) fun handed earlier identity _ => trans earlier (forces handed identity)

/-- The errands of jobs that were handed over. -/
def errandsForAll (jobs : List Job) : Multiset Errand :=
  (jobs.map Errand.waiting : List Errand)

/-- Handing over resends one candidate after the other lends at most one errand to
each message, because a candidate that has handed over is not free any more. -/
theorem lends_forceDue (registry : Registry) (upTo : Nat) (others : Multiset Errand)
    (other : Nat) :
    Share.Lends other (registry.outline.shareWith other others)
      ((forceDue registry upTo).1.outline.shareWith other
        (errandsForAll (forceDue registry upTo).2 + others)) := by
  have lends := forceDue_relates
    (fun first last => Share.Lends other
      (first.1.outline.shareWith other (errandsForAll first.2 + others))
      (last.1.outline.shareWith other (errandsForAll last.2 + others)))
    registry upTo (fun _ => .nothing) .trans fun handed identity => ?_
  · have started : errandsForAll [] + others = others := zero_add _
    rw [started] at lends
    exact lends
  · have joined : errandsForAll (forceNext upTo handed identity).2 =
        Outline.errandsFor (handed.1.force identity (some upTo)).2 + errandsForAll handed.2 := by
      simp only [errandsForAll, forceNext, List.map_append, ← Multiset.coe_add]
      exact add_comm _ _
    rw [joined, add_assoc]
    exact (handed.1.hands_force identity (some upTo)).lends (errandsForAll handed.2 + others) other

/-- The programs that deliver jobs run their errands. -/
theorem errandsOf_deliveries (routing : Executor.Routing) (jobs : List Job) :
    errandsOf (jobs.flatMap (Registry.delivery routing)) = errandsForAll jobs := by
  induction jobs with
  | nil => rfl
  | cons job rest inductionHypothesis =>
      rw [List.flatMap_cons, errandsOf_append, inductionHypothesis, errandsOf_delivery,
        Multiset.singleton_add]
      rfl

/-- Handing over resends changes candidates only. -/
theorem keeps_forceDue (registry : Registry) (upTo : Nat) :
    registry.outline.Keeps (forceDue registry upTo).1.outline :=
  forceDue_relates (fun first last => first.1.outline.Keeps last.1.outline) registry upTo
    (fun _ => .refl _) .trans fun handed identity =>
      (handed.1.hands_force identity (some upTo)).keeps

/-! ## The instructions -/

theorem takesStep_ring (service : Service) (ticket : Nat) :
    TakesStep service [.ring ticket] (service.ring ticket []) := by
  unfold ring
  split
  · exact {
      roster := rfl
      resends := List.suffix_refl _
      tidy := tidy_of_goesOn rfl fun _ _ present => absurd present (Multiset.notMem_zero _)
      step := step_of_same rfl rfl rfl }
  · next entry found =>
      split
      · have noErrand : errandsOf [.ring ticket] = errandsOf [] := rfl
        exact takesStep_pursue (Registry.hands_fireTimer
          { service.world with agenda := service.world.agenda.cancel ticket } entry.task) noErrand
          (fun _ => isTidy_nil) Candidate.routing
      · exact {
          roster := rfl
          resends := List.suffix_refl _
          tidy := tidy_of_goesOn rfl fun tidy _ present => Multiset.mem_singleton.mp present ▸ tidy
          step := step_of_same rfl rfl rfl }

/-- A resend that is due to go out goes out, unless that is no longer wanted. -/
theorem takesStep_send (service : Service) (job : Job) (rest : Program) :
    TakesStep service (.send job :: rest) (service.send job rest) := by
  have waits : errandsOf (.send job :: rest) = .waiting job ::ₘ errandsOf rest :=
    errandsOf_cons_of_some rfl rest
  have may : service.world.maySend job =
      (service.world.outline.candidates[job.candidate]?).any Candidate.maySend := by
    rw [Registry.getElem?_outline, Option.any_map]
    rfl
  unfold send
  rw [may]
  split
  · next allowed =>
      simp only
      split
      · have after := Registry.outline_concludeSend (service.world.beginSend service.now job).1
          service.now job (service.world.beginSend service.now job).2.failure
        rw [Registry.outline_beginSend] at after
        refine takesStep_change ?_ IsTidy.tail ?_
        · rw [after]
          exact (Outline.keeps_noteResend _ _ _).trans (Outline.keeps_modify _ _ _)
        · intro others other
          rw [waits, after, Multiset.cons_add]
          exact Outline.step_deliver allowed _ other
      · have goesOn (failure : Option TransportFailure) :
            errandsOf (.conclude job failure :: rest) = .underWay job ::ₘ errandsOf rest :=
          errandsOf_cons_of_some rfl rest
        refine { roster := rfl, resends := List.suffix_cons _ _, tidy := ?_, step := ?_ }
        · refine tidy_of_goesOn rfl fun tidy other present => ?_
          rw [Multiset.mem_singleton.mp present]
          exact tidy.tail.cons rfl
        · intro others other
          simp only [Pace.programs, errandsIn_singleton, goesOn, waits, Multiset.cons_add,
            Registry.outline_beginSend]
          exact Outline.step_begin allowed _ other
  · next refused =>
      have after := Registry.outline_abandonSend service.world job
      apply takesStep_change (after ▸ Outline.keeps_modify _ _ _) IsTidy.tail
      intro others other
      rw [waits, after, Multiset.cons_add]
      exact Outline.step_skip (Bool.not_eq_true _ ▸ refused) _ other

theorem takesStep_conclude (service : Service) (job : Job) (failure : Option TransportFailure)
    (rest : Program) :
    TakesStep service (.conclude job failure :: rest)
      (service.proceed (service.world.concludeSend service.now job failure) rest) := by
  have after := Registry.outline_concludeSend service.world service.now job failure
  have concludes : errandsOf (.conclude job failure :: rest) = .underWay job ::ₘ errandsOf rest :=
    errandsOf_cons_of_some rfl rest
  apply takesStep_change (after ▸ Outline.keeps_modify _ _ _) IsTidy.tail
  intro others other
  rw [concludes, after, Multiset.cons_add]
  exact Outline.step_conclude _ job _ other service.now

/-- Handing a job to a pool starts a program that asks the pool for a permit. -/
theorem errandsIn_enqueue (service : Service) (pool : Nat) (job : Job) (rest : Program) :
    errandsOf rest + errandsIn (service.world.start
        [.acquire pool, .send job, .release pool]).outline.programs =
      errandsOf (.enqueue pool job :: rest) + errandsIn service.world.outline.programs := by
  have started : errandsOf [.acquire pool, .send job, .release pool] = {.waiting job} := rfl
  simp only [Registry.outline_start, Outline.withPrograms, errandsIn_add,
    errandsIn_apartFromRings, errandsIn_singleton, started]
  rw [errandsOf_cons_of_some rfl, ← Multiset.singleton_add]
  abel

theorem takesStep_enqueue (service : Service) (pool : Nat) (job : Job) (rest : Program) :
    TakesStep service (.enqueue pool job :: rest)
      (service.proceed (service.world.start [.acquire pool, .send job, .release pool]) rest) := by
  have after := Registry.outline_start service.world [.acquire pool, .send job, .release pool]
  refine
    { roster := rfl, resends := List.suffix_refl _, tidy := ?_, step := step_of_same rfl rfl ?_ }
  · intro tidy allTidy other present
    rcases Multiset.mem_add.mp present with goes | held
    · rw [Multiset.mem_singleton.mp goes]
      exact tidy.tail
    · simp only [proceed, after, Outline.withPrograms] at held
      rcases Multiset.mem_add.mp held with started | stays
      · rw [Multiset.mem_singleton.mp (Multiset.mem_of_mem_filter started)]
        exact ((isTidy_nil.cons rfl).cons rfl).cons rfl
      · exact allTidy other stays
  · simp only [proceed, Pace.programs, errandsIn_singleton]
    exact (errandsIn_enqueue service pool job rest).symm

/-- A program that asks for a permit goes on or waits in the pool. -/
theorem programs_acquire (service : Service) (pool : Nat) (rest : Program) :
    (service.acquire pool rest).2.programs + (service.acquire pool rest).1.world.held =
      {rest} + service.world.held := by
  simp only [acquire, Registry.held, waitingIn_requestAt service.world.pools pool rest]
  split
  · simp [Pace.programs]
  · simp [Pace.programs]

/-- The errands of a program that asks for a permit go where the program goes. -/
theorem errandsIn_acquire (service : Service) (pool : Nat) (rest : Program) :
    errandsIn (service.acquire pool rest).2.programs +
        errandsIn (service.acquire pool rest).1.world.outline.programs =
      errandsOf (.acquire pool :: rest) + errandsIn service.world.outline.programs := by
  have noErrand : errandsOf (.acquire pool :: rest) = errandsOf rest :=
    errandsOf_cons_of_none rfl rest
  rw [noErrand, ← errandsIn_singleton]
  simp only [Registry.outline, errandsIn_apartFromRings]
  rw [← errandsIn_add, ← errandsIn_add, programs_acquire]

theorem takesStep_acquire (service : Service) (pool : Nat) (rest : Program) :
    TakesStep service (.acquire pool :: rest) (service.acquire pool rest) := by
  refine
    { roster := rfl
      resends := List.suffix_refl _
      tidy := ?_
      step := step_of_same rfl rfl (errandsIn_acquire service pool rest).symm }
  intro tidy allTidy other present
  have allHeld : ∀ other ∈ service.world.held, IsTidy other :=
    isTidy_of_apartFromRings allTidy
  have among : other ∈ (service.acquire pool rest).2.programs +
      (service.acquire pool rest).1.world.held := by
    rcases Multiset.mem_add.mp present with goes | stays
    · exact Multiset.mem_add.mpr (.inl goes)
    · exact Multiset.mem_add.mpr (.inr (Multiset.mem_of_mem_filter stays))
  rw [programs_acquire] at among
  rcases Multiset.mem_add.mp among with goes | stays
  · rw [Multiset.mem_singleton.mp goes]
    exact tidy.tail
  · exact allHeld other stays

/-- The first program that waits for the permit of a pool takes it over. -/
theorem outline_release (service : Service) (pool : Nat) (rest : Program) :
    (service.release pool rest).1.world.outline = service.world.outline := by
  have waits := waitingIn_releaseAt service.world.pools pool
  unfold release
  generalize Executor.Pool.releaseAt service.world.pools pool = released at waits
  obtain ⟨pools, heir⟩ := released
  have sameHeld : (heir.elim { service.world with pools }
      { service.world with pools }.start).held = service.world.held := by
    cases heir with
    | none =>
        rw [Option.toList_none, Multiset.coe_nil, zero_add] at waits
        simp only [Option.elim_none, Registry.held, waits]
    | some heir =>
        rw [Option.toList_some, Multiset.coe_singleton] at waits
        simp only [Option.elim_some, Registry.held, Registry.start, ← waits, ← Multiset.coe_add,
          Multiset.coe_singleton]
        abel
  simp only [proceed]
  rw [Registry.outline, sameHeld]
  cases heir <;> rfl

theorem takesStep_release (service : Service) (pool : Nat) (rest : Program) :
    TakesStep service (.release pool :: rest) (service.release pool rest) :=
  takesStep_proceed (outline_release service pool rest) (errandsOf_cons_of_none rfl rest)
    IsTidy.tail

theorem takesStep_driveDue (service : Service) (upTo call : Nat) (rest : Program) :
    TakesStep service (.driveDue upTo call :: rest) (service.driveDue upTo call rest) := by
  refine takesStep_change (keeps_forceDue (service.world.report (.enter "drive_due")) upTo) ?_ ?_
  · intro tidy
    exact ((tidy.tail.cons rfl).cons rfl).deliveries _ _
  · intro others other
    have lent := lends_forceDue (service.world.report (.enter "drive_due")) upTo
      (errandsOf rest + others) other
    rw [errandsOf_append, errandsOf_deliveries, errandsOf_cons_of_none rfl,
      errandsOf_cons_of_none rfl, errandsOf_cons_of_none rfl, add_assoc]
    exact lent.step

/-- A shutdown ends every candidate that is listed. -/
theorem takesStep_hear (service : Service) (news : ShutdownNews) (rest : Program) :
    TakesStep service (.hear news :: rest)
      (service.proceed (service.world.report (newsReport news)).shutdown rest) := by
  have after := Registry.outline_shutdown (service.world.report (newsReport news))
  apply takesStep_change (after ▸ Outline.keeps_modifyAll _ _ _) IsTidy.tail
  intro others other
  rw [errandsOf_cons_of_none rfl, after]
  exact Outline.related_modifyAll (fun _ => .quiet) (fun _ _ _ => .finish .cancelled) _ _ other

/-- Whatever an activity does next is a step for every message. -/
theorem takesStep_perform (service : Service) (instruction : Instruction) (rest : Program)
    (last : instruction.isLast = true → rest = []) :
    TakesStep service (instruction :: rest) (perform instruction rest service) := by
  cases instruction with
  | ring ticket =>
      obtain rfl := last rfl
      exact takesStep_ring service ticket
  | send job => exact takesStep_send service job rest
  | conclude job failure => exact takesStep_conclude service job failure rest
  | enqueue pool job => exact takesStep_enqueue service pool job rest
  | acquire pool => exact takesStep_acquire service pool rest
  | release pool => exact takesStep_release service pool rest
  | driveDue upTo call => exact takesStep_driveDue service upTo call rest
  | attempt sequence number call =>
      have replies (answer : Answer) : errandsOf (.attempt sequence number call :: rest) =
          errandsOf (.reply call answer :: rest) := by
        rw [errandsOf_cons_of_none rfl, errandsOf_cons_of_none rfl]
      simp only [perform, attempt]
      split
      · exact takesStep_proceed rfl (replies _) fun tidy => tidy.tail.cons rfl
      · exact takesStep_pursue (service.world.hands_force _ none) (replies _)
          (fun tidy => tidy.tail.cons rfl) _
  | runDue upTo ran call =>
      simp only [perform, runDue]
      split
      · refine takesStep_proceed rfl ?_ fun tidy => tidy.tail.cons rfl
        rw [errandsOf_cons_of_none rfl, errandsOf_cons_of_none rfl]
      · next entry agenda taken =>
          refine takesStep_pursue (Registry.hands_fireTimer { service.world with agenda }
            entry.task) ?_ (fun tidy => tidy.tail.cons rfl) _
          rw [errandsOf_cons_of_none rfl, errandsOf_cons_of_none rfl]
  | serve call =>
      obtain rfl := last rfl
      exact {
        roster := rfl
        resends := List.suffix_refl _
        tidy := tidy_of_goesOn rfl fun _ _ present => absurd present (Multiset.notMem_zero _)
        step := step_of_same rfl rfl rfl }
  | hear news => exact takesStep_hear service news rest
  | leave operation =>
      exact takesStep_proceed (Registry.outline_report _ _) (errandsOf_cons_of_none rfl rest)
        IsTidy.tail
  | reply call answer =>
      exact takesStep_proceed rfl (errandsOf_cons_of_none rfl rest) IsTidy.tail

end Service

end Redelivery
