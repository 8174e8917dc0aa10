import Redelivery.Proofs.Deeds
import Redelivery.Proofs.Listing

/-!
# The history of a run

What the moves of a run do with resends is its history.  The jobs that were built and have
neither been completed nor abandoned are those of the errands that there are, and the ones
of them that have begun are under way.  The resends that went out are those that began.
-/

namespace Redelivery

namespace Service

open Deed

/-! ## The deeds of a run -/

/-- What a move does with resends: what the next instruction of a ready activity does. -/
def deeds (service : Service) : Move → List Deed
  | .step index =>
      match service.ready[index]? with
      | some ⟨instruction :: _, _⟩ => instruction.deeds service.world service.now
      | _ => []
  | .command _ | .rouse _ _ | .wait _ | .reorder _ => []

/-- What the candidates and the resends of a service are after a move, given its deeds:
either the deeds say all there is to say about an activity, or there are none. -/
inductive Acts (service : Service) (move : Move) (after : Service) : Prop where
  | deals : service.outline.Deals service.now (service.deeds move) after.outline →
      Acts service move after
  /-- The activity that serves ends all candidates. -/
  | shutdown : service.deeds move = [] → after.outline.candidates =
        (service.outline.modifyAll service.world.roster.all
          (Candidate.finished .cancelled)).candidates →
      after.outline.resends = service.outline.resends → Acts service move after

/-- The errands of a service are those of its activities and of the programs that its
registry keeps. -/
theorem errandsIn_programs (service : Service) :
    errandsIn service.programs =
      errandsIn service.running + errandsIn service.world.outline.programs := by
  rw [programs, errandsIn_add, Registry.outline, errandsIn_apartFromRings]

/-- The activity that serves ends all candidates, and has no errand. -/
theorem errandsIn_hear (service : Service) (news : ShutdownNews) (rest : Program) :
    errandsIn (perform (.hear news) rest service).2.programs +
        errandsIn (perform (.hear news) rest service).1.world.outline.programs =
      errandsOf (.hear news :: rest) + errandsIn service.world.outline.programs := by
  have after := Registry.outline_shutdown (service.world.report (newsReport news))
  have noErrand : errandsOf (.hear news :: rest) = errandsOf rest :=
    errandsOf_cons_of_none rfl rest
  simp only [perform, proceed, Pace.programs, errandsIn_singleton, after, noErrand]
  rfl

/-- What a step of an activity makes of the candidates, the resends and the errands is what
the next instruction of its program makes of them; the other activities are not concerned. -/
theorem perform_of_stepAt {service after : Service} {index : Nat}
    (stepped : service.stepAt behave index = some after) :
    (service.deeds (.step index) = [] ∧ after.world = service.world ∧
        errandsIn after.programs = errandsIn service.programs) ∨
      ∃ instruction rest, ∃ others : Service,
        others.world = service.world ∧ others.now = service.now ∧
        instruction :: rest ∈ service.programs ∧
        service.deeds (.step index) = instruction.deeds service.world service.now ∧
        after.outline.candidates =
          (perform instruction rest others).1.world.outline.candidates ∧
        after.outline.resends = (perform instruction rest others).1.world.outline.resends ∧
        errandsIn service.programs = errandsIn others.running +
          (errandsOf (instruction :: rest) + errandsIn others.world.outline.programs) ∧
        errandsIn after.programs = errandsIn others.running +
          (errandsIn (perform instruction rest others).2.programs +
            errandsIn (perform instruction rest others).1.world.outline.programs) := by
  obtain ⟨program, foreground, ready, others, sameWorld, sameNow, before, went⟩ :=
    stepAt_eq_some stepped
  rcases went with ⟨rfl, rfl⟩ | ⟨instruction, rest, middle, rfl, isMiddle, world, programs⟩
  · refine .inl ⟨?_, sameWorld, ?_⟩
    · simp only [deeds, ready]
    · rw [before, errandsIn_cons, errandsOf_nil, zero_add]
  · have middleWorld : middle.world = (perform instruction rest others).1.world := by
      rw [isMiddle]
    have middleRunning : middle.running = others.running := by
      rw [isMiddle]
      rfl
    refine .inr ⟨instruction, rest, others, sameWorld, sameNow,
      before ▸ Multiset.mem_cons_self _ _, by simp only [deeds, ready], ?_, ?_, ?_, ?_⟩
    · rw [← middleWorld]
      exact congrArg (fun registry => registry.outline.candidates) world
    · rw [← middleWorld]
      exact congrArg (fun registry => registry.outline.resends) world
    · rw [before, errandsIn_cons, errandsIn_programs, add_left_comm]
    · rw [programs, errandsIn_add, errandsIn_programs, middleRunning, middleWorld, add_left_comm]

/-- A step of an activity does what its deeds say, and accounts for all errands. -/
theorem acts_stepAt {service after : Service} {index : Nat} (tidy : service.AllTidy)
    (stepped : service.stepAt behave index = some after) :
    Acts service (.step index) after ∧
      errandsIn after.programs + takenBy (service.deeds (.step index)) =
        errandsIn service.programs + leftBy (service.deeds (.step index)) := by
  rcases perform_of_stepAt stepped with ⟨noDeed, sameWorld, sameErrands⟩ |
    ⟨instruction, rest, others, sameWorld, sameNow, runs, isDeed, candidates, resends,
      beforeErrands, afterErrands⟩
  · have sameOutline : after.world.outline = service.world.outline := by rw [sameWorld]
    constructor
    · apply Acts.deals
      rw [noDeed]
      apply Outline.Deals.quiet
      · exact (congrArg (fun outline : Outline => outline.candidates) sameOutline :)
      · exact (congrArg (fun outline : Outline => outline.resends) sameOutline :)
    · rw [noDeed, sameErrands]
      rfl
  · have sameCandidates : others.world.outline.candidates = service.outline.candidates := by
      rw [sameWorld]
      rfl
    have sameResends : others.world.outline.resends = service.outline.resends := by
      rw [sameWorld]
      rfl
    rw [beforeErrands, afterErrands]
    by_cases ends : ∃ news, instruction = .hear news
    · rcases ends with ⟨news, rfl⟩
      have carried := errandsIn_hear others news rest
      have shut := Registry.outline_shutdown (others.world.report (newsReport news))
      have noDeed : service.deeds (.step index) = [] := isDeed
      constructor
      · apply Acts.shutdown noDeed
        · rw [candidates, Outline.modifyAll, ← sameCandidates, ← sameWorld]
          exact (congrArg (fun outline : Outline => outline.candidates) shut :)
        · rw [resends, ← sameResends]
          exact (congrArg (fun outline : Outline => outline.resends) shut :)
      · rw [noDeed, carried]
        rfl
    · have noEnd : ∀ news, instruction ≠ .hear news := not_exists.mp ends
      have accounts := accounts_perform others rest (tidy _ runs).eq_nil noEnd
      rw [isDeed, ← sameWorld, ← sameNow]
      constructor
      · apply Acts.deals
        rw [isDeed, ← sameWorld, ← sameNow]
        exact accounts.deals.congr sameCandidates sameResends candidates resends
      · rw [add_assoc, accounts.errands]
        abel

/-- A command gives activities something to do, but has no errand of its own. -/
theorem errandsIn_carryOut (service : Service) (command : Command) :
    errandsIn (service.carryOut command).programs = errandsIn service.programs := by
  have ofSame {after : Service} (same : after.outline.programs = service.outline.programs) :
      errandsIn after.programs = errandsIn service.programs := by
    rw [← errandsIn_apartFromRings, ← programs_outline, same, programs_outline,
      errandsIn_apartFromRings]
  cases quiet : command.isQuiet with
  | true =>
      rcases joined_carryOut service quiet with ⟨more, harmless, after⟩
      have noErrand : errandsIn more = 0 :=
        errandsIn_eq_zero fun program present => (harmless program present).2
      rw [← errandsIn_apartFromRings, ← programs_outline, after, Outline.withPrograms,
        errandsIn_add, noErrand, zero_add, programs_outline, errandsIn_apartFromRings]
  | false =>
      apply ofSame
      cases command with
      | add message =>
          rw [outline_add]
          split <;> rfl
      | purgeAcknowledged sequence acknowledged =>
          rw [outline_purgeAcknowledged]
          split <;> rfl
      | purgeAll sequence =>
          rw [outline_purgeAll]
          rfl
      | stop sequence =>
          rw [outline_stop]
          rfl
      | shutdown =>
          rw [outline_shutdown]
          rfl
      | suspend sequence =>
          rw [outline_suspend]
          rfl
      | resume sequence =>
          rw [outline_resume]
          split <;> rfl
      | request _ _ | join _ | serve _ | announce _ | setExecutors _ | closeAgenda
      | prepare _ _ | exchangeStore _ => cases quiet

/-- The deeds of a move account for all errands. -/
theorem errandsIn_move {service after : Service} {move : Move} (tidy : service.AllTidy)
    (moved : service.move? move = some after) :
    errandsIn after.programs + takenBy (service.deeds move) =
      errandsIn service.programs + leftBy (service.deeds move) := by
  cases move with
  | command command =>
      obtain rfl := eq_carryOut moved
      rw [errandsIn_carryOut]
      rfl
  | step index => exact (acts_stepAt tidy moved).2
  | rouse index position =>
      rcases Timeline.rouseTo_eq_some moved with ⟨running, world⟩
      rw [programs, running, world]
      rfl
  | wait instant =>
      obtain rfl := eq_wait moved
      rfl
  | reorder roster =>
      obtain ⟨_, rfl⟩ := eq_reorder moved
      rfl

/-- The resends that a move begins are noted. -/
theorem resends_move {service after : Service} {move : Move} (tidy : service.AllTidy)
    (moved : service.move? move = some after) :
    (after.outline.resends.map Resend.job : Multiset Job) =
      jobsOf begun? (service.deeds move) +
        (service.outline.resends.map Resend.job : List Job) := by
  have ofSame (noDeed : service.deeds move = [])
      (same : after.outline.resends = service.outline.resends) :
      (after.outline.resends.map Resend.job : Multiset Job) =
        jobsOf begun? (service.deeds move) +
          (service.outline.resends.map Resend.job : List Job) := by
    rw [noDeed, same]
    exact (zero_add _).symm
  cases move with
  | command command =>
      obtain rfl := eq_carryOut moved
      exact ofSame rfl (turn_carryOut tidy command).1
  | step index =>
      cases (acts_stepAt tidy moved).1 with
      | deals deals => exact deals.resends
      | shutdown noDeed _ sameResends => exact ofSame noDeed sameResends
  | rouse index position =>
      apply ofSame rfl
      rw [outline_rouseTo moved]
  | wait instant =>
      apply ofSame rfl
      obtain rfl := eq_wait moved
      rfl
  | reorder roster =>
      apply ofSame rfl
      obtain ⟨_, rfl⟩ := eq_reorder moved
      rfl

/-- A move begins no resend, or it is the step of a program that sends a message. -/
theorem begun_deeds (service : Service) (move : Move) :
    jobsOf begun? (service.deeds move) = 0 ∨
      ∃ index job rest foreground, move = .step index ∧
        service.ready[index]? = some ⟨.send job :: rest, foreground⟩ ∧
        jobsOf begun? (service.deeds move) = {job} := by
  have builds (jobs : List Job) : jobsOf begun? (jobs.map .built) = 0 :=
    jobsOf_eq_zero fun deed present => by
      obtain ⟨job, _, rfl⟩ := List.mem_map.mp present
      rfl
  cases move with
  | command _ | rouse _ _ | wait _ | reorder _ => exact .inl rfl
  | step index =>
      cases ready : service.ready[index]? with
      | none =>
          simp only [deeds, ready]
          exact .inl rfl
      | some activity =>
          obtain ⟨_ | ⟨instruction, rest⟩, foreground⟩ := activity
          · simp only [deeds, ready]
            exact .inl rfl
          · cases instruction with
            | send job =>
                simp only [deeds, ready, Instruction.deeds]
                split
                · refine .inr ⟨index, job, rest, foreground, rfl, ready, ?_⟩
                  split <;> rfl
                · exact .inl rfl
            | ring ticket =>
                simp only [deeds, ready, Instruction.deeds]
                split
                · exact .inl rfl
                · split
                  · exact .inl (builds _)
                  · exact .inl rfl
            | driveDue upTo call =>
                simp only [deeds, ready, Instruction.deeds]
                exact .inl (builds _)
            | attempt sequence number call =>
                simp only [deeds, ready, Instruction.deeds]
                split
                · exact .inl rfl
                · exact .inl (builds _)
            | runDue upTo ran call =>
                simp only [deeds, ready, Instruction.deeds]
                split
                · exact .inl rfl
                · exact .inl (builds _)
            | conclude _ _ | enqueue _ _ | acquire _ | release _ | serve _ | hear _ | leave _
            | reply _ _ =>
                simp only [deeds, ready, Instruction.deeds]
                exact .inl rfl

/-- What is noted of the moves of a run, in their order. -/
def gather {α : Type} (note : Service → Move → List α) : List Move → Service → List α
  | [], _ => []
  | move :: rest, service =>
      note service move ++ (service.move? move).elim [] (gather note rest)

theorem gather_append {α : Type} (note : Service → Move → List α) {moves more : List Move}
    {first last : Service} (followed : follow moves first = some last) :
    gather note (moves ++ more) first = gather note moves first ++ gather note more last := by
  induction moves generalizing first with
  | nil =>
      cases followed
      rfl
  | cons move rest inductionHypothesis =>
      rcases Option.bind_eq_some_iff.mp followed with ⟨middle, moved, further⟩
      simp only [List.cons_append, gather, moved, Option.elim_some,
        inductionHypothesis further, List.append_assoc]

theorem gather_concat {α : Type} (note : Service → Move → List α) {moves : List Move}
    {first last : Service} (run : Run first moves last) (move : Move) :
    gather note (moves ++ [move]) first = gather note moves first ++ note last move := by
  rw [gather_append note run.follow_eq, gather]
  congr 1
  cases last.move? move with
  | none => exact List.append_nil _
  | some after => exact List.append_nil _

/-- What a run does with resends, oldest deed first. -/
def history (moves : List Move) (first : Service) : List Deed :=
  gather deeds moves first

/-- The deeds of a run account for all errands. -/
theorem errandsIn_run {first last : Service} {moves : List Move} (initial : first.IsInitial)
    (run : Run first moves last) :
    errandsIn last.programs + takenBy (history moves first) = leftBy (history moves first) := by
  induction run with
  | start =>
      have none : errandsIn first.programs = 0 := by
        rw [← errandsIn_apartFromRings, ← programs_outline, outline_of_isInitial initial]
        rfl
      rw [none]
      rfl
  | extend run moved inductionHypothesis =>
      have accounted := errandsIn_move (initial.sound.run run).tidy moved
      rw [history] at inductionHypothesis ⊢
      rw [gather_concat deeds run, takenBy_append, leftBy_append, ← inductionHypothesis,
        add_right_comm, ← accounted, add_assoc, add_comm (takenBy _)]

/-- The resends that went out are those that began. -/
theorem resends_run {first last : Service} {moves : List Move} (initial : first.IsInitial)
    (run : Run first moves last) :
    (last.outline.resends.map Resend.job : Multiset Job) = jobsOf begun? (history moves first) := by
  induction run with
  | start =>
      rw [outline_of_isInitial initial]
      rfl
  | extend run moved inductionHypothesis =>
      rw [history] at inductionHypothesis ⊢
      rw [resends_move (initial.sound.run run).tidy moved, inductionHypothesis,
        gather_concat deeds run, jobsOf_append, add_comm]

end Service

/-! ## The deeds about one message -/

/-- The job of an errand that is under way. -/
def Errand.underWay? : Errand → Option Job
  | .underWay job => some job
  | .waiting _ => none

namespace Deed

/-- What deeds about a message have of one kind is what all deeds have of it about the message. -/
theorem filterMap_about {α : Type} {part? : Deed → Option α} {jobOf : α → Job}
    (own : ∀ deed part, part? deed = some part → jobOf part = deed.job) (identity : Nat)
    (deeds : List Deed) :
    ((about identity deeds).filterMap part? : Multiset α) =
      (deeds.filterMap part? : Multiset α).filter fun part =>
        (jobOf part).candidate = identity := by
  rw [about, Multiset.filter_coe, List.filterMap_filter, List.filter_filterMap]
  congr 2
  funext deed
  cases isPart : part? deed with
  | none => simp
  | some part => simp [Option.filter, own deed part isPart]

/-- A deed and the errand that it takes are about the same message. -/
theorem takenBy_about (identity : Nat) (deeds : List Deed) :
    takenBy (about identity deeds) =
      (takenBy deeds).filter fun errand => errand.job.candidate = identity := by
  refine filterMap_about (fun deed errand takes => ?_) identity deeds
  cases deed <;> cases takes <;> rfl

theorem leftBy_about (identity : Nat) (deeds : List Deed) :
    leftBy (about identity deeds) =
      (leftBy deeds).filter fun errand => errand.job.candidate = identity := by
  refine filterMap_about (fun deed errand leaves => ?_) identity deeds
  cases deed <;> cases leaves <;> rfl

theorem begun_about (identity : Nat) (deeds : List Deed) :
    jobsOf begun? (about identity deeds) =
      (jobsOf begun? deeds).filter fun job => job.candidate = identity := by
  refine filterMap_about (fun deed job begins => ?_) identity deeds
  cases deed <;> cases begins
  rfl

/-- Deeds of two kinds that no deed is both of. -/
theorem jobsOf_eq_add {either? one? other? : Deed → Option Job}
    (apart : ∀ deed, ((either? deed).toList : Multiset Job) =
      ((one? deed).toList : List Job) + ((other? deed).toList : List Job)) (deeds : List Deed) :
    jobsOf either? deeds = jobsOf one? deeds + jobsOf other? deeds := by
  induction deeds with
  | nil => rfl
  | cons deed rest inductionHypothesis =>
      simp only [jobsOf_cons, apart, inductionHypothesis]
      abel

theorem map_job_takenBy (deeds : List Deed) :
    (takenBy deeds).map Errand.job =
      jobsOf begun? deeds + (jobsOf completed? deeds + jobsOf abandoned? deeds) := by
  let ended? (deed : Deed) : Option Job := (completed? deed).or (abandoned? deed)
  have ended : jobsOf ended? deeds = jobsOf completed? deeds + jobsOf abandoned? deeds :=
    jobsOf_eq_add (fun deed => by cases deed <;> rfl) deeds
  have taken : jobsOf (fun deed => deed.taken?.map Errand.job) deeds =
      jobsOf begun? deeds + jobsOf ended? deeds :=
    jobsOf_eq_add (fun deed => by cases deed <;> rfl) deeds
  rw [takenBy, Multiset.map_coe, List.map_filterMap, ← ended, ← taken, jobsOf]

theorem map_job_leftBy (deeds : List Deed) :
    (leftBy deeds).map Errand.job = jobsOf begun? deeds + jobsOf built? deeds := by
  have left : jobsOf (fun deed => deed.left?.map Errand.job) deeds =
      jobsOf begun? deeds + jobsOf built? deeds :=
    jobsOf_eq_add (fun deed => by cases deed <;> rfl) deeds
  rw [leftBy, Multiset.map_coe, List.map_filterMap, ← left, jobsOf]

theorem underWay_takenBy (deeds : List Deed) :
    (takenBy deeds).filterMap Errand.underWay? = jobsOf completed? deeds := by
  simp only [takenBy, jobsOf, Multiset.filterMap_coe, List.filterMap_filterMap]
  congr 2
  funext deed
  cases deed <;> rfl

theorem underWay_leftBy (deeds : List Deed) :
    (leftBy deeds).filterMap Errand.underWay? = jobsOf begun? deeds := by
  simp only [leftBy, jobsOf, Multiset.filterMap_coe, List.filterMap_filterMap]
  congr 2
  funext deed
  cases deed <;> rfl

/-- The jobs of the errands that there are were built, and have neither been completed nor
abandoned. -/
theorem map_job_of_accounted {errands : Multiset Errand} {deeds : List Deed}
    (accounted : errands + takenBy deeds = leftBy deeds) :
    errands.map Errand.job + (jobsOf completed? deeds + jobsOf abandoned? deeds) =
      jobsOf built? deeds := by
  have jobs := congrArg (Multiset.map Errand.job) accounted
  rw [Multiset.map_add, map_job_takenBy, map_job_leftBy, add_left_comm] at jobs
  exact add_left_cancel jobs

/-- The jobs that are under way have begun, and have not been completed. -/
theorem underWay_of_accounted {errands : Multiset Errand} {deeds : List Deed}
    (accounted : errands + takenBy deeds = leftBy deeds) :
    errands.filterMap Errand.underWay? + jobsOf completed? deeds = jobsOf begun? deeds := by
  have jobs := congrArg (Multiset.filterMap Errand.underWay?) accounted
  rwa [Multiset.filterMap_add, underWay_takenBy, underWay_leftBy] at jobs

end Deed

namespace Service

open Deed

/-- What a run does with the resends of a message. -/
def historyOf (identity : Nat) (moves : List Move) (first : Service) : List Deed :=
  about identity (history moves first)

/-- The errands of a message are those of all programs that are about it. -/
theorem errands_share_programs (service : Service) (identity : Nat) :
    (service.outline.share identity).errands =
      (errandsIn service.programs).filter fun errand => errand.job.candidate = identity := by
  rw [← errandsIn_apartFromRings, ← programs_outline]
  simp only [Outline.share, Outline.shareWith, zero_add]

/-- The deeds about a message account for its errands. -/
theorem errands_share {first last : Service} {moves : List Move} (initial : first.IsInitial)
    (run : Run first moves last) (identity : Nat) :
    (last.outline.share identity).errands + takenBy (historyOf identity moves first) =
      leftBy (historyOf identity moves first) := by
  have all := errandsIn_run initial run
  rw [historyOf, takenBy_about, leftBy_about, errands_share_programs, ← Multiset.filter_add, all]

/-- The resends of a message that went out are those that began. -/
theorem resends_share_eq {first last : Service} {moves : List Move} (initial : first.IsInitial)
    (run : Run first moves last) (identity : Nat) :
    ((last.outline.share identity).resends.map Resend.job : Multiset Job) =
      jobsOf begun? (historyOf identity moves first) := by
  rw [historyOf, begun_about, ← resends_run initial run, Multiset.filter_coe, List.filter_map]
  rfl

end Service

end Redelivery
