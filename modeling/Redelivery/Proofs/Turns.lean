import Redelivery.Proofs.Settling
import Redelivery.Proofs.Undisturbed

/-!
# Activities that have a service to themselves

A run in which only activities of one kind have a turn, and nobody asks for anything meanwhile.
Whatever such an activity is about to do, it can be done with in a run of this sort: it waits for as
long as its instructions take, and needs nobody else for that.
-/

namespace Redelivery

namespace Service

/-- Whether a move is the turn of an activity of a kind.  To wait is nobody's turn.  Nothing but the
activities changes the registry, so its maps stay in their order. -/
def isTurnOf (own : Program → Bool) (service : Service) : Move → Bool
  | .command _ => false
  | .step index => (service.ready[index]?).any fun activity => own activity.program
  | .rouse index _ => (service.asleep[index]?).any fun sleeper => own sleeper.activity.program
  | .wait _ => true
  | .reorder _ => false

/-- In the course of a run, only activities of a kind have a turn. -/
def IsAlone (own : Program → Bool) (moves : List Move) (first : Service) : Prop :=
  Throughout (fun service move => service.isTurnOf own move = true) moves first

instance (own : Program → Bool) (moves : List Move) (first : Service) :
    Decidable (IsAlone own moves first) :=
  inferInstanceAs (Decidable (Throughout _ moves first))

/-- A run in which only activities of a kind have a turn leads from one service to another. -/
def LeadsAlone (own : Program → Bool) (first last : Service) : Prop :=
  ∃ moves, Run first moves last ∧ IsAlone own moves first

variable {own : Program → Bool}

theorem LeadsAlone.refl (own : Program → Bool) (service : Service) :
    service.LeadsAlone own service :=
  ⟨[], .start, trivial⟩

theorem LeadsAlone.trans {first middle last : Service} (early : first.LeadsAlone own middle)
    (late : middle.LeadsAlone own last) : first.LeadsAlone own last := by
  obtain ⟨_, toMiddle, isEarly⟩ := early
  obtain ⟨_, toLast, isLate⟩ := late
  exact ⟨_, toMiddle.trans toLast, (throughout_append toMiddle).mpr ⟨isEarly, isLate⟩⟩

theorem LeadsAlone.of_move {service after : Service} {move : Move}
    (moved : service.move? move = some after) (turn : service.isTurnOf own move = true) :
    service.LeadsAlone own after := by
  refine ⟨[move], .single moved, turn, ?_⟩
  rw [moved]
  trivial

theorem LeadsAlone.leads {first last : Service} (alone : first.LeadsAlone own last) :
    first.Leads last := by
  obtain ⟨moves, run, _⟩ := alone
  exact ⟨moves, run⟩

/-- Whoever sleeps can wake up in time. -/
theorem leadsAlone_to_waking {service : Service} {sleeper : Sleeper Instruction}
    (asleep : sleeper ∈ service.asleep) (isOwn : own sleeper.activity.program = true) :
    ∃ after, service.LeadsAlone own after ∧ sleeper.activity ∈ after.ready := by
  obtain ⟨index, inside, atIndex⟩ := List.getElem_of_mem asleep
  let later : Service := { service with now := max service.now sleeper.wake }
  have waits : service.move? (.wait (max service.now sleeper.wake)) = some later :=
    if_pos (Nat.le_max_left _ _)
  have rouses : later.move? (.rouse index 0) =
      some { later with
        ready := sleeper.activity :: service.ready
        asleep := service.asleep.eraseIdx index } := by
    simp [later, move?, Timeline.rouseTo, List.getElem?_eq_getElem inside, atIndex]
  have turn : later.isTurnOf own (.rouse index 0) = true := by
    simp [later, isTurnOf, List.getElem?_eq_getElem inside, atIndex, isOwn]
  exact ⟨_, (LeadsAlone.of_move waits rfl).trans (.of_move rouses turn), List.mem_cons_self⟩

/-- An activity that is ready can go on after its first instruction, once it has waited for as
long as the instruction takes. -/
theorem leadsAlone_past {service : Service} {instruction : Instruction} {rest program : Program}
    {foreground : Bool}
    (ready : (⟨instruction :: rest, foreground⟩ : Activity Instruction) ∈ service.ready)
    (goesOn : ∀ others : Service, others.world = service.world → others.now = service.now →
      (perform instruction rest others).2.programs = {program})
    (isOwn : own (instruction :: rest) = true) (staysOwn : own program = true) :
    ∃ after, service.LeadsAlone own after ∧
      (⟨program, foreground⟩ : Activity Instruction) ∈ after.ready := by
  obtain ⟨index, inside, atIndex⟩ := List.getElem_of_mem ready
  let others : Service := { service with ready := service.ready.eraseIdx index }
  have steps : service.move? (.step index) =
      some ((launch (perform instruction rest others).1).resume index foreground
        (perform instruction rest others).2) := by
    simp only [move?, Timeline.stepAt, List.getElem?_eq_getElem inside, atIndex]
    rfl
  have turn : service.isTurnOf own (.step index) = true := by
    simp [isTurnOf, List.getElem?_eq_getElem inside, atIndex, isOwn]
  have stillInside : index ≤ (launch (perform instruction rest others).1).ready.length := by
    rw [ready_launch, perform_fst, List.length_append, List.length_eraseIdx_of_lt inside]
    omega
  have leads := LeadsAlone.of_move steps turn
  have goes := goesOn others rfl rfl
  generalize launch (perform instruction rest others).1 = middle at leads stillInside
  generalize (perform instruction rest others).2 = pace at leads goes
  cases pace with
  | retire => exact absurd goes.symm (Multiset.singleton_ne_zero program)
  | onward next =>
      obtain rfl := Multiset.singleton_inj.mp goes
      exact ⟨_, leads, Timeline.mem_ready_resume stillInside foreground next⟩
  | sleepUntil instant next =>
      obtain rfl := Multiset.singleton_inj.mp goes
      by_cases late : Time.wake instant ≤ middle.now
      · rw [Timeline.resume, if_pos late] at leads
        exact ⟨_, leads, Timeline.mem_ready_resume stillInside foreground next⟩
      · obtain ⟨after, wakes, isReady⟩ :=
          leadsAlone_to_waking (Timeline.mem_asleep_resume late index foreground next) staysOwn
        exact ⟨after, leads.trans wakes, isReady⟩

/-- A job can be delivered, if it stays with the kind of its activity. -/
theorem leadsAlone_past_delivery (own : Program → Bool) {service : Service}
    {routing : Executor.Routing} {job : Job} {rest : Program} {foreground : Bool}
    (ready : (⟨Registry.delivery routing job ++ rest, foreground⟩ : Activity Instruction) ∈
      service.ready)
    (isOwn : ∀ front, own (front ++ rest) = true) :
    ∃ after, service.LeadsAlone own after ∧
      (⟨rest, foreground⟩ : Activity Instruction) ∈ after.ready := by
  unfold Registry.delivery at ready
  split at ready
  · by_cases takesTime : service.world.maySend job = true ∧
        (service.world.beginSend service.now job).2.takes ≠ 0
    · -- the resend takes a while, and is concluded after that
      obtain ⟨may, slow⟩ := takesTime
      have begins : ∀ others : Service, others.world = service.world → others.now = service.now →
          (perform (.send job) rest others).2.programs =
            {.conclude job (service.world.beginSend service.now job).2.failure :: rest} := by
        intro others sameWorld sameNow
        simp only [perform, send, sameWorld, sameNow, may, if_true, slow, if_false]
        rfl
      obtain ⟨middle, begun, isReady⟩ :=
        leadsAlone_past ready begins (isOwn [.send job]) (isOwn [.conclude job _])
      obtain ⟨after, concludes, isOver⟩ :=
        leadsAlone_past isReady (fun _ _ _ => rfl) (isOwn [.conclude job _]) (isOwn [])
      exact ⟨after, begun.trans concludes, isOver⟩
    · refine leadsAlone_past ready (fun others sameWorld sameNow => ?_) (isOwn [.send job])
        (isOwn [])
      simp only [perform, send, sameWorld, sameNow]
      split
      · next may =>
          rw [if_pos (not_not.mp fun slow => takesTime ⟨may, slow⟩)]
          rfl
      · rfl
  · exact leadsAlone_past ready (fun _ _ _ => rfl) (isOwn [.enqueue _ job]) (isOwn [])

end Service

end Redelivery
