import Redelivery.Proofs.Clearing
import Redelivery.Proofs.Reregistration

/-!
# After the agenda is closed

A closed agenda takes on no timer and keeps those that wait.  A timer that was armed before may
still fire, a resend that was handed over before may still go out, and both may be true of one
message, because a resumption arms a timer while a resend is pending.  Still, one more resend
is the most that happens to a message unless somebody forces it: a timer that fires finds the
candidate busy while its resend waits or is under way, and a resend that completes takes the
timer off the agenda without getting another one.  A message without either is never resent
again by itself.  All the while messages can be counted and purged as before.
-/

namespace Redelivery

/-! ## Closed agendas -/

namespace Registry

variable {registry : Registry}

theorem IsClear.shrinks {before after : Registry} {identity : Nat}
    (clear : before.IsClear identity) (shrinks : before.agenda.Shrinks after.agenda) :
    after.IsClear identity :=
  fun entry present => clear entry (shrinks.fewer.subset present)

/-- A candidate that is to be armed loses its timer, and gets no other one. -/
theorem isClear_arm_of_closed (closed : registry.agenda.closed = true) {identity due : Nat}
    (clear : (registry.disarm identity).IsClear identity) :
    (registry.arm identity due).IsClear identity := by
  have stillClosed : (registry.disarm identity).agenda.closed = true :=
    (registry.abides_disarm identity).closed.trans closed
  unfold arm
  simp only
  split
  · exact clear
  · next candidate _ =>
      cases accepts : (registry.disarm identity).acceptAlarm due
          { candidate := identity, generation := candidate.generation } with
      | error refusal => exact clear
      | ok accepted =>
          have shrinks := (abides_acceptAlarm accepts).issues.refuses stillClosed
          exact clear.shrinks shrinks

/-- A completed resend leaves its candidate without a timer. -/
theorem isClear_completeSend (booked : registry.Booked) (closed : registry.agenda.closed = true)
    (now identity : Nat) : (registry.completeSend now identity).IsClear identity := by
  cases found : registry.candidate? identity with
  | none =>
      simp only [completeSend, found]
      apply booked.isClear
      intro candidate entry isCandidate
      cases found.symm.trans isCandidate
  | some candidate =>
      obtain ⟨after, sequel, outcome, completes⟩ := candidate.exists_completes now
      have unawaited (awaitsNothing : ∀ entry, ¬ candidate.Awaits entry) :
          registry.IsClear identity := by
        apply booked.isClear
        intro former entry isFormer
        rw [← Option.some.inj (found.symm.trans isFormer)]
        exact awaitsNothing entry
      have sameTimer : ∀ former, registry.candidate? identity = some former →
          after.timer = former.timer := by
        intro former isFormer
        rw [← Option.some.inj (found.symm.trans isFormer)]
        exact completes.timer
      have clear := (booked.disarm_modify sameTimer).2
      have stillClosed : (registry.modify identity fun _ => after).agenda.closed = true := closed
      simp only [completeSend, found, outcome]
      cases completes with
      | ended ended => exact unawaited fun _ awaits => ended awaits.active
      | held _ _ suspended =>
          apply unawaited
          intro _ awaits
          have wants := awaits.wants
          simp [Candidate.wantsTimer, suspended] at wants
      | exhausted => exact clear
      | overflow => exact clear
      | next => exact isClear_arm_of_closed stillClosed clear

/-- Whether or not it failed makes no difference. -/
theorem isClear_concludeSend (booked : registry.Booked) (closed : registry.agenda.closed = true)
    (now : Nat) (job : Job) (failure : Option TransportFailure) :
    (registry.concludeSend now job failure).IsClear job.candidate := by
  cases failure with
  | none => exact isClear_completeSend booked closed now job.candidate
  | some failure =>
      have reported : (registry.reportFailure job failure).Booked := booked.congr rfl rfl
      exact isClear_completeSend reported closed now job.candidate

end Registry

/-! ## What instructions hand over and complete -/

namespace Instruction

variable {registry : Registry} {now : Nat} {job : Job}

/-- Whether an instruction makes messages resend although no timer has fired. -/
def forces : Instruction → Bool
  | .driveDue _ _ | .attempt _ _ _ => true
  | _ => false

/-- A timer hands over a resend of the candidate that it was armed for. -/
theorem candidate_of_fireTimer {registry : Registry} {alarm : Alarm}
    (fires : (registry.fireTimer alarm).2 = some job) : job.candidate = alarm.candidate := by
  have hands := registry.hands_fireTimer alarm
  rw [fires] at hands
  exact hands.candidate_eq

/-- Only timers hand over resends without force. -/
theorem exists_entry_of_built {instruction : Instruction} (unforced : instruction.forces = false)
    (built : .built job ∈ instruction.deeds registry now) :
    ∃ entry ∈ registry.agenda.entries, entry.task.candidate = job.candidate := by
  cases instruction with
  | ring ticket =>
      obtain ⟨entry, other, found, _, fires, same⟩ := Service.of_mem_deeds_ring built
      obtain rfl := Deed.built.inj same
      exact ⟨entry, List.mem_of_find?_eq_some found, (candidate_of_fireTimer fires).symm⟩
  | runDue upTo ran call =>
      rw [deeds] at built
      split at built
      · cases built
      · next entry agenda taken =>
          obtain ⟨other, fires, same⟩ := List.mem_map.mp built
          obtain rfl := Deed.built.inj same
          have waits : entry ∈ registry.agenda.entries := by
            rw [(Schedule.Agenda.takeDue?_eq_some taken).1]
            exact List.mem_cons_self
          exact ⟨entry, waits, (candidate_of_fireTimer (Option.mem_toList.mp fires)).symm⟩
  | send other =>
      rw [deeds] at built
      repeat' split at built
      all_goals simp at built
  | conclude other failure => simp [deeds] at built
  | driveDue upTo call => cases unforced
  | attempt sequence number call => cases unforced
  | _ => cases built

/-- A resend completes when the transport is done with it, be it at once. -/
theorem eq_of_completed {instruction : Instruction}
    (completed : .completed job ∈ instruction.deeds registry now) :
    (∃ failure, instruction = .conclude job failure) ∨
      instruction = .send job ∧ registry.maySend job = true ∧
        (registry.beginSend now job).2.takes = 0 := by
  have notBuilt (jobs : List Job) : Deed.completed job ∉ jobs.map Deed.built := by
    intro present
    obtain ⟨_, _, same⟩ := List.mem_map.mp present
    cases same
  cases instruction with
  | conclude other failure =>
      obtain rfl : job = other := by simpa [deeds] using completed
      exact .inl ⟨failure, rfl⟩
  | send other =>
      rw [deeds] at completed
      split at completed
      · next may =>
          split at completed
          · next atOnce =>
              obtain rfl : job = other := by simpa using completed
              exact .inr ⟨rfl, may, atOnce⟩
          · simp at completed
      · simp at completed
  | ring ticket =>
      obtain ⟨_, _, _, _, _, same⟩ := Service.of_mem_deeds_ring completed
      cases same
  | driveDue upTo call => exact absurd completed (notBuilt _)
  | attempt sequence number call =>
      rw [deeds] at completed
      split at completed
      · cases completed
      · exact absurd completed (notBuilt _)
  | runDue upTo ran call =>
      rw [deeds] at completed
      split at completed
      · cases completed
      · exact absurd completed (notBuilt _)
  | _ => cases completed

end Instruction

/-! ## The last turns of a message -/

namespace Share

/-- A turn of a message while no timer is armed any more and nobody forces a resend.  Whether the
agenda is clear of the message is known before and after it, and how many resends of the message
complete on the way. -/
structure Fades (now : Nat) (clear clearAfter : Prop) (before after : Share) (completed : Nat) :
    Prop where
  turn : Turn now before after
  counted : countUnderWay after.errands + completed + before.resends.length =
    countUnderWay before.errands + after.resends.length
  /-- No timer comes. -/
  stays : clear → clearAfter
  /-- Only a timer hands over a resend. -/
  unfired : clear → ∀ errand, after.errands ≠ errand ::ₘ before.errands
  /-- A resend that completes leaves no timer. -/
  settles : completed ≠ 0 → clearAfter
  /-- Neither does the end of the message. -/
  ended : ∀ candidate, after.candidate = some candidate → candidate.ending ≠ none → clearAfter

/-- Nothing is left of a message that could make it resend by itself: what waits will not go out,
and a timer that is left will find a resend under way. -/
structure IsSpent (clear : Prop) (share : Share) : Prop where
  unsent : ∀ job, .waiting job ∈ share.errands → ∀ candidate,
    share.candidate = some candidate → candidate.ending ≠ none
  quiet : clear ∨ countUnderWay share.errands ≠ 0

variable {now completed : Nat} {clear clearAfter : Prop} {before after : Share}

/-- What will not go out does not go out after a turn that hands nothing over either. -/
theorem IsSpent.unsent_turn (spent : before.IsSpent clear) (sound : before.Sound)
    (turn : Turn now before after) (fewer : after.errands ≤ before.errands) :
    ∀ job, .waiting job ∈ after.errands → ∀ candidate,
      after.candidate = some candidate → candidate.ending ≠ none := by
  intro job waits later isLater
  have waited : .waiting job ∈ before.errands := Multiset.mem_of_le fewer waits
  cases found : before.candidate with
  | none =>
      rw [sound.vacant found] at waited
      exact absurd waited (Multiset.notMem_zero _)
  | some candidate =>
      obtain ⟨other, isOther, ended⟩ := turn.ended found (spent.unsent job waited candidate found)
      rwa [Option.some.inj (isLater.symm.trans isOther)]

/-- A message that is spent stays spent, and is not resent. -/
theorem Fades.isSpent (fades : Fades now clear clearAfter before after completed)
    (sound : before.Sound) (spent : before.IsSpent clear) :
    after.IsSpent clearAfter ∧ after.resends = before.resends := by
  have still := spent.unsent_turn sound fades.turn
  have counted := fades.counted
  cases fades.turn with
  | step step =>
      cases step with
      | quiet => exact ⟨⟨still (le_refl _), spent.quiet.imp_left fades.stays⟩, rfl⟩
      | @handOver identity candidate message errands resends free held =>
          obtain ⟨idle, _, active, _⟩ := Candidate.isFree_eq_true_iff.mp free
          have none : Multiset.card errands = 0 := by
            rw [sound.single candidate rfl active, idle]
            rfl
          have noneUnderWay : countUnderWay errands = 0 := by
            rw [Multiset.card_eq_zero.mp none]
            rfl
          have clear := spent.quiet.resolve_right (not_not_intro noneUnderWay)
          exact absurd rfl (fades.unfired clear _)
      | begin may =>
          have ended := spent.unsent _ (Multiset.mem_cons_self _ _) _ rfl
          exact absurd (Candidate.maySend_eq_true_iff.mp may).2.2.1 ended
      | deliver may =>
          have ended := spent.unsent _ (Multiset.mem_cons_self _ _) _ rfl
          exact absurd (Candidate.maySend_eq_true_iff.mp may).2.2.1 ended
      | conclude =>
          simp only [countUnderWay_underWay] at counted
          have settled := fades.settles (by omega)
          exact ⟨⟨still (Multiset.le_cons_self _ _), .inl settled⟩, rfl⟩
      | @skip job candidate errands resends refused =>
          cases candidate with
          | none => exact absurd (sound.vacant rfl) Multiset.cons_ne_zero
          | some candidate =>
              have ended := spent.unsent job (Multiset.mem_cons_self _ _) candidate rfl
              exact ⟨⟨still (Multiset.le_cons_self _ _), .inl (fades.ended _ rfl ended)⟩, rfl⟩
      | @finish ending candidate errands resends =>
          have ended := (Candidate.sound_finished ending candidate).kept.mp rfl
          exact ⟨⟨still (le_refl _), .inl (fades.ended _ rfl ended)⟩, rfl⟩
  | enroll routing suspended message =>
      exact ⟨⟨still (le_refl _), spent.quiet.imp_left fades.stays⟩, rfl⟩
  | suspend => exact ⟨⟨still (le_refl _), spent.quiet.imp_left fades.stays⟩, rfl⟩
  | wake => exact ⟨⟨still (le_refl _), spent.quiet.imp_left fades.stays⟩, rfl⟩

/-- A message that is resent is spent afterwards. -/
theorem Fades.spends (fades : Fades now clear clearAfter before after completed)
    (sound : before.Sound) :
    after.resends = before.resends ∨
      (∃ resend, after.resends = resend :: before.resends) ∧ after.IsSpent clearAfter := by
  have counted := fades.counted
  cases fades.turn with
  | step step =>
      cases step with
      | @begin job candidate errands resends may =>
          obtain ⟨_, _, active, _⟩ := Candidate.maySend_eq_true_iff.mp may
          obtain rfl := Multiset.card_eq_zero.mp (sound.card_rest active)
          refine .inr ⟨⟨_, rfl⟩, ?_, ?_⟩
          · intro other waits
            cases Multiset.mem_singleton.mp waits
          · rw [countUnderWay_underWay]
            exact .inr (Nat.succ_ne_zero _)
      | @deliver job candidate errands resends may =>
          obtain ⟨_, _, active, _⟩ := Candidate.maySend_eq_true_iff.mp may
          obtain rfl := Multiset.card_eq_zero.mp (sound.card_rest active)
          simp only [countUnderWay_waiting, List.length_cons] at counted
          refine .inr ⟨⟨_, rfl⟩, ?_, .inl (fades.settles (by omega))⟩
          exact fun other waits => absurd waits (Multiset.notMem_zero _)
      | _ => exact .inl rfl
  | _ => exact .inl rfl

end Share

namespace Service

open Deed

variable {service after : Service} {move : Move}

/-! ## Moves -/

/-- Whether a move makes messages resend although no timer has fired. -/
def forces (service : Service) : Move → Bool
  | .step index =>
      (service.ready[index]?).any fun activity => activity.program.head?.any Instruction.forces
  | .command _ | .rouse _ _ | .wait _ | .reorder _ => false

/-- What is done with a resend is done by an instruction. -/
theorem exists_instruction_of_mem_deeds {deed : Deed} (done : deed ∈ service.deeds move) :
    ∃ index instruction rest foreground, move = .step index ∧
      service.ready[index]? = some ⟨instruction :: rest, foreground⟩ ∧
      deed ∈ instruction.deeds service.world service.now := by
  cases move with
  | command _ | rouse _ _ | wait _ | reorder _ => cases done
  | step index =>
      rw [deeds] at done
      split at done
      · next instruction rest foreground ready =>
          exact ⟨index, instruction, rest, foreground, rfl, ready, done⟩
      · cases done

/-- No resend is handed over without force for which no timer waits. -/
theorem handsOver_eq_false_of_isClear {identity : Nat} (unforced : service.forces move = false)
    (clear : service.world.IsClear identity) : service.handsOver move identity = false := by
  rw [Bool.eq_false_iff]
  intro handsOver
  obtain ⟨deed, isAbout, isBuilt⟩ := List.any_eq_true.mp handsOver
  obtain ⟨done, isOurs⟩ := List.mem_filter.mp isAbout
  obtain ⟨index, instruction, rest, foreground, rfl, ready, does⟩ :=
    exists_instruction_of_mem_deeds done
  have unforcedHere : instruction.forces = false := by
    rw [forces, ready] at unforced
    exact unforced
  cases deed with
  | built job =>
      obtain ⟨entry, waits, isJob⟩ := Instruction.exists_entry_of_built unforcedHere does
      exact clear entry waits (isJob.trans (of_decide_eq_true isOurs))
  | begun job => cases isBuilt
  | completed job => cases isBuilt
  | abandoned job => cases isBuilt

/-- Where the agenda is closed, a resend that completes leaves its message without a timer. -/
theorem isClear_of_completed (isBooked : service.IsBooked)
    (closed : service.world.agenda.closed = true) (moved : service.move? move = some after)
    {job : Job} (completed : .completed job ∈ service.deeds move) :
    after.world.IsClear job.candidate := by
  obtain ⟨index, instruction, rest, foreground, rfl, ready, does⟩ :=
    exists_instruction_of_mem_deeds completed
  obtain ⟨program, _, isProgram, others, sameWorld, sameNow, _, went⟩ := stepAt_eq_some moved
  obtain rfl : program = instruction :: rest := by
    cases ready.symm.trans isProgram
    rfl
  rcases went with ⟨ended, _⟩ | ⟨first, more, middle, isFirst, isMiddle, world, _⟩
  · cases ended
  · cases isFirst
    have clear : (perform instruction rest others).1.world.IsClear job.candidate := by
      rcases Instruction.eq_of_completed does with ⟨failure, rfl⟩ | ⟨rfl, may, atOnce⟩
      · simp only [perform, proceed, sameWorld]
        exact Registry.isClear_concludeSend isBooked.booked closed _ job failure
      · simp only [perform, send, sameWorld, sameNow, may, atOnce, if_true, proceed]
        have booked : (service.world.beginSend service.now job).1.Booked :=
          isBooked.booked.congr rfl rfl
        exact Registry.isClear_concludeSend booked closed _ job _
    rw [world, isMiddle]
    exact clear

/-- Nothing is put on a closed agenda. -/
theorem shrinks_move (closed : service.world.agenda.closed = true)
    (moved : service.move? move = some after) :
    service.world.agenda.Shrinks after.world.agenda :=
  (upholds_move moved).issues.refuses closed

/-- What an unforced move does about a message once the agenda is closed. -/
theorem fades_move (isBooked : service.IsBooked) (closed : service.world.agenda.closed = true)
    (unforced : service.forces move = false) (moved : service.move? move = some after)
    (identity : Nat) :
    Share.Fades service.now (service.world.IsClear identity) (after.world.IsClear identity)
      (service.outline.share identity) (after.outline.share identity)
      (service.countCompleted identity move) where
  turn := (turn_move isBooked.sound.tidy moved).2.2 identity
  counted := countUnderWay_move isBooked.sound.tidy moved identity
  stays := fun clear => clear.shrinks (shrinks_move closed moved)
  unfired := by
    intro clear errand waits
    have handsOver := handsOver_of_waits isBooked.sound.tidy moved waits
    cases (handsOver_eq_false_of_isClear unforced clear).symm.trans handsOver
  settles := by
    intro some
    obtain ⟨job, isJob⟩ := Multiset.card_pos_iff_exists_mem.mp (Nat.pos_of_ne_zero some)
    obtain ⟨deed, isAbout, isCompleted⟩ := List.mem_filterMap.mp (Multiset.mem_coe.mp isJob)
    obtain ⟨done, isOurs⟩ := List.mem_filter.mp isAbout
    cases deed with
    | completed other =>
        have clear := isClear_of_completed isBooked closed moved done
        rwa [show other.candidate = identity from of_decide_eq_true isOurs] at clear
    | built other => cases isCompleted
    | begun other => cases isCompleted
    | abandoned other => cases isCompleted
  ended := by
    intro candidate found ended
    apply (isBooked.move moved).booked.isClear
    intro other entry isOther awaits
    have same : candidate = other.untimed :=
      Option.some.inj (found.symm.trans (candidate_share isOther))
    rw [same] at ended
    exact ended awaits.active

/-! ## Runs -/

/-- In the course of a run no message is made to resend without a timer. -/
def IsUnforced (moves : List Move) (first : Service) : Prop :=
  Throughout (fun service move => service.forces move = false) moves first

instance (moves : List Move) (first : Service) : Decidable (IsUnforced moves first) :=
  inferInstanceAs (Decidable (Throughout _ moves first))

/-- Nothing is left of a message that could make it resend by itself. -/
def IsSpent (service : Service) (identity : Nat) : Prop :=
  (service.outline.share identity).IsSpent (service.world.IsClear identity)

/-- A message that neither holds a timer nor waits for a resend is spent. -/
theorem isSpent_of_idle (isBooked : service.IsBooked) {identity : Nat} {candidate : Candidate}
    (found : service.world.candidate? identity = some candidate)
    (timerless : candidate.timer = none) (idle : candidate.pending = false) :
    service.IsSpent identity where
  unsent := by
    intro job waits untimed isUntimed active
    have single := (isBooked.sound.share identity).single untimed isUntimed active
    obtain rfl := Option.some.inj (isUntimed.symm.trans (candidate_share found))
    have idleToo : candidate.untimed.pending = false := idle
    rw [idleToo] at single
    rw [Multiset.card_eq_zero.mp single] at waits
    exact absurd waits (Multiset.notMem_zero _)
  quiet := by
    left
    apply isBooked.booked.isClear
    intro other entry isOther awaits
    obtain rfl := Option.some.inj (found.symm.trans isOther)
    cases timerless.symm.trans awaits.timer

/-- Nothing is left of a message that there is not. -/
theorem isSpent_of_absent (isBooked : service.IsBooked) {identity : Nat}
    (absent : service.world.candidate? identity = none) : service.IsSpent identity where
  unsent := by
    intro job waits untimed isUntimed
    obtain ⟨candidate, found, _⟩ := exists_candidate isUntimed
    cases absent.symm.trans found
  quiet := by
    left
    apply isBooked.booked.isClear
    intro candidate entry found
    cases absent.symm.trans found

variable {first last : Service} {moves : List Move}

theorem world_closeAgenda (service : Service) : (service.carryOut .closeAgenda).world =
    { service.world with agenda := service.world.agenda.close, starting := [] } :=
  world_launch _

/-- Nothing is put on a closed agenda in the course of a run. -/
theorem shrinks_run (closed : first.world.agenda.closed = true) (run : Run first moves last) :
    first.world.agenda.Shrinks last.world.agenda :=
  (issues_run run).refuses closed

/-- As long as tasks are only taken off the agenda, nobody holds a timer that it did not hold. -/
theorem exists_timer_of_fewer (isBooked : first.IsBooked) (lastBooked : last.IsBooked)
    (fewer : last.world.agenda.entries.Sublist first.world.agenda.entries) {identity ticket : Nat}
    {candidate : Candidate} (found : last.world.candidate? identity = some candidate)
    (isTimer : candidate.timer = some ticket) :
    ∃ former, first.world.candidate? identity = some former ∧ former.timer = some ticket := by
  obtain ⟨_, present⟩ := lastBooked.isTimed.timed.armed identity candidate ticket found isTimer
  obtain ⟨former, isFormer, awaits⟩ := isBooked.booked _ (fewer.subset present)
  exact ⟨former, isFormer, awaits.timer⟩

/-- A message that is spent is not resent any more. -/
theorem isSpent_run (isBooked : first.IsBooked) (closed : first.world.agenda.closed = true)
    (run : Run first moves last) (unforced : IsUnforced moves first) {identity : Nat}
    (spent : first.IsSpent identity) :
    last.IsSpent identity ∧ last.begunOf identity = first.begunOf identity := by
  induction run with
  | start => exact ⟨spent, rfl⟩
  | extend run moved inductionHypothesis =>
      obtain ⟨soFar, now⟩ := (throughout_concat run).mp unforced
      obtain ⟨stillSpent, same⟩ := inductionHypothesis soFar
      have stillBooked := isBooked.run run
      have stillClosed := (shrinks_run closed run).sameClosed.trans closed
      have fades := fades_move stillBooked stillClosed now moved identity
      obtain ⟨spentAfter, sameAfter⟩ := fades.isSpent (stillBooked.sound.share identity) stillSpent
      exact ⟨spentAfter, sameAfter.trans same⟩

/-- Any message is resent once at most, and is spent afterwards. -/
theorem spends_run (isBooked : first.IsBooked) (closed : first.world.agenda.closed = true)
    (run : Run first moves last) (unforced : IsUnforced moves first) (identity : Nat) :
    last.begunOf identity = first.begunOf identity ∨
      (∃ resend, last.begunOf identity = resend :: first.begunOf identity) ∧
        last.IsSpent identity := by
  induction run with
  | start => exact .inl rfl
  | @extend moves middle move last run moved inductionHypothesis =>
      obtain ⟨soFar, now⟩ := (throughout_concat run).mp unforced
      have stillBooked := isBooked.run run
      have stillClosed := (shrinks_run closed run).sameClosed.trans closed
      have fades := fades_move stillBooked stillClosed now moved identity
      have sound := stillBooked.sound.share identity
      rcases inductionHypothesis soFar with same | ⟨⟨resend, begun⟩, spent⟩
      · rcases fades.spends sound with sameAfter | ⟨⟨resend, begins⟩, spent⟩
        · exact .inl (sameAfter.trans same)
        · exact .inr ⟨⟨resend, begins.trans (congrArg (resend :: ·) same)⟩, spent⟩
      · obtain ⟨spentAfter, sameAfter⟩ := fades.isSpent sound spent
        exact .inr ⟨⟨resend, sameAfter.trans begun⟩, spentAfter⟩

/-- A run writes on in the book that is kept when it begins. -/
theorem tracks_further {book : Book} (sound : first.Sound) (tracks : first.outline.Tracks book)
    (run : Run first moves last) : last.outline.Tracks (moves.foldl Book.after book) := by
  induction run with
  | start => exact tracks
  | extend run moved inductionHypothesis =>
      rw [List.foldl_append]
      exact tracks_move (sound.run run) inductionHypothesis moved

/-! ## The main result -/

/-- What becomes of a service whose agenda is closed, by the end of a run. -/
structure WindsDown (service : Service) (moves : List Move) (last : Service) : Prop where
  /-- Unless somebody forces it, a message is resent once more at most. -/
  once : IsUnforced moves (service.carryOut .closeAgenda) → ∀ identity,
    last.begunOf identity = service.begunOf identity ∨
      ∃ resend, last.begunOf identity = resend :: service.begunOf identity
  /-- One that neither holds a timer nor waits for a resend when the agenda is closed is not
  resent. -/
  idle : IsUnforced moves (service.carryOut .closeAgenda) → ∀ identity candidate,
    service.world.candidate? identity = some candidate → candidate.timer = none →
      candidate.pending = false → last.begunOf identity = service.begunOf identity
  /-- Neither is one that is registered afterwards. -/
  late : IsUnforced moves (service.carryOut .closeAgenda) → ∀ identity,
    service.world.candidates.length ≤ identity → last.begunOf identity = []
  /-- Tasks are taken off the agenda, and no ticket is given out. -/
  agenda : service.world.agenda.close.Shrinks last.world.agenda
  /-- A timer that a message holds is one that it held before. -/
  timers : ∀ identity candidate ticket, last.world.candidate? identity = some candidate →
    candidate.timer = some ticket → ∃ former,
      service.world.candidate? identity = some former ∧ former.timer = some ticket
  /-- Messages are registered, counted, listed and purged by the book. -/
  shows : ∀ book, service.world.Shows book → last.world.Shows (moves.foldl Book.after book)
  counted : last.world.countAll = (last.world.sequences.map last.world.countOf).sum
  purgesAcknowledged : ∀ sequence acknowledged, last.world.Purged sequence acknowledged
    (last.world.purgeAcknowledged sequence acknowledged).1
    (last.world.purgeAcknowledged sequence acknowledged).2
  purgesAll : ∀ sequence, last.world.Cleared sequence (last.world.purgeAll sequence).1
    (last.world.purgeAll sequence).2

/-- Whatever happens after the agenda of a reachable service is closed, no timer is armed any
more, and each message is resent once more at most unless somebody forces it: not at all if
it has neither a timer nor a resend to wait for, or is registered afterwards.  The messages can
be counted and purged as before. -/
theorem winds_down (reachable : service.IsReachable)
    (run : Run (service.carryOut .closeAgenda) moves last) : service.WindsDown moves last := by
  have closing : Run service [.command .closeAgenda] (service.carryOut .closeAgenda) :=
    .single rfl
  have sameAgenda : (service.carryOut .closeAgenda).world.agenda = service.world.agenda.close := by
    rw [world_closeAgenda]
  have sameCandidate (identity : Nat) : (service.carryOut .closeAgenda).world.candidate? identity =
      service.world.candidate? identity := by
    rw [world_closeAgenda]
    rfl
  have sameBegun (identity : Nat) :
      (service.carryOut .closeAgenda).begunOf identity = service.begunOf identity := by
    rw [begunOf, world_closeAgenda]
    rfl
  have closed : (service.carryOut .closeAgenda).world.agenda.closed = true := by
    rw [sameAgenda]
    rfl
  have isBooked := reachable.isBooked
  have closedBooked := isBooked.run closing
  have lastBooked := closedBooked.run run
  have shrinks := shrinks_run closed run
  rw [sameAgenda] at shrinks
  obtain ⟨initial, early, isInitial, soFar⟩ := reachable
  have isReachable : last.IsReachable := ⟨initial, _, isInitial, (soFar.trans closing).trans run⟩
  constructor
  case once =>
    intro unforced identity
    rw [← sameBegun]
    rcases spends_run closedBooked closed run unforced identity with same | ⟨begun, _⟩
    · exact .inl same
    · exact .inr begun
  case idle =>
    intro unforced identity candidate found timerless idle
    have spent := isSpent_of_idle closedBooked ((sameCandidate identity).trans found) timerless idle
    exact (isSpent_run closedBooked closed run unforced spent).2.trans (sameBegun identity)
  case late =>
    intro unforced identity isLate
    have absent : service.world.candidate? identity = none := List.getElem?_eq_none isLate
    have noneBefore : service.begunOf identity = [] := by
      apply (tallied_run isInitial soFar identity).vacant
      exact (Registry.getElem?_outline _ _).trans (congrArg (Option.map Candidate.untimed) absent)
    have spent := isSpent_of_absent closedBooked ((sameCandidate identity).trans absent)
    rw [(isSpent_run closedBooked closed run unforced spent).2, sameBegun, noneBefore]
  case agenda => exact shrinks
  case timers =>
    intro identity candidate ticket
    exact exists_timer_of_fewer isBooked lastBooked shrinks.fewer
  case shows =>
    intro book shows
    have tracks : service.outline.Tracks book :=
      ⟨fun sequence => by
        rw [← shows.listed]
        exact List.map_congr_left fun identity _ => service.world.numberOf_outline identity,
        shows.suspended⟩
    have tracksClosed := tracks_further isBooked.sound tracks (closing.trans run)
    apply Registry.shows_of_tracks lastBooked.sound.listed.sound
    exact tracks_world tracksClosed
  case counted => exact lastBooked.sound.listed.sound.sum_length_listOf.symm
  case purgesAcknowledged => exact purged_of_reachable isReachable
  case purgesAll => exact cleared_of_reachable isReachable

end Service

namespace Sample

/-- A resend of a message is handed over, and a resumption arms a timer for the message before
the resend goes out. -/
def busyAndArmed : List Move :=
  [.command (.add (message 1 none)), .command (.request none (.attempt sequence 1)), .step 0,
    .command (.suspend sequence), .command (.resume sequence)]

/-- Another message is added, the timer fires, the resend goes out, and the sequence is suspended
and resumed again. -/
def firesWhileBusy : List Move :=
  [.command (.add (message 2 none)), .command (.request none (.runDue 0)), .step 1, .step 0,
    .command (.suspend sequence), .command (.resume sequence), .wait 10000000]

end Sample

namespace Service

/-- The agenda is closed while a resend of a message waits to go out and a timer is armed for it:
the message is resent once, and the other one is not. -/
theorem winds_down_of_firesWhileBusy :
    ∃ service last, Run (Sample.service .byQueue) Sample.busyAndArmed service ∧
      (service.world.candidate? 0).map (fun candidate => (candidate.pending, candidate.timer)) =
        some (true, some 1) ∧
      Run (service.carryOut .closeAgenda) Sample.firesWhileBusy last ∧
      IsUnforced Sample.firesWhileBusy (service.carryOut .closeAgenda) ∧
      (service.begunOf 0).length = 0 ∧ (last.begunOf 0).length = 1 ∧ last.begunOf 1 = [] ∧
      last.world.agenda.size = 0 ∧ service.WindsDown Sample.firesWhileBusy last := by
  have course : ((follow Sample.busyAndArmed (Sample.service .byQueue)).bind fun service =>
      (follow Sample.firesWhileBusy (service.carryOut .closeAgenda)).map fun last =>
        ((service.world.candidate? 0).map (fun candidate => (candidate.pending, candidate.timer)),
          decide (IsUnforced Sample.firesWhileBusy (service.carryOut .closeAgenda)),
          (service.begunOf 0).length, (last.begunOf 0).length, service.world.candidates.length,
          last.world.agenda.size)) =
      some (some (true, some 1), true, 0, 1, 1, 0) := by
    decide +kernel
  obtain ⟨service, toService, further⟩ := Option.bind_eq_some_iff.mp course
  obtain ⟨last, toLast, looks⟩ := Option.map_eq_some_iff.mp further
  simp only [Prod.mk.injEq, decide_eq_true_eq] at looks
  obtain ⟨busy, unforced, noneBefore, once, one, noTask⟩ := looks
  have run := Run.of_follow toService
  have reachable : service.IsReachable := ⟨_, _, Sample.isInitial_service .byQueue, run⟩
  have windsDown := winds_down reachable (.of_follow toLast)
  exact ⟨service, last, run, busy, .of_follow toLast, unforced, noneBefore, once,
    windsDown.late unforced 1 (Nat.le_of_eq one), noTask, windsDown⟩

end Service

end Redelivery
