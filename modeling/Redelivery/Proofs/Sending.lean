import Redelivery.Proofs.Listing
import Redelivery.Proofs.Origin

/-!
# When resends go out

A job can be built by a timer, by a forced attempt or by resending what is due,
and it may wait for a permit of a pool while anything else happens.  Still, a
resend only goes out for a candidate that is listed as active and has not ended:
what forbids it clears a flag that the job looks at when its turn comes.
-/

namespace Redelivery

/-! ## The moment at which a resend goes out -/

/-- One turn adds one resend at most, and only one whose job has waited and whose candidate may
send. -/
theorem Share.Turn.resends {now : Nat} {before after : Share} (turn : Turn now before after) :
    after.resends = before.resends ∨
      ∃ resend, after.resends = resend :: before.resends ∧
        ∃ candidate errands, before.candidate = some candidate ∧ candidate.maySend = true ∧
          before.errands = .waiting resend.job ::ₘ errands := by
  cases turn with
  | step step =>
      cases step with
      | begin may => exact .inr ⟨_, rfl, _, _, rfl, may, rfl⟩
      | deliver may => exact .inr ⟨_, rfl, _, _, rfl, may, rfl⟩
      | quiet | handOver _ _ _ | conclude | skip _ | finish _ => exact .inl rfl
  | enroll _ _ _ | suspend | wake => exact .inl rfl

/-- The resend that a turn adds. -/
theorem Share.Turn.begins {now : Nat} {before after : Share} (turn : Turn now before after)
    {resend : Resend} (begins : after.resends = resend :: before.resends) :
    ∃ candidate errands, before.candidate = some candidate ∧ candidate.maySend = true ∧
      before.errands = .waiting resend.job ::ₘ errands := by
  rcases turn.resends with unchanged | ⟨other, isOther, waited⟩
  · exact absurd (begins.symm.trans unchanged) (List.cons_ne_self resend _)
  · obtain ⟨rfl, _⟩ := List.cons.inj (begins.symm.trans isOther)
    exact waited

/-- No turn revives a candidate. -/
theorem Share.Turn.ended {now : Nat} {before after : Share} (turn : Turn now before after)
    {candidate : Candidate} (found : before.candidate = some candidate)
    (ended : candidate.ending ≠ none) :
    ∃ later, after.candidate = some later ∧ later.ending ≠ none := by
  rcases turn.persists found with ⟨later, isLater, persists⟩
  rcases Option.ne_none_iff_exists'.mp ended with ⟨ending, isEnding⟩
  refine ⟨later, isLater, ?_⟩
  rw [persists.ending ending isEnding]
  exact Option.some_ne_none ending

/-- No turn moves a candidate to another sequence. -/
theorem Share.Turn.sequence {now : Nat} {before after : Share} (turn : Turn now before after)
    {candidate later : Candidate} (found : before.candidate = some candidate)
    (isLater : after.candidate = some later) : later.sequence = candidate.sequence := by
  rcases turn.persists found with ⟨other, isOther, persists⟩
  obtain rfl := Option.some.inj (isLater.symm.trans isOther)
  exact persists.sequence

namespace Service

/-- The resends that go out between two moments, oldest first. -/
def resendsUntil (before after : Service) : List Resend :=
  after.world.journal.resendsSince before.world.journal.resends.length

/-- A resend that goes out with a move is the newest of its message. -/
theorem resends_share {before after : Service} {move : Move} {resend : Resend}
    (tidy : before.AllTidy) (moved : before.move? move = some after)
    (begins : resend ∈ before.resendsUntil after) :
    (after.outline.share resend.job.candidate).resends =
      resend :: (before.outline.share resend.job.candidate).resends := by
  rcases turn_move tidy moved with ⟨⟨new, grown⟩, _, turns⟩
  have isNew : resend ∈ new := by
    rw [resendsUntil, Journal.resendsSince, ← grown] at begins
    simpa using begins
  have split : (after.outline.share resend.job.candidate).resends =
      (new.filter fun other => other.job.candidate = resend.job.candidate) ++
        (before.outline.share resend.job.candidate).resends := by
    change after.world.journal.resends.filter _ = _ ++ before.world.journal.resends.filter _
    rw [← grown, List.filter_append]
  have ours : resend ∈ new.filter fun other => other.job.candidate = resend.job.candidate :=
    List.mem_filter.mpr ⟨isNew, by simp⟩
  rcases (turns resend.job.candidate).resends with same | ⟨other, added, _⟩
  · rw [same] at split
    rw [List.self_eq_append_left.mp split] at ours
    cases ours
  · rw [added] at split
    have single := List.append_cancel_right (List.singleton_append.trans split)
    rw [← single] at ours
    rw [added, List.mem_singleton.mp ours]

/-! ## The end of a candidate -/

/-- The moves that end a candidate: a purge, a stop or a shutdown that finds it
listed. -/
inductive Ends (service : Service) (identity : Nat) : Move → Prop where
  | purgeAcknowledged {sequence : SequenceKey} {acknowledged : Nat → Bool} :
      identity ∈ service.world.acknowledgedOf sequence acknowledged →
      Ends service identity (.command (.purgeAcknowledged sequence acknowledged))
  | purgeAll {sequence : SequenceKey} : identity ∈ service.world.roster.listOf sequence →
      Ends service identity (.command (.purgeAll sequence))
  | stop {sequence : SequenceKey} : identity ∈ service.world.roster.listOf sequence →
      Ends service identity (.command (.stop sequence))
  | shutdown : identity ∈ service.world.roster.all → Ends service identity (.command .shutdown)
  /-- Whoever serves shuts the registry down on a signal. -/
  | hear {index : Nat} {activity : Activity Instruction} {news : ShutdownNews} {rest : Program} :
      service.ready[index]? = some activity → activity.program = .hear news :: rest →
      identity ∈ service.world.roster.all → Ends service identity (.step index)

/-- Whether the candidate of an identity has ended. -/
def HasEnded (service : Service) (identity : Nat) : Prop :=
  ∃ candidate, service.outline.candidates[identity]? = some candidate ∧ candidate.ending ≠ none

theorem hasEnded_of_modifyAll (ending : Ending) {before after : Service}
    {identities : List Nat} {identity : Nat} {candidate : Candidate}
    (found : before.outline.candidates[identity]? = some candidate)
    (changed : after.outline.candidates =
      (before.outline.modifyAll identities (Candidate.finished ending)).candidates)
    (ends : identity ∈ identities) : after.HasEnded identity := by
  refine ⟨candidate.finished ending, ?_, (Candidate.sound_finished ending candidate).kept.mp rfl⟩
  rw [changed, Outline.getElem?_modifyAll, found, Option.map_some, if_pos ends]

/-- A candidate that is ended has ended. -/
theorem hasEnded_of_ends {before after : Service} {move : Move} {identity : Nat}
    (sound : before.Sound) (ends : before.Ends identity move)
    (moved : before.move? move = some after) : after.HasEnded identity := by
  have isCandidate {sequence : SequenceKey}
      (listed : identity ∈ before.world.roster.listOf sequence) :
      ∃ candidate, before.outline.candidates[identity]? = some candidate := by
    obtain ⟨candidate, found, _⟩ := sound.listed.homed sequence identity listed
    exact ⟨candidate, found⟩
  cases ends with
  | @purgeAcknowledged sequence acknowledged purged =>
      obtain rfl := eq_carryOut moved
      rcases isCandidate (List.mem_filter.mp purged).1 with ⟨candidate, found⟩
      refine hasEnded_of_modifyAll .resolved found ?_ purged
      rw [outline_purgeAcknowledged, if_neg (List.ne_nil_of_mem purged)]
  | @purgeAll sequence listed =>
      obtain rfl := eq_carryOut moved
      rcases isCandidate listed with ⟨candidate, found⟩
      exact hasEnded_of_modifyAll .cancelled found (by rw [outline_purgeAll]) listed
  | @stop sequence listed =>
      obtain rfl := eq_carryOut moved
      rcases isCandidate listed with ⟨candidate, found⟩
      exact hasEnded_of_modifyAll .cancelled found (by rw [outline_stop]) listed
  | shutdown listed =>
      obtain rfl := eq_carryOut moved
      obtain ⟨sequence, inSequence⟩ := sound.listed.sound.mem_all_iff.mp listed
      rcases isCandidate inSequence with ⟨candidate, found⟩
      exact hasEnded_of_modifyAll .cancelled found (by rw [outline_shutdown]) listed
  | @hear index activity news rest ready program listed =>
      rcases sound.listed.sound.mem_all_iff.mp listed with ⟨sequence, inSequence⟩
      rcases isCandidate inSequence with ⟨candidate, found⟩
      refine hasEnded_of_modifyAll .cancelled found ?_ listed
      have stepped : before.stepAt behave index = some after := moved
      obtain ⟨ran, isReady, others, isOthers, _, went⟩ := Timeline.stepAt_eq_some stepped
      obtain rfl := Option.some.inj (ready.symm.trans isReady)
      rcases went with ⟨ended, _⟩ | ⟨instruction, more, isProgram, rfl⟩
      · rw [program] at ended
        cases ended
      · rcases List.cons.inj (program.symm.trans isProgram) with ⟨rfl, rfl⟩
        have sameWorld : others.world = before.world := by rw [isOthers]
        have world : ((behave (.hear news) rest others).1.resume index activity.foreground
            (behave (.hear news) rest others).2).world =
              { (before.world.report (newsReport news)).shutdown with starting := [] } := by
          rw [Timeline.world_resume, ← sameWorld]
          exact world_launch _
        change List.map Candidate.untimed _ = _
        rw [world]
        exact congrArg Outline.candidates
          (Registry.outline_shutdown (before.world.report (newsReport news)))

/-- The end is final. -/
theorem HasEnded.move {before after : Service} {move : Move} {identity : Nat}
    (ended : before.HasEnded identity) (tidy : before.AllTidy)
    (moved : before.move? move = some after) : after.HasEnded identity := by
  rcases ended with ⟨candidate, found, isEnded⟩
  have turn := (turn_move tidy moved).2.2 identity
  rcases turn.ended found isEnded with ⟨later, isLater, stays⟩
  exact ⟨later, isLater, stays⟩

theorem HasEnded.run {first last : Service} {moves : List Move} {identity : Nat}
    (ended : first.HasEnded identity) (sound : first.Sound) (run : Run first moves last) :
    last.HasEnded identity := by
  induction run with
  | start => exact ended
  | extend run moved inductionHypothesis =>
      exact inductionHypothesis.move (sound.run run).tidy moved

/-! ## Suspended sequences -/

/-- Only resuming a sequence and purging the whole of it take it out of suspension. -/
theorem isSuspended_carryOut {service : Service} {sequence : SequenceKey}
    (suspended : service.world.roster.isSuspended sequence = true) {command : Command}
    (notResumed : command ≠ .resume sequence) (notPurged : command ≠ .purgeAll sequence) :
    (service.carryOut command).outline.roster.isSuspended sequence = true := by
  cases quiet : command.isQuiet with
  | true =>
      obtain ⟨more, _, after⟩ := joined_carryOut service quiet
      rw [after]
      exact suspended
  | false =>
      cases command with
      | add message =>
          rw [outline_add]
          split
          · exact (Roster.isSuspended_add _ _ _ _).trans suspended
          · exact suspended
      | purgeAcknowledged other acknowledged =>
          rw [outline_purgeAcknowledged]
          split
          · exact suspended
          · exact (Roster.isSuspended_strike _ _ _ _).trans suspended
      | purgeAll other =>
          have elsewhere : sequence ≠ other := by
            rintro rfl
            exact notPurged rfl
          rw [outline_purgeAll]
          simp only [Roster.isSuspended_forget, if_neg elsewhere]
          exact suspended
      | stop other =>
          rw [outline_stop]
          exact suspended
      | shutdown =>
          rw [outline_shutdown]
          exact suspended
      | suspend other =>
          rw [outline_suspend]
          simp only [Roster.isSuspended_suspend_other]
          split
          · rfl
          · exact suspended
      | resume other =>
          have elsewhere : sequence ≠ other := by
            rintro rfl
            exact notResumed rfl
          rw [outline_resume]
          split
          · simp only [Roster.isSuspended_resume_other, if_neg elsewhere]
            exact suspended
          · exact suspended
      | request _ _ | join _ | serve _ | announce _ | setExecutors _ | closeAgenda
      | prepare _ _ | exchangeStore _ => cases quiet

theorem isSuspended_move {before after : Service} {move : Move} {sequence : SequenceKey}
    (sound : before.Sound) (suspended : before.world.roster.isSuspended sequence = true)
    (moved : before.move? move = some after)
    (notResumed : move ≠ .command (.resume sequence))
    (notPurged : move ≠ .command (.purgeAll sequence)) :
    after.world.roster.isSuspended sequence = true := by
  cases move with
  | command command =>
      obtain rfl := eq_carryOut moved
      refine isSuspended_carryOut suspended ?_ ?_
      · rintro rfl
        exact notResumed rfl
      · rintro rfl
        exact notPurged rfl
  | step index =>
      rw [(step_stepAt sound.tidy moved).1]
      exact suspended
  | rouse index position =>
      rw [← roster_outline, outline_rouseTo moved]
      exact suspended
  | wait instant =>
      obtain rfl := eq_wait moved
      exact suspended
  | reorder roster =>
      obtain ⟨shuffled, rfl⟩ := eq_reorder moved
      exact (shuffled.isSuspended sound.listed.sound sequence).trans suspended

/-- A suspended sequence stays suspended until it is resumed or purged as a whole. -/
theorem isSuspended_run {first last : Service} {moves : List Move} {sequence : SequenceKey}
    (sound : first.Sound) (suspended : first.world.roster.isSuspended sequence = true)
    (run : Run first moves last) (notResumed : .command (.resume sequence) ∉ moves)
    (notPurged : .command (.purgeAll sequence) ∉ moves) :
    last.world.roster.isSuspended sequence = true := by
  induction run with
  | start => exact suspended
  | @extend moves move middle last run moved inductionHypothesis =>
      simp only [List.mem_append, List.mem_singleton, not_or] at notResumed notPurged
      exact isSuspended_move (sound.run run)
        (inductionHypothesis notResumed.1 notPurged.1) moved (Ne.symm notResumed.2)
        (Ne.symm notPurged.2)

/-- What ends a message is final. -/
theorem hasEnded_since {first middle last : Service} {early late : List Move} {move : Move}
    {identity : Nat} (sound : first.Sound) (run : Run first (early ++ move :: late) last)
    (toMiddle : Run first early middle) (ends : middle.Ends identity move) :
    last.HasEnded identity := by
  rcases run.split with ⟨_, next, toSame, moved, toLast⟩
  obtain rfl := toSame.unique toMiddle
  have middleSound := sound.run toMiddle
  exact (hasEnded_of_ends middleSound ends moved).run (middleSound.move moved) toLast

/-- A sequence stays suspended until it is resumed or purged as a whole. -/
theorem isSuspended_since {first last : Service} {early late : List Move}
    {sequence : SequenceKey} (sound : first.Sound)
    (run : Run first (early ++ .command (.suspend sequence) :: late) last)
    (notResumed : .command (.resume sequence) ∉ late)
    (notPurged : .command (.purgeAll sequence) ∉ late) :
    last.world.roster.isSuspended sequence = true := by
  rcases run.split with ⟨middle, next, toMiddle, suspended, toLast⟩
  obtain rfl := eq_carryOut suspended
  have isSuspended : (middle.carryOut (.suspend sequence)).world.roster.isSuspended sequence =
      true := by
    rw [← roster_outline, outline_suspend]
    exact Roster.isSuspended_suspend _ _
  exact isSuspended_run ((sound.run toMiddle).move suspended) isSuspended toLast notResumed
    notPurged

/-! ## Nothing goes out that should not -/

/-- A resend that begins belongs to a candidate that is listed in the active list of
its sequence, which is not suspended; the candidate has an address, and is neither
exhausted nor ended.  So no purge, stop or shutdown has found the message listed
before, and since the latest suspension of its sequence, if there was one, the
sequence was resumed or purged as a whole. -/
theorem begins_only_active {first before after : Service} {moves : List Move} {move : Move}
    {resend : Resend} (initial : first.IsInitial) (run : Run first moves before)
    (moved : before.move? move = some after) (begins : resend ∈ before.resendsUntil after) :
    ∃ candidate, before.world.candidate? resend.job.candidate = some candidate ∧
      candidate.message = some resend.job.message ∧
      candidate.sequence = resend.job.message.sequence ∧
      resend.job.candidate ∈ before.world.roster.activeOf candidate.sequence ∧
      before.world.isSuspended candidate.sequence = false ∧
      resend.job.message.destination ≠ .anonymous ∧
      candidate.exhausted = false ∧ candidate.ending = none ∧
      (∀ early ending late middle, moves = early ++ ending :: late → Run first early middle →
        ¬ middle.Ends resend.job.candidate ending) ∧
      ∀ early late, moves = early ++ .command (.suspend candidate.sequence) :: late →
        .command (.resume candidate.sequence) ∈ late ∨
          .command (.purgeAll candidate.sequence) ∈ late := by
  have sound : before.Sound := initial.sound.run run
  have turn := (turn_move sound.tidy moved).2.2 resend.job.candidate
  obtain ⟨untimed, errands, isCandidate, may, waits⟩ :=
    turn.begins (resends_share sound.tidy moved begins)
  obtain ⟨pending, unsuspended, active, further, hasMessage⟩ :=
    Candidate.maySend_eq_true_iff.mp may
  obtain ⟨candidate, found, rfl⟩ := exists_candidate isCandidate
  rcases Option.ne_none_iff_exists'.mp hasMessage with ⟨message, isMessage⟩
  have shareSound := sound.share resend.job.candidate
  have sameMessage : resend.job.message = message :=
    shareSound.same _ message isCandidate isMessage (.waiting resend.job)
      (waits ▸ Multiset.mem_cons_self _ _)
  obtain ⟨sameSequence, _, sameAddress⟩ :=
    (shareSound.candidate _ isCandidate).named message isMessage
  have addressable := ((shareSound.candidate _ isCandidate).busy pending).2.2
  obtain ⟨present, sameSide⟩ := sound.listed.present _ _ isCandidate active
  have notSuspended : before.world.roster.isSuspended candidate.sequence = false :=
    sameSide.symm.trans unsuspended
  have onActive : resend.job.candidate ∈ before.world.roster.activeOf candidate.sequence :=
    Roster.mem_activeOf_of_mem_listOf notSuspended present
  refine ⟨candidate, found, sameMessage ▸ isMessage, sameMessage ▸ sameSequence.symm, onActive,
    notSuspended, ?_, further, active, ?_, ?_⟩
  · rw [sameMessage]
    intro anonymous
    rw [anonymous, addressable] at sameAddress
    cases sameAddress
  · rintro early ending late middle rfl earlyRun ends
    rcases hasEnded_since initial.sound run earlyRun ends with ⟨later, isLater, isEnded⟩
    obtain rfl := Option.some.inj (isCandidate.symm.trans isLater)
    exact isEnded active
  · rintro early late rfl
    by_contra neither
    rw [not_or] at neither
    have still := isSuspended_since initial.sound run neither.1 neither.2
    rw [notSuspended] at still
    cases still

/-- What a run begins to send with its last move. -/
theorem exists_resendsUntil (first : Service) (moves : List Move) (move : Move)
    (resends : List Resend)
    (sends : ((follow moves first).bind fun before =>
      (before.move? move).map before.resendsUntil) = some resends) :
    ∃ before after, Run first moves before ∧ before.move? move = some after ∧
      before.resendsUntil after = resends := by
  rcases Option.bind_eq_some_iff.mp sends with ⟨before, followed, further⟩
  rcases Option.map_eq_some_iff.mp further with ⟨after, moved, same⟩
  exact ⟨before, after, .of_follow followed, moved, same⟩

/-- A message whose sequence was suspended and resumed goes out again. -/
theorem begins_only_active_after_resumption :
    ∃ before after resend,
      Run (Sample.service (.byTimers true))
        [.command (.add (Sample.message 1 none)), .command (.suspend Sample.sequence),
          .command (.resume Sample.sequence), .step 0, .step 0] before ∧
      before.move? (.step 0) = some after ∧ resend ∈ before.resendsUntil after ∧
      ∃ candidate, before.world.candidate? resend.job.candidate = some candidate ∧
        resend.job.candidate ∈ before.world.roster.activeOf candidate.sequence := by
  obtain ⟨before, after, run, moved, sends⟩ :=
    exists_resendsUntil (Sample.service (.byTimers true))
      [.command (.add (Sample.message 1 none)), .command (.suspend Sample.sequence),
        .command (.resume Sample.sequence), .step 0, .step 0]
      (.step 0) [⟨0, ⟨0, Sample.message 1 none, true⟩⟩] rfl
  have begins := sends ▸ List.mem_singleton_self _
  obtain ⟨candidate, found, _, _, listed, _⟩ :=
    begins_only_active (Sample.isInitial_service _) run moved begins
  exact ⟨before, after, _, run, moved, begins, candidate, found, listed⟩

/-- Purging the whole of a suspended sequence ends its suspension, so that a message
added afterwards goes out although the sequence was never resumed. -/
theorem begins_without_resumption :
    ¬ ∀ (first before after : Service) (moves : List Move) (move : Move) (resend : Resend),
      first.IsInitial → Run first moves before → before.move? move = some after →
      resend ∈ before.resendsUntil after →
      ∀ early late, moves = early ++ .command (.suspend resend.job.message.sequence) :: late →
        .command (.resume resend.job.message.sequence) ∈ late := by
  intro always
  obtain ⟨before, after, run, moved, sends⟩ :=
    exists_resendsUntil (Sample.service .byHand)
      [.command (.suspend Sample.sequence), .command (.purgeAll Sample.sequence),
        .command (.add (Sample.message 1 none)),
        .command (.request none (.attempt Sample.sequence 1)), .step 0]
      (.step 0) [⟨0, ⟨0, Sample.message 1 none, true⟩⟩] rfl
  have begins := sends ▸ List.mem_singleton_self _
  have resumed := always _ _ _ _ _ _ (Sample.isInitial_service _) run moved begins [] _ rfl
  simp at resumed

end Service

end Redelivery
