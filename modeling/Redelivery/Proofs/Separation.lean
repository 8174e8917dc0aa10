import Redelivery.Proofs.Enactments
import Redelivery.Proofs.Scheduling

/-!
# Sequences keep apart

A manual registry whose resends are run inline and take no time is played a script.  Before
every move its two maps may come in any other order, as they do where maps keep no order of their
own.  Whatever the script does to other sequences, and in whatever order they are listed, a
sequence is answered, listed and resent as if it had been alone.
-/

namespace Redelivery

/-! ## Manual registries at work -/

namespace Service

/-- What holds of a manual registry between two operations that are over at once. -/
structure IsOrderly (service : Service) : Prop where
  calm : service.IsCalm
  byHand : service.world.driving = .byHand
  unasked : service.world.agenda.entries = []
  timed : service.IsTimed
  sound : service.Sound
  tracked : ∃ book, service.outline.Tracks book

/-- No number occurs twice in a sequence. -/
theorem IsOrderly.numbered {service : Service} (orderly : service.IsOrderly)
    (sequence : SequenceKey) :
    ((service.outline.roster.listOf sequence).map service.outline.numberOf).Nodup := by
  obtain ⟨book, tracks⟩ := orderly.tracked
  exact tracks.nodup_numbers sequence

/-- A manual registry has no timer. -/
theorem IsOrderly.timerless {service : Service} (orderly : service.IsOrderly) {identity : Nat}
    {candidate : Candidate} (found : service.world.candidate? identity = some candidate) :
    candidate.timer = none := by
  cases armed : candidate.timer with
  | none => rfl
  | some ticket =>
      obtain ⟨due, present⟩ := orderly.timed.timed.armed identity candidate ticket found armed
      rw [orderly.unasked] at present
      cases present

theorem isOrderly_start {registry : Registry} (fresh : registry.IsFresh)
    (byHand : registry.driving = .byHand)
    (inline : ∀ owner, registry.routing.resolve owner = .inline)
    (instant : registry.script.IsInstant) : IsOrderly (Timeline.start registry) := by
  have initial : IsInitial (Timeline.start registry) := ⟨registry, fresh, rfl⟩
  have untimed (hosted : Bool) : registry.driving ≠ .byTimers hosted := by
    rw [byHand]
    exact Driving.noConfusion
  refine ⟨isCalm_start fresh untimed inline instant, byHand, fresh.entries, initial.isTimed,
    initial.sound, .blank, ?_⟩
  rw [outline_of_isInitial initial]
  exact Outline.tracks_initial

/-- Another order of the maps leaves a registry orderly. -/
theorem Shuffled.isOrderly {before after : Service} (shuffled : before.Shuffled after)
    (orderly : before.IsOrderly) : after.IsOrderly := by
  obtain ⟨roster, isShuffled, rfl⟩ := shuffled
  have moved : before.move? (.reorder roster) = some (before.withRoster roster) :=
    if_pos isShuffled
  obtain ⟨book, tracks⟩ := orderly.tracked
  exact ⟨{ orderly.calm with }, orderly.byHand, orderly.unasked,
    (tends_move orderly.timed moved).1, orderly.sound.move moved,
    book, tracks_move orderly.sound tracks moved⟩

end Service

/-! ## What is seen of a sequence -/

/-- What can be asked about a sequence, and what was resent for it. -/
structure View where
  suspended : Bool
  count : Nat
  numbers : List Nat
  statuses : List (Nat × RetryStatus)
  status : Nat → Option RetryStatus
  /-- The resends that went out, newest first. -/
  sent : List Sent

/-- What is seen of a sequence. -/
def Service.viewOf (service : Service) (sequence : SequenceKey) : View :=
  { suspended := service.world.isSuspended sequence
    count := service.world.countOf sequence
    numbers := service.world.numbers sequence
    statuses := service.world.statuses sequence
    status := service.world.status? sequence
    sent := service.outline.sentOf sequence }

/-- What is seen of an excerpt. -/
def Excerpt.view (excerpt : Excerpt) : View :=
  { suspended := excerpt.suspended
    count := excerpt.listed.length
    numbers := (excerpt.listed.map Candidate.number).mergeSort
    statuses := (excerpt.listed.map fun candidate =>
      (candidate.number, candidate.status)).mergeSort fun first second =>
        decide (first.1 ≤ second.1)
    status := fun number => (excerpt.find? number).map Candidate.status
    sent := excerpt.sent }

/-- Without a timer, there is nothing but the untimed candidate to be seen. -/
theorem Candidate.status_untimed {candidate : Candidate} (timerless : candidate.timer = none) :
    candidate.untimed.status = candidate.status := by
  simp only [status, phase, untimed, timerless]
  rfl

namespace Service

/-- What is seen of a candidate that has no timer is seen of its outline. -/
theorem IsOrderly.view_untimed {service : Service} (orderly : service.IsOrderly) {β : Type}
    {seen : Candidate → β}
    (same : ∀ candidate : Candidate, candidate.timer = none →
      seen candidate.untimed = seen candidate) (identity : Nat) :
    (service.outline.candidates[identity]?).map seen =
      (service.world.candidate? identity).map seen := by
  have untimed : service.outline.candidates[identity]? =
      (service.world.candidate? identity).map Candidate.untimed :=
    service.world.getElem?_outline identity
  rw [untimed, Option.map_map]
  exact Option.map_congr fun candidate found => same candidate (orderly.timerless found)

theorem IsOrderly.map_candidatesOf {service : Service} (orderly : service.IsOrderly) {β : Type}
    (seen : Candidate → β)
    (same : ∀ candidate : Candidate, candidate.timer = none →
      seen candidate.untimed = seen candidate) (identities : List Nat) :
    (service.outline.candidatesOf identities).map seen =
      identities.filterMap fun identity => (service.world.candidate? identity).map seen := by
  rw [Outline.candidatesOf, List.map_filterMap]
  exact List.filterMap_congr fun identity _ => orderly.view_untimed same identity

/-- The excerpt of a sequence tells all that is seen of it. -/
theorem IsOrderly.viewOf_eq {service : Service} (orderly : service.IsOrderly)
    (sequence : SequenceKey) :
    service.viewOf sequence = (service.outline.excerpt sequence).view := by
  have sameStatus (candidate : Candidate) (timerless : candidate.timer = none) :
      candidate.untimed.status = candidate.status := Candidate.status_untimed timerless
  rw [viewOf, Excerpt.view]
  congr 1
  · exact (Outline.length_candidatesOf (orderly.sound.listed.homed sequence)).symm
  · rw [Registry.numbers]
    exact congrArg (List.mergeSort · _) (orderly.map_candidatesOf _ (fun _ _ => rfl) _).symm
  · have seen (candidate : Candidate) (timerless : candidate.timer = none) :
        (candidate.untimed.number, candidate.untimed.status) =
          (candidate.number, candidate.status) :=
      congrArg (Prod.mk candidate.number) (sameStatus candidate timerless)
    have entries := orderly.map_candidatesOf
      (fun candidate => (candidate.number, candidate.status)) seen
      (service.world.roster.listOf sequence)
    exact congrArg (List.mergeSort · _) ((List.map_filterMap ..).trans entries.symm)
  · funext number
    rw [Outline.find?_excerpt, ← find?_world, Registry.status?]
    cases service.world.find? sequence number with
    | none => rfl
    | some identity => exact (orderly.view_untimed sameStatus identity).symm

/-! ## One move -/

/-- An operation leaves a registry orderly, and does to each sequence what its excerpt tells. -/
theorem IsOrderly.enacts {before after : Service} {command : Command}
    (orderly : before.IsOrderly) (plain : command.isPlain = true)
    (enacts : before.Enacts (.command command) after) :
    after.IsOrderly ∧ before.StaysCalm after ∧
      (∀ sequence, after.outline.excerpt sequence =
        if command.concerns sequence then
          (before.outline.excerpt sequence).step before.now before.world.routing command
        else before.outline.excerpt sequence) ∧
      ∀ sequence, command.sequence? = some sequence →
        before.resultOf after command = (before.outline.excerpt sequence).result command := by
  obtain ⟨other, alsoEnacts, stays, excerpts, results⟩ :=
    orderly.calm.exists_enacts orderly.sound orderly.numbered plain
  obtain rfl := enacts.unique alsoEnacts
  obtain ⟨moves, run⟩ := enacts.leads
  have emptied : after.world.agenda.entries = [] := by
    have fewer := (stays.unasked orderly.byHand).fewer
    rw [orderly.unasked] at fewer
    exact List.sublist_nil.mp fewer
  have kept : after.Sound ∧ ∃ book, after.outline.Tracks book := by
    apply run.preserves ⟨orderly.sound, orderly.tracked⟩
    rintro service next move ⟨sound, book, tracks⟩ moved
    exact ⟨sound.move moved, book.after move, tracks_move sound tracks moved⟩
  exact ⟨⟨stays.calm, stays.driving.trans orderly.byHand, emptied,
    (tends_run orderly.timed run).1, kept.1, kept.2⟩, stays, excerpts, results⟩

/-- So does a wait, which takes nothing but time. -/
theorem IsOrderly.waits {before after : Service} {instant : Nat} (orderly : before.IsOrderly)
    (enacts : before.Enacts (.wait instant) after) :
    after = { before with now := instant } ∧ after.IsOrderly := by
  obtain ⟨moves, run⟩ := enacts.leads
  obtain ⟨rfl, calm⟩ := orderly.calm.eq_of_wait enacts
  exact ⟨rfl, calm, orderly.byHand, orderly.unasked, (tends_run orderly.timed run).1,
    run.preserves orderly.sound fun sound moved => sound.move moved, orderly.tracked⟩

end Service

/-- The operations on messages, the calls that a manual registry answers, and waits. -/
def Move.isPlain : Move → Bool
  | .command operation => operation.isPlain
  | .wait _ => true
  | _ => false

/-- Whether a move concerns a sequence: it names no other one. -/
def Move.concerns (sequence : SequenceKey) : Move → Bool
  | .command operation => operation.concerns sequence
  | _ => true

/-- Whether a move names a sequence. -/
def Move.names (sequence : SequenceKey) : Move → Bool
  | .command operation => decide (operation.sequence? = some sequence)
  | _ => false

/-- The clock after a move. -/
def Move.clock (now : Nat) : Move → Nat
  | .wait instant => instant
  | _ => now

/-- What a move that is over has given back. -/
def Service.outcomeOf (before after : Service) : Move → Result
  | .command command => before.resultOf after command
  | _ => .nothing

/-- A sequence by itself: the clock, what there is of it, and what those were answered who named
it. -/
structure Solo where
  now : Nat
  excerpt : Excerpt
  results : List Result

/-- A move, as far as a sequence has to do with it. -/
def Solo.take (sequence : SequenceKey) (routing : Executor.Routing) (solo : Solo) : Move → Solo
  | .command command =>
      if command.concerns sequence then
        { solo with
          excerpt := solo.excerpt.step solo.now routing command
          results :=
            if command.sequence? = some sequence then
              solo.results ++ [solo.excerpt.result command]
            else solo.results }
      else solo
  | .wait instant => { solo with now := instant }
  | _ => solo

/-- A move that names another sequence does nothing. -/
theorem Solo.take_of_elsewhere {sequence : SequenceKey} {move : Move}
    (elsewhere : move.concerns sequence = false) (routing : Executor.Routing) (solo : Solo) :
    solo.take sequence routing move = solo := by
  cases move with
  | command command =>
      have unconcerned : ¬ command.concerns sequence = true := Bool.eq_false_iff.mp elsewhere
      rw [take, if_neg unconcerned]
  | wait instant => cases elsewhere
  | step _ | rouse _ _ | reorder _ => rfl

namespace Service

/-- Every move that is over leaves a registry orderly. -/
theorem IsOrderly.moves {before after : Service} {move : Move} (orderly : before.IsOrderly)
    (plain : move.isPlain = true) (enacts : before.Enacts move after) :
    after.IsOrderly ∧ after.world.routing = before.world.routing := by
  cases move with
  | command command =>
      obtain ⟨afterOrderly, stays, _⟩ := orderly.enacts plain enacts
      exact ⟨afterOrderly, stays.routing⟩
  | wait instant =>
      obtain ⟨rfl, afterOrderly⟩ := orderly.waits enacts
      exact ⟨afterOrderly, rfl⟩
  | step _ | rouse _ _ | reorder _ => cases plain

/-- What there is of a sequence after a move, and what a move that names it has given back. -/
theorem IsOrderly.take {before after : Service} {move : Move} (orderly : before.IsOrderly)
    (plain : move.isPlain = true) (enacts : before.Enacts move after) (sequence : SequenceKey)
    (results : List Result) :
    (Solo.mk before.now (before.outline.excerpt sequence) results).take sequence
        before.world.routing move =
      { now := after.now
        excerpt := after.outline.excerpt sequence
        results :=
          if move.names sequence then results ++ [before.outcomeOf after move]
          else results } := by
  cases move with
  | command command =>
      obtain ⟨_, stays, excerpts, answers⟩ := orderly.enacts plain enacts
      rw [Solo.take, excerpts, stays.now]
      by_cases names : command.sequence? = some sequence
      · have concerned : command.concerns sequence = true := by
          simp [Command.concerns, names]
        have named : (Move.command command).names sequence = true := decide_eq_true names
        rw [if_pos concerned, if_pos concerned, if_pos names, if_pos named,
          ← answers sequence names]
        rfl
      · have unnamed : ¬ (Move.command command).names sequence = true :=
          fun named => names (of_decide_eq_true named)
        rw [if_neg names, if_neg unnamed]
        split <;> rfl
  | wait instant =>
      obtain ⟨rfl, _⟩ := orderly.waits enacts
      rfl
  | step _ | rouse _ _ | reorder _ => cases plain

/-- Every operation is possible, and so is every wait that does not go back. -/
theorem IsOrderly.exists_next {service : Service} (orderly : service.IsOrderly) {move : Move}
    (plain : move.isPlain = true) (forward : service.now ≤ move.clock service.now) :
    ∃ after, service.Enacts move after ∧ after.now = move.clock service.now := by
  cases move with
  | command command =>
      obtain ⟨after, enacts, stays, _⟩ :=
        orderly.calm.exists_enacts orderly.sound orderly.numbered plain
      exact ⟨after, enacts, stays.now⟩
  | wait instant => exact ⟨_, orderly.calm.enacts_wait forward, rfl⟩
  | step _ | rouse _ _ | reorder _ => cases plain

end Service

/-! ## Plays -/

/-- A script is played: before every move the maps may come in another order, and every move is
over before the next one. -/
inductive Plays (first : Service) : List (Move × Result) → Service → Prop where
  | start : Plays first [] first
  | extend {played : List (Move × Result)} {move : Move} {middle shuffled last : Service} :
      Plays first played middle → middle.Shuffled shuffled → move.isPlain = true →
      shuffled.Enacts move last →
      Plays first (played ++ [(move, shuffled.outcomeOf last move)]) last

/-- A script can be played from an instant on: it knows plain moves only, and the clock does not
go back. -/
def IsPlayable (now : Nat) : List Move → Prop
  | [] => True
  | move :: rest =>
      move.isPlain = true ∧ now ≤ move.clock now ∧ IsPlayable (move.clock now) rest

/-- What is left of a script for one sequence can still be played. -/
theorem IsPlayable.concerning {now : Nat} {script : List Move} (playable : IsPlayable now script)
    (sequence : SequenceKey) : IsPlayable now (script.filter (Move.concerns sequence)) := by
  induction script generalizing now with
  | nil => trivial
  | cons move rest inductionHypothesis =>
      obtain ⟨plain, forward, restPlayable⟩ := playable
      cases concerned : move.concerns sequence with
      | true =>
          rw [List.filter_cons_of_pos concerned]
          exact ⟨plain, forward, inductionHypothesis restPlayable⟩
      | false =>
          have sameClock : move.clock now = now := by
            cases move with
            | wait instant => cases concerned
            | command _ | step _ | rouse _ _ | reorder _ => rfl
          rw [sameClock] at restPlayable
          rw [List.filter_cons_of_neg (by simp [concerned])]
          exact inductionHypothesis restPlayable

/-- What those were answered who named a sequence. -/
def answersTo (sequence : SequenceKey) (played : List (Move × Result)) : List Result :=
  (played.filter fun entry => entry.1.names sequence).map Prod.snd

namespace Plays

variable {first last : Service} {played : List (Move × Result)}

/-- A play keeps a registry orderly. -/
theorem isOrderly (orderly : first.IsOrderly) (plays : Plays first played last) :
    last.IsOrderly ∧ last.world.routing = first.world.routing := by
  induction plays with
  | start => exact ⟨orderly, rfl⟩
  | extend plays shuffles plain enacts inductionHypothesis =>
      obtain ⟨middleOrderly, sameRouting⟩ := inductionHypothesis
      obtain ⟨lastOrderly, lastRouting⟩ := (shuffles.isOrderly middleOrderly).moves plain enacts
      exact ⟨lastOrderly, lastRouting.trans (shuffles.routing.trans sameRouting)⟩

/-- A play goes on for each sequence as if there were no other one. -/
theorem solo (orderly : first.IsOrderly) (plays : Plays first played last)
    (sequence : SequenceKey) :
    ((played.map Prod.fst).filter (Move.concerns sequence)).foldl
        (Solo.take sequence first.world.routing)
        ⟨first.now, first.outline.excerpt sequence, []⟩ =
      ⟨last.now, last.outline.excerpt sequence, answersTo sequence played⟩ := by
  induction plays with
  | start => rfl
  | @extend played move middle shuffled last plays shuffles plain enacts inductionHypothesis =>
      obtain ⟨middleOrderly, sameRouting⟩ := plays.isOrderly orderly
      have taken :=
        (shuffles.isOrderly middleOrderly).take plain enacts sequence (answersTo sequence played)
      rw [shuffles.now, Outline.excerpt_of_shuffled shuffles middleOrderly.sound.listed.sound,
        shuffles.routing, sameRouting] at taken
      have answers : answersTo sequence (played ++ [(move, shuffled.outcomeOf last move)]) =
          if move.names sequence then
            answersTo sequence played ++ [shuffled.outcomeOf last move]
          else answersTo sequence played := by
        rw [answersTo, List.filter_append, List.map_append, ← answersTo]
        cases names : move.names sequence <;> simp [names]
      rw [answers, ← taken, ← inductionHypothesis, List.map_append, List.filter_append,
        List.foldl_append, List.map_singleton]
      cases concerned : move.concerns sequence with
      | true =>
          rw [List.filter_cons_of_pos concerned]
          rfl
      | false =>
          rw [List.filter_cons_of_neg (by simp [concerned]), Solo.take_of_elsewhere concerned]
          rfl

/-- A play can go on with every script. -/
theorem exists_further (orderly : first.IsOrderly) (plays : Plays first played last)
    {script : List Move} (playable : IsPlayable last.now script) :
    ∃ more later, Plays first more later ∧
      more.map Prod.fst = played.map Prod.fst ++ script := by
  induction script generalizing played last with
  | nil => exact ⟨played, last, plays, (List.append_nil _).symm⟩
  | cons move rest inductionHypothesis =>
      obtain ⟨plain, forward, restPlayable⟩ := playable
      obtain ⟨next, enacts, clock⟩ := (plays.isOrderly orderly).1.exists_next plain forward
      rw [← clock] at restPlayable
      obtain ⟨more, later, playsOn, sameMoves⟩ :=
        inductionHypothesis (plays.extend (.refl last) plain enacts) restPlayable
      refine ⟨more, later, playsOn, ?_⟩
      rw [sameMoves, List.map_append, List.append_assoc]
      rfl

/-- Two plays agree about a sequence if their scripts agree in what concerns it. -/
theorem agree (orderly : first.IsOrderly) (plays : Plays first played last)
    {other : List (Move × Result)} {otherLast : Service} (alsoPlays : Plays first other otherLast)
    {sequence : SequenceKey}
    (same : (other.map Prod.fst).filter (Move.concerns sequence) =
      (played.map Prod.fst).filter (Move.concerns sequence)) :
    answersTo sequence other = answersTo sequence played ∧
      otherLast.viewOf sequence = last.viewOf sequence := by
  have solo := plays.solo orderly sequence
  have alsoSolo := alsoPlays.solo orderly sequence
  rw [same] at alsoSolo
  have equal := alsoSolo.symm.trans solo
  constructor
  · exact congrArg Solo.results equal
  · rw [(alsoPlays.isOrderly orderly).1.viewOf_eq, (plays.isOrderly orderly).1.viewOf_eq]
    exact congrArg (fun solo => solo.excerpt.view) equal

end Plays

/-- A manual registry whose resends are run inline and take no time answers, lists and resends
each sequence as if no other one was there, in whatever order its maps come: a script can be
played, what it makes of a sequence is what the script makes that leaves out whatever names
another one, and so does every script that agrees with it in what concerns the sequence. -/
theorem sequences_apart {registry : Registry} (fresh : registry.IsFresh)
    (byHand : registry.driving = .byHand)
    (inline : ∀ owner, registry.routing.resolve owner = .inline)
    (instant : registry.script.IsInstant) {script : List Move} (playable : IsPlayable 0 script)
    (sequence : SequenceKey) :
    (∃ played last, Plays (Timeline.start registry) played last ∧
      played.map Prod.fst = script) ∧
      ∀ played last, Plays (Timeline.start registry) played last →
        played.map Prod.fst = script →
        (∃ alone lastAlone, Plays (Timeline.start registry) alone lastAlone ∧
          alone.map Prod.fst = script.filter (Move.concerns sequence) ∧
          answersTo sequence alone = answersTo sequence played ∧
          lastAlone.viewOf sequence = last.viewOf sequence) ∧
        ∀ other otherLast, Plays (Timeline.start registry) other otherLast →
          (other.map Prod.fst).filter (Move.concerns sequence) =
            script.filter (Move.concerns sequence) →
          answersTo sequence other = answersTo sequence played ∧
            otherLast.viewOf sequence = last.viewOf sequence := by
  have orderly := Service.isOrderly_start fresh byHand inline instant
  constructor
  · obtain ⟨played, last, plays, sameMoves⟩ := Plays.start.exists_further orderly playable
    exact ⟨played, last, plays, sameMoves⟩
  · rintro played last plays rfl
    constructor
    · obtain ⟨alone, lastAlone, playsAlone, sameMoves⟩ :=
        Plays.start.exists_further orderly (playable.concerning sequence)
      refine ⟨alone, lastAlone, playsAlone, sameMoves, plays.agree orderly playsAlone ?_⟩
      rw [sameMoves, List.map_nil, List.nil_append, List.filter_filter]
      exact List.filter_congr fun move _ => Bool.and_self _
    · intro other otherLast alsoPlays same
      exact plays.agree orderly alsoPlays same

namespace Sample

/-- Another sequence. -/
def otherSequence : SequenceKey :=
  ⟨"T"⟩

/-- Two sequences in turns: the other one is suspended and given up, while a message of the first
one is resent as it falls due, and again at once. -/
def intertwined : List Move :=
  [.command (.add (message 1 none)),
    .command (.add { message 1 none with sequence := otherSequence }),
    .command (.suspend otherSequence), .wait 3000000000,
    .command (.request none (.driveDue 3000000000)), .command (.purgeAll otherSequence),
    .command (.request none (.attempt sequence 1)),
    .command (.request none (.attempt otherSequence 1)), .command .shutdown]

end Sample

/-- The first sequence sees two resends of its message, with or without the other one. -/
theorem sequences_apart_of_intertwined :
    IsPlayable 0 Sample.intertwined ∧
      ∃ played last alone lastAlone,
        Plays (Sample.service .byHand) played last ∧
        Plays (Sample.service .byHand) alone lastAlone ∧
        played.map Prod.fst = Sample.intertwined ∧ alone.length < played.length ∧
        lastAlone.viewOf Sample.sequence = last.viewOf Sample.sequence ∧
        (last.viewOf Sample.sequence).sent = [⟨3000000000, 1, false⟩, ⟨3000000000, 1, true⟩] := by
  have playable : IsPlayable 0 Sample.intertwined := by
    simp [Sample.intertwined, IsPlayable, Move.isPlain, Command.isPlain, Move.clock]
  have inline (owner : Option String) :
      (Registry.empty .byHand).routing.resolve owner = .inline := by
    cases owner <;> rfl
  have apart := sequences_apart (Registry.isFresh_empty .byHand) rfl inline
    Script.isInstant_empty playable Sample.sequence
  obtain ⟨⟨played, last, plays, script⟩, each⟩ := apart
  obtain ⟨⟨alone, lastAlone, playsAlone, shorter, _, sameView⟩, _⟩ := each played last plays script
  refine ⟨playable, played, last, alone, lastAlone, plays, playsAlone, script, ?_, sameView, ?_⟩
  · have fewer : (Sample.intertwined.filter (Move.concerns Sample.sequence)).length <
        Sample.intertwined.length := by decide
    rw [← shorter, ← script, List.length_map, List.length_map] at fewer
    exact fewer
  · have orderly := Service.isOrderly_start (Registry.isFresh_empty .byHand) rfl inline
      Script.isInstant_empty
    have solo := plays.solo orderly Sample.sequence
    have sent : ((Sample.intertwined.filter (Move.concerns Sample.sequence)).foldl
        (Solo.take Sample.sequence (Registry.empty .byHand).routing)
        ⟨0, (Sample.service .byHand).outline.excerpt Sample.sequence, []⟩).excerpt.sent =
          [⟨3000000000, 1, false⟩, ⟨3000000000, 1, true⟩] := by decide +kernel
    rw [script] at solo
    rw [(plays.isOrderly orderly).1.viewOf_eq]
    exact (congrArg (fun solo => solo.excerpt.sent) solo).symm.trans sent

end Redelivery
