import Redelivery.Proofs.Book
import Redelivery.Proofs.Listing
import Redelivery.Proofs.Origin
import Redelivery.Registry.Queries

/-!
# A registry keeps the book

The lists of a roster wander between two maps, an empty list may mean that a sequence is
suspended, and candidates change all the time.  Still, the numbers that are listed for a
sequence are those on its page, in the same order, and the sequence is suspended exactly if
its page is marked.  Every move keeps it so, and then each query answers from the book.
-/

namespace Redelivery

namespace Outline

/-- The roster lists what the book says. -/
structure Tracks (outline : Outline) (book : Book) : Prop where
  numbers : ∀ sequence, (outline.roster.listOf sequence).map outline.numberOf =
    (book sequence).numbers.map some
  suspended : ∀ sequence, outline.roster.isSuspended sequence = (book sequence).suspended

theorem tracks_initial : (Outline.mk [] Roster.empty [] 0).Tracks .blank where
  numbers := fun _ => rfl
  suspended := fun _ => rfl

/-- A number is on the page of a sequence if and only if a candidate of the sequence has
it. -/
theorem Tracks.mem_numbers_iff {outline : Outline} {book : Book} (tracks : outline.Tracks book)
    {sequence : SequenceKey} {number : Nat} :
    number ∈ (book sequence).numbers ↔
      ∃ identity ∈ outline.roster.listOf sequence, outline.numberOf identity = some number := by
  rw [← List.mem_map, tracks.numbers, List.mem_map]
  simp

/-! ## Changes of outlines -/

/-- Writing one page anew. -/
theorem Tracks.write {before after : Outline} {book : Book} (tracks : before.Tracks book)
    {sequence : SequenceKey} {page : Page}
    (lists : ∀ other, other ≠ sequence → (after.roster.listOf other).map after.numberOf =
      (before.roster.listOf other).map before.numberOf)
    (marks : ∀ other, other ≠ sequence →
      after.roster.isSuspended other = before.roster.isSuspended other)
    (numbers : (after.roster.listOf sequence).map after.numberOf = page.numbers.map some)
    (suspended : after.roster.isSuspended sequence = page.suspended) :
    after.Tracks (book.write sequence page) where
  numbers := by
    intro other
    by_cases same : other = sequence
    · rw [same, Book.write_self, numbers]
    · rw [Book.write_of_ne same, lists other same, tracks.numbers]
  suspended := by
    intro other
    by_cases same : other = sequence
    · rw [same, Book.write_self, suspended]
    · rw [Book.write_of_ne same, marks other same, tracks.suspended]

/-- A page may be written anew as long as it says what the roster lists. -/
theorem Tracks.copy {outline : Outline} {book : Book} (tracks : outline.Tracks book)
    {sequence : SequenceKey} {page : Page}
    (numbers : (outline.roster.listOf sequence).map outline.numberOf = page.numbers.map some)
    (suspended : outline.roster.isSuspended sequence = page.suspended) :
    outline.Tracks (book.write sequence page) :=
  tracks.write (fun _ _ => rfl) (fun _ _ => rfl) numbers suspended

/-- Changing candidates writes nothing, as long as they keep their numbers. -/
theorem Tracks.change {before after : Outline} {book : Book} (tracks : before.Tracks book)
    (sameRoster : after.roster = before.roster)
    (sameNumbers : ∀ identity, after.numberOf identity = before.numberOf identity) :
    after.Tracks book where
  numbers := by
    intro sequence
    rw [sameRoster, funext sameNumbers, tracks.numbers]
  suspended := by
    intro sequence
    rw [sameRoster, tracks.suspended]

/-- Another order of the maps writes nothing. -/
theorem Tracks.reorder {outline : Outline} {book : Book} (tracks : outline.Tracks book)
    {roster : Roster} (sound : outline.roster.Sound) (shuffled : outline.roster.Shuffled roster) :
    { outline with roster }.Tracks book where
  numbers := by
    intro sequence
    simp only [shuffled.listOf sound]
    exact tracks.numbers sequence
  suspended := by
    intro sequence
    simp only [shuffled.isSuspended sound]
    exact tracks.suspended sequence

/-- Changing the roster along with candidates writes the page of the sequence that the
change is about. -/
theorem Tracks.relist {outline : Outline} {book : Book} (tracks : outline.Tracks book)
    {change : Candidate → Candidate}
    (persists : ∀ candidate : Candidate, candidate.Persists (change candidate))
    (identities : List Nat) {roster : Roster} {sequence : SequenceKey} {page : Page}
    (lists : ∀ other, other ≠ sequence → roster.listOf other = outline.roster.listOf other)
    (marks : ∀ other, other ≠ sequence →
      roster.isSuspended other = outline.roster.isSuspended other)
    (numbers : (roster.listOf sequence).map outline.numberOf = page.numbers.map some)
    (suspended : roster.isSuspended sequence = page.suspended) :
    { outline.modifyAll identities change with roster }.Tracks (book.write sequence page) := by
  have sameNumbers : { outline.modifyAll identities change with roster }.numberOf =
      outline.numberOf :=
    funext (numberOf_modifyAll persists outline identities)
  apply tracks.write
  · intro other different
    rw [sameNumbers, lists other different]
  · exact marks
  · rw [sameNumbers, numbers]
  · exact suspended

/-- Enrolling a message adds its number to the page of its sequence. -/
theorem Tracks.enroll {outline : Outline} {book : Book} (tracks : outline.Tracks book)
    (listed : outline.Listed) (now : Nat) (routing : Executor.Routing) (suspended : Bool)
    {message : Message} (fresh : message.number ∉ (book message.sequence).numbers) :
    { outline with
      candidates := outline.candidates ++ [Candidate.register now routing suspended message]
      roster := outline.roster.add message.sequence outline.candidates.length }.Tracks
      (book.write message.sequence
        ((book message.sequence).append message.number fresh)) := by
  generalize isAfter : ({ outline with
    candidates := outline.candidates ++ [Candidate.register now routing suspended message]
    roster := outline.roster.add message.sequence outline.candidates.length } : Outline) = after
  have old : ∀ sequence, ∀ identity ∈ outline.roster.listOf sequence,
      after.numberOf identity = outline.numberOf identity := by
    intro sequence identity present
    rcases listed.homed sequence identity present with ⟨candidate, found, _⟩
    obtain ⟨inside, _⟩ := List.getElem?_eq_some_iff.mp found
    rw [← isAfter, numberOf, numberOf, List.getElem?_append_left inside]
  have new : after.numberOf outline.candidates.length = some message.number := by
    rw [← isAfter, numberOf, List.getElem?_concat_length]
    rfl
  have lists : ∀ sequence, after.roster.listOf sequence =
      if sequence = message.sequence then
        outline.roster.listOf sequence ++ [outline.candidates.length]
      else outline.roster.listOf sequence := by
    intro sequence
    rw [← isAfter]
    exact Roster.listOf_add outline.roster message.sequence sequence _
  have marks : ∀ sequence, after.roster.isSuspended sequence =
      outline.roster.isSuspended sequence := by
    intro sequence
    rw [← isAfter]
    exact Roster.isSuspended_add outline.roster message.sequence sequence _
  apply tracks.write
  · intro other different
    rw [lists other, if_neg different]
    exact List.map_congr_left (old other)
  · exact fun other _ => marks other
  · rw [lists message.sequence, if_pos rfl, List.map_append, List.map_congr_left (old _),
      tracks.numbers, List.map_singleton, new]
    simp only [Page.append, List.map_append, List.map_singleton]
  · rw [marks, tracks.suspended]
    rfl

end Outline

namespace Registry

/-! ## Registering -/

theorem numberOf_outline (registry : Registry) (identity : Nat) :
    registry.outline.numberOf identity = registry.numberOf identity := by
  rw [Outline.numberOf, getElem?_outline, numberOf, Option.map_map]
  rfl

/-- A message is found if and only if its number is on the page of its sequence. -/
theorem find?_isSome_iff {registry : Registry} {book : Book}
    (tracks : registry.outline.Tracks book) {sequence : SequenceKey} {number : Nat} :
    (registry.find? sequence number).isSome = true ↔ number ∈ (book sequence).numbers := by
  rw [tracks.mem_numbers_iff, find?, List.find?_isSome]
  simp only [decide_eq_true_eq, numberOf_outline, roster_outline]

/-- The registry takes in what the book accepts. -/
theorem rejection?_eq_none_iff {registry : Registry} {book : Book}
    (tracks : registry.outline.Tracks book) {message : Message} :
    registry.rejection? message = none ↔ book.Accepts message := by
  have known : (registry.find? message.sequence message.number).isSome = true ↔
      message.number ∈ (book message.sequence).numbers := find?_isSome_iff tracks
  rw [rejection?, Message.rejection?_eq_none_iff, Book.Accepts, ← known, Bool.not_eq_true]

/-- A message is registered exactly if it is not rejected. -/
theorem isOk_add (registry : Registry) (now : Nat) (message : Message) :
    (registry.add now message).2.isOk = true ↔ registry.rejection? message = none := by
  have sameRejection (fields : List Log.Field) :
      (registry.entered "add_unacknowledged" fields).rejection? message =
        registry.rejection? message := rfl
  rw [add, snd_traced, sameRejection]
  cases registry.rejection? message with
  | none => exact iff_of_true rfl rfl
  | some rejection => exact iff_of_false Bool.false_ne_true (Option.some_ne_none rejection)

/-! ## Queries -/

/-- What a registry tells of its messages is what a book says. -/
structure Shows (registry : Registry) (book : Book) : Prop where
  /-- The candidates of a sequence have the numbers of its page, in the same order. -/
  listed : ∀ sequence, (registry.roster.listOf sequence).map registry.numberOf =
    (book sequence).numbers.map some
  suspended : ∀ sequence, registry.isSuspended sequence = (book sequence).suspended
  accepts : ∀ now message,
    (registry.add now message).2.isOk = true ↔ book.Accepts message
  count : ∀ sequence, registry.countOf sequence = (book sequence).numbers.length
  numbers : ∀ sequence, registry.numbers sequence = (book sequence).numbers.mergeSort
  ascending : ∀ sequence, (registry.numbers sequence).Pairwise (· < ·)
  /-- There is one status for each number, in order. -/
  statuses : ∀ sequence,
    (registry.statuses sequence).map Prod.fst = (book sequence).numbers.mergeSort
  status : ∀ sequence number,
    (registry.status? sequence number).isSome = true ↔ number ∈ (book sequence).numbers
  sequences : ∀ sequence, sequence ∈ registry.sequences ↔ (book sequence).numbers ≠ []
  sorted : registry.sequences.Pairwise fun first second => first.text < second.text

theorem map_numberOf {registry : Registry} {book : Book}
    (tracks : registry.outline.Tracks book) (sequence : SequenceKey) :
    (registry.roster.listOf sequence).map registry.numberOf =
      (book sequence).numbers.map some := by
  rw [← tracks.numbers sequence, roster_outline, funext (numberOf_outline registry)]

theorem filterMap_numberOf {registry : Registry} {book : Book}
    (tracks : registry.outline.Tracks book) (sequence : SequenceKey) :
    (registry.roster.listOf sequence).filterMap registry.numberOf = (book sequence).numbers := by
  calc
    (registry.roster.listOf sequence).filterMap registry.numberOf =
        ((registry.roster.listOf sequence).map registry.numberOf).filterMap id := by
      rw [List.filterMap_map]
      rfl
    _ = (book sequence).numbers := by
      rw [map_numberOf tracks, List.filterMap_map, Function.id_comp, List.filterMap_some]

/-- A page in ascending order. -/
theorem pairwise_mergeSort_numbers (page : Page) : page.numbers.mergeSort.Pairwise (· < ·) := by
  have ordered : page.numbers.mergeSort.Pairwise fun first second =>
      decide (first ≤ second) = true := by
    apply List.pairwise_mergeSort
    · intro first second third
      simpa using Nat.le_trans
    · intro first second
      simpa using Nat.le_total first second
  have distinct : page.numbers.mergeSort.Nodup :=
    (List.mergeSort_perm page.numbers _).nodup_iff.mpr page.distinct
  refine (ordered.and distinct).imp ?_
  rintro first second ⟨atMost, different⟩
  exact Nat.lt_of_le_of_ne (of_decide_eq_true atMost) different

/-- The statuses are those of the listed candidates, in the order of their numbers. -/
theorem map_fst_statuses {registry : Registry} {book : Book}
    (tracks : registry.outline.Tracks book) (sequence : SequenceKey) :
    (registry.statuses sequence).map Prod.fst = (book sequence).numbers.mergeSort := by
  let isBefore (first second : Nat) := decide (first ≤ second)
  have sorts : (registry.statuses sequence).map Prod.fst =
      (List.map Prod.fst (((registry.roster.listOf sequence).filterMap registry.candidate?).map
        fun candidate => (candidate.number, candidate.status))).mergeSort isBefore :=
    List.map_mergeSort fun _ _ _ _ => rfl
  rw [sorts, List.map_map, List.map_filterMap, ← filterMap_numberOf tracks sequence]
  rfl

/-- Whoever is found bears the number that was asked for. -/
theorem numberOf_of_find? {registry : Registry} {sequence : SequenceKey} {number identity : Nat}
    (found : registry.find? sequence number = some identity) :
    registry.numberOf identity = some number :=
  of_decide_eq_true (List.find?_some (p := fun identity =>
    decide (registry.numberOf identity = some number)) found)

/-- A message has a status if and only if it is found. -/
theorem isSome_status? (registry : Registry) (sequence : SequenceKey) (number : Nat) :
    (registry.status? sequence number).isSome = (registry.find? sequence number).isSome := by
  rw [status?, Option.isSome_map]
  cases found : registry.find? sequence number with
  | none => rfl
  | some identity =>
      rcases Option.map_eq_some_iff.mp (numberOf_of_find? found) with ⟨candidate, isCandidate, _⟩
      rw [Option.bind_some, isCandidate]
      rfl

/-- A registry whose roster lists what a book says shows what the book says. -/
theorem shows_of_tracks {registry : Registry} {book : Book} (sound : registry.roster.Sound)
    (tracks : registry.outline.Tracks book) : registry.Shows book where
  listed := map_numberOf tracks
  suspended := tracks.suspended
  accepts := by
    intro now message
    rw [isOk_add, rejection?_eq_none_iff tracks]
  count := by
    intro sequence
    simpa [countOf] using congrArg List.length (map_numberOf tracks sequence)
  numbers := by
    intro sequence
    rw [numbers, filterMap_numberOf tracks]
  ascending := by
    intro sequence
    rw [numbers, filterMap_numberOf tracks]
    exact pairwise_mergeSort_numbers (book sequence)
  statuses := map_fst_statuses tracks
  status := by
    intro sequence number
    rw [isSome_status?, find?_isSome_iff tracks]
  sequences := by
    intro sequence
    rw [sequences, sound.mem_sequences_iff, ne_eq, ne_eq,
      ← List.map_eq_nil_iff (f := registry.numberOf), map_numberOf tracks, List.map_eq_nil_iff]
  sorted := SequenceKey.pairwise_distinctSorted _

end Registry

namespace Service

/-! ## Moves -/

/-- The activities of a service do not matter to the book. -/
theorem tracks_world {service : Service} {book : Book} (tracks : service.outline.Tracks book) :
    service.world.outline.Tracks book where
  numbers := tracks.numbers
  suspended := tracks.suspended

/-- Joining programs write nothing. -/
theorem tracks_joined {before after : Service} {book : Book}
    (tracks : before.outline.Tracks book) (joined : before.Joined after) :
    after.outline.Tracks book := by
  rcases joined with ⟨more, _, isAfter⟩
  rw [isAfter]
  exact { numbers := tracks.numbers, suspended := tracks.suspended }

/-- Striking off the candidates whose numbers are acknowledged crosses out the numbers. -/
theorem tracks_purgeAcknowledged {service : Service} {book : Book}
    (tracks : service.outline.Tracks book) (sequence : SequenceKey)
    (acknowledged : Nat → Bool) :
    (service.carryOut (.purgeAcknowledged sequence acknowledged)).outline.Tracks
      (book.write sequence ((book sequence).without acknowledged)) := by
  let isKept (identity : Nat) := !(service.world.numberOf identity).any acknowledged
  have kept : ((service.world.roster.listOf sequence).filter isKept).map
      service.outline.numberOf = ((book sequence).without acknowledged).numbers.map some := by
    have sameNumbers : service.world.numberOf = service.outline.numberOf :=
      funext fun identity => (Registry.numberOf_outline service.world identity).symm
    calc
      ((service.world.roster.listOf sequence).filter isKept).map service.outline.numberOf =
          ((service.world.roster.listOf sequence).map service.outline.numberOf).filter
            fun number => !number.any acknowledged := by
        rw [List.filter_map, ← sameNumbers]
        rfl
      _ = ((book sequence).numbers.map some).filter fun number => !number.any acknowledged := by
        rw [← tracks.numbers sequence, roster_outline]
      _ = ((book sequence).without acknowledged).numbers.map some := List.filter_map
  rw [outline_purgeAcknowledged]
  split
  · next none =>
      have all : (service.world.roster.listOf sequence).filter isKept =
          service.world.roster.listOf sequence := by
        apply List.filter_eq_self.mpr
        intro identity present
        have notPurged := List.filter_eq_nil_iff.mp none identity present
        simpa [isKept] using notPurged
      rw [all] at kept
      exact tracks.copy kept (tracks.suspended sequence)
  · apply tracks.relist (Candidate.persists_finished .resolved)
    · intro other different
      rw [Roster.listOf_strike, if_neg different, roster_outline]
    · exact fun other _ => Roster.isSuspended_strike _ _ _ _
    · rw [Roster.listOf_strike, if_pos rfl]
      exact kept
    · rw [Roster.isSuspended_strike]
      exact tracks.suspended sequence

/-- What a command does to the messages is what it writes in the book. -/
theorem tracks_carryOut {service : Service} {book : Book} (listed : service.outline.Listed)
    (tracks : service.outline.Tracks book) (command : Command) :
    (service.carryOut command).outline.Tracks (book.obey command) := by
  cases command with
  | add message =>
      have accepts : service.world.rejection? message = none ↔ book.Accepts message :=
        Registry.rejection?_eq_none_iff (tracks_world tracks)
      rw [outline_add, Book.obey, Book.enter]
      by_cases accepted : book.Accepts message
      · rw [if_pos (accepts.mpr accepted), dif_pos accepted]
        have sameLength : service.world.candidates.length = service.outline.candidates.length :=
          (List.length_map _).symm
        rw [sameLength]
        exact tracks.enroll listed service.now service.world.routing _ accepted.2.2.2
      · rw [if_neg (fun fresh => accepted (accepts.mp fresh)), dif_neg accepted]
        exact tracks
  | purgeAcknowledged sequence acknowledged =>
      exact tracks_purgeAcknowledged tracks sequence acknowledged
  | purgeAll sequence =>
      rw [outline_purgeAll]
      apply tracks.relist (Candidate.persists_finished .cancelled)
      · intro other different
        rw [Roster.listOf_forget_other, if_neg different, roster_outline]
      · intro other different
        rw [Roster.isSuspended_forget, if_neg different, roster_outline]
      · rw [Roster.listOf_forget]
        rfl
      · rw [Roster.isSuspended_forget, if_pos rfl]
        rfl
  | stop sequence =>
      rw [outline_stop]
      exact tracks.change rfl
        (Outline.numberOf_modifyAll (Candidate.persists_finished .cancelled) _ _)
  | shutdown =>
      rw [outline_shutdown]
      exact tracks.change rfl
        (Outline.numberOf_modifyAll (Candidate.persists_finished .cancelled) _ _)
  | suspend sequence =>
      rw [outline_suspend]
      apply tracks.relist Candidate.persists_paused
      · exact fun other _ => listed.sound.listOf_suspend sequence other
      · intro other different
        rw [Roster.isSuspended_suspend_other, if_neg different, roster_outline]
      · have sameList := listed.sound.listOf_suspend sequence sequence
        rw [roster_outline] at sameList
        rw [sameList]
        exact tracks.numbers sequence
      · exact Roster.isSuspended_suspend _ _
  | resume sequence =>
      rw [outline_resume]
      split
      · apply tracks.relist (Candidate.persists_woken service.now)
        · exact fun other _ => Roster.listOf_resume _ sequence other
        · intro other different
          rw [Roster.isSuspended_resume_other, if_neg different, roster_outline]
        · rw [Roster.listOf_resume]
          exact tracks.numbers sequence
        · exact Roster.isSuspended_resume _ _
      · next active =>
          exact tracks.copy (tracks.numbers sequence) (Bool.eq_false_iff.mpr active)
  | request _ _ | join _ | serve _ | announce _ | setExecutors _ | closeAgenda
  | prepare _ _ | exchangeStore _ => exact tracks_joined tracks (joined_carryOut service rfl)

/-- What a move does to the messages is what it writes in the book. -/
theorem tracks_move {service after : Service} {book : Book} {move : Move}
    (sound : service.Sound) (tracks : service.outline.Tracks book)
    (moved : service.move? move = some after) : after.outline.Tracks (book.after move) := by
  cases move with
  | command command =>
      obtain rfl := eq_carryOut moved
      exact tracks_carryOut sound.listed tracks command
  | step index =>
      rcases step_stepAt sound.tidy moved with ⟨sameRoster, _, _, steps⟩
      exact tracks.change sameRoster fun identity => Outline.numberOf_of_step (steps identity)
  | rouse index position =>
      rw [outline_rouseTo moved]
      exact tracks
  | wait instant =>
      obtain rfl := eq_wait moved
      exact tracks
  | reorder roster =>
      obtain ⟨shuffled, rfl⟩ := eq_reorder moved
      exact tracks.reorder sound.listed.sound shuffled

/-- What a run does to the messages is what it writes in the book. -/
theorem tracks_run {first last : Service} {moves : List Move} (initial : first.IsInitial)
    (run : Run first moves last) : last.outline.Tracks (Book.written moves) := by
  induction run with
  | start =>
      rw [outline_of_isInitial initial]
      exact Outline.tracks_initial
  | extend run moved inductionHypothesis =>
      rw [Book.written_concat]
      exact tracks_move (initial.sound.run run) inductionHypothesis moved

/-- After every run, the lists of the registry, the messages that it would take in, and
all that can be asked about which messages there are come from the book that the moves have
written. -/
theorem shows_written {first last : Service} {moves : List Move} (initial : first.IsInitial)
    (run : Run first moves last) : last.world.Shows (Book.written moves) := by
  apply Registry.shows_of_tracks (initial.sound.run run).listed.sound
  exact tracks_world (tracks_run initial run)

end Service

namespace Sample

/-- Messages are registered before and after their sequence is suspended, one of them in
vain because its number is in use; one is resent, one is acknowledged, and the others are
given up. -/
def mixedOperations : List Move :=
  [.command (.add (message 2 none)), .command (.add (message 1 none)),
    .command (.request none (.attempt sequence 2)), .step 0, .step 0,
    .command (.suspend sequence), .command (.add (message 3 none)),
    .command (.add (message 1 none)), .wait 1000000,
    .command (.purgeAcknowledged sequence fun number => number == 1),
    .command (.stop sequence)]

end Sample

namespace Service

/-- Two messages are left of a suspended sequence, in the order of their registration. -/
theorem shows_written_of_mixed_operations :
    ∃ service, Run (Sample.service .byHand) Sample.mixedOperations service ∧
      service.world.Shows (Book.written Sample.mixedOperations) ∧
      (service.world.roster.listOf Sample.sequence).map service.world.numberOf =
        [some 2, some 3] ∧
      service.world.countOf Sample.sequence = 2 ∧
      service.world.isSuspended Sample.sequence = true := by
  obtain ⟨service, followed⟩ := Option.isSome_iff_exists.mp
    (rfl : (follow Sample.mixedOperations (Sample.service .byHand)).isSome = true)
  have run := Run.of_follow followed
  have numbers : (Book.written Sample.mixedOperations Sample.sequence).numbers = [2, 3] := rfl
  have told := shows_written (Sample.isInitial_service _) run
  refine ⟨service, run, told, ?_, ?_, ?_⟩
  · rw [told.listed, numbers]
    rfl
  · rw [told.count, numbers]
    rfl
  · rw [told.suspended]
    rfl

end Service

end Redelivery
