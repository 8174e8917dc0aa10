import Redelivery.Proofs.Filing
import Redelivery.Proofs.Settling

/-!
# What a registry has of one sequence

The excerpt of a sequence leaves out the identities of its candidates, all other sequences, and
the order in which the maps of the registry list them.  Whatever is done to a registry changes
the excerpt of a sequence as the excerpt alone decides, and what is done to another sequence
leaves it as it is.
-/

namespace Redelivery

/-- What can be told of a resend that went out. -/
structure Sent where
  instant : Nat
  number : Nat
  requestAck : Bool
  deriving DecidableEq, Repr

/-- A resend apart from its candidate. -/
def Resend.sent (resend : Resend) : Sent :=
  { instant := resend.instant
    number := resend.job.message.number
    requestAck := resend.job.requestAck }

/-- The resend that a candidate makes at an instant. -/
def Candidate.sent (now : Nat) (candidate : Candidate) : Sent :=
  { instant := now, number := candidate.number, requestAck := candidate.requestAck }

/-- What there is of one sequence. -/
structure Excerpt where
  suspended : Bool
  /-- The candidates in the order of their registration. -/
  listed : List Candidate
  /-- The resends that went out, newest first. -/
  sent : List Sent

namespace Excerpt

/-- A message is taken in. -/
def enroll (excerpt : Excerpt) (now : Nat) (routing : Executor.Routing) (message : Message) :
    Excerpt :=
  { excerpt with
    listed := excerpt.listed ++ [Candidate.register now routing excerpt.suspended message] }

/-- The candidates of some numbers are struck off. -/
def strike (excerpt : Excerpt) (struck : Nat → Bool) : Excerpt :=
  { excerpt with listed := excerpt.listed.filter fun candidate => !struck candidate.number }

/-- The sequence is forgotten, its suspension included. -/
def forget (excerpt : Excerpt) : Excerpt :=
  { excerpt with suspended := false, listed := [] }

/-- Every candidate is given up. -/
def cancel (excerpt : Excerpt) : Excerpt :=
  { excerpt with listed := excerpt.listed.map (Candidate.finished .cancelled) }

/-- The sequence is suspended, if it is not. -/
def suspend (excerpt : Excerpt) : Excerpt :=
  { excerpt with
    suspended := true
    listed :=
      if excerpt.suspended then excerpt.listed else excerpt.listed.map Candidate.paused }

/-- The sequence is resumed, if it is suspended. -/
def resume (excerpt : Excerpt) (now : Nat) : Excerpt :=
  if excerpt.suspended then
    { excerpt with suspended := false, listed := excerpt.listed.map (Candidate.woken now) }
  else excerpt

/-- Some candidates resend their messages, which takes no time. -/
def resend (excerpt : Excerpt) (now : Nat) (chosen : Candidate → Bool) : Excerpt :=
  { excerpt with
    listed := excerpt.listed.map fun candidate =>
      if chosen candidate then candidate.resent now else candidate
    sent := ((excerpt.listed.filter chosen).map (Candidate.sent now)).reverse ++ excerpt.sent }

/-- Nobody resends anything. -/
theorem resend_of_none (excerpt : Excerpt) (now : Nat) {chosen : Candidate → Bool}
    (none : ∀ candidate ∈ excerpt.listed, chosen candidate = false) :
    excerpt.resend now chosen = excerpt := by
  have nobody : excerpt.listed.filter chosen = [] :=
    List.filter_eq_nil_iff.mpr fun candidate present =>
      Bool.eq_false_iff.mp (none candidate present)
  have same : (excerpt.listed.map fun candidate =>
      if chosen candidate then candidate.resent now else candidate) = excerpt.listed :=
    (List.map_congr_left fun candidate present => by simp [none candidate present]).trans
      (List.map_id _)
  rw [resend, nobody, same]
  rfl

end Excerpt

namespace Outline

/-- The candidates of identities. -/
def candidatesOf (outline : Outline) (identities : List Nat) : List Candidate :=
  identities.filterMap fun identity => outline.candidates[identity]?

/-- The resends that went out for a sequence, newest first. -/
def sentOf (outline : Outline) (sequence : SequenceKey) : List Sent :=
  (outline.resends.filter fun resend => resend.job.message.sequence = sequence).map Resend.sent

/-- What there is of a sequence. -/
def excerpt (outline : Outline) (sequence : SequenceKey) : Excerpt :=
  { suspended := outline.roster.isSuspended sequence
    listed := outline.candidatesOf (outline.roster.listOf sequence)
    sent := outline.sentOf sequence }

/-- In what order the maps come cannot be seen of a sequence. -/
theorem excerpt_of_shuffled {before after : Service} (shuffled : before.Shuffled after)
    (sound : before.world.roster.Sound) (sequence : SequenceKey) :
    after.outline.excerpt sequence = before.outline.excerpt sequence := by
  obtain ⟨roster, isShuffled, rfl⟩ := shuffled
  simp only [excerpt, candidatesOf, sentOf, Service.outline_withRoster,
    isShuffled.listOf sound, isShuffled.isSuspended sound, Service.roster_outline]

/-! ## Candidates of identities -/

theorem candidatesOf_congr {outline other : Outline} {identities : List Nat}
    (same : ∀ identity ∈ identities,
      outline.candidates[identity]? = other.candidates[identity]?) :
    outline.candidatesOf identities = other.candidatesOf identities :=
  List.filterMap_congr same

/-- Identities may be chosen by their candidates. -/
theorem candidatesOf_filter {outline : Outline} {identities : List Nat} {wanted : Nat → Bool}
    {chosen : Candidate → Bool}
    (agrees : ∀ identity ∈ identities, ∀ candidate,
      outline.candidates[identity]? = some candidate → wanted identity = chosen candidate) :
    outline.candidatesOf (identities.filter wanted) =
      (outline.candidatesOf identities).filter chosen := by
  rw [candidatesOf, candidatesOf, List.filterMap_filter, List.filter_filterMap]
  refine List.filterMap_congr fun identity present => ?_
  cases found : outline.candidates[identity]? with
  | none => simp
  | some candidate =>
      rw [agrees identity present candidate found]
      rfl

/-- A change of several candidates, seen from some identities: it changes those of their
candidates that are chosen. -/
theorem candidatesOf_modifyAll {outline : Outline} {identities changed : List Nat}
    (chosen : Candidate → Bool)
    (isChosen : ∀ identity ∈ identities, ∀ candidate,
      outline.candidates[identity]? = some candidate →
        (identity ∈ changed ↔ chosen candidate = true))
    (change : Candidate → Candidate) :
    (outline.modifyAll changed change).candidatesOf identities =
      (outline.candidatesOf identities).map fun candidate =>
        if chosen candidate then change candidate else candidate := by
  rw [candidatesOf, candidatesOf, List.map_filterMap]
  refine List.filterMap_congr fun identity present => ?_
  rw [getElem?_modifyAll]
  cases found : outline.candidates[identity]? with
  | none => rfl
  | some candidate =>
      have agrees := isChosen identity present candidate found
      by_cases isChanged : identity ∈ changed
      · simp [isChanged, agrees.mp isChanged]
      · simp [isChanged, Bool.eq_false_iff.mpr (mt agrees.mpr isChanged)]

theorem candidatesOf_modifyAll_of_subset {outline : Outline} {identities changed : List Nat}
    (subset : identities ⊆ changed) (change : Candidate → Candidate) :
    (outline.modifyAll changed change).candidatesOf identities =
      (outline.candidatesOf identities).map change :=
  candidatesOf_modifyAll (fun _ => true)
    (fun _ present _ _ => iff_of_true (subset present) rfl) change

theorem candidatesOf_modifyAll_of_disjoint {outline : Outline} {identities changed : List Nat}
    (disjoint : identities.Disjoint changed) (change : Candidate → Candidate) :
    (outline.modifyAll changed change).candidatesOf identities =
      outline.candidatesOf identities := by
  apply candidatesOf_congr
  intro identity present
  rw [getElem?_modifyAll]
  simp only [if_neg (disjoint present), Option.map_id']

/-! ## Excerpts after changes -/

/-- No sequence shares a candidate with another one. -/
theorem Listed.disjoint {outline : Outline} (listed : outline.Listed)
    {sequence other : SequenceKey} (apart : other ≠ sequence) :
    (outline.roster.listOf sequence).Disjoint (outline.roster.listOf other) :=
  fun _ present again => apart (listed.unique again present)

/-- A new candidate comes last in its sequence. -/
theorem Listed.excerpt_enroll {outline : Outline} (listed : outline.Listed) (now : Nat)
    (routing : Executor.Routing) (message : Message) (sequence : SequenceKey) :
    { outline with
      candidates := outline.candidates ++
        [Candidate.register now routing (outline.roster.isSuspended message.sequence) message]
      roster := outline.roster.add message.sequence outline.candidates.length }.excerpt sequence =
      if message.sequence = sequence then (outline.excerpt sequence).enroll now routing message
      else outline.excerpt sequence := by
  have old (candidates : List Candidate) :
      { outline with candidates := outline.candidates ++ candidates }.candidatesOf
          (outline.roster.listOf sequence) =
        outline.candidatesOf (outline.roster.listOf sequence) := by
    apply candidatesOf_congr
    intro identity present
    obtain ⟨candidate, found, _⟩ := listed.homed sequence identity present
    obtain ⟨inside, _⟩ := List.getElem?_eq_some_iff.mp found
    exact List.getElem?_append_left inside
  simp only [excerpt, Roster.isSuspended_add, Roster.listOf_add]
  by_cases own : message.sequence = sequence
  · subst own
    rw [if_pos rfl, if_pos rfl, candidatesOf, List.filterMap_append]
    have appended := old [Candidate.register now routing
      (outline.roster.isSuspended message.sequence) message]
    rw [candidatesOf] at appended
    rw [appended]
    simp only [List.filterMap_cons, List.getElem?_concat_length, List.filterMap_nil]
    rfl
  · rw [if_neg own, if_neg (Ne.symm own)]
    exact congrArg (Excerpt.mk _ · _) (old _)

/-- Acknowledged candidates are struck off their sequence. -/
theorem Listed.excerpt_strike {outline : Outline} (listed : outline.Listed) (own : SequenceKey)
    (acknowledged : Nat → Bool) (sequence : SequenceKey) :
    { outline.modifyAll ((outline.roster.listOf own).filter fun identity =>
          (outline.numberOf identity).any acknowledged) (Candidate.finished .resolved) with
      roster := outline.roster.strike own fun identity =>
        (outline.numberOf identity).any acknowledged }.excerpt sequence =
      if own = sequence then (outline.excerpt sequence).strike acknowledged
      else outline.excerpt sequence := by
  simp only [excerpt, Roster.isSuspended_strike, Roster.listOf_strike]
  by_cases same : own = sequence
  · subst same
    have spared : ((outline.roster.listOf own).filter fun identity =>
          !(outline.numberOf identity).any acknowledged).Disjoint
        ((outline.roster.listOf own).filter fun identity =>
          (outline.numberOf identity).any acknowledged) := by
      intro identity kept struck
      simp [(List.mem_filter.mp struck).2] at kept
    have left : outline.candidatesOf ((outline.roster.listOf own).filter fun identity =>
          !(outline.numberOf identity).any acknowledged) =
        (outline.candidatesOf (outline.roster.listOf own)).filter fun candidate =>
          !acknowledged candidate.number := by
      apply candidatesOf_filter
      intro identity present candidate found
      rw [numberOf, found]
      rfl
    rw [if_pos rfl, if_pos rfl]
    exact congrArg (Excerpt.mk _ · _)
      ((candidatesOf_modifyAll_of_disjoint spared _).trans left)
  · have spared (struck : Nat → Bool) := List.disjoint_of_subset_right
      (List.filter_sublist (p := struck)).subset (listed.disjoint same)
    rw [if_neg same, if_neg (Ne.symm same)]
    exact congrArg (Excerpt.mk _ · _) (candidatesOf_modifyAll_of_disjoint (spared _) _)

/-- A sequence that is forgotten has nothing but its resends. -/
theorem Listed.excerpt_forget {outline : Outline} (listed : outline.Listed) (own : SequenceKey)
    (sequence : SequenceKey) :
    { outline.modifyAll (outline.roster.listOf own) (Candidate.finished .cancelled) with
      roster := outline.roster.forget own }.excerpt sequence =
      if own = sequence then (outline.excerpt sequence).forget
      else outline.excerpt sequence := by
  simp only [excerpt, Roster.isSuspended_forget, Roster.listOf_forget_other]
  by_cases same : own = sequence
  · subst same
    rw [if_pos rfl, if_pos rfl, if_pos rfl]
    rfl
  · rw [if_neg same, if_neg (Ne.symm same), if_neg (Ne.symm same)]
    exact congrArg (Excerpt.mk _ · _)
      (candidatesOf_modifyAll_of_disjoint (listed.disjoint same) _)

/-- Candidates of one sequence are given up. -/
theorem Listed.excerpt_cancel {outline : Outline} (listed : outline.Listed) (own : SequenceKey)
    (sequence : SequenceKey) :
    (outline.modifyAll (outline.roster.listOf own) (Candidate.finished .cancelled)).excerpt
        sequence =
      if own = sequence then (outline.excerpt sequence).cancel else outline.excerpt sequence := by
  by_cases same : own = sequence
  · subst same
    rw [if_pos rfl]
    exact congrArg (Excerpt.mk _ · _) (candidatesOf_modifyAll_of_subset (List.Subset.refl _) _)
  · rw [if_neg same]
    exact congrArg (Excerpt.mk _ · _)
      (candidatesOf_modifyAll_of_disjoint (listed.disjoint same) _)

/-- All candidates are given up, those of each sequence among them. -/
theorem Listed.excerpt_cancelAll {outline : Outline} (listed : outline.Listed)
    (sequence : SequenceKey) :
    (outline.modifyAll outline.roster.all (Candidate.finished .cancelled)).excerpt sequence =
      (outline.excerpt sequence).cancel :=
  congrArg (Excerpt.mk _ · _) (candidatesOf_modifyAll_of_subset
    (fun _ present => listed.sound.mem_all_iff.mpr ⟨sequence, present⟩) _)

/-- A sequence is suspended. -/
theorem Listed.excerpt_suspend {outline : Outline} (listed : outline.Listed) (own : SequenceKey)
    (sequence : SequenceKey) :
    { outline.modifyAll (outline.roster.activeOf own) Candidate.paused with
      roster := outline.roster.suspend own }.excerpt sequence =
      if own = sequence then (outline.excerpt sequence).suspend
      else outline.excerpt sequence := by
  simp only [excerpt, Roster.isSuspended_suspend_other, listed.sound.listOf_suspend]
  by_cases same : own = sequence
  · subst same
    rw [if_pos rfl, if_pos rfl, Excerpt.suspend]
    congr 1
    cases suspended : outline.roster.isSuspended own with
    | true =>
        rw [listed.sound.activeOf_eq_nil suspended, modifyAll_nil]
        rfl
    | false =>
        exact candidatesOf_modifyAll_of_subset
          (fun _ present => Roster.mem_activeOf_of_mem_listOf suspended present) _
  · have spared := List.disjoint_of_subset_right
      (fun _ active => Roster.mem_listOf.mpr (.inl active)) (listed.disjoint same)
    rw [if_neg same, if_neg (Ne.symm same)]
    exact congrArg (Excerpt.mk _ · _) (candidatesOf_modifyAll_of_disjoint spared _)

/-- A suspended sequence is resumed. -/
theorem Listed.excerpt_resume {outline : Outline} (listed : outline.Listed) (now : Nat)
    {own : SequenceKey} (suspended : outline.roster.isSuspended own = true)
    (sequence : SequenceKey) :
    { outline.modifyAll (outline.roster.suspendedOf own) (Candidate.woken now) with
      roster := outline.roster.resume own }.excerpt sequence =
      if own = sequence then (outline.excerpt sequence).resume now
      else outline.excerpt sequence := by
  simp only [excerpt, Roster.isSuspended_resume_other, Roster.listOf_resume]
  by_cases same : own = sequence
  · subst same
    rw [if_pos rfl, if_pos rfl, Excerpt.resume, if_pos suspended]
    refine congrArg (Excerpt.mk _ · _) (candidatesOf_modifyAll_of_subset ?_ _)
    rw [Roster.listOf, listed.sound.activeOf_eq_nil suspended, List.nil_append]
    exact List.Subset.refl _
  · have spared := List.disjoint_of_subset_right
      (fun _ moved => Roster.mem_listOf.mpr (.inr moved)) (listed.disjoint same)
    rw [if_neg same, if_neg (Ne.symm same)]
    exact congrArg (Excerpt.mk _ · _) (candidatesOf_modifyAll_of_disjoint spared _)

/-! ## Excerpts after resends -/

/-- What free candidates send for a sequence comes from those that are listed there. -/
theorem Listed.sent_jobs {outline : Outline} (listed : outline.Listed)
    (sound : ∀ (identity : Nat) (candidate : Candidate),
      outline.candidates[identity]? = some candidate → candidate.Sound)
    (now : Nat) {identities : List Nat}
    (free : ∀ identity ∈ identities,
      (outline.candidates[identity]?).any Candidate.isFree = true) (sequence : SequenceKey) :
    (((identities.filterMap outline.job?).map (Resend.mk now)).filter fun resend =>
        resend.job.message.sequence = sequence).map Resend.sent =
      (outline.candidatesOf (identities.filter fun identity =>
        identity ∈ outline.roster.listOf sequence)).map (Candidate.sent now) := by
  rw [candidatesOf, List.filterMap_filter, List.map_filterMap, List.map_filterMap,
    List.filter_filterMap, List.map_filterMap]
  refine List.filterMap_congr fun identity present => ?_
  obtain ⟨candidate, found, isFree⟩ := (Option.any_eq_true _ _).mp (free identity present)
  obtain ⟨message, held⟩ := Candidate.exists_message_of_isFree isFree
  obtain ⟨home, number, _⟩ := (sound identity candidate found).named message held
  have active := (Candidate.isFree_eq_true_iff.mp isFree).2.2.1
  have isListed : identity ∈ outline.roster.listOf sequence ↔ message.sequence = sequence := by
    constructor
    · exact fun inSequence => home.trans (listed.sequence_eq found inSequence)
    · rintro rfl
      rw [home]
      exact (listed.present identity candidate found active).1
  rw [job?, found, Option.bind_some, held]
  by_cases ours : message.sequence = sequence
  · simp [isListed, ours, Candidate.job, Resend.sent, Candidate.sent, number]
  · simp [isListed, ours, Candidate.job]

/-- Free candidates resend their messages: a sequence sees those that are its own. -/
theorem Listed.excerpt_resendAll {outline : Outline} (listed : outline.Listed)
    (sound : ∀ (identity : Nat) (candidate : Candidate),
      outline.candidates[identity]? = some candidate → candidate.Sound)
    (now : Nat) {identities : List Nat}
    (free : ∀ identity ∈ identities,
      (outline.candidates[identity]?).any Candidate.isFree = true)
    {sequence : SequenceKey} {chosen : Candidate → Bool}
    (own : (identities.filter fun identity => identity ∈ outline.roster.listOf sequence) =
      (outline.roster.listOf sequence).filter fun identity =>
        (outline.candidates[identity]?).any chosen) :
    (outline.resendAll now identities).excerpt sequence =
      (outline.excerpt sequence).resend now chosen := by
  have isChosen : ∀ identity ∈ outline.roster.listOf sequence, ∀ candidate,
      outline.candidates[identity]? = some candidate →
        (identity ∈ identities ↔ chosen candidate = true) := by
    intro identity inSequence candidate found
    have sides : (identity ∈ identities.filter fun identity =>
          identity ∈ outline.roster.listOf sequence) ↔
        identity ∈ (outline.roster.listOf sequence).filter fun identity =>
          (outline.candidates[identity]?).any chosen := by rw [own]
    simpa [List.mem_filter, inSequence, found] using sides
  have sentNow : (outline.candidatesOf (identities.filter fun identity =>
        identity ∈ outline.roster.listOf sequence)).map (Candidate.sent now) =
      ((outline.candidatesOf (outline.roster.listOf sequence)).filter chosen).map
        (Candidate.sent now) := by
    rw [own]
    exact congrArg (List.map _) (candidatesOf_filter fun identity _ candidate found => by
      rw [found]
      rfl)
  simp only [excerpt, Excerpt.resend]
  congr 1
  · exact candidatesOf_modifyAll chosen isChosen _
  · rw [sentOf, sentOf, ← sentNow, ← listed.sent_jobs sound now free]
    simp only [resendAll, List.filter_append, List.map_append, List.filter_reverse,
      List.map_reverse]

end Outline

end Redelivery
