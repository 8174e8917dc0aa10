import Redelivery.Proofs.Counting
import Redelivery.Proofs.Excerpt

/-!
# What operations do to each sequence

In a calm service every operation is over at once.  What it makes of a sequence, and what it
answers if it names the sequence, is told by the excerpt of the sequence and the clock.  An
operation that names another sequence changes nothing.
-/

namespace Redelivery

namespace Command

/-- The operations on messages, and the calls that a manual registry answers. -/
def isPlain : Command → Bool
  | add _ | purgeAcknowledged _ _ | purgeAll _ | stop _ | suspend _ | resume _ | shutdown => true
  | request none (.driveDue _) | request none (.attempt _ _) => true
  | _ => false

/-- The sequence that a command names. -/
def sequence? : Command → Option SequenceKey
  | add message => some message.sequence
  | purgeAcknowledged sequence _ | purgeAll sequence | stop sequence | suspend sequence
  | resume sequence => some sequence
  | request _ (.attempt sequence _) => some sequence
  | prepare message _ => some message.1
  | _ => none

/-- Whether a command concerns a sequence: it names no other one. -/
def concerns (command : Command) (sequence : SequenceKey) : Bool :=
  command.sequence?.all fun named => named = sequence

end Command

/-- What an operation gives back. -/
inductive Result where
  | nothing
  /-- A message is registered, or rejected. -/
  | added (rejection : Option Rejection)
  /-- So many messages are forgotten. -/
  | purged (count : Nat)
  | answered (answer : Option Answer)

namespace Excerpt

/-- The candidate of a number. -/
def find? (excerpt : Excerpt) (number : Nat) : Option Candidate :=
  excerpt.listed.find? fun candidate => candidate.number = number

/-- Why a message cannot be registered. -/
def rejection? (excerpt : Excerpt) (message : Message) : Option Rejection :=
  message.rejection? (excerpt.find? message.number).isSome

/-- Nobody is struck off. -/
theorem strike_of_none {excerpt : Excerpt} {struck : Nat → Bool}
    (none : (excerpt.listed.filter fun candidate => struck candidate.number) = []) :
    excerpt.strike struck = excerpt := by
  have all : (excerpt.listed.filter fun candidate => !struck candidate.number) =
      excerpt.listed :=
    List.filter_eq_self.mpr fun candidate present => by
      simpa using List.filter_eq_nil_iff.mp none candidate present
  rw [strike, all]

/-- What a command that concerns the sequence makes of it. -/
def step (excerpt : Excerpt) (now : Nat) (routing : Executor.Routing) : Command → Excerpt
  | .add message =>
      if excerpt.rejection? message = none then excerpt.enroll now routing message else excerpt
  | .purgeAcknowledged _ acknowledged => excerpt.strike acknowledged
  | .purgeAll _ => excerpt.forget
  | .stop _ | .shutdown => excerpt.cancel
  | .suspend _ => excerpt.suspend
  | .resume _ => excerpt.resume now
  | .request _ (.driveDue upTo) =>
      excerpt.resend now fun candidate => candidate.isFree && candidate.isDue upTo
  | .request _ (.attempt _ number) =>
      excerpt.resend now fun candidate => candidate.number = number && candidate.isFree
  | _ => excerpt

/-- What a command that names the sequence gives back. -/
def result (excerpt : Excerpt) : Command → Result
  | .add message => .added (excerpt.rejection? message)
  | .purgeAcknowledged _ acknowledged =>
      .purged (excerpt.listed.filter fun candidate => acknowledged candidate.number).length
  | .purgeAll _ => .purged excerpt.listed.length
  | .request _ (.attempt sequence number) =>
      .answered (some (.attempted (match excerpt.find? number with
        | none => .error (.unknownMessage sequence number)
        | some candidate => .ok candidate.isFree)))
  | _ => .nothing

end Excerpt

/-! ## Numbers -/

/-- As long as no name occurs twice, whoever bears a name is the one that is found. -/
theorem filter_eq_toList_find? {α κ : Type} [DecidableEq κ] {name : α → κ} {list : List α}
    (distinct : (list.map name).Nodup) (key : κ) :
    (list.filter fun item => name item = key) =
      (list.find? fun item => name item = key).toList := by
  induction list with
  | nil => rfl
  | cons item rest inductionHypothesis =>
      obtain ⟨fresh, restDistinct⟩ := List.nodup_cons.mp distinct
      by_cases found : name item = key
      · have others : (rest.filter fun item => name item = key) = [] := by
          refine List.filter_eq_nil_iff.mpr fun other present => ?_
          rw [decide_eq_true_eq]
          rintro again
          exact fresh (List.mem_map.mpr ⟨other, present, again.trans found.symm⟩)
        rw [List.filter_cons_of_pos (by simp [found]), others,
          List.find?_cons_of_pos (by simp [found])]
        rfl
      · rw [List.filter_cons_of_neg (by simp [found]), List.find?_cons_of_neg (by simp [found])]
        exact inductionHypothesis restDistinct

namespace Keyed

/-- Elements that are under one key only are found there. -/
theorem filter_flatten_values {κ α : Type} [DecidableEq κ] {map : Keyed κ (List α)}
    (distinct : map.Distinct) {key : κ} {wanted : α → Bool}
    (only : ∀ entry ∈ map.entries, ∀ element ∈ entry.2, wanted element = true → entry.1 = key) :
    map.values.flatten.filter wanted = (map.listAt key).filter wanted := by
  rcases map with ⟨entries⟩
  induction entries with
  | nil => rfl
  | cons entry rest inductionHypothesis =>
      obtain ⟨fresh, restDistinct⟩ := List.nodup_cons.mp distinct
      have restOnly : ∀ other ∈ rest, ∀ element ∈ other.2, wanted element = true →
          other.1 = key := fun other present => only other (List.mem_cons_of_mem _ present)
      have inRest := inductionHypothesis restDistinct restOnly
      have split : (Keyed.mk (entry :: rest)).values.flatten.filter wanted =
          entry.2.filter wanted ++ (Keyed.mk rest).values.flatten.filter wanted :=
        List.filter_append ..
      by_cases own : entry.1 = key
      · have absent : (Keyed.mk rest).listAt key = [] := by
          rw [listAt, find?, findIn_eq_none_of_not_mem (own ▸ fresh)]
          rfl
        have here : (Keyed.mk (entry :: rest)).listAt key = entry.2 := by
          simp [listAt, find?, findIn, own]
        rw [split, inRest, absent, here, List.filter_nil, List.append_nil]
      · have nothing : entry.2.filter wanted = [] :=
          List.filter_eq_nil_iff.mpr fun element present isWanted =>
            own (only entry List.mem_cons_self element present isWanted)
        have elsewhere : (Keyed.mk (entry :: rest)).listAt key = (Keyed.mk rest).listAt key := by
          simp [listAt, find?, findIn, own]
        rw [split, nothing, inRest, elsewhere, List.nil_append]

end Keyed

namespace Outline

/-- The candidate that is found for a number is the one that the excerpt has. -/
theorem find?_excerpt (outline : Outline) (sequence : SequenceKey) (number : Nat) :
    (outline.excerpt sequence).find? number =
      ((outline.roster.listOf sequence).find? fun identity =>
        outline.numberOf identity = some number).bind fun identity =>
          outline.candidates[identity]? := by
  have same : (fun identity : Nat => (outline.candidates[identity]?).any fun candidate =>
        decide (candidate.number = number)) =
      fun identity => decide (outline.numberOf identity = some number) := by
    funext identity
    rw [numberOf]
    cases outline.candidates[identity]? with
    | none => rfl
    | some candidate => simp
  rw [Excerpt.find?, excerpt, candidatesOf, List.find?_filterMap, same]

/-- No number occurs twice in a sequence. -/
theorem Tracks.nodup_numbers {outline : Outline} {book : Book} (tracks : outline.Tracks book)
    (sequence : SequenceKey) :
    ((outline.roster.listOf sequence).map outline.numberOf).Nodup := by
  rw [tracks.numbers]
  exact (book sequence).distinct.map (Option.some_injective Nat)

/-- If no number occurs twice, nobody is listed twice. -/
theorem Listed.nodup_allActive {outline : Outline} (listed : outline.Listed)
    (numbered : ∀ sequence, ((outline.roster.listOf sequence).map outline.numberOf).Nodup) :
    outline.roster.allActive.Nodup := by
  have all : outline.roster.all.Nodup :=
    listed.sound.nodup_all (fun sequence => (numbered sequence).of_map _)
      fun sequence other identity => listed.unique
  exact all.of_append_left

/-- As many candidates as identities. -/
theorem length_candidatesOf {outline : Outline} {identities : List Nat}
    {holds : Candidate → Prop}
    (known : ∀ identity ∈ identities, ∃ candidate,
      outline.candidates[identity]? = some candidate ∧ holds candidate) :
    (outline.candidatesOf identities).length = identities.length := by
  induction identities with
  | nil => rfl
  | cons identity rest inductionHypothesis =>
      obtain ⟨candidate, found, _⟩ := known identity List.mem_cons_self
      have inRest := inductionHypothesis fun other present =>
        known other (List.mem_cons_of_mem _ present)
      rw [candidatesOf, List.filterMap_cons_some found, List.length_cons, List.length_cons,
        ← inRest]
      rfl

/-- The candidates of a sequence that are ready stand among all that are active in the order
of the sequence. -/
theorem Listed.filter_allActive {outline : Outline} (listed : outline.Listed) (upTo : Nat)
    (sequence : SequenceKey) :
    ((outline.roster.allActive.filter (outline.isReady upTo)).filter fun identity =>
        identity ∈ outline.roster.listOf sequence) =
      (outline.roster.listOf sequence).filter (outline.isReady upTo) := by
  have only : ∀ entry ∈ outline.roster.active.entries, ∀ identity ∈ entry.2,
      (decide (identity ∈ outline.roster.listOf sequence) && outline.isReady upTo identity) =
        true → entry.1 = sequence := by
    rintro ⟨other, list⟩ isEntry identity present wanted
    obtain ⟨rfl, _⟩ := listed.sound.active_entry isEntry
    have inSequence := of_decide_eq_true (Bool.and_eq_true _ _ ▸ wanted).1
    exact listed.unique (Roster.mem_listOf.mpr (.inl present)) inSequence
  rw [List.filter_filter, Roster.allActive, Keyed.filter_flatten_values
    listed.sound.activeDistinct only, ← Roster.activeOf_eq_listAt]
  cases suspended : outline.roster.isSuspended sequence with
  | false =>
      have whole : outline.roster.listOf sequence = outline.roster.activeOf sequence := by
        rw [Roster.listOf, Roster.suspendedOf_eq_nil suspended, List.append_nil]
      rw [whole]
      refine List.filter_congr fun identity present => ?_
      rw [decide_eq_true present, Bool.true_and]
  | true =>
      have nobody : (outline.roster.listOf sequence).filter (outline.isReady upTo) = [] := by
        refine List.filter_eq_nil_iff.mpr fun identity present ready => ?_
        obtain ⟨candidate, found, isReady⟩ := (Option.any_eq_true _ _).mp ready
        have free := Candidate.isFree_eq_true_iff.mp (Bool.and_eq_true _ _ ▸ isReady).1
        have side := (listed.present identity candidate found free.2.2.1).2
        rw [listed.sequence_eq found present, suspended, free.2.1] at side
        cases side
      rw [nobody, listed.sound.activeOf_eq_nil suspended]
      rfl

end Outline

namespace Service

/-! ## Operations that set nothing off -/

theorem find?_world (service : Service) (sequence : SequenceKey) (number : Nat) :
    service.world.find? sequence number =
      (service.outline.roster.listOf sequence).find? fun identity =>
        service.outline.numberOf identity = some number := by
  have same : service.outline.numberOf = service.world.numberOf :=
    funext service.world.numberOf_outline
  rw [same]
  rfl

/-- Whoever is found is a candidate. -/
theorem exists_found {service : Service} {sequence : SequenceKey} {number identity : Nat}
    (found : service.world.find? sequence number = some identity) :
    ∃ candidate, service.outline.candidates[identity]? = some candidate ∧
      (service.outline.excerpt sequence).find? number = some candidate := by
  have named : service.outline.numberOf identity = some number :=
    (service.world.numberOf_outline identity).trans (Registry.numberOf_of_find? found)
  have isFound := found
  rw [find?_world] at isFound
  obtain ⟨candidate, isCandidate, _⟩ := Option.map_eq_some_iff.mp named
  refine ⟨candidate, isCandidate, ?_⟩
  rw [Outline.find?_excerpt, isFound]
  exact isCandidate

theorem find?_excerpt_of_none {service : Service} {sequence : SequenceKey} {number : Nat}
    (absent : service.world.find? sequence number = none) :
    (service.outline.excerpt sequence).find? number = none := by
  rw [find?_world] at absent
  rw [Outline.find?_excerpt, absent]
  rfl

/-- Whether a message is rejected depends on its own sequence only. -/
theorem rejection?_excerpt (service : Service) (message : Message) :
    service.world.rejection? message =
      (service.outline.excerpt message.sequence).rejection? message := by
  have known : (service.world.find? message.sequence message.number).isSome =
      ((service.outline.excerpt message.sequence).find? message.number).isSome := by
    cases found : service.world.find? message.sequence message.number with
    | none => exact congrArg Option.isSome (find?_excerpt_of_none found).symm
    | some identity =>
        obtain ⟨candidate, _, isFound⟩ := exists_found found
        rw [isFound]
        rfl
  rw [Registry.rejection?, known]
  rfl

/-- What an acknowledgment covers of a sequence. -/
theorem filter_acknowledged (service : Service) (sequence : SequenceKey)
    (acknowledged : Nat → Bool) :
    ((service.outline.excerpt sequence).listed.filter fun candidate =>
        acknowledged candidate.number) =
      service.outline.candidatesOf (service.world.acknowledgedOf sequence acknowledged) := by
  refine (Outline.candidatesOf_filter fun identity _ candidate found => ?_).symm
  rw [← Registry.numberOf_outline, Outline.numberOf]
  have found : service.world.outline.candidates[identity]? = some candidate := found
  rw [found]
  rfl

/-- An operation on messages does to each sequence what its excerpt tells. -/
theorem excerpt_carryOut {service : Service} (sound : service.Sound) {command : Command}
    (operation : command.isQuiet = false) (sequence : SequenceKey) :
    (service.carryOut command).outline.excerpt sequence =
      if command.concerns sequence then
        (service.outline.excerpt sequence).step service.now service.world.routing command
      else service.outline.excerpt sequence := by
  have listed := sound.listed
  have concerns (own : SequenceKey) : (∀ command : Command, command.sequence? = some own →
      (command.concerns sequence = true ↔ own = sequence)) := by
    intro command names
    simp [Command.concerns, names]
  cases command with
  | add message =>
      have sameLength : service.world.candidates.length = service.outline.candidates.length :=
        (List.length_map _).symm
      have enrolled := listed.excerpt_enroll service.now service.world.routing message sequence
      rw [outline_add, sameLength, rejection?_excerpt]
      by_cases own : message.sequence = sequence
      · subst own
        rw [if_pos ((concerns _ (.add message) rfl).mpr rfl), Excerpt.step]
        split
        · exact enrolled.trans (if_pos rfl)
        · rfl
      · rw [if_neg (mt (concerns _ (.add message) rfl).mp own)]
        split
        · exact enrolled.trans (if_neg own)
        · rfl
  | purgeAcknowledged own acknowledged =>
      have struck := listed.excerpt_strike own acknowledged sequence
      have numberOf : service.outline.numberOf = service.world.numberOf :=
        funext service.world.numberOf_outline
      rw [numberOf] at struck
      simp only [concerns own (.purgeAcknowledged own acknowledged) rfl]
      rw [outline_purgeAcknowledged]
      split
      · next none =>
          split
          · next same =>
              subst same
              have nobody := service.filter_acknowledged own acknowledged
              rw [none] at nobody
              exact (Excerpt.strike_of_none nobody).symm
          · rfl
      · exact struck
  | purgeAll own =>
      simp only [concerns own (.purgeAll own) rfl]
      rw [outline_purgeAll]
      exact listed.excerpt_forget own sequence
  | stop own =>
      simp only [concerns own (.stop own) rfl]
      rw [outline_stop]
      exact listed.excerpt_cancel own sequence
  | suspend own =>
      simp only [concerns own (.suspend own) rfl]
      rw [outline_suspend]
      exact listed.excerpt_suspend own sequence
  | resume own =>
      simp only [concerns own (.resume own) rfl]
      rw [outline_resume]
      split
      · next suspended => exact listed.excerpt_resume service.now suspended sequence
      · next active =>
          split
          · next same =>
              subst same
              exact (if_neg active).symm
          · rfl
  | shutdown =>
      rw [outline_shutdown]
      exact listed.excerpt_cancelAll sequence
  | request _ _ | join _ | serve _ | announce _ | setExecutors _ | closeAgenda | prepare _ _
  | exchangeStore _ => cases operation

/-! ## Calls that resend -/

/-- A sequence is told apart from all others by a call for what is due. -/
theorem excerpt_driveDue {service : Service} (sound : service.Sound) (upTo : Nat)
    (sequence : SequenceKey) :
    (service.outline.resendAll service.now (service.dueBy upTo)).excerpt sequence =
      (service.outline.excerpt sequence).step service.now service.world.routing
        (.request none (.driveDue upTo)) := by
  apply sound.listed.excerpt_resendAll (fun identity => (sound.share identity).candidate)
  · intro identity present
    have ready : service.outline.isForcible (some upTo) identity = true :=
      (List.mem_filter.mp present).2
    exact Outline.isFree_of_isForcible ready
  · exact sound.listed.filter_allActive upTo sequence

end Service

/-- Those of a number are resent as far as they are free.  Their sequence alone sees it. -/
theorem Outline.Listed.excerpt_resendOf {outline : Outline} (listed : outline.Listed)
    (sound : ∀ (identity : Nat) (candidate : Candidate),
      outline.candidates[identity]? = some candidate → candidate.Sound)
    (now : Nat) (own : SequenceKey) (number : Nat) (sequence : SequenceKey) :
    (outline.resendAll now (((outline.roster.listOf own).filter fun identity =>
        outline.numberOf identity = some number).filter
          (outline.isForcible none))).excerpt sequence =
      if own = sequence then (outline.excerpt sequence).resend now fun candidate =>
        candidate.number = number && candidate.isFree
      else outline.excerpt sequence := by
  generalize chosen : (((outline.roster.listOf own).filter fun identity =>
    outline.numberOf identity = some number).filter (outline.isForcible none)) = resent
  have free : ∀ identity ∈ resent,
      (outline.candidates[identity]?).any Candidate.isFree = true := by
    intro identity present
    rw [← chosen] at present
    exact Outline.isFree_of_isForcible (List.mem_filter.mp present).2
  have inOwn : ∀ identity ∈ resent, identity ∈ outline.roster.listOf own := by
    intro identity present
    rw [← chosen] at present
    exact (List.mem_filter.mp (List.mem_filter.mp present).1).1
  by_cases same : own = sequence
  · subst same
    rw [if_pos rfl]
    apply listed.excerpt_resendAll sound _ free
    rw [List.filter_eq_self.mpr fun identity present => decide_eq_true (inOwn identity present),
      ← chosen, List.filter_filter]
    refine List.filter_congr fun identity present => ?_
    obtain ⟨candidate, found, _⟩ := listed.homed own identity present
    rw [Outline.isForcible, Outline.numberOf, found]
    simp [Bool.and_comm]
  · rw [if_neg same]
    have none : (resent.filter fun identity => identity ∈ outline.roster.listOf sequence) =
        (outline.roster.listOf sequence).filter fun identity =>
          (outline.candidates[identity]?).any fun _ => false := by
      rw [List.filter_eq_nil_iff.mpr, List.filter_eq_nil_iff.mpr]
      · simp
      · intro identity present again
        exact same (listed.unique (inOwn identity present) (of_decide_eq_true again))
    rw [listed.excerpt_resendAll sound _ free none]
    exact Excerpt.resend_of_none _ _ fun _ _ => rfl

namespace Service

/-- An attempt is made on the message of its number, if the sequence has one. -/
theorem excerpt_attempt {service : Service} (sound : service.Sound)
    (numbered : ∀ sequence, ((service.outline.roster.listOf sequence).map
      service.outline.numberOf).Nodup) (own : SequenceKey) (number : Nat)
    (sequence : SequenceKey) :
    (service.outline.resendAll service.now (service.attempted own number)).excerpt sequence =
      if own = sequence then
        (service.outline.excerpt sequence).step service.now service.world.routing
          (.request none (.attempt own number))
      else service.outline.excerpt sequence := by
  have sameForcible : service.world.outline.isForcible none = service.outline.isForcible none := rfl
  rw [attempted, find?_world, ← filter_eq_toList_find? (numbered own), sameForcible]
  exact sound.listed.excerpt_resendOf (fun identity => (sound.share identity).candidate)
    service.now own number sequence

/-! ## Answers -/

/-- What a command that is over has given back. -/
def resultOf (before after : Service) : Command → Result
  | .add message =>
      .added (match (before.world.add before.now message).2 with
        | .ok _ => none
        | .error rejection => some rejection)
  | .purgeAcknowledged sequence acknowledged =>
      .purged (before.world.purgeAcknowledged sequence acknowledged).2
  | .purgeAll sequence => .purged (before.world.purgeAll sequence).2
  | .request _ _ => .answered (before.answerOf after)
  | _ => .nothing

/-- A registration is answered by the rejection, if there is one. -/
theorem resultOf_add (before after : Service) (message : Message) :
    before.resultOf after (.add message) = .added (before.world.rejection? message) := by
  have sameRejection (fields : List Log.Field) :
      (before.world.entered "add_unacknowledged" fields).rejection? message =
        before.world.rejection? message := rfl
  rw [resultOf, Registry.add, Registry.snd_traced, sameRejection]
  cases before.world.rejection? message <;> rfl

/-- What an operation on messages gives back is told by the excerpt of the sequence that it
names. -/
theorem resultOf_operation {before : Service} (sound : before.Sound) (after : Service)
    {command : Command} (operation : command.isQuiet = false) {sequence : SequenceKey}
    (names : command.sequence? = some sequence) :
    before.resultOf after command = (before.outline.excerpt sequence).result command := by
  have homed := sound.listed.homed sequence
  cases command with
  | add message =>
      obtain rfl := Option.some.inj names
      rw [resultOf_add, rejection?_excerpt]
      rfl
  | purgeAcknowledged own acknowledged =>
      obtain rfl := Option.some.inj names
      have known : ∀ identity ∈ before.world.acknowledgedOf own acknowledged, ∃ candidate,
          before.outline.candidates[identity]? = some candidate ∧ candidate.sequence = own :=
        fun identity present => homed identity (List.mem_filter.mp present).1
      rw [resultOf, Registry.snd_purgeAcknowledged, Excerpt.result, filter_acknowledged]
      exact congrArg Result.purged (Outline.length_candidatesOf known).symm
  | purgeAll own =>
      obtain rfl := Option.some.inj names
      rw [resultOf, Registry.snd_purgeAll, Excerpt.result]
      exact congrArg Result.purged (Outline.length_candidatesOf homed).symm
  | stop own => rfl
  | suspend own => rfl
  | resume own => rfl
  | shutdown => rfl
  | request _ _ | join _ | serve _ | announce _ | setExecutors _ | closeAgenda | prepare _ _
  | exchangeStore _ => cases operation

/-- An attempt is answered from the excerpt of its sequence. -/
theorem attemptAnswer_excerpt (service : Service) (sequence : SequenceKey) (number : Nat) :
    Result.answered (some (service.attemptAnswer sequence number)) =
      (service.outline.excerpt sequence).result (.request none (.attempt sequence number)) := by
  rw [attemptAnswer, Excerpt.result]
  cases found : service.world.find? sequence number with
  | none => rw [find?_excerpt_of_none found]
  | some identity =>
      obtain ⟨candidate, isCandidate, isFound⟩ := exists_found found
      have isOurs : service.world.outline.candidates[identity]? = some candidate := isCandidate
      rw [isFound]
      simp [Outline.isForcible, isOurs]

/-- Every operation is over at once, does to each sequence what its excerpt tells, and answers
from the excerpt of the sequence that it names. -/
theorem IsCalm.exists_enacts {service : Service} (calm : service.IsCalm) (sound : service.Sound)
    (numbered : ∀ sequence, ((service.outline.roster.listOf sequence).map
      service.outline.numberOf).Nodup) {command : Command} (plain : command.isPlain = true) :
    ∃ after, service.Enacts (.command command) after ∧ service.StaysCalm after ∧
      (∀ sequence, after.outline.excerpt sequence =
        if command.concerns sequence then
          (service.outline.excerpt sequence).step service.now service.world.routing command
        else service.outline.excerpt sequence) ∧
      ∀ sequence, command.sequence? = some sequence →
        service.resultOf after command = (service.outline.excerpt sequence).result command := by
  cases operation : command.isQuiet with
  | false =>
      obtain ⟨registry, abides, carriedOut⟩ := calm.carryOut operation
      have admitted : service.admits command = true := by
        cases command <;> first | rfl | cases operation
      refine ⟨service.carryOut command, ⟨_, if_pos admitted, ?_⟩, ?_,
        excerpt_carryOut sound operation, fun sequence names =>
          resultOf_operation sound _ operation names⟩
      · rw [carriedOut]
        exact .of_ready_nil rfl
      · rw [carriedOut]
        exact calm.staysCalm abides
  | true =>
      cases command with
      | request name request =>
          cases name with
          | some name => cases plain
          | none =>
              cases request with
              | runDue upTo => cases plain
              | driveDue upTo =>
                  obtain ⟨after, enacts, stays, outline, _⟩ :=
                    enacts_driveDue calm (sound.listed.nodup_allActive numbered) upTo
                  refine ⟨after, enacts, stays, fun sequence => ?_, nofun⟩
                  rw [outline, excerpt_driveDue sound]
                  rfl
              | attempt own number =>
                  obtain ⟨after, enacts, stays, outline, answer⟩ := enacts_attempt calm own number
                  refine ⟨after, enacts, stays, fun sequence => ?_, ?_⟩
                  · have concerns : (Command.request none (.attempt own number)).concerns sequence =
                        decide (own = sequence) := rfl
                    rw [outline, excerpt_attempt sound numbered, concerns]
                    by_cases same : own = sequence <;> simp [same]
                  · intro sequence names
                    obtain rfl := Option.some.inj names
                    rw [resultOf, answer]
                    exact attemptAnswer_excerpt service own number
      | add _ | purgeAcknowledged _ _ | purgeAll _ | stop _ | suspend _ | resume _ | shutdown =>
          cases operation
      | join _ | serve _ | announce _ | setExecutors _ | closeAgenda | prepare _ _
      | exchangeStore _ => cases plain

end Service

end Redelivery
