import Redelivery.Proofs.Timetable

/-!
# Resends that a caller drives

A caller who asks for what is due gets a resend of every message that is free and whose slot
has come.  For a message that was never suspended, this is the slot of its timetable after as
many resends as have begun, and so no resend goes out before its term.  This ends with the
timetable.  Where the next interval overflows, the slot stays where it is, and a term that
has passed stays due: the message is resent at every later call, although it has no term left.
-/

namespace Redelivery

/-- Whether a term has come: the instant at which the resend after so many others is due, for
a message registered at an instant.  There is none once an interval has overflowed. -/
def Policy.hasCome (policy : Policy) (registered count instant : Nat) : Bool :=
  (policy.intervalAt count).isSome && decide (policy.dueAt registered count ≤ instant)

namespace Roster

theorem Sound.mem_allActive {roster : Roster} (sound : roster.Sound) {sequence : SequenceKey}
    {identity : Nat} (active : roster.isSuspended sequence = false)
    (present : identity ∈ roster.listOf sequence) : identity ∈ roster.allActive := by
  have onActive := mem_activeOf_of_mem_listOf active present
  rw [activeOf_eq_listAt] at onActive
  exact (Keyed.mem_flatten_values_iff sound.activeDistinct).mpr ⟨sequence, onActive⟩

end Roster

/-! ## Who is ready -/

namespace Outline

/-- Whether a message is free and its slot has come by an instant. -/
def isReady (outline : Outline) (upTo identity : Nat) : Bool :=
  (outline.candidates[identity]?).any fun candidate => candidate.isFree && candidate.isDue upTo

/-- A message that hands over a resend is not ready for another one, and no other message
notices. -/
theorem Hands.isReady {before after : Outline} {changed : Nat} {job : Option Job}
    (hands : before.Hands changed after job) {identity : Nat} (upTo : Nat) :
    after.isReady upTo identity =
      (before.isReady upTo identity && !job.any fun job => job.candidate = identity) := by
  cases hands with
  | nothing => simp
  | @job candidate message found free held =>
      by_cases ours : changed = identity
      · subst ours
        simp [Outline.isReady, modify, found, Candidate.isFree, Candidate.handedOver]
      · simp [Outline.isReady, modify, ours]

/-- A job is one of the candidate that has handed it over. -/
theorem Hands.candidate_eq {before after : Outline} {identity : Nat} {job : Job}
    (hands : before.Hands identity after (some job)) : job.candidate = identity := by
  cases hands
  rfl

end Outline

namespace Registry

/-- Forcing what is due hands over a resend of a message that is ready. -/
theorem isSome_force (registry : Registry) (identity upTo : Nat) :
    (registry.force identity (some upTo)).2.isSome = registry.outline.isReady upTo identity := by
  rw [Outline.isReady, getElem?_outline]
  cases found : registry.candidate? identity with
  | none => simp only [force, found, Option.map_none, Option.any_none, Option.isSome_none]
  | some candidate =>
      have same : (candidate.untimed.isFree && candidate.untimed.isDue upTo) =
          (candidate.isFree && candidate.isDue upTo) := rfl
      simp only [force, found, Option.map_some, Option.any_some, Option.all_some, same]
      split
      · next ready =>
          have free : candidate.disarm.isFree = true := (Bool.and_eq_true _ _ ▸ ready).1
          obtain ⟨message, _, handed⟩ := handOver_of_isFree (candidate?_disarm_self found) free
          rw [handed, ready]
          rfl
      · next unready =>
          rw [Bool.eq_false_iff.mpr unready]
          rfl

/-- The resend that is handed over is one of the message that was forced. -/
theorem any_force (registry : Registry) (forced identity upTo : Nat) :
    (registry.force forced (some upTo)).2.any (fun job => job.candidate = identity) = true ↔
      forced = identity ∧ registry.outline.isReady upTo identity = true := by
  have hands := registry.hands_force forced (some upTo)
  have isSome := registry.isSome_force forced upTo
  cases handed : (registry.force forced (some upTo)).2 with
  | none =>
      rw [handed] at isSome
      constructor
      · exact nofun
      · rintro ⟨rfl, ready⟩
        exact absurd (isSome.trans ready) Bool.false_ne_true
  | some job =>
      rw [handed] at hands isSome
      rw [Option.any_some, decide_eq_true_eq, hands.candidate_eq]
      constructor
      · rintro rfl
        exact ⟨rfl, isSome.symm⟩
      · exact fun both => both.1

end Registry

namespace Service

open Deed

/-- Forcing candidates one after the other hands over a resend of each one that is ready. -/
theorem exists_forced_iff (upTo identity : Nat) (identities : List Nat)
    (handed : Registry × List Job) :
    (∃ job ∈ (identities.foldl (forceNext upTo) handed).2, job.candidate = identity) ↔
      (∃ job ∈ handed.2, job.candidate = identity) ∨
        (identity ∈ identities ∧ handed.1.outline.isReady upTo identity = true) := by
  induction identities generalizing handed with
  | nil => simp
  | cons first rest inductionHypothesis =>
      have isFirst := handed.1.any_force first identity upTo
      have further : (forceNext upTo handed first).1.outline.isReady upTo identity = true ↔
          handed.1.outline.isReady upTo identity = true ∧
            ¬ (handed.1.force first (some upTo)).2.any
              (fun job => job.candidate = identity) = true := by
        rw [forceNext, (handed.1.hands_force first (some upTo)).isReady upTo]
        simp
      have more : (∃ job ∈ (forceNext upTo handed first).2, job.candidate = identity) ↔
          (∃ job ∈ handed.2, job.candidate = identity) ∨
            (handed.1.force first (some upTo)).2.any
              (fun job => job.candidate = identity) = true := by
        simp only [forceNext, List.mem_append, Option.mem_toList, or_and_right, exists_or,
          Option.any_eq_true, decide_eq_true_eq]
      rw [List.foldl_cons, inductionHypothesis, further, more, isFirst, List.mem_cons,
        @eq_comm _ identity first]
      by_cases ready : handed.1.outline.isReady upTo identity = true
      · by_cases same : first = identity <;> simp [ready, same]
      · simp [ready]

/-- Whether a move hands over a resend of a message. -/
def handsOver (service : Service) (move : Move) (identity : Nat) : Bool :=
  (about identity (service.deeds move)).any fun deed => deed.built?.isSome

/-- A call for what is due hands over a resend of each message that is ready. -/
theorem handsOver_driveDue {service : Service} (listed : service.outline.Listed)
    {index upTo call : Nat} {rest : Program} {foreground : Bool}
    (calls : service.ready[index]? = some ⟨.driveDue upTo call :: rest, foreground⟩)
    (identity : Nat) :
    service.handsOver (.step index) identity = service.outline.isReady upTo identity := by
  have deeds : service.deeds (.step index) =
      ((service.world.roster.allActive.foldl (forceNext upTo)
        (service.world.report (.enter "drive_due"), [])).2).map .built := by
    simp only [Service.deeds, calls]
    rfl
  have forced := exists_forced_iff upTo identity service.world.roster.allActive
    (service.world.report (.enter "drive_due"), [])
  have isActive (ready : service.outline.isReady upTo identity = true) :
      identity ∈ service.world.roster.allActive := by
    obtain ⟨candidate, found, isReady⟩ := (Option.any_eq_true _ _).mp ready
    have free : candidate.isFree = true := (Bool.and_eq_true _ _ ▸ isReady).1
    obtain ⟨_, unsuspended, active, _⟩ := Candidate.isFree_eq_true_iff.mp free
    obtain ⟨present, sameMark⟩ := listed.present identity candidate found active
    exact listed.sound.mem_allActive (sameMark.symm.trans unsuspended) present
  have isBuilt : service.handsOver (.step index) identity = true ↔
      ∃ job ∈ (service.world.roster.allActive.foldl (forceNext upTo)
        (service.world.report (.enter "drive_due"), [])).2, job.candidate = identity := by
    simp only [handsOver, deeds, about, List.any_filter, List.any_map, List.any_eq_true,
      Function.comp_apply, Deed.job, built?, Option.isSome_some, Bool.and_true]
    exact exists_congr fun _ => and_congr_right fun _ => decide_eq_true_iff
  rw [Bool.eq_iff_iff, isBuilt, forced]
  constructor
  · rintro (⟨_, absent, _⟩ | ⟨_, ready⟩)
    · cases absent
    · exact ready
  · exact fun ready => .inr ⟨isActive ready, ready⟩

/-! ## Terms of messages that are never suspended -/

/-- A message is not suspended at any move of a run. -/
def IsNeverSuspended (identity : Nat) (moves : List Move) (first : Service) : Prop :=
  Throughout (fun service _ => service.isOnHold identity = false) moves first

instance (identity : Nat) (moves : List Move) (first : Service) :
    Decidable (IsNeverSuspended identity moves first) :=
  inferInstanceAs (Decidable (Throughout _ moves first))

theorem IsNeverSuspended.isNeverResumed {identity : Nat} {moves : List Move} {first : Service}
    (unsuspended : IsNeverSuspended identity moves first) : IsNeverResumed identity moves first :=
  Throughout.imp unsuspended fun service move active => by
    rw [releases, active, Bool.false_and]

theorem historyOf_append {first middle : Service} {early : List Move}
    (run : Run first early middle) (identity : Nat) (late : List Move) :
    historyOf identity (early ++ late) first =
      historyOf identity early first ++ historyOf identity late middle := by
  rw [historyOf, history, gather_append deeds run.follow_eq, about_append]
  rfl

/-- Every completed resend of a message that is never suspended counts for its timetable. -/
theorem countUnsuspended_eq {first last : Service} {moves : List Move} {identity : Nat}
    (run : Run first moves last) (unsuspended : IsNeverSuspended identity moves first) :
    countUnsuspended identity moves first =
      Multiset.card (jobsOf completed? (historyOf identity moves first)) := by
  induction run with
  | start => rfl
  | extend run moved inductionHypothesis =>
      obtain ⟨earlier, active⟩ := (throughout_concat run).mp unsuspended
      rw [historyOf, history, countUnsuspended, gather_concat _ run, gather_concat _ run,
        about_append, jobsOf_append, jobsOf_append, Multiset.card_add, Multiset.card_add,
        ← countUnsuspended, inductionHypothesis earlier, deedsUnsuspended, active, historyOf,
        history, if_neg Bool.false_ne_true]

/-- The resends of a message that have begun, newest first. -/
def begunOf (service : Service) (identity : Nat) : List Resend :=
  service.world.journal.resends.filter fun resend => resend.job.candidate = identity

/-- Nothing has happened to a message that has just been registered. -/
theorem share_add {first start : Service} {early : List Move} {message : Message} {identity : Nat}
    (initial : first.IsInitial) (toStart : Run first early start)
    (accepted : (start.world.add start.now message).2 = .ok identity) :
    (start.carryOut (.add message)).outline.share identity =
      ⟨some (Candidate.register start.now start.world.routing
        (start.world.roster.isSuspended message.sequence) message), 0, []⟩ := by
  have toRegistered : Run first (early ++ [.command (.add message)])
      (start.carryOut (.add message)) := toStart.extend rfl
  have found := found_add accepted
  have single := ((initial.sound.run toRegistered).share identity).single _ found rfl
  have noErrand := Multiset.card_eq_zero.mp single
  have even := (tallied_run initial toRegistered identity).even _ found rfl
    (by decide : 0 < Candidate.greatestRetries)
  rw [noErrand] at even
  have noResend := List.length_eq_zero_iff.mp even
  have isCandidate : ((start.carryOut (.add message)).outline.share identity).candidate = _ :=
    found
  generalize (start.carryOut (.add message)).outline.share identity = share at *
  obtain ⟨candidate, errands, resends⟩ := share
  obtain rfl : candidate = some _ := isCandidate
  obtain rfl : errands = 0 := noErrand
  obtain rfl : resends = [] := noResend
  rfl

/-- Once no resend of a message is left to complete, those that have begun since it was
registered have completed. -/
theorem length_begunOf {first start last : Service} {early late : List Move} {message : Message}
    {identity : Nat} (initial : first.IsInitial) (toStart : Run first early start)
    (accepted : (start.world.add start.now message).2 = .ok identity)
    (run : Run (start.carryOut (.add message)) late last)
    (idle : (last.outline.share identity).errands = 0) :
    (last.begunOf identity).length =
      Multiset.card (jobsOf completed?
        (historyOf identity late (start.carryOut (.add message)))) := by
  have toRegistered : Run first (early ++ [.command (.add message)])
      (start.carryOut (.add message)) := toStart.extend rfl
  have completed {moves : List Move} {service : Service} (run : Run first moves service)
      (idle : (service.outline.share identity).errands = 0) :
      (service.begunOf identity).length =
        Multiset.card (jobsOf completed? (historyOf identity moves first)) := by
    have begun := resends_share_eq initial run identity
    have underWay := underWay_of_accounted (errands_share initial run identity)
    rw [idle, Multiset.filterMap_zero, zero_add] at underWay
    rw [underWay, ← begun, Multiset.coe_card, List.length_map]
    rfl
  have registered := share_add initial toStart accepted
  have noneBegun : (start.carryOut (.add message)).begunOf identity = [] :=
    congrArg Share.resends registered
  have before := completed toRegistered (congrArg Share.errands registered)
  rw [noneBegun] at before
  rw [completed (toRegistered.trans run) idle, historyOf_append toRegistered, jobsOf_append,
    Multiset.card_add, ← before, List.length_nil, zero_add]

/-- What a call for what is due does about a message that has never been suspended.  It hands
over a resend exactly if the message is free and its slot has come.  As long as no interval
has overflowed, this is the instant that the timetable has for the resend; so the call keeps
to the timetable unless it hands over a resend that has no term there.  Once the timetable has
ended, its last term is taken for the term of every further resend. -/
theorem driveDue_keeps_timetable_iff {first start last : Service} {early late : List Move}
    {message : Message} {identity count index upTo call : Nat} {rest : Program}
    {foreground : Bool} (initial : first.IsInitial) (toStart : Run first early start)
    (accepted : (start.world.add start.now message).2 = .ok identity)
    (run : Run (start.carryOut (.add message)) late last)
    (unsuspended : IsNeverSuspended identity late (start.carryOut (.add message)))
    (begun : (last.begunOf identity).length = count)
    (calls : last.ready[index]? = some ⟨.driveDue upTo call :: rest, foreground⟩) :
    (last.handsOver (.step index) identity = true ↔
        (last.world.candidate? identity).any Candidate.isFree = true ∧
          (message.policy.slotAfter start.now count).due ≤ upTo) ∧
      ((last.handsOver (.step index) identity = true →
          message.policy.hasCome start.now count upTo = true) ↔
        (last.handsOver (.step index) identity = true →
          (message.policy.intervalAt count).isSome = true)) ∧
      ∀ reached interval, message.policy.intervalAt reached = some interval →
        message.policy.intervalAt (reached + 1) = none → reached ≤ count →
        (last.handsOver (.step index) identity = true ↔
          (last.world.candidate? identity).any Candidate.isFree = true ∧
            message.policy.dueAt start.now reached ≤ upTo) := by
  have sound := initial.sound.run toStart
  have lastSound : last.Sound :=
    (sound.move (rfl : start.move? (.command (.add message)) = _)).run run
  obtain ⟨candidate, found, samePolicy, onTimetable⟩ := onTimetable_run sound accepted run
  have isReady : last.handsOver (.step index) identity = true ↔
      candidate.isFree = true ∧ candidate.next ≤ upTo := by
    rw [handsOver_driveDue lastSound.listed calls, Outline.isReady, found, Option.any_some,
      Bool.and_eq_true, Candidate.isDue, decide_eq_true_eq]
  have isFree : (last.world.candidate? identity).any Candidate.isFree = candidate.isFree := by
    obtain ⟨timed, isTimed, rfl⟩ := exists_candidate found
    rw [isTimed]
    rfl
  have due (free : candidate.isFree = true) :
      candidate.next = (message.policy.slotAfter start.now count).due := by
    rcases Candidate.isFree_eq_true_iff.mp free with ⟨idle, _, active, further, _⟩
    have noErrand : (last.outline.share identity).errands = 0 := by
      have single := (lastSound.share identity).single candidate found active
      rw [idle] at single
      exact Multiset.card_eq_zero.mp single
    have counted := length_begunOf initial toStart accepted run noErrand
    rw [begun, ← countUnsuspended_eq run unsuspended] at counted
    rw [counted]
    exact congrArg Slot.due ((onTimetable active further).2 unsuspended.isNeverResumed)
  have slotHasCome : last.handsOver (.step index) identity = true ↔
      candidate.isFree = true ∧ (message.policy.slotAfter start.now count).due ≤ upTo := by
    rw [isReady]
    exact and_congr_right fun free => by rw [due free]
  rw [isFree]
  refine ⟨slotHasCome, forall_congr' fun handsOver => ?_, ?_⟩
  · rw [Policy.hasCome, Bool.and_eq_true, decide_eq_true_eq]
    constructor
    · exact fun both => both.1
    · intro defined
      obtain ⟨interval, isInterval⟩ := Option.isSome_iff_exists.mp defined
      have slot := (slotHasCome.mp handsOver).2
      rw [Policy.slotAfter_eq isInterval] at slot
      exact ⟨defined, slot⟩
  · intro reached interval defined overflow later
    rw [slotHasCome, Policy.slotAfter_of_overflow overflow later, Policy.slotAfter_eq defined]

end Service

namespace Sample

/-- A message whose interval grows from one hundred milliseconds beyond all bounds in two
steps. -/
def steepMessage : Message :=
  { message 1 none with
    policy := { baseMillis := 100, backoff := ⟨0x41cdcd6500000000⟩, limit := .unlimited } }

/-- The first resend of a message goes out when it is due, and there is another call for what
is due. -/
def drivenTwice : List Move :=
  List.flatten
    [[.wait 100000000, .command (.request none (.driveDue 100000000))],
      List.replicate 5 (.step 0), [.command (.request none (.driveDue 100000000))]]

/-- A message whose interval grows a thousandfold with every resend, until it overflows. -/
def growingMessage : Message :=
  { message 1 none with
    policy := { baseMillis := 100, backoff := ⟨0x408f400000000000⟩, limit := .unlimited } }

/-- The three resends that the message has terms for go out when they are due, and there is
another call for what is due. -/
def drivenBeyond : List Move :=
  ([100000000, 100100000000, 100100100000000].flatMap fun term =>
      [.wait term, .command (.request none (.driveDue term))] ++ List.replicate 5 (.step 0)) ++
    [.wait 100100100000000, .command (.request none (.driveDue 100100100000000))]

end Sample

namespace Service

/-- The third resend goes out on its term, which is the last one.  The message has no term left
after that, and is resent once more. -/
theorem driveDue_keeps_timetable_iff_of_overflow :
    ∃ service later,
      Run ((Sample.service .byHand).carryOut (.add Sample.growingMessage))
        (Sample.drivenBeyond.take 16) service ∧
      Run ((Sample.service .byHand).carryOut (.add Sample.growingMessage))
        Sample.drivenBeyond later ∧
      (service.begunOf 0).length = 2 ∧ (later.begunOf 0).length = 3 ∧
      service.handsOver (.step 0) 0 = true ∧
      Sample.growingMessage.policy.hasCome 0 2 100100100000000 = true ∧
      later.handsOver (.step 0) 0 = true ∧
      Sample.growingMessage.policy.hasCome 0 3 100100100000000 = false := by
  have seen (moves : List Move) (count call : Nat)
      (looks : (follow moves
          ((Sample.service .byHand).carryOut (.add Sample.growingMessage))).map (fun service =>
        ((service.begunOf 0).length, service.ready[0]?, service.handsOver (.step 0) 0)) =
          some (count, some ⟨[.driveDue 100100100000000 call], true⟩, true)) :
      ∃ service, Run ((Sample.service .byHand).carryOut (.add Sample.growingMessage)) moves
          service ∧ (service.begunOf 0).length = count ∧
        service.ready[0]? = some ⟨[.driveDue 100100100000000 call], true⟩ ∧
        service.handsOver (.step 0) 0 = true := by
    obtain ⟨service, followed, isSeen⟩ := Option.map_eq_some_iff.mp looks
    obtain ⟨begun, second⟩ := Prod.mk.inj isSeen
    exact ⟨service, .of_follow followed, begun, Prod.mk.inj second⟩
  obtain ⟨service, run, begun, calls, handsOver⟩ :=
    seen (Sample.drivenBeyond.take 16) 2 2 rfl
  obtain ⟨later, laterRun, laterBegun, laterCalls, laterHandsOver⟩ :=
    seen Sample.drivenBeyond 3 3 rfl
  have onTime := (driveDue_keeps_timetable_iff (Sample.isInitial_service .byHand) .start rfl run
    (by decide +kernel) begun calls).2.1
  have beyond := (driveDue_keeps_timetable_iff (Sample.isInitial_service .byHand) .start rfl
    laterRun (by decide +kernel) laterBegun laterCalls).2.1
  have defined : (Sample.growingMessage.policy.intervalAt 2).isSome = true := by decide +kernel
  have overflow : (Sample.growingMessage.policy.intervalAt 3).isSome = false := by
    decide +kernel
  refine ⟨service, later, run, laterRun, begun, laterBegun, handsOver,
    onTime.mpr (fun _ => defined) handsOver, laterHandsOver,
    Bool.eq_false_iff.mpr fun hasCome => ?_⟩
  exact Bool.false_ne_true (overflow.symm.trans (beyond.mp (fun _ => hasCome) laterHandsOver))

/-- A message whose next interval has overflowed is resent although it has no term left. -/
theorem not_always_on_timetable :
    ¬ ∀ (first start last : Service) (early late : List Move) (message : Message)
      (identity index upTo call : Nat) (rest : Program) (foreground : Bool),
      first.IsInitial → first.world.driving = .byHand → Run first early start →
      (start.world.add start.now message).2 = .ok identity →
      Run (start.carryOut (.add message)) late last →
      IsNeverSuspended identity late (start.carryOut (.add message)) →
      (∀ name sequence number, .command (.request name (.attempt sequence number)) ∉ late) →
      last.ready[index]? = some ⟨.driveDue upTo call :: rest, foreground⟩ →
      last.handsOver (.step index) identity = true →
      message.policy.hasCome start.now (last.begunOf identity).length upTo = true := by
  intro always
  obtain ⟨service, followed, looks⟩ := Option.map_eq_some_iff.mp
    (rfl : ((follow Sample.drivenTwice
        ((Sample.service .byHand).carryOut (.add Sample.steepMessage))).map fun service =>
      ((service.begunOf 0).length, service.ready[0]?, service.handsOver (.step 0) 0)) =
        some (1, some ⟨[.driveDue 100000000 1], true⟩, true))
  obtain ⟨begun, second⟩ := Prod.mk.inj looks
  obtain ⟨calls, handsOver⟩ := Prod.mk.inj second
  have hasCome := always (Sample.service .byHand) (Sample.service .byHand) service []
    Sample.drivenTwice Sample.steepMessage 0 0 100000000 1 [] true
    (Sample.isInitial_service .byHand) rfl .start rfl (Run.of_follow followed)
    (by decide +kernel) (by simp [Sample.drivenTwice]) calls handsOver
  rw [begun] at hasCome
  exact absurd hasCome (by decide +kernel)

end Service

end Redelivery
