import Redelivery.Proofs.Enactments

/-!
# Catching up

A candidate whose slot has come is resent until its next one lies ahead, whoever sees to it and
in whatever turns the candidates take.  How often it is resent, what goes out, and what becomes of
it depend on the candidate alone.
-/

namespace Redelivery

/-! ## One candidate -/

namespace Candidate

/-- Whether a candidate is free and its slot has come. -/
def isReady (now : Nat) (candidate : Candidate) : Bool :=
  candidate.isFree && candidate.isDue now

theorem resent_eq (now : Nat) (candidate : Candidate) :
    ∃ retries previous next interval exhausted, candidate.resent now =
      { candidate with
        pending := false, requestAck := false, retries, previous, next, interval, exhausted } := by
  obtain ⟨retries, previous, next, interval, exhausted, completed⟩ :=
    candidate.handedOver.completed_eq now
  exact ⟨retries, previous, next, interval, exhausted, completed⟩

@[simp]
theorem number_resent (now : Nat) (candidate : Candidate) :
    (candidate.resent now).number = candidate.number := by
  obtain ⟨_, _, _, _, _, resent⟩ := candidate.resent_eq now
  rw [resent]

/-- A candidate is resent as long as it is ready, or less often.  The resends are listed newest
first. -/
inductive Repeats (now : Nat) : Candidate → List Sent → Candidate → Prop where
  | rest (candidate : Candidate) : Repeats now candidate [] candidate
  | again {candidate last : Candidate} {sent : List Sent} : candidate.isReady now = true →
      Repeats now (candidate.resent now) sent last →
      Repeats now candidate (sent ++ [candidate.sent now]) last

namespace Repeats

variable {now : Nat} {candidate last other : Candidate} {sent alsoSent : List Sent}

/-- Resends are followed by further ones. -/
theorem trans {middle : Candidate} (repeats : Repeats now candidate sent middle)
    (further : Repeats now middle alsoSent last) :
    Repeats now candidate (alsoSent ++ sent) last := by
  induction repeats with
  | rest =>
      rw [List.append_nil]
      exact further
  | again ready _ inductionHypothesis =>
      rw [← List.append_assoc]
      exact .again ready (inductionHypothesis further)

/-- There is one way only to catch up. -/
theorem unique (repeats : Repeats now candidate sent last) (done : last.isReady now = false)
    (also : Repeats now candidate alsoSent other) (alsoDone : other.isReady now = false) :
    other = last ∧ alsoSent = sent := by
  induction repeats generalizing alsoSent with
  | rest candidate =>
      cases also with
      | rest => exact ⟨rfl, rfl⟩
      | again ready _ => cases done.symm.trans ready
  | again ready _ inductionHypothesis =>
      cases also with
      | rest => cases alsoDone.symm.trans ready
      | again _ also =>
          obtain ⟨sameLast, sameSent⟩ := inductionHypothesis done also
          exact ⟨sameLast, congrArg (· ++ _) sameSent⟩

end Repeats

/-- A candidate has caught up after so many resends at most. -/
def TiresWithin (now : Nat) : Nat → Candidate → Prop
  | 0, candidate => candidate.isReady now = false
  | count + 1, candidate =>
      candidate.isReady now = true → TiresWithin now count (candidate.resent now)

theorem TiresWithin.succ {now count : Nat} {candidate : Candidate}
    (tires : TiresWithin now count candidate) : TiresWithin now (count + 1) candidate := by
  induction count generalizing candidate with
  | zero => exact fun ready => absurd ready (Bool.eq_false_iff.mp tires)
  | succ count inductionHypothesis => exact fun ready => inductionHypothesis (tires ready)

theorem TiresWithin.mono {now fewer more : Nat} {candidate : Candidate}
    (tires : TiresWithin now fewer candidate) (within : fewer ≤ more) :
    TiresWithin now more candidate := by
  induction within with
  | refl => exact tires
  | step _ inductionHypothesis => exact inductionHypothesis.succ

/-- Who has caught up has done so after finitely many resends. -/
theorem Repeats.tires {now : Nat} {candidate last : Candidate} {sent : List Sent}
    (repeats : Repeats now candidate sent last) (done : last.isReady now = false) :
    ∃ count, TiresWithin now count candidate := by
  induction repeats with
  | rest => exact ⟨0, done⟩
  | again _ _ inductionHypothesis =>
      obtain ⟨count, tires⟩ := inductionHypothesis done
      exact ⟨count + 1, fun _ => tires⟩

end Candidate

/-! ## One sequence -/

namespace Excerpt

/-- The resends that went out for a number, newest first. -/
def sentFor (excerpt : Excerpt) (number : Nat) : List Sent :=
  excerpt.sent.filter fun sent => sent.number = number

theorem find?_eq_none_iff {excerpt : Excerpt} {number : Nat} :
    excerpt.find? number = none ↔ number ∉ excerpt.listed.map Candidate.number := by
  simp only [find?, List.find?_eq_none, decide_eq_true_eq, List.mem_map, not_exists, not_and]

/-- No number occurs twice. -/
def IsNumbered (excerpt : Excerpt) : Prop :=
  (excerpt.listed.map Candidate.number).Nodup

/-- Candidates are resent as long as they are ready, or less often. -/
structure Trail (now : Nat) (before after : Excerpt) : Prop where
  suspended : after.suspended = before.suspended
  numbers : after.listed.map Candidate.number = before.listed.map Candidate.number
  known : ∀ number candidate, before.find? number = some candidate → ∃ sent last,
    candidate.Repeats now sent last ∧ after.find? number = some last ∧
      after.sentFor number = sent ++ before.sentFor number
  unknown : ∀ number, before.find? number = none →
    after.sentFor number = before.sentFor number

theorem Trail.refl (now : Nat) (excerpt : Excerpt) : Trail now excerpt excerpt where
  suspended := rfl
  numbers := rfl
  known _ candidate found := ⟨[], candidate, .rest candidate, found, rfl⟩
  unknown _ _ := rfl

theorem find?_resend (excerpt : Excerpt) (now : Nat) (chosen : Candidate → Bool) (number : Nat) :
    (excerpt.resend now chosen).find? number = (excerpt.find? number).map fun candidate =>
      if chosen candidate then candidate.resent now else candidate := by
  have same : ((fun candidate : Candidate => decide (candidate.number = number)) ∘
      fun candidate => if chosen candidate then candidate.resent now else candidate) =
        fun candidate => decide (candidate.number = number) := by
    funext candidate
    simp only [Function.comp_apply]
    split <;> simp
  rw [find?, resend, List.find?_map, same]
  rfl

theorem numbers_resend (excerpt : Excerpt) (now : Nat) (chosen : Candidate → Bool) :
    (excerpt.resend now chosen).listed.map Candidate.number =
      excerpt.listed.map Candidate.number := by
  rw [resend, List.map_map]
  refine List.map_congr_left fun candidate _ => ?_
  simp only [Function.comp_apply]
  split <;> simp

/-- What goes out for a number is what its candidate resends, if it is chosen. -/
theorem sentFor_resend {excerpt : Excerpt} (numbered : excerpt.IsNumbered) (now : Nat)
    (chosen : Candidate → Bool) (number : Nat) :
    (excerpt.resend now chosen).sentFor number =
      ((excerpt.find? number).toList.filter chosen).map (Candidate.sent now) ++
        excerpt.sentFor number := by
  have own : (excerpt.listed.filter fun candidate => candidate.number = number) =
      (excerpt.find? number).toList := filter_eq_toList_find? numbered number
  have sentNow : ((excerpt.listed.filter chosen).map (Candidate.sent now)).filter
        (fun sent => sent.number = number) =
      ((excerpt.find? number).toList.filter chosen).map (Candidate.sent now) := by
    have isOwn : ((fun sent : Sent => decide (sent.number = number)) ∘ Candidate.sent now) =
        fun candidate => decide (candidate.number = number) := rfl
    rw [List.filter_map, isOwn, List.filter_filter, ← own, List.filter_filter]
    exact congrArg (List.map _) (List.filter_congr fun candidate _ => Bool.and_comm _ _)
  have single : (((excerpt.find? number).toList.filter chosen).map (Candidate.sent now)).reverse =
      ((excerpt.find? number).toList.filter chosen).map (Candidate.sent now) := by
    cases excerpt.find? number with
    | none => rfl
    | some candidate => cases isChosen : chosen candidate <;> simp [isChosen]
  rw [sentFor, resend, List.filter_append, List.filter_reverse, sentNow, single]
  rfl

/-- What becomes of a candidate goes on from what has become of it. -/
theorem Trail.trans {now : Nat} {first second third : Excerpt} (earlier : first.Trail now second)
    (later : second.Trail now third) : first.Trail now third where
  suspended := later.suspended.trans earlier.suspended
  numbers := later.numbers.trans earlier.numbers
  known := by
    intro number candidate wasFound
    obtain ⟨sent, middle, repeats, found, sentSoFar⟩ := earlier.known number candidate wasFound
    obtain ⟨alsoSent, last, further, isLast, alsoSentSoFar⟩ := later.known number middle found
    refine ⟨alsoSent ++ sent, last, repeats.trans further, isLast, ?_⟩
    rw [alsoSentSoFar, sentSoFar, List.append_assoc]
  unknown := by
    intro number wasAbsent
    have absent : second.find? number = none := by
      rw [find?_eq_none_iff, earlier.numbers, ← find?_eq_none_iff]
      exact wasAbsent
    exact (later.unknown number absent).trans (earlier.unknown number wasAbsent)

/-- Candidates that are ready are resent. -/
theorem Trail.of_resend {now : Nat} {excerpt : Excerpt} (numbered : excerpt.IsNumbered)
    {chosen : Candidate → Bool} (ready : ∀ candidate ∈ excerpt.listed, chosen candidate = true →
      candidate.isReady now = true) : excerpt.Trail now (excerpt.resend now chosen) where
  suspended := rfl
  numbers := excerpt.numbers_resend now chosen
  known := by
    intro number candidate found
    rw [find?_resend, found, sentFor_resend numbered, found]
    cases isChosen : chosen candidate with
    | false => exact ⟨[], candidate, .rest candidate, by simp [isChosen], by simp [isChosen]⟩
    | true =>
        have isReady := ready candidate (List.mem_of_find?_eq_some found) isChosen
        exact ⟨_, _, .again isReady (.rest _), by simp [isChosen], by simp [isChosen]⟩
  unknown := by
    intro number absent
    rw [sentFor_resend numbered, absent]
    rfl

/-- Two excerpts that agree: what they tell of each message is the same, though the resends of
different messages may have gone out in other turns. -/
structure Agrees (excerpt other : Excerpt) : Prop where
  suspended : other.suspended = excerpt.suspended
  listed : other.listed = excerpt.listed
  sent : ∀ number, other.sentFor number = excerpt.sentFor number

theorem Agrees.refl (excerpt : Excerpt) : excerpt.Agrees excerpt :=
  ⟨rfl, rfl, fun _ => rfl⟩

/-- A list is known by its numbers and by who bears each of them. -/
theorem listed_ext {listed other : List Candidate}
    (numbered : (listed.map Candidate.number).Nodup)
    (sameNumbers : other.map Candidate.number = listed.map Candidate.number)
    (same : ∀ number, (other.find? fun candidate => candidate.number = number) =
      listed.find? fun candidate => candidate.number = number) : other = listed := by
  induction listed generalizing other with
  | nil => exact List.map_eq_nil_iff.mp sameNumbers
  | cons candidate rest inductionHypothesis =>
      obtain ⟨first, others, rfl⟩ : ∃ first others, other = first :: others := by
        cases other with
        | nil => cases sameNumbers
        | cons first others => exact ⟨first, others, rfl⟩
      obtain ⟨sameNumber, restNumbers⟩ := List.cons.inj sameNumbers
      obtain ⟨fresh, restNumbered⟩ := List.nodup_cons.mp numbered
      have sameFirst : first = candidate := by
        have found := same candidate.number
        rw [List.find?_cons_of_pos (by simp [sameNumber]), List.find?_cons_of_pos (by simp)]
          at found
        exact Option.some.inj found
      subst sameFirst
      rw [inductionHypothesis restNumbered restNumbers fun number => ?_]
      by_cases own : first.number = number
      · have absent (list : List Candidate)
            (names : list.map Candidate.number = rest.map Candidate.number) :
            (list.find? fun candidate => candidate.number = number) = none := by
          rw [List.find?_eq_none]
          intro bearer present
          rw [decide_eq_true_eq]
          rintro bears
          apply fresh
          rw [own, ← bears, ← names]
          exact List.mem_map_of_mem present
        rw [absent others restNumbers, absent rest rfl]
      · have found := same number
        rw [List.find?_cons_of_neg (by simp [own]), List.find?_cons_of_neg (by simp [own])] at found
        exact found

/-- What is found for a number, and what is rejected, agrees. -/
theorem Agrees.find? {excerpt other : Excerpt} (agrees : excerpt.Agrees other) (number : Nat) :
    other.find? number = excerpt.find? number := by
  rw [Excerpt.find?, agrees.listed]
  rfl

theorem Agrees.rejection? {excerpt other : Excerpt} (agrees : excerpt.Agrees other)
    (message : Message) : other.rejection? message = excerpt.rejection? message := by
  rw [Excerpt.rejection?, agrees.find?]
  rfl

theorem Agrees.resend {excerpt other : Excerpt} (agrees : excerpt.Agrees other) (now : Nat)
    (chosen : Candidate → Bool) : (excerpt.resend now chosen).Agrees (other.resend now chosen) := by
  refine ⟨agrees.suspended, ?_, fun number => ?_⟩
  · simp only [Excerpt.resend, agrees.listed]
  · have sent := agrees.sent number
    simp only [sentFor] at sent
    simp only [sentFor, Excerpt.resend, agrees.listed, List.filter_append, sent]

/-- Operations keep excerpts in agreement. -/
theorem Agrees.step {excerpt other : Excerpt} (agrees : excerpt.Agrees other) (now : Nat)
    (routing : Executor.Routing) (command : Command) :
    (excerpt.step now routing command).Agrees (other.step now routing command) := by
  cases command with
  | add message =>
      rw [Excerpt.step, Excerpt.step, agrees.rejection?]
      split
      · refine ⟨agrees.suspended, ?_, agrees.sent⟩
        rw [enroll, enroll, agrees.suspended, agrees.listed]
      · exact agrees
  | purgeAcknowledged sequence acknowledged =>
      exact ⟨agrees.suspended, congrArg (List.filter _) agrees.listed, agrees.sent⟩
  | purgeAll sequence => exact ⟨rfl, rfl, agrees.sent⟩
  | stop sequence => exact ⟨agrees.suspended, congrArg (List.map _) agrees.listed, agrees.sent⟩
  | suspend sequence =>
      refine ⟨rfl, ?_, agrees.sent⟩
      simp only [Excerpt.step, suspend, agrees.suspended, agrees.listed]
  | resume sequence =>
      rw [Excerpt.step, Excerpt.step, resume, resume, agrees.suspended]
      split
      · exact ⟨rfl, congrArg (List.map _) agrees.listed, agrees.sent⟩
      · exact agrees
  | shutdown => exact ⟨agrees.suspended, congrArg (List.map _) agrees.listed, agrees.sent⟩
  | request name request =>
      cases request with
      | driveDue upTo => exact agrees.resend now _
      | attempt sequence number => exact agrees.resend now _
      | runDue upTo => exact agrees
  | join _ | serve _ | announce _ | setExecutors _ | closeAgenda | prepare _ _
  | exchangeStore _ => exact agrees

/-- Excerpts that agree still agree when both have caught up. -/
theorem Agrees.trails {now : Nat} {excerpt other after otherAfter : Excerpt}
    (agrees : excerpt.Agrees other) (numbered : excerpt.IsNumbered)
    (trail : Trail now excerpt after) (otherTrail : Trail now other otherAfter)
    (done : ∀ candidate ∈ after.listed, candidate.isReady now = false)
    (otherDone : ∀ candidate ∈ otherAfter.listed, candidate.isReady now = false) :
    after.Agrees otherAfter := by
  have sameFind := agrees.find?
  have each (number : Nat) : otherAfter.find? number = after.find? number ∧
      otherAfter.sentFor number = after.sentFor number := by
    cases wasFound : excerpt.find? number with
    | none =>
        have otherNone := (sameFind number).trans wasFound
        have afterNone : after.find? number = none := by
          rw [find?_eq_none_iff, trail.numbers, ← find?_eq_none_iff]
          exact wasFound
        have otherAfterNone : otherAfter.find? number = none := by
          rw [find?_eq_none_iff, otherTrail.numbers, ← find?_eq_none_iff]
          exact otherNone
        rw [trail.unknown number wasFound, otherTrail.unknown number otherNone, afterNone,
          otherAfterNone]
        exact ⟨rfl, agrees.sent number⟩
    | some candidate =>
        obtain ⟨sent, last, repeats, found, sentNow⟩ := trail.known number candidate wasFound
        obtain ⟨otherSent, otherLast, otherRepeats, otherFound, otherSentNow⟩ :=
          otherTrail.known number candidate ((sameFind number).trans wasFound)
        obtain ⟨sameLast, sameSent⟩ :=
          repeats.unique (done last (List.mem_of_find?_eq_some found)) otherRepeats
            (otherDone otherLast (List.mem_of_find?_eq_some otherFound))
        rw [found, otherFound, sentNow, otherSentNow, sameLast, sameSent, agrees.sent]
        exact ⟨rfl, rfl⟩
  refine ⟨?_, ?_, fun number => (each number).2⟩
  · rw [otherTrail.suspended, trail.suspended, agrees.suspended]
  · apply listed_ext
    · rw [trail.numbers]
      exact numbered
    · rw [otherTrail.numbers, agrees.listed, trail.numbers]
    · exact fun number => (each number).1

end Excerpt

/-! ## Services -/

namespace Outline

/-- Who has not ended is in the excerpt of its sequence. -/
theorem Listed.mem_excerpt {outline : Outline} (listed : outline.Listed) {identity : Nat}
    {candidate : Candidate} (found : outline.candidates[identity]? = some candidate)
    (active : candidate.ending = none) :
    candidate ∈ (outline.excerpt candidate.sequence).listed :=
  List.mem_filterMap.mpr ⟨identity, (listed.present identity candidate found active).1, found⟩

/-- Whoever is in an excerpt is listed there. -/
theorem exists_of_mem_excerpt {outline : Outline} {sequence : SequenceKey}
    {candidate : Candidate} (present : candidate ∈ (outline.excerpt sequence).listed) :
    ∃ identity, identity ∈ outline.roster.listOf sequence ∧
      outline.candidates[identity]? = some candidate :=
  List.mem_filterMap.mp present

/-- No number occurs twice in an excerpt. -/
theorem isNumbered_excerpt {outline : Outline} {sequence : SequenceKey}
    (numbered : ((outline.roster.listOf sequence).map outline.numberOf).Nodup) :
    (outline.excerpt sequence).IsNumbered := by
  have numbers : (outline.excerpt sequence).listed.map Candidate.number =
      ((outline.roster.listOf sequence).map outline.numberOf).filterMap id := by
    rw [excerpt, candidatesOf, List.map_filterMap, List.filterMap_map]
    rfl
  rw [Excerpt.IsNumbered, numbers]
  apply numbered.filterMap
  rintro number other name rfl isOther
  exact isOther.symm

end Outline

namespace Service

/-- Nobody who is listed is ready. -/
def HasCaughtUp (service : Service) : Prop :=
  ∀ sequence, ∀ candidate ∈ (service.outline.excerpt sequence).listed,
    candidate.isReady service.now = false

end Service

end Redelivery
