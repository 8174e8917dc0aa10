import Redelivery.Proofs.Effects

/-!
# What can happen to one message

The share of a message is what an outline says about it: its candidate, its
errands, and its resends so far.  Whatever moves, a share takes one of a few
turns.  What they keep is what every run keeps.
-/

namespace Redelivery

/-- What concerns one message. -/
structure Share where
  /-- The candidate, without its timer. -/
  candidate : Option Candidate
  errands : Multiset Errand
  /-- The resends that went out, newest first. -/
  resends : List Resend

/-- What an outline and the errands of other programs say about one message. -/
def Outline.shareWith (outline : Outline) (identity : Nat) (others : Multiset Errand) : Share :=
  { candidate := outline.candidates[identity]?
    errands := (others + errandsIn outline.programs).filter fun errand =>
      errand.job.candidate = identity
    resends := outline.resends.filter fun resend => resend.job.candidate = identity }

/-- What an outline says about one message. -/
def Outline.share (outline : Outline) (identity : Nat) : Share :=
  outline.shareWith identity 0

namespace Share

/-- What an activity can do to a message, at an instant. -/
inductive Step (now : Nat) : Share → Share → Prop where
  | quiet {share : Share} : Step now share share
  /-- A resend is handed over. -/
  | handOver (identity : Nat) {candidate : Candidate} {message : Message}
      {errands : Multiset Errand} {resends : List Resend} :
      candidate.isFree = true → candidate.message = some message →
      Step now ⟨some candidate, errands, resends⟩
        ⟨some candidate.handedOver, .waiting (candidate.job identity message) ::ₘ errands,
          resends⟩
  /-- A resend goes out and takes its time. -/
  | begin {job : Job} {candidate : Candidate} {errands : Multiset Errand}
      {resends : List Resend} :
      candidate.maySend = true →
      Step now ⟨some candidate, .waiting job ::ₘ errands, resends⟩
        ⟨some candidate, .underWay job ::ₘ errands, { instant := now, job } :: resends⟩
  /-- A resend goes out and completes at once. -/
  | deliver {job : Job} {candidate : Candidate} {errands : Multiset Errand}
      {resends : List Resend} :
      candidate.maySend = true →
      Step now ⟨some candidate, .waiting job ::ₘ errands, resends⟩
        ⟨some (candidate.completed now), errands, { instant := now, job } :: resends⟩
  /-- A resend completes. -/
  | conclude {job : Job} {candidate : Option Candidate} {errands : Multiset Errand}
      {resends : List Resend} :
      Step now ⟨candidate, .underWay job ::ₘ errands, resends⟩
        ⟨candidate.map (Candidate.completed now), errands, resends⟩
  /-- A resend does not go out after all. -/
  | skip {job : Job} {candidate : Option Candidate} {errands : Multiset Errand}
      {resends : List Resend} :
      candidate.any Candidate.maySend = false →
      Step now ⟨candidate, .waiting job ::ₘ errands, resends⟩
        ⟨candidate.map (Candidate.abandon · job.requestAck), errands, resends⟩
  /-- The candidate ends. -/
  | finish (ending : Ending) {candidate : Candidate} {errands : Multiset Errand}
      {resends : List Resend} :
      Step now ⟨some candidate, errands, resends⟩
        ⟨some (candidate.finished ending), errands, resends⟩

/-- What can happen to a message, at an instant: a step of an activity, or something
that only a caller can ask for. -/
inductive Turn (now : Nat) : Share → Share → Prop where
  | step {before after : Share} : Step now before after → Turn now before after
  /-- The message is registered. -/
  | enroll (routing : Executor.Routing) (suspended : Bool) (message : Message)
      {errands : Multiset Errand} {resends : List Resend} :
      Turn now ⟨none, errands, resends⟩
        ⟨some (Candidate.register now routing suspended message), errands, resends⟩
  /-- The sequence is suspended. -/
  | suspend {candidate : Candidate} {errands : Multiset Errand} {resends : List Resend} :
      Turn now ⟨some candidate, errands, resends⟩ ⟨some candidate.paused, errands, resends⟩
  /-- The sequence is resumed. -/
  | wake {candidate : Candidate} {errands : Multiset Errand} {resends : List Resend} :
      Turn now ⟨some candidate, errands, resends⟩ ⟨some (candidate.woken now), errands, resends⟩

theorem Turn.quiet {now : Nat} {share : Share} : Turn now share share :=
  .step .quiet

end Share

/-- A relation of a candidate to whatever activities can make of it at an instant. -/
structure Candidate.SpansSteps (now : Nat) (relates : Candidate → Candidate → Prop) : Prop where
  refl : ∀ candidate, relates candidate candidate
  handedOver : ∀ candidate, relates candidate candidate.handedOver
  completed : ∀ candidate, relates candidate (candidate.completed now)
  abandoned : ∀ requestAck candidate, relates candidate (candidate.abandon requestAck)
  finished : ∀ ending candidate, relates candidate (candidate.finished ending)

/-- A relation of a candidate to whatever can be made of it at an instant. -/
structure Candidate.SpansTurns (now : Nat) (relates : Candidate → Candidate → Prop) : Prop
    extends SpansSteps now relates where
  paused : ∀ candidate, relates candidate candidate.paused
  woken : ∀ candidate, relates candidate (candidate.woken now)

theorem Candidate.SpansTurns.mono {now : Nat} {relates other : Candidate → Candidate → Prop}
    (spans : SpansTurns now relates)
    (weaker : ∀ candidate later, relates candidate later → other candidate later) :
    SpansTurns now other where
  refl _ := weaker _ _ (spans.refl _)
  handedOver _ := weaker _ _ (spans.handedOver _)
  completed _ := weaker _ _ (spans.completed _)
  abandoned _ _ := weaker _ _ (spans.abandoned _ _)
  finished _ _ := weaker _ _ (spans.finished _ _)
  paused _ := weaker _ _ (spans.paused _)
  woken _ := weaker _ _ (spans.woken _)

namespace Share

variable {now : Nat} {before after : Share} {relates : Candidate → Candidate → Prop}

theorem Step.spans (step : Step now before after) (spans : Candidate.SpansSteps now relates) :
    Option.Rel relates before.candidate after.candidate := by
  cases step with
  | quiet =>
      cases before.candidate with
      | none => exact .none
      | some candidate => exact .some (spans.refl candidate)
  | handOver identity free held => exact .some (spans.handedOver _)
  | begin may => exact .some (spans.refl _)
  | deliver may => exact .some (spans.completed _)
  | @conclude job candidate errands resends =>
      cases candidate with
      | none => exact .none
      | some candidate => exact .some (spans.completed candidate)
  | @skip job candidate errands resends refused =>
      cases candidate with
      | none => exact .none
      | some candidate => exact .some (spans.abandoned job.requestAck candidate)
  | finish ending => exact .some (spans.finished ending _)

theorem Turn.spans (turn : Turn now before after) (spans : Candidate.SpansTurns now relates)
    {candidate : Candidate} (found : before.candidate = some candidate) :
    ∃ later, after.candidate = some later ∧ relates candidate later := by
  cases turn with
  | step step =>
      have related := step.spans spans.toSpansSteps
      rw [found] at related
      generalize after.candidate = result at related
      cases related with
      | some related => exact ⟨_, rfl, related⟩
  | enroll routing suspended message => cases found
  | suspend =>
      cases found
      exact ⟨_, rfl, spans.paused candidate⟩
  | wake =>
      cases found
      exact ⟨_, rfl, spans.woken candidate⟩

end Share

/-! ## What every turn keeps -/

/-- A candidate that keeps its message until its end, and is pending only while it
takes part in the schedule. -/
structure Candidate.Sound (candidate : Candidate) : Prop where
  kept : candidate.message = none ↔ candidate.ending ≠ none
  /-- The candidate bears the names of its message. -/
  named : ∀ message, candidate.message = some message →
    message.sequence = candidate.sequence ∧ message.number = candidate.number ∧
      message.destination.isAddressable = candidate.addressable
  busy : candidate.pending = true →
    candidate.ending = none ∧ candidate.exhausted = false ∧ candidate.addressable = true

/-- A share in which the errands belong to the candidate: there is one as long as
the candidate is pending, and none otherwise unless the candidate has ended. -/
structure Share.Sound (share : Share) : Prop where
  vacant : share.candidate = none → share.errands = 0
  candidate : ∀ candidate, share.candidate = some candidate → candidate.Sound
  single : ∀ candidate, share.candidate = some candidate → candidate.ending = none →
    Multiset.card share.errands = if candidate.pending then 1 else 0
  same : ∀ candidate message, share.candidate = some candidate →
    candidate.message = some message →
    ∀ errand ∈ share.errands, errand.job.message = message

namespace Candidate

theorem sound_register (now : Nat) (routing : Executor.Routing) (suspended : Bool)
    (message : Message) : (register now routing suspended message).Sound where
  kept := by simp [register]
  named := by
    intro other isMessage
    cases isMessage
    exact ⟨rfl, rfl, rfl⟩
  busy := by
    intro pending
    cases pending

/-- A free candidate has neither ended nor reached its limit, and has an address. -/
theorem isFree_eq_true_iff {candidate : Candidate} :
    candidate.isFree = true ↔
      candidate.pending = false ∧ candidate.suspended = false ∧ candidate.ending = none ∧
        candidate.exhausted = false ∧ candidate.message ≠ none ∧ candidate.addressable = true := by
  simp [isFree, isInert, and_assoc, Option.isSome_iff_ne_none]

theorem maySend_eq_true_iff {candidate : Candidate} :
    candidate.maySend = true ↔
      candidate.pending = true ∧ candidate.suspended = false ∧ candidate.ending = none ∧
        candidate.exhausted = false ∧ candidate.message ≠ none := by
  simp [maySend, isInert, and_assoc, Option.isSome_iff_ne_none]

theorem Sound.completed {candidate : Candidate} (sound : candidate.Sound) (now : Nat) :
    (candidate.completed now).Sound := by
  rcases candidate.completed_eq now with ⟨_, _, _, _, _, completed⟩
  rw [completed]
  exact { kept := sound.kept, named := sound.named, busy := fun pending => by cases pending }

theorem Sound.abandon {candidate : Candidate} (sound : candidate.Sound) (requestAck : Bool) :
    (candidate.abandon requestAck).Sound where
  kept := sound.kept
  named := sound.named
  busy := by
    intro pending
    cases pending

theorem Sound.handedOver {candidate : Candidate} (sound : candidate.Sound)
    (free : candidate.isFree = true) : candidate.handedOver.Sound where
  kept := sound.kept
  named := sound.named
  busy := by
    intro _
    rcases isFree_eq_true_iff.mp free with ⟨_, _, active, further, _, addressable⟩
    exact ⟨active, further, addressable⟩

theorem sound_finished (ending : Ending) (candidate : Candidate) :
    (candidate.finished ending).Sound where
  kept := by
    rcases message_finish candidate ending with ⟨released, ended⟩
    exact ⟨fun _ => Option.isSome_iff_ne_none.mp ended, fun _ => released⟩
  named := by
    intro message held
    cases held
  busy := by
    intro pending
    cases pending

theorem Sound.paused {candidate : Candidate} (sound : candidate.Sound) :
    candidate.paused.Sound := by
  obtain ⟨_, paused, _⟩ := candidate.paused_eq
  rw [paused]
  exact { kept := sound.kept, named := sound.named, busy := sound.busy }

theorem Sound.woken {candidate : Candidate} (sound : candidate.Sound) (now : Nat) :
    (candidate.woken now).Sound := by
  rcases candidate.woken_eq now with ⟨next, requestAck, woken⟩
  rw [woken]
  exact { kept := sound.kept, named := sound.named, busy := sound.busy }

end Candidate

namespace Share

/-- While a candidate has not ended, its only errand leaves nothing behind. -/
theorem Sound.card_rest {candidate : Candidate} {errand : Errand} {errands : Multiset Errand}
    {resends : List Resend} (sound : Sound ⟨some candidate, errand ::ₘ errands, resends⟩)
    (active : candidate.ending = none) : Multiset.card errands = 0 := by
  have counted := sound.single candidate rfl active
  rw [Multiset.card_cons] at counted
  split at counted <;> omega

theorem sound_some {candidate : Candidate} {errands : Multiset Errand} {resends : List Resend}
    (candidateSound : candidate.Sound)
    (counted : candidate.ending = none →
      Multiset.card errands = if candidate.pending then 1 else 0)
    (same : ∀ message, candidate.message = some message →
      ∀ errand ∈ errands, errand.job.message = message) :
    Sound ⟨some candidate, errands, resends⟩ where
  vacant := by
    intro absent
    cases absent
  candidate := by
    rintro _ ⟨⟩
    exact candidateSound
  single := by
    rintro _ ⟨⟩
    exact counted
  same := by
    rintro _ message ⟨⟩
    exact same message

/-- What a change of the candidate has to respect where the errands stay. -/
theorem Sound.change {candidate changed : Candidate} {errands : Multiset Errand}
    {resends : List Resend} (sound : Sound ⟨some candidate, errands, resends⟩)
    (changedSound : changed.Sound) (samePending : changed.pending = candidate.pending)
    (sameEnding : changed.ending = candidate.ending)
    (sameMessage : changed.message = candidate.message) :
    Sound ⟨some changed, errands, resends⟩ := by
  refine sound_some changedSound ?_ ?_
  · rw [samePending, sameEnding]
    exact sound.single candidate rfl
  · rw [sameMessage]
    exact fun message => sound.same candidate message rfl

/-- What is left of the errands still belongs to the candidate. -/
theorem Sound.drop {candidate changed : Candidate} {errand : Errand}
    {errands : Multiset Errand} {resends more : List Resend}
    (sound : Sound ⟨some candidate, errand ::ₘ errands, resends⟩)
    (changedSound : changed.Sound) (idle : changed.pending = false)
    (sameEnding : changed.ending = candidate.ending)
    (sameMessage : changed.message = candidate.message) :
    Sound ⟨some changed, errands, more⟩ := by
  refine sound_some changedSound ?_ ?_
  · intro active
    rw [sound.card_rest (sameEnding ▸ active), idle]
    rfl
  · intro message isMessage other present
    exact sound.same candidate message rfl (sameMessage ▸ isMessage) other
      (Multiset.mem_cons_of_mem present)

/-- A share is sound after every step. -/
theorem Sound.step {now : Nat} {before after : Share} (sound : before.Sound)
    (step : Step now before after) : after.Sound := by
  cases step with
  | quiet => exact sound
  | @handOver identity candidate message errands resends free held =>
      rcases Candidate.isFree_eq_true_iff.mp free with ⟨idle, _, active, _⟩
      have counted := sound.single candidate rfl active
      rw [idle] at counted
      refine sound_some ((sound.candidate candidate rfl).handedOver free) ?_ ?_
      · intro _
        rw [Multiset.card_cons, counted]
        rfl
      · intro other isOther errand present
        have sameMessage : candidate.message = some other := isOther
        rcases Multiset.mem_cons.mp present with rfl | inRest
        · exact Option.some.inj (held.symm.trans sameMessage)
        · exact sound.same candidate other rfl sameMessage errand inRest
  | @begin job candidate errands resends may =>
      refine sound_some (sound.candidate candidate rfl) ?_ ?_
      · intro active
        have counted := sound.single candidate rfl active
        rwa [Multiset.card_cons] at counted ⊢
      · intro message isMessage errand present
        have same := sound.same candidate message rfl isMessage
        rcases Multiset.mem_cons.mp present with rfl | inRest
        · exact same (.waiting job) (Multiset.mem_cons_self _ _)
        · exact same errand (Multiset.mem_cons_of_mem inRest)
  | @deliver job candidate errands resends may =>
      rcases candidate.completed_eq now with ⟨_, _, _, _, _, completed⟩
      exact sound.drop ((sound.candidate candidate rfl).completed now) (by rw [completed])
        (by rw [completed]) (by rw [completed])
  | @conclude job candidate errands resends =>
      cases candidate with
      | none => exact absurd (sound.vacant rfl) Multiset.cons_ne_zero
      | some candidate =>
          obtain ⟨_, _, _, _, _, completed⟩ := candidate.completed_eq now
          exact sound.drop ((sound.candidate candidate rfl).completed now) (by rw [completed])
            (by rw [completed]) (by rw [completed])
  | @skip job candidate errands resends refused =>
      cases candidate with
      | none => exact absurd (sound.vacant rfl) Multiset.cons_ne_zero
      | some candidate =>
          exact sound.drop ((sound.candidate candidate rfl).abandon job.requestAck) rfl rfl rfl
  | @finish ending candidate errands resends =>
      have finishedSound := Candidate.sound_finished ending candidate
      refine sound_some finishedSound ?_ ?_
      · intro active
        exact absurd active (finishedSound.kept.mp rfl)
      · rintro _ ⟨⟩

/-- A share is sound after every turn. -/
theorem Sound.turn {now : Nat} {before after : Share} (sound : before.Sound)
    (turn : Turn now before after) : after.Sound := by
  cases turn with
  | step step => exact sound.step step
  | enroll routing suspended message =>
      have noErrand := sound.vacant rfl
      simp only at noErrand
      subst noErrand
      refine sound_some (Candidate.sound_register now routing suspended message) ?_ ?_
      · intro _
        rfl
      · rintro _ _ _ ⟨⟩
  | @suspend candidate errands resends =>
      rcases candidate.paused_eq with ⟨_, paused, _⟩
      exact sound.change (sound.candidate candidate rfl).paused (by rw [paused]) (by rw [paused])
        (by rw [paused])
  | @wake candidate errands resends =>
      rcases candidate.woken_eq now with ⟨_, _, woken⟩
      exact sound.change ((sound.candidate candidate rfl).woken now) (by rw [woken])
        (by rw [woken]) (by rw [woken])

end Share

end Redelivery
