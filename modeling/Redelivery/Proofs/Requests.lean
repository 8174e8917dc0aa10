import Redelivery.Proofs.Sending

/-!
# Requests for an acknowledgment

The first resend of a message asks for a prompt acknowledgment, and so does the
first one after each resumption of its sequence.  A resend takes the request
along when it is handed over, and not when it begins.  As long as it waits for a
permit, a resumption does not reach it any more: the request goes to the resend
after it.  What a message shows of this are its signs, and from them follows
exactly when each resend asks as it should.
-/

namespace Redelivery

/-- What can be seen of a message: a resend is handed over, one begins, or the sequence
is resumed.  Lists of signs have the newest sign first. -/
inductive Sign where
  | handedOver
  | begun (requestAck : Bool)
  | resumed
  deriving DecidableEq, Repr

namespace Sign

/-- Whether a resend that begins now is to ask: none has begun yet, or none since the
latest resumption. -/
def promised : List Sign → Bool
  | [] => true
  | .resumed :: _ => true
  | .begun _ :: _ => false
  | .handedOver :: earlier => promised earlier

/-- The sequence was resumed while the resend that was handed over last was waiting. -/
def waited : List Sign → Bool
  | .resumed :: _ => true
  | _ => false

/-- The latest resend that began had waited while the sequence was resumed, and the
sequence was not resumed since it began. -/
def followsWait : List Sign → Bool
  | .begun _ :: earlier => waited earlier
  | .handedOver :: earlier => followsWait earlier
  | _ => false

/-- Whether there is a request for a resend to take along when it is handed over. -/
def outstanding (signs : List Sign) : Bool :=
  promised signs || followsWait signs

/-- The signs since a resend was handed over, up to which there were `before`, tell of
nothing but resumptions. -/
inductive IsWaiting (before : List Sign) : List Sign → Prop where
  | handedOver : IsWaiting before (.handedOver :: before)
  | resumed {signs : List Sign} : IsWaiting before signs → IsWaiting before (.resumed :: signs)

/-- Every resend that began was handed over before, and asked exactly if there was a
request then. -/
def AsTaken (signs : List Sign) : Prop :=
  ∀ later flag earlier, signs = later ++ .begun flag :: earlier →
    ∃ before, IsWaiting before earlier ∧ flag = outstanding before

/-- Every resend that began asked exactly if it should. -/
def AsPromised (signs : List Sign) : Prop :=
  ∀ later flag earlier, signs = later ++ .begun flag :: earlier → flag = promised earlier

/-- No resend that began missed a request while it waited: one that waited through a
resumption had taken an earlier request along, and one that did not wait so did not
follow one that did. -/
def IsHarmless (signs : List Sign) : Prop :=
  ∀ later flag earlier before, signs = later ++ .begun flag :: earlier →
    IsWaiting before earlier →
    if waited earlier then outstanding before = true else followsWait before = false

/-! ## Laws of signs -/

theorem IsWaiting.promised_eq {before signs : List Sign} (waiting : IsWaiting before signs) :
    promised signs = (waited signs || promised before) := by
  cases waiting with
  | handedOver => rfl
  | resumed _ => rfl

/-- A resend that does not go out after all gives its request back. -/
theorem IsWaiting.outstanding_eq {before signs : List Sign} (waiting : IsWaiting before signs) :
    outstanding signs = (waited signs || outstanding before) := by
  cases waiting with
  | handedOver => rfl
  | resumed _ => rfl

theorem IsWaiting.unique {before other signs : List Sign} (waiting : IsWaiting before signs)
    (otherWaiting : IsWaiting other signs) : before = other := by
  induction waiting with
  | handedOver =>
      cases otherWaiting
      rfl
  | resumed _ inductionHypothesis =>
      cases otherWaiting with
      | resumed otherWaiting => exact inductionHypothesis otherWaiting

/-- What follows a wait is not the first resend since a resumption. -/
theorem promised_eq_false_of_followsWait {signs : List Sign}
    (follows : followsWait signs = true) : promised signs = false := by
  induction signs with
  | nil => cases follows
  | cons sign earlier inductionHypothesis =>
      cases sign with
      | handedOver => exact inductionHypothesis follows
      | begun flag => rfl
      | resumed => cases follows

/-- Requests that are taken along when resends are handed over keep the promise exactly
if no resend missed one while it waited. -/
theorem AsTaken.asPromised_iff {signs : List Sign} (taken : AsTaken signs) :
    AsPromised signs ↔ IsHarmless signs := by
  -- Both sides speak about the same resends, one at a time.
  have each {flag : Bool} {earlier before : List Sign} (waiting : IsWaiting before earlier)
      (took : flag = outstanding before) : flag = promised earlier ↔
        if waited earlier then outstanding before = true else followsWait before = false := by
    rw [took, waiting.promised_eq]
    cases waited earlier with
    | true => simp
    | false =>
        cases follows : followsWait before with
        | true => simp [outstanding, follows, promised_eq_false_of_followsWait follows]
        | false => simp [outstanding, follows]
  constructor
  · intro asPromised later flag earlier before isBegun waiting
    rcases taken later flag earlier isBegun with ⟨other, otherWaiting, took⟩
    obtain rfl := waiting.unique otherWaiting
    exact (each waiting took).mp (asPromised later flag earlier isBegun)
  · intro harmless later flag earlier isBegun
    rcases taken later flag earlier isBegun with ⟨before, waiting, took⟩
    exact (each waiting took).mpr (harmless later flag earlier before isBegun waiting)

theorem asPromised_nil : AsPromised [] := by
  intro later flag earlier isBegun
  simp at isBegun

/-- Signs that tell of no resend neither keep nor break the promise. -/
theorem asPromised_cons_iff {sign : Sign} (quiet : ∀ flag, sign ≠ .begun flag)
    {earlier : List Sign} : AsPromised (sign :: earlier) ↔ AsPromised earlier := by
  constructor
  · exact fun asPromised later flag before isBegun =>
      asPromised (sign :: later) flag before (congrArg (sign :: ·) isBegun)
  · intro asPromised later flag before isBegun
    cases later with
    | nil => exact absurd (List.cons.inj isBegun).1 (quiet flag)
    | cons first later => exact asPromised later flag before (List.cons.inj isBegun).2

theorem asPromised_begun_iff {flag : Bool} {earlier : List Sign} :
    AsPromised (.begun flag :: earlier) ↔ flag = promised earlier ∧ AsPromised earlier := by
  constructor
  · exact fun asPromised => ⟨asPromised [] flag earlier rfl, fun later flag before isBegun =>
      asPromised (_ :: later) flag before (congrArg (_ :: ·) isBegun)⟩
  · rintro ⟨own, others⟩ later other before isBegun
    cases later with
    | nil =>
        cases isBegun
        exact own
    | cons first later => exact others later other before (List.cons.inj isBegun).2

/-- Whether the promise was kept can be told by looking at one sign after the other. -/
instance decidableAsPromised : (signs : List Sign) → Decidable (AsPromised signs)
  | [] => .isTrue asPromised_nil
  | .begun _ :: earlier =>
      have := decidableAsPromised earlier
      decidable_of_iff _ asPromised_begun_iff.symm
  | .handedOver :: earlier =>
      have := decidableAsPromised earlier
      decidable_of_iff (AsPromised earlier) (asPromised_cons_iff fun _ => Sign.noConfusion).symm
  | .resumed :: earlier =>
      have := decidableAsPromised earlier
      decidable_of_iff (AsPromised earlier) (asPromised_cons_iff fun _ => Sign.noConfusion).symm

theorem asTaken_nil : AsTaken [] := by
  intro later flag earlier isBegun
  simp at isBegun

/-- A sign other than the beginning of a resend keeps what was. -/
theorem AsTaken.cons {signs : List Sign} (taken : AsTaken signs) {sign : Sign}
    (other : ∀ flag, sign ≠ .begun flag) : AsTaken (sign :: signs) := by
  intro later flag earlier isBegun
  cases later with
  | nil =>
      rcases List.cons.inj isBegun with ⟨rfl, _⟩
      exact absurd rfl (other flag)
  | cons first later => exact taken later flag earlier (List.cons.inj isBegun).2

/-- So does a resend that begins as it was handed over. -/
theorem AsTaken.begun {signs before : List Sign} (taken : AsTaken signs)
    (waiting : IsWaiting before signs) {flag : Bool} (took : flag = outstanding before) :
    AsTaken (.begun flag :: signs) := by
  intro later other earlier isBegun
  cases later with
  | nil =>
      obtain ⟨same, rfl⟩ := List.cons.inj isBegun
      cases same
      exact ⟨before, waiting, took⟩
  | cons first later => exact taken later other earlier (List.cons.inj isBegun).2

end Sign

/-! ## Signs of a share -/

namespace Share

open Sign

/-- Whether a resend of the message has been handed over and has not completed. -/
def isPending (share : Share) : Bool :=
  share.candidate.any Candidate.pending

/-- The signs between two shares, newest first, given whether the sequence was resumed. -/
def signsUntil (before after : Share) (resumes : Bool) : List Sign :=
  (after.resends.take (after.resends.length - before.resends.length)).map
      (fun resend => .begun resend.job.requestAck) ++
    ((if !before.isPending && after.isPending then [.handedOver] else []) ++
      if resumes then [.resumed] else [])

/-- Between two shares the sequence was resumed exactly if the candidate, which has not
ended, left suspension. -/
def Resumes (before after : Share) (resumes : Bool) : Prop :=
  (before.candidate = none → resumes = false) ∧
    ∀ candidate later, before.candidate = some candidate → after.candidate = some later →
      later.ending = none → resumes = (candidate.suspended && !later.suspended)

/-- Where the request for an acknowledgment is: with the candidate, unless a resend that
waits has taken it along. -/
structure Owes (share : Share) (signs : List Sign) : Prop where
  blank : share.candidate = none → signs = []
  taken : AsTaken signs
  idle : ∀ candidate, share.candidate = some candidate → candidate.ending = none →
    (∀ job, .waiting job ∉ share.errands) → candidate.requestAck = outstanding signs
  waiting : ∀ candidate job, share.candidate = some candidate → candidate.ending = none →
    .waiting job ∈ share.errands →
    ∃ before, IsWaiting before signs ∧ job.requestAck = outstanding before ∧
      candidate.requestAck = waited signs

/-- A candidate that has ended owes nothing. -/
theorem owes_of_ended {share : Share} {signs : List Sign} {candidate : Candidate}
    (isCandidate : share.candidate = some candidate) (ended : candidate.ending ≠ none)
    (taken : AsTaken signs) : share.Owes signs where
  blank := fun absent => by cases absent.symm.trans isCandidate
  taken := taken
  idle := by
    intro other isOther active
    obtain rfl := Option.some.inj (isCandidate.symm.trans isOther)
    exact absurd active ended
  waiting := by
    intro other job isOther active
    obtain rfl := Option.some.inj (isCandidate.symm.trans isOther)
    exact absurd active ended

/-- A message for which no resend waits. -/
theorem owes_of_idle {candidate : Candidate} {errands : Multiset Errand}
    {resends : List Resend} {signs : List Sign} (taken : AsTaken signs)
    (noneWaits : ∀ job, .waiting job ∉ errands)
    (keeps : candidate.requestAck = outstanding signs) :
    Owes ⟨some candidate, errands, resends⟩ signs where
  blank := nofun
  taken := taken
  idle := by
    rintro _ ⟨⟩ _ _
    exact keeps
  waiting := fun _ job _ _ waits => absurd waits (noneWaits job)

/-- A message for which one resend waits. -/
theorem owes_of_waiting {candidate : Candidate} {job : Job} {resends : List Resend}
    {signs before : List Sign} (taken : AsTaken signs) (waiting : IsWaiting before signs)
    (took : job.requestAck = outstanding before) (keeps : candidate.requestAck = waited signs) :
    Owes ⟨some candidate, {.waiting job}, resends⟩ signs where
  blank := nofun
  taken := taken
  idle := by
    rintro _ ⟨⟩ _ noneWaits
    exact absurd (Multiset.mem_singleton_self _) (noneWaits job)
  waiting := by
    rintro _ other ⟨⟩ _ waits
    rcases Multiset.mem_singleton.mp waits with ⟨⟩
    exact ⟨before, waiting, took, keeps⟩

/-- The resends that begin are those that come in front. -/
theorem signsUntil_eq {before after : Share} {new : List Resend}
    (grown : after.resends = new ++ before.resends) (resumes : Bool) :
    before.signsUntil after resumes =
      new.map (fun resend => .begun resend.job.requestAck) ++
        ((if !before.isPending && after.isPending then [.handedOver] else []) ++
          if resumes then [.resumed] else []) := by
  rw [signsUntil, grown, List.length_append, Nat.add_sub_cancel, List.take_left]

/-- The resends and whether one is pending do not change. -/
theorem signsUntil_of_same {before after : Share} (sameResends : after.resends = before.resends)
    (notHanded : before.isPending = true ∨ after.isPending = false) (resumes : Bool) :
    before.signsUntil after resumes = if resumes then [.resumed] else [] := by
  rw [signsUntil_eq (sameResends.trans (List.nil_append _).symm)]
  rcases notHanded with pending | idle
  · simp [pending]
  · simp [idle]

/-- A resend begins. -/
theorem signsUntil_of_begun {candidate later : Candidate} {errands rest : Multiset Errand}
    {resend : Resend} {resends : List Resend} (pending : candidate.pending = true) :
    signsUntil ⟨some candidate, errands, resends⟩ ⟨some later, rest, resend :: resends⟩ false =
      [.begun resend.job.requestAck] := by
  rw [signsUntil_eq List.singleton_append.symm]
  simp [isPending, pending]

/-- A resend is handed over. -/
theorem signsUntil_of_handedOver {candidate later : Candidate} {errands rest : Multiset Errand}
    {resends : List Resend} (idle : candidate.pending = false) (pending : later.pending = true) :
    signsUntil ⟨some candidate, errands, resends⟩ ⟨some later, rest, resends⟩ false =
      [.handedOver] := by
  simp [signsUntil, isPending, idle, pending]

/-- Nothing happens to a message that can be seen, except that its sequence may be
resumed while the message has ended. -/
theorem Owes.still {before after : Share} {signs : List Sign} (owes : before.Owes signs)
    {resumes : Bool} (resumed : before.Resumes after resumes)
    {candidate later : Candidate} (isCandidate : before.candidate = some candidate)
    (isLater : after.candidate = some later) (sameResends : after.resends = before.resends)
    (notHanded : before.isPending = true ∨ after.isPending = false)
    (active : later.ending = none → candidate.suspended = false ∨ later.suspended = true)
    (rest : later.ending = none → after.Owes signs) :
    after.Owes (before.signsUntil after resumes ++ signs) := by
  rw [signsUntil_of_same sameResends notHanded]
  cases ended : later.ending with
  | none =>
      have none : resumes = false := by
        rw [resumed.2 candidate later isCandidate isLater ended]
        rcases active ended with unsuspended | suspended
        · rw [unsuspended, Bool.false_and]
        · rw [suspended, Bool.not_true, Bool.and_false]
      rw [none]
      exact rest ended
  | some ending =>
      apply owes_of_ended isLater (by simp [ended])
      cases resumes with
      | true => exact owes.taken.cons nofun
      | false => exact owes.taken

/-- The account of a change of the candidate that leaves its request where it is. -/
theorem Owes.change {candidate changed : Candidate} {errands : Multiset Errand}
    {resends : List Resend} {signs : List Sign}
    (owes : Owes ⟨some candidate, errands, resends⟩ signs)
    (sameEnding : changed.ending = candidate.ending)
    (sameRequest : changed.requestAck = candidate.requestAck) :
    Owes ⟨some changed, errands, resends⟩ signs where
  blank := nofun
  taken := owes.taken
  idle := by
    rintro _ ⟨⟩ active
    rw [sameRequest]
    exact owes.idle candidate rfl (sameEnding ▸ active)
  waiting := by
    rintro _ job ⟨⟩ active
    rw [sameRequest]
    exact owes.waiting candidate job rfl (sameEnding ▸ active)

/-- A resumption gives the candidate a request, whether or not a resend waits. -/
theorem Owes.resume {candidate changed : Candidate} {errands : Multiset Errand}
    {resends : List Resend} {signs : List Sign}
    (owes : Owes ⟨some candidate, errands, resends⟩ signs)
    (sameEnding : changed.ending = candidate.ending) (asks : changed.requestAck = true) :
    Owes ⟨some changed, errands, resends⟩ (.resumed :: signs) where
  blank := nofun
  taken := owes.taken.cons nofun
  idle := by
    rintro _ ⟨⟩ _ _
    exact asks
  waiting := by
    rintro _ job ⟨⟩ active waits
    obtain ⟨before, waiting, took, _⟩ :=
      owes.waiting candidate job rfl (sameEnding ▸ active) waits
    exact ⟨before, waiting.resumed, took, asks⟩

/-- The account of a resend that begins, whether or not it completes at once. -/
theorem Owes.begun {now : Nat} {candidate later : Candidate} {job : Job}
    {errands rest : Multiset Errand} {resends : List Resend} {signs : List Sign}
    (owes : Owes ⟨some candidate, .waiting job ::ₘ errands, resends⟩ signs)
    (may : candidate.maySend = true) {resumes : Bool}
    (resumed : Resumes ⟨some candidate, .waiting job ::ₘ errands, resends⟩
      ⟨some later, rest, { instant := now, job } :: resends⟩ resumes)
    (noneWaits : ∀ other, .waiting other ∉ rest) (sameEnding : later.ending = candidate.ending)
    (sameRequest : later.requestAck = candidate.requestAck) :
    Owes ⟨some later, rest, { instant := now, job } :: resends⟩
      (signsUntil ⟨some candidate, .waiting job ::ₘ errands, resends⟩
        ⟨some later, rest, { instant := now, job } :: resends⟩ resumes ++ signs) := by
  rcases Candidate.maySend_eq_true_iff.mp may with ⟨pending, unsuspended, active, _⟩
  obtain ⟨earlier, waiting, took, keeps⟩ :=
    owes.waiting candidate job rfl active (Multiset.mem_cons_self _ _)
  have none : resumes = false := by
    rw [resumed.2 candidate later rfl rfl (sameEnding.trans active), unsuspended, Bool.false_and]
  rw [none, signsUntil_of_begun pending]
  exact owes_of_idle (owes.taken.begun waiting took) noneWaits (sameRequest.trans keeps)

/-- Every step of an activity keeps the account of the request. -/
theorem Owes.step {now : Nat} {before after : Share} {signs : List Sign}
    (owes : before.Owes signs) (sound : before.Sound) (step : Step now before after)
    {resumes : Bool} (resumed : before.Resumes after resumes) :
    after.Owes (before.signsUntil after resumes ++ signs) := by
  cases step with
  | quiet =>
      cases isCandidate : before.candidate with
      | none =>
          rw [signsUntil_of_same rfl (Bool.eq_false_or_eq_true _), resumed.1 isCandidate]
          exact owes
      | some candidate =>
          refine owes.still resumed isCandidate isCandidate rfl (Bool.eq_false_or_eq_true _) ?_
            fun _ => owes
          exact fun _ => (Bool.eq_false_or_eq_true _).symm
  | @handOver identity candidate message errands resends free held =>
      rcases Candidate.isFree_eq_true_iff.mp free with ⟨idle, unsuspended, active, _⟩
      have counted := sound.single candidate rfl active
      rw [idle] at counted
      have noErrand : errands = 0 := Multiset.card_eq_zero.mp counted
      subst noErrand
      have none : resumes = false := by
        rw [resumed.2 candidate _ rfl rfl active, unsuspended, Bool.false_and]
      rw [none, signsUntil_of_handedOver idle rfl]
      refine owes_of_waiting (owes.taken.cons nofun) .handedOver ?_ rfl
      exact owes.idle candidate rfl active fun _ => Multiset.notMem_zero _
  | @begin job candidate errands resends may =>
      obtain ⟨_, _, active, _⟩ := Candidate.maySend_eq_true_iff.mp may
      have noErrand : errands = 0 := Multiset.card_eq_zero.mp (sound.card_rest active)
      subst noErrand
      refine owes.begun may resumed ?_ rfl rfl
      intro other waits
      cases Multiset.mem_singleton.mp waits
  | @deliver job candidate errands resends may =>
      rcases Candidate.maySend_eq_true_iff.mp may with ⟨_, _, active, _⟩
      have noErrand : errands = 0 := Multiset.card_eq_zero.mp (sound.card_rest active)
      subst noErrand
      rcases candidate.completed_eq now with ⟨_, _, _, _, _, completed⟩
      refine owes.begun may resumed (fun _ => Multiset.notMem_zero _) ?_ ?_
      · rw [completed]
      · rw [completed]
  | @conclude job candidate errands resends =>
      cases candidate with
      | none => exact absurd (sound.vacant rfl) Multiset.cons_ne_zero
      | some candidate =>
          rcases candidate.completed_eq now with ⟨_, _, _, _, _, completed⟩
          have sameEnding : (candidate.completed now).ending = candidate.ending := by
            rw [completed]
          refine owes.still resumed rfl rfl rfl (.inr ?_) ?_ fun active => ?_
          · simp only [isPending, Option.map_some, Option.any_some, completed]
          · rw [completed]
            exact fun _ => (Bool.eq_false_or_eq_true _).symm
          · have noErrand : errands = 0 :=
              Multiset.card_eq_zero.mp (sound.card_rest (sameEnding ▸ active))
            subst noErrand
            apply owes_of_idle owes.taken (fun _ => Multiset.notMem_zero _)
            rw [completed]
            apply owes.idle candidate rfl (sameEnding ▸ active)
            intro other waits
            cases Multiset.mem_singleton.mp waits
  | @skip job candidate errands resends refused =>
      cases candidate with
      | none => exact absurd (sound.vacant rfl) Multiset.cons_ne_zero
      | some candidate =>
          refine owes.still resumed rfl rfl rfl (.inr rfl) ?_ fun active => ?_
          · exact fun _ => (Bool.eq_false_or_eq_true _).symm
          · obtain ⟨earlier, waiting, took, keeps⟩ :=
              owes.waiting candidate job rfl active (Multiset.mem_cons_self _ _)
            have noErrand : errands = 0 := Multiset.card_eq_zero.mp (sound.card_rest active)
            subst noErrand
            -- the request that the job took comes back, beside one from a resumption
            apply owes_of_idle owes.taken (fun _ => Multiset.notMem_zero _)
            rw [waiting.outstanding_eq, ← took, ← keeps]
            rfl
  | @finish ending candidate errands resends =>
      have ended := (Candidate.sound_finished ending candidate).kept.mp rfl
      exact owes.still resumed rfl rfl rfl (.inr rfl) (fun active => absurd active ended)
        fun active => absurd active ended

/-- The account of a candidate that is woken: one that was suspended and has not ended
gets a request. -/
theorem Owes.wake {now : Nat} {candidate : Candidate} {errands : Multiset Errand}
    {resends : List Resend} {signs : List Sign}
    (owes : Owes ⟨some candidate, errands, resends⟩ signs) {resumes : Bool}
    (resumed : Resumes ⟨some candidate, errands, resends⟩
      ⟨some (candidate.woken now), errands, resends⟩ resumes) :
    Owes ⟨some (candidate.woken now), errands, resends⟩
      (signsUntil ⟨some candidate, errands, resends⟩
        ⟨some (candidate.woken now), errands, resends⟩ resumes ++ signs) := by
  obtain ⟨_, _, woken⟩ := candidate.woken_eq now
  have sameEnding : (candidate.woken now).ending = candidate.ending := by rw [woken]
  have samePending : (candidate.woken now).pending = candidate.pending := by rw [woken]
  have unsuspended : (candidate.woken now).suspended = false := by rw [woken]
  have notHanded : isPending ⟨some candidate, errands, resends⟩ = true ∨
      isPending ⟨some (candidate.woken now), errands, resends⟩ = false := by
    simp only [isPending, Option.any_some, samePending]
    exact Bool.eq_false_or_eq_true _
  cases suspended : candidate.suspended with
  | false =>
      have same : candidate.woken now = candidate := by
        simp [Candidate.woken, suspended]
      refine owes.still resumed rfl rfl rfl notHanded (fun _ => .inl suspended) fun _ => ?_
      exact owes.change sameEnding (by rw [same])
  | true =>
      rw [signsUntil_of_same (by rfl) notHanded]
      cases ended : candidate.ending with
      | some ending =>
          apply owes_of_ended rfl (by simp [sameEnding, ended])
          cases resumes with
          | true => exact owes.taken.cons nofun
          | false => exact owes.taken
      | none =>
          have isResumed : resumes = true := by
            rw [resumed.2 candidate _ rfl rfl (sameEnding.trans ended), suspended, unsuspended]
            rfl
          rw [isResumed]
          exact owes.resume sameEnding (Candidate.requestAck_woken suspended now)

/-- Every turn keeps the account of the request. -/
theorem Owes.turn {now : Nat} {before after : Share} {signs : List Sign}
    (owes : before.Owes signs) (sound : before.Sound) (turn : Turn now before after)
    {resumes : Bool} (resumed : before.Resumes after resumes) :
    after.Owes (before.signsUntil after resumes ++ signs) := by
  cases turn with
  | step step => exact owes.step sound step resumed
  | wake => exact owes.wake resumed
  | @enroll routing suspended message errands resends =>
      have noErrand : errands = 0 := sound.vacant rfl
      have noSign : signs = [] := owes.blank rfl
      subst noErrand noSign
      have news : signsUntil ⟨none, 0, resends⟩
          ⟨some (Candidate.register now routing suspended message), 0, resends⟩ resumes = [] := by
        rw [signsUntil_of_same (by rfl) (.inr (by rfl)), resumed.1 rfl]
        rfl
      rw [news]
      exact owes_of_idle asTaken_nil (fun _ => Multiset.notMem_zero _) rfl
  | @suspend candidate errands resends =>
      rcases candidate.paused_eq with ⟨suspended, paused, isPaused⟩
      have sameEnding : candidate.paused.ending = candidate.ending := by rw [paused]
      have samePending : candidate.paused.pending = candidate.pending := by rw [paused]
      refine owes.still resumed rfl rfl rfl ?_ ?_ ?_
      · simp only [isPending, Option.any_some, samePending]
        exact Bool.eq_false_or_eq_true _
      · intro active
        rw [paused]
        exact .inr (isPaused (sameEnding ▸ active))
      · exact fun _ => owes.change sameEnding (by rw [paused])

end Share

/-! ## Signs of a run -/

/-- Whether a move resumes a sequence. -/
def Move.resumes (sequence : SequenceKey) : Move → Bool
  | .command (.resume other) => decide (other = sequence)
  | _ => false

theorem Move.resumes_eq_true_iff {move : Move} {sequence : SequenceKey} :
    move.resumes sequence = true ↔ move = .command (.resume sequence) := by
  unfold resumes
  split
  · simp
  · next other =>
      constructor
      · exact nofun
      · rintro rfl
        exact absurd rfl (other sequence)

namespace Service

/-- Whether a resend of a message has been handed over and has not completed. -/
def isPending (service : Service) (identity : Nat) : Bool :=
  (service.world.candidate? identity).any Candidate.pending

/-- Whether a move resumes the sequence of a message, which is suspended. -/
def isResumed (service : Service) (move : Move) (identity : Nat) : Bool :=
  (service.world.candidate? identity).any fun candidate =>
    move.resumes candidate.sequence && service.world.isSuspended candidate.sequence

/-- The signs of a message with which a move leads from one service to another, newest
first. -/
def signsUntil (before after : Service) (move : Move) (identity : Nat) : List Sign :=
  ((before.resendsUntil after).filter fun resend =>
      resend.job.candidate = identity).reverse.map (fun resend => .begun resend.job.requestAck) ++
    ((if !before.isPending identity && after.isPending identity then [.handedOver] else []) ++
      if before.isResumed move identity then [.resumed] else [])

/-- Make moves one after the other, and note the signs of a message. -/
def watch (identity : Nat) : List Move → Service × List Sign → Option (Service × List Sign)
  | [], seen => some seen
  | move :: rest, (service, signs) =>
      (service.move? move).bind fun after =>
        watch identity rest (after, service.signsUntil after move identity ++ signs)

/-- Watching a message does not change the run. -/
theorem follow_of_watch {identity : Nat} {moves : List Move} {first last : Service}
    {signs all : List Sign} (watched : watch identity moves (first, signs) = some (last, all)) :
    follow moves first = some last := by
  induction moves generalizing first signs with
  | nil =>
      cases watched
      rfl
  | cons move rest inductionHypothesis =>
      rcases Option.bind_eq_some_iff.mp watched with ⟨after, moved, further⟩
      exact Option.bind_eq_some_iff.mpr ⟨after, moved, inductionHypothesis further⟩

/-- Every run can be watched. -/
theorem exists_watch {identity : Nat} {moves : List Move} {first last : Service}
    (followed : follow moves first = some last) (signs : List Sign) :
    ∃ all, watch identity moves (first, signs) = some (last, all) := by
  induction moves generalizing first signs with
  | nil =>
      cases followed
      exact ⟨signs, rfl⟩
  | cons move rest inductionHypothesis =>
      rcases Option.bind_eq_some_iff.mp followed with ⟨after, moved, further⟩
      obtain ⟨all, watched⟩ := inductionHypothesis further
        (first.signsUntil after move identity ++ signs)
      exact ⟨all, Option.bind_eq_some_iff.mpr ⟨after, moved, watched⟩⟩

theorem isPending_eq_share (service : Service) (identity : Nat) :
    service.isPending identity = (service.outline.share identity).isPending := by
  change (service.world.candidate? identity).any Candidate.pending =
    (service.world.outline.candidates[identity]?).any Candidate.pending
  rw [Registry.getElem?_outline, Option.any_map]
  rfl

/-- The signs of a message are those of its share. -/
theorem signsUntil_eq_share {before after : Service} {move : Move} (tidy : before.AllTidy)
    (moved : before.move? move = some after) (identity : Nat) :
    before.signsUntil after move identity = (before.outline.share identity).signsUntil
      (after.outline.share identity) (before.isResumed move identity) := by
  obtain ⟨⟨new, grown⟩, _⟩ := turn_move tidy moved
  have begun : ((before.resendsUntil after).filter fun resend =>
      resend.job.candidate = identity).reverse =
        new.filter fun resend => resend.job.candidate = identity := by
    rw [resendsUntil, Journal.resendsSince, ← grown]
    simp
  have split : (after.outline.share identity).resends =
      (new.filter fun resend => resend.job.candidate = identity) ++
        (before.outline.share identity).resends := by
    change after.world.journal.resends.filter _ = _ ++ before.world.journal.resends.filter _
    rw [← grown, List.filter_append]
  rw [Share.signsUntil_eq split, signsUntil, begun, isPending_eq_share, isPending_eq_share]

/-- Resuming its suspended sequence is what takes a candidate out of suspension. -/
theorem resumes_share {before after : Service} {move : Move} (sound : before.Sound)
    (moved : before.move? move = some after) (identity : Nat) :
    (before.outline.share identity).Resumes (after.outline.share identity)
      (before.isResumed move identity) := by
  have afterSound := sound.move moved
  have turn := (turn_move sound.tidy moved).2.2 identity
  constructor
  · intro absent
    have none : before.world.candidate? identity = none :=
      Option.map_eq_none_iff.mp ((before.world.getElem?_outline identity).symm.trans absent)
    rw [isResumed, none, Option.any_none]
  · intro untimed later isUntimed isLater active
    obtain ⟨candidate, found, rfl⟩ : ∃ candidate, before.world.candidate? identity =
        some candidate ∧ candidate.untimed = untimed :=
      Option.map_eq_some_iff.mp ((before.world.getElem?_outline identity).symm.trans isUntimed)
    have wasActive : candidate.ending = none := by
      by_contra ended
      rcases turn.ended isUntimed ended with ⟨other, isOther, isEnded⟩
      obtain rfl := Option.some.inj (isLater.symm.trans isOther)
      exact isEnded active
    have sameSequence : later.sequence = candidate.untimed.sequence :=
      turn.sequence isUntimed isLater
    rcases sound.listed.present identity _ isUntimed wasActive with ⟨listed, wasSuspended⟩
    have isSuspended := (afterSound.listed.present identity _ isLater active).2
    rw [sameSequence] at isSuspended
    rw [isResumed, found, Option.any_some, isSuspended, wasSuspended]
    change (_ && before.world.roster.isSuspended candidate.sequence) =
      (before.world.roster.isSuspended candidate.sequence && _)
    cases suspended : before.world.roster.isSuspended candidate.sequence with
    | false => rw [Bool.and_false, Bool.false_and]
    | true =>
        rw [Bool.and_true, Bool.true_and]
        cases resumes : move.resumes candidate.sequence with
        | true =>
            obtain rfl := Move.resumes_eq_true_iff.mp resumes
            obtain rfl := eq_carryOut moved
            rw [outline_resume, if_pos suspended]
            exact (congrArg not (Roster.isSuspended_resume _ _)).symm
        | false =>
            have stays := isSuspended_move sound suspended moved
              (fun isResume => by
                rw [Move.resumes_eq_true_iff.mpr isResume] at resumes
                cases resumes)
              (fun isPurge => by
                have ends : before.Ends identity move := isPurge ▸ .purgeAll listed
                rcases hasEnded_of_ends sound ends moved with ⟨other, isOther, isEnded⟩
                obtain rfl := Option.some.inj (isLater.symm.trans isOther)
                exact isEnded active)
            exact (congrArg not stays).symm

/-- Watching a message keeps the account of its request. -/
theorem owes_watch {identity : Nat} {moves : List Move} {first last : Service}
    {signs all : List Sign} (sound : first.Sound)
    (owes : (first.outline.share identity).Owes signs)
    (watched : watch identity moves (first, signs) = some (last, all)) :
    (last.outline.share identity).Owes all := by
  induction moves generalizing first signs with
  | nil =>
      cases watched
      exact owes
  | cons move rest inductionHypothesis =>
      obtain ⟨after, moved, further⟩ := Option.bind_eq_some_iff.mp watched
      refine inductionHypothesis (sound.move moved) ?_ further
      rw [signsUntil_eq_share sound.tidy moved]
      exact owes.turn (sound.share identity) ((turn_move sound.tidy moved).2.2 identity)
        (resumes_share sound moved identity)

/-- Each resend asks for an acknowledgment exactly if there was a request when it was
handed over.  So the first resend of a message and the first one after each resumption
ask, and no other one does, exactly if no resend misses a request while it waits: one
that waits through a resumption has taken an earlier request along, and one that does not
wait so does not follow one that did, unless the sequence was resumed since. -/
theorem requests_as_promised_iff {first last : Service} {moves : List Move} {identity : Nat}
    {signs : List Sign} (initial : first.IsInitial)
    (watched : watch identity moves (first, []) = some (last, signs)) :
    Sign.AsTaken signs ∧ (Sign.AsPromised signs ↔ Sign.IsHarmless signs) := by
  have absent : (first.outline.share identity).candidate = none := by
    rw [outline_of_isInitial initial]
    rfl
  have owes : (first.outline.share identity).Owes [] :=
    { blank := fun _ => rfl
      taken := Sign.asTaken_nil
      idle := fun _ found => by cases absent.symm.trans found
      waiting := fun _ _ found => by cases absent.symm.trans found }
  have taken := (owes_watch initial.sound owes watched).taken
  exact ⟨taken, taken.asPromised_iff⟩

end Service

namespace Sample

/-- A message is resent once, and again while another message holds the only permit.  The
second resend waits while the sequence is suspended and resumed, and begins after that. -/
def waitingThroughResumption : List Move :=
  List.flatten
    [[.command (.setExecutors [("o", some 1)]),
        .command (.prepare (sequence, 1) [{ takes := 5, failure := none }]),
        .command (.add (message 1 (some "o"))), .command (.add (message 2 (some "o"))),
        .command (.request none (.attempt sequence 2))],
      List.replicate 8 (.step 0), [.command (.request none (.attempt sequence 1))],
      List.replicate 6 (.step 0), [.command (.request none (.attempt sequence 2))],
      List.replicate 5 (.step 0),
      [.command (.suspend sequence), .command (.resume sequence), .wait 1000000, .rouse 0 0],
      List.replicate 4 (.step 0)]

/-- After that both messages are resent once more. -/
def resentAfterResumption : List Move :=
  waitingThroughResumption ++ List.flatten
    [List.replicate 2 (.step 0), [.command (.request none (.attempt sequence 2))],
      List.replicate 8 (.step 0), [.command (.request none (.attempt sequence 1))],
      List.replicate 6 (.step 0)]

end Sample

namespace Service

/-- Of two messages whose sequence is suspended and resumed, the first one keeps the promise: it
asks once more after the resumption.  The other one misses a request while it waits, and makes up
for it with the resend after that. -/
theorem requests_as_promised_iff_of_resumption :
    ∃ last signs others,
      Run (Sample.service .byHand) Sample.resentAfterResumption last ∧
      watch 0 Sample.resentAfterResumption (Sample.service .byHand, []) = some (last, signs) ∧
      watch 1 Sample.resentAfterResumption (Sample.service .byHand, []) = some (last, others) ∧
      signs = [.begun true, .handedOver, .resumed, .begun true, .handedOver] ∧
      others = [.begun true, .handedOver, .begun false, .resumed, .handedOver, .begun true,
        .handedOver] ∧
      (Sign.AsTaken signs ∧ Sign.AsPromised signs ∧ Sign.IsHarmless signs) ∧
      Sign.AsTaken others ∧ ¬ Sign.AsPromised others ∧ ¬ Sign.IsHarmless others := by
  have seen : (watch 0 Sample.resentAfterResumption (Sample.service .byHand, [])).map Prod.snd =
      some [.begun true, .handedOver, .resumed, .begun true, .handedOver] := by decide +kernel
  have otherSeen :
      (watch 1 Sample.resentAfterResumption (Sample.service .byHand, [])).map Prod.snd =
        some [.begun true, .handedOver, .begun false, .resumed, .handedOver, .begun true,
          .handedOver] := by decide +kernel
  obtain ⟨⟨last, signs⟩, watched, rfl⟩ := Option.map_eq_some_iff.mp seen
  obtain ⟨⟨otherLast, others⟩, otherWatched, rfl⟩ := Option.map_eq_some_iff.mp otherSeen
  have followed := follow_of_watch watched
  obtain rfl := Option.some.inj (followed.symm.trans (follow_of_watch otherWatched))
  have initial := Sample.isInitial_service .byHand
  obtain ⟨taken, promised⟩ := requests_as_promised_iff initial watched
  obtain ⟨otherTaken, otherPromised⟩ := requests_as_promised_iff initial otherWatched
  have kept : Sign.AsPromised [.begun true, .handedOver, .resumed, .begun true, .handedOver] := by
    decide
  have broken : ¬ Sign.AsPromised [.begun true, .handedOver, .begun false, .resumed, .handedOver,
      .begun true, .handedOver] := by decide
  exact ⟨last, _, _, .of_follow followed, watched, otherWatched, rfl, rfl,
    ⟨taken, kept, promised.mp kept⟩, otherTaken, broken, mt otherPromised.mpr broken⟩

/-- The first resend after a resumption need not ask for an acknowledgment. -/
theorem not_always_as_promised :
    ¬ ∀ (first last : Service) (moves : List Move) (identity : Nat) (signs : List Sign),
      first.IsInitial → watch identity moves (first, []) = some (last, signs) →
      Sign.AsPromised signs := by
  intro always
  have seen : (watch 1 Sample.waitingThroughResumption (Sample.service .byHand, [])).map Prod.snd =
      some [.begun false, .resumed, .handedOver, .begun true, .handedOver] := by decide +kernel
  rcases Option.map_eq_some_iff.mp seen with ⟨⟨last, signs⟩, watched, isSigns⟩
  have asPromised := always (Sample.service .byHand) last Sample.waitingThroughResumption 1 signs
    (Sample.isInitial_service .byHand) watched
  have asks : false = Sign.promised [.resumed, .handedOver, .begun true, .handedOver] :=
    asPromised [] false _ isSigns
  cases asks

end Service

end Redelivery
