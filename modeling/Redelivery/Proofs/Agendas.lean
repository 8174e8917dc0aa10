import Mathlib.Data.List.Nodup
import Redelivery.Schedule.Agenda

/-!
# Agendas

Tasks join an agenda with a ticket of their own and leave it when they are cancelled or taken
out.  A ticket that was given out is never given out again, the task that is taken out is the
first one, and the tasks that stay keep their order.
-/

namespace Redelivery.Schedule

variable {α : Type}

/-- The task has precedence over another one: it is due earlier, or at the same time and was
accepted earlier. -/
def Entry.Precedes (entry other : Entry α) : Prop :=
  entry.due < other.due ∨ entry.due = other.due ∧ entry.ticket < other.ticket

namespace Agenda

/-- An agenda that has given out each ticket once. -/
structure Sound (agenda : Agenda α) : Prop where
  issued : ∀ entry ∈ agenda.entries, entry.ticket < agenda.nextTicket
  distinct : (agenda.entries.map Entry.ticket).Nodup

theorem Sound.eq_of_ticket {agenda : Agenda α} (sound : agenda.Sound) {entry other : Entry α}
    (present : entry ∈ agenda.entries) (otherPresent : other ∈ agenda.entries)
    (same : entry.ticket = other.ticket) : entry = other :=
  List.inj_on_of_nodup_map sound.distinct present otherPresent same

/-- What a ticket leads to bears it. -/
theorem ticket_of_find? {agenda : Agenda α} {entry : Entry α} {ticket : Nat}
    (found : agenda.find? ticket = some entry) : entry.ticket = ticket := by
  simpa using List.find?_some (show agenda.entries.find? (fun entry => entry.ticket = ticket) =
    some entry from found)

/-- A ticket leads to its task. -/
theorem Sound.find?_eq_some_iff {agenda : Agenda α} (sound : agenda.Sound) {entry : Entry α}
    {ticket : Nat} :
    agenda.find? ticket = some entry ↔ entry ∈ agenda.entries ∧ entry.ticket = ticket := by
  constructor
  · intro found
    exact ⟨List.mem_of_find?_eq_some found, ticket_of_find? found⟩
  · rintro ⟨present, rfl⟩
    cases found : agenda.find? entry.ticket with
    | none => simpa using List.find?_eq_none.mp found entry present
    | some other =>
        rw [sound.eq_of_ticket (List.mem_of_find?_eq_some found) present (ticket_of_find? found)]

theorem mem_cancel_iff {agenda : Agenda α} {entry : Entry α} {ticket : Nat} :
    entry ∈ (agenda.cancel ticket).entries ↔ entry ∈ agenda.entries ∧ entry.ticket ≠ ticket := by
  simp [cancel]

/-- Between two agendas tasks were only taken off. -/
structure Shrinks (before after : Agenda α) : Prop where
  fewer : after.entries.Sublist before.entries
  sameTickets : after.nextTicket = before.nextTicket
  sameClosed : after.closed = before.closed

theorem Shrinks.refl (agenda : Agenda α) : agenda.Shrinks agenda :=
  ⟨List.Sublist.refl _, rfl, rfl⟩

theorem shrinks_cancel (agenda : Agenda α) (ticket : Nat) :
    agenda.Shrinks (agenda.cancel ticket) :=
  ⟨List.filter_sublist, rfl, rfl⟩

/-- Taking tasks off keeps an agenda sound. -/
theorem Shrinks.sound {before after : Agenda α} (shrinks : before.Shrinks after)
    (sound : before.Sound) : after.Sound where
  issued := fun entry present =>
    shrinks.sameTickets ▸ sound.issued entry (shrinks.fewer.subset present)
  distinct := sound.distinct.sublist (shrinks.fewer.map Entry.ticket)

theorem Shrinks.trans {first second third : Agenda α} (earlier : first.Shrinks second)
    (later : second.Shrinks third) : first.Shrinks third :=
  ⟨later.fewer.trans earlier.fewer, later.sameTickets.trans earlier.sameTickets,
    later.sameClosed.trans earlier.sameClosed⟩

/-! ## Accepting a task -/

theorem place_perm (entry : Entry α) (entries : List (Entry α)) :
    (place entry entries).Perm (entry :: entries) := by
  induction entries with
  | nil => exact .refl _
  | cons next rest inductionHypothesis =>
      simp only [place]
      split
      · exact (inductionHypothesis.cons next).trans (.swap entry next rest)
      · exact .refl _

/-- A task that is accepted gets the next ticket. -/
theorem schedule_eq_ok {agenda placed : Agenda α} {due ticket : Nat} {task : α}
    (accepted : agenda.schedule due task = .ok (ticket, placed)) :
    agenda.closed = false ∧ ticket = agenda.nextTicket ∧
      placed = { agenda with
        entries := place ⟨due, ticket, task⟩ agenda.entries, nextTicket := ticket + 1 } := by
  unfold schedule at accepted
  cases closed : agenda.closed with
  | true => simp [closed] at accepted
  | false =>
      simp only [closed, Bool.false_eq_true, if_false, Except.ok.injEq, Prod.mk.injEq] at accepted
      rcases accepted with ⟨rfl, rfl⟩
      exact ⟨rfl, rfl, rfl⟩

theorem Sound.schedule {agenda placed : Agenda α} (sound : agenda.Sound) {due ticket : Nat}
    {task : α} (accepted : agenda.schedule due task = .ok (ticket, placed)) : placed.Sound := by
  rcases schedule_eq_ok accepted with ⟨_, rfl, rfl⟩
  have perm := place_perm ⟨due, agenda.nextTicket, task⟩ agenda.entries
  constructor
  · intro entry present
    rcases List.mem_cons.mp (perm.subset present) with rfl | old
    · exact Nat.lt_succ_self _
    · exact Nat.lt_succ_of_lt (sound.issued entry old)
  · refine (perm.map Entry.ticket).nodup_iff.mpr (List.nodup_cons.mpr ⟨?_, sound.distinct⟩)
    intro present
    rcases List.mem_map.mp present with ⟨entry, old, sameTicket⟩
    exact absurd (sound.issued entry old) (sameTicket ▸ Nat.lt_irrefl _)

/-- Only a closed agenda refuses a task. -/
theorem schedule_eq_error {agenda : Agenda α} {due : Nat} {task : α} {refusal : Refusal}
    (refused : agenda.schedule due task = .error refusal) : agenda.closed = true := by
  unfold schedule at refused
  cases closed : agenda.closed with
  | true => rfl
  | false => simp [closed] at refused

theorem closed_schedule {agenda placed : Agenda α} {due ticket : Nat} {task : α}
    (accepted : agenda.schedule due task = .ok (ticket, placed)) :
    placed.closed = agenda.closed := by
  rcases schedule_eq_ok accepted with ⟨_, rfl, rfl⟩
  rfl

/-! ## Taking out a task -/

/-- What is taken out when it is due is the first task. -/
theorem takeDue?_eq_some {agenda rest : Agenda α} {upTo : Nat} {entry : Entry α}
    (taken : agenda.takeDue? upTo = some (entry, rest)) :
    agenda.entries = entry :: rest.entries ∧ rest.nextTicket = agenda.nextTicket ∧
      rest.closed = agenda.closed := by
  unfold takeDue? at taken
  split at taken
  · cases taken
  · next entries =>
      split at taken
      · cases taken
        exact ⟨entries, rfl, rfl⟩
      · cases taken

theorem due_le_of_takeDue {agenda rest : Agenda α} {entry : Entry α} {upTo : Nat}
    (taken : agenda.takeDue? upTo = some (entry, rest)) : entry.due ≤ upTo := by
  unfold takeDue? at taken
  split at taken
  · cases taken
  · split at taken
    · next isDue =>
        cases taken
        exact isDue
    · cases taken

/-- By another instant the same task is taken out, if it is due by then. -/
theorem takeDue?_of_some {agenda rest : Agenda α} {entry : Entry α} {upTo : Nat}
    (taken : agenda.takeDue? upTo = some (entry, rest)) (other : Nat) :
    agenda.takeDue? other = if entry.due ≤ other then some (entry, rest) else none := by
  unfold takeDue? at taken ⊢
  split at taken
  · cases taken
  · split at taken
    · cases taken
      rfl
    · cases taken

/-- If no task is taken out by an instant, none is by an earlier one. -/
theorem takeDue?_of_none {agenda : Agenda α} {upTo : Nat} (rest : agenda.takeDue? upTo = none)
    {sooner : Nat} (inOrder : sooner ≤ upTo) : agenda.takeDue? sooner = none := by
  unfold takeDue? at rest ⊢
  split at rest
  · rfl
  · split at rest
    · cases rest
    · next later => exact if_neg fun isDue => later (Nat.le_trans isDue inOrder)

theorem shrinks_takeDue {agenda rest : Agenda α} {entry : Entry α} {now : Nat}
    (taken : agenda.takeDue? now = some (entry, rest)) : agenda.Shrinks rest := by
  unfold takeDue? at taken
  split at taken
  · cases taken
  · next first others held =>
      split at taken
      · cases taken
        refine ⟨?_, rfl, rfl⟩
        rw [held]
        exact List.sublist_cons_self _ _
      · cases taken

/-! ## Tickets -/

/-- Between two agendas tickets were given out in order: a task that came in the meantime
bears a ticket that had not been given out before, and none came if the agenda was closed. -/
structure Issues (before after : Agenda α) : Prop where
  tickets : before.nextTicket ≤ after.nextTicket
  entries : ∀ entry ∈ after.entries, entry ∈ before.entries ∨ before.nextTicket ≤ entry.ticket
  refuses : before.closed = true → before.Shrinks after

theorem Issues.refl (agenda : Agenda α) : agenda.Issues agenda :=
  ⟨Nat.le_refl _, fun _ present => .inl present, fun _ => .refl _⟩

theorem Issues.trans {first second third : Agenda α} (earlier : first.Issues second)
    (later : second.Issues third) : first.Issues third where
  tickets := Nat.le_trans earlier.tickets later.tickets
  entries := by
    intro entry present
    rcases later.entries entry present with inSecond | new
    · exact earlier.entries entry inSecond
    · exact .inr (Nat.le_trans earlier.tickets new)
  refuses := fun closed =>
    have shrinks := earlier.refuses closed
    shrinks.trans (later.refuses (shrinks.sameClosed.trans closed))

theorem Shrinks.issues {before after : Agenda α} (shrinks : before.Shrinks after) :
    before.Issues after where
  tickets := Nat.le_of_eq shrinks.sameTickets.symm
  entries := fun _ present => .inl (shrinks.fewer.subset present)
  refuses := fun _ => shrinks

theorem issues_schedule {agenda placed : Agenda α} {due ticket : Nat} {task : α}
    (accepted : agenda.schedule due task = .ok (ticket, placed)) : agenda.Issues placed := by
  rcases schedule_eq_ok accepted with ⟨isOpen, rfl, rfl⟩
  constructor
  · exact Nat.le_succ _
  · intro entry present
    rcases mem_place_iff.mp present with rfl | old
    · exact .inr (Nat.le_refl _)
    · exact .inl old
  · intro closed
    cases isOpen.symm.trans closed

/-- A ticket that was given out leads to its task, or to nothing. -/
theorem Issues.eq_of_ticket {before after : Agenda α} (issues : before.Issues after)
    (sound : before.Sound) {entry later : Entry α} (present : entry ∈ before.entries)
    (isLater : later ∈ after.entries) (same : later.ticket = entry.ticket) : later = entry := by
  rcases issues.entries later isLater with old | new
  · exact sound.eq_of_ticket old present same
  · have issued := sound.issued entry present
    omega

/-! ## Order -/

/-- Tasks wait in the order of their instants. -/
def IsSorted (agenda : Agenda α) : Prop :=
  agenda.entries.Pairwise fun first second => first.due ≤ second.due

theorem Shrinks.isSorted {before after : Agenda α} (shrinks : before.Shrinks after)
    (sorted : before.IsSorted) : after.IsSorted :=
  List.Pairwise.sublist shrinks.fewer sorted

theorem IsSorted.schedule {agenda placed : Agenda α} (sorted : agenda.IsSorted) {due ticket : Nat}
    {task : α} (accepted : agenda.schedule due task = .ok (ticket, placed)) : placed.IsSorted := by
  rcases schedule_eq_ok accepted with ⟨_, rfl, rfl⟩
  exact pairwise_place sorted

/-- If the first task is not due, none is. -/
theorem IsSorted.lt_due {agenda : Agenda α} (sorted : agenda.IsSorted) {upTo : Nat}
    (rest : agenda.takeDue? upTo = none) {entry : Entry α} (present : entry ∈ agenda.entries) :
    upTo < entry.due := by
  unfold takeDue? at rest
  split at rest
  · next none =>
      rw [none] at present
      cases present
  · next first others held =>
      split at rest
      · cases rest
      · next notDue =>
          rw [IsSorted, held, List.pairwise_cons] at sorted
          rw [held] at present
          rcases List.mem_cons.mp present with rfl | later
          · omega
          · have inOrder := sorted.1 entry later
            omega

/-- Each task has precedence over those that wait behind it. -/
def IsOrdered (agenda : Agenda α) : Prop :=
  agenda.entries.Pairwise Entry.Precedes

theorem IsOrdered.isSorted {agenda : Agenda α} (ordered : agenda.IsOrdered) : agenda.IsSorted :=
  ordered.imp fun precedes => precedes.elim Nat.le_of_lt fun same => Nat.le_of_eq same.1

theorem Shrinks.isOrdered {before after : Agenda α} (shrinks : before.Shrinks after)
    (ordered : before.IsOrdered) : after.IsOrdered :=
  List.Pairwise.sublist shrinks.fewer ordered

/-- A task that is accepted last waits behind all that are due at the same time. -/
theorem pairwise_precedes_place {entry : Entry α} {entries : List (Entry α)}
    (ordered : entries.Pairwise Entry.Precedes)
    (last : ∀ other ∈ entries, other.ticket < entry.ticket) :
    (place entry entries).Pairwise Entry.Precedes := by
  induction entries with
  | nil => exact List.pairwise_singleton _ _
  | cons next rest inductionHypothesis =>
      obtain ⟨nextFirst, restOrdered⟩ := List.pairwise_cons.mp ordered
      obtain ⟨nextEarlier, restEarlier⟩ := List.forall_mem_cons.mp last
      rw [place]
      split
      · next inOrder =>
          refine List.pairwise_cons.mpr ⟨?_, inductionHypothesis restOrdered restEarlier⟩
          intro other present
          rcases mem_place_iff.mp present with rfl | inRest
          · rcases Nat.lt_or_eq_of_le inOrder with sooner | same
            · exact .inl sooner
            · exact .inr ⟨same, nextEarlier⟩
          · exact nextFirst other inRest
      · next later =>
          refine List.pairwise_cons.mpr ⟨?_, ordered⟩
          intro other present
          left
          rcases List.mem_cons.mp present with rfl | inRest
          · exact Nat.lt_of_not_le later
          · have inOrder : next.due ≤ other.due :=
              (nextFirst other inRest).elim Nat.le_of_lt fun same => Nat.le_of_eq same.1
            omega

theorem IsOrdered.schedule {agenda placed : Agenda α} (ordered : agenda.IsOrdered)
    (sound : agenda.Sound) {due ticket : Nat} {task : α}
    (accepted : agenda.schedule due task = .ok (ticket, placed)) : placed.IsOrdered := by
  rcases schedule_eq_ok accepted with ⟨_, rfl, rfl⟩
  exact pairwise_precedes_place ordered sound.issued

end Agenda

end Redelivery.Schedule
