import Redelivery.Proofs.Histories
import Redelivery.Proofs.Programs
import Redelivery.Proofs.Removals
import Redelivery.Store.Waiting

/-!
# What happens to those who wait for removals

Waits are asked for, begin, sleep and end, and removals are noted.  Whatever happens to a store and
those who wait, in any order, is a course of moves.  Each of these events is lawful after those
before it, and the log of all of them tells what has become of the store and of the calls.
-/

namespace Redelivery

/-! ## Calls without an answer -/

namespace Calls

variable {α : Type} {calls : Calls α} {call other : Nat}

/-- The call was made, and has not ended. -/
def IsOpen (calls : Calls α) (call : Nat) : Prop :=
  calls.answers[call]? = some none

theorem IsOpen.answer?_eq_none (isOpen : calls.IsOpen call) : calls.answer? call = none := by
  rw [answer?, isOpen]
  rfl

theorem IsOpen.lt_length (isOpen : calls.IsOpen call) : call < calls.answers.length :=
  (List.getElem?_eq_some_iff.mp isOpen).1

theorem isOpen_make : calls.make.2.IsOpen other ↔ other = calls.make.1 ∨ calls.IsOpen other := by
  simp only [IsOpen, make]
  rcases Nat.lt_trichotomy other calls.answers.length with before | rfl | behind
  · rw [List.getElem?_append_left before]
    exact (or_iff_right (Nat.ne_of_lt before)).symm
  · simp
  · have behindNew : (calls.answers ++ [none]).length ≤ other :=
      List.length_append.trans_le behind
    rw [List.getElem?_eq_none behindNew, List.getElem?_eq_none (Nat.le_of_lt behind)]
    simp [Nat.ne_of_gt behind]

/-- A call that is just made has no answer, and the others keep theirs. -/
theorem answer?_of_make (calls : Calls α) (other : Nat) :
    calls.make.2.answer? other = calls.answer? other := by
  simp only [answer?, make]
  rcases Nat.lt_trichotomy other calls.answers.length with before | rfl | behind
  · rw [List.getElem?_append_left before]
  · simp
  · have behindNew : (calls.answers ++ [none]).length ≤ other :=
      List.length_append.trans_le behind
    rw [List.getElem?_eq_none behindNew, List.getElem?_eq_none (Nat.le_of_lt behind)]

theorem IsOpen.isOpen_reply (isOpen : calls.IsOpen call) (answer : α) :
    (calls.reply call answer).IsOpen other ↔ other ≠ call ∧ calls.IsOpen other := by
  simp only [IsOpen, reply, List.getElem?_set]
  by_cases same : call = other
  · subst same
    simp [isOpen.lt_length]
  · simp [same, Ne.symm same]

theorem answers_join (calls : Calls α) (name : String) :
    (calls.join name).2.answers = calls.answers := by
  unfold join
  split
  · rfl
  · split <;> rfl

end Calls

namespace Store

/-- The call that an activity is to answer. -/
def Watch.call : Watch → Nat
  | begin _ _ call | listen _ _ call | look _ _ _ call | linger _ _ _ call => call

namespace Watchroom

/-! ## Moves -/

/-- What may happen next to a store and those who wait. -/
inductive Move where
  | begin (name : Option String) (expected patience : Nat)
  | join (name : String)
  | demand (demand : Demand)
  /-- The ready activity at an index has its turn. -/
  | step (index : Nat)
  /-- The sleeper at an index wakes up, by its timer or without a reason, and is ready at a
  position. -/
  | rouse (index position : Nat)
  /-- Time passes until an instant. -/
  | pass (instant : Nat)

/-- Meet a demand, and give notice if records were to be removed. -/
def meet (waiting : Waiting) : Demand → Waiting
  | .remove sequence numbers => (remove waiting sequence numbers).2
  | demand => waiting.mapWorld fun room => { room with store := (room.store.meet demand).2 }

def move? (waiting : Waiting) : Move → Option Waiting
  | .begin name expected patience => some (begin waiting name expected patience).2
  | .join name => some (join waiting name).1
  | .demand demand => some (meet waiting demand)
  | .step index => waiting.stepAt behave index
  | .rouse index position => waiting.disturb index position
  | .pass instant => if waiting.now ≤ instant then some { waiting with now := instant } else none

theorem eq_of_pass {waiting after : Waiting} {instant : Nat}
    (moved : move? waiting (.pass instant) = some after) :
    waiting.now ≤ instant ∧ after = { waiting with now := instant } := by
  simp only [move?] at moved
  split at moved
  · next later => exact ⟨later, (Option.some.inj moved).symm⟩
  · cases moved

/-! ## Events -/

/-- What happens to waits and removals. -/
inductive Event where
  | asked (now call expected patience : Nat)
  /-- An activity has its first turn. -/
  | began (now call expected patience : Nat)
  /-- An activity falls asleep. -/
  | slept (now call : Nat)
  | removed (now : Nat) (sequence : SequenceKey) (numbers : List Nat)
  | ended (now call : Nat) (result : Except Failure Unit)
  deriving DecidableEq, Repr

namespace Event

def now : Event → Nat
  | asked now _ _ _ | began now _ _ _ | slept now _ | removed now _ _ | ended now _ _ => now

def removal? : Event → Option (SequenceKey × List Nat)
  | removed _ sequence numbers => some (sequence, numbers)
  | asked _ _ _ _ | began _ _ _ _ | slept _ _ | ended _ _ _ => none

end Event

/-- The removals that were noted. -/
def removalsIn (log : List Event) : List (SequenceKey × List Nat) :=
  log.filterMap Event.removal?

/-- What happens at an instant in a turn of somebody who waits. -/
def turnEvents (room : Watchroom) (now : Nat) : Watch → List Event
  | .begin expected patience call => [.began now call expected patience]
  | .listen _ _ _ => []
  | .look expected _ _ call =>
      if room.store.hasSeen expected then [.ended now call (.ok ())] else []
  | .linger _ deadline heard call =>
      if heard < room.notices then []
      else if Time.wake deadline ≤ now then [.ended now call (.error .timedOut)]
      else [.slept now call]

/-- What happens in the course of a move. -/
def events (waiting : Waiting) : Move → List Event
  | .begin _ expected patience =>
      [.asked waiting.now waiting.world.calls.make.1 expected patience]
  | .demand (.remove sequence numbers) => [.removed waiting.now sequence numbers]
  | .step index =>
      match waiting.ready[index]? with
      | some ⟨watch :: _, _⟩ => turnEvents waiting.world waiting.now watch
      | _ => []
  | .demand (.insert _ _ _) | .demand (.failNext _) | .join _ | .rouse _ _ | .pass _ => []

/-- A store without records, and nobody who waits, at the start of the clock. -/
def machine : Machine Waiting Move Event where
  first := Timeline.start empty
  move? := move?
  events := events

/-- Turns, awakenings and the passing of time are moves. -/
theorem isPassage_leads : Timeline.IsPassage behave machine.Leads where
  refl := .refl
  trans := .trans
  step := fun stepped => .of_move (.step _) stepped
  rouse := fun roused => .of_move (.rouse _ _) (Timeline.disturb_of_rouseTo roused)
  pass := fun later => .of_move (.pass _) (if_pos later)

/-- To wait, in the order in which activities settle, is a course of moves. -/
theorem leads_wait (fuel : Nat) (waiting : Waiting) (name : Option String)
    (expected patience : Nat) :
    machine.Leads waiting (wait fuel waiting name expected patience).1 := by
  have begins : machine.Leads waiting (begin waiting name expected patience).2 :=
    .of_move (.begin name expected patience) rfl
  cases name with
  | some name => exact begins.trans (isPassage_leads.settle fuel _)
  | none => exact begins.trans (isPassage_leads.await _ fuel _)

/-! ## Laws -/

/-- What a wait may come to at an instant, `count` removals having been noted. -/
def Decides (count expected deadline now : Nat) : Except Failure Unit → Prop
  | .ok () => expected ≤ count
  | .error failure => failure = .timedOut ∧ count < expected ∧ Time.wake deadline ≤ now

/-- When an event may happen after those of the past. -/
def Event.MayFollow (past : List Event) : Event → Prop
  | asked _ call _ _ => ∀ now expected patience, asked now call expected patience ∉ past
  | began _ call expected patience =>
      (∃ now, asked now call expected patience ∈ past) ∧
        ∀ now expected patience, began now call expected patience ∉ past
  | slept now call =>
      (∀ now result, ended now call result ∉ past) ∧
        ∃ since expected patience, began since call expected patience ∈ past ∧
          (removalsIn past).length < expected ∧ now < Time.wake (since + patience)
  | removed _ _ _ => True
  | ended now call result =>
      (∀ now result, ended now call result ∉ past) ∧
        ∃ since expected patience, began since call expected patience ∈ past ∧
          Decides (removalsIn past).length expected (since + patience) now result

/-! ## What the log tells -/

/-- The wait of a call began, and is for so many removals up to a deadline. -/
def Waits (log : List Event) (expected deadline call : Nat) : Prop :=
  ∃ since patience, .began since call expected patience ∈ log ∧ deadline = since + patience

/-- Each event is lawful after those before it, and none is later than those behind it. -/
structure IsChronicle (log : List Event) (now : Nat) : Prop where
  lawful : Schedule.Each Event.MayFollow log
  ordered : log.Pairwise fun first second => first.now ≤ second.now
  past : ∀ event ∈ log, event.now ≤ now

/-- The log tells what has become of a store and of the calls. -/
structure Tells (log : List Event) (room : Watchroom) (now : Nat) : Prop where
  chronicle : IsChronicle log now
  noted : room.store.removals = removalsIn log
  notices : room.notices = (removalsIn log).length
  asked : ∀ now call expected patience, .asked now call expected patience ∈ log →
    call < room.calls.answers.length
  answers : ∀ call wait, room.calls.answer? call = some wait ↔
    .ended wait.ended call wait.result ∈ log

section

variable {log : List Event} {event : Event} {room changed : Watchroom} {now call : Nat}

theorem removalsIn_concat (log : List Event) (event : Event) :
    removalsIn (log ++ [event]) = removalsIn log ++ event.removal?.toList := by
  rw [removalsIn, List.filterMap_append, ← removalsIn]
  cases event <;> rfl

theorem removalsIn_concat_of_none (log : List Event) (event : Event)
    (isNone : event.removal? = none) : removalsIn (log ++ [event]) = removalsIn log := by
  rw [removalsIn_concat, isNone, Option.toList_none, List.append_nil]

theorem mem_concat_of_ne {other : Event} (different : other ≠ event) :
    other ∈ log ++ [event] ↔ other ∈ log := by
  simp [different]

theorem Waits.concat {expected deadline call : Nat} (waits : Waits log expected deadline call)
    (event : Event) : Waits (log ++ [event]) expected deadline call := by
  obtain ⟨since, patience, began, isDeadline⟩ := waits
  exact ⟨since, patience, List.mem_append_left _ began, isDeadline⟩

theorem IsChronicle.concat {now : Nat} (chronicle : IsChronicle log now) (isNow : event.now = now)
    (may : event.MayFollow log) : IsChronicle (log ++ [event]) now where
  lawful := Schedule.each_concat.mpr ⟨chronicle.lawful, may⟩
  ordered := by
    refine List.pairwise_append.mpr ⟨chronicle.ordered, List.pairwise_singleton _ _, ?_⟩
    intro first present second isLast
    rw [List.mem_singleton.mp isLast, isNow]
    exact chronicle.past first present
  past := by
    intro other present
    rcases List.mem_append.mp present with before | isLast
    · exact chronicle.past other before
    · rw [List.mem_singleton.mp isLast, isNow]

theorem tells_start : Tells [] empty 0 where
  chronicle := ⟨Schedule.each_nil, List.Pairwise.nil, fun _ present => nomatch present⟩
  noted := rfl
  notices := rfl
  asked := fun _ _ _ _ present => nomatch present
  answers := fun _ _ => iff_of_false (fun same => nomatch same) (fun present => nomatch present)

namespace Tells

theorem congr {after : Nat} (tells : Tells log room now) (notBefore : now ≤ after)
    (sameRemovals : changed.store.removals = room.store.removals)
    (sameNotices : changed.notices = room.notices)
    (sameAnswers : changed.calls.answers = room.calls.answers) : Tells log changed after where
  chronicle :=
    { tells.chronicle with
      past := fun event present => Nat.le_trans (tells.chronicle.past event present) notBefore }
  noted := sameRemovals.trans tells.noted
  notices := sameNotices.trans tells.notices
  asked := sameAnswers ▸ tells.asked
  answers := by
    intro call wait
    rw [← tells.answers, Calls.answer?, Calls.answer?, sameAnswers]

/-- A wait goes on as long as its call has no answer. -/
theorem notMem_ended {instant : Nat} {result : Except Failure Unit} (tells : Tells log room now)
    (isOpen : room.calls.IsOpen call) : .ended instant call result ∉ log := by
  intro ended
  have answered := (tells.answers call ⟨result, instant⟩).mpr ended
  rw [isOpen.answer?_eq_none] at answered
  cases answered

theorem asked_of_began {since expected patience : Nat} (tells : Tells log room now)
    (began : .began since call expected patience ∈ log) :
    ∃ first, .asked first call expected patience ∈ log := by
  obtain ⟨past, later, rfl⟩ := List.append_of_mem began
  obtain ⟨⟨first, asked⟩, _⟩ := tells.chronicle.lawful past _ later rfl
  exact ⟨first, List.mem_append_left _ asked⟩

/-- An event in which nobody asks, removes or ends anything. -/
theorem concat (tells : Tells log room now) (isNow : event.now = now) (may : event.MayFollow log)
    (isNone : event.removal? = none)
    (notAsked : ∀ now call expected patience, event ≠ .asked now call expected patience)
    (notEnded : ∀ now call result, event ≠ .ended now call result) :
    Tells (log ++ [event]) room now where
  chronicle := tells.chronicle.concat isNow may
  noted := by rw [removalsIn_concat_of_none log event isNone, tells.noted]
  notices := by rw [removalsIn_concat_of_none log event isNone, tells.notices]
  asked := by
    intro now call expected patience present
    rw [mem_concat_of_ne (notAsked now call expected patience).symm] at present
    exact tells.asked now call expected patience present
  answers := by
    intro call wait
    rw [tells.answers, mem_concat_of_ne (notEnded wait.ended call wait.result).symm]

theorem ask (tells : Tells log room now) (expected patience : Nat)
    (sameStore : changed.store = room.store) (sameNotices : changed.notices = room.notices)
    (isMade : changed.calls.answers = room.calls.make.2.answers) :
    Tells (log ++ [.asked now room.calls.make.1 expected patience]) changed now := by
  have sameCount := removalsIn_concat_of_none log
    (.asked now room.calls.make.1 expected patience) rfl
  constructor
  case chronicle =>
    refine tells.chronicle.concat rfl fun instant expected patience present => ?_
    exact Nat.lt_irrefl _ (tells.asked instant _ expected patience present)
  case noted => rw [sameStore, sameCount, tells.noted]
  case notices => rw [sameNotices, sameCount, tells.notices]
  case asked =>
    intro now call expected patience present
    rw [isMade, Calls.make, List.length_append]
    rcases List.mem_append.mp present with before | isLast
    · exact Nat.lt_succ_of_lt (tells.asked now call expected patience before)
    · obtain ⟨⟩ := List.mem_singleton.mp isLast
      exact Nat.lt_succ_self _
  case answers =>
    intro call wait
    have sameAnswer : changed.calls.answer? call = room.calls.answer? call := by
      rw [← room.calls.answer?_of_make, Calls.answer?, Calls.answer?, isMade]
    rw [sameAnswer, tells.answers, mem_concat_of_ne Event.noConfusion]

theorem remove {sequence : SequenceKey} {numbers : List Nat} (tells : Tells log room now)
    (isNoted : changed.store.removals = room.store.removals ++ [(sequence, numbers)])
    (isNotified : changed.notices = room.notices + 1) (sameCalls : changed.calls = room.calls) :
    Tells (log ++ [.removed now sequence numbers]) changed now := by
  have grown := removalsIn_concat log (.removed now sequence numbers)
  constructor
  case chronicle => exact tells.chronicle.concat rfl trivial
  case noted =>
    rw [grown, isNoted, tells.noted]
    rfl
  case notices =>
    rw [grown, isNotified, tells.notices, List.length_append]
    rfl
  case asked =>
    intro now call expected patience present
    rw [mem_concat_of_ne Event.noConfusion] at present
    exact sameCalls ▸ tells.asked now call expected patience present
  case answers =>
    intro call wait
    rw [sameCalls, tells.answers, mem_concat_of_ne Event.noConfusion]

theorem finish {result : Except Failure Unit} {expected deadline : Nat}
    (tells : Tells log room now) (isOpen : room.calls.IsOpen call)
    (waits : Waits log expected deadline call)
    (decides : Decides (removalsIn log).length expected deadline now result) :
    Tells (log ++ [.ended now call result]) (settleWait room call { result, ended := now })
      now := by
  have sameCount := removalsIn_concat_of_none log (.ended now call result) rfl
  constructor
  case chronicle =>
    obtain ⟨since, patience, began, rfl⟩ := waits
    exact tells.chronicle.concat rfl
      ⟨fun _ _ => tells.notMem_ended isOpen, since, expected, patience, began, decides⟩
  case noted =>
    rw [sameCount, ← tells.noted]
    rfl
  case notices =>
    rw [sameCount, ← tells.notices]
    rfl
  case asked =>
    intro now other expected patience present
    rw [mem_concat_of_ne Event.noConfusion] at present
    rw [settleWait, Calls.reply, List.length_set]
    exact tells.asked now other expected patience present
  case answers =>
    intro other wait
    rw [settleWait]
    by_cases same : call = other
    · subst same
      rw [Calls.answer?_reply_self isOpen.lt_length, Option.some.injEq]
      constructor
      · rintro rfl
        exact List.mem_append_right _ (List.mem_singleton.mpr rfl)
      · intro ended
        rcases List.mem_append.mp ended with before | isLast
        · exact absurd before (tells.notMem_ended isOpen)
        · obtain ⟨sameNow, _, sameResult⟩ := Event.ended.inj (List.mem_singleton.mp isLast)
          rw [← sameNow, ← sameResult]
    · rw [Calls.answer?_reply_of_ne same, tells.answers, mem_concat_of_ne]
      exact fun sameEvent => same (Event.ended.inj sameEvent).2.1.symm

end Tells

end

end Watchroom

end Store

end Redelivery
