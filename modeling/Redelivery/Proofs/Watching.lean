import Redelivery.Proofs.Chronicle

/-!
# What those who wait have still to do

The log of what happened tells what each wait has still to do, and nobody sleeps who has a notice to
hear: this is so at the start, and remains so whoever has a turn, whatever is demanded of the store
in between, and however the clock goes.
-/

namespace Redelivery.Store.Watchroom

/-! ## What the log tells about those who wait -/

/-- What an activity has to do next is what the log tells. -/
def Suits (log : List Event) : Watch → Prop
  | .begin expected patience call =>
      (∃ now, .asked now call expected patience ∈ log) ∧
        ∀ now expected patience, .began now call expected patience ∉ log
  | .listen expected deadline call => Waits log expected deadline call
  | .look expected deadline heard call =>
      Waits log expected deadline call ∧ heard ≤ (removalsIn log).length
  | .linger expected deadline heard call =>
      Waits log expected deadline call ∧ heard ≤ (removalsIn log).length ∧ heard < expected

/-- A sleeper has heard every notice, and sleeps until its deadline. -/
def IsAsleep (notices : Nat) (sleeper : Sleeper Watch) : Prop :=
  ∃ expected deadline call, sleeper.activity.program = [.linger expected deadline notices call] ∧
    sleeper.wake = Time.wake deadline

/-- The calls that the activities are to answer. -/
def underWay (programs : Multiset (List Watch)) : Multiset (List Nat) :=
  programs.map (List.map Watch.call)

/-- Each call without an answer has one program, and no other call has any. -/
structure Serves (programs : Multiset (List Watch)) (calls : Calls Wait) : Prop where
  once : (underWay programs).Nodup
  isOpen : ∀ call, [call] ∈ underWay programs ↔ calls.IsOpen call

/-- The log tells what has still to be done, and whoever sleeps has heard all of it. -/
structure Keeps (log : List Event) (waiting : Waiting) : Prop
    extends Tells log waiting.world waiting.now, Serves waiting.running waiting.world.calls where
  programs : ∀ program ∈ waiting.running, ∃ watch, program = [watch] ∧ Suits log watch
  asleep : ∀ sleeper ∈ waiting.asleep, IsAsleep waiting.world.notices sleeper

section

variable {log : List Event} {waiting after : Waiting} {event : Event} {watch next : Watch}
  {programs others : Multiset (List Watch)} {calls made : Calls Wait} {call : Nat}

/-- What an activity has to do next remains until its own wait begins. -/
theorem Suits.concat (suits : Suits log watch)
    (other : ∀ now expected patience, event ≠ .began now watch.call expected patience) :
    Suits (log ++ [event]) watch := by
  have grown := congrArg List.length (removalsIn_concat log event)
  rw [List.length_append] at grown
  cases watch with
  | begin expected patience call =>
      obtain ⟨⟨since, asked⟩, unbegun⟩ := suits
      refine ⟨⟨since, List.mem_append_left _ asked⟩, fun now expected patience began => ?_⟩
      rcases List.mem_append.mp began with before | isLast
      · exact unbegun now expected patience before
      · exact other now expected patience (List.mem_singleton.mp isLast).symm
  | listen expected deadline call => exact Waits.concat suits event
  | look expected deadline heard call =>
      obtain ⟨waits, atMost⟩ := suits
      exact ⟨waits.concat event, by omega⟩
  | linger expected deadline heard call =>
      obtain ⟨waits, atMost, fewer⟩ := suits
      exact ⟨waits.concat event, by omega, fewer⟩

/-! ## Programs and calls -/

theorem underWay_cons (watch : Watch) (others : Multiset (List Watch)) :
    underWay ([watch] ::ₘ others) = [watch.call] ::ₘ underWay others := by
  rw [underWay, Multiset.map_cons, List.map_singleton, ← underWay]

theorem serves_start : Serves 0 Calls.empty where
  once := Multiset.nodup_zero
  isOpen := fun _ => iff_of_false (Multiset.notMem_zero _) (fun same => nomatch same)

namespace Serves

theorem congr (serves : Serves programs calls) (sameCalls : underWay others = underWay programs)
    (sameAnswers : made.answers = calls.answers) : Serves others made where
  once := sameCalls ▸ serves.once
  isOpen := by
    intro call
    rw [sameCalls, serves.isOpen, Calls.IsOpen, Calls.IsOpen, sameAnswers]

theorem ask (serves : Serves programs calls) (expected patience : Nat)
    (isMade : made.answers = calls.make.2.answers) :
    Serves ([.begin expected patience calls.make.1] ::ₘ programs) made where
  once := by
    rw [underWay_cons]
    refine Multiset.nodup_cons.mpr ⟨fun present => ?_, serves.once⟩
    exact Nat.lt_irrefl _ ((serves.isOpen _).mp present).lt_length
  isOpen := by
    intro call
    have isMake : made.IsOpen call ↔ calls.make.2.IsOpen call := by
      rw [Calls.IsOpen, Calls.IsOpen, isMade]
    rw [isMake, Calls.isOpen_make, ← serves.isOpen, underWay_cons, Multiset.mem_cons]
    exact or_congr_left List.singleton_inj

/-- No two programs are to answer one call. -/
theorem single (serves : Serves ([watch] ::ₘ others) calls) :
    (underWay others).Nodup ∧ [watch.call] ∉ underWay others := by
  have once := serves.once
  rw [underWay_cons] at once
  exact (Multiset.nodup_cons.mp once).symm

theorem isOpen_call (serves : Serves ([watch] ::ₘ others) calls) : calls.IsOpen watch.call := by
  refine (serves.isOpen watch.call).mp ?_
  rw [underWay_cons]
  exact Multiset.mem_cons_self _ _

theorem finish (serves : Serves ([watch] ::ₘ others) calls) (wait : Wait) :
    Serves others (calls.reply watch.call wait) where
  once := serves.single.1
  isOpen := by
    intro call
    rw [serves.isOpen_call.isOpen_reply, ← serves.isOpen, underWay_cons, Multiset.mem_cons,
      List.singleton_inj]
    constructor
    · intro present
      refine ⟨?_, .inr present⟩
      rintro rfl
      exact serves.single.2 present
    · rintro ⟨different, same | present⟩
      · exact absurd same different
      · exact present

end Serves

theorem Keeps.serves (keeps : Keeps log waiting) (was : waiting.running = programs) :
    Serves programs waiting.world.calls :=
  was ▸ keeps.toServes

/-! ## Moves in which nothing happens -/

theorem keeps_start : Keeps [] machine.first where
  toTells := tells_start
  toServes := serves_start
  programs := fun _ present => nomatch present
  asleep := fun _ present => nomatch present

theorem Keeps.quiet (keeps : Keeps log waiting) (sameRunning : after.running = waiting.running)
    (asleep : after.asleep ⊆ waiting.asleep) (later : waiting.now ≤ after.now)
    (sameRemovals : after.world.store.removals = waiting.world.store.removals)
    (sameNotices : after.world.notices = waiting.world.notices)
    (sameAnswers : after.world.calls.answers = waiting.world.calls.answers) : Keeps log after where
  toTells := keeps.toTells.congr later sameRemovals sameNotices sameAnswers
  toServes := keeps.toServes.congr (congrArg underWay sameRunning) sameAnswers
  programs := sameRunning ▸ keeps.programs
  asleep := fun sleeper present => sameNotices ▸ keeps.asleep sleeper (asleep present)

/-! ## Waits that are asked for, and removals -/

/-- Programs other than the one of a new event have nothing to do with it. -/
theorem Keeps.suits_concat (keeps : Keeps log waiting)
    (other : ∀ now call expected patience, event ≠ .began now call expected patience)
    {program : List Watch} (present : program ∈ waiting.running) :
    ∃ watch, program = [watch] ∧ Suits (log ++ [event]) watch := by
  obtain ⟨watch, isSingle, suits⟩ := keeps.programs program present
  exact ⟨watch, isSingle, suits.concat fun now => other now watch.call⟩

theorem Keeps.ask {expected patience : Nat} (keeps : Keeps log waiting)
    (running : after.running =
      [.begin expected patience waiting.world.calls.make.1] ::ₘ waiting.running)
    (sameAsleep : after.asleep = waiting.asleep) (sameNow : after.now = waiting.now)
    (sameStore : after.world.store = waiting.world.store)
    (sameNotices : after.world.notices = waiting.world.notices)
    (isMade : after.world.calls.answers = waiting.world.calls.make.2.answers) :
    Keeps (log ++ [.asked waiting.now waiting.world.calls.make.1 expected patience]) after where
  toTells := sameNow ▸ keeps.toTells.ask expected patience sameStore sameNotices isMade
  toServes := running ▸ keeps.toServes.ask expected patience isMade
  programs := by
    intro program present
    rw [running] at present
    rcases Multiset.mem_cons.mp present with rfl | before
    · refine ⟨_, rfl, ⟨waiting.now, List.mem_append_right _ (List.mem_singleton.mpr rfl)⟩, ?_⟩
      intro now expected patience began
      rcases List.mem_append.mp began with before | isLast
      · obtain ⟨_, asked⟩ := keeps.asked_of_began before
        exact Nat.lt_irrefl _ (keeps.asked _ _ _ _ asked)
      · cases List.mem_singleton.mp isLast
    · exact keeps.suits_concat (fun _ _ _ _ => Event.noConfusion) before
  asleep := by
    rw [sameAsleep, sameNotices]
    exact keeps.asleep

theorem Keeps.begin (keeps : Keeps log waiting) (name : Option String) (expected patience : Nat) :
    Keeps (log ++ events waiting (.begin name expected patience))
      (Watchroom.begin waiting name expected patience).2 := by
  cases name with
  | none => exact keeps.ask (Timeline.running_call _ _) rfl rfl rfl rfl rfl
  | some name => exact keeps.ask (Timeline.running_spawn _ _) rfl rfl rfl rfl rfl

/-- Whoever sleeps is woken up by a removal. -/
theorem Keeps.remove (keeps : Keeps log waiting) (sequence : SequenceKey) (numbers : List Nat) :
    Keeps (log ++ [.removed waiting.now sequence numbers])
      (Watchroom.remove waiting sequence numbers).2 := by
  have sameRunning : (Watchroom.remove waiting sequence numbers).2.running = waiting.running :=
    Timeline.running_rouseWhere _ _
  constructor
  case toTells =>
    exact keeps.toTells.remove (waiting.world.store.removals_remove sequence numbers) rfl rfl
  case toServes => exact keeps.toServes.congr (congrArg underWay sameRunning) rfl
  case programs =>
    intro program present
    rw [sameRunning] at present
    exact keeps.suits_concat (fun _ _ _ _ => Event.noConfusion) present
  case asleep =>
    intro sleeper present
    simp [Watchroom.remove, Timeline.rouseWhere, Timeline.mapWorld] at present

/-! ## Turns -/

theorem Keeps.suits (keeps : Keeps log waiting) (was : waiting.running = [watch] ::ₘ others) :
    Suits log watch := by
  obtain ⟨other, same, suits⟩ := keeps.programs [watch] (was ▸ Multiset.mem_cons_self _ _)
  exact List.singleton_inj.mp same ▸ suits

/-- An activity goes on with its wait, at its own pace. -/
theorem Keeps.goOn (keeps : Keeps log waiting) (was : waiting.running = [watch] ::ₘ others)
    (running : after.running = [next] ::ₘ others) (sameCall : next.call = watch.call)
    (sameWorld : after.world = waiting.world) (sameNow : after.now = waiting.now)
    (sleeps : ∀ sleeper ∈ after.asleep,
      sleeper ∈ waiting.asleep ∨ IsAsleep waiting.world.notices sleeper)
    (suits : Suits log next) : Keeps log after where
  toTells := sameNow ▸ sameWorld ▸ keeps.toTells
  toServes := by
    rw [running, sameWorld]
    exact (keeps.serves was).congr (by rw [underWay_cons, underWay_cons, sameCall]) rfl
  programs := by
    intro program present
    rw [running] at present
    rcases Multiset.mem_cons.mp present with rfl | old
    · exact ⟨next, rfl, suits⟩
    · exact keeps.programs program (was ▸ Multiset.mem_cons_of_mem old)
  asleep := by
    intro sleeper present
    rw [sameWorld]
    exact (sleeps sleeper present).elim (keeps.asleep sleeper) id

/-- An activity has its first turn. -/
theorem Keeps.start {expected patience call : Nat} (keeps : Keeps log waiting)
    (was : waiting.running = [.begin expected patience call] ::ₘ others)
    (running : after.running = [.listen expected (waiting.now + patience) call] ::ₘ others)
    (sameWorld : after.world = waiting.world) (sameNow : after.now = waiting.now)
    (sameAsleep : after.asleep = waiting.asleep) :
    Keeps (log ++ [.began waiting.now call expected patience]) after where
  toTells := by
    rw [sameWorld, sameNow]
    exact keeps.toTells.concat rfl (keeps.suits was) rfl (fun _ _ _ _ => Event.noConfusion)
      (fun _ _ _ => Event.noConfusion)
  toServes := by
    rw [running, sameWorld]
    exact (keeps.serves was).congr (by rw [underWay_cons, underWay_cons]; rfl) rfl
  programs := by
    intro program present
    rw [running] at present
    rcases Multiset.mem_cons.mp present with rfl | old
    · exact ⟨_, rfl, waiting.now, patience,
        List.mem_append_right _ (List.mem_singleton.mpr rfl), rfl⟩
    · obtain ⟨other, rfl, suits⟩ := keeps.programs program (was ▸ Multiset.mem_cons_of_mem old)
      refine ⟨other, rfl, suits.concat fun now expected patience same => ?_⟩
      have sameCall : call = other.call := (Event.began.inj same).2.1
      have isUnderWay : [other.call] ∈ underWay others :=
        Multiset.mem_map.mpr ⟨[other], old, rfl⟩
      exact (keeps.serves was).single.2 (sameCall ▸ isUnderWay)
  asleep := by
    rw [sameAsleep, sameWorld]
    exact keeps.asleep

/-- That an activity has fallen asleep makes no difference to what it has still to do. -/
theorem Keeps.sleep (keeps : Keeps log waiting)
    (may : (Event.slept waiting.now call).MayFollow log) :
    Keeps (log ++ [.slept waiting.now call]) waiting where
  toTells := keeps.toTells.concat rfl may rfl (fun _ _ _ _ => Event.noConfusion)
    (fun _ _ _ => Event.noConfusion)
  toServes := keeps.toServes
  programs := fun _ => keeps.suits_concat fun _ _ _ _ => Event.noConfusion
  asleep := keeps.asleep

/-- A wait ends. -/
theorem Keeps.finish {result : Except Failure Unit} {expected deadline : Nat}
    (keeps : Keeps log waiting) (was : waiting.running = [watch] ::ₘ others)
    (running : after.running = others)
    (isWorld : after.world =
      settleWait waiting.world watch.call { result, ended := waiting.now })
    (sameNow : after.now = waiting.now) (sameAsleep : after.asleep = waiting.asleep)
    (waits : Waits log expected deadline watch.call)
    (decides : Decides (removalsIn log).length expected deadline waiting.now result) :
    Keeps (log ++ [.ended waiting.now watch.call result]) after where
  toTells := by
    rw [isWorld, sameNow]
    exact keeps.toTells.finish (keeps.serves was).isOpen_call waits decides
  toServes := by
    rw [running, isWorld]
    exact (keeps.serves was).finish _
  programs := by
    intro program present
    rw [running] at present
    exact keeps.suits_concat (fun _ _ _ _ => Event.noConfusion)
      (was ▸ Multiset.mem_cons_of_mem present)
  asleep := by
    rw [sameAsleep, isWorld]
    exact keeps.asleep

/-- Everybody but the activity that has its turn. -/
def without (waiting : Waiting) (index : Nat) : Waiting :=
  { waiting with ready := waiting.ready.eraseIdx index }

/-- A turn of somebody who waits, at an instant: what happens in it, what becomes of the store and
of the calls, and how the wait goes on. -/
inductive Turn (room : Watchroom) (now : Nat) :
    Watch → List Event → Watchroom → Pace Watch → Prop where
  | begins (expected patience call : Nat) :
      Turn room now (.begin expected patience call) [.began now call expected patience] room
        (.onward [.listen expected (now + patience) call])
  | listens (expected deadline call : Nat) :
      Turn room now (.listen expected deadline call) [] room
        (.onward [.look expected deadline room.notices call])
  | succeeds {expected : Nat} (deadline heard call : Nat) :
      expected ≤ room.store.removals.length →
      Turn room now (.look expected deadline heard call) [.ended now call (.ok ())]
        (settleWait room call { result := .ok (), ended := now }) .retire
  | lingers {expected : Nat} (deadline heard call : Nat) :
      room.store.removals.length < expected →
      Turn room now (.look expected deadline heard call) [] room
        (.onward [.linger expected deadline heard call])
  | repeats {heard : Nat} (expected deadline call : Nat) :
      heard < room.notices →
      Turn room now (.linger expected deadline heard call) [] room
        (.onward [.listen expected deadline call])
  | fails {heard deadline : Nat} (expected call : Nat) :
      room.notices ≤ heard → Time.wake deadline ≤ now →
      Turn room now (.linger expected deadline heard call) [.ended now call (.error .timedOut)]
        (settleWait room call { result := .error .timedOut, ended := now }) .retire
  | sleeps {heard deadline : Nat} (expected call : Nat) :
      room.notices ≤ heard → now < Time.wake deadline →
      Turn room now (.linger expected deadline heard call) [.slept now call] room
        (.sleepUntil deadline [.linger expected deadline heard call])

/-- These are all turns. -/
theorem turn_behave (waiting : Waiting) (watch : Watch) (rest : List Watch) :
    ∃ room pace, behave watch rest waiting = ({ waiting with world := room }, pace) ∧
      Turn waiting.world waiting.now watch (turnEvents waiting.world waiting.now watch) room
        pace := by
  cases watch with
  | begin expected patience call => exact ⟨_, _, rfl, .begins expected patience call⟩
  | listen expected deadline call => exact ⟨_, _, rfl, .listens expected deadline call⟩
  | look expected deadline heard call =>
      by_cases enough : waiting.world.store.hasSeen expected = true
      · rw [turnEvents, if_pos enough]
        exact ⟨_, _, if_pos enough, .succeeds deadline heard call (of_decide_eq_true enough)⟩
      · rw [turnEvents, if_neg enough]
        exact ⟨_, _, if_neg enough,
          .lingers deadline heard call (Nat.lt_of_not_le (enough ∘ decide_eq_true))⟩
  | linger expected deadline heard call =>
      by_cases notified : heard < waiting.world.notices
      · rw [turnEvents, if_pos notified]
        exact ⟨_, _, if_pos notified, .repeats expected deadline call notified⟩
      · rw [turnEvents, if_neg notified]
        by_cases late : Time.wake deadline ≤ waiting.now
        · rw [if_pos late]
          exact ⟨_, _, (if_neg notified).trans (if_pos late),
            .fails expected call (Nat.not_lt.mp notified) late⟩
        · rw [if_neg late]
          exact ⟨_, _, (if_neg notified).trans (if_neg late),
            .sleeps expected call (Nat.not_lt.mp notified) (Nat.lt_of_not_le late)⟩

/-- Whoever has a turn waits, and no turn does anything to the others. -/
theorem Keeps.step_cases {index : Nat} (keeps : Keeps log waiting)
    (stepped : waiting.stepAt behave index = some after) :
    ∃ watch foreground room pace, waiting.ready[index]? = some ⟨[watch], foreground⟩ ∧
      waiting.running = [watch] ::ₘ (without waiting index).running ∧
      Turn waiting.world waiting.now watch (events waiting (.step index)) room pace ∧
      after = ({ without waiting index with world := room } : Waiting).resume index foreground
        pace ∧
      after.running = pace.programs + (without waiting index).running := by
  obtain ⟨⟨program, foreground⟩, found, _, rfl, was, went⟩ := Timeline.stepAt_eq_some stepped
  obtain ⟨watch, isSingle, _⟩ := keeps.programs program (was ▸ Multiset.mem_cons_self _ _)
  obtain rfl : program = [watch] := isSingle
  have happens : events waiting (.step index) = turnEvents waiting.world waiting.now watch := by
    simp only [events, found]
  obtain ⟨room, pace, behaves, turn⟩ := turn_behave (without waiting index) watch []
  obtain rfl : after = ({ without waiting index with world := room } : Waiting).resume index
      foreground pace := by
    rcases went with ⟨ended, _⟩ | ⟨_, _, same, rfl⟩
    · cases ended
    · obtain ⟨rfl, rfl⟩ := List.cons.inj same
      exact congrArg (fun behaved => behaved.1.resume index foreground behaved.2) behaves
  have inside : index ≤ (without waiting index).ready.length := by
    obtain ⟨isIndex, _⟩ := List.getElem?_eq_some_iff.mp found
    rw [without, List.length_eraseIdx_of_lt isIndex]
    omega
  rw [happens]
  exact ⟨watch, foreground, room, pace, found, was, turn, rfl,
    Timeline.running_resume ({ without waiting index with world := room } : Waiting) inside
      foreground pace⟩

/-- A turn of a wait that looks at the removals, or for a notice, ends the wait, or goes on with
another instruction at once, or sleeps until the deadline. -/
theorem Keeps.step {index : Nat} (keeps : Keeps log waiting)
    (stepped : waiting.stepAt behave index = some after) :
    Keeps (log ++ events waiting (.step index)) after := by
  obtain ⟨watch, foreground, room, pace, found, was, turn, isAfter, running⟩ :=
    keeps.step_cases stepped
  have suits := keeps.suits was
  have sameCount : waiting.world.store.removals.length = (removalsIn log).length :=
    congrArg List.length keeps.noted
  generalize events waiting (.step index) = happened at turn ⊢
  cases turn with
  | begins expected patience call =>
      subst isAfter
      exact keeps.start was running rfl rfl rfl
  | listens expected deadline call =>
      subst isAfter
      rw [List.append_nil]
      exact keeps.goOn was running rfl rfl rfl (fun _ => .inl)
        ⟨suits, Nat.le_of_eq keeps.notices⟩
  | succeeds deadline heard call enough =>
      subst isAfter
      exact keeps.finish was rfl rfl rfl rfl suits.1 (sameCount ▸ enough)
  | lingers deadline heard call few =>
      obtain ⟨waits, atMost⟩ := suits
      subst isAfter
      rw [List.append_nil]
      exact keeps.goOn was running rfl rfl rfl (fun _ => .inl)
        ⟨waits, atMost, Nat.lt_of_le_of_lt atMost (sameCount ▸ few)⟩
  | repeats expected deadline call notified =>
      subst isAfter
      rw [List.append_nil]
      exact keeps.goOn was running rfl rfl rfl (fun _ => .inl) suits.1
  | fails expected call unnoticed late =>
      obtain ⟨waits, atMost, fewer⟩ := suits
      have heardAll := Nat.le_antisymm atMost (keeps.notices ▸ unnoticed)
      subst isAfter
      exact keeps.finish was rfl rfl rfl rfl waits ⟨rfl, heardAll ▸ fewer, late⟩
  | @sleeps heard deadline expected call unnoticed early =>
      have heardAll : waiting.world.notices = heard :=
        Nat.le_antisymm unnoticed (keeps.notices ▸ suits.2.1)
      have isOpen := (keeps.serves was).isOpen_call
      have keepsAfter : Keeps log after := by
        subst isAfter
        refine keeps.goOn was running rfl (Timeline.world_resume _ _ _ _)
          (Timeline.now_resume _ _ _ _) (fun sleeper asleep => ?_) suits
        rcases Timeline.eq_of_mem_asleep_resume asleep with old | ⟨_, _, isPace, rfl⟩
        · exact .inl old
        · obtain ⟨rfl, rfl⟩ := Pace.sleepUntil.inj isPace
          exact .inr ⟨expected, deadline, call, by rw [heardAll], rfl⟩
      have sameNow : after.now = waiting.now := isAfter ▸ Timeline.now_resume _ _ _ _
      rw [← sameNow]
      refine keepsAfter.sleep ⟨fun _ _ => keeps.notMem_ended isOpen, ?_⟩
      obtain ⟨⟨since, patience, began, rfl⟩, _, fewer⟩ := suits
      exact ⟨since, expected, patience, began, keeps.notices ▸ heardAll ▸ fewer, sameNow ▸ early⟩

/-! ## All moves -/

theorem Keeps.meet (keeps : Keeps log waiting) (demand : Demand) :
    Keeps (log ++ events waiting (.demand demand)) (Watchroom.meet waiting demand) := by
  cases demand with
  | insert sequence number payload =>
      rw [events, List.append_nil]
      exact keeps.quiet rfl (List.Subset.refl _) (Nat.le_refl _) rfl rfl rfl
  | failNext count =>
      rw [events, List.append_nil]
      exact keeps.quiet rfl (List.Subset.refl _) (Nat.le_refl _) rfl rfl rfl
  | remove sequence numbers => exact keeps.remove sequence numbers

theorem Keeps.move {move : Move} (keeps : Keeps log waiting)
    (moved : move? waiting move = some after) : Keeps (log ++ events waiting move) after := by
  cases move with
  | begin name expected patience =>
      obtain rfl := Option.some.inj moved
      exact keeps.begin name expected patience
  | join name =>
      obtain rfl := Option.some.inj moved
      rw [events, List.append_nil]
      exact keeps.quiet rfl (List.Subset.refl _) (Nat.le_refl _) rfl rfl
        (waiting.world.calls.answers_join name)
  | demand demand =>
      obtain rfl := Option.some.inj moved
      exact keeps.meet demand
  | step index => exact keeps.step moved
  | rouse index position =>
      obtain ⟨sameRunning, sameWorld, sameNow, asleep⟩ := Timeline.disturb_eq_some moved
      rw [events, List.append_nil]
      exact keeps.quiet sameRunning asleep (Nat.le_of_eq sameNow.symm) (by rw [sameWorld])
        (by rw [sameWorld]) (by rw [sameWorld])
  | pass instant =>
      obtain ⟨later, rfl⟩ := eq_of_pass moved
      rw [events, List.append_nil]
      exact keeps.quiet rfl (List.Subset.refl _) later rfl rfl rfl

theorem keeps_history {allowed : Waiting → Move → Prop}
    (history : machine.History allowed log waiting) : Keeps log waiting :=
  history.preserves keeps_start fun keeps _ moved => keeps.move moved

end

end Redelivery.Store.Watchroom
