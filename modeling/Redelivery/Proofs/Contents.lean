import Mathlib.Data.Finmap
import Redelivery.Proofs.Keyed
import Redelivery.Store.Records

/-!
# What a store holds

A store of records stands for a finite map from sequence and number to payload.  However messages
were stored and removed before, every request is answered as by the map, and whatever can be looked
up is what the map says.  A store never holds more than its capacity allows, and no sequence
without records.
-/

namespace Redelivery.Store

/-! ## Records by ascending number -/

/-- Each record has a greater number than those before it. -/
def Ascending (list : List Record) : Prop :=
  list.Pairwise fun first second => first.number < second.number

theorem mem_place_iff {record other : Record} {list : List Record} :
    other ∈ Records.place record list ↔ other = record ∨ other ∈ list := by
  induction list with
  | nil => simp [Records.place]
  | cons next rest inductionHypothesis =>
      unfold Records.place
      split
      · exact List.mem_cons
      · rw [List.mem_cons, inductionHypothesis, List.mem_cons]
        exact or_left_comm

/-- A record with a number that is not in use yet goes where it belongs. -/
theorem Ascending.place {record : Record} {list : List Record} (ascending : Ascending list)
    (fresh : ∀ other ∈ list, other.number ≠ record.number) :
    Ascending (Records.place record list) := by
  induction list with
  | nil => exact List.pairwise_singleton _ _
  | cons next rest inductionHypothesis =>
      obtain ⟨behind, restAscending⟩ := List.pairwise_cons.mp ascending
      unfold Records.place
      split
      · next less =>
          refine List.pairwise_cons.mpr ⟨fun other present => ?_, ascending⟩
          rcases List.mem_cons.mp present with rfl | inRest
          · exact less
          · exact Nat.lt_trans less (behind other inRest)
      · next notLess =>
          have greater : next.number < record.number :=
            Nat.lt_of_le_of_ne (Nat.not_lt.mp notLess) (fresh next List.mem_cons_self)
          refine List.pairwise_cons.mpr ⟨fun other present => ?_, ?_⟩
          · rcases mem_place_iff.mp present with rfl | inRest
            · exact greater
            · exact behind other inRest
          · exact inductionHypothesis restAscending
              fun other present => fresh other (List.mem_cons_of_mem next present)

/-- A number leads to the one record that has it. -/
theorem Ascending.find?_eq_some_iff {list : List Record} (ascending : Ascending list)
    {number : Nat} {record : Record} :
    (list.find? fun other => other.number = number) = some record ↔
      record ∈ list ∧ record.number = number := by
  constructor
  · intro found
    exact ⟨List.mem_of_find?_eq_some found, by simpa using List.find?_some found⟩
  · rintro ⟨present, rfl⟩
    induction list with
    | nil => cases present
    | cons next rest inductionHypothesis =>
        obtain ⟨behind, restAscending⟩ := List.pairwise_cons.mp ascending
        rcases List.mem_cons.mp present with rfl | inRest
        · simp
        · rw [List.find?_cons_of_neg]
          · exact inductionHypothesis restAscending inRest
          · simpa using Nat.ne_of_lt (behind record inRest)

/-! ## Requests -/

section

variable {ρ α σ : Type}

/-- Carry out one request after the other, and note each with its answer. -/
def playAll (carryOut : σ → ρ → α × σ) : List ρ → σ → List (ρ × α) × σ
  | [], state => ([], state)
  | request :: rest, state =>
      let made := carryOut state request
      let further := playAll carryOut rest made.2
      ((request, made.1) :: further.1, further.2)

theorem playAll_concat (carryOut : σ → ρ → α × σ) (requests : List ρ) (request : ρ) (state : σ) :
    playAll carryOut (requests ++ [request]) state =
      let before := playAll carryOut requests state
      let made := carryOut before.2 request
      (before.1 ++ [(request, made.1)], made.2) := by
  induction requests generalizing state with
  | nil => rfl
  | cons first rest inductionHypothesis =>
      rw [List.cons_append, playAll, inductionHypothesis]
      rfl

theorem map_fst_playAll (carryOut : σ → ρ → α × σ) (requests : List ρ) (state : σ) :
    (playAll carryOut requests state).1.map Prod.fst = requests := by
  induction requests generalizing state with
  | nil => rfl
  | cons request rest inductionHypothesis =>
      exact congrArg (List.cons request) (inductionHypothesis _)

end

/-- What can be asked of a store of records. -/
inductive Edit where
  | insert (sequence : SequenceKey) (number : Nat) (payload : List UInt8)
  | remove (sequence : SequenceKey) (numbers : List Nat)
  deriving DecidableEq, Repr

/-- Carry out a request.  The answer is the number of records that were removed, or a failure, after
which the store is as before. -/
def Records.edit (records : Records) : Edit → Except Failure Nat × Records
  | .insert sequence number payload =>
      match records.insert sequence number payload with
      | .ok changed => (.ok 0, changed)
      | .error failure => (.error failure, records)
  | .remove sequence numbers =>
      let (removed, kept) := records.remove sequence numbers
      (.ok removed, kept)

/-- Insertion with the sequence being given a place before anything is looked up in it, so that its
place is there even if the insertion fails then. -/
def Records.insertInPlace (records : Records) (sequence : SequenceKey) (number : Nat)
    (payload : List UInt8) : Except Failure Nat × Records :=
  if records.isFull then (.error (.full records.size (records.capacity.getD 0)), records)
  else
    let list := records.recordsOf sequence
    let opened := { records with sequences := records.sequences.put sequence list }
    if list.any fun record => record.number = number then
      (.error (.alreadyExists sequence number), opened)
    else
      (.ok 0,
        { opened with
          sequences := opened.sequences.put sequence (place { number, payload } list) })

/-- Payloads by sequence and number. -/
abbrev Contents := Finmap fun _ : SequenceKey × Nat => List UInt8

namespace Contents

/-- Drop what is under one number, and count it if there is anything. -/
def dropOne (sequence : SequenceKey) : Nat × Contents → Nat → Nat × Contents
  | (dropped, contents), number =>
      (if (sequence, number) ∈ contents then dropped + 1 else dropped,
        contents.erase (sequence, number))

/-- Carry out a request.  Numbers are removed one after the other. -/
def edit (capacity : Option Nat) (contents : Contents) : Edit → Except Failure Nat × Contents
  | .insert sequence number payload =>
      if ∃ limit ∈ capacity, limit ≤ contents.keys.card then
        (.error (.full contents.keys.card (capacity.getD 0)), contents)
      else if (sequence, number) ∈ contents then
        (.error (.alreadyExists sequence number), contents)
      else (.ok 0, Finmap.insert (sequence, number) payload contents)
  | .remove sequence numbers =>
      let (dropped, kept) := numbers.foldl (dropOne sequence) (0, contents)
      (.ok dropped, kept)

/-- Dropping numbers leaves what is not under one of them, and counts what is gone. -/
theorem foldl_dropOne (sequence : SequenceKey) (numbers : List Nat) (state : Nat × Contents) :
    (numbers.foldl (dropOne sequence) state).1 +
        (numbers.foldl (dropOne sequence) state).2.keys.card = state.1 + state.2.keys.card ∧
      ∀ other number, (numbers.foldl (dropOne sequence) state).2.lookup (other, number) =
        if other = sequence ∧ number ∈ numbers then none else state.2.lookup (other, number) := by
  induction numbers generalizing state with
  | nil => simp
  | cons first rest inductionHypothesis =>
      obtain ⟨dropped, contents⟩ := state
      obtain ⟨counted, looksUp⟩ :=
        inductionHypothesis (dropOne sequence (dropped, contents) first)
      rw [List.foldl_cons]
      constructor
      · rw [counted, dropOne, Finmap.keys_erase, Finset.card_erase_eq_ite]
        simp only [Finmap.mem_keys]
        split
        · next present =>
            have occupied : 0 < contents.keys.card :=
              Finset.card_pos.mpr ⟨_, Finmap.mem_keys.mpr present⟩
            omega
        · rfl
      · intro other number
        rw [looksUp, dropOne]
        by_cases same : other = sequence ∧ number = first
        · obtain ⟨rfl, rfl⟩ := same
          simp
        · have differs : (other, number) ≠ (sequence, first) :=
            fun equal => same (Prod.mk.inj equal)
          rw [Finmap.lookup_erase_ne differs]
          refine if_congr ⟨?_, ?_⟩ rfl rfl
          · exact fun listed => ⟨listed.1, List.mem_cons_of_mem first listed.2⟩
          · rintro ⟨rfl, listed⟩
            rcases List.mem_cons.mp listed with rfl | inRest
            · exact absurd ⟨rfl, rfl⟩ same
            · exact ⟨rfl, inRest⟩

end Contents

/-! ## Well-formed stores -/

namespace Records

variable {records changed : Records} {sequence : SequenceKey} {number : Nat}
  {payload : List UInt8}

/-- What every store of records keeps to. -/
structure Sound (records : Records) : Prop where
  distinct : records.sequences.Distinct
  ascending : ∀ sequence, Ascending (records.recordsOf sequence)
  /-- A sequence without records is not kept. -/
  occupied : ∀ sequence list, records.sequences.find? sequence = some list → list ≠ []
  within : ∀ limit ∈ records.capacity, records.size ≤ limit

theorem recordsOf_eq_listAt (records : Records) (sequence : SequenceKey) :
    records.recordsOf sequence = records.sequences.listAt sequence :=
  rfl

theorem size_eq_total (records : Records) : records.size = records.sequences.total :=
  rfl

theorem sound_empty (capacity : Option Nat) : (empty capacity).Sound where
  distinct := Keyed.distinct_empty
  ascending := fun _ => List.Pairwise.nil
  occupied := fun _ _ found => nomatch found
  within := fun _ _ => Nat.zero_le _

theorem length_place (record : Record) (list : List Record) :
    (place record list).length = list.length + 1 := by
  induction list with
  | nil => rfl
  | cons next rest inductionHypothesis =>
      unfold place
      split
      · rfl
      · rw [List.length_cons, inductionHypothesis, List.length_cons]

theorem isFull_eq_true_iff :
    records.isFull = true ↔ ∃ limit ∈ records.capacity, limit ≤ records.size := by
  cases isBounded : records.capacity <;> simp [isFull, isBounded]

theorem Sound.contains_iff (sound : records.Sound) :
    records.contains sequence number = true ↔
      ∃ payload, { number, payload } ∈ records.recordsOf sequence := by
  rw [contains, find?, Option.isSome_iff_exists]
  simp only [(sound.ascending sequence).find?_eq_some_iff]
  constructor
  · rintro ⟨record, present, rfl⟩
    exact ⟨record.payload, present⟩
  · rintro ⟨payload, present⟩
    exact ⟨_, present, rfl⟩

/-- An insertion that succeeds finds room, and its number not in use. -/
theorem insert_eq_ok (inserted : records.insert sequence number payload = .ok changed) :
    records.isFull = false ∧ records.contains sequence number = false ∧
      changed =
        { records with
          sequences := records.sequences.put sequence
            (place { number, payload } (records.recordsOf sequence)) } := by
  unfold insert at inserted
  split at inserted
  · cases inserted
  · next room =>
      split at inserted
      · cases inserted
      · next absent =>
          exact ⟨by simpa using room, by simpa using absent, (Except.ok.inj inserted).symm⟩

/-- A full store refuses an insertion before it looks for the number, and a refusal changes
nothing. -/
theorem edit_insert (records : Records) (sequence : SequenceKey) (number : Nat)
    (payload : List UInt8) :
    records.edit (.insert sequence number payload) =
      if records.isFull = true then
        (.error (.full records.size (records.capacity.getD 0)), records)
      else if records.contains sequence number = true then
        (.error (.alreadyExists sequence number), records)
      else
        (.ok 0,
          { records with
            sequences := records.sequences.put sequence
              (place { number, payload } (records.recordsOf sequence)) }) := by
  simp only [edit, insert]
  by_cases full : records.isFull = true
  · rw [if_pos full, if_pos full]
  · rw [if_neg full, if_neg full]
    by_cases present : records.contains sequence number = true
    · rw [if_pos present, if_pos present]
    · rw [if_neg present, if_neg present]

theorem recordsOf_of_insert (inserted : records.insert sequence number payload = .ok changed)
    (other : SequenceKey) :
    changed.recordsOf other =
      if other = sequence then place { number, payload } (records.recordsOf sequence)
      else records.recordsOf other := by
  obtain ⟨_, _, rfl⟩ := insert_eq_ok inserted
  exact Keyed.listAt_put _ _ _ _

theorem Sound.insert (sound : records.Sound)
    (inserted : records.insert sequence number payload = .ok changed) : changed.Sound := by
  have recordsOf := recordsOf_of_insert inserted
  obtain ⟨room, absent, rfl⟩ := insert_eq_ok inserted
  constructor
  case distinct => exact sound.distinct.put _ _
  case ascending =>
    intro other
    rw [recordsOf]
    split
    · apply (sound.ascending sequence).place
      rintro ⟨_, payload⟩ present rfl
      exact Bool.false_ne_true (absent.symm.trans (sound.contains_iff.mpr ⟨payload, present⟩))
    · exact sound.ascending other
  case occupied =>
    intro other list found
    rw [Keyed.find?_put] at found
    split at found
    · obtain rfl := Option.some.inj found
      exact List.ne_nil_of_mem (mem_place_iff.mpr (.inl rfl))
    · exact sound.occupied other list found
  case within =>
    intro limit bounded
    have grown := Keyed.total_put records.sequences sequence
      (place { number, payload } (records.recordsOf sequence))
    rw [length_place, recordsOf_eq_listAt] at grown
    have free : ¬ limit ≤ records.size := by
      intro full
      exact Bool.false_ne_true (room.symm.trans (isFull_eq_true_iff.mpr ⟨limit, bounded, full⟩))
    rw [size_eq_total] at free ⊢
    change (records.sequences.put sequence _).total ≤ limit
    rw [recordsOf_eq_listAt]
    omega

/-- The place that an insertion makes for its sequence is not left empty. -/
theorem insertInPlace_eq (records : Records) (sequence : SequenceKey) (number : Nat)
    (payload : List UInt8) :
    records.insertInPlace sequence number payload =
      records.edit (.insert sequence number payload) := by
  have isThere : ((records.recordsOf sequence).any fun record => record.number = number) =
      records.contains sequence number :=
    List.isSome_find?.symm
  rw [edit_insert, insertInPlace]
  by_cases full : records.isFull = true
  · rw [if_pos full, if_pos full]
  · rw [if_neg full, if_neg full]
    dsimp only
    rw [isThere, Keyed.put_put]
    by_cases present : records.contains sequence number = true
    · rw [if_pos present, if_pos present]
      cases found : records.sequences.find? sequence with
      | none => simp [contains, find?, recordsOf, found] at present
      | some list =>
          have sameRecords : records.recordsOf sequence = list := by simp [recordsOf, found]
          rw [sameRecords, Keyed.put_of_find? found]
    · rw [if_neg present, if_neg present]

/-! ## Removing records -/

theorem capacity_replace (records : Records) (sequence : SequenceKey) (list : List Record) :
    (records.replace sequence list).capacity = records.capacity := by
  unfold replace
  split <;> rfl

theorem find?_replace (records : Records) (sequence : SequenceKey) (list : List Record)
    (other : SequenceKey) :
    (records.replace sequence list).sequences.find? other =
      if other = sequence then (if list = [] then none else some list)
      else records.sequences.find? other := by
  unfold replace
  split
  · next isEmpty =>
      rw [Keyed.find?_remove, if_pos (List.isEmpty_iff.mp isEmpty)]
  · next occupied =>
      rw [Keyed.find?_put, if_neg (fun isEmpty => occupied (List.isEmpty_iff.mpr isEmpty))]

theorem recordsOf_replace (records : Records) (sequence : SequenceKey) (list : List Record)
    (other : SequenceKey) :
    (records.replace sequence list).recordsOf other =
      if other = sequence then list else records.recordsOf other := by
  rw [recordsOf, find?_replace]
  split
  · split
    · next isEmpty => exact isEmpty.symm
    · rfl
  · rfl

theorem Sound.size_replace (sound : records.Sound) (sequence : SequenceKey)
    (list : List Record) :
    (records.replace sequence list).size + (records.recordsOf sequence).length =
      records.size + list.length := by
  unfold replace
  split
  · next isEmpty =>
      rw [List.isEmpty_iff.mp isEmpty]
      exact Keyed.total_remove sound.distinct sequence
  · exact Keyed.total_put records.sequences sequence list

/-- The records of a sequence that a removal leaves. -/
def spared (records : Records) (sequence : SequenceKey) (numbers : List Nat) : List Record :=
  (records.recordsOf sequence).filter fun record => !numbers.contains record.number

theorem remove_eq (records : Records) (sequence : SequenceKey) (numbers : List Nat) :
    records.remove sequence numbers =
      ((records.recordsOf sequence).length - (records.spared sequence numbers).length,
        records.replace sequence (records.spared sequence numbers)) :=
  rfl

theorem length_spared_le (records : Records) (sequence : SequenceKey) (numbers : List Nat) :
    (records.spared sequence numbers).length ≤ (records.recordsOf sequence).length :=
  List.length_filter_le _ _

/-- What is gone after a removal is what it counted. -/
theorem Sound.size_remove (sound : records.Sound) (sequence : SequenceKey)
    (numbers : List Nat) :
    (records.remove sequence numbers).1 + (records.remove sequence numbers).2.size =
      records.size := by
  have counted := sound.size_replace sequence (records.spared sequence numbers)
  have atMost := records.length_spared_le sequence numbers
  rw [remove_eq]
  dsimp only
  omega

theorem Sound.remove (sound : records.Sound) (sequence : SequenceKey) (numbers : List Nat) :
    (records.remove sequence numbers).2.Sound := by
  have counted := sound.size_remove sequence numbers
  rw [remove_eq] at counted ⊢
  constructor
  case distinct =>
    unfold replace
    split
    · exact sound.distinct.remove sequence
    · exact sound.distinct.put sequence _
  case ascending =>
    intro other
    rw [recordsOf_replace]
    split
    · exact (sound.ascending sequence).filter _
    · exact sound.ascending other
  case occupied =>
    intro other list found
    rw [find?_replace] at found
    split at found
    · split at found
      · cases found
      · next occupied => exact Option.some.inj found ▸ occupied
    · exact sound.occupied other list found
  case within =>
    intro limit bounded
    rw [capacity_replace] at bounded
    have before := sound.within limit bounded
    dsimp only at counted ⊢
    omega

/-! ## The map that a store stands for -/

/-- The sequence and the number of every record. -/
def places (records : Records) : List (SequenceKey × Nat) :=
  records.sequences.entries.flatMap fun entry =>
    entry.2.map fun record => (entry.1, record.number)

theorem length_places (records : Records) : records.places.length = records.size := by
  simp [places, size, Keyed.values, List.length_flatMap, List.length_flatten, Function.comp_def]

theorem Sound.mem_places_iff (sound : records.Sound) :
    (sequence, number) ∈ records.places ↔
      ∃ payload, { number, payload } ∈ records.recordsOf sequence := by
  simp only [places, List.mem_flatMap, List.mem_map, Prod.mk.injEq, Prod.exists]
  constructor
  · rintro ⟨_, list, isEntry, record, present, rfl, rfl⟩
    refine ⟨record.payload, ?_⟩
    rw [recordsOf, (Keyed.mem_entries_iff sound.distinct).mp isEntry]
    exact present
  · rintro ⟨payload, present⟩
    cases found : records.sequences.find? sequence with
    | none => simp [recordsOf, found] at present
    | some list =>
        rw [recordsOf, found] at present
        exact ⟨sequence, list, (Keyed.mem_entries_iff sound.distinct).mpr found, _, present,
          rfl, rfl⟩

theorem Sound.nodup_places (sound : records.Sound) : records.places.Nodup := by
  rw [places, List.nodup_flatMap]
  constructor
  · rintro ⟨sequence, list⟩ isEntry
    have ascending := sound.ascending sequence
    rw [recordsOf, (Keyed.mem_entries_iff sound.distinct).mp isEntry] at ascending
    refine List.pairwise_map.mpr (ascending.imp fun less equal => ?_)
    exact Nat.ne_of_lt less (congrArg Prod.snd equal)
  · apply (List.pairwise_map.mp sound.distinct).imp
    intro first second different
    simp only [Function.onFun, List.disjoint_left, List.mem_map]
    rintro _ ⟨_, _, rfl⟩ ⟨_, _, equal⟩
    exact different (congrArg Prod.fst equal).symm

/-- A well-formed store has a record for each entry of a map, and no other one. -/
structure Holds (records : Records) (contents : Contents) : Prop where
  sound : records.Sound
  mem_iff : ∀ sequence number payload,
    { number, payload } ∈ records.recordsOf sequence ↔
      contents.lookup (sequence, number) = some payload

namespace Holds

variable {contents : Contents}

theorem empty (capacity : Option Nat) : (empty capacity).Holds ∅ where
  sound := sound_empty capacity
  mem_iff := by simp [recordsOf, Records.empty]

theorem exists_mem_iff (holds : records.Holds contents) :
    (∃ payload, { number, payload } ∈ records.recordsOf sequence) ↔
      (sequence, number) ∈ contents := by
  simp only [holds.mem_iff, Finmap.mem_iff]

theorem contains_iff (holds : records.Holds contents) :
    records.contains sequence number = true ↔ (sequence, number) ∈ contents :=
  holds.sound.contains_iff.trans holds.exists_mem_iff

theorem find?_eq (holds : records.Holds contents) (sequence : SequenceKey) (number : Nat) :
    records.find? sequence number =
      (contents.lookup (sequence, number)).map (Record.mk number) := by
  apply Option.ext
  intro record
  rw [find?, (holds.sound.ascending sequence).find?_eq_some_iff, Option.map_eq_some_iff]
  constructor
  · rintro ⟨present, rfl⟩
    exact ⟨record.payload, (holds.mem_iff _ _ _).mp present, rfl⟩
  · rintro ⟨payload, isThere, rfl⟩
    exact ⟨(holds.mem_iff _ _ _).mpr isThere, rfl⟩

theorem mem_numbers_iff (holds : records.Holds contents) :
    number ∈ records.numbers sequence ↔ (sequence, number) ∈ contents := by
  rw [← holds.exists_mem_iff, numbers, List.mem_map]
  constructor
  · rintro ⟨record, present, rfl⟩
    exact ⟨record.payload, present⟩
  · rintro ⟨payload, present⟩
    exact ⟨_, present, rfl⟩

theorem size_eq (holds : records.Holds contents) : records.size = contents.keys.card := by
  have sameKeys : contents.keys = records.places.toFinset := by
    ext ⟨sequence, number⟩
    rw [Finmap.mem_keys, List.mem_toFinset, holds.sound.mem_places_iff, holds.exists_mem_iff]
  rw [sameKeys, List.toFinset_card_of_nodup holds.sound.nodup_places, length_places]

theorem isEmpty_iff (holds : records.Holds contents) : records.isEmpty = true ↔ contents = ∅ := by
  rw [isEmpty, decide_eq_true_iff, holds.size_eq, Finset.card_eq_zero]
  constructor
  · intro noKeys
    apply Finmap.ext_lookup
    intro key
    rw [Finmap.lookup_empty, Finmap.lookup_eq_none, ← Finmap.mem_keys, noKeys]
    exact Finset.notMem_empty key
  · rintro rfl
    exact Finmap.keys_empty

/-! ## Requests -/

theorem insert (holds : records.Holds contents)
    (inserted : records.insert sequence number payload = .ok changed) :
    changed.Holds (Finmap.insert (sequence, number) payload contents) where
  sound := holds.sound.insert inserted
  mem_iff := by
    intro other otherNumber otherPayload
    have absent := (insert_eq_ok inserted).2.1
    rw [recordsOf_of_insert inserted]
    by_cases same : (other, otherNumber) = (sequence, number)
    · obtain ⟨rfl, rfl⟩ := Prod.mk.inj same
      rw [if_pos rfl, mem_place_iff, Finmap.lookup_insert, Option.some.injEq, Record.mk.injEq]
      constructor
      · rintro (⟨_, rfl⟩ | present)
        · rfl
        · exact absurd (holds.sound.contains_iff.mpr ⟨_, present⟩) (absent ▸ Bool.false_ne_true)
      · rintro rfl
        exact .inl ⟨rfl, rfl⟩
    · rw [Finmap.lookup_insert_of_ne _ same, ← holds.mem_iff]
      split
      · next isHere =>
          subst isHere
          rw [mem_place_iff, Record.mk.injEq]
          refine or_iff_right fun equal => same ?_
          rw [equal.1]
      · rfl

theorem remove (holds : records.Holds contents) (sequence : SequenceKey) (numbers : List Nat) :
    (records.remove sequence numbers).2.Holds
      (numbers.foldl (Contents.dropOne sequence) (0, contents)).2 where
  sound := holds.sound.remove sequence numbers
  mem_iff := by
    intro other number payload
    rw [(Contents.foldl_dropOne sequence numbers (0, contents)).2, remove_eq, recordsOf_replace]
    by_cases isHere : other = sequence
    · subst isHere
      by_cases listed : number ∈ numbers
      · simp [spared, listed]
      · simp [spared, listed, holds.mem_iff]
    · simp [isHere, holds.mem_iff]

/-- A request is answered as by the map, and leads to the same change. -/
theorem edit (holds : records.Holds contents) (request : Edit) :
    (records.edit request).1 = (contents.edit records.capacity request).1 ∧
      (records.edit request).2.Holds (contents.edit records.capacity request).2 ∧
      (records.edit request).2.capacity = records.capacity := by
  cases request with
  | insert sequence number payload =>
      rw [edit_insert, Contents.edit, ← holds.size_eq]
      by_cases full : records.isFull = true
      · rw [if_pos full, if_pos (isFull_eq_true_iff.mp full)]
        exact ⟨rfl, holds, rfl⟩
      · rw [if_neg full, if_neg (full ∘ isFull_eq_true_iff.mpr)]
        by_cases present : records.contains sequence number = true
        · rw [if_pos present, if_pos (holds.contains_iff.mp present)]
          exact ⟨rfl, holds, rfl⟩
        · rw [if_neg present, if_neg (present ∘ holds.contains_iff.mpr)]
          have inserted : records.insert sequence number payload = _ :=
            (if_neg full).trans (if_neg present)
          exact ⟨rfl, holds.insert inserted, rfl⟩
  | remove sequence numbers =>
      have after := holds.remove sequence numbers
      have counted := (Contents.foldl_dropOne sequence numbers (0, contents)).1
      have dropped := holds.sound.size_remove sequence numbers
      rw [after.size_eq, holds.size_eq] at dropped
      refine ⟨congrArg Except.ok (Nat.add_right_cancel (dropped.trans ?_)), after,
        capacity_replace _ _ _⟩
      rw [counted, Nat.zero_add]

theorem playAll (holds : records.Holds contents) (requests : List Edit) :
    (Store.playAll Records.edit requests records).1 =
        (Store.playAll (Contents.edit records.capacity) requests contents).1 ∧
      (Store.playAll Records.edit requests records).2.Holds
        (Store.playAll (Contents.edit records.capacity) requests contents).2 ∧
      (Store.playAll Records.edit requests records).2.capacity = records.capacity := by
  induction requests generalizing records contents with
  | nil => exact ⟨rfl, holds, rfl⟩
  | cons request rest inductionHypothesis =>
      obtain ⟨sameAnswer, after, sameCapacity⟩ := holds.edit request
      obtain ⟨sameAnswers, last, capacity⟩ := inductionHypothesis after
      rw [sameCapacity] at sameAnswers last capacity
      exact ⟨congrArg₂ List.cons (congrArg (Prod.mk request) sameAnswer) sameAnswers, last,
        capacity⟩

end Holds

/-! ## The main result -/

/-- What a store lets be seen is what a map says. -/
structure Shows (capacity : Option Nat) (contents : Contents) (records : Records) : Prop where
  find? : ∀ sequence number, records.find? sequence number =
    (contents.lookup (sequence, number)).map (Record.mk number)
  contains : ∀ sequence number,
    records.contains sequence number = true ↔ (sequence, number) ∈ contents
  numbers : ∀ sequence number,
    number ∈ records.numbers sequence ↔ (sequence, number) ∈ contents
  ascending : ∀ sequence, (records.numbers sequence).Pairwise (· < ·)
  size : records.size = contents.keys.card
  isEmpty : records.isEmpty = true ↔ contents = ∅
  bound : records.capacity = capacity
  within : ∀ limit ∈ capacity, records.size ≤ limit
  /-- A sequence without records is not kept. -/
  occupied : ∀ entry ∈ records.sequences.entries, entry.2 ≠ []

/-- What may be asked of a store is done to the map. -/
structure Obeys (capacity : Option Nat) (contents : Contents) (records : Records) : Prop where
  inserted : ∀ sequence number payload,
    (records.edit (.insert sequence number payload)).1 = .ok 0 ↔
      (∀ limit ∈ capacity, contents.keys.card < limit) ∧ (sequence, number) ∉ contents
  /-- Whether or not the number is in use. -/
  full : ∀ sequence number payload, ∀ limit ∈ capacity, limit ≤ contents.keys.card →
    (records.edit (.insert sequence number payload)).1 = .error (.full contents.keys.card limit)
  alreadyExists : ∀ sequence number payload, (∀ limit ∈ capacity, contents.keys.card < limit) →
    (sequence, number) ∈ contents →
    (records.edit (.insert sequence number payload)).1 = .error (.alreadyExists sequence number)
  unchanged : ∀ request failure, (records.edit request).1 = .error failure →
    (records.edit request).2 = records
  /-- The sequence may be given its place before anything else is looked at. -/
  inPlace : ∀ sequence number payload, records.insertInPlace sequence number payload =
    records.edit (.insert sequence number payload)
  removed : ∀ sequence numbers, ∃ removed,
    (records.edit (.remove sequence numbers)).1 = .ok removed ∧
      removed + (records.edit (.remove sequence numbers)).2.size = records.size
  gone : ∀ sequence numbers other number,
    (records.edit (.remove sequence numbers)).2.find? other number =
      if other = sequence ∧ number ∈ numbers then none else records.find? other number
  others : ∀ sequence numbers other, other ≠ sequence →
    (records.edit (.remove sequence numbers)).2.sequences.find? other =
      records.sequences.find? other

theorem Holds.shows {contents : Contents} (holds : records.Holds contents) :
    records.Shows records.capacity contents where
  find? := holds.find?_eq
  contains := fun _ _ => holds.contains_iff
  numbers := fun _ _ => holds.mem_numbers_iff
  ascending := fun sequence => List.pairwise_map.mpr (holds.sound.ascending sequence)
  size := holds.size_eq
  isEmpty := holds.isEmpty_iff
  bound := rfl
  within := holds.sound.within
  occupied := fun entry isEntry => holds.sound.occupied entry.1 entry.2
    ((Keyed.mem_entries_iff holds.sound.distinct).mp isEntry)

theorem Holds.obeys {contents : Contents} (holds : records.Holds contents) :
    records.Obeys records.capacity contents := by
  have hasRoom : records.isFull = true ↔
      ¬ ∀ limit ∈ records.capacity, contents.keys.card < limit := by
    rw [isFull_eq_true_iff, holds.size_eq]
    simp
  constructor
  case inserted =>
    intro sequence number payload
    rw [edit_insert, ← holds.contains_iff]
    by_cases full : records.isFull = true
    · rw [if_pos full]
      constructor
      · intro succeeds
        cases succeeds
      · rintro ⟨room, _⟩
        exact absurd room (hasRoom.mp full)
    · rw [if_neg full]
      by_cases present : records.contains sequence number = true
      · rw [if_pos present]
        constructor
        · intro succeeds
          cases succeeds
        · rintro ⟨_, absent⟩
          exact absurd present absent
      · rw [if_neg present]
        exact iff_of_true rfl ⟨not_not.mp (full ∘ hasRoom.mpr), present⟩
  case full =>
    intro sequence number payload limit bounded reached
    rw [edit_insert, if_pos (isFull_eq_true_iff.mpr ⟨limit, bounded, holds.size_eq ▸ reached⟩),
      holds.size_eq, Option.mem_def.mp bounded, Option.getD_some]
  case alreadyExists =>
    intro sequence number payload room present
    rw [edit_insert, if_neg fun full => hasRoom.mp full room,
      if_pos (holds.contains_iff.mpr present)]
  case unchanged =>
    intro request failure failed
    cases request with
    | insert sequence number payload =>
        rw [edit_insert] at failed ⊢
        split
        · rfl
        · split
          · rfl
          · next free absent =>
              rw [if_neg free, if_neg absent] at failed
              cases failed
    | remove sequence numbers => cases failed
  case inPlace => exact records.insertInPlace_eq
  case removed => exact fun sequence numbers => ⟨_, rfl, holds.sound.size_remove _ _⟩
  case gone =>
    intro sequence numbers other number
    change (records.remove sequence numbers).2.find? other number = _
    rw [(holds.remove sequence numbers).find?_eq, holds.find?_eq,
      (Contents.foldl_dropOne sequence numbers (0, contents)).2]
    split <;> rfl
  case others =>
    intro sequence numbers other different
    change (records.replace sequence (records.spared sequence numbers)).sequences.find? other = _
    rw [find?_replace, if_neg different]

/-- However messages were stored and removed, with or without a bound on their number, a store of
records answers as a map from sequence and number to payload, shows what the map says, and will do
to the next request what is done to the map. -/
theorem agrees_with_map (capacity : Option Nat) (requests : List Edit) :
    ∃ calls records contents,
      playAll edit requests (empty capacity) = (calls, records) ∧
      playAll (Contents.edit capacity) requests ∅ = (calls, contents) ∧
      records.Shows capacity contents ∧ records.Obeys capacity contents := by
  obtain ⟨sameAnswers, holds, sameCapacity⟩ := (Holds.empty capacity).playAll requests
  have shows_ := holds.shows
  have obeys := holds.obeys
  rw [sameCapacity] at shows_ obeys
  exact ⟨_, _, _, rfl, Prod.ext sameAnswers.symm rfl, shows_, obeys⟩

end Records

end Redelivery.Store
