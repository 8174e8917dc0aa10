import Mathlib.Algebra.BigOperators.Group.List.Basic
import Mathlib.Algebra.GroupWithZero.Nat
import Mathlib.Data.List.Nodup
import Redelivery.Keyed

/-!
# Maps with distinct keys

Every map that is built from the empty one by putting and removing has distinct
keys.  Then its entries are exactly what looking up finds, and the values under
lists of keys can be counted entry by entry.
-/

namespace Redelivery.Keyed

variable {κ α : Type} [DecidableEq κ]

/-- No key occurs twice. -/
def Distinct (map : Keyed κ α) : Prop :=
  map.keys.Nodup

omit [DecidableEq κ] in
theorem distinct_empty : (empty : Keyed κ α).Distinct :=
  List.nodup_nil

theorem mem_keys_putIn_iff {key other : κ} {value : α} {entries : List (κ × α)} :
    other ∈ (putIn key value entries).map Prod.fst ↔
      other = key ∨ other ∈ entries.map Prod.fst := by
  induction entries with
  | nil => simp [putIn]
  | cons entry rest inductionHypothesis =>
      by_cases same : entry.1 = key
      · simp [putIn, same]
      · simp only [putIn, same, if_false, List.map_cons, List.mem_cons, inductionHypothesis]
        exact or_left_comm

theorem Distinct.put {map : Keyed κ α} (distinct : map.Distinct) (key : κ) (value : α) :
    (map.put key value).Distinct := by
  rcases map with ⟨entries⟩
  change (entries.map Prod.fst).Nodup at distinct
  change ((putIn key value entries).map Prod.fst).Nodup
  induction entries with
  | nil => simp [putIn]
  | cons entry rest inductionHypothesis =>
      rcases List.nodup_cons.mp distinct with ⟨fresh, restDistinct⟩
      by_cases same : entry.1 = key
      · subst same
        simpa [putIn] using distinct
      · simp only [putIn, same, if_false, List.map_cons]
        refine List.nodup_cons.mpr ⟨?_, inductionHypothesis restDistinct⟩
        intro present
        rcases mem_keys_putIn_iff.mp present with equal | inRest
        · exact same equal
        · exact fresh inRest

theorem Distinct.remove {map : Keyed κ α} (distinct : map.Distinct) (key : κ) :
    (map.remove key).Distinct :=
  List.Nodup.sublist ((List.filter_sublist).map Prod.fst) distinct

theorem findIn_eq_none_of_not_mem {key : κ} {entries : List (κ × α)}
    (absent : key ∉ entries.map Prod.fst) : findIn key entries = none := by
  induction entries with
  | nil => rfl
  | cons entry rest inductionHypothesis =>
      simp only [List.map_cons, List.mem_cons, not_or] at absent
      simp [findIn, Ne.symm absent.1, inductionHypothesis absent.2]

theorem putIn_of_findIn {key : κ} {value : α} {entries : List (κ × α)}
    (found : findIn key entries = some value) : putIn key value entries = entries := by
  induction entries with
  | nil => cases found
  | cons entry rest inductionHypothesis =>
      by_cases same : entry.1 = key
      · rw [findIn, if_pos same] at found
        rw [putIn, if_pos same, ← Option.some.inj found, ← same]
      · rw [findIn, if_neg same] at found
        rw [putIn, if_neg same, inductionHypothesis found]

/-- Putting what is there changes nothing. -/
theorem put_of_find? {map : Keyed κ α} {key : κ} {value : α}
    (found : map.find? key = some value) : map.put key value = map :=
  congrArg mk (putIn_of_findIn found)

/-- A value that is put under a key takes the place of the one that was put there before. -/
theorem put_put (map : Keyed κ α) (key : κ) (first second : α) :
    (map.put key first).put key second = map.put key second := by
  rcases map with ⟨entries⟩
  apply congrArg mk
  change putIn key second (putIn key first entries) = putIn key second entries
  induction entries with
  | nil => simp [putIn]
  | cons entry rest inductionHypothesis =>
      by_cases same : entry.1 = key
      · simp [putIn, same]
      · simp only [putIn, same, if_false, inductionHypothesis]

theorem remove_remove (map : Keyed κ α) (key : κ) :
    (map.remove key).remove key = map.remove key := by
  simp [remove, List.filter_filter]

/-- Looking up finds what is there. -/
theorem mem_entries_iff {map : Keyed κ α} (distinct : map.Distinct) {key : κ} {value : α} :
    (key, value) ∈ map.entries ↔ map.find? key = some value := by
  rcases map with ⟨entries⟩
  change (entries.map Prod.fst).Nodup at distinct
  change (key, value) ∈ entries ↔ findIn key entries = some value
  induction entries with
  | nil => simp [findIn]
  | cons entry rest inductionHypothesis =>
      obtain ⟨fresh, restDistinct⟩ := List.nodup_cons.mp distinct
      by_cases same : entry.1 = key
      · subst same
        have absent : (entry.1, value) ∉ rest := fun present =>
          fresh (List.mem_map.mpr ⟨_, present, rfl⟩)
        simp only [List.mem_cons, absent, or_false, findIn, if_true, Option.some.injEq]
        exact ⟨fun equal => (congrArg Prod.snd equal).symm, fun equal => by rw [← equal]⟩
      · have different : (key, value) ≠ entry := fun equal => same (congrArg Prod.fst equal).symm
        simpa [findIn, same, different] using inductionHypothesis restDistinct

/-- A map with distinct keys is looked up in any order. -/
theorem find?_of_perm {map other : Keyed κ α} (distinct : map.Distinct)
    (perm : other.entries.Perm map.entries) (key : κ) :
    other.find? key = map.find? key := by
  have otherDistinct : other.Distinct := (perm.map Prod.fst).nodup_iff.mpr distinct
  refine Option.ext fun value => ?_
  rw [← mem_entries_iff otherDistinct, ← mem_entries_iff distinct]
  exact perm.mem_iff

theorem mem_values_iff {map : Keyed κ α} (distinct : map.Distinct) {value : α} :
    value ∈ map.values ↔ ∃ key, map.find? key = some value := by
  simp only [values, List.mem_map, Prod.exists, mem_entries_iff distinct, exists_eq_right]

theorem mem_keys_iff {map : Keyed κ α} (distinct : map.Distinct) {key : κ} :
    key ∈ map.keys ↔ ∃ value, map.find? key = some value := by
  simp only [keys, List.mem_map, Prod.exists, mem_entries_iff distinct, exists_and_right,
    exists_eq_right]

/-! ## Lists under keys -/

/-- The list under a key; a key that is absent has the empty one. -/
def listAt (map : Keyed κ (List α)) (key : κ) : List α :=
  (map.find? key).getD []

/-- The number of elements under all keys. -/
def total (map : Keyed κ (List α)) : Nat :=
  map.values.flatten.length

theorem find?_put (map : Keyed κ α) (key : κ) (value : α) (other : κ) :
    (map.put key value).find? other = if other = key then some value else map.find? other := by
  by_cases same : other = key
  · simp [same]
  · simp [same, find?_put_of_ne same]

theorem find?_remove (map : Keyed κ α) (key other : κ) :
    (map.remove key).find? other = if other = key then none else map.find? other := by
  by_cases same : other = key
  · simp [same]
  · simp [same, find?_remove_of_ne same]

theorem has_put (map : Keyed κ α) (key : κ) (value : α) (other : κ) :
    (map.put key value).has other = if other = key then true else map.has other := by
  by_cases same : other = key <;> simp [has, find?_put, same]

theorem has_remove (map : Keyed κ α) (key other : κ) :
    (map.remove key).has other = if other = key then false else map.has other := by
  by_cases same : other = key <;> simp [has, find?_remove, same]

theorem find?_eq_none_of_has {map : Keyed κ α} {key : κ} (absent : map.has key = false) :
    map.find? key = none := by
  simpa [has] using absent

theorem listAt_put (map : Keyed κ (List α)) (key : κ) (list : List α) (other : κ) :
    (map.put key list).listAt other = if other = key then list else map.listAt other := by
  by_cases same : other = key <;> simp [listAt, find?_put, same]

theorem listAt_remove (map : Keyed κ (List α)) (key other : κ) :
    (map.remove key).listAt other = if other = key then [] else map.listAt other := by
  by_cases same : other = key <;> simp [listAt, find?_remove, same]

theorem mem_flatten_values_iff {map : Keyed κ (List α)} (distinct : map.Distinct)
    {element : α} : element ∈ map.values.flatten ↔ ∃ key, element ∈ map.listAt key := by
  simp only [List.mem_flatten, mem_values_iff distinct, listAt]
  constructor
  · rintro ⟨list, ⟨key, found⟩, present⟩
    exact ⟨key, by simpa [found] using present⟩
  · rintro ⟨key, present⟩
    cases found : map.find? key with
    | none => simp [found] at present
    | some list => exact ⟨list, ⟨key, found⟩, by simpa [found] using present⟩

/-- If no element is under two keys or twice under one, none is there twice. -/
theorem nodup_flatten_values {map : Keyed κ (List α)} (distinct : map.Distinct)
    (each : ∀ key, (map.listAt key).Nodup)
    (apart : ∀ key other element, element ∈ map.listAt key → element ∈ map.listAt other →
      key = other) : map.values.flatten.Nodup := by
  have isListAt : ∀ entry ∈ map.entries, map.listAt entry.1 = entry.2 := by
    rintro ⟨key, list⟩ present
    rw [listAt, (mem_entries_iff distinct).mp present, Option.getD_some]
  have keysApart : map.entries.Pairwise fun first second => first.1 ≠ second.1 :=
    List.pairwise_map.mp distinct
  rw [values, List.nodup_flatten, List.pairwise_map]
  constructor
  · intro list present
    rcases List.mem_map.mp present with ⟨entry, isEntry, rfl⟩
    rw [← isListAt entry isEntry]
    exact each entry.1
  · apply keysApart.imp_of_mem
    intro first second isFirst isSecond different element inFirst inSecond
    rw [← isListAt first isFirst] at inFirst
    rw [← isListAt second isSecond] at inSecond
    exact different (apart _ _ element inFirst inSecond)

/-- Putting a list under a key replaces the one that is there. -/
theorem total_put (map : Keyed κ (List α)) (key : κ) (list : List α) :
    (map.put key list).total + (map.listAt key).length = map.total + list.length := by
  rcases map with ⟨entries⟩
  simp only [total, values, listAt, find?, put]
  induction entries with
  | nil => simp [putIn, findIn]
  | cons entry rest inductionHypothesis =>
      by_cases same : entry.1 = key
      · simp only [putIn, findIn, same, if_true, List.map_cons, List.flatten_cons,
          List.length_append, Option.getD_some]
        omega
      · simp only [putIn, findIn, same, if_false, List.map_cons, List.flatten_cons,
          List.length_append]
        omega

theorem total_remove {map : Keyed κ (List α)} (distinct : map.Distinct) (key : κ) :
    (map.remove key).total + (map.listAt key).length = map.total := by
  rcases map with ⟨entries⟩
  change (entries.map Prod.fst).Nodup at distinct
  simp only [total, values, listAt, find?, remove]
  induction entries with
  | nil => simp [findIn]
  | cons entry rest inductionHypothesis =>
      rcases List.nodup_cons.mp distinct with ⟨fresh, restDistinct⟩
      by_cases same : entry.1 = key
      · subst same
        have kept : (rest.filter fun other => other.1 ≠ entry.1) = rest := by
          refine List.filter_eq_self.mpr fun other present => ?_
          have different : other.1 ≠ entry.1 := fun equal =>
            fresh (equal ▸ List.mem_map_of_mem present)
          simp [different]
        simp only [ne_eq, not_true_eq_false, decide_false, Bool.false_eq_true, not_false_eq_true,
          List.filter_cons_of_neg, findIn, if_true, Option.getD_some, List.map_cons,
          List.flatten_cons, List.length_append] at kept ⊢
        rw [kept]
        omega
      · have counted := inductionHypothesis restDistinct
        simp only [ne_eq, same, not_false_eq_true, decide_true, List.filter_cons_of_pos, findIn,
          if_false, List.map_cons, List.flatten_cons, List.length_append] at counted ⊢
        omega

/-- The elements can be counted key by key, as long as no key with elements is
left out. -/
theorem sum_length_listAt {map : Keyed κ (List α)} (distinct : map.Distinct) {keys : List κ}
    (keysDistinct : keys.Nodup) (complete : ∀ key, map.listAt key ≠ [] → key ∈ keys) :
    (keys.map fun key => (map.listAt key).length).sum = map.total := by
  obtain ⟨entries⟩ := map
  change (entries.map Prod.fst).Nodup at distinct
  simp only [total, values, listAt, find?] at complete ⊢
  induction entries with
  | nil => simp [findIn]
  | cons entry rest inductionHypothesis =>
      rcases List.nodup_cons.mp distinct with ⟨fresh, restDistinct⟩
      have absent : findIn entry.1 rest = none := findIn_eq_none_of_not_mem fresh
      have restComplete : ∀ key, (findIn key rest).getD [] ≠ [] → key ∈ keys := by
        intro key occupied
        apply complete key
        by_cases same : entry.1 = key
        · subst same
          simp [absent] at occupied
        · simpa [findIn, same] using occupied
      have counted := inductionHypothesis restComplete restDistinct
      have split : ∀ key, ((findIn key (entry :: rest)).getD []).length =
          (if entry.1 = key then entry.2.length else 0) + ((findIn key rest).getD []).length := by
        intro key
        by_cases same : entry.1 = key
        · subst same
          simp [findIn, absent]
        · simp [findIn, same]
      have own : (keys.map fun key => if entry.1 = key then entry.2.length else 0).sum =
          entry.2.length := by
        by_cases listed : entry.1 ∈ keys
        · have once : keys.count entry.1 = 1 := List.count_eq_one_of_mem keysDistinct listed
          rw [List.sum_map_eq_nsmul_single entry.1 _ fun other different _ =>
            if_neg (Ne.symm different), once]
          simp
        · have unoccupied : entry.2 = [] := by
            by_contra occupied
            exact listed (complete entry.1 (by simpa [findIn] using occupied))
          simp [unoccupied]
      calc
        (keys.map fun key => ((findIn key (entry :: rest)).getD []).length).sum =
            (keys.map fun key => if entry.1 = key then entry.2.length else 0).sum +
              (keys.map fun key => ((findIn key rest).getD []).length).sum := by
          simp only [split, List.sum_map_add]
        _ = entry.2.length + (rest.map Prod.snd).flatten.length := by rw [own, counted]
        _ = ((entry :: rest).map Prod.snd).flatten.length := by simp

end Redelivery.Keyed
