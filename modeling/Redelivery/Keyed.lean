/-!
# Values under keys

A finite map as a list of pairs.  A key keeps the place it first got, and
putting a value under a key that is present replaces the value in its place.
-/

namespace Redelivery

/-- Values under keys, each key at most once, in order of first insertion. -/
structure Keyed (κ α : Type) where
  entries : List (κ × α)
  deriving DecidableEq, Repr

namespace Keyed

variable {κ α : Type} [DecidableEq κ]

/-- No key at all. -/
def empty : Keyed κ α :=
  ⟨[]⟩

/-- Look a key up among pairs. -/
def findIn (key : κ) : List (κ × α) → Option α
  | [] => none
  | entry :: rest => if entry.1 = key then some entry.2 else findIn key rest

/-- Replace the value under a key, or add the key at the end. -/
def putIn (key : κ) (value : α) : List (κ × α) → List (κ × α)
  | [] => [(key, value)]
  | entry :: rest =>
      if entry.1 = key then (key, value) :: rest
      else entry :: putIn key value rest

/-- The value under a key. -/
def find? (map : Keyed κ α) (key : κ) : Option α :=
  findIn key map.entries

/-- Put a value under a key. -/
def put (map : Keyed κ α) (key : κ) (value : α) : Keyed κ α :=
  ⟨putIn key value map.entries⟩

/-- Drop a key and its value. -/
def remove (map : Keyed κ α) (key : κ) : Keyed κ α :=
  ⟨map.entries.filter fun entry => entry.1 ≠ key⟩

/-- Whether a key is present. -/
def has (map : Keyed κ α) (key : κ) : Bool :=
  (map.find? key).isSome

/-- The keys in their order. -/
def keys (map : Keyed κ α) : List κ :=
  map.entries.map Prod.fst

/-- The values in the order of their keys. -/
def values (map : Keyed κ α) : List α :=
  map.entries.map Prod.snd

/-- Pairs put one after the other. -/
def ofList (pairs : List (κ × α)) : Keyed κ α :=
  pairs.foldl (fun map pair => map.put pair.1 pair.2) empty

@[simp]
theorem find?_empty (key : κ) : (empty : Keyed κ α).find? key = none :=
  rfl

theorem findIn_putIn_self (key : κ) (value : α) (entries : List (κ × α)) :
    findIn key (putIn key value entries) = some value := by
  induction entries with
  | nil => simp [putIn, findIn]
  | cons entry rest inductionHypothesis =>
      by_cases same : entry.1 = key
      · simp [putIn, findIn, same]
      · simp [putIn, findIn, same, inductionHypothesis]

theorem findIn_putIn_of_ne {key other : κ} (different : other ≠ key) (value : α)
    (entries : List (κ × α)) :
    findIn other (putIn key value entries) = findIn other entries := by
  induction entries with
  | nil => simp [putIn, findIn, different.symm]
  | cons entry rest inductionHypothesis =>
      by_cases same : entry.1 = key
      · simp [putIn, findIn, same, different.symm]
      · simp only [putIn, findIn, same, if_false, inductionHypothesis]

@[simp]
theorem find?_put_self (map : Keyed κ α) (key : κ) (value : α) :
    (map.put key value).find? key = some value :=
  findIn_putIn_self key value map.entries

theorem find?_put_of_ne {key other : κ} (different : other ≠ key) (map : Keyed κ α)
    (value : α) : (map.put key value).find? other = map.find? other :=
  findIn_putIn_of_ne different value map.entries

theorem findIn_filter_self (key : κ) (entries : List (κ × α)) :
    findIn key (entries.filter fun entry => entry.1 ≠ key) = none := by
  induction entries with
  | nil => rfl
  | cons entry rest inductionHypothesis =>
      by_cases same : entry.1 = key
      · simpa [List.filter, same] using inductionHypothesis
      · simpa [List.filter, same, findIn] using inductionHypothesis

theorem findIn_filter_of_ne {key other : κ} (different : other ≠ key)
    (entries : List (κ × α)) :
    findIn other (entries.filter fun entry => entry.1 ≠ key) = findIn other entries := by
  induction entries with
  | nil => rfl
  | cons entry rest inductionHypothesis =>
      by_cases same : entry.1 = key
      · have skipped : ¬ entry.1 = other := fun equal => different (equal ▸ same)
        simpa [List.filter, same, findIn, different.symm] using inductionHypothesis
      · by_cases found : entry.1 = other
        · simp [List.filter, findIn, found, different]
        · simpa [List.filter, same, findIn, found] using inductionHypothesis

@[simp]
theorem find?_remove_self (map : Keyed κ α) (key : κ) :
    (map.remove key).find? key = none :=
  findIn_filter_self key map.entries

theorem find?_remove_of_ne {key other : κ} (different : other ≠ key) (map : Keyed κ α) :
    (map.remove key).find? other = map.find? other :=
  findIn_filter_of_ne different map.entries

end Keyed

end Redelivery
