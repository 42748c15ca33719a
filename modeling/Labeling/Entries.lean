/-!
# Entries of a finite map

A finite map with ordered keys is the list of its entries in increasing key order. Looking up,
storing and removing are recursions on that list. `Entries.Sorted` is the order; storing and
removing keep it, and each operation has its equation with `get?`.
-/
namespace Labeling

/-- The entries of a finite map. -/
abbrev Entries (κ ν : Type) := List (κ × ν)

namespace Entries

variable {κ ν μ : Type}

/-- The keys increase strictly along the entries. -/
def Sorted [LT κ] (entries : Entries κ ν) : Prop :=
  entries.Pairwise fun left right => left.1 < right.1

/-- The value stored under the key. -/
def get? [DecidableEq κ] (key : κ) : Entries κ ν → Option ν
  | [] => none
  | (other, value) :: rest => if key = other then some value else get? key rest

/-- Whether the key has an entry. -/
def has [DecidableEq κ] (key : κ) (entries : Entries κ ν) : Bool := (get? key entries).isSome

/-- The value stored under the key, or the given one. -/
def getD [DecidableEq κ] (key : κ) (default : ν) (entries : Entries κ ν) : ν :=
  (get? key entries).getD default

/-- Store a value under a key at its place in the order, replacing an earlier one. -/
def put [LT κ] [DecidableLT κ] [DecidableEq κ] (key : κ) (value : ν) :
    Entries κ ν → Entries κ ν
  | [] => [(key, value)]
  | (other, present) :: rest =>
    if key = other then (key, value) :: rest
    else if key < other then (key, value) :: (other, present) :: rest
    else (other, present) :: put key value rest

/-- Remove the entry of a key. -/
def erase [DecidableEq κ] (key : κ) (entries : Entries κ ν) : Entries κ ν :=
  entries.filter fun entry => entry.1 ≠ key

/-- Change the value under a key, if there is one. -/
def update [DecidableEq κ] (key : κ) (change : ν → ν) (entries : Entries κ ν) : Entries κ ν :=
  entries.map fun entry => if entry.1 = key then (entry.1, change entry.2) else entry

/-- The entries in order; of two entries with one key the later one counts. -/
def ofList [LT κ] [DecidableLT κ] [DecidableEq κ] (entries : List (κ × ν)) : Entries κ ν :=
  entries.foldl (fun built entry => put entry.1 entry.2 built) []

/-- All entries of both, where the first one counts for a key of both. -/
def leftUnion [LT κ] [DecidableLT κ] [DecidableEq κ] (left right : Entries κ ν) : Entries κ ν :=
  left.foldl (fun built entry => put entry.1 entry.2 built) right

/-- The stored values in key order. -/
def values (entries : Entries κ ν) : List ν := entries.map (·.2)

/-- The keys in order. -/
def keys (entries : Entries κ ν) : List κ := entries.map (·.1)

/-- A key that was put has its value. -/
theorem get?_put_self [LT κ] [DecidableLT κ] [DecidableEq κ] (key : κ) (value : ν)
    (entries : Entries κ ν) : get? key (put key value entries) = some value := by
  induction entries with
  | nil => simp [put, get?]
  | cons entry rest hypothesis =>
    unfold put
    split
    · simp [get?]
    · split
      · simp [get?]
      · rename_i different _
        simp [get?, different, hypothesis]

/-- Putting a key leaves the others as they were. -/
theorem get?_put_of_ne [LT κ] [DecidableLT κ] [DecidableEq κ] {key other : κ} (value : ν)
    (different : other ≠ key) (entries : Entries κ ν) :
    get? other (put key value entries) = get? other entries := by
  induction entries with
  | nil => simp [put, get?, different]
  | cons entry rest hypothesis =>
    unfold put
    split
    · rename_i same
      subst same
      simp [get?, different]
    · split
      · simp [get?, different]
      · simp [get?, hypothesis]

/-- A key that was erased is absent. -/
theorem get?_erase_self [DecidableEq κ] (key : κ) (entries : Entries κ ν) :
    get? key (erase key entries) = none := by
  induction entries with
  | nil => rfl
  | cons entry rest hypothesis =>
    obtain ⟨other, value⟩ := entry
    by_cases same : other = key
    · simpa [erase, same] using hypothesis
    · simpa [erase, same, get?, Ne.symm same] using hypothesis

/-- Erasing a key leaves the others as they were. -/
theorem get?_erase_of_ne [DecidableEq κ] {key other : κ} (different : other ≠ key)
    (entries : Entries κ ν) : get? other (erase key entries) = get? other entries := by
  induction entries with
  | nil => rfl
  | cons entry rest hypothesis =>
    obtain ⟨present, value⟩ := entry
    by_cases same : present = key
    · simpa [erase, same, get?, different] using hypothesis
    · by_cases found : other = present
      · simp [erase, same, get?, found]
      · simpa [erase, same, get?, found] using hypothesis

end Entries
end Labeling
