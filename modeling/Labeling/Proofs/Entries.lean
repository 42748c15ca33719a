import Labeling.Entries
import Mathlib.Order.Defs.Unbundled

/-!
# Finite maps as ordered entries

What a finite map holds is told by `get?`, and every operation has its equation there. Sorted
entries are the only form of a map: two sorted lists that hold the same are equal
(`ext_of_sorted`), and storing, changing and removing keep entries sorted.
-/
namespace Labeling.Entries

variable {κ ν : Type}

/-- The key of an entry is among the keys. -/
theorem mem_keys {key : κ} {value : ν} {entries : Entries κ ν} (member : (key, value) ∈ entries) :
    key ∈ keys entries := List.mem_map.mpr ⟨(key, value), member, rfl⟩

/-- The values are those of the entries. -/
theorem mem_values {value : ν} {entries : Entries κ ν} :
    value ∈ values entries ↔ ∃ key, (key, value) ∈ entries := by
  rw [values, List.mem_map]
  constructor
  · rintro ⟨⟨key, found⟩, member, same⟩
    exact ⟨key, same ▸ member⟩
  · rintro ⟨key, member⟩
    exact ⟨(key, value), member, rfl⟩

instance [LT κ] [DecidableLT κ] (entries : Entries κ ν) : Decidable (Sorted entries) :=
  inferInstanceAs (Decidable (entries.Pairwise fun left right => left.1 < right.1))

/-- Entries with the keys of sorted ones are sorted. -/
theorem sorted_of_keys [LT κ] {μ : Type} {entries : Entries κ ν} {others : Entries κ μ}
    (same : keys entries = keys others) (sorted : Sorted others) : Sorted entries := by
  have order {entries : Entries κ μ} : Sorted entries ↔ (keys entries).Pairwise (· < ·) := by
    rw [keys, List.pairwise_map, Sorted]
  rw [order, ← same, keys, List.pairwise_map] at sorted
  exact sorted

/-- Below the first key of sorted entries there is no further key. -/
theorem not_mem_keys_of_sorted_cons [LT κ] [IsStrictTotalOrder κ (· < ·)] {key : κ} {value : ν}
    {rest : Entries κ ν} (sorted : Sorted ((key, value) :: rest)) : key ∉ keys rest := by
  intro member
  obtain ⟨entry, inside, same⟩ := List.mem_map.mp member
  have less := (List.pairwise_cons.mp sorted).1 entry inside
  exact irrefl_of (· < ·) key (same ▸ less)

/-- The keys of sorted entries are different. -/
theorem nodup_keys_of_sorted [LT κ] [IsStrictTotalOrder κ (· < ·)] {entries : Entries κ ν}
    (sorted : Sorted entries) : (keys entries).Nodup := by
  refine List.Pairwise.map _ ?_ sorted
  intro left right less same
  rw [same] at less
  exact irrefl_of (· < ·) right.1 less

/-- Of the entries with a property the last one has the greatest key. -/
theorem exists_last_of_sorted [LT κ] [IsStrictTotalOrder κ (· < ·)] {entries : Entries κ ν}
    (sorted : Sorted entries) (holds : κ × ν → Prop) {entry : κ × ν} (member : entry ∈ entries)
    (held : holds entry) :
    ∃ last ∈ entries, holds last ∧ ∀ other ∈ entries, holds other → ¬ last.1 < other.1 := by
  induction entries generalizing entry with
  | nil => contradiction
  | cons first rest hypothesis =>
    obtain ⟨below, restSorted⟩ := List.pairwise_cons.mp sorted
    -- The first entry is the last one with the property only if no later entry has it.
    by_cases later : ∃ other ∈ rest, holds other
    · obtain ⟨other, inside, otherHeld⟩ := later
      obtain ⟨last, lastInside, lastHeld, greatest⟩ := hypothesis restSorted inside otherHeld
      refine ⟨last, List.mem_cons_of_mem _ lastInside, lastHeld, fun other inside otherHeld => ?_⟩
      rcases List.mem_cons.mp inside with rfl | inside
      · exact asymm_of (· < ·) (below last lastInside)
      · exact greatest other inside otherHeld
    · have same : entry = first := (List.mem_cons.mp member).resolve_right fun inside =>
        later ⟨entry, inside, held⟩
      refine ⟨first, List.mem_cons_self, same ▸ held, fun other inside otherHeld => ?_⟩
      rcases List.mem_cons.mp inside with rfl | inside
      · exact irrefl_of (· < ·) other.1
      · exact absurd ⟨other, inside, otherHeld⟩ later

variable [DecidableEq κ]

/-- Nothing is stored in the empty map. -/
@[simp] theorem get?_nil (key : κ) : get? key ([] : Entries κ ν) = none := rfl

/-- The first entry counts for its own key. -/
theorem get?_cons (key other : κ) (value : ν) (rest : Entries κ ν) :
    get? key ((other, value) :: rest) = if key = other then some value else get? key rest := rfl

/-- A key has an entry when something is stored under it. -/
theorem has_eq_true_iff (key : κ) (entries : Entries κ ν) :
    has key entries = true ↔ ∃ value, get? key entries = some value := by
  simp [has, Option.isSome_iff_exists]

/-- A key has no entry when nothing is stored under it. -/
theorem has_eq_false_iff (key : κ) (entries : Entries κ ν) :
    has key entries = false ↔ get? key entries = none := by
  rw [has, Option.isSome_eq_false_iff, Option.isNone_iff_eq_none]

/-- What is stored is among the entries. -/
theorem mem_of_get? {key : κ} {value : ν} {entries : Entries κ ν}
    (found : get? key entries = some value) : (key, value) ∈ entries := by
  induction entries with
  | nil => simp at found
  | cons entry rest hypothesis =>
    obtain ⟨other, present⟩ := entry
    rw [get?_cons] at found
    split at found
    · rename_i same
      cases found
      simp [same]
    · exact List.mem_cons_of_mem _ (hypothesis found)

/-- Something is stored under exactly the keys of the entries. -/
theorem has_iff_mem_keys (key : κ) (entries : Entries κ ν) :
    has key entries = true ↔ key ∈ keys entries := by
  induction entries with
  | nil => simp [has, keys]
  | cons entry rest hypothesis =>
    obtain ⟨other, present⟩ := entry
    by_cases same : key = other
    · simp [has, keys, get?_cons, same]
    · simpa [has, keys, get?_cons, same] using hypothesis

/-- Nothing is stored under a key that no entry has. -/
theorem get?_eq_none_iff (key : κ) (entries : Entries κ ν) :
    get? key entries = none ↔ key ∉ keys entries := by
  rw [← has_iff_mem_keys, has, Bool.not_eq_true, Option.isSome_eq_false_iff,
    Option.isNone_iff_eq_none]

/-- Erasing a key takes away what is stored under it and nothing else. -/
theorem get?_erase (key other : κ) (entries : Entries κ ν) :
    get? other (erase key entries) = if other = key then none else get? other entries := by
  split
  · rename_i same
    rw [same, get?_erase_self]
  · rename_i different
    exact get?_erase_of_ne different entries

/-- Erasing a key that nothing is stored under changes nothing. -/
theorem erase_of_get?_eq_none {key : κ} {entries : Entries κ ν}
    (absent : get? key entries = none) : erase key entries = entries := by
  rw [get?_eq_none_iff] at absent
  apply List.filter_eq_self.mpr
  intro entry member
  have different : entry.1 ≠ key := fun same =>
    absent (same ▸ mem_keys member)
  simpa using different

/-- An entry after a change was there before, or is a changed one under the key. -/
theorem mem_update {key : κ} {change : ν → ν} {entries : Entries κ ν} {entry : κ × ν}
    (member : entry ∈ update key change entries) :
    entry ∈ entries ∨ ∃ value, (key, value) ∈ entries ∧ entry = (key, change value) := by
  obtain ⟨former, inside, same⟩ := List.mem_map.mp member
  by_cases found : former.1 = key
  · rw [if_pos found] at same
    subst found
    exact Or.inr ⟨former.2, inside, same.symm⟩
  · rw [if_neg found] at same
    exact Or.inl (same ▸ inside)

/-- Changing the value of a key changes it there only. -/
theorem get?_update (key other : κ) (change : ν → ν) (entries : Entries κ ν) :
    get? other (update key change entries) =
      if other = key then (get? other entries).map change else get? other entries := by
  induction entries with
  | nil => simp [update]
  | cons entry rest hypothesis =>
    obtain ⟨present, value⟩ := entry
    have tail : update key change ((present, value) :: rest) =
        (if present = key then (present, change value) else (present, value)) ::
          update key change rest := rfl
    rw [tail]
    by_cases found : present = key
    · subst found
      rw [if_pos rfl, get?_cons, get?_cons, hypothesis]
      by_cases same : other = present
      · rw [if_pos same, if_pos same, if_pos same, Option.map_some]
      · rw [if_neg same, if_neg same, if_neg same, if_neg same]
    · rw [if_neg found, get?_cons, get?_cons, hypothesis]
      by_cases same : other = present
      · rw [if_pos same, if_pos same, if_neg (same ▸ found)]
      · rw [if_neg same, if_neg same]

/-- Changing the value of a key leaves the keys as they are. -/
@[simp] theorem keys_update (key : κ) (change : ν → ν) (entries : Entries κ ν) :
    keys (update key change entries) = keys entries := by
  simp only [keys, update, List.map_map]
  apply List.map_congr_left
  intro entry _
  simp only [Function.comp]
  split <;> rfl

/-- Of two lists of entries the first one counts. -/
theorem get?_append (key : κ) (left right : Entries κ ν) :
    get? key (left ++ right) = (get? key left).or (get? key right) := by
  induction left with
  | nil => rfl
  | cons entry rest hypothesis =>
    rw [List.cons_append, get?_cons, get?_cons, hypothesis]
    split
    · rfl
    · rfl

/-- What entries hold whose values have been changed by their keys. -/
theorem get?_map {μ : Type} (change : κ → ν → μ) (key : κ) (entries : Entries κ ν) :
    get? key (entries.map fun entry => (entry.1, change entry.1 entry.2)) =
      (get? key entries).map (change key) := by
  induction entries with
  | nil => rfl
  | cons entry rest hypothesis =>
    obtain ⟨other, value⟩ := entry
    rw [List.map_cons, get?_cons, get?_cons, hypothesis]
    split
    · rename_i same
      rw [same, Option.map_some]
    · rfl

/-- Keeping the entries of some keys keeps what is stored under these. -/
theorem get?_filter (test : κ → Bool) (key : κ) (entries : Entries κ ν) :
    get? key (entries.filter fun entry => test entry.1) =
      if test key then get? key entries else none := by
  induction entries with
  | nil => simp
  | cons entry rest hypothesis =>
    obtain ⟨other, value⟩ := entry
    by_cases same : key = other
    · subst same
      by_cases kept : test key = true
      · simp [kept, get?_cons]
      · simp [kept, hypothesis]
    · by_cases kept : test other = true
      · simp [kept, get?_cons, same, hypothesis]
      · simp [kept, get?_cons, same, hypothesis]

section Sorting

variable [LT κ]

/-- Changing a value keeps entries sorted. -/
theorem sorted_update (key : κ) (change : ν → ν) {entries : Entries κ ν}
    (sorted : Sorted entries) : Sorted (update key change entries) :=
  sorted_of_keys (keys_update key change entries) sorted

/-- Removing a key keeps entries sorted. -/
theorem sorted_erase (key : κ) {entries : Entries κ ν} (sorted : Sorted entries) :
    Sorted (erase key entries) :=
  List.Pairwise.filter _ sorted

variable [IsStrictTotalOrder κ (· < ·)]

/-- An entry of sorted entries is what is stored under its key. -/
theorem get?_of_mem {entries : Entries κ ν} (sorted : Sorted entries) {key : κ} {value : ν}
    (member : (key, value) ∈ entries) : get? key entries = some value := by
  induction entries with
  | nil => simp at member
  | cons head rest hypothesis =>
    obtain ⟨other, present⟩ := head
    rcases List.mem_cons.mp member with found | found
    · cases found
      simp [get?_cons]
    · have different : key ≠ other := fun same =>
        not_mem_keys_of_sorted_cons sorted
          (same ▸ mem_keys found)
      rw [get?_cons, if_neg different]
      exact hypothesis (List.pairwise_cons.mp sorted).2 found

/-- The tails of two sorted maps with one first entry hold the same if the maps do. -/
theorem get?_rest_eq {key : κ} {value : ν} {left right : Entries κ ν}
    (leftSorted : Sorted ((key, value) :: left)) (rightSorted : Sorted ((key, value) :: right))
    (same : ∀ other, get? other ((key, value) :: left) = get? other ((key, value) :: right))
    (other : κ) : get? other left = get? other right := by
  by_cases found : other = key
  · rw [found, (get?_eq_none_iff _ _).mpr (not_mem_keys_of_sorted_cons leftSorted),
      (get?_eq_none_iff _ _).mpr (not_mem_keys_of_sorted_cons rightSorted)]
  · simpa [get?_cons, found] using same other

/-- A key below the first key of sorted entries has no entry. -/
theorem get?_of_lt_head {key other : κ} {value : ν} {rest : Entries κ ν}
    (sorted : Sorted ((other, value) :: rest)) (less : key < other) :
    get? key ((other, value) :: rest) = none := by
  rw [get?_eq_none_iff]
  intro member
  rcases List.mem_cons.mp member with found | found
  · subst found
    exact irrefl_of (· < ·) _ less
  · obtain ⟨entry, inside, same⟩ := List.mem_map.mp found
    have greater := trans_of (· < ·) less ((List.pairwise_cons.mp sorted).1 entry inside)
    exact irrefl_of (· < ·) key (same ▸ greater)

/-- Two sorted maps that hold the same are equal. -/
theorem ext_of_sorted {left right : Entries κ ν} (leftSorted : Sorted left)
    (rightSorted : Sorted right) (same : ∀ key, get? key left = get? key right) :
    left = right := by
  induction left generalizing right with
  | nil =>
    cases right with
    | nil => rfl
    | cons head rest =>
      have found := same head.1
      rw [get?_cons, if_pos rfl] at found
      contradiction
  | cons head rest hypothesis =>
    obtain ⟨key, value⟩ := head
    cases right with
    | nil =>
      have found := same key
      rw [get?_cons, if_pos rfl] at found
      contradiction
    | cons first others =>
      obtain ⟨other, present⟩ := first
      have equal : key = other := by
        rcases trichotomous_of (· < ·) key other with less | equal | greater
        · have absent := get?_of_lt_head rightSorted less
          rw [← same, get?_cons, if_pos rfl] at absent
          contradiction
        · exact equal
        · have absent := get?_of_lt_head leftSorted greater
          rw [same, get?_cons, if_pos rfl] at absent
          contradiction
      subst equal
      have values := same key
      rw [get?_cons, get?_cons, if_pos rfl, if_pos rfl, Option.some.injEq] at values
      subst values
      rw [hypothesis (List.pairwise_cons.mp leftSorted).2 (List.pairwise_cons.mp rightSorted).2
        (get?_rest_eq leftSorted rightSorted same)]

end Sorting

section Storing

variable [LT κ] [DecidableLT κ]

/-- Storing a value changes what is stored under its key and nothing else. -/
theorem get?_put (key other : κ) (value : ν) (entries : Entries κ ν) :
    get? other (put key value entries) =
      if other = key then some value else get? other entries := by
  split
  · rename_i same
    rw [same, get?_put_self]
  · rename_i different
    exact get?_put_of_ne value different entries

/-- An entry after storing is the stored one or was there before. -/
theorem mem_put {key : κ} {value : ν} {entries : Entries κ ν} {entry : κ × ν}
    (member : entry ∈ put key value entries) : entry = (key, value) ∨ entry ∈ entries := by
  induction entries with
  | nil => simpa [put] using member
  | cons head rest hypothesis =>
    obtain ⟨other, present⟩ := head
    rw [put] at member
    split at member
    · rcases List.mem_cons.mp member with found | found
      · exact Or.inl found
      · exact Or.inr (List.mem_cons_of_mem _ found)
    · split at member
      · rcases List.mem_cons.mp member with found | found
        · exact Or.inl found
        · exact Or.inr found
      · rcases List.mem_cons.mp member with found | found
        · exact Or.inr (found ▸ List.mem_cons_self)
        · exact (hypothesis found).imp_right (List.mem_cons_of_mem _)

/-- Putting a new key adds its entry and nothing else. -/
theorem perm_put {key : κ} (value : ν) {entries : Entries κ ν} (absent : get? key entries = none) :
    (put key value entries).Perm ((key, value) :: entries) := by
  induction entries with
  | nil => exact .refl _
  | cons entry rest hypothesis =>
    obtain ⟨other, present⟩ := entry
    rw [get?_cons] at absent
    split at absent
    · contradiction
    · rename_i different
      rw [put, if_neg different]
      split
      · exact .refl _
      · exact ((hypothesis absent).cons _).trans (.swap _ _ _)

/-- Storing a value keeps entries sorted. -/
theorem sorted_put [IsStrictTotalOrder κ (· < ·)] (key : κ) (value : ν)
    {entries : Entries κ ν} (sorted : Sorted entries) :
    Sorted (put key value entries) := by
  induction entries with
  | nil => simp [put, Sorted]
  | cons head rest hypothesis =>
    obtain ⟨other, present⟩ := head
    obtain ⟨below, restSorted⟩ := List.pairwise_cons.mp sorted
    rw [put]
    split
    · rename_i same
      exact List.pairwise_cons.mpr ⟨fun entry member => same ▸ below entry member, restSorted⟩
    · rename_i different
      split
      · rename_i less
        refine List.pairwise_cons.mpr ⟨fun entry member => ?_, sorted⟩
        rcases List.mem_cons.mp member with found | found
        · exact found ▸ less
        · exact trans_of (· < ·) less (below entry found)
      · rename_i notLess
        refine List.pairwise_cons.mpr ⟨fun entry member => ?_, hypothesis restSorted⟩
        rcases mem_put member with found | found
        · have greater : other < key := by
            rcases trichotomous_of (· < ·) key other with less | same | greater
            · exact absurd less notLess
            · exact absurd same different
            · exact greater
          exact found ▸ greater
        · exact below entry found

/-- Storing entries one after the other adds nothing else. -/
theorem mem_foldl_put {entries : List (κ × ν)} {built : Entries κ ν} {entry : κ × ν}
    (member : entry ∈ entries.foldl (fun built entry => put entry.1 entry.2 built) built) :
    entry ∈ entries ∨ entry ∈ built := by
  induction entries generalizing built with
  | nil => exact Or.inr member
  | cons first rest hypothesis =>
    rcases hypothesis member with later | stored
    · exact Or.inl (List.mem_cons_of_mem _ later)
    · rcases mem_put stored with new | old
      · exact Or.inl (new ▸ List.mem_cons_self)
      · exact Or.inr old

/-- Storing entries one after the other keeps entries sorted. -/
theorem sorted_foldl_put [IsStrictTotalOrder κ (· < ·)] (entries : List (κ × ν))
    {built : Entries κ ν} (sorted : Sorted built) :
    Sorted (entries.foldl (fun built entry => put entry.1 entry.2 built) built) := by
  induction entries generalizing built with
  | nil => exact sorted
  | cons first rest hypothesis => exact hypothesis (sorted_put first.1 first.2 sorted)

/-- Of some entries a map has nothing else. -/
theorem mem_ofList {entries : List (κ × ν)} {entry : κ × ν} (member : entry ∈ ofList entries) :
    entry ∈ entries :=
  (mem_foldl_put member).resolve_right List.not_mem_nil

/-- The map of some entries is sorted. -/
theorem sorted_ofList [IsStrictTotalOrder κ (· < ·)] (entries : List (κ × ν)) :
    Sorted (ofList entries) :=
  sorted_foldl_put entries List.Pairwise.nil

/-- Storing entries with different keys one after the other makes them count first. -/
theorem get?_foldl_put {entries : List (κ × ν)} (distinct : (keys entries).Nodup)
    (built : Entries κ ν) (key : κ) :
    get? key (entries.foldl (fun built entry => put entry.1 entry.2 built) built) =
      (get? key entries).or (get? key built) := by
  induction entries generalizing built with
  | nil => rfl
  | cons entry rest hypothesis =>
    obtain ⟨other, value⟩ := entry
    obtain ⟨apart, restDistinct⟩ := List.nodup_cons.mp distinct
    rw [List.foldl_cons, hypothesis restDistinct, get?_put, get?_cons]
    by_cases same : key = other
    · have absent : get? key rest = none := by
        rw [get?_eq_none_iff, same]
        exact apart
      rw [if_pos same, if_pos same, absent]
      rfl
    · rw [if_neg same, if_neg same]

/-- A map of entries with different keys holds what the entries hold. -/
theorem get?_ofList {entries : List (κ × ν)} (distinct : (keys entries).Nodup) (key : κ) :
    get? key (ofList entries) = get? key entries := by
  rw [ofList, get?_foldl_put distinct, get?_nil, Option.or_none]

/-- Storing entries one after the other makes the last one of a key count. -/
theorem get?_foldl_put_eq_getLast? (entries : List (κ × ν)) (built : Entries κ ν) (key : κ) :
    get? key (entries.foldl (fun built entry => put entry.1 entry.2 built) built) =
      ((entries.filter (·.1 = key)).getLast?.map (·.2)).or (get? key built) := by
  induction entries generalizing built with
  | nil => rfl
  | cons entry rest hypothesis =>
    obtain ⟨other, value⟩ := entry
    rw [List.foldl_cons, hypothesis, get?_put]
    by_cases same : other = key
    · subst same
      rw [if_pos rfl, List.filter_cons, if_pos (decide_eq_true rfl), List.getLast?_cons]
      cases (rest.filter (·.1 = other)).getLast? with
      | none => rfl
      | some last => rfl
    · rw [if_neg (Ne.symm same), List.filter_cons, if_neg (by simpa using same)]

/-- A map of entries holds under a key what the last entry of the key holds. -/
theorem get?_ofList_eq_getLast? (entries : List (κ × ν)) (key : κ) :
    get? key (ofList entries) = (entries.filter (·.1 = key)).getLast?.map (·.2) := by
  rw [ofList, get?_foldl_put_eq_getLast?, get?_nil, Option.or_none]

/-- A map of entries has the keys of the entries. -/
theorem mem_keys_ofList (entries : List (κ × ν)) (key : κ) :
    key ∈ keys (ofList entries) ↔ key ∈ keys entries := by
  rw [← has_iff_mem_keys, has, get?_ofList_eq_getLast?, Option.isSome_map,
    List.getLast?_isSome, ne_eq, List.filter_eq_nil_iff]
  simp [keys]

/-- What is stored in a union is what the first map has, and otherwise what the second one has. -/
theorem get?_leftUnion [IsStrictTotalOrder κ (· < ·)] {left : Entries κ ν} (sorted : Sorted left)
    (right : Entries κ ν) (key : κ) :
    get? key (leftUnion left right) = (get? key left).or (get? key right) :=
  get?_foldl_put (nodup_keys_of_sorted sorted) right key

/-- The union with a sorted map is sorted. -/
theorem sorted_leftUnion [IsStrictTotalOrder κ (· < ·)] (left : Entries κ ν)
    {right : Entries κ ν} (sorted : Sorted right) : Sorted (leftUnion left right) :=
  sorted_foldl_put left sorted

/-- Removing a key and storing another one may be done in either order. -/
theorem erase_put [IsStrictTotalOrder κ (· < ·)] {key other : κ} (different : other ≠ key)
    (value : ν) {entries : Entries κ ν} (sorted : Sorted entries) :
    erase key (put other value entries) = put other value (erase key entries) := by
  refine ext_of_sorted (sorted_erase key (sorted_put other value sorted))
    (sorted_put other value (sorted_erase key sorted)) fun present => ?_
  rw [get?_erase, get?_put, get?_put, get?_erase]
  by_cases same : present = key
  · subst same
    simp [Ne.symm different]
  · simp [same]

end Storing

end Labeling.Entries
