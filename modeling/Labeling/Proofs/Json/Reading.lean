import Labeling.Json.Reader
import Labeling.Proofs.Entries
import Mathlib.Data.String.Basic

/-!
# What reading JSON gives

A value that a text writes has the fields of its objects in key order, each key once, and its
integers fit 64 bits: `parsed_of_read?`. The readers of values, items and fields call one another,
so that the proof is one induction on their fuel.
-/
namespace Labeling.Json

/-- A value as reading gives it. -/
inductive Parsed : Json → Prop where
  /-- The null value. -/
  | null : Parsed .null
  /-- A truth value. -/
  | bool (value : Bool) : Parsed (.bool value)
  /-- An integer of 64 bits. -/
  | integer {value : Int} (small : value < Text.wordLimit) : Parsed (.integer value)
  /-- Any other number. -/
  | float (value : FiniteDouble) : Parsed (.float value)
  /-- A text. -/
  | string (value : String) : Parsed (.string value)
  /-- A list of such values. -/
  | array {items : List Json} (each : ∀ item ∈ items, Parsed item) : Parsed (.array items)
  /-- Such values as fields in key order. -/
  | object {fields : List (String × Json)} (sorted : Entries.Sorted fields)
    (each : ∀ entry ∈ fields, Parsed entry.2) : Parsed (.object fields)

/-- The object of some fields is parsed if its fields are. -/
theorem parsed_record {fields : List (String × Json)} (each : ∀ entry ∈ fields, Parsed entry.2) :
    Parsed (.record fields) :=
  .object (Entries.sorted_ofList fields)
    fun entry member => each entry (Entries.mem_ofList member)

namespace Reader

/-- A number without fraction and exponent is parsed. -/
theorem parsed_wholeValue {negative : Bool} {digits : List Char} {value : Json}
    (read : wholeValue negative digits = some value) : Parsed value := by
  rw [wholeValue] at read
  split at read
  · rename_i fits
    cases read
    simp only [Bool.and_eq_true, decide_eq_true_eq] at fits
    refine .integer ?_
    omega
  · split at read
    · rename_i fits
      cases read
      simp only [Bool.and_eq_true, decide_eq_true_eq] at fits
      refine .integer ?_
      omega
    · obtain ⟨double, -, made⟩ := Option.map_eq_some_iff.mp read
      exact made ▸ .float double

/-- A number is parsed. -/
theorem parsed_number {text rest : List Char} {value : Json}
    (read : number text = some (value, rest)) : Parsed value := by
  simp only [number, Option.bind_eq_bind, Option.bind_eq_some_iff] at read
  obtain ⟨whole, -, fraction, -, exponent, -, read⟩ := read
  split at read
  · obtain ⟨content, found, made⟩ := Option.bind_eq_some_iff.mp read
    cases made
    exact parsed_wholeValue found
  · obtain ⟨content, -, made⟩ := Option.bind_eq_some_iff.mp read
    cases made
    exact .float content

/-- With some fuel, every reader gives parsed values. -/
structure ParsesWith (fuel : Nat) : Prop where
  /-- A value is parsed. -/
  value : ∀ depth text content rest, value fuel depth text = some (content, rest) →
    Parsed content
  /-- The items of an array are parsed if those read so far are. -/
  items : ∀ depth built text contents rest, items fuel depth built text = some (contents, rest) →
    (∀ item ∈ built, Parsed item) → ∀ item ∈ contents, Parsed item
  /-- The fields of an object are parsed. -/
  fields : ∀ depth text contents rest, fields fuel depth text = some (contents, rest) →
    ∀ entry ∈ contents, Parsed entry.2
  /-- Further fields of an object are parsed if those read so far are. -/
  moreFields : ∀ depth built text contents rest,
    moreFields fuel depth built text = some (contents, rest) →
    (∀ entry ∈ built, Parsed entry.2) → ∀ entry ∈ contents, Parsed entry.2

/-- One more step of fuel leaves values parsed. -/
theorem ParsesWith.value_succ {fuel : Nat} (parses : ParsesWith fuel) {depth : Nat}
    {text rest : List Char} {content : Json}
    (read : Reader.value (fuel + 1) depth text = some (content, rest)) : Parsed content := by
  rw [Reader.value.eq_def] at read
  dsimp only at read
  split at read
  · cases read
    exact .null
  · cases read
    exact .bool true
  · cases read
    exact .bool false
  · split at read
    · cases read
      exact .string _
    · contradiction
  · split at read
    · contradiction
    · split at read
      · cases read
        exact .array (List.forall_mem_nil _)
      · split at read
        · rename_i found
          cases read
          exact .array (parses.items _ _ _ _ _ found (List.forall_mem_nil _))
        · contradiction
  · split at read
    · rename_i found
      cases read
      exact parsed_record (parses.fields _ _ _ _ found)
    · contradiction
  · exact parsed_number read

/-- One more step of fuel leaves items parsed. -/
theorem ParsesWith.items_succ {fuel : Nat} (parses : ParsesWith fuel) {depth : Nat}
    {built contents : List Json} {text rest : List Char}
    (read : Reader.items (fuel + 1) depth built text = some (contents, rest))
    (before : ∀ item ∈ built, Parsed item) : ∀ item ∈ contents, Parsed item := by
  rw [Reader.items.eq_def] at read
  dsimp only at read
  split at read
  · contradiction
  · rename_i item _ found
    have more : ∀ other ∈ item :: built, Parsed other := by
      intro other member
      rcases List.mem_cons.mp member with same | old
      · exact same ▸ parses.value _ _ _ _ found
      · exact before other old
    split at read
    · exact parses.items _ _ _ _ _ read more
    · cases read
      exact fun other member => more other (List.mem_reverse.mp member)
    · contradiction

/-- One more step of fuel leaves fields parsed. -/
theorem ParsesWith.fields_succ {fuel : Nat} (parses : ParsesWith fuel) {depth : Nat}
    {contents : List (String × Json)} {text rest : List Char}
    (read : Reader.fields (fuel + 1) depth text = some (contents, rest)) :
    ∀ entry ∈ contents, Parsed entry.2 := by
  rw [Reader.fields.eq_def] at read
  dsimp only at read
  split at read
  · contradiction
  · split at read
    · cases read
      exact List.forall_mem_nil _
    · exact parses.moreFields _ _ _ _ _ read (List.forall_mem_nil _)

/-- One more step of fuel leaves further fields parsed. -/
theorem ParsesWith.moreFields_succ {fuel : Nat} (parses : ParsesWith fuel) {depth : Nat}
    {built contents : List (String × Json)} {text rest : List Char}
    (read : Reader.moreFields (fuel + 1) depth built text = some (contents, rest))
    (before : ∀ entry ∈ built, Parsed entry.2) : ∀ entry ∈ contents, Parsed entry.2 := by
  rw [Reader.moreFields.eq_def] at read
  dsimp only at read
  split at read
  · split at read
    · contradiction
    · rename_i key _ _
      split at read
      · split at read
        · contradiction
        · rename_i content _ found
          have more : ∀ entry ∈ (key, content) :: built, Parsed entry.2 := by
            intro entry member
            rcases List.mem_cons.mp member with same | old
            · exact same ▸ parses.value _ _ _ _ found
            · exact before entry old
          split at read
          · exact parses.moreFields _ _ _ _ _ read more
          · cases read
            exact fun entry member => more entry (List.mem_reverse.mp member)
          · contradiction
      · contradiction
  · contradiction

/-- Whatever fuel there is, every reader gives parsed values. -/
theorem parsesWith (fuel : Nat) : ParsesWith fuel := by
  induction fuel with
  | zero =>
    refine ⟨?_, ?_, ?_, ?_⟩
    · intro depth text content rest read
      rw [Reader.value] at read
      contradiction
    · intro depth built text contents rest read
      rw [Reader.items] at read
      contradiction
    · intro depth text contents rest read
      rw [Reader.fields] at read
      contradiction
    · intro depth built text contents rest read
      rw [Reader.moreFields] at read
      contradiction
  | succ fuel hypothesis =>
    exact ⟨fun _ _ _ _ => hypothesis.value_succ, fun _ _ _ _ _ => hypothesis.items_succ,
      fun _ _ _ _ => hypothesis.fields_succ, fun _ _ _ _ _ => hypothesis.moreFields_succ⟩

end Reader

/-- A value that a text writes is parsed. -/
theorem parsed_of_read? {text : String} {content : Json} (read : read? text = some content) :
    Parsed content := by
  rw [read?] at read
  split at read
  · rename_i found
    split at read
    · cases read
      exact (Reader.parsesWith _).value _ _ _ _ found
    · contradiction
  · contradiction

end Labeling.Json
