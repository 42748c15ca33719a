import Labeling.Proofs.Shape.Parts
import Labeling.Proofs.Shape.Rendering

/-!
# What shapes keep of several values

A shape that takes over the missing fields of further values keeps the fields of all of them, of
two fields of a name the first one (`Keeps.foldl_fillMissing`). Beside these it has the offsets that
were filled in for the first value, and these are left out of what is written as long as they are
promoted. So the values are written back just when the offsets that they have are those that are
written (`renders_erase_iff`).
-/
namespace Labeling

namespace Shape

variable {value given : Value} {objectType : String} {shape : Shape}

/-! ## What shapes of several values keep -/

/-- A shape that has the fields of a value, each as it may be written for it. -/
structure Keeps (given : Value) (shape : Shape) : Prop where
  /-- The value is sorted. -/
  givenSorted : Entries.Sorted given
  /-- The fields of the shape are sorted. -/
  sorted : Entries.Sorted shape.allFields
  /-- No further field has the name of a field of the form. -/
  apart : ∀ key, shape.geometry.fields.has key = true → shape.extra.get? key = none
  /-- The fields are those of the value. -/
  renders : shape.allFields.Renders given
  /-- The text offsets are as they are in the value. -/
  offsets : ∀ key ∈ filledNames, shape.allFields.get? key = given.get? key
  /-- Promoted offsets are the ends of a span of text. -/
  promoted : shape.offsetsPromoted = true → IsPromotedSpan shape.geometry

/-- A shape that is read keeps its value. -/
theorem keeps_ofValue (sorted : Entries.Sorted value) (objectType : String) :
    Keeps value (ofValue value objectType) where
  givenSorted := sorted
  sorted := sorted_allFields_ofValue sorted objectType
  apart key known := by
    rw [get?_extra_ofValue]
    exact if_pos known
  renders := renders_allFields_ofValue value objectType
  offsets _ offset := get?_offset_ofValue value objectType offset
  promoted promoted := nomatch promoted

/-- A shape keeps its value whether or not its offsets are promoted. -/
theorem Keeps.withPromoted (keeps : Keeps given shape) {promoted : Bool}
    (span : promoted = true → IsPromotedSpan shape.geometry) :
    Keeps given { shape with offsetsPromoted := promoted } :=
  ⟨keeps.givenSorted, keeps.sorted, keeps.apart, keeps.renders, keeps.offsets, span⟩

/-- The shape of a first item keeps its value with its offsets. -/
theorem keeps_reading (sorted : Entries.Sorted value) (objectType : String) :
    Keeps (value.withOffsets objectType).1 (reading value objectType) := by
  rw [reading_eq]
  refine (keeps_ofValue (sorted_withOffsets sorted objectType) objectType).withPromoted ?_
  intro promoted
  obtain ⟨moved, span⟩ := Bool.and_eq_true_iff.mp promoted
  exact isPromotedSpan_withOffsets moved span

/-- A shape that keeps a value keeps what the value is written for. -/
theorem Keeps.of_renders {between : Value} (keeps : Keeps between shape)
    (sorted : Entries.Sorted given) (renders : between.Renders given)
    (offsets : ∀ key ∈ filledNames, between.get? key = given.get? key) : Keeps given shape where
  givenSorted := sorted
  sorted := keeps.sorted
  apart := keeps.apart
  renders := keeps.renders.trans renders
  offsets key offset := (keeps.offsets key offset).trans (offsets key offset)
  promoted := keeps.promoted

/-- A shape has the names of fields of what it keeps. -/
theorem Keeps.has (keeps : Keeps given shape) (key : String) :
    shape.allFields.has key = given.has key :=
  Value.isSome_eq_of_rel (keeps.renders key)

/-- A shape that takes over missing fields keeps these and what it had. -/
theorem Keeps.fillMissing (keeps : Keeps given shape) (sorted : Entries.Sorted value)
    (objectType : String) :
    Keeps (given.leftUnion value) (shape.fillMissing value objectType) := by
  have unionSorted : Entries.Sorted (given.leftUnion value) := Entries.sorted_leftUnion given sorted
  have union (key : String) : Entries.get? key (given.leftUnion value) =
      (given.get? key).or (value.get? key) := Entries.get?_leftUnion keeps.givenSorted value key
  rw [Shape.fillMissing]
  split
  · rename_i complete
    have nothing (key : String) : given.get? key = Entries.get? key (given.leftUnion value) := by
      rw [union]
      cases found : given.get? key with
      | some _ => rfl
      | none =>
        have absent : value.has key = false := by
          rw [Bool.eq_false_iff, ne_eq, Entries.has_iff_mem_keys]
          intro member
          obtain ⟨entry, inside, same⟩ := List.mem_map.mp member
          have present := List.all_eq_true.mp complete entry inside
          rw [keeps.has, same, Entries.has, found] at present
          contradiction
        rw [(Entries.has_eq_false_iff _ _).mp absent, Option.none_or]
    exact keeps.of_renders unionSorted (fun key => Value.rel_of_eq (nothing key))
      fun key _ => nothing key
  · have filledSorted : Entries.Sorted (shape.allFields.leftUnion value) :=
      Entries.sorted_leftUnion _ sorted
    have filled := keeps_ofValue filledSorted objectType
    refine (filled.of_renders unionSorted ?_ ?_).withPromoted ?_
    · exact keeps.renders.leftUnion keeps.sorted keeps.givenSorted value
    · intro key offset
      rw [get?_leftUnion_allFields keeps.sorted, keeps.offsets key offset, union]
    · intro promoted
      obtain ⟨before, span⟩ := Bool.and_eq_true_iff.mp promoted
      exact isPromotedSpan_filled (keeps.promoted before) keeps.sorted span

/-- What is written of a shape are its fields without promoted offsets. -/
theorem Keeps.get?_toValue (keeps : Keeps given shape) (key : String) :
    shape.toValue.get? key =
      if shape.offsetsPromoted = true ∧ key ∈ filledNames then none
      else shape.allFields.get? key := by
  cases promoted : shape.offsetsPromoted with
  | false =>
    rw [if_neg (fun both => Bool.false_ne_true both.1), toValue, promoted]
    rfl
  | true =>
    have written : shape.toValue =
        ((shape.geometry.fields.erase "startOffset").erase "endOffset").leftUnion shape.extra := by
      rw [toValue, promoted, if_pos rfl]
    have knownSorted := Entries.sorted_erase "endOffset"
      (Entries.sorted_erase "startOffset" (sorted_fields shape.geometry))
    obtain ⟨startKnown, endKnown⟩ := (keeps.promoted promoted).hasOffsets
    rw [written, Entries.get?_leftUnion knownSorted, Entries.get?_erase, Entries.get?_erase,
      get?_allFields]
    by_cases isEnd : key = "endOffset"
    · subst isEnd
      rw [if_pos rfl, Option.none_or, keeps.apart _ endKnown, if_pos ⟨rfl, by decide⟩]
    · by_cases isStart : key = "startOffset"
      · subst isStart
        rw [if_neg isEnd, if_pos rfl, Option.none_or, keeps.apart _ startKnown,
          if_pos ⟨rfl, by decide⟩]
      · have other : key ∉ filledNames := by simp [filledNames, isEnd, isStart]
        rw [if_neg isEnd, if_neg isStart, if_neg fun both => other both.2]

/-- A shape keeps all the values that it takes over. -/
theorem Keeps.foldl_fillMissing (keeps : Keeps given shape) {parts : List (Value × String)}
    (sorted : ∀ part ∈ parts, Entries.Sorted part.1) :
    Keeps ((parts.map Prod.fst).foldl Entries.leftUnion given)
      (parts.foldl (fun shape part => shape.fillMissing part.1 part.2) shape) := by
  induction parts generalizing given shape with
  | nil => exact keeps
  | cons part rest hypothesis =>
    exact hypothesis (keeps.fillMissing (sorted part List.mem_cons_self) part.2)
      fun other member => sorted other (List.mem_cons_of_mem _ member)

/-- Offsets are promoted no later than at first. -/
theorem promoted_of_foldl_fillMissing {parts : List (Value × String)}
    (promoted : (parts.foldl (fun shape part => shape.fillMissing part.1 part.2)
      shape).offsetsPromoted = true) : shape.offsetsPromoted = true := by
  induction parts generalizing shape with
  | nil => exact promoted
  | cons part rest hypothesis =>
    have before : (shape.fillMissing part.1 part.2).offsetsPromoted = true := hypothesis promoted
    rw [Shape.fillMissing] at before
    split at before
    · exact before
    · exact (Bool.and_eq_true_iff.mp before).1

/-- The offsets that are filled in for a value on an object of a type. -/
def filledIn (value : Value) (objectType : String) : Value :=
  (value.withOffsets objectType).1.filter fun entry => !value.has entry.1

/-- What is filled in for a value is what the value with its offsets has and the value has not. -/
theorem get?_filledIn (value : Value) (objectType key : String) :
    (filledIn value objectType).get? key =
      if value.has key then none else (value.withOffsets objectType).1.get? key := by
  rw [filledIn, Entries.get?_filter (fun key => !value.has key)]
  cases value.has key <;> rfl

/-- Only text offsets are filled in, as integers. -/
theorem integer_of_filledIn {key : String} {offset : Json}
    (filled : (filledIn value objectType).get? key = some offset) :
    key ∈ filledNames ∧ ∃ count : Int, offset = .integer count := by
  rw [get?_filledIn] at filled
  split at filled
  · contradiction
  · rename_i absent
    rw [Bool.not_eq_true, Entries.has_eq_false_iff] at absent
    rcases withOffsets_cases value objectType with
      same | ⟨first, last, -, -, -, -, -, -, -, made⟩
    · rw [same, absent] at filled
      contradiction
    · rw [made, Entries.get?_put, Entries.get?_put, absent] at filled
      split at filled
      · rename_i isEnd
        exact ⟨isEnd ▸ by decide, last, (Option.some.inj filled).symm⟩
      · split at filled
        · rename_i isStart
          exact ⟨isStart ▸ by decide, first, (Option.some.inj filled).symm⟩
        · contradiction

/-- Where offsets are filled in, both are. -/
theorem exists_filledIn (moved : (value.withOffsets objectType).2 = true) {key : String}
    (offset : key ∈ filledNames) :
    ∃ filled, (filledIn value objectType).get? key = some filled := by
  rcases withOffsets_cases value objectType with
    same | ⟨first, last, -, -, -, noStart, noEnd, -, -, made⟩
  · rw [same] at moved
    contradiction
  · rw [get?_filledIn, made]
    simp only [filledNames, List.mem_cons, List.not_mem_nil, or_false] at offset
    rcases offset with rfl | rfl
    · exact ⟨.integer first, by simp [Entries.has, noStart, Entries.get?_put]⟩
    · exact ⟨.integer last, by simp [Entries.has, noEnd, Entries.get?_put]⟩

/-- A value with its offsets holds what is filled in, and else what the value holds. -/
theorem get?_withOffsets_eq_or (value : Value) (objectType key : String) :
    (value.withOffsets objectType).1.get? key =
      ((filledIn value objectType).get? key).or (value.get? key) := by
  rw [get?_filledIn]
  cases present : value.has key with
  | false => simp [(Entries.has_eq_false_iff _ _).mp present]
  | true =>
    rcases withOffsets_cases value objectType with
      same | ⟨first, last, -, -, -, noStart, noEnd, -, -, -⟩
    · rw [same]
      rfl
    · have isStart : key ≠ "startOffset" := by
        rintro rfl
        rw [Entries.has, noStart] at present
        contradiction
      have isEnd : key ≠ "endOffset" := by
        rintro rfl
        rw [Entries.has, noEnd] at present
        contradiction
      exact get?_withOffsets value objectType isStart isEnd

end Shape

namespace Value

/-- The fields of some values, of two fields of a name the first one. -/
def union (values : List Value) : Value := values.foldr Entries.leftUnion []

/-- A union with one more value at the front. -/
theorem get?_union_cons {value : Value} (sorted : Entries.Sorted value) (rest : List Value)
    (key : String) :
    (union (value :: rest)).get? key = (value.get? key).or ((union rest).get? key) :=
  Entries.get?_leftUnion sorted (union rest) key

/-- Values that are taken over one after the other make a union. -/
theorem get?_foldl_leftUnion {rest : List Value} (sorted : ∀ value ∈ rest, Entries.Sorted value)
    {given : Value} (givenSorted : Entries.Sorted given) (key : String) :
    Entries.get? key (rest.foldl Entries.leftUnion given) =
      (given.get? key).or ((union rest).get? key) := by
  induction rest generalizing given with
  | nil => exact Option.or_none.symm
  | cons value rest hypothesis =>
    have valueSorted := sorted value List.mem_cons_self
    have restSorted (other : Value) (member : other ∈ rest) : Entries.Sorted other :=
      sorted other (List.mem_cons_of_mem _ member)
    have first := Entries.get?_leftUnion givenSorted value key
    have later := hypothesis restSorted (Entries.sorted_leftUnion given valueSorted)
    rw [List.foldl_cons, later, first, get?_union_cons valueSorted, Option.or_assoc]

end Value

namespace Shape

variable {value : Value} {objectType : String}

/-! ## What is written for the values of several items -/

/-- The shape that the values of items make, each with the type of its object. -/
def ofItems : List (Value × String) → Shape
  | [] => {}
  | (value, objectType) :: rest =>
    rest.foldl (fun shape part => shape.fillMissing part.1 part.2) (reading value objectType)

/-- One more value is taken over last. -/
theorem ofItems_append_singleton {parts : List (Value × String)} (nonempty : parts ≠ [])
    (part : Value × String) :
    ofItems (parts ++ [part]) = (ofItems parts).fillMissing part.1 part.2 := by
  cases parts with
  | nil => contradiction
  | cons first rest =>
    obtain ⟨value, objectType⟩ := first
    exact List.foldl_append

/-- The offsets that are filled in for the first one of the values of items. -/
def filledFirst : List (Value × String) → Value
  | [] => []
  | (value, objectType) :: _ => filledIn value objectType

variable {parts : List (Value × String)} {key : String}

/-- A shape of several values keeps these with the offsets that are filled in for the first one. -/
theorem exists_keeps_ofItems (sorted : ∀ part ∈ parts, Entries.Sorted part.1) :
    ∃ given, Keeps given (ofItems parts) ∧ ∀ key, given.get? key =
      ((filledFirst parts).get? key).or ((Value.union (parts.map Prod.fst)).get? key) := by
  cases parts with
  | nil => exact ⟨[], keeps_ofValue .nil "", fun _ => rfl⟩
  | cons part rest =>
    obtain ⟨value, objectType⟩ := part
    have valueSorted : Entries.Sorted value := sorted _ List.mem_cons_self
    have restSorted (part : Value × String) (member : part ∈ rest) : Entries.Sorted part.1 :=
      sorted part (List.mem_cons_of_mem _ member)
    have valuesSorted : ∀ other ∈ rest.map Prod.fst, Entries.Sorted other :=
      List.forall_mem_map.mpr restSorted
    refine ⟨_, (keeps_reading valueSorted objectType).foldl_fillMissing restSorted, fun key => ?_⟩
    rw [Value.get?_foldl_leftUnion valuesSorted (sorted_withOffsets valueSorted objectType),
      get?_withOffsets_eq_or, List.map_cons, Value.get?_union_cons valueSorted, Option.or_assoc]
    rfl

/-- Only text offsets are filled in for the first value, as integers. -/
theorem integer_of_filledFirst {filled : Json}
    (found : (filledFirst parts).get? key = some filled) :
    key ∈ filledNames ∧ ∃ count : Int, filled = .integer count := by
  cases parts with
  | nil => contradiction
  | cons part rest => exact integer_of_filledIn found

/-- Where offsets are promoted, both are filled in for the first value. -/
theorem exists_filledFirst (promoted : (ofItems parts).offsetsPromoted = true)
    (offset : key ∈ filledNames) : ∃ filled, (filledFirst parts).get? key = some filled := by
  cases parts with
  | nil => contradiction
  | cons part rest =>
    have first := promoted_of_foldl_fillMissing promoted
    rw [reading_eq] at first
    exact exists_filledIn (Bool.and_eq_true_iff.mp first).1 offset

/-- Apart from offsets that are filled in, the fields of several values are written. -/
theorem rel_toValue_ofItems (sorted : ∀ part ∈ parts, Entries.Sorted part.1)
    (unfilled : (filledFirst parts).get? key = none) :
    Option.Rel Json.Renders ((ofItems parts).toValue.get? key)
      ((Value.union (parts.map Prod.fst)).get? key) := by
  obtain ⟨given, keeps, fields⟩ := exists_keeps_ofItems sorted
  have kept : ¬ ((ofItems parts).offsetsPromoted = true ∧ key ∈ filledNames) := by
    rintro ⟨promoted, offset⟩
    obtain ⟨filled, found⟩ := exists_filledFirst promoted offset
    rw [unfilled] at found
    contradiction
  have field := keeps.renders key
  rw [fields, unfilled, Option.none_or] at field
  rw [keeps.get?_toValue, if_neg kept]
  exact field

/-- Offsets that are filled in are written unless they are promoted. -/
theorem get?_toValue_filled (sorted : ∀ part ∈ parts, Entries.Sorted part.1) {filled : Json}
    (found : (filledFirst parts).get? key = some filled) : (ofItems parts).toValue.get? key =
      if (ofItems parts).offsetsPromoted then none else some filled := by
  obtain ⟨given, keeps, fields⟩ := exists_keeps_ofItems sorted
  have offset := (integer_of_filledFirst found).1
  have same : given.get? key = some filled := by rw [fields, found, Option.some_or]
  rw [keeps.get?_toValue, keeps.offsets key offset, same]
  simp only [offset, and_true]

/-- What is written for several values has their fields, apart from one that is left out, just when
they do not have that field, and have the offsets that are filled in for the first one just where
these are written. -/
theorem renders_erase_iff (sorted : ∀ part ∈ parts, Entries.Sorted part.1) (own : String) :
    Value.Renders ((ofItems parts).toValue.erase own) (Value.union (parts.map Prod.fst)) ↔
      (Value.union (parts.map Prod.fst)).get? own = none ∧
      ∀ key filled, key ≠ own → (filledFirst parts).get? key = some filled →
        (Value.union (parts.map Prod.fst)).get? key =
          if (ofItems parts).offsetsPromoted then none else some filled := by
  have erased (key : String) (other : key ≠ own) :
      Entries.get? key ((ofItems parts).toValue.erase own) = (ofItems parts).toValue.get? key :=
    Entries.get?_erase_of_ne other _
  constructor
  · intro renders
    refine ⟨?_, fun key filled other found => ?_⟩
    · have field := renders own
      rw [Entries.get?_erase_self] at field
      exact Value.eq_none_of_rel field
    · have field := renders key
      obtain ⟨-, count, integer⟩ := integer_of_filledFirst found
      rw [erased key other, get?_toValue_filled sorted found, integer] at field
      rw [integer]
      cases promoted : (ofItems parts).offsetsPromoted with
      | true =>
        rw [promoted, if_pos rfl] at field
        exact Value.eq_none_of_rel field
      | false =>
        rw [promoted, if_neg Bool.false_ne_true] at field
        exact Value.eq_some_of_rel field
  · rintro ⟨absent, offsets⟩ key
    by_cases same : key = own
    · rw [same, Entries.get?_erase_self, absent]
      exact .none
    · rw [erased key same]
      cases found : (filledFirst parts).get? key with
      | none => exact rel_toValue_ofItems sorted found
      | some filled =>
        rw [get?_toValue_filled sorted found, ← offsets key filled same found]
        exact Value.rel_of_eq rfl

end Shape
end Labeling
