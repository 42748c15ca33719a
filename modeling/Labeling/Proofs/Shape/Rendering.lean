import Labeling.Proofs.Shape.Lossless

/-!
# Fields are written as they were given

Reading a value and writing its shape may turn numbers into doubles, in lists and in fields too,
and changes nothing else (`Json.Renders`). This may happen again and again, so it is stated as a
relation that goes over from one writing to the next. A shape that is read has the fields of its
value (`Shape.renders_allFields_ofValue`), and text offsets are counts, which stay as they are
(`Shape.get?_offset_ofValue`).
-/
namespace Labeling

namespace Json

mutual

/-- Numbers become doubles once. -/
theorem asDoubles_asDoubles : ∀ value : Json, value.asDoubles.asDoubles = value.asDoubles
  | .null => rfl
  | .bool _ => rfl
  | .integer _ => rfl
  | .float _ => rfl
  | .string _ => rfl
  | .array items => by rw [asDoubles, asDoubles, itemsAsDoubles_itemsAsDoubles]
  | .object fields => by rw [asDoubles, asDoubles, fieldsAsDoubles_fieldsAsDoubles]

/-- Numbers of items become doubles once. -/
theorem itemsAsDoubles_itemsAsDoubles :
    ∀ items : List Json, itemsAsDoubles (itemsAsDoubles items) = itemsAsDoubles items
  | [] => rfl
  | item :: items => by
    rw [itemsAsDoubles, itemsAsDoubles, asDoubles_asDoubles, itemsAsDoubles_itemsAsDoubles]

/-- Numbers of fields become doubles once. -/
theorem fieldsAsDoubles_fieldsAsDoubles : ∀ fields : List (String × Json),
    fieldsAsDoubles (fieldsAsDoubles fields) = fieldsAsDoubles fields
  | [] => rfl
  | (key, value) :: fields => by
    rw [fieldsAsDoubles, fieldsAsDoubles, asDoubles_asDoubles, fieldsAsDoubles_fieldsAsDoubles]

end

/-- A value as it may be written for a given one: the same, or the same with its numbers as
doubles. -/
def Renders (written given : Json) : Prop := written = given ∨ written = given.asDoubles

variable {written given : Json}

/-- A value is written for itself. -/
theorem Renders.refl (value : Json) : Renders value value := Or.inl rfl

/-- What is written for a value that is written for another one is written for that one. -/
theorem Renders.trans {between : Json} (later : Renders written between)
    (former : Renders between given) : Renders written given := by
  rcases later with rfl | rfl
  · exact former
  · rcases former with rfl | rfl
    · exact Or.inr rfl
    · exact Or.inr (asDoubles_asDoubles given)

/-- An integer is written for itself only. -/
theorem Renders.integer {value : Int} (renders : Renders (.integer value) given) :
    given = .integer value := by
  rcases renders with same | double
  · exact same.symm
  · cases given with
    | integer other => exact absurd double (by simp [asDoubles])
    | _ => exact absurd double (by simp [asDoubles])

end Json

/-- What a form writes for a field may be written for it. -/
theorem Geometry.renders_written (geometry : Geometry) (key : String) (field : Json) :
    Json.Renders (geometry.written key field) field := by
  rw [Geometry.written]
  split
  · exact Or.inr rfl
  · exact Or.inl rfl

namespace Value

variable {written given : Value}

/-- A value that has the fields of a given one, each as it may be written for it. -/
def Renders (written given : Value) : Prop :=
  ∀ key, Option.Rel Json.Renders (written.get? key) (given.get? key)

/-- Equal fields are written for each other. -/
theorem rel_of_eq {left right : Option Json} (same : left = right) :
    Option.Rel Json.Renders left right := by
  subst same
  cases left with
  | none => exact .none
  | some field => exact .some (.refl field)

/-- Where no field is written, none is given. -/
theorem eq_none_of_rel {right : Option Json} (rendered : Option.Rel Json.Renders .none right) :
    right = .none := by
  cases rendered
  rfl

/-- Where an integer is written, it is given. -/
theorem eq_some_of_rel {count : Int} {right : Option Json}
    (rendered : Option.Rel Json.Renders (some (.integer count)) right) :
    right = some (.integer count) := by
  cases rendered with
  | some renders => rw [renders.integer]

/-- A field is written just where one is given. -/
theorem isSome_eq_of_rel {left right : Option Json}
    (rendered : Option.Rel Json.Renders left right) : left.isSome = right.isSome := by
  cases rendered with
  | none => rfl
  | some _ => rfl

/-- What is written for a field that is written for another one is written for that one. -/
theorem rel_trans {left between right : Option Json} (later : Option.Rel Json.Renders left between)
    (former : Option.Rel Json.Renders between right) : Option.Rel Json.Renders left right := by
  cases later with
  | none => exact former
  | some renders =>
    cases former with
    | some rendered => exact .some (renders.trans rendered)

/-- A field that is written for another one is so with the same field in its place. -/
theorem rel_or {left right : Option Json} (rendered : Option.Rel Json.Renders left right)
    (other : Option Json) : Option.Rel Json.Renders (left.or other) (right.or other) := by
  cases rendered with
  | none => exact rel_of_eq rfl
  | some renders => exact .some renders

/-- What is written for a value that is written for another one is written for that one. -/
theorem Renders.trans {between : Value} (later : Renders written between)
    (former : Renders between given) : Renders written given :=
  fun key => rel_trans (later key) (former key)

/-- Values that are written for others are so with the same further fields. -/
theorem Renders.leftUnion (renders : Renders written given) (writtenSorted : Entries.Sorted written)
    (givenSorted : Entries.Sorted given) (value : Value) :
    Renders (Entries.leftUnion written value) (Entries.leftUnion given value) := by
  intro key
  have writtenUnion := Entries.get?_leftUnion writtenSorted value key
  have givenUnion := Entries.get?_leftUnion givenSorted value key
  rw [writtenUnion, givenUnion]
  exact rel_or (renders key) (value.get? key)

end Value

namespace Shape

/-! ## Fields of shapes -/

/-- A shape that is read has the fields of its value. -/
theorem renders_allFields_ofValue (value : Value) (objectType : String) :
    (ofValue value objectType).allFields.Renders value := by
  intro key
  rw [get?_allFields_ofValue]
  cases value.get? key with
  | none => exact .none
  | some field => exact .some (Geometry.renders_written _ key field)

/-- The names of text offsets. -/
def filledNames : List String := ["startOffset", "endOffset"]

/-- A shape that is read has the text offsets of its value as they are. -/
theorem get?_offset_ofValue (value : Value) (objectType : String) {key : String}
    (offset : key ∈ filledNames) :
    (ofValue value objectType).allFields.get? key = value.get? key := by
  have other : key ∉ (value.geometry objectType).doubleNames := by
    simp only [filledNames, List.mem_cons, List.not_mem_nil, or_false] at offset
    rcases offset with rfl | rfl
    · cases value.geometry objectType <;> simp [Geometry.doubleNames]
    · cases value.geometry objectType <;> simp [Geometry.doubleNames]
  rw [get?_allFields_ofValue, Geometry.written_of_not_mem other, Option.map_id, id]

end Shape
end Labeling
