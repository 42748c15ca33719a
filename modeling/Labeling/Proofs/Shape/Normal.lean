import Labeling.Proofs.Shape.Fields

/-!
# Values that shapes write as they are

A value is normal if its fields are those of its form, put over it. A shape of a normal value writes
the value as it is, but for offsets that are left out as promoted (`toValue_of_isNormal`), and a
shape gives the same shape again from its fields (`ofValue_allFields_ofValue`).
-/
namespace Labeling

namespace Shape

variable {value : Value} {objectType : String}

/-! ## Fields of a shape -/

/-- The fields of a form are sorted. -/
theorem sorted_fields (geometry : Geometry) : Entries.Sorted geometry.fields :=
  Entries.sorted_ofList geometry.fieldList

/-- What the fields of a shape hold. -/
theorem get?_allFields (shape : Shape) (key : String) :
    shape.allFields.get? key = (shape.geometry.fields.get? key).or (shape.extra.get? key) :=
  Entries.get?_leftUnion (sorted_fields shape.geometry) shape.extra key

/-- The further fields of a shape that is read are those that its form does not know. -/
theorem get?_extra_ofValue (value : Value) (objectType key : String) :
    (ofValue value objectType).extra.get? key =
      if (value.geometry objectType).fields.has key then none else value.get? key := by
  rw [ofValue]
  dsimp only
  rw [Entries.get?_filter (fun key => !(value.geometry objectType).fields.has key)]
  cases (value.geometry objectType).fields.has key <;> rfl

/-- The fields of a shape that is read are those of its form, put over its value. -/
theorem over_allFields_ofValue (value : Value) (objectType : String) :
    Value.Over (value.geometry objectType).fields value (ofValue value objectType).allFields := by
  intro key
  rw [get?_allFields, get?_extra_ofValue]
  show ((value.geometry objectType).fields.get? key).or _ = _
  cases found : (value.geometry objectType).fields.get? key with
  | none => simp [Entries.has, found]
  | some field => rfl

/-- A shape that is read has the names of fields that its value has. -/
theorem has_allFields_ofValue (value : Value) (objectType key : String) :
    (ofValue value objectType).allFields.has key = value.has key :=
  (over_allFields_ofValue value objectType).has (fun _ => Value.has_of_has_fields) key

/-- The fields of a shape that is read are sorted if its value is. -/
theorem sorted_allFields_ofValue (sorted : Entries.Sorted value) (objectType : String) :
    Entries.Sorted (ofValue value objectType).allFields :=
  Entries.sorted_leftUnion _ (List.Pairwise.filter _ sorted)

/-- The fields of a shape that is read give the same shape. -/
theorem ofValue_allFields_ofValue (sorted : Entries.Sorted value) (objectType : String) :
    ofValue (ofValue value objectType).allFields objectType = ofValue value objectType := by
  have layered := over_allFields_ofValue value objectType
  have geometry := Value.geometry_filled layered
  have extra : (ofValue (ofValue value objectType).allFields objectType).extra =
      (ofValue value objectType).extra := by
    refine Entries.ext_of_sorted
      (List.Pairwise.filter _ (sorted_allFields_ofValue sorted objectType))
      (List.Pairwise.filter _ sorted) fun key => ?_
    rw [get?_extra_ofValue, get?_extra_ofValue, geometry, layered key]
    split
    · rfl
    · rename_i unknown
      rw [Entries.has, Bool.not_eq_true, Option.isSome_eq_false_iff,
        Option.isNone_iff_eq_none] at unknown
      rw [unknown, Option.none_or]
  calc
    ofValue (ofValue value objectType).allFields objectType
      = ⟨(ofValue value objectType).allFields.geometry objectType,
          (ofValue (ofValue value objectType).allFields objectType).extra, false⟩ := rfl
    _ = ⟨value.geometry objectType, (ofValue value objectType).extra, false⟩ := by
      rw [geometry, extra]
    _ = ofValue value objectType := rfl

/-! ## Values that shapes write as they are -/

/-- A value that has its fields as its shape has them. -/
def IsNormal (objectType : String) (value : Value) : Prop :=
  (ofValue value objectType).allFields = value

/-- A value has its fields as its shape has them if it has those of its form. -/
theorem isNormal_of_fields (sorted : Entries.Sorted value)
    (same : ∀ key field, (value.geometry objectType).fields.get? key = some field →
      value.get? key = some field) : IsNormal objectType value := by
  refine Entries.ext_of_sorted (sorted_allFields_ofValue sorted objectType) sorted fun key => ?_
  rw [over_allFields_ofValue value objectType key]
  cases found : (value.geometry objectType).fields.get? key with
  | none => rfl
  | some field => exact (same key field found).symm

/-- A normal value has the fields of its form. -/
theorem IsNormal.get?_fields (normal : IsNormal objectType value) {key : String} {field : Json}
    (found : (value.geometry objectType).fields.get? key = some field) :
    value.get? key = some field := by
  have layered := over_allFields_ofValue value objectType key
  rw [normal, found] at layered
  exact layered

/-- A form with both text offsets among its fields. -/
def HasOffsets (geometry : Geometry) : Prop :=
  geometry.fields.has "startOffset" = true ∧ geometry.fields.has "endOffset" = true

/-- What is written for a normal value is the value, less its offsets if they are promoted. -/
theorem toValue_of_isNormal (normal : IsNormal objectType value) (sorted : Entries.Sorted value)
    {promoted : Bool} (offsets : promoted = true → HasOffsets (value.geometry objectType)) :
    Shape.toValue { ofValue value objectType with offsetsPromoted := promoted } =
      if promoted then (value.erase "startOffset").erase "endOffset" else value := by
  cases promoted with
  | false => exact normal
  | true =>
    have written : Shape.toValue { ofValue value objectType with offsetsPromoted := true } =
        (((value.geometry objectType).fields.erase "startOffset").erase "endOffset").leftUnion
          (ofValue value objectType).extra := rfl
    rw [written, if_pos rfl]
    refine Entries.ext_of_sorted
      (Entries.sorted_leftUnion _ (List.Pairwise.filter _ sorted))
      (Entries.sorted_erase _ (Entries.sorted_erase _ sorted)) fun key => ?_
    rw [Entries.get?_leftUnion
      (Entries.sorted_erase _ (Entries.sorted_erase _ (sorted_fields _))), Entries.get?_erase,
      Entries.get?_erase, Entries.get?_erase, Entries.get?_erase, get?_extra_ofValue]
    obtain ⟨startKnown, endKnown⟩ := offsets rfl
    by_cases isEnd : key = "endOffset"
    · rw [if_pos isEnd, if_pos isEnd, isEnd, if_pos endKnown]
      rfl
    · by_cases isStart : key = "startOffset"
      · rw [if_neg isEnd, if_neg isEnd, if_pos isStart, if_pos isStart, isStart, if_pos startKnown]
        rfl
      · have layered := over_allFields_ofValue value objectType key
        rw [normal] at layered
        rw [if_neg isEnd, if_neg isEnd, if_neg isStart, if_neg isStart, layered]
        cases found : (value.geometry objectType).fields.get? key with
        | none => simp [Entries.has, found]
        | some field => simp

end Shape

end Labeling
