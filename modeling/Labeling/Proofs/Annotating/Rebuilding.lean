import Labeling.Proofs.Annotating.Loaded
import Labeling.Proofs.Shape.Parts

/-!
# Areas rebuilt from their items

The items of an area all have its marks and its geometry, each with the payload of its result.
Added to an annotation without the area, they make a copy of it (`rebuilt_begunArea`,
`Rebuilt.continuedArea`) that has its marks again. The copy is written as the area was just when
the geometry is read back from the parts that payloads leave of it (`Rebuilt.toWire_eq_iff`).
-/
namespace Labeling

namespace Area

variable {tree : ElementTree} {area copy : Area} {result : AreaResult} {objectType : String}

/-- A result as it is read again from its item. -/
def reread (tree : ElementTree) (area : Area) (result : AreaResult) : AreaResult :=
  AreaResult.ofWire (area.toWire result)
    (AnnotationState.splitPayload (result.keyIn tree) (area.toWire result).value).2

/-- The copy of an area that the items of some of its results make. -/
structure Rebuilt (tree : ElementTree) (objectType : String) (area : Area)
    (written : List AreaResult) (copy : Area) : Prop where
  /-- The copy has the id of the area. -/
  raw : copy.id.raw = area.id.raw
  /-- The copy is where the area is. -/
  parentId : copy.parentId = area.parentId
  /-- The copy may be changed if the area may be. -/
  readonly : copy.readonly = area.readonly
  /-- The copy is shown if the area is. -/
  hidden : copy.hidden = area.hidden
  /-- The copy has the results as they are read again. -/
  results : copy.results = written.map (area.reread tree)
  /-- The geometry is made of the parts that payloads leave. -/
  shape : copy.shape =
    Shape.ofParts objectType area.shape.toValue (written.map (·.keyIn tree))

/-! ## Values of items -/

/-- A result holds nothing under another key than its own. -/
theorem get?_value_of_ne (own : result.IsOwn tree) {key : String}
    (other : key ≠ result.keyIn tree) : result.value.get? key = none := by
  rcases own with none | ⟨payload, one⟩
  · rw [none, Entries.get?_nil]
  · rw [one, Entries.get?_cons, if_neg other, Entries.get?_nil]

/-- The value of an item without its payload is the geometry without it. -/
theorem erase_toWire_value (own : result.IsOwn tree)
    (sorted : Entries.Sorted area.shape.toValue) :
    (area.toWire result).value.erase (result.keyIn tree) =
      area.shape.toValue.erase (result.keyIn tree) := by
  refine Entries.ext_of_sorted (Entries.sorted_erase _ (Entries.sorted_leftUnion _ sorted))
    (Entries.sorted_erase _ sorted) fun key => ?_
  rw [Entries.get?_erase, Entries.get?_erase]
  split
  · rfl
  · rename_i different
    exact (Entries.get?_leftUnion own.sorted area.shape.toValue key).trans
      (by rw [get?_value_of_ne own different, Option.none_or])

/-- An item holds what its result holds, and else what its geometry holds. -/
theorem get?_toWire_value (own : result.IsOwn tree) (area : Area) (key : String) :
    (area.toWire result).value.get? key =
      (result.value.get? key).or (area.shape.toValue.get? key) :=
  Entries.get?_leftUnion own.sorted area.shape.toValue key

/-- The value of an item is sorted if the geometry is. -/
theorem sorted_toWire_value (sorted : Entries.Sorted area.shape.toValue) :
    Entries.Sorted (area.toWire result).value :=
  Entries.sorted_leftUnion result.value sorted

/-- A payload put over another geometry gives an item's value just when the geometries are the same
apart from the payload, which is not written if there is none. -/
theorem leftUnion_reread_eq_iff (own : result.IsOwn tree)
    (sorted : Entries.Sorted area.shape.toValue) {other : Value}
    (otherSorted : Entries.Sorted other) :
    Entries.leftUnion (area.reread tree result).value other = (area.toWire result).value ↔
      other.erase (result.keyIn tree) = area.shape.toValue.erase (result.keyIn tree) ∧
        ((area.toWire result).value.get? (result.keyIn tree) = none →
          other.get? (result.keyIn tree) = none) := by
  have payload : (area.reread tree result).value =
      (((area.toWire result).value.get? (result.keyIn tree)).map
        fun payload => (result.keyIn tree, payload)).toList :=
    AnnotationState.splitPayload_snd _ _
  have valueSorted : Entries.Sorted (area.toWire result).value := sorted_toWire_value sorted
  rw [payload, ← erase_toWire_value own sorted]
  cases found : (area.toWire result).value.get? (result.keyIn tree) with
  | none =>
    rw [Entries.erase_of_get?_eq_none found]
    constructor
    · intro same
      have same : other = (area.toWire result).value := same
      rw [same, Entries.erase_of_get?_eq_none found]
      exact ⟨rfl, fun _ => found⟩
    · rintro ⟨same, absent⟩
      rw [Entries.erase_of_get?_eq_none (absent rfl)] at same
      exact same
  | some content =>
    have put : Entries.leftUnion
        (((some content).map fun payload => (result.keyIn tree, payload)).toList) other =
          other.put (result.keyIn tree) content := rfl
    rw [put]
    constructor
    · intro same
      refine ⟨?_, fun none => nomatch none⟩
      rw [← same]
      refine Entries.ext_of_sorted (Entries.sorted_erase _ otherSorted)
        (Entries.sorted_erase _ (Entries.sorted_put _ _ otherSorted)) fun key => ?_
      rw [Entries.get?_erase, Entries.get?_erase]
      split
      · rfl
      · rename_i different
        rw [Entries.get?_put_of_ne content different]
    · rintro ⟨same, -⟩
      refine Entries.ext_of_sorted (Entries.sorted_put _ _ otherSorted) valueSorted fun key => ?_
      rw [Entries.get?_put]
      split
      · rename_i isKey
        rw [isKey, found]
      · rename_i different
        rw [← Entries.get?_erase_of_ne different, same, Entries.get?_erase_of_ne different]

/-! ## Marks of items -/

/-- An unchangeable area marks all its items, and no other area does. -/
theorem getD_readonlyMark (area : Bool) (result : Option Bool) :
    (readonlyMark area result).getD false = area := by
  cases area with
  | true => rfl
  | false =>
    cases result with
    | none => rfl
    | some value => cases value <;> rfl

/-- Marks are written as they were written. -/
theorem readonlyMark_readonlyMark (area : Bool) (result : Option Bool) :
    readonlyMark area (readonlyMark area result) = readonlyMark area result := by
  cases area with
  | true => rfl
  | false =>
    cases result with
    | none => rfl
    | some value => cases value <;> rfl

/-- The items of an area are hidden if it is. -/
theorem getD_hidden_toWire (area : Area) (result : AreaResult) :
    (area.toWire result).hidden.getD false = area.hidden := by
  show (if area.hidden then some true else none).getD false = area.hidden
  cases area.hidden <;> rfl

/-- The items of an area name the area around it. -/
theorem getD_parentId_toWire (area : Area) (result : AreaResult) :
    (area.toWire result).parentId.getD "" = area.parentId := by
  show (if area.parentId = "" then none else some area.parentId).getD "" = area.parentId
  split
  · rename_i empty
    exact empty.symm
  · rfl

/-! ## Copies -/

/-- An item of an area is read as the geometry without the payload, and the result. -/
theorem splitPayload_toWire {control : Element}
    (found : tree.get? result.fromName = some control) (own : result.IsOwn tree)
    (sorted : Entries.Sorted area.shape.toValue) :
    AnnotationState.splitPayload (control.payloadKey.getD (area.toWire result).resultType)
        (area.toWire result).value =
      (area.shape.toValue.erase (result.keyIn tree), (area.reread tree result).value) := by
  have key : control.payloadKey.getD (area.toWire result).resultType = result.keyIn tree :=
    (AreaResult.keyIn_eq found).symm
  rw [key]
  refine Prod.ext ?_ rfl
  rw [AnnotationState.splitPayload_fst]
  exact erase_toWire_value own sorted

/-- The first item of an area begins a copy. -/
theorem rebuilt_begunArea {control object : Element}
    (found : tree.get? result.fromName = some control) (own : result.IsOwn tree)
    (sorted : Entries.Sorted area.shape.toValue) (id : AreaId) (raw : id.raw = area.id.raw)
    (seq : Nat) :
    Rebuilt tree object.type area [result]
      (AnnotationState.begunArea control object (area.toWire result) {} id seq) := by
  rw [AnnotationState.begunArea, splitPayload_toWire found own sorted]
  refine ⟨raw, getD_parentId_toWire area result, getD_readonlyMark _ _, ?_, rfl, rfl⟩
  show (false || (area.toWire result).hidden.getD false) = area.hidden
  rw [Bool.false_or]
  exact getD_hidden_toWire area result

/-- Every further item of an area goes on with the copy. -/
theorem Rebuilt.continuedArea {control object : Element} {written : List AreaResult}
    (rebuilt : Rebuilt tree object.type area written copy) (nonempty : written ≠ [])
    (found : tree.get? result.fromName = some control) (own : result.IsOwn tree)
    (sorted : Entries.Sorted area.shape.toValue) :
    Rebuilt tree object.type area (written ++ [result])
      (AnnotationState.continuedArea control object (area.toWire result) copy) := by
  rw [AnnotationState.continuedArea, splitPayload_toWire found own sorted]
  refine ⟨rebuilt.raw, ?_, ?_, ?_, ?_, ?_⟩
  · show (if copy.parentId = "" then (area.toWire result).parentId.getD "" else copy.parentId) =
      area.parentId
    split
    · exact getD_parentId_toWire area result
    · exact rebuilt.parentId
  · show (copy.readonly || (readonlyMark area.readonly result.readonly).getD false) = area.readonly
    rw [rebuilt.readonly, getD_readonlyMark, Bool.or_self]
  · show (copy.hidden || (area.toWire result).hidden.getD false) = area.hidden
    rw [rebuilt.hidden, getD_hidden_toWire, Bool.or_self]
  · show copy.results ++ [area.reread tree result] = _
    rw [rebuilt.results, List.map_append, List.map_singleton]
  · show copy.shape.fillMissing (area.shape.toValue.erase (result.keyIn tree)) object.type = _
    rw [rebuilt.shape, List.map_append, List.map_singleton, Shape.ofParts_append_singleton]
    simpa using nonempty

/-- The copy writes its results as the area does, with the geometry that it has now. -/
theorem Rebuilt.toWire {written : List AreaResult}
    (rebuilt : Rebuilt tree objectType area written copy) (result : AreaResult) :
    copy.toWire (area.reread tree result) =
      { area.toWire result with
        value := Entries.leftUnion (area.reread tree result).value copy.shape.toValue } := by
  have readonly : readonlyMark copy.readonly (area.reread tree result).readonly =
      readonlyMark area.readonly result.readonly := by
    rw [rebuilt.readonly]
    exact readonlyMark_readonlyMark _ _
  rw [Area.toWire, readonly, rebuilt.raw, rebuilt.parentId, rebuilt.hidden]
  rfl

/-- A copy is written as its area just when the geometry is read back from its parts. -/
theorem Rebuilt.toWire_eq_iff {written : List AreaResult}
    (rebuilt : Rebuilt tree objectType area written copy)
    (own : ∀ result ∈ written, result.IsOwn tree)
    (sorted : Entries.Sorted area.shape.toValue) :
    (∀ result ∈ written, copy.toWire (area.reread tree result) = area.toWire result) ↔
      Shape.ReadsBack objectType area.shape.toValue (written.map (·.keyIn tree)) := by
  have copySorted : Entries.Sorted copy.shape.toValue := by
    rw [rebuilt.shape]
    exact Shape.sorted_toValue_ofParts sorted _
  have value_iff (result : AreaResult) (member : result ∈ written) :
      copy.toWire (area.reread tree result) = area.toWire result ↔
        Entries.leftUnion (area.reread tree result).value copy.shape.toValue =
          (area.toWire result).value := by
    rw [rebuilt.toWire]
    constructor
    · exact fun same => congrArg WireResult.value same
    · intro same
      rw [same]
  constructor
  · intro same
    refine Shape.readsBack_of_erase_eq sorted fun key member => ?_
    obtain ⟨result, inside, isKey⟩ := List.mem_map.mp member
    have value := (value_iff result inside).mp (same result inside)
    have erased := ((leftUnion_reread_eq_iff (own result inside) sorted copySorted).mp value).1
    rw [← isKey, ← rebuilt.shape]
    exact erased
  · intro readsBack result member
    obtain ⟨erased, absent⟩ := readsBack.erase_eq sorted (List.mem_map_of_mem member)
    rw [← rebuilt.shape] at erased absent
    rw [value_iff result member, leftUnion_reread_eq_iff (own result member) sorted copySorted]
    refine ⟨erased, fun none => absent ?_⟩
    rw [get?_toWire_value (own result member) area, Option.or_eq_none_iff] at none
    exact none.2

end Area
end Labeling
