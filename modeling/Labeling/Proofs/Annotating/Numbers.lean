import Labeling.Proofs.Annotating.LoadedAreas
import Labeling.Proofs.Annotating.Reshaping
import Labeling.Proofs.Equality
import Labeling.Proofs.Wire.RoundTrip

/-!
# Doubles that are numbers

Documents hold finite numbers, and geometry is read from documents. A double that is no number comes
from the host alone: in a shape that it gives to an area, or in the score of an item that it hands
over. If it gives none, every double of the areas, of the suggestions and of the states in the
history is a number (`KnowsNumbers.run`), and the state between two operations equals itself.
-/
namespace Labeling

/-! ## Geometry that is read -/

namespace Value

variable {value : Value} {key : String} {geometry : Geometry}

/-- A number of a document is a number. -/
theorem isNumber_of_double? {content : Json} {number : Double}
    (read : content.double? = some number) : number.isNumber = true := by
  obtain ⟨finite, -, rfl⟩ := Json.exists_of_double? read
  exact finite.isNumber_toDouble

/-- A needed number is one. -/
theorem isNumber_of_needed {number : Double} (read : value.needed key Json.double? = some number) :
    number.isNumber = true := by
  obtain ⟨content, -, read⟩ := Option.bind_eq_some_iff.mp read
  exact isNumber_of_double? read

/-- An optional number is one, if it is there. -/
theorem isNumber_of_optional {content : Option Double}
    (read : value.optional key Json.double? = some content) :
    ∀ number ∈ content.toList, number.isNumber = true := by
  intro number member
  rw [Option.mem_toList] at member
  subst member
  obtain ⟨field, -, read⟩ := exists_of_optional read
  exact isNumber_of_double? read

/-- The numbers of a point are numbers. -/
theorem isNumber_of_point {content : Json} {corner : Double × Double}
    (read : point content = some corner) :
    corner.1.isNumber = true ∧ corner.2.isNumber = true := by
  unfold point at read
  split at read
  · simp only [Option.bind_eq_bind, Option.bind_eq_some_iff] at read
    obtain ⟨first, firstRead, second, secondRead, made⟩ := read
    cases made
    exact ⟨isNumber_of_double? firstRead, isNumber_of_double? secondRead⟩
  · contradiction

/-- Every item of a list that was read was read. -/
theorem exists_of_mem_list {α : Type} {read : Json → Option α} {content : Json} {items : List α}
    (found : list read content = some items) {item : α} (member : item ∈ items) :
    ∃ content, read content = some item := by
  cases content with
  | array contents =>
    replace found : contents.mapM read = some items := found
    induction contents generalizing items with
    | nil =>
      cases found
      contradiction
    | cons content rest hypothesis =>
      simp only [List.mapM_cons, Option.bind_eq_bind, Option.bind_eq_some_iff] at found
      obtain ⟨first, firstRead, others, restRead, made⟩ := found
      cases made
      rcases List.mem_cons.mp member with same | inside
      · exact ⟨content, same ▸ firstRead⟩
      · exact hypothesis inside restRead
  | _ => contradiction

/-- The doubles of a rectangle are numbers. -/
theorem isNumeric_rectangle (read : rectangle value = some geometry) :
    geometry.isNumeric = true := by
  simp only [rectangle, Option.bind_eq_bind, Option.bind_eq_some_iff] at read
  obtain ⟨x, xRead, y, yRead, width, widthRead, height, heightRead, rotation, rotationRead,
    made⟩ := read
  cases made
  simpa [Geometry.isNumeric, Geometry.doubles, isNumber_of_needed xRead, isNumber_of_needed yRead,
    isNumber_of_needed widthRead, isNumber_of_needed heightRead]
    using isNumber_of_optional rotationRead

/-- The doubles of a polygon are numbers. -/
theorem isNumeric_polygon (read : polygon value = some geometry) : geometry.isNumeric = true := by
  simp only [polygon, Option.bind_eq_bind, Option.bind_eq_some_iff] at read
  obtain ⟨points, pointsRead, closed, -, made⟩ := read
  cases made
  obtain ⟨content, -, pointsRead⟩ := Option.bind_eq_some_iff.mp pointsRead
  rw [Geometry.isNumeric, Geometry.doubles, List.all_flatMap, List.all_eq_true]
  intro corner member
  obtain ⟨content, cornerRead⟩ := exists_of_mem_list pointsRead member
  obtain ⟨first, second⟩ := isNumber_of_point cornerRead
  simp [first, second]

/-- The doubles of a point are numbers. -/
theorem isNumeric_keyPoint (read : keyPoint value = some geometry) : geometry.isNumeric = true := by
  simp only [keyPoint, Option.bind_eq_bind, Option.bind_eq_some_iff] at read
  obtain ⟨x, xRead, y, yRead, width, widthRead, made⟩ := read
  cases made
  simpa [Geometry.isNumeric, Geometry.doubles, isNumber_of_needed xRead, isNumber_of_needed yRead]
    using isNumber_of_optional widthRead

/-- The doubles of an ellipse are numbers. -/
theorem isNumeric_ellipse (read : ellipse value = some geometry) : geometry.isNumeric = true := by
  simp only [ellipse, Option.bind_eq_bind, Option.bind_eq_some_iff] at read
  obtain ⟨x, xRead, y, yRead, radiusX, radiusXRead, radiusY, radiusYRead, rotation, rotationRead,
    made⟩ := read
  cases made
  simpa [Geometry.isNumeric, Geometry.doubles, isNumber_of_needed xRead, isNumber_of_needed yRead,
    isNumber_of_needed radiusXRead, isNumber_of_needed radiusYRead]
    using isNumber_of_optional rotationRead

/-- A mask has no doubles. -/
theorem isNumeric_brush (read : brush value = some geometry) : geometry.isNumeric = true := by
  simp only [brush, Option.bind_eq_bind, Option.bind_eq_some_iff] at read
  obtain ⟨format, -, runs, -, made⟩ := read
  cases made
  rfl

/-- A span of text has no doubles. -/
theorem isNumeric_textSpan (read : textSpan value = some geometry) : geometry.isNumeric = true := by
  simp only [textSpan, Option.bind_eq_bind, Option.bind_eq_some_iff] at read
  obtain ⟨start, -, stop, -, startOffset, -, endOffset, -, text, -, made⟩ := read
  cases made
  rfl

/-- The doubles of a span of sound are numbers. -/
theorem isNumeric_audioSpan (read : audioSpan value = some geometry) :
    geometry.isNumeric = true := by
  simp only [audioSpan, Option.bind_eq_bind, Option.bind_eq_some_iff] at read
  obtain ⟨start, startRead, stop, stopRead, channel, -, made⟩ := read
  cases made
  simp [Geometry.isNumeric, Geometry.doubles, isNumber_of_needed startRead,
    isNumber_of_needed stopRead]

/-- A span of a series has no doubles. -/
theorem isNumeric_timeRange (read : timeRange value = some geometry) :
    geometry.isNumeric = true := by
  simp only [timeRange, Option.bind_eq_bind, Option.bind_eq_some_iff] at read
  obtain ⟨start, -, stop, -, instant, -, made⟩ := read
  cases made
  rfl

/-- The doubles of a form on an image are numbers. -/
theorem isNumeric_imageGeometry (read : imageGeometry value = some geometry) :
    geometry.isNumeric = true := by
  rw [imageGeometry] at read
  split at read
  · exact isNumeric_polygon read
  · split at read
    · exact isNumeric_ellipse read
    · split at read
      · exact isNumeric_brush read
      · split at read
        · exact isNumeric_rectangle read
        · exact isNumeric_keyPoint read

/-- The doubles of a geometry that is read from a value are numbers. -/
theorem isNumeric_geometry (value : Value) (objectType : String) :
    (value.geometry objectType).isNumeric = true := by
  have numeric {read : Option Geometry}
      (each : ∀ geometry, read = some geometry → geometry.isNumeric = true) :
      (read.getD .none).isNumeric = true := by
    cases read with
    | none => rfl
    | some geometry => exact each geometry rfl
  refine numeric fun geometry read => ?_
  split at read
  · exact isNumeric_imageGeometry read
  · split at read
    · exact isNumeric_textSpan read
    · split at read
      · exact isNumeric_audioSpan read
      · split at read
        · exact isNumeric_timeRange read
        · contradiction

end Value

namespace Shape

/-- The doubles of the shape of a first item are numbers. -/
theorem isNumeric_reading (value : Value) (objectType : String) :
    (reading value objectType).geometry.isNumeric = true := by
  rw [reading_eq]
  exact Value.isNumeric_geometry _ objectType

/-- A shape of numbers takes over numbers. -/
theorem isNumeric_fillMissing {shape : Shape} (numeric : shape.geometry.isNumeric = true)
    (value : Value) (objectType : String) :
    (shape.fillMissing value objectType).geometry.isNumeric = true := by
  rw [fillMissing]
  split
  · exact numeric
  · exact Value.isNumeric_geometry _ objectType

end Shape

/-! ## What an operation brings -/

/-- Whether the score of an item, if it has one, is a number. -/
def WireResult.isNumeric (item : WireResult) : Bool := item.score.all Double.isNumber

/-- The score of an item of a payload is a number. -/
theorem Payload.isNumeric_of_items {payload : Json} {contents : List WireItem}
    (read : items payload = .ok contents) {item : WireResult}
    (member : WireItem.result item ∈ contents) : item.isNumeric = true := by
  obtain ⟨-, -, content, -, itemRead⟩ := exists_of_mem_items read member
  cases content with
  | object fields =>
    have tidy : item.Tidy := WireResult.tidy_empty.readAll itemRead
    rw [WireResult.isNumeric, Option.all_eq_true]
    intro score given
    obtain ⟨number, same⟩ := tidy.finite score given
    rw [same]
    exact number.isNumber_toDouble
  | _ => contradiction

/-- Whether every double that an operation brings is a number. -/
def Operation.isNumeric : Operation → Bool
  | .create shape _ _ _ => shape.geometry.isNumeric
  | .updateShape _ shape => shape.geometry.isNumeric
  | .loadItems items _ => (WireItem.results items).all WireResult.isNumeric
  | _ => true

namespace AnnotationState

variable {state : AnnotationState} {operation : Operation} {areas : Areas}

/-- What an operation that brings numbers loads has numbers for scores. -/
theorem isNumeric_of_mem_results {loading : Loading}
    (loads : state.loading? operation = some loading) (numeric : operation.isNumeric = true)
    {item : WireResult} (member : item ∈ loading.results) : item.isNumeric = true := by
  obtain ⟨original, given, repairs⟩ := Repair.exists_of_mem_results member
  rw [WireResult.isNumeric, (Repair.keeps_of_result? repairs).score]
  have read {target : AnnotationState} {payload : Json} {options : LoadOptions}
      (loads : loadingOf? target payload options = some loading) : original.isNumeric = true := by
    rw [loadingOf?] at loads
    split at loads
    · rename_i items found
      cases loads
      exact Payload.isNumeric_of_items found given
    · contradiction
  cases operation with
  | load payload options => exact read loads
  | loadItems items options =>
    cases loads
    rw [Operation.isNumeric, List.all_eq_true] at numeric
    exact numeric original (List.mem_filterMap.mpr ⟨_, given, rfl⟩)
  | toggleDraft =>
    rw [loading?] at loads
    split at loads
    · contradiction
    · exact read loads
  | _ => contradiction

/-! ## Areas of numbers -/

/-- The doubles of an area are those of its geometry and the scores of its results. -/
theorem isNumeric_area_iff {area : Area} : area.isNumeric = true ↔
    area.shape.geometry.isNumeric = true ∧
      ∀ result ∈ area.results, result.score.all Double.isNumber = true := by
  rw [Area.isNumeric, Bool.and_eq_true, List.all_eq_true]

/-- Items whose scores are numbers make areas of numbers. -/
theorem loadsKeep_isNumeric (tree : ElementTree) :
    LoadsKeep tree (·.isNumeric = true) (·.isNumeric = true) where
  begun control object item options id seq _ numeric :=
    isNumeric_area_iff.mpr
      ⟨Shape.isNumeric_reading _ object.type, List.forall_mem_singleton.mpr numeric⟩
  continued control object item area _ numeric before := by
    obtain ⟨shape, results⟩ := isNumeric_area_iff.mp before
    refine isNumeric_area_iff.mpr ⟨Shape.isNumeric_fillMissing shape _ object.type, ?_⟩
    intro result member
    rcases List.mem_append.mp member with old | new
    · exact results result old
    · rw [List.mem_singleton.mp new]
      exact numeric

/-- Every double of the areas that are known is a number. -/
def KnowsNumbers (state : AnnotationState) : Prop :=
  ∀ area, state.Knows area → area.isNumeric = true

namespace KnowsNumbers

/-- The present state is one of numbers. -/
theorem isNumeric_snapshot (numbers : state.KnowsNumbers) : state.snapshot.isNumeric = true := by
  rw [Snapshot.isNumeric, List.all_eq_true]
  exact fun entry inside => numbers entry.2 (Or.inl (Or.inl ⟨entry.1, inside⟩))

/-- Areas that come without a load are of numbers, if the operation brings numbers. -/
theorem reshapes (numbers : state.KnowsNumbers) (numeric : operation.isNumeric = true)
    (reshapes : state.Reshapes operation areas) :
    ∀ entry ∈ areas, entry.2.isNumeric = true := by
  have live (entry : AreaId × Area) (inside : entry ∈ state.areas) :
      entry.2.isNumeric = true := numbers entry.2 (Or.inl (Or.inl ⟨entry.1, inside⟩))
  cases reshapes with
  | fewer among => exact fun entry inside => live entry (among inside)
  | changed id _ _ scores shape =>
    intro entry inside
    rcases Entries.mem_update inside with old | ⟨former, stored, same⟩
    · exact live entry old
    · obtain ⟨formerShape, formerScores⟩ := isNumeric_area_iff.mp (live _ stored)
      rw [same]
      refine isNumeric_area_iff.mpr ⟨?_, fun result member => ?_⟩
      · rcases shape former with kept | replaced
        · exact kept ▸ formerShape
        · rw [replaced] at numeric
          exact numeric
      · rcases scores former result member with none | ⟨other, inside, score⟩
        · rw [none]
          rfl
        · rw [score]
          exact formerScores other inside
  | @swept middle each =>
    intro entry inside
    rcases each entry (areas_cleaned_subset middle inside) with old | joins
    · exact live entry old
    · cases joins with
      | created creates _ unscored =>
        rw [creates] at numeric
        refine isNumeric_area_iff.mpr ⟨numeric, fun result member => ?_⟩
        rw [unscored result member]
        rfl
      | @accepted id suggestion pending _ shape results =>
        have waits := numbers suggestion (Or.inl (Or.inr ⟨id, pending⟩))
        rw [isNumeric_area_iff, ← shape, ← results] at waits
        exact isNumeric_area_iff.mpr waits
  | handed holds =>
    exact fun entry inside => numbers entry.2 (Or.inr ⟨_, holds, entry.1, inside⟩)

/-- An operation that brings numbers leaves numbers. -/
theorem perform (numbers : state.KnowsNumbers) (numeric : operation.isNumeric = true) :
    (state.perform operation).1.KnowsNumbers := by
  have there : ∀ area, (state.perform operation).1.Presents area → area.isNumeric = true := by
    cases loads : state.loading? operation with
    | some loading =>
      exact (loadsKeep_isNumeric state.tree).perform loads
        (fun item => isNumeric_of_mem_results loads numeric)
        fun area known => numbers area (Or.inl known)
    | none =>
      obtain ⟨reshaped, suggestions⟩ := reshapes_perform operation loads
      exact forall_presents_iff.mpr ⟨numbers.reshapes numeric reshaped, fun entry pending =>
        numbers entry.2 (Or.inl (Or.inr ⟨entry.1, suggestions pending⟩))⟩
  exact fun area known => (knows_perform known).elim (there area) (numbers area)

/-- A run of operations that bring numbers leaves numbers. -/
theorem run {operations : List Operation} (numbers : state.KnowsNumbers)
    (numeric : ∀ operation ∈ operations, operation.isNumeric = true) :
    (state.run operations).KnowsNumbers := by
  induction operations generalizing state with
  | nil => exact numbers
  | cons operation rest hypothesis =>
    exact hypothesis (numbers.perform (numeric operation List.mem_cons_self))
      fun other member => numeric other (List.mem_cons_of_mem _ member)

end KnowsNumbers

/-- A new annotation knows no doubles. -/
theorem knowsNumbers_start (id : String) (kind : AnnotationKind) (tree : ElementTree)
    (settings : Settings) (session : Session) :
    (start id kind tree settings session).KnowsNumbers := by
  rintro area ((⟨key, inside⟩ | ⟨key, inside⟩) | ⟨held, holds, key, inside⟩)
  · contradiction
  · contradiction
  · rw [History.Holds.of_attach holds] at inside
    contradiction

end AnnotationState
end Labeling
