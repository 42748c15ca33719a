import Labeling.Proofs.Shape.Parts
import Labeling.Proofs.Shape.Rendering

/-!
# Taking over fields is reading the union

The shape of a value that takes over the fields of another one has the geometry of the two values
together, the first one before the second, and the same further fields up to doubles
(`Shape.fillMissing_ofValue`). The fields that a form keeps as doubles are read by every form of
objects of the same type as doubles, so that nothing is lost when a form gives way to another one
(`Value.Agrees.geometry`).
-/
namespace Labeling

namespace Json

/-- The numbers of fields become doubles field by field. -/
theorem fieldsAsDoubles_eq_map (fields : List (String × Json)) :
    fieldsAsDoubles fields = fields.map fun entry => (entry.1, entry.2.asDoubles) := by
  induction fields with
  | nil => rfl
  | cons entry rest hypothesis => rw [fieldsAsDoubles, hypothesis, List.map_cons]

/-- A field as doubles. -/
theorem get?_fieldsAsDoubles (fields : Value) (key : String) :
    Entries.get? key (fieldsAsDoubles fields) = (fields.get? key).map asDoubles := by
  rw [fieldsAsDoubles_eq_map]
  exact Entries.get?_map (fun _ => asDoubles) key fields

/-- Sorted fields that are the same as doubles one by one are so together. -/
theorem fieldsAsDoubles_congr {left right : Value} (leftSorted : Entries.Sorted left)
    (rightSorted : Entries.Sorted right)
    (same : ∀ key, (left.get? key).map asDoubles = (right.get? key).map asDoubles) :
    fieldsAsDoubles left = fieldsAsDoubles right := by
  have sorted {fields : Value} (sorted : Entries.Sorted fields) :
      Entries.Sorted (fieldsAsDoubles fields) := by
    rw [fieldsAsDoubles_eq_map]
    exact List.pairwise_map.mpr sorted
  refine Entries.ext_of_sorted (sorted leftSorted) (sorted rightSorted) fun key => ?_
  rw [get?_fieldsAsDoubles, get?_fieldsAsDoubles]
  exact same key

end Json

namespace Value

variable {α : Type} {left right value : Value} {key objectType : String}

/-! ## What is read from doubles -/

/-- What is read does not depend on whether numbers are doubles. -/
def ReadsDoubles (read : Json → Option α) : Prop := ∀ content, read content.asDoubles = read content

/-- Numbers are read from doubles. -/
theorem readsDoubles_double : ReadsDoubles Json.double? := by
  intro content
  cases content <;> rfl

/-- Pairs of numbers are read from doubles. -/
theorem readsDoubles_point : ReadsDoubles point := by
  intro content
  cases content with
  | array items =>
    rw [Json.asDoubles, Json.itemsAsDoubles_eq_map]
    match items with
    | [x, y] =>
      show (do some (← x.asDoubles.double?, ← y.asDoubles.double?)) = _
      rw [readsDoubles_double, readsDoubles_double]
      rfl
    | [] => rfl
    | [_] => rfl
    | _ :: _ :: _ :: _ => rfl
  | _ => rfl

/-- Lists are read from doubles if their items are. -/
theorem ReadsDoubles.list {read : Json → Option α} (reads : ReadsDoubles read) :
    ReadsDoubles (Value.list read) := by
  intro content
  cases content with
  | array items =>
    rw [Json.asDoubles, Json.itemsAsDoubles_eq_map]
    show (items.map Json.asDoubles).mapM read = items.mapM read
    induction items with
    | nil => rfl
    | cons item rest hypothesis =>
      rw [List.map_cons, List.mapM_cons, List.mapM_cons, reads, hypothesis]
  | _ => rfl

/-- A field is the same as doubles in two values. -/
def SameDoubles (left right : Value) (key : String) : Prop :=
  (left.get? key).map Json.asDoubles = (right.get? key).map Json.asDoubles

/-- A needed field is read alike if it is the same as doubles. -/
theorem SameDoubles.needed {read : Json → Option α} (same : SameDoubles left right key)
    (reads : ReadsDoubles read) : left.needed key read = right.needed key read := by
  have asDoubles (value : Value) :
      value.needed key read = ((value.get? key).map Json.asDoubles).bind read := by
    rw [Value.needed, Option.bind_map]
    exact Option.bind_congr fun content _ => (reads content).symm
  rw [asDoubles left, asDoubles right, same]

/-- An optional field is read alike if it is the same as doubles. -/
theorem SameDoubles.optional {read : Json → Option α} (same : SameDoubles left right key)
    (reads : ReadsDoubles read) : left.optional key read = right.optional key read := by
  have asDoubles (value : Value) :
      value.optional key read = Value.optional (Json.fieldsAsDoubles value) key read := by
    rw [Value.optional, Value.optional, Json.get?_fieldsAsDoubles]
    cases value.get? key with
    | none => rfl
    | some content =>
      cases content with
      | null => rfl
      | _ =>
        dsimp only [Option.map_some]
        rw [← reads]
        rfl
  rw [asDoubles left, asDoubles right, Value.optional, Value.optional,
    Json.get?_fieldsAsDoubles, Json.get?_fieldsAsDoubles, same]

/-- A field is there alike if it is the same as doubles. -/
theorem SameDoubles.has (same : SameDoubles left right key) : left.has key = right.has key := by
  have present := congrArg Option.isSome same
  rw [Option.isSome_map, Option.isSome_map] at present
  exact present

/-- The names of the fields that forms of objects of a type keep as doubles. -/
def doubleNames (objectType : String) : List String :=
  if objectType = "image" then
    ["x", "y", "width", "height", "rotation", "points", "radiusX", "radiusY"]
  else if ["audio", "audioplus", "video"].contains objectType then ["start", "end"]
  else []

/-- A form keeps no fields as doubles but those of some names. -/
def KeepsWithin (names : List String) (form : Option Geometry) : Prop :=
  ∀ geometry, form = some geometry → geometry.doubleNames ⊆ names

/-- Image values keep measures and points as doubles. -/
theorem keepsWithin_imageGeometry (value : Value) :
    KeepsWithin ["x", "y", "width", "height", "rotation", "points", "radiusX", "radiusY"]
      value.imageGeometry := by
  intro geometry found
  have noSpan (start stop : Double) (channel : Option Nat) :
      geometry ≠ .audioSpan start stop channel := by
    rintro rfl
    unfold imageGeometry polygon ellipse brush rectangle keyPoint at found
    simp only [Option.bind_eq_bind] at found
    grind [Option.bind_eq_some_iff]
  cases geometry with
  | audioSpan start stop channel => exact absurd rfl (noSpan start stop channel)
  | _ => simp [Geometry.doubleNames]

/-- Spans of text keep nothing as doubles. -/
theorem keepsWithin_textSpan (value : Value) : KeepsWithin [] value.textSpan := by
  intro geometry found
  simp only [textSpan, Option.bind_eq_bind, Option.bind_eq_some_iff] at found
  obtain ⟨_, -, _, -, _, -, _, -, _, -, made⟩ := found
  cases made
  exact List.Subset.refl _

/-- Spans of sound keep their ends as doubles. -/
theorem keepsWithin_audioSpan (value : Value) : KeepsWithin ["start", "end"] value.audioSpan := by
  intro geometry found
  simp only [audioSpan, Option.bind_eq_bind, Option.bind_eq_some_iff] at found
  obtain ⟨_, -, _, -, _, -, made⟩ := found
  cases made
  exact List.Subset.refl _

/-- Spans of a series keep nothing as doubles. -/
theorem keepsWithin_timeRange (value : Value) : KeepsWithin [] value.timeRange := by
  intro geometry found
  simp only [timeRange, Option.bind_eq_bind, Option.bind_eq_some_iff] at found
  obtain ⟨_, -, _, -, _, -, made⟩ := found
  cases made
  exact List.Subset.refl _

/-- The geometry of a value keeps no other fields as doubles. -/
theorem doubleNames_geometry (value : Value) (objectType : String) :
    (value.geometry objectType).doubleNames ⊆ doubleNames objectType := by
  have of_form {names : List String} {form : Option Geometry} (keeps : KeepsWithin names form) :
      (form.getD .none).doubleNames ⊆ names := by
    cases found : form with
    | none => exact List.nil_subset names
    | some geometry => exact keeps geometry found
  rw [geometry, doubleNames]
  split
  · exact of_form (keepsWithin_imageGeometry value)
  · split
    · exact List.Subset.trans (of_form (keepsWithin_textSpan value)) (List.nil_subset _)
    · split
      · exact of_form (keepsWithin_audioSpan value)
      · split
        · exact of_form (keepsWithin_timeRange value)
        · exact List.nil_subset _

/-- Two values have the same fields, those that are kept as doubles as doubles. -/
structure Agrees (objectType : String) (left right : Value) : Prop where
  /-- Every field is the same as doubles. -/
  alike : ∀ key, SameDoubles left right key
  /-- Fields that are not kept as doubles are the same. -/
  same : ∀ key ∉ doubleNames objectType, left.get? key = right.get? key

/-- Image values that agree have the same form. -/
theorem Agrees.imageGeometry (agrees : Agrees "image" left right) :
    left.imageGeometry = right.imageGeometry := by
  have alike := agrees.alike
  have points := readsDoubles_point.list
  have numbers := readsDoubles_double
  have closed : left.optional "closed" Json.bool? = right.optional "closed" Json.bool? := by
    rw [optional, optional, agrees.same "closed" (by decide)]
  have masks : left.brush = right.brush := by
    rw [brush, brush, needed, needed, needed, needed, agrees.same "format" (by decide),
      agrees.same "rle" (by decide)]
  rw [Value.imageGeometry, Value.imageGeometry, (alike "points").has, (alike "radiusX").has,
    (alike "rle").has, (alike "width").has, (alike "height").has, masks]
  simp only [polygon, ellipse, rectangle, keyPoint, closed, (alike "points").needed points,
    (alike "x").needed numbers, (alike "y").needed numbers, (alike "width").needed numbers,
    (alike "height").needed numbers, (alike "radiusX").needed numbers,
    (alike "radiusY").needed numbers, (alike "rotation").optional numbers,
    (alike "width").optional numbers]

/-- Values that agree have the same geometry. -/
theorem Agrees.geometry (agrees : Agrees objectType left right) :
    left.geometry objectType = right.geometry objectType := by
  by_cases image : objectType = "image"
  · subst image
    rw [Value.geometry, Value.geometry, if_pos rfl, if_pos rfl, agrees.imageGeometry]
  · by_cases audio : ["audio", "audioplus", "video"].contains objectType = true
    · have ends : doubleNames objectType = ["start", "end"] := by
        rw [doubleNames, if_neg image, if_pos audio]
      have spans : left.audioSpan = right.audioSpan := by
        rw [audioSpan, audioSpan, (agrees.alike "start").needed readsDoubles_double,
          (agrees.alike "end").needed readsDoubles_double, optional, optional,
          agrees.same "channel" (by rw [ends]; decide)]
      have notText : ¬ isTextObject objectType = true := by
        simp only [List.contains_iff_mem, List.mem_cons, List.not_mem_nil, or_false] at audio
        rcases audio with rfl | rfl | rfl
        all_goals decide
      rw [Value.geometry, Value.geometry, if_neg image, if_neg image, if_neg notText,
        if_neg notText, if_pos audio, if_pos audio, spans]
    · -- Nothing is kept as doubles, so the fields are the same.
      refine geometry_congr fun key _ _ => agrees.same key ?_
      rw [doubleNames, if_neg image, if_neg audio]
      exact List.not_mem_nil

end Value

namespace Shape

variable {first second : Value}

/-- A field is the same as doubles before and after a form has written it. -/
theorem asDoubles_written (geometry : Geometry) (key : String) (field : Json) :
    (geometry.written key field).asDoubles = field.asDoubles := by
  rw [Geometry.written]
  split
  · exact Json.asDoubles_asDoubles field
  · rfl

/-- The fields of a shape with further ones agree with those of its value with the further ones. -/
theorem agrees_leftUnion (firstSorted : Entries.Sorted first) (second : Value)
    (objectType : String) :
    Value.Agrees objectType ((ofValue first objectType).allFields.leftUnion second)
      (first.leftUnion second) := by
  have whole (key : String) : Entries.get? key (first.leftUnion second) =
      (first.get? key).or (second.get? key) := Entries.get?_leftUnion firstSorted second key
  have shaped (key : String) :
      Entries.get? key ((ofValue first objectType).allFields.leftUnion second) =
        ((first.get? key).map ((first.geometry objectType).written key)).or
          (second.get? key) := by
    rw [get?_leftUnion_allFields (sorted_allFields_ofValue firstSorted objectType),
      get?_allFields_ofValue]
  constructor
  · intro key
    rw [Value.SameDoubles, whole, shaped]
    cases first.get? key with
    | none => rfl
    | some field => exact congrArg some (asDoubles_written _ key field)
  · intro key other
    have unkept : key ∉ (first.geometry objectType).doubleNames :=
      fun kept => other (Value.doubleNames_geometry first objectType kept)
    rw [whole, shaped, Geometry.written_of_not_mem unkept, Option.map_id, id]

/-- A shape that was just read takes over fields as if they were read with its own ones. -/
theorem fillMissing_ofValue_eq (firstSorted : Entries.Sorted first)
    (secondSorted : Entries.Sorted second) (objectType : String) :
    (ofValue first objectType).fillMissing second objectType =
      ofValue ((ofValue first objectType).allFields.leftUnion second) objectType := by
  have sorted := sorted_allFields_ofValue firstSorted objectType
  rw [fillMissing]
  split
  · rename_i complete
    -- Nothing is taken over, and the fields of a shape give the same shape.
    have nothing : (ofValue first objectType).allFields.leftUnion second =
        (ofValue first objectType).allFields := by
      refine Entries.ext_of_sorted (Entries.sorted_leftUnion _ secondSorted) sorted fun key => ?_
      rw [get?_leftUnion_allFields sorted]
      cases found : second.get? key with
      | none => exact Option.or_none
      | some field =>
        have present := List.all_eq_true.mp complete _ (Entries.mem_of_get? found)
        exact Option.or_eq_left_of_isSome present
    rw [nothing, ofValue_allFields_ofValue firstSorted]
  · rfl

/-- Values that agree have shapes with the same further fields as doubles. -/
theorem fieldsAsDoubles_extra {left right : Value} {objectType : String}
    (agrees : Value.Agrees objectType left right) (leftSorted : Entries.Sorted left)
    (rightSorted : Entries.Sorted right) :
    Json.fieldsAsDoubles (ofValue left objectType).extra =
      Json.fieldsAsDoubles (ofValue right objectType).extra := by
  refine Json.fieldsAsDoubles_congr (List.Pairwise.filter _ leftSorted)
    (List.Pairwise.filter _ rightSorted) fun key => ?_
  rw [get?_extra_ofValue, get?_extra_ofValue, agrees.geometry]
  split
  · rfl
  · exact agrees.alike key

/-- The shape of a value that takes over the fields of another one is the shape of both values
together, the first before the second: it has the same geometry and, as doubles, the same further
fields. So the fields of the first value stay, and the second one has nothing more to give. -/
theorem fillMissing_ofValue (firstSorted : Entries.Sorted first)
    (secondSorted : Entries.Sorted second) (objectType : String) :
    let filled := (ofValue first objectType).fillMissing second objectType
    let whole := ofValue (first.leftUnion second) objectType
    filled.geometry = whole.geometry ∧
      Json.fieldsAsDoubles filled.extra = Json.fieldsAsDoubles whole.extra ∧
      filled.offsetsPromoted = whole.offsetsPromoted ∧
      filled.fillMissing second objectType = filled ∧
      ∀ key field, first.get? key = some field →
        (filled.toValue.get? key).map Json.asDoubles = some field.asDoubles := by
  intro filled whole
  have agrees := agrees_leftUnion firstSorted second objectType
  have read : filled = ofValue ((ofValue first objectType).allFields.leftUnion second) objectType :=
    fillMissing_ofValue_eq firstSorted secondSorted objectType
  refine ⟨?_, ?_, ?_, ?_, fun key field found => ?_⟩
  · rw [read]
    exact agrees.geometry
  · rw [read]
    exact fieldsAsDoubles_extra agrees (Entries.sorted_leftUnion _ secondSorted)
      (Entries.sorted_leftUnion _ secondSorted)
  · rw [read]
    rfl
  · refine fillMissing_of_has fun key present => ?_
    rw [has_fillMissing (sorted_allFields_ofValue firstSorted objectType), present, Bool.or_true]
  · have own : Entries.get? key (first.leftUnion second) = some field := by
      rw [Entries.get?_leftUnion firstSorted, found, Option.some_or]
    have alike := agrees.alike key
    rw [Value.SameDoubles, own] at alike
    rw [read]
    show ((ofValue _ objectType).allFields.get? key).map Json.asDoubles = _
    rw [get?_allFields_ofValue, Option.map_map, ← Option.map_some, ← alike]
    exact congrArg (Option.map · _) (funext (asDoubles_written _ key))

/-- A point with a width and a field of its own, in whole numbers. -/
def widePoint : Value :=
  [("width", .integer 3), ("x", .integer 1), ("y", .integer 2), ("zoom", .integer 2)]

/-- A height, and a place that is known already. -/
def lateHeight : Value := [("height", .integer 4), ("x", .integer 9)]

/-- A point that takes over a height becomes a rectangle in its own place. -/
theorem widePoint_filled :
    let filled := (ofValue widePoint "image").fillMissing lateHeight "image"
    Entries.Sorted widePoint ∧ Entries.Sorted lateHeight ∧
      (ofValue widePoint "image").geometry = .keyPoint (.ofInt 1) (.ofInt 2) (some (.ofInt 3)) ∧
      filled.geometry = .rectangle (.ofInt 1) (.ofInt 2) (.ofInt 3) (.ofInt 4) none ∧
      Json.fieldsAsDoubles filled.extra = [("zoom", .float (.ofInt 2))] ∧
      filled.fillMissing lateHeight "image" = filled := by
  intro filled
  have sorted : Entries.Sorted widePoint ∧ Entries.Sorted lateHeight := by
    rw [Entries.Sorted, Entries.Sorted, widePoint, lateHeight]
    decide
  obtain ⟨geometry, extra, -, again, -⟩ := fillMissing_ofValue sorted.1 sorted.2 "image"
  exact ⟨sorted.1, sorted.2, rfl, geometry.trans rfl, extra.trans rfl, again⟩

end Shape
end Labeling
