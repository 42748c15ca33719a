import Labeling.Proofs.Shape.Rereading

/-!
# Shapes lose nothing

The shape of a value is written with the fields of the value, and each is written as it was given,
except that the fields which a form keeps as doubles are written as doubles
(`Shape.toValue_ofValue`). Which fields these are depends on the form only
(`Geometry.doubleNames`). A form is made of needed and optional fields, and what is written for a
field is known from how it was read (`Value.Writes`); a null in place of an optional field is no
part of the form, and is written with the fields that the form does not know. Where a value has no
geometry, every field is written as it was given. Read again, what is written gives the same shape.
-/
namespace Labeling

namespace Json

mutual

/-- The value with its numbers as doubles. -/
def asDoubles : Json → Json
  | .integer value => .float (.ofInt value)
  | .array items => .array (itemsAsDoubles items)
  | .object fields => .object (fieldsAsDoubles fields)
  | other => other

/-- The items with their numbers as doubles. -/
def itemsAsDoubles : List Json → List Json
  | [] => []
  | item :: items => asDoubles item :: itemsAsDoubles items

/-- The fields with their numbers as doubles. -/
def fieldsAsDoubles : List (String × Json) → List (String × Json)
  | [] => []
  | (key, value) :: fields => (key, asDoubles value) :: fieldsAsDoubles fields

end

/-- The numbers of items become doubles item by item. -/
theorem itemsAsDoubles_eq_map (items : List Json) : itemsAsDoubles items = items.map asDoubles := by
  induction items with
  | nil => rfl
  | cons item rest hypothesis => rw [itemsAsDoubles, hypothesis, List.map_cons]

end Json

namespace Geometry

/-- The names of the fields that a form keeps as doubles. -/
def doubleNames : Geometry → List String
  | .rectangle .. => ["x", "y", "width", "height", "rotation"]
  | .polygon .. => ["points"]
  | .keyPoint .. => ["x", "y", "width"]
  | .ellipse .. => ["x", "y", "radiusX", "radiusY", "rotation"]
  | .audioSpan .. => ["start", "end"]
  | .brush .. => []
  | .textSpan .. => []
  | .timeRange .. => []
  | .none => []

/-- A field as a form writes it. -/
def written (geometry : Geometry) (key : String) (field : Json) : Json :=
  if key ∈ geometry.doubleNames then field.asDoubles else field

/-- A field that a form does not keep as doubles is written as it is. -/
theorem written_of_not_mem {geometry : Geometry} {key : String}
    (other : key ∉ geometry.doubleNames) : geometry.written key = id :=
  funext fun _ => if_neg other

/-- A null is written as it is. -/
theorem written_null (geometry : Geometry) (key : String) : geometry.written key .null = .null := by
  rw [written]
  split
  · rfl
  · rfl

end Geometry

namespace Value

open Labeling.Geometry

variable {α : Type} {value : Value} {geometry : Geometry} {key objectType : String}

/-! ## What is written for a field -/

/-- What is written for what was read is known from the field. -/
def Exact (read : Json → Option α) (write : α → Json) (become : Json → Json) : Prop :=
  ∀ field content, read field = some content → write content = become field

/-- What is written as doubles is so in a field that a form keeps as doubles. -/
theorem Exact.double {read : Json → Option α} {write : α → Json}
    (exact : Exact read write Json.asDoubles) (kept : key ∈ geometry.doubleNames) :
    Exact read write (geometry.written key) := by
  intro field content found
  rw [written, if_pos kept]
  exact exact field content found

/-- What is written as it was given is so in any other field. -/
theorem Exact.same {read : Json → Option α} {write : α → Json} (exact : Exact read write id)
    (other : key ∉ geometry.doubleNames) : Exact read write (geometry.written key) := by
  intro field content found
  rw [written_of_not_mem other]
  exact exact field content found

/-- Numbers are written as doubles. -/
theorem exact_double : Exact Json.double? .double Json.asDoubles := by
  intro field content read
  obtain ⟨finite, found, rfl⟩ := Json.exists_of_double? read
  rw [Json.double_toDouble]
  cases field with
  | integer value =>
    cases found
    rfl
  | float value =>
    cases found
    rfl
  | _ => contradiction

/-- Points are written with their numbers as doubles. -/
theorem exact_point : Exact point pointJson Json.asDoubles := by
  intro field content read
  unfold point at read
  split at read
  · rename_i x y
    simp only [Option.bind_eq_bind, Option.bind_eq_some_iff] at read
    obtain ⟨first, firstRead, second, secondRead, made⟩ := read
    cases made
    rw [pointJson, exact_double x first firstRead, exact_double y second secondRead]
    rfl
  · contradiction

/-- A list is written item by item. -/
theorem exists_items_of_list {read : Json → Option α} {write : α → Json} {become : Json → Json}
    (exact : Exact read write become) {field : Json} {contents : List α}
    (found : list read field = some contents) :
    ∃ items, field = .array items ∧ contents.map write = items.map become := by
  cases field with
  | array items =>
    refine ⟨items, rfl, ?_⟩
    replace found : items.mapM read = some contents := found
    induction items generalizing contents with
    | nil =>
      cases found
      rfl
    | cons item rest hypothesis =>
      simp only [List.mapM_cons, Option.bind_eq_bind, Option.bind_eq_some_iff] at found
      obtain ⟨first, firstRead, others, restRead, made⟩ := found
      cases made
      rw [List.map_cons, List.map_cons, exact item first firstRead, hypothesis restRead]
  | _ => contradiction

/-- Lists of points are written with their numbers as doubles. -/
theorem exact_points :
    Exact (list point) (fun points => .array (points.map pointJson)) Json.asDoubles := by
  intro field points read
  obtain ⟨items, same, written⟩ := exists_items_of_list exact_point read
  rw [same, Json.asDoubles, Json.itemsAsDoubles_eq_map]
  exact congrArg Json.array written

/-- Truth values are written as they are. -/
theorem exact_bool : Exact Json.bool? .bool id := by
  intro field content read
  cases field with
  | bool value =>
    cases read
    rfl
  | _ => contradiction

/-- Texts are written as they are. -/
theorem exact_text : Exact Json.text? .string id := by
  intro field content read
  cases field with
  | string value =>
    cases read
    rfl
  | _ => contradiction

/-- Counts are written as they are. -/
theorem exact_countBelow (bound : Nat) : Exact (countBelow bound) countJson id := by
  intro field content read
  obtain ⟨natural, -⟩ := Option.filter_eq_some_iff.mp read
  cases field with
  | integer value =>
    rw [Json.natural?] at natural
    split at natural
    · rename_i nonnegative
      cases natural
      exact congrArg Json.integer (Int.toNat_of_nonneg nonnegative)
    · contradiction
  | _ => contradiction

/-- Lengths of runs are written as they are. -/
theorem exact_runs (bound : Nat) :
    Exact (list (countBelow bound)) (fun runs => .array (runs.map countJson)) id := by
  intro field runs read
  obtain ⟨items, same, written⟩ := exists_items_of_list (exact_countBelow bound) read
  rw [List.map_id] at written
  rw [same]
  exact congrArg Json.array written

/-- Ends of spans are written as they are. -/
theorem exact_offset : Exact Offset.ofJson? Offset.toJson id :=
  fun _ _ => Shape.toJson_of_ofJson?

/-- Values read as they are are written as they are. -/
theorem exact_some : Exact some id id := fun _ _ read => (Option.some.inj read).symm

/-! ## What is written for a form -/

/-- Some fields are those that a form has under some names: put over the value that the form was
read from, they give the fields of the value as the form writes them. -/
structure Writes (value : Value) (geometry : Geometry) (names : List String)
    (fields : List (String × Json)) : Prop where
  /-- Put over the value, they are its fields under the names, as the form writes them. -/
  inside : ∀ key ∈ names,
    (Entries.get? key fields).or (value.get? key) = (value.get? key).map (geometry.written key)
  /-- There are none under other names. -/
  outside : ∀ key ∉ names, Entries.get? key fields = .none

/-- A needed field is written. -/
theorem writes_needed {read : Json → Option α} {write : α → Json} {content : α}
    (found : value.needed key read = some content)
    (exact : Exact read write (geometry.written key)) :
    Writes value geometry [key] [(key, write content)] := by
  obtain ⟨field, present, fieldRead⟩ := Option.bind_eq_some_iff.mp found
  refine ⟨fun name member => ?_, fun name other => ?_⟩
  · rw [List.mem_singleton.mp member, Entries.get?_cons, if_pos rfl, present, Option.some_or,
      Option.map_some, exact field content fieldRead]
  · rw [Entries.get?_cons, if_neg fun same => other (List.mem_singleton.mpr same), Entries.get?_nil]

/-- An optional field is written; a missing one stays missing, and a null stays null. -/
theorem writes_optional {read : Json → Option α} {write : α → Json} {content : Option α}
    (found : value.optional key read = some content)
    (exact : Exact read write (geometry.written key)) :
    Writes value geometry [key] (optionalField key write content) := by
  refine ⟨fun name member => ?_, fun name other => ?_⟩
  · rw [List.mem_singleton.mp member, get?_optionalField, if_pos rfl]
    cases content with
    | some content =>
      obtain ⟨field, present, fieldRead⟩ := exists_of_optional found
      rw [present, Option.map_some, Option.some_or, Option.map_some,
        exact field content fieldRead]
    | none =>
      rw [Option.map_none, Option.none_or]
      rw [optional] at found
      split at found
      · rename_i absent
        rw [absent, Option.map_none]
      · rename_i null
        rw [null, Option.map_some, written_null]
      · obtain ⟨_, -, made⟩ := Option.map_eq_some_iff.mp found
        contradiction
  · rw [get?_optionalField, if_neg fun same => other (List.mem_singleton.mpr same)]

/-- Fields that are written one after the other are written together. -/
theorem Writes.append {firstNames secondNames : List String} {first second : List (String × Json)}
    (firstWrites : Writes value geometry firstNames first)
    (secondWrites : Writes value geometry secondNames second) :
    Writes value geometry (firstNames ++ secondNames) (first ++ second) := by
  refine ⟨fun key member => ?_, fun key other => ?_⟩
  · rw [Entries.get?_append]
    by_cases early : key ∈ firstNames
    · have written := firstWrites.inside key early
      cases found : Entries.get? key first with
      | some field =>
        rw [found, Option.some_or] at written
        rw [Option.some_or, Option.some_or]
        exact written
      | none =>
        rw [found, Option.none_or] at written
        rw [Option.none_or]
        by_cases late : key ∈ secondNames
        · exact secondWrites.inside key late
        · rw [secondWrites.outside key late, Option.none_or]
          exact written
    · rw [firstWrites.outside key early, Option.none_or]
      exact secondWrites.inside key ((List.mem_append.mp member).resolve_left early)
  · rw [List.mem_append, not_or] at other
    rw [Entries.get?_append, firstWrites.outside key other.1, secondWrites.outside key other.2,
      Option.none_or]

/-- A form whose fields are written exactly, all those among them that it keeps as doubles. -/
def IsLossless (form : Value → Option Geometry) : Prop :=
  ∀ {value : Value} {geometry : Geometry}, form value = some geometry →
    ∃ names, geometry.doubleNames ⊆ names ∧ Writes value geometry names geometry.fieldList

/-- Rectangles lose nothing. -/
theorem isLossless_rectangle : IsLossless rectangle := by
  intro value geometry found
  simp only [rectangle, Option.bind_eq_bind, Option.bind_eq_some_iff] at found
  obtain ⟨x, xRead, y, yRead, width, widthRead, height, heightRead, rotation, rotationRead,
    made⟩ := found
  cases made
  refine ⟨_, ?_, ((((writes_needed xRead (exact_double.double ?_)).append
    (writes_needed yRead (exact_double.double ?_))).append
    (writes_needed widthRead (exact_double.double ?_))).append
    (writes_needed heightRead (exact_double.double ?_))).append
    (writes_optional rotationRead (exact_double.double ?_))⟩
  all_goals simp [doubleNames]

/-- Polygons lose nothing. -/
theorem isLossless_polygon : IsLossless polygon := by
  intro value geometry found
  simp only [polygon, Option.bind_eq_bind, Option.bind_eq_some_iff] at found
  obtain ⟨points, pointsRead, closed, closedRead, made⟩ := found
  cases made
  refine ⟨_, ?_, (writes_needed pointsRead (exact_points.double ?_)).append
    (writes_optional closedRead (exact_bool.same ?_))⟩
  all_goals simp [doubleNames]

/-- Points lose nothing. -/
theorem isLossless_keyPoint : IsLossless keyPoint := by
  intro value geometry found
  simp only [keyPoint, Option.bind_eq_bind, Option.bind_eq_some_iff] at found
  obtain ⟨x, xRead, y, yRead, width, widthRead, made⟩ := found
  cases made
  refine ⟨_, ?_, ((writes_needed xRead (exact_double.double ?_)).append
    (writes_needed yRead (exact_double.double ?_))).append
    (writes_optional widthRead (exact_double.double ?_))⟩
  all_goals simp [doubleNames]

/-- Ellipses lose nothing. -/
theorem isLossless_ellipse : IsLossless ellipse := by
  intro value geometry found
  simp only [ellipse, Option.bind_eq_bind, Option.bind_eq_some_iff] at found
  obtain ⟨x, xRead, y, yRead, radiusX, radiusXRead, radiusY, radiusYRead, rotation, rotationRead,
    made⟩ := found
  cases made
  refine ⟨_, ?_, ((((writes_needed xRead (exact_double.double ?_)).append
    (writes_needed yRead (exact_double.double ?_))).append
    (writes_needed radiusXRead (exact_double.double ?_))).append
    (writes_needed radiusYRead (exact_double.double ?_))).append
    (writes_optional rotationRead (exact_double.double ?_))⟩
  all_goals simp [doubleNames]

/-- Masks lose nothing. -/
theorem isLossless_brush : IsLossless brush := by
  intro value geometry found
  simp only [brush, Option.bind_eq_bind, Option.bind_eq_some_iff] at found
  obtain ⟨format, formatRead, runs, runsRead, made⟩ := found
  cases made
  have lengths {geometry : Geometry} (other : "rle" ∉ geometry.doubleNames) :=
    writes_needed runsRead ((exact_runs _).same other)
  refine ⟨_, ?_, (writes_needed formatRead (exact_text.same ?_)).append (lengths ?_)⟩
  all_goals simp [doubleNames]

/-- Spans of text lose nothing: their ends may be whole numbers, and stay so. -/
theorem isLossless_textSpan : IsLossless textSpan := by
  intro value geometry found
  simp only [textSpan, Option.bind_eq_bind, Option.bind_eq_some_iff] at found
  obtain ⟨start, startRead, stop, stopRead, startOffset, startOffsetRead, endOffset,
    endOffsetRead, text, textRead, made⟩ := found
  cases made
  refine ⟨_, ?_, ((((writes_needed startRead (exact_offset.same ?_)).append
    (writes_needed stopRead (exact_offset.same ?_))).append
    (writes_optional startOffsetRead ((exact_countBelow _).same ?_))).append
    (writes_optional endOffsetRead ((exact_countBelow _).same ?_))).append
    (writes_optional textRead (exact_text.same ?_))⟩
  all_goals simp [doubleNames]

/-- Spans of sound lose nothing. -/
theorem isLossless_audioSpan : IsLossless audioSpan := by
  intro value geometry found
  simp only [audioSpan, Option.bind_eq_bind, Option.bind_eq_some_iff] at found
  obtain ⟨start, startRead, stop, stopRead, channel, channelRead, made⟩ := found
  cases made
  refine ⟨_, ?_, ((writes_needed startRead (exact_double.double ?_)).append
    (writes_needed stopRead (exact_double.double ?_))).append
    (writes_optional channelRead ((exact_countBelow _).same ?_))⟩
  all_goals simp [doubleNames]

/-- Spans of a series lose nothing: their ends may be anything, and stay so. -/
theorem isLossless_timeRange : IsLossless timeRange := by
  intro value geometry found
  simp only [timeRange, Option.bind_eq_bind, Option.bind_eq_some_iff] at found
  obtain ⟨start, startRead, stop, stopRead, instant, instantRead, made⟩ := found
  cases made
  refine ⟨_, ?_, ((writes_needed startRead (exact_some.same ?_)).append
    (writes_needed stopRead (exact_some.same ?_))).append
    (writes_optional instantRead (exact_bool.same ?_))⟩
  all_goals simp [doubleNames]

/-- The forms of image values lose nothing. -/
theorem isLossless_imageGeometry : IsLossless imageGeometry := by
  intro value geometry found
  rw [imageGeometry] at found
  split at found
  · exact isLossless_polygon found
  · split at found
    · exact isLossless_ellipse found
    · split at found
      · exact isLossless_brush found
      · split at found
        · exact isLossless_rectangle found
        · exact isLossless_keyPoint found

/-- The fields of a form that loses nothing, put over the value, are those of the value as the form
writes them. So it is where there is no form. -/
theorem IsLossless.or_getD {form : Value → Option Geometry} (lossless : IsLossless form)
    (value : Value) (key : String) :
    (Entries.get? key ((form value).getD .none).fieldList).or (value.get? key) =
      (value.get? key).map (((form value).getD .none).written key) := by
  cases found : form value with
  | none =>
    have other : key ∉ Geometry.doubleNames .none := List.not_mem_nil
    rw [Option.getD_none, written_of_not_mem other, Option.map_id]
    exact Option.none_or
  | some geometry =>
    obtain ⟨names, doubles, writes⟩ := lossless found
    rw [Option.getD_some]
    by_cases inside : key ∈ names
    · exact writes.inside key inside
    · have other : key ∉ geometry.doubleNames := fun double => inside (doubles double)
      rw [writes.outside key inside, Option.none_or, written_of_not_mem other, Option.map_id, id]

/-- The fields of a geometry, put over its value, are those of the value as the geometry writes
them. -/
theorem or_geometry (value : Value) (objectType key : String) :
    (Entries.get? key (value.geometry objectType).fieldList).or (value.get? key) =
      (value.get? key).map ((value.geometry objectType).written key) := by
  have no_form : IsLossless fun _ => Option.none := by
    intro value geometry found
    contradiction
  rw [geometry]
  split
  · exact isLossless_imageGeometry.or_getD value key
  · split
    · exact isLossless_textSpan.or_getD value key
    · split
      · exact isLossless_audioSpan.or_getD value key
      · split
        · exact isLossless_timeRange.or_getD value key
        · exact no_form.or_getD value key

end Value

namespace Shape

variable {value : Value}

/-! ## What is written for a shape -/

/-- The fields of a shape that is read are those of its value, as its form writes them. -/
theorem get?_allFields_ofValue (value : Value) (objectType key : String) :
    (ofValue value objectType).allFields.get? key =
      (value.get? key).map ((value.geometry objectType).written key) := by
  rw [over_allFields_ofValue, Geometry.get?_fields]
  exact Value.or_geometry value objectType key

/-- A shape is written with the fields of the value that it was read from, in their order, each as
it was given or, if its form keeps it as doubles, with its numbers as doubles. What is written is
read as the same shape. -/
theorem toValue_ofValue (sorted : Entries.Sorted value) (objectType : String) :
    (ofValue value objectType).toValue = value.map (fun entry =>
        (entry.1, (ofValue value objectType).geometry.written entry.1 entry.2)) ∧
      Entries.keys (ofValue value objectType).toValue = Entries.keys value ∧
      ofValue (ofValue value objectType).toValue objectType = ofValue value objectType := by
  -- No offsets of a shape that was just read are promoted, so every field is written.
  have whole : (ofValue value objectType).toValue = (ofValue value objectType).allFields := rfl
  have fields : (ofValue value objectType).toValue = value.map (fun entry =>
      (entry.1, (ofValue value objectType).geometry.written entry.1 entry.2)) := by
    rw [whole]
    refine Entries.ext_of_sorted (sorted_allFields_ofValue sorted objectType)
      (List.pairwise_map.mpr sorted) fun key => ?_
    rw [get?_allFields_ofValue, Entries.get?_map (ofValue value objectType).geometry.written]
    rfl
  refine ⟨fields, ?_, ?_⟩
  · rw [fields, Entries.keys, Entries.keys, List.map_map]
    rfl
  · rw [whole]
    exact ofValue_allFields_ofValue sorted objectType

/-- A rectangle of whole numbers with a null for its rotation and a field of its own. -/
def zoomedBox : Value :=
  [("height", .integer 4), ("rotation", .null), ("width", .integer 3), ("x", .integer 1),
    ("y", .integer 2), ("zoom", .integer 2)]

/-- The measures of a rectangle become doubles, and its other fields stay. -/
theorem zoomedBox_written :
    Entries.Sorted zoomedBox ∧
      (ofValue zoomedBox "image").toValue =
        [("height", .float (.ofInt 4)), ("rotation", .null), ("width", .float (.ofInt 3)),
          ("x", .float (.ofInt 1)), ("y", .float (.ofInt 2)), ("zoom", .integer 2)] ∧
      Entries.keys (ofValue zoomedBox "image").toValue = Entries.keys zoomedBox ∧
      ofValue (ofValue zoomedBox "image").toValue "image" = ofValue zoomedBox "image" := by
  have sorted : Entries.Sorted zoomedBox := by
    rw [Entries.Sorted, zoomedBox]
    decide
  obtain ⟨fields, keys, again⟩ := toValue_ofValue sorted "image"
  have rectangle : (ofValue zoomedBox "image").geometry.doubleNames =
      ["x", "y", "width", "height", "rotation"] := rfl
  refine ⟨sorted, fields.trans ?_, keys, again⟩
  simp only [Geometry.written, rectangle]
  simp [zoomedBox, Json.asDoubles]

end Shape
end Labeling
