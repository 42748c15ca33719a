import Labeling.Proofs.Entries
import Labeling.Shape.Reading
import Mathlib.Data.String.Basic

/-!
# Geometry is read back from its fields

The fields of a form, put over the value that it was read from, give the same form again
(`geometry_filled`), although a number may have become a double or a null may have gone. A form has
no fields but those of its value (`has_of_has_fields`), and depends on no fields but its own
(`geometry_congr`).
-/
namespace Labeling

namespace Value

variable {α : Type} {value filled : Value} {key : String}

/-! ## Single fields -/

/-- What was read is read again from what is written for it. -/
def Settles (read : Json → Option α) (write : α → Json) : Prop :=
  ∀ content value, read content = some value → read (write value) = some value

/-- Numbers settle as doubles. -/
theorem settles_double : Settles Json.double? .double := by
  intro content value read
  obtain ⟨finite, -, rfl⟩ := Json.exists_of_double? read
  rw [Json.double_toDouble]
  rfl

/-- A number that was read is written as one. -/
theorem double_ne_null {content : Json} {value : Double} (read : content.double? = some value) :
    Json.double value ≠ .null := by
  obtain ⟨finite, -, rfl⟩ := Json.exists_of_double? read
  rw [Json.double_toDouble]
  exact Json.noConfusion

/-- Truth values settle. -/
theorem settles_bool : Settles Json.bool? .bool := fun _ _ _ => rfl

/-- Texts settle. -/
theorem settles_text : Settles Json.text? .string := fun _ _ _ => rfl

/-- Values read as they are settle. -/
theorem settles_some : Settles some id := fun _ _ _ => rfl

/-- Counts below a bound settle. -/
theorem settles_countBelow (bound : Nat) : Settles (countBelow bound) Geometry.countJson := by
  intro content value read
  obtain ⟨-, below⟩ := Option.filter_eq_some_iff.mp read
  rw [countBelow, Option.filter_eq_some_iff]
  refine ⟨?_, below⟩
  simp [Geometry.countJson, Json.natural?]

/-- Ends of text spans settle. -/
theorem settles_offset : Settles Offset.ofJson? Offset.toJson := by
  intro content value read
  cases value <;> rfl

/-- Points settle. -/
theorem settles_point : Settles point Geometry.pointJson := by
  intro content value read
  unfold point at read
  split at read
  · simp only [Option.bind_eq_bind, Option.bind_eq_some_iff] at read
    obtain ⟨first, firstRead, second, secondRead, made⟩ := read
    cases made
    simp [point, Geometry.pointJson, settles_double _ first firstRead,
      settles_double _ second secondRead]
  · contradiction

/-- Lists settle if their items do. -/
theorem Settles.list {read : Json → Option α} {write : α → Json} (settles : Settles read write) :
    Settles (Value.list read) fun values => .array (values.map write) := by
  intro content values found
  cases content with
  | array items =>
    show (values.map write).mapM read = some values
    replace found : items.mapM read = some values := found
    induction items generalizing values with
    | nil =>
      cases found
      rfl
    | cons item rest hypothesis =>
      simp only [List.mapM_cons, Option.bind_eq_bind, Option.bind_eq_some_iff] at found
      obtain ⟨first, firstRead, others, restRead, made⟩ := found
      cases made
      rw [List.map_cons, List.mapM_cons, settles item first firstRead, hypothesis others restRead]
      rfl
  | _ => contradiction

/-- A needed field is there. -/
theorem has_of_needed {read : Json → Option α} {content : α}
    (found : value.needed key read = some content) : value.has key = true := by
  obtain ⟨field, present, -⟩ := Option.bind_eq_some_iff.mp found
  rw [Entries.has, present]
  rfl

/-- An optional field with content is there and is read. -/
theorem exists_of_optional {read : Json → Option α} {content : α}
    (found : value.optional key read = some (some content)) :
    ∃ field, value.get? key = some field ∧ read field = some content := by
  rw [optional] at found
  split at found
  · cases Option.some.inj found
  · cases Option.some.inj found
  · rename_i field _ present
    obtain ⟨_, fieldRead, made⟩ := Option.map_eq_some_iff.mp found
    cases made
    exact ⟨field, present, fieldRead⟩

/-- An optional field with content is there. -/
theorem has_of_optional {read : Json → Option α} {content : Option α}
    (found : value.optional key read = some content) (present : content.isSome = true) :
    value.has key = true := by
  obtain ⟨content, same⟩ := Option.isSome_iff_exists.mp present
  subst same
  obtain ⟨field, inside, -⟩ := exists_of_optional found
  rw [Entries.has, inside]
  rfl

/-- A needed field is read again from what is written for it. -/
theorem needed_filled {read : Json → Option α} {write : α → Json} {content : α}
    (found : value.needed key read = some content) (settles : Settles read write)
    (field : filled.get? key = some (write content)) : filled.needed key read = some content := by
  obtain ⟨former, -, read⟩ := Option.bind_eq_some_iff.mp found
  rw [needed, field]
  exact settles former content read

/-- An optional field is read again from what is written for it; one without content stays. -/
theorem optional_filled {read : Json → Option α} {write : α → Json} {content : Option α}
    (found : value.optional key read = some content) (settles : Settles read write)
    (present : ∀ {field content}, read field = some content → write content ≠ .null)
    (field : filled.get? key = (content.map write).or (value.get? key)) :
    filled.optional key read = some content := by
  cases content with
  | none =>
    rw [optional, field]
    exact found
  | some content =>
    obtain ⟨former, -, read⟩ := exists_of_optional found
    rw [optional, field, Option.map_some, Option.some_or]
    split
    · contradiction
    · rename_i null
      exact absurd (Option.some.inj null) (present read)
    · rename_i written _ same
      cases same
      rw [settles former content read]
      rfl

end Value
namespace Geometry

/-- What an optional field holds. -/
theorem get?_optionalField {α : Type} (key other : String) (write : α → Json)
    (content : Option α) :
    Entries.get? key (optionalField other write content) =
      if key = other then content.map write else Option.none := by
  cases content with
  | none => simp [optionalField]
  | some content => simp [optionalField, Entries.get?_cons]

/-- The fields of a form have different names. -/
theorem nodup_keys_fieldList (geometry : Geometry) :
    (Entries.keys geometry.fieldList).Nodup := by
  cases geometry with
  | rectangle x y width height rotation =>
    cases rotation <;> simp [fieldList, optionalField, Entries.keys]
  | polygon points closed => cases closed <;> simp [fieldList, optionalField, Entries.keys]
  | keyPoint x y width => cases width <;> simp [fieldList, optionalField, Entries.keys]
  | ellipse x y radiusX radiusY rotation =>
    cases rotation <;> simp [fieldList, optionalField, Entries.keys]
  | brush format runs => simp [fieldList, Entries.keys]
  | textSpan start stop startOffset endOffset text =>
    cases startOffset <;> cases endOffset <;> cases text <;>
      simp [fieldList, optionalField, Entries.keys]
  | audioSpan start stop channel =>
    cases channel <;> simp [fieldList, optionalField, Entries.keys]
  | timeRange start stop instant =>
    cases instant <;> simp [fieldList, optionalField, Entries.keys]
  | none => simp [fieldList, Entries.keys]

/-- What the fields of a form hold. -/
theorem get?_fields (geometry : Geometry) (key : String) :
    geometry.fields.get? key = Entries.get? key geometry.fieldList :=
  Entries.get?_ofList (nodup_keys_fieldList geometry) key

/-- The names of an optional field. -/
theorem mem_keys_optionalField {α : Type} {key other : String} {write : α → Json}
    {content : Option α} :
    key ∈ Entries.keys (optionalField other write content) ↔
      key = other ∧ content.isSome = true := by
  cases content <;> simp [optionalField, Entries.keys]

/-- The names of the fields of a form. -/
theorem has_fields_iff (geometry : Geometry) (key : String) :
    geometry.fields.has key = true ↔ key ∈ Entries.keys geometry.fieldList := by
  rw [Entries.has, get?_fields]
  exact Entries.has_iff_mem_keys key geometry.fieldList

end Geometry

namespace Value

open Labeling.Geometry

/-! ## Forms -/

/-- A value that holds some fields, and otherwise what another value holds. -/
def Over (fields value filled : Value) : Prop :=
  ∀ key, filled.get? key = (fields.get? key).or (value.get? key)

/-- A form has no fields but those of its value, and is read back from its fields put over it. -/
structure ReadsBack (form : Value → Option Geometry) : Prop where
  /-- The fields of the form are among those of the value. -/
  has : ∀ {value : Value} {geometry : Geometry}, form value = some geometry →
    ∀ key, geometry.fields.has key = true → value.has key = true
  /-- The fields of the form are read as the same form. -/
  filled : ∀ {value : Value} {geometry : Geometry}, form value = some geometry →
    ∀ {filled : Value}, Over geometry.fields value filled → form filled = some geometry

/-- Rectangles are read back. -/
theorem readsBack_rectangle : ReadsBack rectangle where
  has found key present := by
    simp only [rectangle, Option.bind_eq_bind, Option.bind_eq_some_iff] at found
    obtain ⟨x, xRead, y, yRead, width, widthRead, height, heightRead, rotation, rotationRead,
      made⟩ := found
    cases made
    rw [has_fields_iff] at present
    simp only [fieldList, Entries.keys, List.map_append, List.map_cons, List.map_nil,
      List.mem_append, List.mem_cons, List.not_mem_nil, or_false] at present
    rcases present with (rfl | rfl | rfl | rfl) | optional
    · exact has_of_needed xRead
    · exact has_of_needed yRead
    · exact has_of_needed widthRead
    · exact has_of_needed heightRead
    · obtain ⟨rfl, content⟩ := mem_keys_optionalField.mp optional
      exact has_of_optional rotationRead content
  filled found filled layered := by
    simp only [rectangle, Option.bind_eq_bind, Option.bind_eq_some_iff] at found ⊢
    obtain ⟨x, xRead, y, yRead, width, widthRead, height, heightRead, rotation, rotationRead,
      made⟩ := found
    cases made
    simp only [Over, get?_fields, fieldList, Entries.get?_append, Entries.get?_cons,
      get?_optionalField, Entries.get?_nil] at layered
    refine ⟨x, needed_filled xRead settles_double ?_, y, needed_filled yRead settles_double ?_,
      width, needed_filled widthRead settles_double ?_,
      height, needed_filled heightRead settles_double ?_,
      rotation, optional_filled rotationRead settles_double double_ne_null ?_, rfl⟩
    all_goals simp [layered]

/-- Polygons are read back. -/
theorem readsBack_polygon : ReadsBack polygon where
  has found key present := by
    simp only [polygon, Option.bind_eq_bind, Option.bind_eq_some_iff] at found
    obtain ⟨points, pointsRead, closed, closedRead, made⟩ := found
    cases made
    rw [has_fields_iff] at present
    simp only [fieldList, Entries.keys, List.map_append, List.map_cons, List.map_nil,
      List.mem_append, List.mem_cons, List.not_mem_nil, or_false] at present
    rcases present with rfl | optional
    · exact has_of_needed pointsRead
    · obtain ⟨rfl, content⟩ := mem_keys_optionalField.mp optional
      exact has_of_optional closedRead content
  filled found filled layered := by
    simp only [polygon, Option.bind_eq_bind, Option.bind_eq_some_iff] at found ⊢
    obtain ⟨points, pointsRead, closed, closedRead, made⟩ := found
    cases made
    simp only [Over, get?_fields, fieldList, Entries.get?_append, Entries.get?_cons,
      get?_optionalField, Entries.get?_nil] at layered
    refine ⟨points, needed_filled pointsRead settles_point.list ?_,
      closed, optional_filled closedRead settles_bool (by simp) ?_, rfl⟩
    all_goals simp [layered]

/-- Points are read back. -/
theorem readsBack_keyPoint : ReadsBack keyPoint where
  has found key present := by
    simp only [keyPoint, Option.bind_eq_bind, Option.bind_eq_some_iff] at found
    obtain ⟨x, xRead, y, yRead, width, widthRead, made⟩ := found
    cases made
    rw [has_fields_iff] at present
    simp only [fieldList, Entries.keys, List.map_append, List.map_cons, List.map_nil,
      List.mem_append, List.mem_cons, List.not_mem_nil, or_false] at present
    rcases present with (rfl | rfl) | optional
    · exact has_of_needed xRead
    · exact has_of_needed yRead
    · obtain ⟨rfl, content⟩ := mem_keys_optionalField.mp optional
      exact has_of_optional widthRead content
  filled found filled layered := by
    simp only [keyPoint, Option.bind_eq_bind, Option.bind_eq_some_iff] at found ⊢
    obtain ⟨x, xRead, y, yRead, width, widthRead, made⟩ := found
    cases made
    simp only [Over, get?_fields, fieldList, Entries.get?_append, Entries.get?_cons,
      get?_optionalField, Entries.get?_nil] at layered
    refine ⟨x, needed_filled xRead settles_double ?_,
      y, needed_filled yRead settles_double ?_,
      width, optional_filled widthRead settles_double double_ne_null ?_, rfl⟩
    all_goals simp [layered]

/-- Ellipses are read back. -/
theorem readsBack_ellipse : ReadsBack ellipse where
  has found key present := by
    simp only [ellipse, Option.bind_eq_bind, Option.bind_eq_some_iff] at found
    obtain ⟨x, xRead, y, yRead, radiusX, radiusXRead, radiusY, radiusYRead, rotation, rotationRead,
      made⟩ := found
    cases made
    rw [has_fields_iff] at present
    simp only [fieldList, Entries.keys, List.map_append, List.map_cons, List.map_nil,
      List.mem_append, List.mem_cons, List.not_mem_nil, or_false] at present
    rcases present with (rfl | rfl | rfl | rfl) | optional
    · exact has_of_needed xRead
    · exact has_of_needed yRead
    · exact has_of_needed radiusXRead
    · exact has_of_needed radiusYRead
    · obtain ⟨rfl, content⟩ := mem_keys_optionalField.mp optional
      exact has_of_optional rotationRead content
  filled found filled layered := by
    simp only [ellipse, Option.bind_eq_bind, Option.bind_eq_some_iff] at found ⊢
    obtain ⟨x, xRead, y, yRead, radiusX, radiusXRead, radiusY, radiusYRead, rotation, rotationRead,
      made⟩ := found
    cases made
    simp only [Over, get?_fields, fieldList, Entries.get?_append, Entries.get?_cons,
      get?_optionalField, Entries.get?_nil] at layered
    refine ⟨x, needed_filled xRead settles_double ?_,
      y, needed_filled yRead settles_double ?_,
      radiusX, needed_filled radiusXRead settles_double ?_,
      radiusY, needed_filled radiusYRead settles_double ?_,
      rotation, optional_filled rotationRead settles_double double_ne_null ?_, rfl⟩
    all_goals simp [layered]

/-- Masks are read back. -/
theorem readsBack_brush : ReadsBack brush where
  has found key present := by
    simp only [brush, Option.bind_eq_bind, Option.bind_eq_some_iff] at found
    obtain ⟨format, formatRead, runs, runsRead, made⟩ := found
    cases made
    rw [has_fields_iff] at present
    simp only [fieldList, Entries.keys, List.map_cons, List.map_nil, List.mem_cons,
      List.not_mem_nil, or_false] at present
    rcases present with rfl | rfl
    · exact has_of_needed formatRead
    · exact has_of_needed runsRead
  filled found filled layered := by
    simp only [brush, Option.bind_eq_bind, Option.bind_eq_some_iff] at found ⊢
    obtain ⟨format, formatRead, runs, runsRead, made⟩ := found
    cases made
    simp only [Over, get?_fields, fieldList, Entries.get?_cons, Entries.get?_nil] at layered
    refine ⟨format, needed_filled formatRead settles_text ?_,
      runs, needed_filled runsRead (settles_countBelow _).list ?_, rfl⟩
    all_goals simp [layered]

/-- Spans of text are read back. -/
theorem readsBack_textSpan : ReadsBack textSpan where
  has found key present := by
    simp only [textSpan, Option.bind_eq_bind, Option.bind_eq_some_iff] at found
    obtain ⟨start, startRead, stop, stopRead, startOffset, startOffsetRead, endOffset,
      endOffsetRead, text, textRead, made⟩ := found
    cases made
    rw [has_fields_iff] at present
    simp only [fieldList, Entries.keys, List.map_append, List.map_cons, List.map_nil,
      List.mem_append, List.mem_cons, List.not_mem_nil, or_false] at present
    rcases present with (((rfl | rfl) | first) | second) | third
    · exact has_of_needed startRead
    · exact has_of_needed stopRead
    · obtain ⟨rfl, content⟩ := mem_keys_optionalField.mp first
      exact has_of_optional startOffsetRead content
    · obtain ⟨rfl, content⟩ := mem_keys_optionalField.mp second
      exact has_of_optional endOffsetRead content
    · obtain ⟨rfl, content⟩ := mem_keys_optionalField.mp third
      exact has_of_optional textRead content
  filled found filled layered := by
    simp only [textSpan, Option.bind_eq_bind, Option.bind_eq_some_iff] at found ⊢
    obtain ⟨start, startRead, stop, stopRead, startOffset, startOffsetRead, endOffset,
      endOffsetRead, text, textRead, made⟩ := found
    cases made
    simp only [Over, get?_fields, fieldList, Entries.get?_append, Entries.get?_cons,
      get?_optionalField, Entries.get?_nil] at layered
    refine ⟨start, needed_filled startRead settles_offset ?_,
      stop, needed_filled stopRead settles_offset ?_,
      startOffset, optional_filled startOffsetRead (settles_countBelow _) (by simp [countJson]) ?_,
      endOffset, optional_filled endOffsetRead (settles_countBelow _) (by simp [countJson]) ?_,
      text, optional_filled textRead settles_text (by simp) ?_, rfl⟩
    all_goals simp [layered]

/-- Spans of sound are read back. -/
theorem readsBack_audioSpan : ReadsBack audioSpan where
  has found key present := by
    simp only [audioSpan, Option.bind_eq_bind, Option.bind_eq_some_iff] at found
    obtain ⟨start, startRead, stop, stopRead, channel, channelRead, made⟩ := found
    cases made
    rw [has_fields_iff] at present
    simp only [fieldList, Entries.keys, List.map_append, List.map_cons, List.map_nil,
      List.mem_append, List.mem_cons, List.not_mem_nil, or_false] at present
    rcases present with (rfl | rfl) | optional
    · exact has_of_needed startRead
    · exact has_of_needed stopRead
    · obtain ⟨rfl, content⟩ := mem_keys_optionalField.mp optional
      exact has_of_optional channelRead content
  filled found filled layered := by
    simp only [audioSpan, Option.bind_eq_bind, Option.bind_eq_some_iff] at found ⊢
    obtain ⟨start, startRead, stop, stopRead, channel, channelRead, made⟩ := found
    cases made
    simp only [Over, get?_fields, fieldList, Entries.get?_append, Entries.get?_cons,
      get?_optionalField, Entries.get?_nil] at layered
    refine ⟨start, needed_filled startRead settles_double ?_,
      stop, needed_filled stopRead settles_double ?_,
      channel, optional_filled channelRead (settles_countBelow _) (by simp [countJson]) ?_, rfl⟩
    all_goals simp [layered]

/-- Spans of a series are read back. -/
theorem readsBack_timeRange : ReadsBack timeRange where
  has found key present := by
    simp only [timeRange, Option.bind_eq_bind, Option.bind_eq_some_iff] at found
    obtain ⟨start, startRead, stop, stopRead, instant, instantRead, made⟩ := found
    cases made
    rw [has_fields_iff] at present
    simp only [fieldList, Entries.keys, List.map_append, List.map_cons, List.map_nil,
      List.mem_append, List.mem_cons, List.not_mem_nil, or_false] at present
    rcases present with (rfl | rfl) | optional
    · exact has_of_needed startRead
    · exact has_of_needed stopRead
    · obtain ⟨rfl, content⟩ := mem_keys_optionalField.mp optional
      exact has_of_optional instantRead content
  filled found filled layered := by
    simp only [timeRange, Option.bind_eq_bind, Option.bind_eq_some_iff] at found ⊢
    obtain ⟨start, startRead, stop, stopRead, instant, instantRead, made⟩ := found
    cases made
    simp only [Over, get?_fields, fieldList, Entries.get?_append, Entries.get?_cons,
      get?_optionalField, Entries.get?_nil] at layered
    refine ⟨start, needed_filled startRead settles_some ?_,
      stop, needed_filled stopRead settles_some ?_,
      instant, optional_filled instantRead settles_bool (by simp) ?_, rfl⟩
    all_goals simp [layered]

/-- The names of the fields that forms are read from. -/
def geometryNames : List String :=
  ["x", "y", "width", "height", "rotation", "points", "closed", "radiusX", "radiusY", "format",
    "rle", "start", "end", "startOffset", "endOffset", "text", "channel", "instant"]

/-- A form depends on no fields but its own; on the field of a text only spans of text depend. -/
theorem geometry_congr {left right : Value} {objectType : String}
    (same : ∀ key ∈ geometryNames, (key = "text" → isTextObject objectType = true) →
      left.get? key = right.get? key) : left.geometry objectType = right.geometry objectType := by
  have field (key : String) (member : key ∈ geometryNames) (other : key ≠ "text") :
      left.get? key = right.get? key := same key member fun text => absurd text other
  have image : left.imageGeometry = right.imageGeometry := by
    simp only [imageGeometry, polygon, ellipse, brush, rectangle, keyPoint, needed, optional,
      Entries.has,
      field "points" (by decide) (by decide), field "radiusX" (by decide) (by decide),
      field "rle" (by decide) (by decide), field "width" (by decide) (by decide),
      field "height" (by decide) (by decide), field "x" (by decide) (by decide),
      field "y" (by decide) (by decide), field "radiusY" (by decide) (by decide),
      field "format" (by decide) (by decide), field "closed" (by decide) (by decide),
      field "rotation" (by decide) (by decide)]
    rfl
  have text (isText : isTextObject objectType = true) : left.textSpan = right.textSpan := by
    simp only [textSpan, needed, optional, same "text" (by decide) fun _ => isText,
      field "start" (by decide) (by decide), field "end" (by decide) (by decide),
      field "startOffset" (by decide) (by decide), field "endOffset" (by decide) (by decide)]
  have audio : left.audioSpan = right.audioSpan := by
    simp only [audioSpan, needed, optional,
      field "start" (by decide) (by decide), field "end" (by decide) (by decide),
      field "channel" (by decide) (by decide)]
  have series : left.timeRange = right.timeRange := by
    simp only [timeRange, needed, optional,
      field "start" (by decide) (by decide), field "end" (by decide) (by decide),
      field "instant" (by decide) (by decide)]
  rw [geometry, geometry, image, audio, series]
  by_cases isText : isTextObject objectType = true
  · rw [text isText]
  · simp only [Bool.not_eq_true] at isText
    simp only [isText, Bool.false_eq_true, if_false]

/-- Fields of a value put over it leave the names of its fields. -/
theorem Over.has {fields value filled : Value} (layered : Over fields value filled)
    (subset : ∀ key, fields.has key = true → value.has key = true) (key : String) :
    filled.has key = value.has key := by
  rw [Entries.has, layered key, Option.isSome_or]
  cases present : (fields.get? key).isSome with
  | true => exact (subset key present).symm
  | false => rfl

/-- The form of an image value has no fields but those of the value. -/
theorem has_of_imageGeometry {value : Value} {geometry : Geometry}
    (found : value.imageGeometry = some geometry) (key : String)
    (present : geometry.fields.has key = true) : value.has key = true := by
  rw [imageGeometry] at found
  split at found
  · exact readsBack_polygon.has found key present
  · split at found
    · exact readsBack_ellipse.has found key present
    · split at found
      · exact readsBack_brush.has found key present
      · split at found
        · exact readsBack_rectangle.has found key present
        · exact readsBack_keyPoint.has found key present

/-- The form of an image value is read back: the fields that decide which form it is stay. -/
theorem readsBack_imageGeometry : ReadsBack imageGeometry where
  has := has_of_imageGeometry
  filled {value geometry} found filled layered := by
    have same := layered.has (has_of_imageGeometry found)
    rw [imageGeometry] at found
    rw [imageGeometry, same "points", same "radiusX", same "rle", same "width", same "height"]
    split at found
    · rename_i points
      rw [if_pos points]
      exact readsBack_polygon.filled found layered
    · rename_i points
      rw [if_neg points]
      split at found
      · rename_i radius
        rw [if_pos radius]
        exact readsBack_ellipse.filled found layered
      · rename_i radius
        rw [if_neg radius]
        split at found
        · rename_i runs
          rw [if_pos runs]
          exact readsBack_brush.filled found layered
        · rename_i runs
          rw [if_neg runs]
          split at found
          · rename_i sides
            rw [if_pos sides]
            exact readsBack_rectangle.filled found layered
          · rename_i sides
            rw [if_neg sides]
            exact readsBack_keyPoint.filled found layered

/-- The type of an object decides on one form, which is read back. -/
theorem exists_form (objectType : String) : ∃ form : Value → Option Geometry,
    ReadsBack form ∧ ∀ value : Value, value.geometry objectType = (form value).getD .none := by
  by_cases image : objectType = "image"
  · exact ⟨imageGeometry, readsBack_imageGeometry, fun value => by rw [geometry, if_pos image]⟩
  · by_cases text : isTextObject objectType = true
    · exact ⟨textSpan, readsBack_textSpan, fun value => by
        rw [geometry, if_neg image, if_pos text]⟩
    · by_cases audio : ["audio", "audioplus", "video"].contains objectType = true
      · exact ⟨audioSpan, readsBack_audioSpan, fun value => by
          rw [geometry, if_neg image, if_neg text, if_pos audio]⟩
      · by_cases series : objectType = "timeseries"
        · exact ⟨timeRange, readsBack_timeRange, fun value => by
            rw [geometry, if_neg image, if_neg text, if_neg audio, if_pos series]⟩
        · refine ⟨fun _ => Option.none, ⟨?_, ?_⟩, fun value => by
            rw [geometry, if_neg image, if_neg text, if_neg audio, if_neg series]⟩
          · intro value geometry found
            contradiction
          · intro value geometry found
            contradiction

/-- A geometry has no fields but those of its value. -/
theorem has_of_has_fields {value : Value} {objectType key : String}
    (present : (value.geometry objectType).fields.has key = true) : value.has key = true := by
  obtain ⟨form, readsBack, chosen⟩ := exists_form objectType
  rw [chosen] at present
  cases found : form value with
  | none =>
    rw [found] at present
    contradiction
  | some geometry =>
    rw [found] at present
    exact readsBack.has found key present

/-- A geometry is read back from its fields put over its value. -/
theorem geometry_filled {value filled : Value} {objectType : String}
    (layered : Over (value.geometry objectType).fields value filled) :
    filled.geometry objectType = value.geometry objectType := by
  obtain ⟨form, readsBack, chosen⟩ := exists_form objectType
  cases found : form value with
  | none =>
    -- Nothing is put over the value.
    have bare : value.geometry objectType = .none := by rw [chosen, found, Option.getD_none]
    rw [bare] at layered
    exact geometry_congr fun key _ _ => layered key
  | some geometry =>
    have same : value.geometry objectType = geometry := by
      rw [chosen, found, Option.getD_some]
    rw [same] at layered
    rw [chosen, readsBack.filled found layered, same, Option.getD_some]

end Value

end Labeling
