import Labeling.Proofs.Shape.Keeping

/-!
# Which spans of text have their offsets filled in

The values of several items make a span of text. If none of them has offsets, the span has its ends
as its offsets just when the first of the values has both ends, as counts on text; otherwise it has
no offsets, whatever the later values have (`offsets_ofItems`).
-/
namespace Labeling

namespace Value

variable {value : Value} {objectType key : String}

/-- Whether a value has the ends of a span of text, as counts. -/
def hasCounts (value : Value) : Bool :=
  ((value.get? "start").bind Json.natural?).isSome && ((value.get? "end").bind Json.natural?).isSome

/-- Whether a value has neither of the offsets of a span of text. -/
def isBare (value : Value) : Bool := !value.has "startOffset" && !value.has "endOffset"

/-- A bare value has none of the text offsets. -/
theorem get?_of_isBare (bare : value.isBare = true) (offset : key ∈ Shape.filledNames) :
    value.get? key = none := by
  obtain ⟨start, stop⟩ := Bool.and_eq_true_iff.mp bare
  simp only [Shape.filledNames, List.mem_cons, List.not_mem_nil, or_false] at offset
  rcases offset with rfl | rfl
  · exact (Entries.has_eq_false_iff _ _).mp ((Bool.not_eq_true' _).mp start)
  · exact (Entries.has_eq_false_iff _ _).mp ((Bool.not_eq_true' _).mp stop)

/-- Offsets are filled in for a bare value just if it has its ends as counts, on text. -/
theorem withOffsets_of_isBare (bare : value.isBare = true) (objectType : String) :
    (value.withOffsets objectType).2 = (isTextObject objectType && value.hasCounts) := by
  obtain ⟨start, stop⟩ := Bool.and_eq_true_iff.mp bare
  rw [withOffsets, hasCounts, (Bool.not_eq_true' _).mp start, (Bool.not_eq_true' _).mp stop,
    Bool.or_false, Bool.or_false]
  cases isTextObject objectType with
  | false => rfl
  | true =>
    rw [if_neg (by decide), Bool.true_and]
    cases value.get? "start" with
    | none => rfl
    | some first =>
      cases value.get? "end" with
      | none => exact (Bool.and_false _).symm
      | some last =>
        dsimp only [Option.bind_some]
        split
        · rename_i counts
          exact counts.symm
        · rename_i other
          exact (Bool.not_eq_true _ ▸ other).symm

/-- No field of bare values is a text offset. -/
theorem get?_union_of_isBare {values : List Value} (sorted : ∀ value ∈ values, Entries.Sorted value)
    (bare : ∀ value ∈ values, value.isBare = true) (offset : key ∈ Shape.filledNames) :
    (union values).get? key = none := by
  induction values with
  | nil => rfl
  | cons value rest hypothesis =>
    rw [get?_union_cons (sorted value List.mem_cons_self),
      get?_of_isBare (bare value List.mem_cons_self) offset, Option.none_or]
    exact hypothesis (fun other member => sorted other (List.mem_cons_of_mem _ member))
      fun other member => bare other (List.mem_cons_of_mem _ member)

/-- A count that is read as an optional field is that count. -/
theorem eq_of_optional_count {count : Int} {content : Option Nat} (nonnegative : 0 ≤ count)
    (found : value.get? key = some (.integer count))
    (read : value.optional key Value.count = some content) : content = some count.toNat := by
  rw [optional, found] at read
  obtain ⟨counted, isCount, made⟩ := Option.map_eq_some_iff.mp read
  obtain ⟨natural, -⟩ := Option.filter_eq_some_iff.mp isCount
  rw [Json.natural?, if_pos nonnegative, Option.some.injEq] at natural
  rw [← made, natural]

end Value

namespace Shape

variable {shape : Shape} {parts : List (Value × String)}

/-- A shape that was read from some value, with its offsets promoted or not. -/
def IsRead (shape : Shape) : Prop :=
  ∃ value objectType promoted, shape = { ofValue value objectType with offsetsPromoted := promoted }

/-- A shape that takes over fields was still read from some value. -/
theorem IsRead.fillMissing (read : shape.IsRead) (value : Value) (objectType : String) :
    (shape.fillMissing value objectType).IsRead := by
  rw [Shape.fillMissing]
  split
  · exact read
  · exact ⟨_, _, _, rfl⟩

/-- The shape of values of items was read from some value. -/
theorem isRead_ofItems (nonempty : parts ≠ []) : (ofItems parts).IsRead := by
  cases parts with
  | nil => contradiction
  | cons part rest =>
    have further (rest : List (Value × String)) (shape : Shape) (read : shape.IsRead) :
        (rest.foldl (fun shape part => shape.fillMissing part.1 part.2) shape).IsRead := by
      induction rest generalizing shape with
      | nil => exact read
      | cons part rest hypothesis => exact hypothesis _ (read.fillMissing part.1 part.2)
    exact further rest _ ⟨_, _, _, reading_eq part.1 part.2⟩

variable {start stop : Offset} {startOffset endOffset : Option Nat} {text : Option String}

/-- The offsets of a span of text that was read are read from its fields. -/
theorem IsRead.optional_offsets (read : shape.IsRead)
    (span : shape.geometry = .textSpan start stop startOffset endOffset text) :
    shape.allFields.optional "startOffset" Value.count = some startOffset ∧
      shape.allFields.optional "endOffset" Value.count = some endOffset := by
  obtain ⟨value, objectType, promoted, same⟩ := read
  have geometry : value.geometry objectType = .textSpan start stop startOffset endOffset text := by
    rw [same] at span
    exact span
  have isSpan : (value.geometry objectType).isTextSpan = true := by rw [geometry]; rfl
  obtain ⟨_, _, _, _, _, found, valueRead⟩ :=
    exists_textSpan (isTextObject_of_isTextSpan isSpan) isSpan
  rw [geometry] at found
  rw [← found] at valueRead
  obtain ⟨-, -, startRead, endRead, -⟩ := textSpan_eq_some.mp valueRead
  have fields {key : String} (offset : key ∈ filledNames) :
      shape.allFields.get? key = value.get? key := by
    rw [same]
    exact get?_offset_ofValue value objectType offset
  rw [Value.optional, Value.optional, fields (by decide), fields (by decide)]
  exact ⟨startRead, endRead⟩

/-- What is kept by a span of text with whole numbers as its ends has these ends, and offsets that
are read as its offsets. -/
theorem Keeps.of_textSpan {given : Value} {first last : Int} (keeps : Keeps given shape)
    (read : shape.IsRead)
    (span : shape.geometry =
      .textSpan (.integer first) (.integer last) startOffset endOffset text) :
    given.get? "start" = some (.integer first) ∧ given.get? "end" = some (.integer last) ∧
      given.optional "startOffset" Value.count = some startOffset ∧
      given.optional "endOffset" Value.count = some endOffset := by
  have startEnd : shape.allFields.get? "start" = some (.integer first) := by
    rw [get?_allFields, span, Geometry.get?_fields]
    rfl
  have stopEnd : shape.allFields.get? "end" = some (.integer last) := by
    rw [get?_allFields, span, Geometry.get?_fields]
    rfl
  obtain ⟨startRead, endRead⟩ := read.optional_offsets span
  rw [Value.optional, keeps.offsets _ (by decide)] at startRead endRead
  exact ⟨Value.eq_some_of_rel (startEnd ▸ keeps.renders "start"),
    Value.eq_some_of_rel (stopEnd ▸ keeps.renders "end"), startRead, endRead⟩

/-- Where the values of some items are bare, the offsets of the span of text that they make are its
ends if the first of them is on text and has its ends as counts, and there are none otherwise. -/
theorem offsets_ofItems {first last : Int} (sorted : ∀ part ∈ parts, Entries.Sorted part.1)
    (bare : ∀ part ∈ parts, part.1.isBare = true)
    (span : (ofItems parts).geometry =
      .textSpan (.integer first) (.integer last) startOffset endOffset text) :
    (startOffset, endOffset) =
      if parts.head?.any (fun part => Value.isTextObject part.2 && part.1.hasCounts) then
        (some first.toNat, some last.toNat)
      else (none, none) := by
  obtain ⟨given, keeps, fields⟩ := exists_keeps_ofItems sorted
  cases parts with
  | nil => contradiction
  | cons part rest =>
    obtain ⟨value, objectType⟩ := part
    obtain ⟨startKnown, endKnown, startRead, endRead⟩ :=
      keeps.of_textSpan (isRead_ofItems (List.cons_ne_nil _ rest)) span
    have valueBare : value.isBare = true := bare _ List.mem_cons_self
    have given_eq (key : String) : given.get? key =
        ((value.withOffsets objectType).1.get? key).or
          ((Value.union (rest.map Prod.fst)).get? key) := by
      rw [fields, List.map_cons, Value.get?_union_cons (sorted _ List.mem_cons_self),
        get?_withOffsets_eq_or, Option.or_assoc]
      rfl
    rw [List.head?_cons, Option.any_some, ← Value.withOffsets_of_isBare valueBare]
    rcases withOffsets_cases value objectType with
      same | ⟨start, stop, startCounts, stopCounts, -, -, -, startFound, stopFound, made⟩
    · -- No value has an offset, and none is filled in.
      have restSorted : ∀ other ∈ rest.map Prod.fst, Entries.Sorted other :=
        List.forall_mem_map.mpr fun part member => sorted part (List.mem_cons_of_mem _ member)
      have restBare : ∀ other ∈ rest.map Prod.fst, other.isBare = true :=
        List.forall_mem_map.mpr fun part member => bare part (List.mem_cons_of_mem _ member)
      have absent {key : String} (offset : key ∈ filledNames) : given.get? key = none := by
        rw [given_eq, same, Value.get?_of_isBare valueBare offset, Option.none_or,
          Value.get?_union_of_isBare restSorted restBare offset]
      rw [Value.optional, absent (by decide), Option.some.injEq] at startRead endRead
      rw [same, if_neg Bool.false_ne_true, ← startRead, ← endRead]
    · -- The ends of the first value are filled in, and they are the ends of the span.
      have field {key : String} {content : Json}
          (found : (value.withOffsets objectType).1.get? key = some content) :
          given.get? key = some content := by
        rw [given_eq, found, Option.some_or]
      have firstEnd : given.get? "start" = some (.integer start) := field (by
        rw [get?_withOffsets value objectType (by decide) (by decide), startFound])
      have lastEnd : given.get? "end" = some (.integer stop) := field (by
        rw [get?_withOffsets value objectType (by decide) (by decide), stopFound])
      have firstOffset : given.get? "startOffset" = some (.integer start) := field (by
        rw [made, Entries.get?_put, if_neg (by decide), Entries.get?_put, if_pos rfl])
      have lastOffset : given.get? "endOffset" = some (.integer stop) := field (by
        rw [made, Entries.get?_put, if_pos rfl])
      rw [startKnown, Option.some.injEq, Json.integer.injEq] at firstEnd
      rw [endKnown, Option.some.injEq, Json.integer.injEq] at lastEnd
      rw [made, if_pos rfl, firstEnd, lastEnd, Value.eq_of_optional_count startCounts firstOffset
        startRead, Value.eq_of_optional_count stopCounts lastOffset endRead]

end Shape
end Labeling
