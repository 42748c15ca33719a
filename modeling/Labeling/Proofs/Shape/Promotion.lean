import Labeling.Proofs.Shape.Normal

/-!
# Offsets that are filled in

A span of text without offsets is read with its ends as offsets, and these are left out again when
the shape is written. A value that is written back once it is read is one that is normal with its
offsets, where offsets are filled in for spans of text only (`IsWritten.toValue_reading`).
-/
namespace Labeling

namespace Shape

variable {value : Value} {objectType : String}

/-! ## Promoted offsets -/

/-- A count is an integer from zero on. -/
theorem exists_integer_of_natural? {content : Json} (count : content.natural?.isSome = true) :
    ∃ value : Int, 0 ≤ value ∧ content = .integer value := by
  cases content with
  | integer value =>
    rw [Json.natural?] at count
    split at count
    · rename_i nonnegative
      exact ⟨value, nonnegative, rfl⟩
    · contradiction
  | _ => contradiction

/-- Reading an item puts the ends of a span of text in place of its offsets if these are missing,
and leaves any other value as it is. -/
theorem withOffsets_cases (value : Value) (objectType : String) :
    value.withOffsets objectType = (value, false) ∨
      ∃ first last : Int, 0 ≤ first ∧ 0 ≤ last ∧ Value.isTextObject objectType = true ∧
        value.get? "startOffset" = none ∧ value.get? "endOffset" = none ∧
        value.get? "start" = some (.integer first) ∧ value.get? "end" = some (.integer last) ∧
        value.withOffsets objectType =
          (Entries.put "endOffset" (.integer last)
            (Entries.put "startOffset" (.integer first) value), true) := by
  rw [Value.withOffsets]
  split
  · exact Or.inl rfl
  · rename_i bare
    simp only [Bool.or_eq_true, Bool.not_eq_true', not_or, Bool.not_eq_false, Entries.has,
      Option.isSome_iff_ne_none, ne_eq, not_not] at bare
    obtain ⟨⟨isText, noStart⟩, noEnd⟩ := bare
    split
    · rename_i start stop startFound stopFound
      split
      · rename_i counts
        obtain ⟨startCount, stopCount⟩ := Bool.and_eq_true_iff.mp counts
        obtain ⟨first, firstNonnegative, sameStart⟩ := exists_integer_of_natural? startCount
        obtain ⟨last, lastNonnegative, sameStop⟩ := exists_integer_of_natural? stopCount
        subst sameStart
        subst sameStop
        exact Or.inr ⟨first, last, firstNonnegative, lastNonnegative, isText, noStart, noEnd,
          startFound, stopFound, rfl⟩
      · exact Or.inl rfl
    · exact Or.inl rfl

/-- The value with its offsets is sorted if the value is. -/
theorem sorted_withOffsets (sorted : Entries.Sorted value) (objectType : String) :
    Entries.Sorted (value.withOffsets objectType).1 := by
  rcases withOffsets_cases value objectType with same | ⟨_, _, _, _, _, _, _, _, _, promoted⟩
  · rw [same]
    exact sorted
  · rw [promoted]
    exact Entries.sorted_put _ _ (Entries.sorted_put _ _ sorted)

/-- What a value with its offsets holds apart from them. -/
theorem get?_withOffsets (value : Value) (objectType : String) {key : String}
    (start : key ≠ "startOffset") (stop : key ≠ "endOffset") :
    (value.withOffsets objectType).1.get? key = value.get? key := by
  rcases withOffsets_cases value objectType with same | ⟨_, _, _, _, _, _, _, _, _, promoted⟩
  · rw [same]
  · rw [promoted, Entries.get?_put, if_neg stop, Entries.get?_put, if_neg start]

/-- Leaving out promoted offsets gives the value back. -/
theorem withOffsets_erase (sorted : Entries.Sorted value) (objectType : String) :
    (if (value.withOffsets objectType).2 then
        ((value.withOffsets objectType).1.erase "startOffset").erase "endOffset"
      else (value.withOffsets objectType).1) = value := by
  rcases withOffsets_cases value objectType with
    same | ⟨first, last, _, _, _, noStart, noEnd, _, _, promoted⟩
  · rw [same]
    rfl
  · rw [promoted, if_pos rfl]
    refine Entries.ext_of_sorted (Entries.sorted_erase _ (Entries.sorted_erase _
      (Entries.sorted_put _ _ (Entries.sorted_put _ _ sorted)))) sorted fun key => ?_
    rw [Entries.get?_erase, Entries.get?_erase, Entries.get?_put, Entries.get?_put]
    by_cases isEnd : key = "endOffset"
    · rw [if_pos isEnd, isEnd, noEnd]
    · by_cases isStart : key = "startOffset"
      · rw [if_neg isEnd, if_pos isStart, isStart, noStart]
      · rw [if_neg isEnd, if_neg isStart, if_neg isEnd, if_neg isStart]

/-- The fields that decide on promoted offsets. -/
def offsetNames : List String := ["start", "end", "startOffset", "endOffset"]

/-- Offsets are promoted with or without any other field. -/
theorem withOffsets_erase_comm (sorted : Entries.Sorted value) (objectType : String)
    {key : String} (other : key ∉ offsetNames) :
    Value.withOffsets (value.erase key) objectType =
      ((value.withOffsets objectType).1.erase key, (value.withOffsets objectType).2) := by
  have different (name : String) (member : name ∈ offsetNames) : name ≠ key := by
    intro found
    rw [found] at member
    exact other member
  have same (name : String) (member : name ∈ offsetNames) :
      Entries.get? name (value.erase key) = value.get? name :=
    Entries.get?_erase_of_ne (different name member) value
  rw [Value.withOffsets, Value.withOffsets, Entries.has, Entries.has, Entries.has, Entries.has,
    same "startOffset" (by decide), same "endOffset" (by decide)]
  split
  · rfl
  · rw [same "start" (by decide), same "end" (by decide)]
    split
    · split
      · rw [Entries.erase_put (different "endOffset" (by decide)) _
            (Entries.sorted_put _ _ sorted),
          Entries.erase_put (different "startOffset" (by decide)) _ sorted]
      · rfl
    · rfl

/-- A span of text whose offsets are its ends. -/
def IsPromotedSpan (geometry : Geometry) : Prop :=
  ∃ (first last : Int) (text : Option String), 0 ≤ first ∧ 0 ≤ last ∧
    geometry = .textSpan (.integer first) (.integer last) (some first.toNat) (some last.toNat) text

/-- A span of text whose offsets are its ends has both of them. -/
theorem IsPromotedSpan.hasOffsets {geometry : Geometry} (promoted : IsPromotedSpan geometry) :
    HasOffsets geometry := by
  obtain ⟨first, last, text, -, -, same⟩ := promoted
  rw [same]
  constructor
  · simp [Geometry.has_fields_iff, Geometry.fieldList, Entries.keys, Geometry.optionalField]
  · simp [Geometry.has_fields_iff, Geometry.fieldList, Entries.keys, Geometry.optionalField]

/-- On text the form is a span of text. -/
theorem geometry_of_isTextObject (isText : Value.isTextObject objectType = true)
    (value : Value) : value.geometry objectType = value.textSpan.getD .none := by
  have notImage : objectType ≠ "image" := by
    intro image
    rw [image] at isText
    contradiction
  rw [Value.geometry, if_neg notImage, if_pos isText]

/-- The form of an image value is no span of text. -/
theorem isTextSpan_imageGeometry {geometry : Geometry}
    (found : value.imageGeometry = some geometry) : geometry.isTextSpan = false := by
  unfold Value.imageGeometry Value.polygon Value.ellipse Value.brush Value.rectangle
    Value.keyPoint at found
  simp only [Option.bind_eq_bind] at found
  grind [Option.bind_eq_some_iff, Geometry.isTextSpan]

/-- A span of text is one on text. -/
theorem isTextObject_of_isTextSpan (span : (value.geometry objectType).isTextSpan = true) :
    Value.isTextObject objectType = true := by
  by_contra other
  rw [Value.geometry, if_neg other] at span
  have noSpan {form : Option Geometry} (each : ∀ geometry, form = some geometry →
      geometry.isTextSpan = false) : (form.getD .none).isTextSpan = false := by
    cases found : form with
    | none => rfl
    | some geometry => exact each geometry found
  have audio (geometry : Geometry) (found : value.audioSpan = some geometry) :
      geometry.isTextSpan = false := by
    simp only [Value.audioSpan, Option.bind_eq_bind, Option.bind_eq_some_iff] at found
    obtain ⟨_, -, _, -, _, -, made⟩ := found
    cases made
    rfl
  have series (geometry : Geometry) (found : value.timeRange = some geometry) :
      geometry.isTextSpan = false := by
    simp only [Value.timeRange, Option.bind_eq_bind, Option.bind_eq_some_iff] at found
    obtain ⟨_, -, _, -, _, -, made⟩ := found
    cases made
    rfl
  refine Bool.false_ne_true (Eq.trans ?_ span)
  split
  · exact (noSpan fun _ => isTextSpan_imageGeometry).symm
  · split
    · exact (noSpan audio).symm
    · split
      · exact (noSpan series).symm
      · rfl

/-- A span of text is read from its fields. -/
theorem textSpan_eq_some {start stop : Offset} {startOffset endOffset : Option Nat}
    {text : Option String} :
    value.textSpan = some (.textSpan start stop startOffset endOffset text) ↔
      value.needed "start" Offset.ofJson? = some start ∧
      value.needed "end" Offset.ofJson? = some stop ∧
      value.optional "startOffset" Value.count = some startOffset ∧
      value.optional "endOffset" Value.count = some endOffset ∧
      value.optional "text" Json.text? = some text := by
  simp only [Value.textSpan, Option.bind_eq_bind, Option.bind_eq_some_iff, Option.some.injEq,
    Geometry.textSpan.injEq]
  constructor
  · rintro ⟨_, startRead, _, stopRead, _, first, _, last, _, textRead, rfl, rfl, rfl, rfl, rfl⟩
    exact ⟨startRead, stopRead, first, last, textRead⟩
  · rintro ⟨startRead, stopRead, first, last, textRead⟩
    exact ⟨_, startRead, _, stopRead, _, first, _, last, _, textRead, rfl, rfl, rfl, rfl, rfl⟩

/-- On text, without one of its ends there is no geometry. -/
theorem geometry_of_not_ends (isText : Value.isTextObject objectType = true)
    (ends : ¬ (value.has "start" = true ∧ value.has "end" = true)) :
    value.geometry objectType = .none := by
  rw [geometry_of_isTextObject isText]
  cases found : value.textSpan with
  | none => rfl
  | some geometry =>
    simp only [Value.textSpan, Option.bind_eq_bind, Option.bind_eq_some_iff] at found
    obtain ⟨start, startRead, stop, stopRead, -⟩ := found
    exact absurd ⟨Value.has_of_needed startRead, Value.has_of_needed stopRead⟩ ends

/-- A span of text on text comes from one of a value. -/
theorem exists_textSpan (isText : Value.isTextObject objectType = true)
    (span : (value.geometry objectType).isTextSpan = true) :
    ∃ start stop startOffset endOffset text,
      value.geometry objectType = .textSpan start stop startOffset endOffset text ∧
      value.textSpan = some (.textSpan start stop startOffset endOffset text) := by
  rw [geometry_of_isTextObject isText] at span ⊢
  cases found : value.textSpan with
  | none =>
    rw [found] at span
    contradiction
  | some geometry =>
    rw [found] at span
    cases geometry with
    | textSpan start stop startOffset endOffset text => exact ⟨_, _, _, _, _, rfl, rfl⟩
    | _ => contradiction

/-- A span of text that is read with its ends as its offsets is one whose offsets are its ends. -/
theorem isPromotedSpan_of_get? {first last : Int} (firstNonnegative : 0 ≤ first)
    (lastNonnegative : 0 ≤ last) (start : value.get? "start" = some (.integer first))
    (stop : value.get? "end" = some (.integer last))
    (startOffset : value.get? "startOffset" = some (.integer first))
    (endOffset : value.get? "endOffset" = some (.integer last))
    (isText : Value.isTextObject objectType = true)
    (span : (value.geometry objectType).isTextSpan = true) :
    IsPromotedSpan (value.geometry objectType) := by
  obtain ⟨_, _, _, _, text, same, found⟩ := exists_textSpan isText span
  obtain ⟨startRead, stopRead, startOffsetRead, endOffsetRead, -⟩ := textSpan_eq_some.mp found
  have count {value : Int} {content : Option Nat} (nonnegative : 0 ≤ value)
      (read : (Value.count (.integer value)).map some = some content) :
      content = some value.toNat := by
    obtain ⟨count, counted, made⟩ := Option.map_eq_some_iff.mp read
    obtain ⟨natural, -⟩ := Option.filter_eq_some_iff.mp counted
    rw [Json.natural?, if_pos nonnegative, Option.some.injEq] at natural
    rw [← made, natural]
  simp only [Value.needed, start, stop, Option.bind_some, Offset.ofJson?,
    Option.some.injEq] at startRead stopRead
  simp only [Value.optional, startOffset, endOffset] at startOffsetRead endOffsetRead
  refine ⟨first, last, text, firstNonnegative, lastNonnegative, ?_⟩
  rw [same, ← startRead, ← stopRead, count firstNonnegative startOffsetRead,
    count lastNonnegative endOffsetRead]

/-- Promoted offsets that are read as a span of text are its ends. -/
theorem isPromotedSpan_withOffsets (promoted : (value.withOffsets objectType).2 = true)
    (span : ((value.withOffsets objectType).1.geometry objectType).isTextSpan = true) :
    IsPromotedSpan ((value.withOffsets objectType).1.geometry objectType) := by
  rcases withOffsets_cases value objectType with
    same | ⟨first, last, firstNonnegative, lastNonnegative, isText, -, -, start, stop, made⟩
  · rw [same] at promoted
    contradiction
  · rw [made] at span ⊢
    refine isPromotedSpan_of_get? firstNonnegative lastNonnegative ?_ ?_ ?_ ?_ isText span
    · simpa [Entries.get?_put] using start
    · simpa [Entries.get?_put] using stop
    · simp [Entries.get?_put]
    · simp [Entries.get?_put]

/-- The shape of the first item of an area. -/
def reading (value : Value) (objectType : String) : Shape :=
  let (value, promoted) := value.withOffsets objectType
  let shape := ofValue value objectType
  if promoted then shape.markPromoted else shape

/-- The shape of a first item has the value with its offsets, which are left out again if they were
promoted to a span of text. -/
theorem reading_eq (value : Value) (objectType : String) :
    reading value objectType = { ofValue (value.withOffsets objectType).1 objectType with
      offsetsPromoted := (value.withOffsets objectType).2 &&
        ((value.withOffsets objectType).1.geometry objectType).isTextSpan } := by
  have bare (value : Value) : (ofValue value objectType).offsetsPromoted = false := rfl
  rw [reading]
  dsimp only
  cases (value.withOffsets objectType).2 with
  | false => rfl
  | true =>
    rw [if_pos rfl, markPromoted, Bool.true_and]
    split
    · rename_i span
      have found : ((value.withOffsets objectType).1.geometry objectType).isTextSpan = true := span
      rw [found]
    · rename_i other
      have found : ((value.withOffsets objectType).1.geometry objectType).isTextSpan = false :=
        Bool.not_eq_true _ ▸ other
      rw [found]
      rfl

/-- A value that is written back once it is read with its offsets. -/
structure IsWritten (objectType : String) (value : Value) : Prop where
  /-- The value with its offsets is normal. -/
  normal : IsNormal objectType (value.withOffsets objectType).1
  /-- Offsets are promoted to spans of text only. -/
  span : (value.withOffsets objectType).2 = true →
    ((value.withOffsets objectType).1.geometry objectType).isTextSpan = true

/-- The shape of a value with its offsets writes the value, if offsets are left out as promoted. -/
theorem IsWritten.toValue (written : IsWritten objectType value)
    (sorted : Entries.Sorted value) :
    Shape.toValue { ofValue (value.withOffsets objectType).1 objectType with
      offsetsPromoted := (value.withOffsets objectType).2 } = value := by
  have offsets (promoted : (value.withOffsets objectType).2 = true) :=
    (isPromotedSpan_withOffsets promoted (written.span promoted)).hasOffsets
  rw [toValue_of_isNormal written.normal (sorted_withOffsets sorted objectType) offsets]
  exact withOffsets_erase sorted objectType

/-- The shape of a first item leaves out its offsets just when they were promoted. -/
theorem IsWritten.reading_eq (written : IsWritten objectType value) :
    reading value objectType = { ofValue (value.withOffsets objectType).1 objectType with
      offsetsPromoted := (value.withOffsets objectType).2 } := by
  rw [Shape.reading_eq]
  cases promoted : (value.withOffsets objectType).2 with
  | false => rfl
  | true => rw [written.span promoted, Bool.true_and]

/-- A first item whose value is written back is written back. -/
theorem IsWritten.toValue_reading (written : IsWritten objectType value)
    (sorted : Entries.Sorted value) : (reading value objectType).toValue = value := by
  rw [written.reading_eq]
  exact written.toValue sorted

end Shape

end Labeling
