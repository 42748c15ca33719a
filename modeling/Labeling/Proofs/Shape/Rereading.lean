import Labeling.Proofs.Shape.Promotion

/-!
# Shapes are read back from what is written for them

A shape that was read from values of items, however many, is settled: its fields give the same
shape again, and its text offsets were left out of what is written only if they are its ends. What
is written for a settled shape, read once more without a payload of some control, and then in
full, is written again (`toValue_reading_erase`, `toValue_fillMissing_reading_erase`).
-/
namespace Labeling

namespace Shape

variable {value : Value} {objectType : String} {shape : Shape}

/-! ## Leaving out a payload -/

/-- On text, a value with both ends is a span of text. -/
def IsSpanned (objectType : String) (value : Value) : Prop :=
  Value.isTextObject objectType = true → value.has "start" = true → value.has "end" = true →
    (value.geometry objectType).isTextSpan = true

/-- A key under which no form has a field but perhaps the text of a span. -/
def IsPayloadKey (key : String) : Prop := key ∉ Value.geometryNames ∨ key = "text"

/-- A value without a payload has the geometry that it has with it, except that the text of a span
may be gone. -/
theorem geometry_erase {key : String} (payload : IsPayloadKey key)
    (spanned : IsSpanned objectType value) :
    Value.geometry (value.erase key) objectType = value.geometry objectType ∨
      ∃ start stop startOffset endOffset text,
        value.geometry objectType = .textSpan start stop startOffset endOffset text ∧
        Value.geometry (value.erase key) objectType =
          .textSpan start stop startOffset endOffset none := by
  by_cases isText : key = "text" ∧ Value.isTextObject objectType = true
  · obtain ⟨same, isText⟩ := isText
    subst same
    have other (name : String) (different : name ≠ "text") :
        Entries.get? name (value.erase "text") = value.get? name :=
      Entries.get?_erase_of_ne different value
    by_cases ends : value.has "start" = true ∧ value.has "end" = true
    · obtain ⟨start, stop, startOffset, endOffset, text, same, found⟩ :=
        exists_textSpan isText (spanned isText ends.1 ends.2)
      obtain ⟨startRead, stopRead, startOffsetRead, endOffsetRead, -⟩ := textSpan_eq_some.mp found
      have textRead : Value.optional (value.erase "text") "text" Json.text? = some none := by
        rw [Value.optional, Entries.get?_erase_self]
      have reread : Value.textSpan (value.erase "text") =
          some (.textSpan start stop startOffset endOffset none) := by
        refine textSpan_eq_some.mpr ⟨?_, ?_, ?_, ?_, textRead⟩
        · rw [Value.needed, other "start" (by decide)]
          exact startRead
        · rw [Value.needed, other "end" (by decide)]
          exact stopRead
        · rw [Value.optional, other "startOffset" (by decide)]
          exact startOffsetRead
        · rw [Value.optional, other "endOffset" (by decide)]
          exact endOffsetRead
      refine Or.inr ⟨start, stop, startOffset, endOffset, text, same, ?_⟩
      rw [geometry_of_isTextObject isText, reread, Option.getD_some]
    · have sameEnds : ¬ (Entries.has "start" (value.erase "text") = true ∧
          Entries.has "end" (value.erase "text") = true) := by
        rw [Entries.has, Entries.has, other "start" (by decide), other "end" (by decide)]
        exact ends
      refine Or.inl ?_
      rw [geometry_of_not_ends isText ends, geometry_of_not_ends isText sameEnds]
  · refine Or.inl (Value.geometry_congr fun name member text => ?_)
    refine Entries.get?_erase_of_ne ?_ value
    intro same
    subst same
    rcases payload with none | textKey
    · exact none member
    · exact isText ⟨textKey, text textKey⟩

/-- A span of text stays one without a payload. -/
theorem isTextSpan_erase {key : String} (payload : IsPayloadKey key)
    (spanned : IsSpanned objectType value)
    (span : (value.geometry objectType).isTextSpan = true) :
    (Value.geometry (value.erase key) objectType).isTextSpan = true := by
  rcases geometry_erase payload spanned with same | ⟨_, _, _, _, _, -, gone⟩
  · rw [same]
    exact span
  · rw [gone]
    rfl

/-- A normal value stays normal without a payload. -/
theorem IsNormal.erase (normal : IsNormal objectType value) (sorted : Entries.Sorted value)
    {key : String} (payload : IsPayloadKey key) (spanned : IsSpanned objectType value) :
    IsNormal objectType (value.erase key) := by
  refine isNormal_of_fields (Entries.sorted_erase key sorted) fun name field found => ?_
  have present : Entries.has name (value.erase key) = true :=
    Value.has_of_has_fields (by rw [Entries.has, found]; rfl)
  have different : name ≠ key := by
    intro same
    rw [same, Entries.has, Entries.get?_erase_self] at present
    contradiction
  rw [Entries.get?_erase_of_ne different]
  apply normal.get?_fields
  rcases geometry_erase payload spanned with
    same | ⟨start, stop, startOffset, endOffset, text, whole, gone⟩
  · rw [← same]
    exact found
  · rw [gone, Geometry.get?_fields] at found
    rw [whole, Geometry.get?_fields]
    simp only [Geometry.fieldList, Entries.get?_append, Geometry.optionalField,
      List.append_nil] at found ⊢
    rw [found, Option.some_or]

/-- Offsets are no payloads. -/
theorem IsPayloadKey.not_mem_offsetNames {key : String} (payload : IsPayloadKey key) :
    key ∉ offsetNames := by
  intro member
  rcases payload with none | text
  · have names : ∀ name ∈ offsetNames, name ∈ Value.geometryNames := by decide
    exact none (names key member)
  · rw [text] at member
    exact absurd member (by decide)

/-- A value that is written back is written back without a payload. -/
theorem IsWritten.erase (written : IsWritten objectType value) (sorted : Entries.Sorted value)
    {key : String} (payload : IsPayloadKey key)
    (spanned : IsSpanned objectType (value.withOffsets objectType).1) :
    IsWritten objectType (value.erase key) := by
  have commutes := withOffsets_erase_comm sorted objectType payload.not_mem_offsetNames
  refine ⟨?_, ?_⟩
  · rw [commutes]
    exact written.normal.erase (sorted_withOffsets sorted objectType) payload spanned
  · rw [commutes]
    exact fun promoted => isTextSpan_erase payload spanned (written.span promoted)

/-! ## Settled shapes -/

/-- The ends of a span of text fit 64 bits if they are integers. -/
def HasSmallEnds (value : Value) : Prop :=
  ∀ key ∈ ["start", "end"], ∀ content, value.get? key = some (.integer content) →
    content < Text.wordLimit

/-- A shape as reading items makes it. -/
structure Settled (objectType : String) (shape : Shape) : Prop where
  /-- The fields of the shape are sorted. -/
  sorted : Entries.Sorted shape.allFields
  /-- The fields of the shape give the shape again. -/
  reads : ofValue shape.allFields objectType = { shape with offsetsPromoted := false }
  /-- On text, integers as ends fit 64 bits. -/
  smallEnds : Value.isTextObject objectType = true → HasSmallEnds shape.allFields
  /-- Offsets are promoted on text, and are the ends of a span. -/
  promoted : shape.offsetsPromoted = true →
    Value.isTextObject objectType = true ∧ IsPromotedSpan shape.geometry

/-- The end of a span is written as it was read. -/
theorem toJson_of_ofJson? {content : Json} {offset : Offset}
    (read : Offset.ofJson? content = some offset) : offset.toJson = content := by
  cases content with
  | null => contradiction
  | bool value => contradiction
  | integer value =>
    cases read
    rfl
  | float value =>
    cases read
    rfl
  | string value =>
    cases read
    rfl
  | array items => contradiction
  | object fields => contradiction

/-- On text, a shape that is read has the ends that its value has. -/
theorem get?_ends_ofValue (isText : Value.isTextObject objectType = true) {key : String}
    (member : key ∈ ["start", "end"]) :
    (ofValue value objectType).allFields.get? key = value.get? key := by
  rw [over_allFields_ofValue value objectType key, geometry_of_isTextObject isText]
  cases found : value.textSpan with
  | none => rfl
  | some geometry =>
    simp only [Value.textSpan, Option.bind_eq_bind, Option.bind_eq_some_iff] at found
    obtain ⟨start, startRead, stop, stopRead, _, _, _, _, _, _, made⟩ := found
    cases made
    obtain ⟨startField, startFound, startOffset⟩ := Option.bind_eq_some_iff.mp startRead
    obtain ⟨stopField, stopFound, stopOffset⟩ := Option.bind_eq_some_iff.mp stopRead
    simp only [List.mem_cons, List.not_mem_nil, or_false] at member
    rw [Option.getD_some, Geometry.get?_fields]
    rcases member with rfl | rfl
    · rw [startFound, ← toJson_of_ofJson? startOffset]
      rfl
    · rw [stopFound, ← toJson_of_ofJson? stopOffset]
      rfl

/-- A shape that is read from one value is settled. -/
theorem settled_ofValue (sorted : Entries.Sorted value)
    (small : Value.isTextObject objectType = true → HasSmallEnds value) :
    Settled objectType (ofValue value objectType) where
  sorted := sorted_allFields_ofValue sorted objectType
  reads := ofValue_allFields_ofValue sorted objectType
  smallEnds isText key member content found :=
    small isText key member content (get?_ends_ofValue isText member ▸ found)
  promoted promoted := nomatch promoted

/-- The shape of a first item is settled. -/
theorem settled_reading (sorted : Entries.Sorted value) (small : HasSmallEnds value)
    (objectType : String) : Settled objectType (reading value objectType) := by
  have smallEnds : HasSmallEnds (value.withOffsets objectType).1 := by
    intro key member content found
    have start : key ≠ "startOffset" := by
      intro same
      rw [same] at member
      exact absurd member (by decide)
    have stop : key ≠ "endOffset" := by
      intro same
      rw [same] at member
      exact absurd member (by decide)
    rw [get?_withOffsets value objectType start stop] at found
    exact small key member content found
  have settled : Settled objectType (ofValue (value.withOffsets objectType).1 objectType) :=
    settled_ofValue (sorted_withOffsets sorted objectType) fun _ => smallEnds
  rw [reading_eq]
  refine ⟨settled.sorted, settled.reads, settled.smallEnds, fun promoted => ?_⟩
  obtain ⟨moved, span⟩ := Bool.and_eq_true_iff.mp promoted
  rcases withOffsets_cases value objectType with same | ⟨_, _, _, _, isText, _⟩
  · rw [same] at moved
    contradiction
  · exact ⟨isText, isPromotedSpan_withOffsets moved span⟩

/-- A span of text whose offsets are its ends has these fields. -/
theorem get?_promotedSpan {first last : Int} {text : Option String} (firstNonnegative : 0 ≤ first)
    (lastNonnegative : 0 ≤ last)
    (same : shape.geometry =
      .textSpan (.integer first) (.integer last) (some first.toNat) (some last.toNat) text) :
    shape.allFields.get? "start" = some (.integer first) ∧
      shape.allFields.get? "end" = some (.integer last) ∧
      shape.allFields.get? "startOffset" = some (.integer first) ∧
      shape.allFields.get? "endOffset" = some (.integer last) := by
  have firstCount : ((first.toNat : Nat) : Int) = first := Int.toNat_of_nonneg firstNonnegative
  have lastCount : ((last.toNat : Nat) : Int) = last := Int.toNat_of_nonneg lastNonnegative
  simp only [get?_allFields, same, Geometry.get?_fields, Geometry.fieldList,
    Geometry.optionalField, Geometry.countJson, Offset.toJson, firstCount, lastCount]
  exact ⟨rfl, rfl, rfl, rfl⟩

/-- Promoted offsets stay the ends of the span as a shape takes over missing fields. -/
theorem isPromotedSpan_filled (promoted : IsPromotedSpan shape.geometry)
    (sorted : Entries.Sorted shape.allFields)
    (span : (Value.geometry (shape.allFields.leftUnion value) objectType).isTextSpan = true) :
    IsPromotedSpan (Value.geometry (shape.allFields.leftUnion value) objectType) := by
  obtain ⟨first, last, text, firstNonnegative, lastNonnegative, same⟩ := promoted
  obtain ⟨start, stop, startOffset, endOffset⟩ :=
    get?_promotedSpan firstNonnegative lastNonnegative same
  have kept {key : String} {field : Json} (found : shape.allFields.get? key = some field) :
      Entries.get? key (shape.allFields.leftUnion value) = some field := by
    have union := Entries.get?_leftUnion sorted value key
    rw [union, found, Option.some_or]
  exact isPromotedSpan_of_get? firstNonnegative lastNonnegative (kept start) (kept stop)
    (kept startOffset) (kept endOffset) (isTextObject_of_isTextSpan span) span

/-- A settled shape stays settled as it takes over missing fields. -/
theorem Settled.fillMissing (settled : Settled objectType shape) (sorted : Entries.Sorted value)
    (small : HasSmallEnds value) : Settled objectType (shape.fillMissing value objectType) := by
  rw [Shape.fillMissing]
  split
  · exact settled
  · have filledSorted : Entries.Sorted (shape.allFields.leftUnion value) :=
      Entries.sorted_leftUnion _ sorted
    have get (key : String) : Entries.get? key (shape.allFields.leftUnion value) =
        (shape.allFields.get? key).or (value.get? key) :=
      Entries.get?_leftUnion settled.sorted value key
    have filledSmall (isText : Value.isTextObject objectType = true) :
        HasSmallEnds (shape.allFields.leftUnion value) := by
      intro key member content found
      rw [get] at found
      cases present : shape.allFields.get? key with
      | none =>
        rw [present] at found
        exact small key member content found
      | some field =>
        rw [present] at found
        exact settled.smallEnds isText key member content (present.trans found)
    have filled := settled_ofValue filledSorted filledSmall
    refine ⟨filled.sorted, filled.reads, filled.smallEnds, fun promoted => ?_⟩
    obtain ⟨before, span⟩ := Bool.and_eq_true_iff.mp promoted
    obtain ⟨isText, ends⟩ := settled.promoted before
    exact ⟨isText, isPromotedSpan_filled ends settled.sorted span⟩

/-! ## Reading back what is written -/

/-- On text, a shape that is written with both ends is a span of text. -/
def IsSpan (objectType : String) (shape : Shape) : Prop :=
  Value.isTextObject objectType = true → shape.toValue.has "start" = true →
    shape.toValue.has "end" = true → shape.geometry.isTextSpan = true

/-- The geometry of a settled shape is that of its fields. -/
theorem Settled.geometry (settled : Settled objectType shape) :
    shape.allFields.geometry objectType = shape.geometry :=
  congrArg Shape.geometry settled.reads

/-- The fields of a settled shape are normal. -/
theorem Settled.normal (settled : Settled objectType shape) :
    IsNormal objectType shape.allFields := by
  rw [IsNormal, settled.reads]
  rfl

/-- What is written for a settled shape are its fields, less promoted offsets. -/
theorem Settled.toValue_eq (settled : Settled objectType shape) :
    shape.toValue =
      if shape.offsetsPromoted then (shape.allFields.erase "startOffset").erase "endOffset"
      else shape.allFields := by
  have same : shape = { ofValue shape.allFields objectType with
      offsetsPromoted := shape.offsetsPromoted } := by rw [settled.reads]
  have offsets (promoted : shape.offsetsPromoted = true) :
      HasOffsets (shape.allFields.geometry objectType) := by
    rw [settled.geometry]
    exact (settled.promoted promoted).2.hasOffsets
  rw [← toValue_of_isNormal settled.normal settled.sorted offsets, ← same]

/-- What is written for a settled shape is sorted. -/
theorem Settled.sorted_toValue (settled : Settled objectType shape) :
    Entries.Sorted shape.toValue := by
  rw [settled.toValue_eq]
  split
  · exact Entries.sorted_erase _ (Entries.sorted_erase _ settled.sorted)
  · exact settled.sorted

/-- What is written for a shape with promoted offsets has, with its offsets, all its fields. -/
theorem Settled.withOffsets_toValue (settled : Settled objectType shape)
    (promoted : shape.offsetsPromoted = true) :
    shape.toValue.withOffsets objectType = (shape.allFields, true) := by
  obtain ⟨isText, first, last, text, firstNonnegative, lastNonnegative, same⟩ :=
    settled.promoted promoted
  obtain ⟨start, stop, startOffset, endOffset⟩ :=
    get?_promotedSpan firstNonnegative lastNonnegative same
  have get (key : String) : shape.toValue.get? key =
      if key = "endOffset" then none
      else if key = "startOffset" then none else shape.allFields.get? key := by
    rw [settled.toValue_eq, if_pos promoted, Entries.get?_erase, Entries.get?_erase]
  have getStart : shape.toValue.get? "start" = some (.integer first) := by
    rw [get]
    simpa using start
  have getStop : shape.toValue.get? "end" = some (.integer last) := by
    rw [get]
    simpa using stop
  have bare : (!Value.isTextObject objectType || shape.toValue.has "startOffset"
      || shape.toValue.has "endOffset") = false := by
    rw [isText, Entries.has, Entries.has, get, get]
    rfl
  have filled : Entries.put "endOffset" (.integer last)
      (Entries.put "startOffset" (.integer first) shape.toValue) = shape.allFields := by
    refine Entries.ext_of_sorted (Entries.sorted_put _ _
      (Entries.sorted_put _ _ settled.sorted_toValue)) settled.sorted fun key => ?_
    rw [Entries.get?_put, Entries.get?_put, get]
    by_cases isEnd : key = "endOffset"
    · rw [if_pos isEnd, isEnd, endOffset]
    · by_cases isStart : key = "startOffset"
      · rw [if_neg isEnd, if_pos isStart, isStart, startOffset]
      · rw [if_neg isEnd, if_neg isStart, if_neg isEnd, if_neg isStart]
  rw [Value.withOffsets, bare, if_neg Bool.false_ne_true, getStart, getStop]
  simp only [Json.natural?, firstNonnegative, lastNonnegative, if_true, Option.isSome_some,
    Bool.and_self]
  rw [filled]

/-- A count that fits 64 bits is read. -/
theorem count_integer {content : Int} (nonnegative : 0 ≤ content)
    (small : content < Text.wordLimit) : Value.count (.integer content) = some content.toNat := by
  have below : content.toNat < Text.wordLimit := by omega
  rw [Value.count, Value.countBelow, Json.natural?, if_pos nonnegative, Option.filter_some,
    if_pos (decide_eq_true below)]

/-- A span of text has its ends as offsets once these are filled in. -/
theorem textSpan_filled {filled : Value} {first last : Int} {text : Option String}
    {startOffset endOffset : Option Nat} (firstNonnegative : 0 ≤ first)
    (lastNonnegative : 0 ≤ last) (firstSmall : first < Text.wordLimit)
    (lastSmall : last < Text.wordLimit)
    (get : ∀ key, filled.get? key =
      if key = "endOffset" then some (.integer last)
      else if key = "startOffset" then some (.integer first) else value.get? key)
    (span : value.textSpan =
      some (.textSpan (.integer first) (.integer last) startOffset endOffset text)) :
    filled.textSpan = some (.textSpan (.integer first) (.integer last) (some first.toNat)
      (some last.toNat) text) := by
  obtain ⟨start, stop, -, -, textRead⟩ := textSpan_eq_some.mp span
  refine textSpan_eq_some.mpr ⟨?_, ?_, ?_, ?_, ?_⟩
  · rw [Value.needed, get, if_neg (by decide), if_neg (by decide)]
    exact start
  · rw [Value.needed, get, if_neg (by decide), if_neg (by decide)]
    exact stop
  · rw [Value.optional, get, if_neg (by decide), if_pos rfl]
    exact congrArg (Option.map some) (count_integer firstNonnegative firstSmall)
  · rw [Value.optional, get, if_pos rfl]
    exact congrArg (Option.map some) (count_integer lastNonnegative lastSmall)
  · rw [Value.optional, get, if_neg (by decide), if_neg (by decide)]
    exact textRead

/-- A span of text without offsets is normal with its ends as offsets. -/
theorem isNormal_withOffsets (normal : IsNormal objectType value)
    (sorted : Entries.Sorted value)
    (small : Value.isTextObject objectType = true → HasSmallEnds value)
    (spanned : IsSpanned objectType value)
    (promoted : (value.withOffsets objectType).2 = true) :
    IsNormal objectType (value.withOffsets objectType).1 ∧
      ((value.withOffsets objectType).1.geometry objectType).isTextSpan = true ∧
      (value.geometry objectType).isTextSpan = true := by
  rcases withOffsets_cases value objectType with
    same | ⟨first, last, firstNonnegative, lastNonnegative, isText, noStart, noEnd, start, stop,
      made⟩
  · rw [same] at promoted
    contradiction
  · have span := spanned isText (by rw [Entries.has, start]; rfl) (by rw [Entries.has, stop]; rfl)
    obtain ⟨startOffset, stopOffset, _, _, text, geometry, found⟩ := exists_textSpan isText span
    obtain ⟨startRead, stopRead, -, -, -⟩ := textSpan_eq_some.mp found
    simp only [Value.needed, start, stop, Option.bind_some, Offset.ofJson?,
      Option.some.injEq] at startRead stopRead
    subst startRead
    subst stopRead
    have get (key : String) : (value.withOffsets objectType).1.get? key =
        if key = "endOffset" then some (.integer last)
        else if key = "startOffset" then some (.integer first) else value.get? key := by
      rw [made, Entries.get?_put, Entries.get?_put]
    have reread := textSpan_filled firstNonnegative lastNonnegative
      (small isText "start" (by decide) first start) (small isText "end" (by decide) last stop)
      get found
    have same : (value.withOffsets objectType).1.geometry objectType =
        .textSpan (.integer first) (.integer last) (some first.toNat) (some last.toNat) text := by
      rw [geometry_of_isTextObject isText, reread, Option.getD_some]
    refine ⟨isNormal_of_fields (sorted_withOffsets sorted objectType) ?_, by rw [same]; rfl, span⟩
    intro key field known
    have firstCount : ((first.toNat : Nat) : Int) = first := Int.toNat_of_nonneg firstNonnegative
    have lastCount : ((last.toNat : Nat) : Int) = last := Int.toNat_of_nonneg lastNonnegative
    rw [same, Geometry.get?_fields] at known
    simp only [Geometry.fieldList, Entries.get?_append, Entries.get?_cons,
      Geometry.get?_optionalField, Entries.get?_nil, Option.map_some, Geometry.countJson,
      Offset.toJson, firstCount, lastCount] at known
    rw [get]
    by_cases isEnd : key = "endOffset"
    · simpa [isEnd] using known
    · by_cases isStart : key = "startOffset"
      · simpa [isStart] using known
      · rw [if_neg isEnd, if_neg isStart]
        apply normal.get?_fields
        rw [geometry, Geometry.get?_fields]
        simp only [Geometry.fieldList, Entries.get?_append, Entries.get?_cons,
          Geometry.get?_optionalField, Entries.get?_nil, Offset.toJson, if_neg isEnd,
          if_neg isStart] at known ⊢
        exact known

/-- What is written for a settled shape is written back, and is a span of text just when the shape
is. -/
theorem Settled.isWritten (settled : Settled objectType shape) (spanned : IsSpan objectType shape) :
    IsWritten objectType shape.toValue ∧
      (((shape.toValue.withOffsets objectType).1.geometry objectType).isTextSpan =
        shape.geometry.isTextSpan) := by
  cases promoted : shape.offsetsPromoted with
  | true =>
    have withOffsets := settled.withOffsets_toValue promoted
    obtain ⟨-, _, _, _, -, -, same⟩ := settled.promoted promoted
    refine ⟨⟨?_, fun _ => ?_⟩, ?_⟩
    · rw [withOffsets]
      exact settled.normal
    · rw [withOffsets, settled.geometry, same]
      rfl
    · rw [withOffsets, settled.geometry]
  | false =>
    have written : shape.toValue = shape.allFields := by
      rw [settled.toValue_eq, promoted]
      rfl
    have allSpanned : IsSpanned objectType shape.allFields := by
      intro isText start stop
      rw [settled.geometry]
      rw [← written] at start stop
      exact spanned isText start stop
    rw [written]
    cases moved : (shape.allFields.withOffsets objectType).2 with
    | true =>
      obtain ⟨normal, span, before⟩ :=
        isNormal_withOffsets settled.normal settled.sorted settled.smallEnds allSpanned moved
      rw [settled.geometry] at before
      exact ⟨⟨normal, fun _ => span⟩, span.trans before.symm⟩
    | false =>
      have same : (shape.allFields.withOffsets objectType).1 = shape.allFields := by
        rcases withOffsets_cases shape.allFields objectType with
          same | ⟨_, _, _, _, _, _, _, _, _, made⟩
        · rw [same]
        · rw [made] at moved
          contradiction
      refine ⟨⟨?_, fun promoted => ?_⟩, ?_⟩
      · rw [same]
        exact settled.normal
      · rw [moved] at promoted
        contradiction
      · rw [same, settled.geometry]

/-- What is written for a settled shape is a span of text, with its offsets, if it has both ends. -/
theorem Settled.isSpanned (settled : Settled objectType shape)
    (spanned : IsSpan objectType shape) :
    IsSpanned objectType (shape.toValue.withOffsets objectType).1 := by
  intro isText start stop
  rw [(settled.isWritten spanned).2]
  rw [Entries.has, get?_withOffsets _ _ (by decide) (by decide)] at start stop
  exact spanned isText start stop

/-- What is written for a settled shape is written again, without a payload, once it is read
without it. -/
theorem Settled.toValue_reading_erase (settled : Settled objectType shape)
    (spanned : IsSpan objectType shape) {key : String} (payload : IsPayloadKey key) :
    (reading (shape.toValue.erase key) objectType).toValue = shape.toValue.erase key := by
  have written := (settled.isWritten spanned).1.erase settled.sorted_toValue payload
    (settled.isSpanned spanned)
  exact written.toValue_reading (Entries.sorted_erase key settled.sorted_toValue)

/-- What a value holds, it holds with its offsets. -/
theorem get?_or_withOffsets (value : Value) (objectType key : String) :
    ((value.withOffsets objectType).1.get? key).or (value.get? key) =
      (value.withOffsets objectType).1.get? key := by
  rcases withOffsets_cases value objectType with
    same | ⟨_, _, _, _, _, noStart, noEnd, _, _, made⟩
  · rw [same]
    exact Option.or_self
  · rw [made, Entries.get?_put, Entries.get?_put]
    split
    · rfl
    · split
      · rfl
      · exact Option.or_self

/-- What is written for a settled shape is written again once it is read without a payload and then
in full. -/
theorem Settled.toValue_fillMissing_reading_erase (settled : Settled objectType shape)
    (spanned : IsSpan objectType shape) {key : String} (payload : IsPayloadKey key) :
    ((reading (shape.toValue.erase key) objectType).fillMissing shape.toValue
      objectType).toValue = shape.toValue := by
  have sorted := settled.sorted_toValue
  have written := (settled.isWritten spanned).1
  have first := written.erase sorted payload (settled.isSpanned spanned)
  have commutes := withOffsets_erase_comm sorted objectType payload.not_mem_offsetNames
  have start : key ≠ "startOffset" := by
    intro same
    exact payload.not_mem_offsetNames (same ▸ by decide)
  have stop : key ≠ "endOffset" := by
    intro same
    exact payload.not_mem_offsetNames (same ▸ by decide)
  have present : (reading (shape.toValue.erase key) objectType).allFields =
      (shape.toValue.withOffsets objectType).1.erase key := by
    have normal := first.normal
    rw [commutes] at normal
    rw [first.reading_eq, commutes]
    exact normal
  have promoted : (reading (shape.toValue.erase key) objectType).offsetsPromoted =
      (shape.toValue.withOffsets objectType).2 := by
    rw [first.reading_eq, commutes]
  rw [Shape.fillMissing]
  split
  · rename_i complete
    -- Nothing is missing, so that nothing was left out either.
    have absent : shape.toValue.get? key = none := by
      cases found : shape.toValue.get? key with
      | none => rfl
      | some field =>
        have inside := List.all_eq_true.mp complete _ (Entries.mem_of_get? found)
        rw [present, Entries.has, Entries.get?_erase_self] at inside
        contradiction
    rw [settled.toValue_reading_erase spanned payload, Entries.erase_of_get?_eq_none absent]
  · have filled : ((shape.toValue.withOffsets objectType).1.erase key).leftUnion shape.toValue =
        (shape.toValue.withOffsets objectType).1 := by
      refine Entries.ext_of_sorted (Entries.sorted_leftUnion _ sorted)
        (sorted_withOffsets sorted objectType) fun name => ?_
      rw [Entries.get?_leftUnion (Entries.sorted_erase key (sorted_withOffsets sorted objectType)),
        Entries.get?_erase]
      split
      · rename_i same
        rw [Option.none_or, get?_withOffsets _ _ (by rw [same]; exact start)
          (by rw [same]; exact stop)]
      · exact get?_or_withOffsets shape.toValue objectType name
    have kept : ((shape.toValue.withOffsets objectType).2 &&
        (ofValue (shape.toValue.withOffsets objectType).1 objectType).geometry.isTextSpan) =
          (shape.toValue.withOffsets objectType).2 := by
      cases moved : (shape.toValue.withOffsets objectType).2 with
      | false => rfl
      | true => exact written.span moved
    dsimp only
    rw [present, filled, promoted, kept]
    exact written.toValue sorted

end Shape

end Labeling
