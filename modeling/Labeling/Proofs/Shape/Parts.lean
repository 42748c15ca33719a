import Labeling.Proofs.Shape.Rereading

/-!
# Shapes of several parts

An area is written as one item for each of its results, all with the same geometry, and each item
is read without the payload of its control. The shape that these parts make together is that of
the first part, with whatever it lacks if the parts leave out different payloads
(`ofParts_eq`). Whether it is written as before is told by `ReadsBack`; settled shapes are, where
controls record beside the geometry (`Settled.readsBack`).
-/
namespace Labeling.Shape

variable {value : Value} {objectType : String} {shape : Shape}

/-! ## Taking over fields -/

/-- A shape that has every field of a value takes over nothing. -/
theorem fillMissing_of_has
    (present : ∀ key, value.has key = true → shape.allFields.has key = true) :
    shape.fillMissing value objectType = shape := by
  have complete : value.all (fun entry => shape.allFields.has entry.1) = true := by
    rw [List.all_eq_true]
    intro entry member
    exact present entry.1 ((Entries.has_iff_mem_keys _ _).mpr (Entries.mem_keys member))
  rw [fillMissing, if_pos complete]

/-- What a shape holds and what it takes over. -/
theorem get?_leftUnion_allFields (sorted : Entries.Sorted shape.allFields) (value : Value)
    (key : String) : Entries.get? key (shape.allFields.leftUnion value) =
      (shape.allFields.get? key).or (value.get? key) :=
  Entries.get?_leftUnion sorted value key

/-- A shape that takes over the fields of a value has these and its own ones. -/
theorem has_fillMissing (sorted : Entries.Sorted shape.allFields) (key : String) :
    (shape.fillMissing value objectType).allFields.has key =
      (shape.allFields.has key || value.has key) := by
  rw [fillMissing]
  split
  · rename_i complete
    cases found : value.has key with
    | false => rw [Bool.or_false]
    | true =>
      obtain ⟨entry, member, same⟩ := List.mem_map.mp ((Entries.has_iff_mem_keys _ _).mp found)
      have inside : shape.allFields.has entry.1 = true := List.all_eq_true.mp complete entry member
      rw [Bool.or_true, ← same]
      exact inside
  · show (ofValue (shape.allFields.leftUnion value) objectType).allFields.has key = _
    rw [has_allFields_ofValue, Entries.has, get?_leftUnion_allFields sorted, Option.isSome_or]
    rfl

/-- A shape takes over the same without a field that it has. -/
theorem fillMissing_erase (sorted : Entries.Sorted shape.allFields)
    (valueSorted : Entries.Sorted value) {key : String}
    (present : value.has key = true → shape.allFields.has key = true) :
    shape.fillMissing (value.erase key) objectType = shape.fillMissing value objectType := by
  have filled : shape.allFields.leftUnion (value.erase key) = shape.allFields.leftUnion value := by
    refine Entries.ext_of_sorted (Entries.sorted_leftUnion _ (Entries.sorted_erase key valueSorted))
      (Entries.sorted_leftUnion _ valueSorted) fun name => ?_
    rw [get?_leftUnion_allFields sorted, get?_leftUnion_allFields sorted, Entries.get?_erase]
    split
    · rename_i same
      rw [same, Option.or_none]
      cases found : value.get? key with
      | none => rw [Option.or_none]
      | some field =>
        obtain ⟨own, ownFound⟩ :=
          (Entries.has_eq_true_iff _ _).mp (present ((Entries.has_eq_true_iff _ _).mpr ⟨_, found⟩))
        rw [ownFound, Option.some_or]
    · rfl
  have complete : (value.erase key).all (fun entry => shape.allFields.has entry.1) =
      value.all fun entry => shape.allFields.has entry.1 := by
    rw [Bool.eq_iff_iff, List.all_eq_true, List.all_eq_true]
    constructor
    · intro rest entry member
      by_cases same : entry.1 = key
      · rw [same]
        refine present ((Entries.has_iff_mem_keys _ _).mpr ?_)
        rw [← same]
        exact Entries.mem_keys member
      · exact rest entry (List.mem_filter.mpr ⟨member, decide_eq_true same⟩)
    · intro every entry member
      exact every entry (List.mem_filter.mp member).1
  rw [fillMissing, fillMissing, complete, filled]

/-! ## Parts -/

/-- The shape that the parts of a value make, each of them without a payload. -/
def ofParts (objectType : String) (value : Value) : List String → Shape
  | [] => {}
  | key :: keys =>
    keys.foldl (fun shape key => shape.fillMissing (value.erase key) objectType)
      (reading (value.erase key) objectType)

/-- Parts are taken in one after the other. -/
theorem ofParts_append_singleton (value : Value) {keys : List String} (nonempty : keys ≠ [])
    (key : String) :
    ofParts objectType value (keys ++ [key]) =
      (ofParts objectType value keys).fillMissing (value.erase key) objectType := by
  cases keys with
  | nil => contradiction
  | cons first rest =>
    rw [List.cons_append, ofParts, List.foldl_append]
    rfl

/-- What a value has, the shape of a first item has. -/
theorem has_allFields_reading {key : String} (found : value.has key = true) :
    (reading value objectType).allFields.has key = true := by
  rw [reading_eq]
  show (ofValue (value.withOffsets objectType).1 objectType).allFields.has key = true
  rw [has_allFields_ofValue, Entries.has, ← get?_or_withOffsets, Option.isSome_or, Bool.or_eq_true]
  exact Or.inr found

/-- The fields of the shape of a first item are sorted. -/
theorem sorted_allFields_reading (sorted : Entries.Sorted value) (objectType : String) :
    Entries.Sorted (reading value objectType).allFields := by
  rw [reading_eq]
  exact sorted_allFields_ofValue (sorted_withOffsets sorted objectType) objectType

/-- A shape with every field of a value takes over nothing from its parts. -/
theorem foldl_fillMissing_of_has
    (present : ∀ key, value.has key = true → shape.allFields.has key = true)
    (keys : List String) :
    keys.foldl (fun shape key => shape.fillMissing (value.erase key) objectType) shape = shape := by
  induction keys with
  | nil => rfl
  | cons key rest hypothesis =>
    have same : shape.fillMissing (value.erase key) objectType = shape := by
      refine fillMissing_of_has fun name found => present name ?_
      rw [Entries.has, Entries.get?_erase] at found
      split at found
      · contradiction
      · exact found
    rw [List.foldl_cons, same]
    exact hypothesis

/-- Parts without one payload make the shape of the first one; else they make up for each other. -/
theorem ofParts_eq (sorted : Entries.Sorted value) (key : String) (keys : List String) :
    ofParts objectType value (key :: keys) =
      if keys.all (· = key) then reading (value.erase key) objectType
      else (reading (value.erase key) objectType).fillMissing value objectType := by
  have partSorted := Entries.sorted_erase key sorted
  have readingSorted := sorted_allFields_reading partSorted objectType
  have hasOther {name : String} (different : name ≠ key) (found : value.has name = true) :
      (reading (value.erase key) objectType).allFields.has name = true := by
    refine has_allFields_reading ?_
    rw [Entries.has, Entries.get?_erase, if_neg different]
    exact found
  rw [ofParts]
  induction keys with
  | nil => rfl
  | cons next rest hypothesis =>
    rw [List.foldl_cons, List.all_cons]
    by_cases same : next = key
    · have nothing : (reading (value.erase key) objectType).fillMissing (value.erase next)
          objectType = reading (value.erase key) objectType := by
        rw [same]
        exact fillMissing_of_has fun name => has_allFields_reading
      rw [nothing, decide_eq_true same, Bool.true_and]
      exact hypothesis
    · have full (name : String) (found : value.has name = true) :
          ((reading (value.erase key) objectType).fillMissing value objectType).allFields.has
            name = true := by
        rw [has_fillMissing readingSorted, found, Bool.or_true]
      rw [fillMissing_erase readingSorted sorted (hasOther same), decide_eq_false same,
        Bool.false_and, if_neg Bool.false_ne_true]
      exact foldl_fillMissing_of_has full rest

/-- A value that its parts, read and written again, give back. -/
def ReadsBack (objectType : String) (value : Value) : List String → Prop
  | [] => True
  | key :: keys =>
    if keys.all (· = key) then
      (reading (value.erase key) objectType).toValue = value.erase key
    else ((reading (value.erase key) objectType).fillMissing value objectType).toValue = value

/-- A settled shape is read back from parts without payloads beside the geometry. -/
theorem Settled.readsBack (settled : Settled objectType shape) (spanned : IsSpan objectType shape)
    {keys : List String} (payload : ∀ key ∈ keys, IsPayloadKey key) :
    ReadsBack objectType shape.toValue keys := by
  cases keys with
  | nil => trivial
  | cons key rest =>
    have first := payload key List.mem_cons_self
    rw [ReadsBack]
    split
    · exact settled.toValue_reading_erase spanned first
    · exact settled.toValue_fillMissing_reading_erase spanned first

/-! ## What is read back -/

/-- What is written for a shape is sorted if its further fields are. -/
theorem sorted_toValue (sorted : Entries.Sorted shape.extra) : Entries.Sorted shape.toValue :=
  Entries.sorted_leftUnion _ sorted

/-- The further fields of the shape of a first item are sorted. -/
theorem sorted_extra_reading (sorted : Entries.Sorted value) (objectType : String) :
    Entries.Sorted (reading value objectType).extra := by
  rw [reading_eq]
  exact List.Pairwise.filter _ (sorted_withOffsets sorted objectType)

/-- The further fields stay sorted as a shape takes over those of a sorted value. -/
theorem sorted_extra_fillMissing (extraSorted : Entries.Sorted shape.extra)
    (sorted : Entries.Sorted value) (objectType : String) :
    Entries.Sorted (shape.fillMissing value objectType).extra := by
  rw [fillMissing]
  split
  · exact extraSorted
  · exact List.Pairwise.filter _ (Entries.sorted_leftUnion _ sorted)

/-- What is written for the shape of some parts is sorted. -/
theorem sorted_toValue_ofParts (sorted : Entries.Sorted value) (keys : List String) :
    Entries.Sorted (ofParts objectType value keys).toValue := by
  cases keys with
  | nil => exact List.Pairwise.nil
  | cons key rest =>
    have first := sorted_extra_reading (Entries.sorted_erase key sorted) objectType
    rw [ofParts_eq sorted]
    split
    · exact sorted_toValue first
    · exact sorted_toValue (sorted_extra_fillMissing first sorted objectType)

/-- A first item whose offsets were promoted to a span of text writes no field that it lacks. -/
theorem get?_toValue_reading_of_span {key : String} (absent : value.get? key = none)
    (promoted : (value.withOffsets objectType).2 = true)
    (span : ((value.withOffsets objectType).1.geometry objectType).isTextSpan = true) :
    (reading value objectType).toValue.get? key = none := by
  obtain ⟨startKnown, endKnown⟩ := (isPromotedSpan_withOffsets promoted span).hasOffsets
  have written : (reading value objectType).toValue =
      ((((value.withOffsets objectType).1.geometry objectType).fields.erase
        "startOffset").erase "endOffset").leftUnion
          (ofValue (value.withOffsets objectType).1 objectType).extra := by
    rw [reading_eq, promoted, span]
    rfl
  rw [written, Entries.get?_leftUnion
    (Entries.sorted_erase _ (Entries.sorted_erase _ (sorted_fields _))), Entries.get?_erase,
    Entries.get?_erase, get?_extra_ofValue]
  by_cases isEnd : key = "endOffset"
  · rw [if_pos isEnd, isEnd, if_pos endKnown]
    rfl
  · by_cases isStart : key = "startOffset"
    · rw [if_neg isEnd, if_pos isStart, isStart, if_pos startKnown]
      rfl
    · have none : (value.withOffsets objectType).1.get? key = none := by
        rw [get?_withOffsets value objectType isStart isEnd]
        exact absent
      have unknown : ((value.withOffsets objectType).1.geometry objectType).fields.has key =
          false := by
        rw [Bool.eq_false_iff]
        intro known
        have present := Value.has_of_has_fields known
        rw [Entries.has, none] at present
        contradiction
      rw [if_neg isEnd, if_neg isStart, unknown, if_neg Bool.false_ne_true, none,
        (Entries.has_eq_false_iff _ _).mp unknown]
      rfl

/-- A first item whose offsets were filled in, but not for a span of text, writes both of them. -/
theorem has_toValue_reading_of_no_span {name : String}
    (promoted : (value.withOffsets objectType).2 = true)
    (noSpan : ((value.withOffsets objectType).1.geometry objectType).isTextSpan = false)
    (present : (value.withOffsets objectType).1.has name = true) :
    (reading value objectType).toValue.has name = true := by
  have written : (reading value objectType).toValue =
      (ofValue (value.withOffsets objectType).1 objectType).allFields := by
    rw [reading_eq, promoted, noSpan]
    rfl
  rw [written, has_allFields_ofValue]
  exact present

/-- A first item without a field that writes its other fields back does not write that field. -/
theorem get?_toValue_reading {key : String} (absent : value.get? key = none)
    (same : (reading value objectType).toValue.erase key = value) :
    (reading value objectType).toValue.get? key = none := by
  rcases withOffsets_cases value objectType with
    kept | ⟨first, last, _, _, isText, noStart, noEnd, _, _, made⟩
  · have written : (reading value objectType).toValue =
        (ofValue value objectType).allFields := by
      rw [reading_eq, kept]
      rfl
    rw [written, ← Entries.has_eq_false_iff, has_allFields_ofValue, Entries.has_eq_false_iff]
    exact absent
  · have promoted : (value.withOffsets objectType).2 = true := by rw [made]
    cases span : ((value.withOffsets objectType).1.geometry objectType).isTextSpan with
    | true => exact get?_toValue_reading_of_span absent promoted span
    | false =>
      -- Both offsets are written, the value has none, and only one of them can be the field.
      have offset (name : String) (different : name ≠ key)
          (present : (value.withOffsets objectType).1.has name = true)
          (none : value.get? name = none) : False := by
        have found := has_toValue_reading_of_no_span promoted span present
        rw [Entries.has, ← Entries.get?_erase_of_ne different, same, none] at found
        contradiction
      by_cases isStart : key = "startOffset"
      · refine (offset "endOffset" (by rw [isStart]; decide) ?_ noEnd).elim
        rw [made, Entries.has, Entries.get?_put, if_pos rfl]
        rfl
      · refine (offset "startOffset" (Ne.symm isStart) ?_ noStart).elim
        rw [made, Entries.has, Entries.get?_put, if_neg (by decide), Entries.get?_put, if_pos rfl]
        rfl

/-- Parts that write a value back, each apart from its payload, give it back. -/
theorem readsBack_of_erase_eq (sorted : Entries.Sorted value) {keys : List String}
    (same : ∀ key ∈ keys,
      (ofParts objectType value keys).toValue.erase key = value.erase key) :
    ReadsBack objectType value keys := by
  cases keys with
  | nil => trivial
  | cons key rest =>
    have first := same key List.mem_cons_self
    rw [ReadsBack]
    rw [ofParts_eq sorted] at same first
    split
    · rename_i one
      rw [if_pos one] at first
      have absent := get?_toValue_reading (Entries.get?_erase_self key value) first
      rw [Entries.erase_of_get?_eq_none absent] at first
      exact first
    · rename_i several
      rw [if_neg several] at first same
      have exists_other : ∃ other ∈ rest, other ≠ key := by
        simp only [List.all_eq_true, decide_eq_true_eq, not_forall] at several
        obtain ⟨other, member, different⟩ := several
        exact ⟨other, member, different⟩
      obtain ⟨other, member, different⟩ := exists_other
      have second := same other (List.mem_cons_of_mem _ member)
      have written : Entries.Sorted (ofParts objectType value (key :: rest)).toValue :=
        sorted_toValue_ofParts sorted (key :: rest)
      rw [ofParts_eq sorted, if_neg several] at written
      refine Entries.ext_of_sorted written sorted fun name => ?_
      by_cases isKey : name = key
      · rw [isKey, ← Entries.get?_erase_of_ne (Ne.symm different), second,
          Entries.get?_erase_of_ne (Ne.symm different)]
      · rw [← Entries.get?_erase_of_ne isKey, first, Entries.get?_erase_of_ne isKey]

/-- A value that its parts give back is written by them apart from each payload, and no payload
that it lacks is written. -/
theorem ReadsBack.erase_eq {keys : List String} (readsBack : ReadsBack objectType value keys)
    (sorted : Entries.Sorted value) {key : String} (member : key ∈ keys) :
    (ofParts objectType value keys).toValue.erase key = value.erase key ∧
      (value.get? key = none → (ofParts objectType value keys).toValue.get? key = none) := by
  cases keys with
  | nil => contradiction
  | cons first rest =>
    rw [ReadsBack] at readsBack
    rw [ofParts_eq sorted]
    split at readsBack
    · rename_i one
      have same : key = first := by
        rcases List.mem_cons.mp member with head | later
        · exact head
        · exact of_decide_eq_true (List.all_eq_true.mp one key later)
      rw [if_pos one, readsBack, same, Entries.get?_erase_self,
        Entries.erase_of_get?_eq_none (Entries.get?_erase_self first value)]
      exact ⟨rfl, fun _ => rfl⟩
    · rename_i several
      rw [if_neg several, readsBack]
      exact ⟨rfl, fun absent => absent⟩

end Labeling.Shape
