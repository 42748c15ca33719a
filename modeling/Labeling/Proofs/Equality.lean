import Labeling.Annotating.State

/-!
# Equality of states

Histories compare states by the equality of their values, in which the two zeros among the doubles
are equal and what is no number differs from itself. It is symmetric and transitive. A state equals
itself just when all of its doubles are numbers (`Snapshot.beq_self`), as those of documents are.
-/
namespace Labeling

/-! ## Doubles -/

/-- A double equals itself just when it is a number. -/
theorem Double.beq_self (value : Double) : (value == value) = value.isNumber := by
  show Double.sameValue value value = _
  simp [Double.sameValue, Double.isNumber]

/-- An equality is symmetric and transitive if it is symmetric and equal values may stand for each
other on its left. -/
theorem partialEquivBEq_of_congr {α : Type} [BEq α]
    (symm : ∀ left right : α, (left == right) = true → (right == left) = true)
    (congr : ∀ left right other : α, (left == right) = true →
      (left == other) = (right == other)) : PartialEquivBEq α where
  symm {left right} := symm left right
  trans {left right other} first second := by
    rw [congr left right other first]
    exact second

/-- An equality that every value has with itself is an equivalence if equal values may stand for
each other on its left. -/
theorem equivBEq_of_congr {α : Type} [BEq α] [ReflBEq α]
    (congr : ∀ left right other : α, (left == right) = true →
      (left == other) = (right == other)) : EquivBEq α where
  symm {left right} same := by
    rw [← congr left right left same]
    exact beq_self_eq_true left
  trans {left right other} first second := by
    rw [congr left right other first]
    exact second

/-- Doubles are equal if they are one number, or both zero. -/
theorem Double.beq_iff {left right : Double} : (left == right) = true ↔
    left.code ≤ codeLimit ∧ left.code = right.code ∧
      (left.negative = right.negative ∨ left.code = 0) := by
  show Double.sameValue left right = true ↔ _
  simp [Double.sameValue, and_assoc]

instance : PartialEquivBEq Double where
  symm {left right} same := by
    obtain ⟨number, code, sign⟩ := Double.beq_iff.mp same
    rw [code] at number sign
    exact Double.beq_iff.mpr ⟨number, code.symm, sign.imp_left Eq.symm⟩
  trans {left right other} first second := by
    obtain ⟨number, code, sign⟩ := Double.beq_iff.mp first
    obtain ⟨-, nextCode, nextSign⟩ := Double.beq_iff.mp second
    refine Double.beq_iff.mpr ⟨number, code.trans nextCode, ?_⟩
    rcases sign with same | zero
    · rw [same, code]
      exact nextSign
    · exact Or.inr zero

/-- A finite double is a number. -/
theorem FiniteDouble.isNumber_toDouble (value : FiniteDouble) : value.toDouble.isNumber = true := by
  rw [Double.isNumber, decide_eq_true_eq]
  exact Nat.le_of_lt value.finite

/-- Every finite double equals itself. -/
theorem FiniteDouble.beq_self (value : FiniteDouble) : (value == value) = true := by
  show (value.toDouble == value.toDouble) = true
  rw [Double.beq_self, value.isNumber_toDouble]

instance : ReflBEq FiniteDouble := ⟨FiniteDouble.beq_self _⟩

instance : EquivBEq FiniteDouble where
  symm {left right} same := by
    change (left.toDouble == right.toDouble) = true at same
    show (right.toDouble == left.toDouble) = true
    exact BEq.symm same
  trans {left right other} first second := by
    change (left.toDouble == right.toDouble) = true at first
    change (right.toDouble == other.toDouble) = true at second
    show (left.toDouble == other.toDouble) = true
    exact BEq.trans first second

/-! ## Values -/

namespace Json

mutual

/-- Every value equals itself. -/
theorem same_self (value : Json) : same value value = true := by
  match value with
  | .null => rfl
  | .bool value => simp [same]
  | .integer value => simp [same]
  | .float value => simp [same]
  | .string value => simp [same]
  | .array items => simpa [same] using sameItems_self items
  | .object fields => simpa [same] using sameFields_self fields

/-- Every list of values equals itself. -/
theorem sameItems_self (items : List Json) : sameItems items items = true := by
  match items with
  | [] => rfl
  | item :: items => simp [sameItems, same_self item, sameItems_self items]

/-- Every list of fields equals itself. -/
theorem sameFields_self (fields : List (String × Json)) : sameFields fields fields = true := by
  match fields with
  | [] => rfl
  | (_, value) :: fields => simp [sameFields, same_self value, sameFields_self fields]

end

instance : ReflBEq Json := ⟨same_self _⟩

end Json

deriving instance ReflBEq for Offset

section Containers

variable {α β : Type} [BEq α] [BEq β]

/-- An optional value equals itself if what it holds does. -/
theorem option_beq_self (value : Option α) :
    (value == value) = value.all fun content => content == content := by
  cases value with
  | none => rfl
  | some content => rfl

/-- A list equals itself if its items do. -/
theorem list_beq_self (values : List α) :
    (values == values) = values.all fun value => value == value := by
  induction values with
  | nil => rfl
  | cons value rest hypothesis => rw [List.cons_beq_cons, List.all_cons, hypothesis]

/-- A pair equals itself if its parts do. -/
theorem pair_beq_self (pair : α × β) :
    (pair == pair) = (pair.1 == pair.1 && pair.2 == pair.2) := rfl

variable [PartialEquivBEq α] [PartialEquivBEq β]

instance partialEquivBEqOption : PartialEquivBEq (Option α) :=
  partialEquivBEq_of_congr
    (fun left right same => by
      cases left with
      | none =>
        cases right with
        | none => rfl
        | some value => contradiction
      | some value =>
        cases right with
        | none => contradiction
        | some replaced => exact BEq.symm (a := value) same)
    (fun left right other same => by
      cases left with
      | none =>
        cases right with
        | none => rfl
        | some value => contradiction
      | some value =>
        cases right with
        | none => contradiction
        | some replaced =>
          cases other with
          | none => rfl
          | some compared =>
            show (value == compared) = (replaced == compared)
            exact BEq.congr_left same)

instance partialEquivBEqProd : PartialEquivBEq (α × β) where
  symm {left right} same := by
    change (left.1 == right.1 && left.2 == right.2) = true at same
    show (right.1 == left.1 && right.2 == left.2) = true
    rw [Bool.and_eq_true] at same ⊢
    exact ⟨BEq.symm same.1, BEq.symm same.2⟩
  trans {left right other} first second := by
    change (left.1 == right.1 && left.2 == right.2) = true at first
    change (right.1 == other.1 && right.2 == other.2) = true at second
    show (left.1 == other.1 && left.2 == other.2) = true
    rw [Bool.and_eq_true] at first second ⊢
    exact ⟨BEq.trans first.1 second.1, BEq.trans first.2 second.2⟩

/-- Lists of equal items are equal the other way round. -/
theorem list_beq_symm {left right : List α} (same : (left == right) = true) :
    (right == left) = true := by
  induction left generalizing right with
  | nil =>
    rw [List.nil_beq_eq, List.isEmpty_iff] at same
    rw [same]
    rfl
  | cons value rest hypothesis =>
    cases right with
    | nil => contradiction
    | cons replaced others =>
      rw [List.cons_beq_cons, Bool.and_eq_true] at same ⊢
      exact ⟨BEq.symm same.1, hypothesis same.2⟩

/-- Lists of equal items may stand for each other. -/
theorem list_beq_congr {left right : List α} (same : (left == right) = true) (other : List α) :
    (left == other) = (right == other) := by
  induction left generalizing right other with
  | nil =>
    rw [List.nil_beq_eq, List.isEmpty_iff] at same
    rw [same]
  | cons value rest hypothesis =>
    cases right with
    | nil => contradiction
    | cons replaced others =>
      cases other with
      | nil => rfl
      | cons compared remaining =>
        rw [List.cons_beq_cons, Bool.and_eq_true] at same
        rw [List.cons_beq_cons, List.cons_beq_cons, BEq.congr_left same.1,
          hypothesis same.2 remaining]

instance partialEquivBEqList : PartialEquivBEq (List α) :=
  partialEquivBEq_of_congr (fun _ _ => list_beq_symm) fun _ _ other same =>
    list_beq_congr same other

end Containers

namespace Json

mutual

/-- Equal values may stand for each other. -/
theorem same_congr (left right other : Json) (equal : same left right = true) :
    same left other = same right other := by
  match left, right with
  | .null, .null => rfl
  | .bool value, .bool replaced =>
    rw [same, beq_iff_eq] at equal
    rw [equal]
  | .integer value, .integer replaced =>
    rw [same, beq_iff_eq] at equal
    rw [equal]
  | .float value, .float replaced =>
    cases other with
    | float compared =>
      rw [same] at equal
      rw [same, same, BEq.congr_left equal]
    | _ => simp [same]
  | .string value, .string replaced =>
    rw [same, beq_iff_eq] at equal
    rw [equal]
  | .array items, .array replaced =>
    cases other with
    | array compared =>
      rw [same] at equal
      rw [same, same, sameItems_congr items replaced compared equal]
    | _ => simp [same]
  | .object items, .object replaced =>
    cases other with
    | object compared =>
      rw [same] at equal
      rw [same, same, sameFields_congr items replaced compared equal]
    | _ => simp [same]

/-- Equal lists of values may stand for each other. -/
theorem sameItems_congr (left right other : List Json) (equal : sameItems left right = true) :
    sameItems left other = sameItems right other := by
  match left, right, other with
  | [], [], _ => rfl
  | _ :: _, _ :: _, [] => rfl
  | value :: lefts, replaced :: rights, compared :: others =>
    rw [sameItems, Bool.and_eq_true] at equal
    rw [sameItems, sameItems, same_congr value replaced compared equal.1,
      sameItems_congr lefts rights others equal.2]

/-- Equal lists of fields may stand for each other. -/
theorem sameFields_congr (left right other : List (String × Json))
    (equal : sameFields left right = true) :
    sameFields left other = sameFields right other := by
  match left, right, other with
  | [], [], _ => rfl
  | _ :: _, _ :: _, [] => rfl
  | (_, value) :: lefts, (_, replaced) :: rights, (_, compared) :: others =>
    rw [sameFields, Bool.and_eq_true, Bool.and_eq_true, beq_iff_eq] at equal
    rw [sameFields, sameFields, equal.1.1, same_congr value replaced compared equal.1.2,
      sameFields_congr lefts rights others equal.2]

end

instance : EquivBEq Json := equivBEq_of_congr same_congr

end Json

/-- Equal fields may stand for each other if the fields behind them may. -/
theorem fields_congr {α : Type} [BEq α] [PartialEquivBEq α] {left right other : α}
    {same leftRest rightRest : Bool} (equal : (left == right && same) = true)
    (rest : same = true → leftRest = rightRest) :
    (left == other && leftRest) = (right == other && rightRest) := by
  rw [Bool.and_eq_true] at equal
  rw [BEq.congr_left equal.1, rest equal.2]

/-- Equal fields are equal the other way round if the fields behind them are. -/
theorem fields_symm {α : Type} [BEq α] [PartialEquivBEq α] {left right : α}
    {same turned : Bool} (equal : (left == right && same) = true)
    (rest : same = true → turned = true) : (right == left && turned) = true := by
  rw [Bool.and_eq_true] at equal ⊢
  exact ⟨BEq.symm equal.1, rest equal.2⟩

instance : EquivBEq Offset := equivBEq_of_congr fun left right other same => by
  cases left <;> cases right <;> try contradiction
  all_goals cases other <;> try rfl
  · rename_i value replaced compared
    show (value == compared) = (replaced == compared)
    exact BEq.congr_left same
  · rename_i value replaced compared
    show (value == compared) = (replaced == compared)
    exact BEq.congr_left same
  · rename_i value replaced compared
    show (value == compared) = (replaced == compared)
    exact BEq.congr_left same

instance : PartialEquivBEq Geometry := partialEquivBEq_of_congr
  (fun left right same => by
    -- Two forms are equal only if they are the same one; their measures are compared in order.
    cases left <;> cases right <;> try contradiction
    all_goals try rfl
    all_goals repeat first | exact BEq.symm same | refine fields_symm same fun same => ?_)
  (fun left right other same => by
    cases left <;> cases right <;> try contradiction
    all_goals cases other <;> try rfl
    all_goals repeat first | exact BEq.congr_left same | refine fields_congr same fun same => ?_)

instance : PartialEquivBEq Shape := partialEquivBEq_of_congr
  (fun left right same => by
    cases left; cases right
    repeat first | exact BEq.symm same | refine fields_symm same fun same => ?_)
  (fun left right other same => by
    cases left; cases right; cases other
    repeat first | exact BEq.congr_left same | refine fields_congr same fun same => ?_)

instance : PartialEquivBEq AreaResult := partialEquivBEq_of_congr
  (fun left right same => by
    cases left; cases right
    repeat first | exact BEq.symm same | refine fields_symm same fun same => ?_)
  (fun left right other same => by
    cases left; cases right; cases other
    repeat first | exact BEq.congr_left same | refine fields_congr same fun same => ?_)

instance : PartialEquivBEq Area := partialEquivBEq_of_congr
  (fun left right same => by
    cases left; cases right
    repeat first | exact BEq.symm same | refine fields_symm same fun same => ?_)
  (fun left right other same => by
    cases left; cases right; cases other
    repeat first | exact BEq.congr_left same | refine fields_congr same fun same => ?_)

instance : PartialEquivBEq Snapshot := partialEquivBEq_of_congr
  (fun left right same => by
    cases left; cases right
    repeat first | exact BEq.symm same | refine fields_symm same fun same => ?_)
  (fun left right other same => by
    cases left; cases right; cases other
    repeat first | exact BEq.congr_left same | refine fields_congr same fun same => ?_)

/-! ## Values that equal themselves -/

/-- The doubles of a form. -/
def Geometry.doubles : Geometry → List Double
  | .rectangle x y width height rotation => [x, y, width, height] ++ rotation.toList
  | .polygon points _ => points.flatMap fun point => [point.1, point.2]
  | .keyPoint x y width => [x, y] ++ width.toList
  | .ellipse x y radiusX radiusY rotation => [x, y, radiusX, radiusY] ++ rotation.toList
  | .audioSpan start stop _ => [start, stop]
  | .brush .. => []
  | .textSpan .. => []
  | .timeRange .. => []
  | .none => []

/-- Whether all doubles of a form are numbers. -/
def Geometry.isNumeric (geometry : Geometry) : Bool := geometry.doubles.all Double.isNumber

/-- Whether all doubles of an area, measures and scores, are numbers. -/
def Area.isNumeric (area : Area) : Bool :=
  area.shape.geometry.isNumeric && area.results.all fun result => result.score.all Double.isNumber

/-- Whether all doubles of a state are numbers. -/
def Snapshot.isNumeric (snapshot : Snapshot) : Bool :=
  snapshot.areas.all fun entry => entry.2.isNumeric

/-- A form equals itself just when all its doubles are numbers. -/
theorem Geometry.beq_self (geometry : Geometry) : (geometry == geometry) = geometry.isNumeric := by
  have optional (value : Option Double) :
      (value == value) = value.toList.all Double.isNumber := by
    cases value with
    | none => rfl
    | some content => simp [Double.beq_self]
  rw [isNumeric]
  cases geometry with
  | rectangle x y width height rotation =>
    show (x == x && (y == y && (width == width && (height == height && rotation == rotation)))) = _
    simp [doubles, Double.beq_self, optional]
  | polygon points closed =>
    show (points == points && closed == closed) = _
    simp [doubles, list_beq_self, pair_beq_self, Double.beq_self, List.all_flatMap]
  | keyPoint x y width =>
    show (x == x && (y == y && width == width)) = _
    simp [doubles, Double.beq_self, optional]
  | ellipse x y radiusX radiusY rotation =>
    show (x == x && (y == y && (radiusX == radiusX && (radiusY == radiusY
      && rotation == rotation)))) = _
    simp [doubles, Double.beq_self, optional]
  | brush format runs =>
    show (format == format && runs == runs) = _
    simp [doubles]
  | textSpan start stop startOffset endOffset text =>
    show (start == start && (stop == stop && (startOffset == startOffset
      && (endOffset == endOffset && text == text)))) = _
    simp [doubles]
  | audioSpan start stop channel =>
    show (start == start && (stop == stop && channel == channel)) = _
    simp [doubles, Double.beq_self]
  | timeRange start stop instant =>
    show (start == start && (stop == stop && instant == instant)) = _
    simp [doubles]
  | none => rfl

/-- A result equals itself just when its score, if it has one, is a number. -/
theorem AreaResult.beq_self (result : AreaResult) :
    (result == result) = result.score.all Double.isNumber := by
  obtain ⟨fromName, toName, resultType, value, origin, score, readonly, metadata, extra⟩ := result
  show (fromName == fromName && (toName == toName && (resultType == resultType && (value == value
    && (origin == origin && (score == score && (readonly == readonly && (metadata == metadata
    && extra == extra)))))))) = _
  simp [option_beq_self score, Double.beq_self]

/-- An area equals itself just when all its doubles are numbers. -/
theorem Area.beq_self (area : Area) : (area == area) = area.isNumeric := by
  obtain ⟨id, object, parentId, ⟨geometry, further, promoted⟩, results, classification, readonly,
    hidden, fromSuggestion, seq⟩ := area
  show (id == id && (object == object && (parentId == parentId && ((geometry == geometry
    && (further == further && promoted == promoted)) && (results == results
    && (classification == classification && (readonly == readonly && (hidden == hidden
    && (fromSuggestion == fromSuggestion && seq == seq))))))))) = _
  simp [isNumeric, Geometry.beq_self, list_beq_self results, AreaResult.beq_self]

/-- A state equals itself just when all its doubles are numbers. -/
theorem Snapshot.beq_self (snapshot : Snapshot) :
    (snapshot == snapshot) = snapshot.isNumeric := by
  obtain ⟨areas, relations⟩ := snapshot
  show (areas == areas && relations == relations) = _
  simp [isNumeric, list_beq_self areas, pair_beq_self, Area.beq_self]

/-! ## States that are alike -/

/-- Two values are the same one, or equal as histories compare them. -/
def Alike {α : Type} [BEq α] (left right : α) : Prop := left = right ∨ (left == right) = true

namespace Alike

variable {α : Type} [BEq α] {left right other : α}

/-- A value that equals itself equals every value like it. -/
theorem beq (alike : Alike left right) (self : (right == right) = true) :
    (left == right) = true := by
  rcases alike with same | equal
  · rw [same]
    exact self
  · exact equal

/-- A value is not like one that equals itself and not the value. -/
theorem not_of_beq (differs : (left == right) = false) (self : (right == right) = true) :
    ¬ Alike left right :=
  fun alike => Bool.false_ne_true (differs.symm.trans (alike.beq self))

variable [PartialEquivBEq α]

/-- Values are alike either way round. -/
theorem symm (alike : Alike left right) : Alike right left := alike.imp Eq.symm BEq.symm

/-- What is like a value is like every value like it. -/
theorem trans (first : Alike left right) (second : Alike right other) : Alike left other := by
  rcases first with same | equal
  · rw [same]
    exact second
  · rcases second with same | next
    · rw [← same]
      exact Or.inr equal
    · exact Or.inr (BEq.trans equal next)

end Alike

end Labeling
