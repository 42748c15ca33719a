import Labeling.AreaId
import Labeling.AreaResult
import Labeling.Binding

/-!
# Areas

An area is a region of an object, or a classification of the whole task, with the results that
controls recorded for it. It may name another area as the one around it.
-/
namespace Labeling

/-- A region of an object, or a classification of the whole task. -/
structure Area where
  /-- The id. -/
  id : AreaId
  /-- The name of the object. -/
  object : String
  /-- The id of the area around, as it was given; empty if there is none. -/
  parentId : String := ""
  /-- The geometry. -/
  shape : Shape
  /-- The results, in the order in which they came. -/
  results : List AreaResult
  /-- Whether the area classifies the whole task. -/
  classification : Bool := false
  /-- Whether it may not be changed. -/
  readonly : Bool := false
  /-- Whether it is not shown. -/
  hidden : Bool := false
  /-- Whether it began as a suggestion. -/
  fromSuggestion : Bool := false
  /-- The place in the order of creation. -/
  seq : Nat
deriving BEq, Inhabited

/-- Areas by their ids. -/
abbrev Areas := Entries AreaId Area

namespace Area

/-- The result of a control. -/
def resultFor? (area : Area) (control : String) : Option AreaResult :=
  area.results.find? (·.fromName == control)

/-- The first score among the results. -/
def score? (area : Area) : Option Double := area.results.findSome? (·.score)

/-- The control that created the area. -/
def control? (area : Area) : Option String := area.results.head?.map (·.fromName)

/-- The key under which a control records: its payload key, or else the type of the result. -/
def keyOf (control : Element) (result : AreaResult) : String :=
  control.payloadKey.getD result.resultType

/-- The labels of a result with the control that recorded them. -/
def labelsOf (tree : ElementTree) (result : AreaResult) : List (String × String) :=
  match tree.get? result.fromName with
  | none => []
  | some control =>
    if control.isLabels then
      (result.strings (keyOf control result)).map fun label => (result.fromName, label)
    else []

/-- The labels of the area with the controls that recorded them. -/
def selectedLabels (tree : ElementTree) (area : Area) : List (String × String) :=
  area.results.flatMap (labelsOf tree)

/-- Whether a result is written as unchangeable: a mark of the whole area counts, and a mark that
the area has lost is taken back. -/
def readonlyMark (area : Bool) (result : Option Bool) : Option Bool :=
  if area then some true
  else if result = some true then some false
  else result

/-- The item of a result of the area. -/
def toWire (area : Area) (result : AreaResult) : WireResult where
  id := some area.id.raw
  fromName := result.fromName
  toName := result.toName
  resultType := result.resultType
  value := Entries.leftUnion result.value area.shape.toValue
  origin := result.origin
  readonly := readonlyMark area.readonly result.readonly
  parentId := if area.parentId = "" then none else some area.parentId
  score := result.score
  metadata := result.metadata
  hidden := if area.hidden then some true else none
  extra := result.extra

end Area

namespace Areas

/-- The areas in the order of creation. -/
def bySeq (areas : Areas) : List Area :=
  areas.values.mergeSort fun left right => left.seq ≤ right.seq

/-- The areas that classify the whole task. -/
def classifications (areas : Areas) : List Area := areas.values.filter (·.classification)

end Areas
end Labeling
