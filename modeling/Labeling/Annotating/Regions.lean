import Labeling.Annotating.State

/-!
# Views of the regions

The areas of an annotation as a host shows them: in a chosen order, as a forest of areas inside
areas, and in groups by label. A view never changes anything.
-/
namespace Labeling

/-- What areas are ordered by. -/
inductive RegionSort where
  /-- The order of creation. -/
  | date
  /-- The first score of an area; a missing one counts as minus infinity. -/
  | score
deriving DecidableEq, Repr

/-- An area of a forest with the areas inside it. -/
inductive Region where
  /-- A region of its parts. -/
  | mk (area : Area) (children : List Region)

/-- The area of a region. -/
def Region.area : Region → Area
  | .mk area _ => area

/-- The regions inside a region. -/
def Region.children : Region → List Region
  | .mk _ children => children

/-- The areas with one label; without a label, those with no label at all. -/
structure LabelGroup where
  /-- The label. -/
  label : Option String
  /-- The areas, in display order. -/
  regions : List Area

/-- Groups that are being made. -/
structure Grouping where
  /-- The groups with a label. -/
  groups : List LabelGroup := []
  /-- The place of the group of each label. -/
  index : Entries String Nat := []
  /-- The areas without a label. -/
  unlabeled : List Area := []

namespace Grouping

/-- The place of the group of a label; the first time that it is asked for, the group is made. -/
def slot (grouping : Grouping) (label : String) : Grouping × Nat :=
  match grouping.index.get? label with
  | some place => (grouping, place)
  | none =>
    let place := grouping.groups.length
    ({ grouping with
        groups := grouping.groups ++ [⟨some label, []⟩]
        index := grouping.index.put label place }, place)

/-- The empty groups of some labels, one for each of them. -/
def declared (labels : List String) : Grouping :=
  labels.foldl (fun grouping label => (grouping.slot label).1) {}

/-- The groups with one more area under a label. -/
def addUnder (grouping : Grouping) (area : Area) (label : String) : Grouping :=
  let (grouping, place) := grouping.slot label
  { grouping with
    groups := grouping.groups.modify place fun group =>
      { group with regions := group.regions ++ [area] } }

/-- The groups with one more area under each of its labels. -/
def add (grouping : Grouping) (area : Area) (labels : List String) : Grouping :=
  if labels.isEmpty then { grouping with unlabeled := grouping.unlabeled ++ [area] }
  else labels.foldl (fun grouping label => grouping.addUnder area label) grouping

end Grouping

/-- Areas and the order in which they are shown. -/
structure RegionView where
  /-- The areas. -/
  areas : Areas
  /-- The configuration. -/
  tree : ElementTree
  /-- What they are ordered by. -/
  sort : RegionSort := .date
  /-- Whether the order is turned round. -/
  descending : Bool := false

namespace RegionView

/-- Whether a score stands before another or beside it; a missing one counts as minus infinity. -/
def scoreAtMost (left right : Option Double) : Bool :=
  (left.getD .minusInfinity).atMost (right.getD .minusInfinity)

/-- The areas in display order. Areas of equal scores stay in the order of creation. -/
def sorted (view : RegionView) : List Area :=
  let areas := view.areas.bySeq
  match view.sort with
  | .date => if view.descending then areas.reverse else areas
  | .score =>
    if view.descending then
      areas.mergeSort fun left right => scoreAtMost right.score? left.score?
    else areas.mergeSort fun left right => scoreAtMost left.score? right.score?

/-- The areas that are shown. -/
def visible (view : RegionView) : List Area := view.sorted.filter (!·.hidden)

/-- The areas of an object. -/
def ofObject (view : RegionView) (object : String) : List Area :=
  view.sorted.filter (·.object == object)

/-- The area that an area names as the one around it: by a full id, or else by a raw id of the same
annotation. -/
def parentOf? (areas : Areas) (area : Area) : Option AreaId :=
  if area.parentId = "" then none
  else
    match (AreaId.parse? area.parentId).filter areas.has with
    | some id => some id
    | none =>
      let id := area.id.sibling area.parentId
      if areas.has id then some id else none

/-- The area around an area, other than itself. -/
def properParent? (areas : Areas) (area : Area) : Option AreaId :=
  (parentOf? areas area).filter (· ≠ area.id)

/-- The areas directly inside an area, in display order. -/
def childrenOf (view : RegionView) (id : AreaId) : List Area :=
  view.sorted.filter fun area => properParent? view.areas area = some id

/-- The regions of some areas that have not been placed, each with the areas inside it; and the
areas placed then. -/
def grow (view : RegionView) : Nat → List AreaId → List Area → List Region × List AreaId
  | 0, placed, _ => ([], placed)
  | _ + 1, placed, [] => ([], placed)
  | fuel + 1, placed, area :: rest =>
    if placed.contains area.id then grow view fuel placed rest
    else
      let (children, placed) := grow view fuel (area.id :: placed) (view.childrenOf area.id)
      let (others, placed) := grow view fuel placed rest
      (.mk area children :: others, placed)

/-- The forest of areas: the areas that are inside no other one, and then, for areas that are
inside one another in a circle, the first of them. Every area is placed once. -/
def forest (view : RegionView) : List Region :=
  let areas := view.sorted
  let roots := areas.filter fun area => (properParent? view.areas area).isNone
  let count := areas.length + 1
  (view.grow (count * (count + 2)) [] (roots ++ areas)).1

/-- The labels of an area, each once, in alphabetical order. -/
def labelsOf (view : RegionView) (area : Area) : List String :=
  Entries.keys (Entries.ofList ((area.selectedLabels view.tree).map fun entry => (entry.2, ())))

/-- The labels that the labels controls declare, in the order of the configuration. -/
def declaredLabels (tree : ElementTree) : List String :=
  (tree.controls.filter (·.isLabels)).flatMap fun control => control.options.map (·.value)

/-- The areas by label: declared labels in the order of the configuration, other labels in the
order in which they appear, and then the areas without a label. No group is empty. -/
def labelGroups (view : RegionView) : List LabelGroup :=
  let grouping := view.sorted.foldl (fun grouping area => grouping.add area (view.labelsOf area))
    (Grouping.declared (declaredLabels view.tree))
  let groups := grouping.groups.filter fun group => !group.regions.isEmpty
  if grouping.unlabeled.isEmpty then groups else groups ++ [⟨none, grouping.unlabeled⟩]

end RegionView

/-- The view of the areas of an annotation. -/
def AnnotationState.regions (state : AnnotationState) : RegionView :=
  ⟨state.areas, state.tree, .date, false⟩

end Labeling
