import Labeling.Annotating.State

/-!
# Creating, changing and deleting areas

The operations of a person on the areas of an annotation. One that fails changes nothing. A control
that classifies the whole task has one area at most: creating one removes the others.
-/
namespace Labeling.AnnotationState

/-- Of the areas in order, the one with the greatest place in the order of creation. -/
def newestOf (areas : List Area) : Option Area :=
  areas.foldl (fun best area =>
    match best with
    | none => some area
    | some newest => if newest.seq < area.seq then some area else some newest) none

/-- The newest classification that a control created. -/
def newestOfControl (areas : Areas) (control : String) : Option Area :=
  newestOf (areas.classifications.filter (·.control? == some control))

/-- Whether the area classifies the task and its control has created a newer such area. -/
def isSuperseded (areas : Areas) (area : Area) : Bool :=
  area.classification &&
    match area.control? with
    | none => false
    | some control =>
      match newestOfControl areas control with
      | some newest => newest.id ≠ area.id
      | none => false

/-- Remove the classifications that newer ones of their control supersede, and tell how many there
were. -/
def cleaned (state : AnnotationState) : AnnotationState × Nat :=
  let stale := state.areas.values.filter (isSuperseded state.areas)
  if stale.isEmpty then (state, 0)
  else
    let ids := stale.map (·.id)
    let kept := state.areas.filter fun entry => !ids.contains entry.1
    let state := { state with
      areas := kept
      selection := state.selection.filter (!ids.contains ·) }
    (state.synced, stale.length)

/-- Create an area with one result of a control on an object. -/
def create (state : AnnotationState) (shape : Shape) (value : Value) (control object : String) :
    Except Failure (AnnotationState × AreaId) := do
  let controlElement ← resultControl state.tree control
  let objectElement ← objectElement state.tree object
  if !controlElement.targets objectElement.name then
    throw (.wrongElement control .boundToObject)
  let (state, id) := state.madeUpId
  let area : Area :=
    { id := id
      object := objectElement.name
      shape := shape
      results := [{ fromName := control
                    toName := object
                    resultType := controlElement.resultType.getD ""
                    value := value }]
      classification := controlElement.classification && shape.isNone
      seq := state.nextSeq }
  let state := { state with areas := state.areas.put id area, nextSeq := state.nextSeq + 1 }
  let state :=
    if area.classification then state
    else
      let state := state.fire (.created id)
      if state.settings.selectAfterCreate then
        { state with selection := [id] }.selectionTold
      else state
  return (state.cleaned.1.recorded, id)

/-- The annotation with one area changed. -/
def changeArea (state : AnnotationState) (id : AreaId) (change : Area → Area) :
    AnnotationState :=
  { state with areas := state.areas.update id change }

/-- The first result that satisfies the test, changed. -/
def changeFirst (test : AreaResult → Bool) (change : AreaResult → AreaResult) :
    List AreaResult → List AreaResult
  | [] => []
  | result :: results =>
    if test result then change result :: results else result :: changeFirst test change results

/-- The area with another value of the first result of a control. -/
def setValue (control : String) (value : Value) (area : Area) : Area :=
  let change (result : AreaResult) : AreaResult := { result with value := value }
  { area with results := changeFirst (·.fromName == control) change area.results }

/-- Record a value of a control for an area; a value that the control already has there is
replaced. -/
def addResult (state : AnnotationState) (id : AreaId) (control : String) (value : Value) :
    Except Failure AnnotationState := do
  let controlElement ← resultControl state.tree control
  let area ← state.liveArea id
  if !controlElement.targets area.object then throw (.wrongElement control .boundToArea)
  let change (area : Area) : Area :=
    if (area.resultFor? control).isSome then setValue control value area
    else
      let result : AreaResult :=
        { fromName := control
          toName := area.object
          resultType := controlElement.resultType.getD ""
          value := value }
      { area with results := area.results ++ [result] }
  return (state.changeArea id change).recorded

/-- Replace the value of a control at an area. -/
def updateValue (state : AnnotationState) (id : AreaId) (control : String) (value : Value) :
    Except Failure AnnotationState := do
  let area ← state.liveArea id
  if (area.resultFor? control).isNone then throw (.unknownElement control)
  return (state.changeArea id (setValue control value)).recorded

/-- Change an area in some way that always works. -/
def changeLive (state : AnnotationState) (id : AreaId) (change : Area → Area) :
    Except Failure AnnotationState := do
  let _ ← state.liveArea id
  return (state.changeArea id change).recorded

/-- Replace the geometry of an area. -/
def updateShape (state : AnnotationState) (id : AreaId) (shape : Shape) :
    Except Failure AnnotationState :=
  state.changeLive id ({ · with shape := shape })

/-- Put an area inside another one, named by its raw id; an empty id takes it out. -/
def setParent (state : AnnotationState) (id : AreaId) (parent : String) :
    Except Failure AnnotationState :=
  state.changeLive id ({ · with parentId := parent })

/-- Set whether an area may not be changed. -/
def setReadonly (state : AnnotationState) (id : AreaId) (value : Bool) :
    Except Failure AnnotationState :=
  state.changeLive id ({ · with readonly := value })

/-- Set whether an area is not shown. -/
def setHidden (state : AnnotationState) (id : AreaId) (value : Bool) :
    Except Failure AnnotationState :=
  state.changeLive id ({ · with hidden := value })

/-- Delete an area. Its relations stay and no longer count. -/
def delete (state : AnnotationState) (id : AreaId) : Except Failure (AnnotationState × Area) := do
  let area ← state.liveArea id
  let selected := state.selection.contains id
  let state := { state with
    areas := state.areas.erase id
    selection := state.selection.filter (· ≠ id) }
  let state := if selected then state.selectionTold else state
  return ((state.fire (.deleted id)).recorded, area)

/-- The annotation without areas and relations. -/
def cleared (state : AnnotationState) : AnnotationState :=
  let empty := { state with areas := [], relations := [] }
  if state.selection.isEmpty then empty else { empty with selection := [] }.selectionTold

/-- Delete every area. -/
def deleteAll (state : AnnotationState) : AnnotationState :=
  let ids := state.areas.keys
  (ids.foldl (fun state id => state.fire (.deleted id)) state.cleared).recorded

end Labeling.AnnotationState
