import Labeling.Annotating.Drafts
import Labeling.Annotating.Suggestions

/-!
# Operations on an annotation

Selection, relations and history, and every public operation as a value: `perform` carries one out
and answers it. A run of operations is a fold of `perform`.
-/
namespace Labeling

namespace AnnotationState

/-- Select one area only. -/
def select (state : AnnotationState) (id : AreaId) : Except Failure AnnotationState := do
  let _ ← state.liveArea id
  return { state with selection := [id] }.selectionTold

/-- Ids with one more id, in order. -/
def insertId (id : AreaId) : List AreaId → List AreaId
  | [] => [id]
  | first :: rest =>
    if id = first then first :: rest
    else if id < first then id :: first :: rest
    else first :: insertId id rest

/-- Select an area or take it out of the selection, and tell whether it is selected now. -/
def toggle (state : AnnotationState) (id : AreaId) : Except Failure (AnnotationState × Bool) := do
  let _ ← state.liveArea id
  if state.selection.contains id then
    return ({ state with selection := state.selection.filter (· ≠ id) }.selectionTold, false)
  else
    return ({ state with selection := insertId id state.selection }.selectionTold, true)

/-- Select nothing. -/
def unselectAll (state : AnnotationState) : AnnotationState :=
  if state.selection.isEmpty then state else { state with selection := [] }.selectionTold

/-- Whether an area is selected. -/
def isSelected (state : AnnotationState) (id : AreaId) : Bool := state.selection.contains id

/-- Mark the annotation as ground truth or not. -/
def setGroundTruth (state : AnnotationState) (value : Bool) : AnnotationState :=
  { state with groundTruth := value }.fire (.groundTruth state.id value)

/-- The annotation with changed relations, recorded if there was a change. -/
def withRelations {α : Type} (state : AnnotationState) (result : Relations × α)
    (hasChanged : α → Bool) : AnnotationState × α :=
  if hasChanged result.2 then ({ state with relations := result.1 }.recorded, result.2)
  else (state, result.2)

/-- Relate two areas, and tell whether they were not yet related. -/
def relate (state : AnnotationState) (source target : AreaId) :
    Except Failure (AnnotationState × Bool) := do
  let _ ← state.liveArea source
  let _ ← state.liveArea target
  return state.withRelations (state.relations.insert { first := source, second := target })
    (· == true)

/-- Delete the relation at a place, and tell whether there was one. -/
def unrelate (state : AnnotationState) (place : Nat) : AnnotationState × Bool :=
  state.withRelations (state.relations.delete place) (· == true)

/-- Delete the relations of an area, and tell how many there were. -/
def unrelateArea (state : AnnotationState) (area : AreaId) : AnnotationState × Nat :=
  state.withRelations (state.relations.deleteArea area) (0 < ·)

/-- Turn the relation at a place, and tell its new direction. -/
def rotateRelation (state : AnnotationState) (place : Nat) :
    AnnotationState × Option Direction :=
  state.withRelations (state.relations.rotate place) (·.isSome)

/-- The labels that the control of relations declares; without one there are none. -/
def declaredLabels (tree : ElementTree) (labels : List String) : List String :=
  match tree.relationsControl? with
  | none => []
  | some control =>
    labels.filter fun label => (LabelOption.findAmong? label control.options).isSome

/-- Label the relation at a place with the declared ones of some labels, and tell whether there
was one. -/
def labelRelation (state : AnnotationState) (place : Nat) (labels : List String) :
    AnnotationState × Bool :=
  state.withRelations (state.relations.setLabels place (declaredLabels state.tree labels))
    (· == true)

/-- Put a recorded state in place of the present one. Selected areas that it lacks are no longer
selected. -/
def restore (state : AnnotationState) (snapshot : Snapshot) : AnnotationState :=
  let selection := state.selection.filter (snapshot.areas.has ·)
  let restored := { state with
    areas := snapshot.areas
    relations := snapshot.relations
    selection := selection }
  let told := if selection.length = state.selection.length then restored
    else restored.selectionTold
  told.recorded

/-- Restore a state that the history gave, and tell whether there was one. -/
def travel (state : AnnotationState) (result : History Snapshot × Option Snapshot) :
    AnnotationState × Bool :=
  match result.2 with
  | some snapshot => ({ state with history := result.1 }.restore snapshot, true)
  | none => (state, false)

/-- Undo the last step, and tell whether there was one. -/
def undo (state : AnnotationState) : AnnotationState × Bool := state.travel state.history.undo

/-- Redo the step undone last, and tell whether there was one. -/
def redo (state : AnnotationState) : AnnotationState × Bool := state.travel state.history.redo

/-- Return to the beginning of the history. -/
def reset (state : AnnotationState) : AnnotationState × Bool := state.travel state.history.reset

end AnnotationState

/-- A public operation. -/
inductive Operation where
  /-- Create an area with one result. -/
  | create (shape : Shape) (value : Value) (control object : String)
  /-- Record a value of a control for an area. -/
  | addResult (area : AreaId) (control : String) (value : Value)
  /-- Replace the value of a control at an area. -/
  | updateValue (area : AreaId) (control : String) (value : Value)
  /-- Replace the geometry of an area. -/
  | updateShape (area : AreaId) (shape : Shape)
  /-- Put an area inside another one. -/
  | setParent (area : AreaId) (parent : String)
  /-- Set whether an area may not be changed. -/
  | setReadonly (area : AreaId) (value : Bool)
  /-- Set whether an area is not shown. -/
  | setHidden (area : AreaId) (value : Bool)
  /-- Delete an area. -/
  | delete (area : AreaId)
  /-- Delete every area. -/
  | deleteAll
  /-- Remove superseded classifications. -/
  | clean
  /-- Load a payload. -/
  | load (payload : Json) (options : AnnotationState.LoadOptions)
  /-- Load items. -/
  | loadItems (items : List WireItem) (options : AnnotationState.LoadOptions)
  /-- Accept a suggestion. -/
  | accept (area : AreaId)
  /-- Reject a suggestion. -/
  | reject (area : AreaId)
  /-- Accept every suggestion. -/
  | acceptAll
  /-- Take over stored versions. -/
  | addVersions (versions : Versions)
  /-- Switch between draft and result. -/
  | toggleDraft
  /-- Hand over a draft at a time. -/
  | autosave (now : Nat)
  /-- Let the host refuse drafts or not. -/
  | refuseDrafts (value : Bool)
  /-- Select one area only. -/
  | select (area : AreaId)
  /-- Select an area or take it out of the selection. -/
  | toggle (area : AreaId)
  /-- Select nothing. -/
  | unselectAll
  /-- Mark as ground truth or not. -/
  | setGroundTruth (value : Bool)
  /-- Set whether the annotation may be edited. -/
  | setEditable (value : Bool)
  /-- Set the host's key. -/
  | setKey (key : Option String)
  /-- Relate two areas. -/
  | relate (source target : AreaId)
  /-- Delete a relation. -/
  | unrelate (place : Nat)
  /-- Turn a relation. -/
  | rotateRelation (place : Nat)
  /-- Label a relation. -/
  | labelRelation (place : Nat) (labels : List String)
  /-- Delete the relations of an area. -/
  | unrelateArea (area : AreaId)
  /-- Undo the last step. -/
  | undo
  /-- Redo the step undone last. -/
  | redo
  /-- Return to the beginning of the history. -/
  | reset
  /-- Begin the history anew. -/
  | resetHistory

/-- The answer to an operation. -/
inductive Answer where
  /-- It was carried out. -/
  | done
  /-- Whether something was the case. -/
  | flag (value : Bool)
  /-- A number. -/
  | count (value : Nat)
  /-- The id of an area. -/
  | area (id : AreaId)
  /-- An area that is gone. -/
  | removed (area : Area)
  /-- The new direction of a relation, if there is one. -/
  | direction (value : Option Direction)
  /-- How an autosave ended. -/
  | autosave (outcome : AutosaveOutcome)
  /-- Why it was not carried out. -/
  | failure (cause : Failure)

namespace AnnotationState

/-- The annotation after an operation that may fail; one that fails changes nothing. -/
def attempt {α : Type} (state : AnnotationState) (result : Except Failure (AnnotationState × α))
    (answer : α → Answer) : AnnotationState × Answer :=
  match result with
  | .ok (next, value) => (next, answer value)
  | .error failure => (state, .failure failure)

/-- The annotation after an operation that always works. -/
def answered {α : Type} (result : AnnotationState × α) (answer : α → Answer) :
    AnnotationState × Answer :=
  (result.1, answer result.2)

/-- The annotation after an operation without a value that may fail. -/
def attemptDone (state : AnnotationState) (result : Except Failure AnnotationState) :
    AnnotationState × Answer :=
  match result with
  | .ok next => (next, .done)
  | .error failure => (state, .failure failure)

/-- Carry out an operation and answer it. -/
def perform (state : AnnotationState) : Operation → AnnotationState × Answer
  | .create shape value control object =>
    state.attempt (state.create shape value control object) .area
  | .addResult area control value => state.attemptDone (state.addResult area control value)
  | .updateValue area control value => state.attemptDone (state.updateValue area control value)
  | .updateShape area shape => state.attemptDone (state.updateShape area shape)
  | .setParent area parent => state.attemptDone (state.setParent area parent)
  | .setReadonly area value => state.attemptDone (state.setReadonly area value)
  | .setHidden area value => state.attemptDone (state.setHidden area value)
  | .delete area => state.attempt (state.delete area) .removed
  | .deleteAll => (state.deleteAll, .done)
  | .clean => answered state.cleaned .count
  | .load payload options => answered (state.load payload options) .flag
  | .loadItems items options => answered (state.loadItems items options) .flag
  | .accept area => state.attempt (state.accept area) .area
  | .reject area => state.attempt (state.reject area) .removed
  | .acceptAll => answered state.acceptAll .count
  | .addVersions versions => (state.addVersions versions, .done)
  | .toggleDraft => answered state.toggleDraft .flag
  | .autosave now => answered (state.autosave now) .autosave
  | .refuseDrafts value =>
    ({ state with session := { state.session with refusesDrafts := value } }, .done)
  | .select area => state.attemptDone (state.select area)
  | .toggle area => state.attempt (state.toggle area) .flag
  | .unselectAll => (state.unselectAll, .done)
  | .setGroundTruth value => (state.setGroundTruth value, .done)
  | .setEditable value => ({ state with editable := value }, .done)
  | .setKey key => ({ state with key := key }, .done)
  | .relate source target => state.attempt (state.relate source target) .flag
  | .unrelate place => answered (state.unrelate place) .flag
  | .rotateRelation place => answered (state.rotateRelation place) .direction
  | .labelRelation place labels => answered (state.labelRelation place labels) .flag
  | .unrelateArea area => answered (state.unrelateArea area) .count
  | .undo => answered state.undo .flag
  | .redo => answered state.redo .flag
  | .reset => answered state.reset .flag
  | .resetHistory => (state.resetHistory, .done)

/-- The annotation after a run of operations. -/
def run (state : AnnotationState) (operations : List Operation) : AnnotationState :=
  operations.foldl (fun state operation => (state.perform operation).1) state

end AnnotationState
end Labeling
