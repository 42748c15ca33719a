import Labeling.Annotating.Event
import Labeling.Area
import Labeling.History
import Labeling.Relation
import Labeling.Settings

/-!
# The state of an annotation

One pass of labeling over a task: its areas and relations with their undo history, the suggestions
that wait for a decision, the values of the controls, the selection, the drafts, and the problems
met while loading. Every public operation that changes the areas or the relations ends with
`recorded` or, for a batch, with `committed`.
-/
namespace Labeling

/-- Which list an annotation belongs to. -/
inductive AnnotationKind where
  /-- Made by a person. -/
  | manual
  /-- Made by a model. -/
  | prediction
  /-- A former version. -/
  | history
deriving DecidableEq, Repr

namespace AnnotationKind

/-- The name of the kind. -/
def name : AnnotationKind → String
  | .manual => "annotation"
  | .prediction => "prediction"
  | .history => "history"

/-- The name of the kind, beginning with a capital. -/
def title : AnnotationKind → String
  | .manual => "Annotation"
  | .prediction => "Prediction"
  | .history => "History"

end AnnotationKind

/-- What undo and redo restore. -/
structure Snapshot where
  /-- The areas. -/
  areas : Areas := []
  /-- The relations. -/
  relations : Relations := []
deriving BEq

/-- The stored forms of an annotation. -/
structure Versions where
  /-- The submitted result. -/
  result : Option (List Json) := none
  /-- The last draft. -/
  draft : Option (List Json) := none
deriving BEq

/-- One pass of labeling over a task. -/
structure AnnotationState where
  /-- The id. -/
  id : String
  /-- The key under which the host stores it. -/
  key : Option String := none
  /-- The list to which it belongs. -/
  kind : AnnotationKind
  /-- The configuration. -/
  tree : ElementTree
  /-- The settings. -/
  settings : Settings
  /-- What it shares with the other annotations of the session. -/
  session : Session := {}
  /-- The areas. -/
  areas : Areas := []
  /-- The suggested areas that wait for a decision. -/
  suggestions : Areas := []
  /-- The relations. -/
  relations : Relations := []
  /-- The suggested relations that wait for their areas. -/
  suggestedRelations : Relations := []
  /-- The states to undo to and to redo to. -/
  history : History Snapshot := {}
  /-- The stored forms. -/
  versions : Versions := {}
  /-- The values of the controls that classify the task. -/
  controlValues : Entries String Json := []
  /-- The selected areas, in the order of their ids. -/
  selection : List AreaId := []
  /-- Whether it may be edited. -/
  editable : Bool := false
  /-- Whether it is marked as ground truth. -/
  groundTruth : Bool := false
  /-- Whether the areas show the draft. -/
  draftSelected : Bool := false
  /-- The problems met while loading. -/
  issues : Report := []
  /-- The place in the order of creation of the next area. -/
  nextSeq : Nat := 0
  /-- How often something was recorded. -/
  revision : Nat := 0
  /-- The revision of the last saved draft. -/
  savedRevision : Nat := 0
  /-- When a draft was last handed over, in milliseconds. -/
  lastAttempt : Option Nat := none

namespace AnnotationState

/-- The empty annotation of a configuration. -/
def start (id : String) (kind : AnnotationKind) (tree : ElementTree) (settings : Settings)
    (session : Session) : AnnotationState where
  id := id
  kind := kind
  tree := tree
  settings := settings
  session := session
  history := History.attach { limit := settings.historyLimit } {}
  editable := kind = .manual

/-- What undo and redo restore, as it is now. -/
def snapshot (state : AnnotationState) : Snapshot := ⟨state.areas, state.relations⟩

/-- The value that a result gives its control, under the control's key. -/
def controlValue? (tree : ElementTree) (result : AreaResult) : Option (String × Json) := do
  let control ← tree.get? result.fromName
  let value ← result.payload? (Area.keyOf control result)
  some (result.fromName, value)

/-- The values of the controls that classify the task: of several values of a control the last one
in the order of the areas' ids and of their results. -/
def controlValuesOf (tree : ElementTree) (areas : Areas) : Entries String Json :=
  Entries.ofList (areas.classifications.flatMap fun area =>
    area.results.filterMap (controlValue? tree))

/-- The annotation with the values of its controls up to date. -/
def synced (state : AnnotationState) : AnnotationState :=
  { state with controlValues := controlValuesOf state.tree state.areas }

/-- The annotation after a change, with its history unchanged. -/
def touched (state : AnnotationState) : AnnotationState :=
  { state.synced with revision := state.revision + 1 }

/-- The annotation after a change, which is recorded as one step. -/
def recorded (state : AnnotationState) : AnnotationState :=
  let state := state.touched
  { state with history := (state.history.record state.snapshot).1 }

/-- The annotation during a batch of changes. -/
def frozen (state : AnnotationState) : AnnotationState :=
  { state with history := state.history.freeze }

/-- The annotation after a batch of changes, which is recorded as one step. -/
def committed (state : AnnotationState) : AnnotationState :=
  let state := state.touched
  { state with history := (state.history.unfreeze state.snapshot).1 }

/-- The annotation after a notification. -/
def fire (state : AnnotationState) (event : Event) : AnnotationState :=
  { state with session := state.session.fire event }

/-- The annotation after telling its selection. -/
def selectionTold (state : AnnotationState) : AnnotationState :=
  state.fire (.selectionChanged state.selection)

/-- The id of an area of this annotation. -/
def areaId (state : AnnotationState) (raw : String) : AreaId := ⟨raw, state.id⟩

/-- The annotation after making up the id of an area. -/
def madeUpId (state : AnnotationState) : AnnotationState × AreaId :=
  let (session, raw) := state.session.makeUp
  ({ state with session := session }, state.areaId raw)

/-- The element of a name that makes results. -/
def resultControl (tree : ElementTree) (name : String) : Except Failure Element :=
  match tree.get? name with
  | none => .error (.unknownElement name)
  | some element =>
    if element.makesResults then .ok element else .error (.wrongElement name .resultControl)

/-- The object of a name. -/
def objectElement (tree : ElementTree) (name : String) : Except Failure Element :=
  match tree.get? name with
  | none => .error (.unknownElement name)
  | some element =>
    if element.isObject then .ok element else .error (.wrongElement name .object)

/-- The area of an id. -/
def liveArea (state : AnnotationState) (id : AreaId) : Except Failure Area :=
  match state.areas.get? id with
  | some area => .ok area
  | none => .error (.unknownArea id.full)

/-- Whether the history shows the present state. -/
def isRecorded (state : AnnotationState) : Bool :=
  state.history.current? == some state.snapshot

/-- The annotation in short, for a log. -/
def summary (state : AnnotationState) : String :=
  let key := match state.key with
    | some key => "Some(" ++ Text.inQuotes key ++ ")"
    | none => "None"
  "Annotation \x7b id: AnnotationId(" ++ state.id ++ "), pk: " ++ key ++ ", kind: "
    ++ state.kind.title ++ ", areas: " ++ Text.decimal state.areas.length ++ ", suggestions: "
    ++ Text.decimal state.suggestions.length ++ ", relations: "
    ++ Text.decimal state.relations.length ++ " \x7d"

end AnnotationState
end Labeling
