import Labeling.Annotating.Areas
import Labeling.Repair

/-!
# Writing and loading payloads

An annotation is written as the results of its areas in the order of creation and then its visible
relations. Loading repairs the items, adds the results one by one, into one area for each id, and
then the relations; a result that cannot be added ends the load, and what came before it stays. A
load is one step of the history.
-/
namespace Labeling.AnnotationState

/-- Whether a result is written. A control that classifies or labels writes no empty results,
unless it allows them or the settings keep them. -/
def keepsResult (state : AnnotationState) (result : AreaResult) : Bool :=
  if state.settings.keepEmptyResults then true
  else
    match state.tree.get? result.fromName with
    | none => true
    | some control =>
      !(control.classification || control.isLabels) || control.allowEmpty
        || !result.isEmpty (Area.keyOf control result)

/-- The items of an area. -/
def areaItems (state : AnnotationState) (area : Area) : List WireItem :=
  (area.results.filter state.keepsResult).map fun result => .result (area.toWire result)

/-- The relations between areas that exist. -/
def visibleRelations (state : AnnotationState) : Relations :=
  state.relations.visible (state.areas.has ·)

/-- The items of the annotation. -/
def items (state : AnnotationState) : List WireItem :=
  state.areas.bySeq.flatMap state.areaItems
    ++ state.visibleRelations.map fun relation => .relation relation.toWire

/-- The items of the annotation as values. -/
def itemValues (state : AnnotationState) : List Json := state.items.map WireItem.toJson

/-- Where and how items are loaded. -/
structure LoadOptions where
  /-- As suggestions instead of areas. -/
  suggestions : Bool := false
  /-- With every new area hidden. -/
  hidden : Bool := false
deriving DecidableEq, Repr

/-- The value of an item without its control's payload, and that payload. -/
def splitPayload (key : String) (value : Value) : Value × Value :=
  match value.get? key with
  | none => (value, [])
  | some payload => (value.erase key, [(key, payload)])

/-- The area with one more item of its id. -/
def mergeItem (objectType : String) (item : WireResult) (geometry : Value)
    (result : AreaResult) (area : Area) : Area :=
  let shape := area.shape.fillMissing geometry objectType
  { area with
    shape := shape
    classification := area.classification && shape.isNone
    parentId := if area.parentId = "" then item.parentId.getD "" else area.parentId
    readonly := area.readonly || item.readonly.getD false
    hidden := area.hidden || item.hidden.getD false
    results := area.results ++ [result] }

/-- The area of the first item of its id. -/
def areaOfItem (control object : Element) (item : WireResult) (geometry : Value)
    (result : AreaResult) (options : LoadOptions) (id : AreaId) (seq : Nat) : Area :=
  let (geometry, promoted) := geometry.withOffsets object.type
  let shape := Shape.ofValue geometry object.type
  let shape := if promoted then shape.markPromoted else shape
  { id := id
    object := object.name
    parentId := item.parentId.getD ""
    shape := shape
    results := [result]
    classification := control.classification && shape.isNone
    readonly := item.readonly.getD false
    hidden := options.hidden || item.hidden.getD false
    fromSuggestion := options.suggestions
    seq := seq }

/-- The control of an item. -/
def itemControl (tree : ElementTree) (name : String) : Except Failure Element :=
  match (tree.get? name).filter (·.isControl) with
  | some control => .ok control
  | none => .error (.wrongElement name .control)

/-- The id of the area of an item: the one that it gives, or a made-up one. -/
def itemId (state : AnnotationState) (item : WireResult) : AnnotationState × AreaId :=
  match item.id.filter (· != "") with
  | some raw => (state, state.areaId raw)
  | none => state.madeUpId

/-- The areas with a result item added. -/
def addItem (areas : Areas) (control object : Element) (item : WireResult)
    (options : LoadOptions) (id : AreaId) (seq : Nat) : Areas :=
  let (geometry, payload) := splitPayload (control.payloadKey.getD item.resultType) item.value
  let result := AreaResult.ofWire item payload
  if areas.has id then areas.update id (mergeItem object.type item geometry result)
  else areas.put id (areaOfItem control object item geometry result options id seq)

/-- Add a result item to the areas or to the suggestions. -/
def applyResult (options : LoadOptions) (state : AnnotationState) (item : WireResult) :
    Except Failure AnnotationState := do
  let object ← objectElement state.tree item.toName
  let control ← itemControl state.tree item.fromName
  let (state, id) := state.itemId item
  let seq := state.nextSeq
  let state := { state with nextSeq := seq + 1 }
  if options.suggestions then
    return { state with
      suggestions := addItem state.suggestions control object item options id seq }
  else
    return { state with areas := addItem state.areas control object item options id seq }

/-- Add result items in order up to the first one that fails, and tell why it does. -/
def applyResults (options : LoadOptions) :
    AnnotationState → List WireResult → AnnotationState × Option Failure
  | state, [] => (state, none)
  | state, item :: rest =>
    match applyResult options state item with
    | .ok state => applyResults options state rest
    | .error failure => (state, some failure)

/-- The relations with those of some items added in order, where they may be added. -/
def addRelations (owner : String) (relations : Relations) (items : List WireRelation) :
    Relations :=
  items.foldl (fun relations item => (relations.insert (Relation.ofWire owner item)).1) relations

/-- Add the repaired form of some items; relations are added only if every result was. -/
def applyItems (options : LoadOptions) (state : AnnotationState) (items : List WireItem) :
    AnnotationState × Option Failure :=
  let items := Repair.items state.tree items
  match applyResults options state (WireItem.results items) with
  | (state, some failure) => (state, some failure)
  | (state, none) =>
    let relations := WireItem.relations items
    if options.suggestions then
      ({ state with
          suggestedRelations := addRelations state.id state.suggestedRelations relations }, none)
    else
      let state := state.synced
      ({ state with relations := addRelations state.id state.relations relations }, none)

/-- End a load: a failure becomes an issue. Tells whether there was none. -/
def finishLoad (result : AnnotationState × Option Failure) : AnnotationState × Bool :=
  match result with
  | (state, none) => (state.committed, true)
  | (state, some failure) =>
    let issue := Issue.error .general failure.message (.resultsOf state.id)
    ({ state with issues := state.issues ++ [issue] }.committed, false)

/-- Load items, and tell whether all of them could be added. -/
def loadItems (state : AnnotationState) (items : List WireItem) (options : LoadOptions) :
    AnnotationState × Bool :=
  finishLoad (applyItems options state.frozen items)

/-- Load a payload, and tell whether it could be read and all of it be added. -/
def load (state : AnnotationState) (payload : Json) (options : LoadOptions) :
    AnnotationState × Bool :=
  match Payload.items payload with
  | .ok items => loadItems state items options
  | .error fault => finishLoad (state.frozen, some (.malformedPayload fault))

end Labeling.AnnotationState
