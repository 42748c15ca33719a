import Labeling.AreaResult
import Labeling.Binding

/-!
# Repair of stored items

Stored items may not fit the configuration of today. A legacy type gets its present name, a
normalised text moves into the further data, a labels result whose control is gone or has nothing
to show goes to another control of the same object, and a result whose names stand for nothing is
dropped. Relations stay as they are.
-/
namespace Labeling.Repair

/-- The former name of the type `hypertextlabels`. -/
def legacyType : String := "htmllabels"

/-- The present name of the former type. -/
def hypertextType : String := "hypertextlabels"

/-- The type of the controls that label any region. -/
def genericType : String := "labels"

/-- The item with the former type renamed, in its type and among the fields of its value. A field
of the present name wins. -/
def renameLegacy (item : WireResult) : WireResult :=
  let resultType := if item.resultType = legacyType then hypertextType else item.resultType
  match item.value.get? legacyType with
  | none => { item with resultType := resultType }
  | some labels =>
    let rest := item.value.erase legacyType
    let value := if rest.has hypertextType then rest else rest.put hypertextType labels
    { item with resultType := resultType, value := value }

/-- The item with its normalised text as the text of its further data. -/
def moveNormalization (item : WireResult) : WireResult :=
  match item.extra.get? "normalization" with
  | none => item
  | some normalization =>
    let item := { item with extra := item.extra.erase "normalization" }
    let move (text : Json) : WireResult :=
      let present := match item.metadata with
        | some (.object fields) => fields
        | _ => []
      { item with metadata := some (.object (Entries.put "text" text present)) }
    match normalization with
    | .null => item
    | .array entries => move (.array entries)
    | other => move (.array [other])

/-- The item with another type and its labels under the key of that type. -/
def retype (item : WireResult) (newType : String) : WireResult :=
  if item.resultType = newType then item
  else
    match item.value.get? item.resultType with
    | none => { item with resultType := newType }
    | some labels =>
      { item with
        value := (item.value.erase item.resultType).put newType labels
        resultType := newType }

/-- The control of an item, if it is a labels control bound to the item's object. -/
def labelsControl? (tree : ElementTree) (item : WireResult) : Option Element :=
  (tree.get? item.fromName).filter fun control =>
    control.isLabels && control.targets item.toName

/-- The labels item at a control: its own one, or else the first of its type on the object, or
else the first one that labels any region. -/
def atControl (tree : ElementTree) (item : WireResult) : WireResult :=
  match labelsControl? tree item with
  | some control => retype item (control.resultType.getD item.resultType)
  | none =>
    let fallback := tree.findControl? item.toName item.resultType
      <|> tree.findControl? item.toName genericType
    match fallback with
    | none => item
    | some control =>
      retype { item with fromName := control.name } (control.resultType.getD genericType)

/-- The item as bare geometry, at the first control of the geometry that its type labels. -/
def demote? (tree : ElementTree) (labelsType : String) (item : WireResult) : Option WireResult := do
  let geometry ← geometryType labelsType
  let control ← tree.findControl? item.toName geometry
  some { item with fromName := control.name, resultType := geometry }

/-- The labels item, usable or as bare geometry. -/
def fixLabels? (tree : ElementTree) (item : WireResult) : Option WireResult :=
  let moved := atControl tree item
  let keeps := match labelsControl? tree moved with
    | some control =>
      !isEmptyPayload (moved.value.get? moved.resultType) || control.allowEmpty
    | none => false
  if keeps then some moved
  else
    demote? tree item.resultType { moved with value := moved.value.erase moved.resultType }

/-- The repaired result item, if it can be kept. -/
def result? (tree : ElementTree) (item : WireResult) : Option WireResult := do
  let item := moveNormalization (renameLegacy item)
  let item ← if isLabelsType item.resultType then fixLabels? tree item else some item
  if tree.contains item.fromName && tree.contains item.toName then some item else none

/-- The repaired item, if it can be kept. -/
def item? (tree : ElementTree) : WireItem → Option WireItem
  | .relation item => some (.relation item)
  | .result item => (result? tree item).map .result

/-- The repaired items. -/
def items (tree : ElementTree) (items : List WireItem) : List WireItem :=
  items.filterMap (item? tree)

end Labeling.Repair
