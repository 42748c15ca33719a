import Labeling.Catalogue
import Labeling.Config
import Labeling.Report

/-!
# Checking a configuration

Every node of a compiled configuration is checked against the catalogue: its tag, its required
attributes, the objects that a control names, the values a control lists, what a repeater repeats
over, and the types of its attributes. The report lists repeated names first and then the problems
of each node in document order.
-/
namespace Labeling.Validation

/-- The place of a node in a report. -/
def elementContext (node : ConfigNode) : IssueContext := .element node.tagName node.name

/-- The place of an attribute in a report. -/
def fieldContext (node : ConfigNode) (name : String) : IssueContext :=
  .field node.tagName node.name name

/-- An issue for each node whose name an earlier node has. -/
def repeatedNames (earlier : List ConfigNode) : List ConfigNode → Report
  | [] => []
  | node :: nodes =>
    let rest := repeatedNames (earlier ++ [node]) nodes
    match earlier.find? (·.name == node.name) with
    | some first =>
      Issue.error .duplicateName
        ("Name '" ++ node.name ++ "' is already used by <" ++ first.tagName ++ ">")
        (elementContext node) :: rest
    | none => rest

/-- The number of objects in a configuration. -/
def objectCount (tree : ConfigTree) (catalogue : Catalogue) : Nat :=
  tree.nodes.countP fun node => ((catalogue.get? node.type).map (·.kind)) = some .object

/-- Whether a required attribute is missing. A made-up name is missing; the name of an object can
be left out where there is only one. -/
def isMissing (objects : Nat) (node : ConfigNode) (name : String) : Bool :=
  if name = "name" then node.nameSynthesized
  else if name = "toname" then node.toNameSynthesized && objects != 1
  else if name = "value" then (node.attr? "value").isNone && node.value.isNone
  else (node.attr? name).isNone

/-- An issue for each required attribute that is missing. -/
def missingAttributes (objects : Nat) (node : ConfigNode) (spec : TagSpec) : Report :=
  (spec.required.filter (isMissing objects node)).map fun name =>
    Issue.error .required
      ("Attribute '" ++ name ++ "' is required for <" ++ node.tagName ++ ">")
      (fieldContext node name)

/-- The issue of one object name of a control, if it names nothing or an element of a type that the
control does not work with. -/
def targetIssue (tree : ConfigTree) (node : ConfigNode) (spec : TagSpec) (target : String) :
    Option Issue :=
  match tree.findByName? target with
  | none =>
    some (Issue.error .tagNotFound ("toName '" ++ target ++ "' does not match any tag")
      (fieldContext node "toname"))
  | some found =>
    if spec.accepts.contains found.type then none
    else
      some (Issue.error .tagUnsupported
        ("toName '" ++ target ++ "' points at <" ++ found.tagName ++ ">, but <" ++ node.tagName
          ++ "> only works with: " ++ Text.joined ", " spec.accepts)
        (fieldContext node "toname"))

/-- The issues of the object names of a control. -/
def targetIssues (tree : ConfigTree) (node : ConfigNode) (spec : TagSpec) : Report :=
  if spec.binds then node.toNames.filterMap (targetIssue tree node spec) else []

/-- The values that the options directly inside a control declare as attributes. -/
def listedValues (tree : ConfigTree) (node : ConfigNode) : List String :=
  (tree.children node.id).filterMap fun child =>
    if ["label", "choice", "relation"].contains child.type then child.attr? "value" else none

/-- A warning for each value that stands behind an equal one. -/
def repeatedValues (node : ConfigNode) (seen : List String) : List String → Report
  | [] => []
  | value :: values =>
    let rest := repeatedValues node (value :: seen) values
    if seen.contains value then
      Issue.warning .duplicateLabel ("Value '" ++ value ++ "' is listed more than once")
        (elementContext node) :: rest
    else rest

/-- The warnings on the values that a control lists. -/
def valueIssues (tree : ConfigTree) (node : ConfigNode) (spec : TagSpec) : Report :=
  if spec.kind = .control then repeatedValues node [] (listedValues tree node) else []

/-- The warning on a repeater without copies. -/
def repeaterIssues (node : ConfigNode) : Report :=
  if node.type = "repeater" && node.children.isEmpty then
    [Issue.warning .emptyRepeater
      ("Repeater source '" ++ (node.attr? "on").getD "" ++ "' is missing, empty or not an array")
      (fieldContext node "on")]
  else []

/-- The issue of one typed attribute, if it has a value of another type. -/
def typeIssue (node : ConfigNode) (rule : AttributeRule) : Option Issue :=
  match node.attr? rule.name with
  | none => none
  | some raw =>
    if rule.type.accepts raw then none
    else
      some (Issue.error .badType
        ("Attribute '" ++ rule.name ++ "' has value '" ++ raw ++ "' but must be "
          ++ rule.type.description)
        (fieldContext node rule.name))

/-- The issues of one node. -/
def nodeIssues (tree : ConfigTree) (catalogue : Catalogue) (objects : Nat) (node : ConfigNode) :
    Report :=
  match catalogue.get? node.type with
  | none =>
    [Issue.error .unknownTag ("Tag <" ++ node.tagName ++ "> is not supported")
      (elementContext node)]
  | some spec =>
    missingAttributes objects node spec ++ targetIssues tree node spec
      ++ valueIssues tree node spec ++ repeaterIssues node
      ++ spec.attributes.filterMap (typeIssue node)

/-- The report on a configuration. -/
def check (tree : ConfigTree) (catalogue : Catalogue) : Report :=
  let objects := objectCount tree catalogue
  repeatedNames [] tree.nodes ++ tree.nodes.flatMap (nodeIssues tree catalogue objects)

end Labeling.Validation
