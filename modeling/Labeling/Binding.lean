import Labeling.Config.Compile
import Labeling.Reference.Template
import Labeling.Validation

/-!
# Bound element trees

The elements of a configuration with their options, results and values, and the links between
controls and objects. A control is bound to the objects that it names; one that names none is bound
to the only object, if there is exactly one. The first element of a name is the one that the name
stands for.
-/
namespace Labeling

/-- An option of a control, with the options inside. -/
inductive LabelOption where
  /-- An option of its parts. -/
  | mk (value : String) (byname background hotkey : Option String) (selected : Bool)
    (children : List LabelOption)

namespace LabelOption

/-- The value that the option stands for. -/
def value : LabelOption → String
  | .mk value _ _ _ _ _ => value

/-- Whether the option is known under a label: its value or its alias. -/
def isNamed (option : LabelOption) (label : String) : Bool :=
  match option with
  | .mk value byname _ _ _ _ => value == label || byname == some label

mutual

/-- The first option under a label, an option before the options inside. -/
def find? (label : String) : LabelOption → Option LabelOption
  | .mk value byname background hotkey selected children =>
    if value == label || byname == some label then
      some (.mk value byname background hotkey selected children)
    else findAmong? label children

/-- The first option under a label among some options. -/
def findAmong? (label : String) : List LabelOption → Option LabelOption
  | [] => none
  | option :: options =>
    match find? label option with
    | some found => some found
    | none => findAmong? label options

end

mutual

/-- The option as a record. -/
def toJson : LabelOption → Json
  | .mk value byname background hotkey selected children =>
    let texts := [("alias", byname), ("background", background), ("hotkey", hotkey)].filterMap
      fun entry => entry.2.map fun text => (entry.1, Json.string text)
    let flags := if selected then [("selected", Json.bool true)] else []
    let inner := if children.isEmpty then [] else [("children", Json.array (listJson children))]
    .record (("value", .string value) :: texts ++ flags ++ inner)

/-- Some options as records. -/
def listJson : List LabelOption → List Json
  | [] => []
  | option :: options => toJson option :: listJson options

end

end LabelOption

/-- An element of a configuration. -/
structure Element where
  /-- The place among the elements. -/
  id : Nat
  /-- The node of the configuration. -/
  node : Nat
  /-- The tag as written. -/
  tag : String
  /-- The tag in lower case. -/
  type : String
  /-- The role. -/
  kind : TagKind
  /-- The name. -/
  name : String
  /-- The objects that a control is bound to. -/
  toNames : List String
  /-- The attributes by lower-case name. -/
  attributes : Entries String String
  /-- The declared value. -/
  value : Option String
  /-- The value with the task data put in. -/
  resolvedValue : Option Json
  /-- The type of the results. -/
  resultType : Option String
  /-- The key of the payload in a result value. -/
  payloadKey : Option String
  /-- Whether the results classify the whole task. -/
  classification : Bool
  /-- The options of a control. -/
  options : List LabelOption

namespace Element

/-- Whether the element is an object. -/
def isObject (element : Element) : Bool := element.kind = .object

/-- Whether the element is a control. -/
def isControl (element : Element) : Bool := element.kind = .control

/-- Whether a flag attribute is set. -/
def flag (element : Element) (name : String) : Bool := flagIsSet (element.attributes.get? name)

/-- Whether the control works on single regions. -/
def perRegion (element : Element) : Bool := element.flag "perregion"

/-- Whether the control allows a region without labels. -/
def allowEmpty (element : Element) : Bool := element.flag "allowempty"

/-- Whether the element is a control whose results carry labels. -/
def isLabels (element : Element) : Bool :=
  element.isControl && (element.resultType.map isLabelsType).getD false

/-- Whether a control is bound to an object. -/
def targets (element : Element) (object : String) : Bool := element.toNames.contains object

/-- A control that makes results. -/
def makesResults (element : Element) : Bool := element.isControl && element.resultType.isSome

end Element

/-- A checked configuration with its elements and their links. -/
structure ElementTree where
  /-- The compiled configuration. -/
  config : ConfigTree
  /-- The elements in document order. -/
  elements : List Element
  /-- The place of the element that each name stands for. -/
  names : Entries String Nat
  /-- The controls bound to each object, in document order. -/
  toNames : Entries String (List String)
  /-- The problems of the configuration. -/
  report : Report

namespace ElementTree

/-- The options under a node: its children that are options, and the options inside its other
children. -/
def options (config : ConfigTree) (catalogue : Catalogue) : Nat → Nat → List LabelOption
  | 0, _ => []
  | fuel + 1, id =>
    (config.children id).flatMap fun child =>
      let isOption := ((catalogue.get? child.type).map (·.kind)) = some .child
      if isOption then
        match child.valueText? with
        | none => []
        | some value =>
          [.mk value (child.attr? "alias") (child.attr? "background") (child.attr? "hotkey")
            (child.flag "selected") (options config catalogue fuel child.id)]
      else options config catalogue fuel child.id

/-- The element of a node of a known tag, not yet bound. -/
def elementOf (config : ConfigTree) (catalogue : Catalogue) (node : ConfigNode)
    (spec : TagSpec) (id : Nat) : Element where
  id := id
  node := node.id
  tag := node.tagName
  type := node.type
  kind := spec.kind
  name := node.name
  toNames := []
  attributes := node.attributes
  value := node.valueText?
  resolvedValue := none
  resultType := spec.resultType
  payloadKey := spec.payloadKey
  classification := spec.classification
  options :=
    if spec.kind = .control then options config catalogue config.nodes.length node.id else []

/-- The elements of the nodes of known tags, from a place on. -/
def elementsFrom (config : ConfigTree) (catalogue : Catalogue) (id : Nat) :
    List ConfigNode → List Element
  | [] => []
  | node :: nodes =>
    match catalogue.get? node.type with
    | none => elementsFrom config catalogue id nodes
    | some spec =>
      elementOf config catalogue node spec id :: elementsFrom config catalogue (id + 1) nodes

/-- The place of the first element of each name. -/
def nameIndex (elements : List Element) : Entries String Nat :=
  elements.foldl (fun names element =>
    if names.has element.name then names else names.put element.name element.id) []

/-- The element that a name stands for. -/
def lookup (elements : List Element) (names : Entries String Nat) (name : String) :
    Option Element :=
  (names.get? name).bind fun id => elements[id]?

/-- The objects that a control is bound to, given the only object if there is one. -/
def targetsOf (config : ConfigTree) (elements : List Element) (names : Entries String Nat)
    (single : Option String) (control : Element) : List String :=
  let declared := ((config.get? control.node).map (·.toNames)).getD []
  if declared.isEmpty then single.toList
  else declared.filter fun target =>
    ((lookup elements names target).map (·.isObject)).getD false

/-- The name of the only object. -/
def singleObject (elements : List Element) : Option String :=
  match elements.filter (·.isObject) with
  | [only] => some only.name
  | _ => none

/-- The element with its links to objects. -/
def bound (config : ConfigTree) (elements : List Element) (names : Entries String Nat)
    (single : Option String) (element : Element) : Element :=
  if element.makesResults then
    { element with toNames := targetsOf config elements names single element }
  else element

/-- The controls of each object, as often as they name it. -/
def controlIndex (elements : List Element) : Entries String (List String) :=
  (elements.flatMap fun element => element.toNames.map fun target => (target, element.name)).foldl
    (fun index link => index.put link.1 (index.getD link.1 [] ++ [link.2])) []

/-- The element with its value in terms of the task data. -/
def resolved (task : Option Json) (element : Element) : Element :=
  { element with
    resolvedValue := task.bind fun data => element.value.map (Template.render · data) }

/-- The bound tree of a compiled configuration. -/
def ofConfig (config : ConfigTree) (catalogue : Catalogue) (task : Option Json) : ElementTree :=
  let plain := elementsFrom config catalogue 0 config.nodes
  let names := nameIndex plain
  let elements := plain.map (bound config plain names (singleObject plain))
  { config := config
    elements := elements.map (resolved task)
    names := names
    toNames := controlIndex elements
    report := Validation.check config catalogue }

/-- The bound tree of the configuration of a document. -/
def ofDocument (context : ExpansionContext) (document : Markup.Element) : ElementTree :=
  ofConfig (ConfigTree.ofDocument context document) context.catalogue context.task

/-- The bound tree of the configuration that a text writes. -/
def compile? (context : ExpansionContext) (text : String) : Option ElementTree :=
  (ConfigTree.compile? context text).map (ofConfig · context.catalogue context.task)

/-- The element that a name stands for. -/
def get? (tree : ElementTree) (name : String) : Option Element :=
  lookup tree.elements tree.names name

/-- Whether some element has the name. -/
def contains (tree : ElementTree) (name : String) : Bool := tree.names.has name

/-- The objects, in document order. -/
def objects (tree : ElementTree) : List Element := tree.elements.filter (·.isObject)

/-- The controls, in document order. -/
def controls (tree : ElementTree) : List Element := tree.elements.filter (·.isControl)

/-- The controls bound to an object, in document order. -/
def controlsFor (tree : ElementTree) (object : String) : List Element :=
  (tree.toNames.getD object []).filterMap tree.get?

/-- The first control of an object that makes results of a type. -/
def findControl? (tree : ElementTree) (object resultType : String) : Option Element :=
  (tree.controlsFor object).find? (·.resultType == some resultType)

/-- The control of the labels of relations. -/
def relationsControl? (tree : ElementTree) : Option Element :=
  tree.elements.find? (·.type == "relations")

end ElementTree
end Labeling
