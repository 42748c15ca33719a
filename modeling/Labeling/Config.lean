import Labeling.Entries
import Labeling.Text

/-!
# Compiled configurations

A compiled configuration is the list of its nodes in document order. A node is known by its place
in that list; it names its parent and its children by their places. Attribute names are in lower
case.
-/
namespace Labeling

/-- One node of a compiled configuration. -/
structure ConfigNode where
  /-- The place of the node in document order. -/
  id : Nat
  /-- The tag as written. -/
  tagName : String
  /-- The tag in lower case. -/
  type : String
  /-- The attributes by lower-case name. -/
  attributes : Entries String String
  /-- The node around this one. -/
  parent : Option Nat
  /-- The nodes directly inside, in document order. -/
  children : List Nat
  /-- The text or markup inside. -/
  value : Option String
  /-- Whether the name was made up. -/
  nameSynthesized : Bool
  /-- Whether the name of the object was made up. -/
  toNameSynthesized : Bool
  /-- Which copy of a repeater the node wraps. -/
  repeatIndex : Option Nat
deriving DecidableEq, Repr, Inhabited

/-- Whether a flag attribute is set: it holds the word true, in any letter case. -/
def flagIsSet (value : Option String) : Bool :=
  match value with
  | some text => Text.sameIgnoringCase (Text.trimmed text) "true"
  | none => false

/-- The names in a list with commas; blank ones do not count. -/
def listedNames (list : String) : List String :=
  ((Text.pieces ',' list.toList).map fun piece => String.ofList (Text.trim piece)).filter
    (· != "")

namespace ConfigNode

/-- The value of an attribute, named in any letter case. -/
def attr? (node : ConfigNode) (name : String) : Option String :=
  node.attributes.get? (Text.lowered name)

/-- Whether a flag attribute is set. -/
def flag (node : ConfigNode) (name : String) : Bool := flagIsSet (node.attr? name)

/-- The name of the node, empty if it has none. -/
def name (node : ConfigNode) : String := (node.attr? "name").getD ""

/-- The names of the objects that the node declares to work on. -/
def toNames (node : ConfigNode) : List String :=
  if node.toNameSynthesized then [] else ((node.attr? "toname").map listedNames).getD []

/-- The value of the node: its attribute of that name, else what stands inside. -/
def valueText? (node : ConfigNode) : Option String := node.attr? "value" <|> node.value

end ConfigNode

/-- A compiled configuration: its nodes in document order. -/
structure ConfigTree where
  /-- The nodes, each at the place that is its id. -/
  nodes : List ConfigNode := []
deriving DecidableEq, Repr

namespace ConfigTree

/-- The node at a place. -/
def get? (tree : ConfigTree) (id : Nat) : Option ConfigNode := tree.nodes[id]?

/-- The outermost node. -/
def root? (tree : ConfigTree) : Option ConfigNode := tree.nodes.head?

/-- The nodes directly inside a node; an unknown node has none. -/
def children (tree : ConfigTree) (id : Nat) : List ConfigNode :=
  ((tree.get? id).map fun node => node.children.filterMap tree.get?).getD []

/-- The first node of a name. -/
def findByName? (tree : ConfigTree) (name : String) : Option ConfigNode :=
  tree.nodes.find? (·.name == name)

/-- The nodes of a type, named in any letter case. -/
def ofType (tree : ConfigTree) (type : String) : List ConfigNode :=
  tree.nodes.filter fun node => Text.sameIgnoringCase node.type type

/-- Visit the nodes on a stack, each before the nodes inside it. -/
def visit (tree : ConfigTree) : Nat → List Nat → List ConfigNode
  | 0, _ => []
  | _ + 1, [] => []
  | fuel + 1, id :: stack =>
    match tree.get? id with
    | none => visit tree fuel stack
    | some node => node :: visit tree fuel (node.children ++ stack)

/-- A node and all nodes inside it, in document order. -/
def descendants (tree : ConfigTree) (id : Nat) : List ConfigNode :=
  visit tree (tree.nodes.length + 1) [id]

end ConfigTree
end Labeling
