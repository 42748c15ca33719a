import Labeling.Catalogue
import Labeling.Config

/-!
# Naming of nodes

Every node gets a name: the declared one, or else its type and its number, with a further number
where that name is taken. A control that is bound to objects and names none gets its own name as a
stand-in, which later binding does not take for an object.
-/
namespace Labeling.Naming

/-- The names to try for a node, in order. -/
def candidate (base : String) : Nat → String
  | 0 => base
  | suffix + 1 => base ++ "_" ++ Text.decimal (suffix + 1)

/-- The first candidate that is not taken, from a suffix on. One of as many candidates as there
are taken names, and one more, is free. -/
def freeFrom (taken : List String) (base : String) : Nat → Nat → String
  | 0, suffix => candidate base suffix
  | fuel + 1, suffix =>
    if taken.contains (candidate base suffix) then freeFrom taken base fuel (suffix + 1)
    else candidate base suffix

/-- A name for a node that nothing else has. -/
def freeName (taken : List String) (base : String) : String :=
  freeFrom taken base taken.length 0

/-- The node with a name. -/
def withName (taken : List String) (node : ConfigNode) : ConfigNode :=
  match node.attr? "name" with
  | some _ => node
  | none =>
    let name := freeName taken (node.type ++ "_" ++ Text.decimal node.id)
    { node with attributes := node.attributes.put "name" name, nameSynthesized := true }

/-- The node with the name of an object, if it needs one. -/
def withTarget (catalogue : Catalogue) (node : ConfigNode) : ConfigNode :=
  let binds := ((catalogue.get? node.type).map (·.binds)).getD false
  if binds && (node.attr? "toname").isNone then
    { node with attributes := node.attributes.put "toname" node.name, toNameSynthesized := true }
  else node

/-- The nodes with their names, where some names are taken. -/
def complete (catalogue : Catalogue) : List String → List ConfigNode → List ConfigNode
  | _, [] => []
  | taken, node :: nodes =>
    let named := withName taken node
    let taken := if named.nameSynthesized then named.name :: taken else taken
    withTarget catalogue named :: complete catalogue taken nodes

/-- The names that the nodes declare. -/
def declared (nodes : List ConfigNode) : List String := nodes.filterMap (·.attr? "name")

/-- The nodes with every name completed. -/
def completed (catalogue : Catalogue) (nodes : List ConfigNode) : List ConfigNode :=
  complete catalogue (declared nodes) nodes

end Labeling.Naming
