import Labeling.AreaId
import Labeling.Wire

/-!
# Relations between areas

Relations join two different areas, and each pair at most once, in whatever order. A relation stays
when an area is deleted; it only counts where both its areas exist. Relations are known by their
place in the list.
-/
namespace Labeling

/-- A link between two areas. -/
structure Relation where
  /-- The first area. -/
  first : AreaId
  /-- The second area. -/
  second : AreaId
  /-- The direction. -/
  direction : Direction := .right
  /-- The labels; none is not the same as no label. -/
  labels : Option (List String) := none
deriving DecidableEq, Repr, Inhabited

/-- Relations in the order in which they were added. -/
abbrev Relations := List Relation

namespace Relation

/-- Whether the relation joins two areas, in either order. -/
def connects (relation : Relation) (left right : AreaId) : Bool :=
  (relation.first = left && relation.second = right)
    || (relation.first = right && relation.second = left)

/-- Whether an area is an end of the relation. -/
def touches (relation : Relation) (area : AreaId) : Bool :=
  relation.first = area || relation.second = area

/-- The relation with each end that is one area at another one. -/
def retarget (source target : AreaId) (relation : Relation) : Relation :=
  let move (area : AreaId) : AreaId := if area = source then target else area
  { relation with first := move relation.first, second := move relation.second }

/-- Whether both ends exist. -/
def isVisible (existing : AreaId → Bool) (relation : Relation) : Bool :=
  existing relation.first && existing relation.second

/-- The relation as an item. -/
def toWire (relation : Relation) : WireRelation :=
  ⟨relation.first.raw, relation.second.raw, relation.direction, relation.labels⟩

/-- The relation of an item inside an annotation. -/
def ofWire (owner : String) (item : WireRelation) : Relation :=
  ⟨⟨item.fromId, owner⟩, ⟨item.toId, owner⟩, item.direction, item.labels⟩

end Relation

namespace Relations

/-- The relation between two areas. -/
def find? (relations : Relations) (left right : AreaId) : Option Relation :=
  List.find? (·.connects left right) relations

/-- Whether a relation may be added: it joins two areas that are not joined yet. -/
def admits (relations : Relations) (relation : Relation) : Bool :=
  relation.first ≠ relation.second && !relations.any (·.connects relation.first relation.second)

/-- Add a relation at the end, if it may be added, and tell whether it was. -/
def insert (relations : Relations) (relation : Relation) : Relations × Bool :=
  if relations.admits relation then (relations ++ [relation], true) else (relations, false)

/-- The relations with each end that is one area at another one. -/
def retarget (relations : Relations) (source target : AreaId) : Relations :=
  relations.map (Relation.retarget source target)

/-- The relations that satisfy the test, and the others. -/
def extract (relations : Relations) (test : Relation → Bool) : Relations × Relations :=
  relations.partition test

/-- Delete the relation at a place, and tell whether there was one. -/
def delete (relations : Relations) (place : Nat) : Relations × Bool :=
  (relations.eraseIdx place, place < relations.length)

/-- Delete the relations of an area, and tell how many there were. -/
def deleteArea (relations : Relations) (area : AreaId) : Relations × Nat :=
  (relations.filter (!·.touches area), relations.countP (·.touches area))

/-- The relations whose areas exist. -/
def visible (relations : Relations) (existing : AreaId → Bool) : Relations :=
  relations.filter (Relation.isVisible existing)

/-- Turn the relation at a place to the next direction, and tell that direction. -/
def rotate (relations : Relations) (place : Nat) : Relations × Option Direction :=
  match relations[place]? with
  | none => (relations, none)
  | some relation =>
    let direction := relation.direction.rotated
    (relations.set place { relation with direction := direction }, some direction)

/-- Label the relation at a place, and tell whether there was one. -/
def setLabels (relations : Relations) (place : Nat) (labels : List String) :
    Relations × Bool :=
  match relations[place]? with
  | none => (relations, false)
  | some relation => (relations.set place { relation with labels := some labels }, true)

end Relations
end Labeling
