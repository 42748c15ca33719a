import Labeling.Shape.Reading
import Labeling.Wire

/-!
# Results of areas

What one control recorded for an area. The value of a result holds only what the control recorded,
under the control's payload key; the geometry belongs to the area.
-/
namespace Labeling

/-- What one control recorded for an area. -/
structure AreaResult where
  /-- The control. -/
  fromName : String
  /-- The object. -/
  toName : String
  /-- The type of the result. -/
  resultType : String
  /-- What was recorded. -/
  value : Value := []
  /-- Where the result came from. -/
  origin : Option String := none
  /-- How certain it is. -/
  score : Option Double := none
  /-- Whether it was read as unchangeable. -/
  readonly : Option Bool := none
  /-- Further data. -/
  metadata : Option Json := none
  /-- The fields of its item that mean nothing here. -/
  extra : Value := []
deriving BEq, Inhabited

/-- Whether a payload carries nothing: it is missing, null, or an empty list, text or object. -/
def isEmptyPayload : Option Json → Bool
  | none => true
  | some .null => true
  | some (.array items) => items.isEmpty
  | some (.string text) => text == ""
  | some (.object fields) => fields.isEmpty
  | some _ => false

namespace AreaResult

/-- The result of an item whose payload has been split off. -/
def ofWire (item : WireResult) (payload : Value) : AreaResult where
  fromName := item.fromName
  toName := item.toName
  resultType := item.resultType
  value := payload
  origin := item.origin
  score := item.score
  readonly := item.readonly
  metadata := item.metadata
  extra := item.extra

/-- What was recorded under a key. -/
def payload? (result : AreaResult) (key : String) : Option Json := result.value.get? key

/-- The texts recorded under a key: those of a list, or the one text. -/
def strings (result : AreaResult) (key : String) : List String :=
  match result.payload? key with
  | some (.array items) => items.filterMap Json.text?
  | some (.string text) => [text]
  | _ => []

/-- Whether nothing is recorded under a key. -/
def isEmpty (result : AreaResult) (key : String) : Bool := isEmptyPayload (result.payload? key)

end AreaResult
end Labeling
