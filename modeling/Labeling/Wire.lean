import Labeling.Json.Fault
import Labeling.Json.Reader

/-!
# Items of a payload

A stored annotation is a list of items. A result item gives one result of a region: the control it
came from, the object it belongs to, a value of geometry and payload, and marks. A relation item
links two regions. Fields of a result item that mean nothing here are kept as they are.
-/
namespace Labeling

/-- A result item. -/
structure WireResult where
  /-- The id of the region. -/
  id : Option String := none
  /-- The control. -/
  fromName : String := ""
  /-- The object. -/
  toName : String := ""
  /-- The type of the result. -/
  resultType : String := ""
  /-- Geometry and payload. -/
  value : Entries String Json := []
  /-- Where the result came from. -/
  origin : Option String := none
  /-- Whether it may not be changed. -/
  readonly : Option Bool := none
  /-- The id of the region around. -/
  parentId : Option String := none
  /-- How certain it is. -/
  score : Option Double := none
  /-- Further data. -/
  metadata : Option Json := none
  /-- Whether it is not shown. -/
  hidden : Option Bool := none
  /-- The other fields. -/
  extra : Entries String Json := []
deriving BEq, Inhabited

/-- Which way a relation points. -/
inductive Direction where
  /-- To the first region. -/
  | left
  /-- To the second region. -/
  | right
  /-- Both ways. -/
  | bi
deriving DecidableEq, Repr, Inhabited

namespace Direction

/-- The word for a direction. -/
def name : Direction → String
  | .left => "left"
  | .right => "right"
  | .bi => "bi"

/-- The words and their directions. -/
def choices : List (String × Direction) := [("left", .left), ("right", .right), ("bi", .bi)]

/-- The next direction of the cycle right, left, both. -/
def rotated : Direction → Direction
  | .right => .left
  | .left => .bi
  | .bi => .right

end Direction

/-- A relation item. -/
structure WireRelation where
  /-- The id of the first region. -/
  fromId : String
  /-- The id of the second region. -/
  toId : String
  /-- The direction. -/
  direction : Direction := .right
  /-- The labels; none is not the same as no label. -/
  labels : Option (List String) := none
deriving DecidableEq, Inhabited

/-- An item of a payload. -/
inductive WireItem where
  /-- A result. -/
  | result (item : WireResult)
  /-- A relation. -/
  | relation (item : WireRelation)
deriving BEq, Inhabited

/-- Why a payload is not a list of items. -/
inductive PayloadFault where
  /-- The text is not JSON. -/
  | notJson
  /-- The object holds no list of results. -/
  | noResultList
  /-- The text holds a text. -/
  | textInText
  /-- The value is of another kind, given in words. -/
  | notList (kind : String)
  /-- An item is of the wrong type. -/
  | item (fault : Json.Fault)

/-- The fault in words. -/
def PayloadFault.message : PayloadFault → String
  | .notJson => "<json syntax>"
  | .noResultList => "expected an object with a 'result' array"
  | .textInText => "results text must hold an array"
  | .notList kind => "expected a result array, got " ++ kind
  | .item fault => fault.message

namespace WireResult

/-- The item with one more field read. -/
def readField (item : WireResult) (key : String) (value : Json) :
    Except Json.Fault WireResult :=
  match key with
  | "id" => (Json.readOptional Json.readText value).map ({ item with id := · })
  | "from_name" => (Json.readText value).map ({ item with fromName := · })
  | "to_name" => (Json.readText value).map ({ item with toName := · })
  | "type" => (Json.readText value).map ({ item with resultType := · })
  | "value" => (Json.readFields value).map ({ item with value := · })
  | "origin" => (Json.readOptional Json.readText value).map ({ item with origin := · })
  | "readonly" => (Json.readOptional Json.readBool value).map ({ item with readonly := · })
  | "parentID" => (Json.readOptional Json.readText value).map ({ item with parentId := · })
  | "score" => (Json.readOptional Json.readDouble value).map ({ item with score := · })
  | "meta" => (Json.readOptional .ok value).map ({ item with metadata := · })
  | "hidden" => (Json.readOptional Json.readBool value).map ({ item with hidden := · })
  | _ => .ok { item with extra := item.extra.put key value }

/-- The item with more fields read, in order; the first faulty one counts. -/
def readAll : WireResult → List (String × Json) → Except Json.Fault WireResult
  | item, [] => .ok item
  | item, (key, value) :: fields => do readAll (← readField item key value) fields

/-- The item that an object writes. -/
def ofJson? : Json → Except Json.Fault WireResult
  | .object fields => readAll {} fields
  | other => .error (.wrongType other "struct WireResult")

/-- A field that is written only when it has a value. -/
def optionalField {α : Type} (key : String) (write : α → Json) :
    Option α → List (String × Json)
  | some value => [(key, write value)]
  | none => []

/-- The fields of the item in the order in which they are written. -/
def fields (item : WireResult) : List (String × Json) :=
  optionalField "id" .string item.id
    ++ [("from_name", .string item.fromName), ("to_name", .string item.toName),
      ("type", .string item.resultType), ("value", .object item.value)]
    ++ optionalField "origin" .string item.origin
    ++ optionalField "readonly" .bool item.readonly
    ++ optionalField "parentID" .string item.parentId
    ++ optionalField "score" .double item.score
    ++ optionalField "meta" (fun value => value) item.metadata
    ++ optionalField "hidden" .bool item.hidden
    ++ item.extra

end WireResult

namespace WireRelation

/-- The type of relation items. -/
def typeName : String := "relation"

/-- What has been read of a relation item. -/
structure Reading where
  /-- The id of the first region. -/
  fromId : Option String := none
  /-- The id of the second region. -/
  toId : Option String := none
  /-- The direction. -/
  direction : Direction := .right
  /-- The labels. -/
  labels : Option (List String) := none

/-- The item with one more field read; a field of another name is left out. -/
def readField (item : Reading) (key : String) (value : Json) : Except Json.Fault Reading :=
  match key with
  | "from_id" => (Json.readText value).map ({ item with fromId := some · })
  | "to_id" => (Json.readText value).map ({ item with toId := some · })
  | "direction" => (Json.readChoice Direction.choices value).map ({ item with direction := · })
  | "labels" => (Json.readOptional Json.readTexts value).map ({ item with labels := · })
  | _ => .ok item

/-- The item with more fields read, in order; the first faulty one counts. -/
def readAll : Reading → List (String × Json) → Except Json.Fault Reading
  | item, [] => .ok item
  | item, (key, value) :: fields => do readAll (← readField item key value) fields

/-- The item, if both ends were given. -/
def Reading.complete (item : Reading) : Except Json.Fault WireRelation :=
  match item.fromId, item.toId with
  | none, _ => .error (.missingField "from_id")
  | _, none => .error (.missingField "to_id")
  | some fromId, some toId => .ok ⟨fromId, toId, item.direction, item.labels⟩

/-- The item that an object of the type of relations writes. -/
def ofFields? (fields : List (String × Json)) : Except Json.Fault WireRelation := do
  (← readAll {} fields).complete

/-- The fields of the item in the order in which they are written. -/
def fields (item : WireRelation) : List (String × Json) :=
  [("from_id", .string item.fromId), ("to_id", .string item.toId), ("type", .string typeName),
    ("direction", .string item.direction.name)]
    ++ WireResult.optionalField "labels" (fun labels => .array (labels.map .string)) item.labels

end WireRelation

namespace WireItem

/-- The item that a value writes: a relation if its type says so, else a result. -/
def ofJson? (value : Json) : Except Json.Fault WireItem :=
  match value with
  | .object fields =>
    if (Entries.get? "type" fields).bind Json.text? = some WireRelation.typeName then
      (WireRelation.ofFields? fields).map .relation
    else (WireResult.ofJson? value).map .result
  | _ => (WireResult.ofJson? value).map .result

/-- The fields of the item in the order in which they are written. -/
def fields : WireItem → List (String × Json)
  | .result item => item.fields
  | .relation item => item.fields

/-- The item as a value. -/
def toJson (item : WireItem) : Json := .record item.fields

/-- The result items of a list. -/
def results (items : List WireItem) : List WireResult :=
  items.filterMap fun item => match item with
    | .result item => some item
    | .relation _ => none

/-- The relation items of a list. -/
def relations (items : List WireItem) : List WireRelation :=
  items.filterMap fun item => match item with
    | .result _ => none
    | .relation item => some item

end WireItem

namespace Payload

/-- The kind of a value in words. -/
def kindName : Json → String
  | .null => "null"
  | .bool _ => "a boolean"
  | .integer _ => "a number"
  | .float _ => "a number"
  | .string _ => "a string"
  | .array _ => "an array"
  | .object _ => "an object"

/-- The values of a payload that is no text: a list, or an object with a list of results. -/
def valuesOf : Json → Except PayloadFault (List Json)
  | .array items => .ok items
  | .object fields =>
    match Entries.get? "result" fields with
    | some (.array items) => .ok items
    | _ => .error .noResultList
  | other => .error (.notList (kindName other))

/-- The values of a payload, which may also be the text of one. -/
def values : Json → Except PayloadFault (List Json)
  | .string text =>
    match Json.read? text with
    | none => .error .notJson
    | some (.string _) => .error .textInText
    | some value => valuesOf value
  | value => valuesOf value

/-- The items of a payload; the first faulty one counts. -/
def items (payload : Json) : Except PayloadFault (List WireItem) := do
  let values ← values payload
  values.mapM fun value =>
    match WireItem.ofJson? value with
    | .ok item => .ok item
    | .error fault => .error (.item fault)

end Payload
end Labeling
