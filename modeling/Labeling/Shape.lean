import Labeling.Json

/-!
# Geometry of regions

The value of a result mixes geometry with what its control recorded. The geometry has a form that
depends on the type of the object; fields that the form does not know are kept beside it, so that
writing a shape gives back every field that it was read from.
-/
namespace Labeling

/-- The end of a text span: a number of characters or a path into a document. -/
inductive Offset where
  /-- A whole number. -/
  | integer (value : Int)
  /-- Another number. -/
  | float (value : FiniteDouble)
  /-- A path. -/
  | path (value : String)
deriving BEq, Inhabited

/-- A form of geometry with its measures. -/
inductive Geometry where
  /-- An upright or turned rectangle. -/
  | rectangle (x y width height : Double) (rotation : Option Double)
  /-- A polygon by its corners. -/
  | polygon (points : List (Double × Double)) (closed : Option Bool)
  /-- A point. -/
  | keyPoint (x y : Double) (width : Option Double)
  /-- An ellipse by its centre and half axes. -/
  | ellipse (x y radiusX radiusY : Double) (rotation : Option Double)
  /-- A mask as lengths of runs. -/
  | brush (format : String) (runs : List Nat)
  /-- A span of text. -/
  | textSpan (start stop : Offset) (startOffset endOffset : Option Nat) (text : Option String)
  /-- A span of sound or film. -/
  | audioSpan (start stop : Double) (channel : Option Nat)
  /-- A span of a series. -/
  | timeRange (start stop : Json) (instant : Option Bool)
  /-- No geometry. -/
  | none
deriving BEq, Inhabited

/-- The geometry of a region. -/
structure Shape where
  /-- The form with its measures. -/
  geometry : Geometry := .none
  /-- The fields that the form does not know. -/
  extra : Entries String Json := []
  /-- Whether the offsets of a text span were taken from its ends and are not written. -/
  offsetsPromoted : Bool := false
deriving BEq, Inhabited

namespace Offset

/-- The offset that a number or a text writes. -/
def ofJson? : Json → Option Offset
  | .integer value => some (.integer value)
  | .float value => some (.float value)
  | .string value => some (.path value)
  | _ => none

/-- The offset as a value. -/
def toJson : Offset → Json
  | .integer value => .integer value
  | .float value => .float value
  | .path value => .string value

/-- The number of characters, if the offset is one. -/
def natural? : Offset → Option Nat
  | .integer value => if 0 ≤ value then some value.toNat else none
  | _ => none

end Offset

namespace Geometry

/-- The name of a form. -/
def name : Geometry → String
  | .rectangle .. => "rectangle"
  | .polygon .. => "polygon"
  | .keyPoint .. => "keypoint"
  | .ellipse .. => "ellipse"
  | .brush .. => "brush"
  | .textSpan .. => "text"
  | .audioSpan .. => "audio"
  | .timeRange .. => "timeseries"
  | .none => "none"

/-- Whether the form is a span of text. -/
def isTextSpan : Geometry → Bool
  | .textSpan .. => true
  | _ => false

/-- Whether there is no geometry. -/
def isNone : Geometry → Bool
  | .none => true
  | _ => false

/-- A field that is written only when it has a value. -/
def optionalField {α : Type} (key : String) (write : α → Json) :
    Option α → List (String × Json)
  | some value => [(key, write value)]
  | Option.none => []

/-- A point as a pair of numbers. -/
def pointJson (point : Double × Double) : Json := .array [.double point.1, .double point.2]

/-- A count as a number. -/
def countJson (value : Nat) : Json := .integer value

/-- The fields of a form, without order. -/
def fieldList : Geometry → List (String × Json)
  | .rectangle x y width height rotation =>
    [("x", .double x), ("y", .double y), ("width", .double width),
        ("height", .double height)] ++ optionalField "rotation" .double rotation
  | .polygon points closed =>
    [("points", .array (points.map pointJson))] ++ optionalField "closed" .bool closed
  | .keyPoint x y width =>
    [("x", .double x), ("y", .double y)] ++ optionalField "width" .double width
  | .ellipse x y radiusX radiusY rotation =>
    [("x", .double x), ("y", .double y), ("radiusX", .double radiusX),
        ("radiusY", .double radiusY)] ++ optionalField "rotation" .double rotation
  | .brush format runs =>
    [("format", .string format), ("rle", .array (runs.map countJson))]
  | .textSpan start stop startOffset endOffset text =>
    [("start", start.toJson), ("end", stop.toJson)]
      ++ optionalField "startOffset" countJson startOffset
      ++ optionalField "endOffset" countJson endOffset
      ++ optionalField "text" .string text
  | .audioSpan start stop channel =>
    [("start", .double start), ("end", .double stop)]
      ++ optionalField "channel" countJson channel
  | .timeRange start stop instant =>
    [("start", start), ("end", stop)] ++ optionalField "instant" .bool instant
  | .none => []

/-- The fields of a form. -/
def fields (geometry : Geometry) : Entries String Json := Entries.ofList geometry.fieldList

end Geometry
end Labeling
