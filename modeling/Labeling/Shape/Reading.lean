import Labeling.Shape
import Labeling.Text

/-!
# Reading geometry

The form of a value is chosen by the type of the object and, on images, by the fields that are
there. Where a field of the form is missing or has the wrong type there is no geometry, and all
fields are kept as they are.
-/
namespace Labeling

/-- The fields of a value. -/
abbrev Value := Entries String Json

namespace Value

/-- A field that has to be there, read in some way. -/
def needed {α : Type} (value : Value) (key : String) (read : Json → Option α) : Option α :=
  (value.get? key).bind read

/-- A field that may be missing or null; `none` if it is neither and cannot be read. -/
def optional {α : Type} (value : Value) (key : String) (read : Json → Option α) :
    Option (Option α) :=
  match value.get? key with
  | none => some none
  | some .null => some none
  | some content => (read content).map some

/-- A whole number from zero on, below a bound. -/
def countBelow (bound : Nat) (content : Json) : Option Nat :=
  content.natural?.filter (· < bound)

/-- A count of 64 bits. -/
def count (content : Json) : Option Nat := countBelow Text.wordLimit content

/-- A pair of numbers. -/
def point : Json → Option (Double × Double)
  | .array [x, y] => do some (← x.double?, ← y.double?)
  | _ => none

/-- A list whose items are read in some way. -/
def list {α : Type} (read : Json → Option α) : Json → Option (List α)
  | .array items => items.mapM read
  | _ => none

/-- A rectangle. -/
def rectangle (value : Value) : Option Geometry := do
  some (.rectangle (← value.needed "x" Json.double?) (← value.needed "y" Json.double?)
    (← value.needed "width" Json.double?) (← value.needed "height" Json.double?)
    (← value.optional "rotation" Json.double?))

/-- A polygon. -/
def polygon (value : Value) : Option Geometry := do
  some (.polygon (← value.needed "points" (list point)) (← value.optional "closed" Json.bool?))

/-- A point. -/
def keyPoint (value : Value) : Option Geometry := do
  some (.keyPoint (← value.needed "x" Json.double?) (← value.needed "y" Json.double?)
    (← value.optional "width" Json.double?))

/-- An ellipse. -/
def ellipse (value : Value) : Option Geometry := do
  some (.ellipse (← value.needed "x" Json.double?) (← value.needed "y" Json.double?)
    (← value.needed "radiusX" Json.double?) (← value.needed "radiusY" Json.double?)
    (← value.optional "rotation" Json.double?))

/-- A mask. -/
def brush (value : Value) : Option Geometry := do
  some (.brush (← value.needed "format" Json.text?)
    (← value.needed "rle" (list (countBelow 4294967296))))

/-- A span of text. -/
def textSpan (value : Value) : Option Geometry := do
  some (.textSpan (← value.needed "start" Offset.ofJson?) (← value.needed "end" Offset.ofJson?)
    (← value.optional "startOffset" count) (← value.optional "endOffset" count)
    (← value.optional "text" Json.text?))

/-- A span of sound or film. -/
def audioSpan (value : Value) : Option Geometry := do
  some (.audioSpan (← value.needed "start" Json.double?) (← value.needed "end" Json.double?)
    (← value.optional "channel" count))

/-- A span of a series. -/
def timeRange (value : Value) : Option Geometry := do
  some (.timeRange (← value.needed "start" some) (← value.needed "end" some)
    (← value.optional "instant" Json.bool?))

/-- The form of a value on an image. -/
def imageGeometry (value : Value) : Option Geometry :=
  if value.has "points" then polygon value
  else if value.has "radiusX" then ellipse value
  else if value.has "rle" then brush value
  else if value.has "width" && value.has "height" then rectangle value
  else keyPoint value

/-- The types of objects whose regions are spans of text. -/
def isTextObject (objectType : String) : Bool :=
  ["text", "hypertext", "paragraphs"].contains objectType

/-- The geometry of a value on an object of a type. -/
def geometry (value : Value) (objectType : String) : Geometry :=
  let read :=
    if objectType = "image" then imageGeometry value
    else if isTextObject objectType then textSpan value
    else if ["audio", "audioplus", "video"].contains objectType then audioSpan value
    else if objectType = "timeseries" then timeRange value
    else none
  read.getD .none

/-- Add the offsets of a text span that has none: its ends, where both are counts. Tells whether
the value has changed. -/
def withOffsets (value : Value) (objectType : String) : Value × Bool :=
  if !isTextObject objectType || value.has "startOffset" || value.has "endOffset" then
    (value, false)
  else
    match value.get? "start", value.get? "end" with
    | some start, some stop =>
      if start.natural?.isSome && stop.natural?.isSome then
        ((value.put "startOffset" start).put "endOffset" stop, true)
      else (value, false)
    | _, _ => (value, false)

end Value

namespace Shape

/-- The shape of a value on an object of a type. -/
def ofValue (value : Value) (objectType : String) : Shape :=
  let geometry := value.geometry objectType
  let known := geometry.fields
  { geometry := geometry, extra := value.filter fun entry => !known.has entry.1 }

/-- The shape with its text offsets marked as taken from its ends. -/
def markPromoted (shape : Shape) : Shape :=
  if shape.geometry.isTextSpan then { shape with offsetsPromoted := true } else shape

/-- Every field of the shape, promoted offsets among them. -/
def allFields (shape : Shape) : Value := shape.geometry.fields.leftUnion shape.extra

/-- The fields of the shape as they are written. -/
def toValue (shape : Shape) : Value :=
  let known := shape.geometry.fields
  let written :=
    if shape.offsetsPromoted then (known.erase "startOffset").erase "endOffset" else known
  written.leftUnion shape.extra

/-- The shape with the fields of another value that it does not have yet. -/
def fillMissing (shape : Shape) (value : Value) (objectType : String) : Shape :=
  let present := shape.allFields
  if value.all fun entry => present.has entry.1 then shape
  else
    let filled := ofValue (present.leftUnion value) objectType
    { filled with offsetsPromoted := shape.offsetsPromoted && filled.geometry.isTextSpan }

/-- Whether there is neither geometry nor any other field. -/
def isNone (shape : Shape) : Bool := shape.geometry.isNone && shape.extra.isEmpty

end Shape
end Labeling
