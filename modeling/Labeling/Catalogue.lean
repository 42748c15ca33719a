import Labeling.Entries
import Labeling.Tag

/-!
# The catalogue of tags

The tags that configurations may use, by their names in lower case. The standard catalogue holds
the objects, controls, options and layout elements that every configuration knows; more can be
registered, and a registered tag replaces one of the same name.
-/
namespace Labeling

/-- The known tags by lower-case name. -/
structure Catalogue where
  /-- The rules of each tag. -/
  specs : Entries String TagSpec := []
deriving DecidableEq, Repr

namespace Catalogue

/-- The catalogue with one more tag. -/
def register (catalogue : Catalogue) (spec : TagSpec) : Catalogue :=
  ⟨catalogue.specs.put spec.typeKey spec⟩

/-- The rules of a tag, in any letter case. -/
def get? (catalogue : Catalogue) (tag : String) : Option TagSpec :=
  catalogue.specs.get? (Text.lowered tag)

/-- The number of tags. -/
def size (catalogue : Catalogue) : Nat := catalogue.specs.length

/-- The catalogue of some tags; of tags with one name the last one counts. -/
def ofList (specs : List TagSpec) : Catalogue := specs.foldl register {}

/-- The types of the objects. -/
def allObjects : List String :=
  ["image", "text", "hypertext", "paragraphs", "audio", "audioplus", "video", "timeseries",
    "table"]

/-- The sizes of text that a selection may snap to. -/
def granularities : AttributeType := .oneOf ["symbol", "word", "sentence", "paragraph"]

/-- The objects. -/
def objectTags : List TagSpec := [
  (TagSpec.object "Image").withAttributes [("zoom", .truth), ("zoomcontrol", .truth),
    ("rotatecontrol", .truth), ("brightnesscontrol", .truth), ("contrastcontrol", .truth),
    ("maxwidth", .number)],
  (TagSpec.object "Text").withAttributes [("granularity", granularities),
    ("selectionenabled", .truth)],
  (TagSpec.object "HyperText").withAttributes [("inline", .truth), ("granularity", granularities),
    ("selectionenabled", .truth)],
  (TagSpec.object "Paragraphs").withAttributes [("layout", .oneOf ["none", "dialogue"]),
    ("showplayer", .truth)],
  (TagSpec.object "Audio").withAttributes [("speed", .truth), ("volume", .truth)],
  (TagSpec.object "AudioPlus").withAttribute "speed" .truth,
  (TagSpec.object "Video").withAttribute "framerate" .number,
  (TagSpec.object "TimeSeries").withAttributes [("valuetype", .oneOf ["url", "json"]),
    ("overviewwidth", .number)],
  TagSpec.object "Table"]

/-- The attributes of controls that draw a shape. -/
def shapeAttributes : List (String × AttributeType) :=
  [("strokewidth", .number), ("opacity", .number), ("canrotate", .truth),
    ("snap", .oneOf ["none", "pixel"])]

/-- The attributes of controls that label a region. -/
def labelAttributes : List (String × AttributeType) :=
  [("choice", .oneOf ["single", "multiple"]), ("maxusages", .number), ("showinline", .truth),
    ("allowempty", .truth), ("opacity", .number)]

/-- A control that draws a shape on images and labels it. -/
def shapeLabels (tag resultType : String) : TagSpec :=
  (((TagSpec.control tag resultType).accepting ["image"]).withAttributes
    shapeAttributes).withAttributes labelAttributes

/-- A control that draws a shape on images. -/
def shape (tag resultType : String) : TagSpec :=
  ((TagSpec.control tag resultType).accepting ["image"]).withAttributes shapeAttributes

/-- A control that labels regions of some types of objects. -/
def labels (tag resultType : String) (types : List String) : TagSpec :=
  ((TagSpec.control tag resultType).accepting types).withAttributes labelAttributes

/-- The controls that make regions. -/
def regionTags : List TagSpec := [
  labels "Labels" "labels" ["text", "hypertext", "paragraphs", "audio", "audioplus", "image"],
  shapeLabels "RectangleLabels" "rectanglelabels",
  shape "Rectangle" "rectangle",
  shapeLabels "PolygonLabels" "polygonlabels",
  shape "Polygon" "polygon",
  shapeLabels "KeyPointLabels" "keypointlabels",
  shape "KeyPoint" "keypoint",
  shapeLabels "EllipseLabels" "ellipselabels",
  shape "Ellipse" "ellipse",
  labels "BrushLabels" "brushlabels" ["image"],
  (TagSpec.control "Brush" "brush").accepting ["image"],
  labels "HyperTextLabels" "hypertextlabels" ["hypertext"],
  labels "ParagraphLabels" "paragraphlabels" ["paragraphs"],
  labels "TimeSeriesLabels" "timeserieslabels" ["timeseries"]]

/-- A control that classifies any object. -/
def classifier (tag resultType : String) (rules : List (String × AttributeType)) : TagSpec :=
  ((TagSpec.control tag resultType).accepting allObjects).classifying.withAttributes
    (rules ++ [("perregion", .truth), ("required", .truth)])

/-- The controls that classify. -/
def classificationTags : List TagSpec := [
  classifier "Choices" "choices" [("choice", .oneOf ["single", "single-radio", "multiple"]),
    ("showinline", .truth), ("layout", .oneOf ["inline", "vertical", "select"])],
  (classifier "TextArea" "textarea" [("rows", .number), ("maxsubmissions", .number),
    ("editable", .truth), ("transcription", .truth)]).withValueKey "text",
  classifier "Rating" "rating" [("maxrating", .number)],
  classifier "Taxonomy" "taxonomy" [("maxusages", .number), ("leafsonly", .truth),
    ("showfullpath", .truth)],
  classifier "Number" "number" [("min", .number), ("max", .number), ("step", .number)],
  classifier "DateTime" "datetime" []]

/-- The labels of relations belong to a control that is bound to no object. -/
def relationTags : List TagSpec := [
  { tag := "Relations", kind := .control,
    attributes := [⟨"choice", .oneOf ["single", "multiple"]⟩] }]

/-- The options of controls. -/
def optionTags : List TagSpec := [
  (TagSpec.child "Label").withAttributes [("selected", .truth),
    ("granularity", .oneOf ["symbol", "word"])],
  (TagSpec.child "Choice").withAttribute "selected" .truth,
  TagSpec.child "Relation",
  { tag := "Channel", kind := .child, required := ["column"] }]

/-- The layout elements. -/
def layoutTags : List TagSpec := [
  TagSpec.visual "View",
  (TagSpec.visual "Header").keepingMarkup,
  (TagSpec.visual "Style").keepingMarkup,
  ((TagSpec.visual "Repeater").requiring ["on"]).withAttribute "mode"
    (.oneOf ["pagination", "scroll"]),
  (TagSpec.visual "Filter").withAttribute "minlength" .number]

/-- The tags that every configuration knows. -/
def standard : Catalogue :=
  ofList (objectTags ++ regionTags ++ classificationTags ++ relationTags ++ optionTags
    ++ layoutTags)

end Catalogue
end Labeling
