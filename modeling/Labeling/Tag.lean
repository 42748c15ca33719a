import Labeling.Double.Numeral
import Labeling.Text

/-!
# Tags

What a labeling configuration may say about one kind of element: whether it is an object to label,
a control that produces results, an option of a control or only layout, which objects it works
with, which attributes it needs and of which type they are.
-/
namespace Labeling

/-- The role of an element. -/
inductive TagKind where
  /-- Data to label. -/
  | object
  /-- A source of results. -/
  | control
  /-- An option of a control. -/
  | child
  /-- Layout. -/
  | visual
deriving DecidableEq, Repr

/-- The name of a role. -/
def TagKind.name : TagKind → String
  | .object => "object"
  | .control => "control"
  | .child => "child"
  | .visual => "visual"

/-- The type of an attribute value. -/
inductive AttributeType where
  /-- True or false. -/
  | truth
  /-- A finite number. -/
  | number
  /-- One of some words, in any letter case. -/
  | oneOf (words : List String)
deriving DecidableEq, Repr

namespace AttributeType

/-- Whether a value is of the type; blanks around it do not count. -/
def accepts (type : AttributeType) (raw : String) : Bool :=
  let raw := Text.trimmed raw
  match type with
  | .truth => Text.sameIgnoringCase raw "true" || Text.sameIgnoringCase raw "false"
  | .number => Double.isNumeral raw.toList
  | .oneOf words => words.any (Text.sameIgnoringCase · raw)

/-- The type in words. -/
def description : AttributeType → String
  | .truth => "a boolean"
  | .number => "a number"
  | .oneOf words => "one of [" ++ Text.joined ", " words ++ "]"

end AttributeType

/-- An attribute of a tag and its type. -/
structure AttributeRule where
  /-- The name in lower case. -/
  name : String
  /-- The type of its values. -/
  type : AttributeType
deriving DecidableEq, Repr

/-- The rules of one tag. -/
structure TagSpec where
  /-- The tag as it is usually written. -/
  tag : String
  /-- The role of its elements. -/
  kind : TagKind
  /-- The type of the results that it produces. -/
  resultType : Option String := none
  /-- The key of its payload in a result value, where it is not the result type. -/
  valueKey : Option String := none
  /-- The types of the objects that it works with. -/
  accepts : List String := []
  /-- The attributes that it needs. -/
  required : List String := []
  /-- The attributes with a type. -/
  attributes : List AttributeRule := []
  /-- Whether its results classify the whole task or region instead of drawing one. -/
  classification : Bool := false
  /-- Whether its content is kept as markup. -/
  rawMarkup : Bool := false
deriving DecidableEq, Repr

namespace TagSpec

/-- An object needs a name and a value. -/
def object (tag : String) : TagSpec :=
  { tag := tag, kind := .object, required := ["name", "value"] }

/-- A control needs a name and the name of an object. -/
def control (tag resultType : String) : TagSpec :=
  { tag := tag, kind := .control, resultType := some resultType, required := ["name", "toname"] }

/-- An option needs a value. -/
def child (tag : String) : TagSpec := { tag := tag, kind := .child, required := ["value"] }

/-- Layout needs nothing. -/
def visual (tag : String) : TagSpec := { tag := tag, kind := .visual }

/-- The tag, working with these types of objects. -/
def accepting (spec : TagSpec) (types : List String) : TagSpec := { spec with accepts := types }

/-- The tag with further required attributes, each named once. -/
def requiring (spec : TagSpec) (names : List String) : TagSpec :=
  let add (required : List String) (name : String) :=
    if required.contains name then required else required ++ [name]
  { spec with required := names.foldl add spec.required }

/-- The tag with one more typed attribute. -/
def withAttribute (spec : TagSpec) (name : String) (type : AttributeType) : TagSpec :=
  { spec with attributes := spec.attributes ++ [⟨Text.lowered name, type⟩] }

/-- The tag with several more typed attributes. -/
def withAttributes (spec : TagSpec) (rules : List (String × AttributeType)) : TagSpec :=
  rules.foldl (fun spec rule => spec.withAttribute rule.1 rule.2) spec

/-- The tag with a payload key of its own. -/
def withValueKey (spec : TagSpec) (key : String) : TagSpec := { spec with valueKey := some key }

/-- The tag, producing classifications. -/
def classifying (spec : TagSpec) : TagSpec := { spec with classification := true }

/-- The tag with its content kept as markup. -/
def keepingMarkup (spec : TagSpec) : TagSpec := { spec with rawMarkup := true }

/-- The tag in lower case, under which it is looked up. -/
def typeKey (spec : TagSpec) : String := Text.lowered spec.tag

/-- The key of the payload in a result value. -/
def payloadKey (spec : TagSpec) : Option String := spec.valueKey <|> spec.resultType

/-- A control that is bound to objects. -/
def binds (spec : TagSpec) : Bool := spec.kind = .control && !spec.accepts.isEmpty

end TagSpec

/-- Result types that carry labels end in `labels`. -/
def isLabelsType (resultType : String) : Bool := "labels".toList.isSuffixOf resultType.toList

/-- The type of the bare geometry of a labels type: what stands before `labels`. -/
def geometryType (labelsType : String) : Option String :=
  if isLabelsType labelsType && labelsType != "labels" then
    some (String.ofList (labelsType.toList.take (labelsType.length - 6)))
  else none

end Labeling
