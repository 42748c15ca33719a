/-!
# Markup documents

A configuration is written as markup: elements with attributes, text and further elements. A
document is its root element; comments and processing instructions leave no trace, except that
the markup inside an element is kept as it is written, for the elements whose content is not
compiled.
-/
namespace Labeling.Markup

mutual

/-- An element with its local name, its attributes in the order of the document, its content, and
the markup of that content as written, if it has any. -/
inductive Element where
  /-- An element of its parts. -/
  | mk (name : String) (attributes : List (String × String)) (content : List Content)
    (inner : Option String)

/-- A part of the content of an element. -/
inductive Content where
  /-- Character data. -/
  | text (characters : String)
  /-- An element inside. -/
  | element (child : Element)

end

/-- The local name of an element. -/
def Element.name : Element → String
  | .mk name _ _ _ => name

/-- The attributes of an element, in the order of the document. -/
def Element.attributes : Element → List (String × String)
  | .mk _ attributes _ _ => attributes

/-- The content of an element. -/
def Element.content : Element → List Content
  | .mk _ _ content _ => content

/-- The markup of the content as written. -/
def Element.inner : Element → Option String
  | .mk _ _ _ inner => inner

/-- The elements among the content. -/
def elements : List Content → List Element
  | [] => []
  | .text _ :: rest => elements rest
  | .element child :: rest => child :: elements rest

/-- The character data among the content. -/
def characters : List Content → String
  | [] => ""
  | .text text :: rest => text ++ characters rest
  | .element _ :: rest => characters rest

end Labeling.Markup
