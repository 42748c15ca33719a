import Labeling.Json.Printer
import Labeling.Reference

/-!
# Templates

A template is text with references in it. `pieces` cuts it into plain characters and references;
`render` puts values in the place of the references that name one. A template that is one single
reference stands for the value itself, whatever its kind.
-/
namespace Labeling.Template

/-- The characters that may follow the dollar sign directly. -/
def startsName (character : Char) : Bool := character.isAlpha || character == '_'

/-- The characters of a reference behind its dollar sign. -/
def inReference (character : Char) : Bool :=
  character.isAlphanum || character == '_' || character == '.' || character == '[' ||
    character == ']' || character == '-'

/-- The longest reference behind a dollar sign; dots at its end close a sentence instead. -/
def referenceName (text : List Char) : List Char :=
  (((text.takeWhile inReference).reverse).dropWhile (· == '.')).reverse

/-- A part of a template. -/
inductive Piece where
  /-- A character that stands for itself. -/
  | plain (character : Char)
  /-- A reference with its dollar sign. -/
  | reference (text : List Char)
deriving DecidableEq, Repr

/-- The text of a piece in the template. -/
def Piece.written : Piece → List Char
  | .plain character => [character]
  | .reference text => text

/-- The pieces of a template, first leaving out the characters of a reference already taken. -/
def piecesFrom : Nat → List Char → List Piece
  | _, [] => []
  | skip + 1, _ :: rest => piecesFrom skip rest
  | 0, first :: rest =>
    if first = '$' then
      let name := referenceName rest
      if (name.head?.map startsName).getD false then
        .reference ('$' :: name) :: piecesFrom name.length rest
      else .plain first :: piecesFrom 0 rest
    else .plain first :: piecesFrom 0 rest

/-- The pieces of a template. -/
def pieces (template : List Char) : List Piece := piecesFrom 0 template

/-- The text of a piece with its value: a string as it is, any other value as compact JSON. A
reference to nothing or to null stays. -/
def Piece.rendered (data : Json) : Piece → List Char
  | .plain character => [character]
  | .reference text =>
    match Reference.resolve data text with
    | some (.string value) => value.toList
    | some .null => text
    | none => text
    | some value => value.compact.toList

/-- The text of a template with values in the place of its references. -/
def renderText (data : Json) (pieces : List Piece) : Json :=
  .string (String.ofList (pieces.flatMap (Piece.rendered data)))

/-- The value of a template. -/
def render (template : String) (data : Json) : Json :=
  let parts := pieces template.toList
  match parts with
  | [.reference text] =>
    match Reference.resolve data text with
    | some value => value
    | none => renderText data parts
  | _ => renderText data parts

end Labeling.Template
