import Labeling.Catalogue
import Labeling.Config
import Labeling.Markup
import Labeling.Reference

/-!
# Expansion of a document

A document becomes a tree of blocks before it is numbered. A repeater stands for one copy of its
content for each item of the array that it names; each copy is wrapped in a view, and in the copy
the repeater's placeholder stands for the index. Placeholders are replaced from the outermost
repeater inwards. An element whose tag keeps markup, and an element without elements inside, has a
text instead of children.
-/
namespace Labeling

/-- What a block says about itself. -/
structure BlockHead where
  /-- The tag as written. -/
  tagName : String
  /-- The attributes by lower-case name. -/
  attributes : Entries String String := []
  /-- The text or markup inside. -/
  value : Option String := none
  /-- Which copy of a repeater the block wraps. -/
  repeatIndex : Option Nat := none
deriving DecidableEq, Repr

/-- The tag in lower case. -/
def BlockHead.type (head : BlockHead) : String := Text.lowered head.tagName

/-- An expanded element with the elements inside. -/
inductive Block where
  /-- A block of its parts. -/
  | mk (head : BlockHead) (children : List Block)

/-- What a block says about itself. -/
def Block.head : Block → BlockHead
  | .mk head _ => head

/-- The blocks directly inside. -/
def Block.children : Block → List Block
  | .mk _ children => children

/-- A placeholder and the index that it stands for. -/
structure Placeholder where
  /-- The text to replace. -/
  mark : String
  /-- The index of the copy. -/
  index : Nat
deriving DecidableEq, Repr

/-- The text with one placeholder replaced. -/
def Placeholder.apply (text : String) (placeholder : Placeholder) : String :=
  String.ofList (Text.replaced placeholder.mark.toList (Text.decimal placeholder.index).toList
    text.toList)

/-- The text with the placeholders replaced one after the other. -/
def substituted (placeholders : List Placeholder) (text : String) : String :=
  placeholders.foldl Placeholder.apply text

/-- What an expansion depends on. -/
structure ExpansionContext where
  /-- The known tags. -/
  catalogue : Catalogue
  /-- The task data. -/
  task : Option Json
  /-- The placeholder of repeaters that name none. -/
  indexFlag : String

/-- The placeholder of a repeater without one of its own, where none is configured. -/
def defaultIndexFlag : String := "\x7b\x7bidx\x7d\x7d"

namespace ExpansionContext

/-- Whether a tag keeps its content as markup. -/
def keepsMarkup (context : ExpansionContext) (type : String) : Bool :=
  ((context.catalogue.get? type).map (·.rawMarkup)).getD false

/-- The attributes of an element with lower-case names; of names that become equal the last one
counts. -/
def attributesOf (placeholders : List Placeholder) (attributes : List (String × String)) :
    Entries String String :=
  Entries.ofList (attributes.map fun entry =>
    (Text.lowered entry.1, substituted placeholders entry.2))

/-- A text without blanks around it, if anything is left. -/
def nonBlank? (text : String) : Option String :=
  let trimmed := Text.trimmed text
  if trimmed = "" then none else some trimmed

/-- How many copies a repeater with these attributes makes. -/
def copies (context : ExpansionContext) (attributes : Entries String String) : Nat :=
  Reference.itemCount context.task ((attributes.get? "on").getD "")

/-- The placeholder of a repeater with these attributes. -/
def markOf (context : ExpansionContext) (attributes : Entries String String) : String :=
  (attributes.get? "indexflag").getD context.indexFlag

mutual

/-- The block of an element inside repeaters with these placeholders. -/
def expand (context : ExpansionContext) (placeholders : List Placeholder) :
    Markup.Element → Block
  | .mk name attributes content inner =>
    let head : BlockHead :=
      { tagName := name, attributes := attributesOf placeholders attributes }
    if head.type = "repeater" then
      let mark := context.markOf head.attributes
      .mk head ((List.range (context.copies head.attributes)).map fun index =>
        .mk { tagName := "View", repeatIndex := some index }
          (expandAll context (placeholders ++ [⟨mark, index⟩]) content))
    else if context.keepsMarkup head.type then
      let markup := (inner.bind nonBlank?).map (substituted placeholders)
      .mk { head with value := markup } []
    else if (Markup.elements content).isEmpty then
      let text := (nonBlank? (Markup.characters content)).map (substituted placeholders)
      .mk { head with value := text } []
    else .mk head (expandAll context placeholders content)

/-- The blocks of the elements among the content. -/
def expandAll (context : ExpansionContext) (placeholders : List Placeholder) :
    List Markup.Content → List Block
  | [] => []
  | .text _ :: rest => expandAll context placeholders rest
  | .element child :: rest =>
    expand context placeholders child :: expandAll context placeholders rest

end

end ExpansionContext
end Labeling
