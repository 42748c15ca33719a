import Labeling.Proofs.Config.PreOrder
import Mathlib.Data.List.Forall2

/-!
# What repeaters expand to

A compiled node stands for an element of the document, and how often an element is stood for
depends on the repeaters around it: inside a repeater every copy has a node for it, with the index
of the copy put in (`StandsFor`). Only the views that wrap the copies stand for none. So each
repeater has one view for each item that its source has in the task data, and in every view stand
the elements of the repeater, in their order (`repeats_of_get?_ofDocument`). The proof goes along
the links from the outermost node and carries the placeholders that are already put in
(`origin_of_located`).
-/
namespace Labeling

open Block (Located)

/-- A repeater over what is no array does not repeat. -/
theorem Reference.itemCount_eq_zero {data : Option Json} {reference : String}
    (missing : ∀ items, data.bind (resolve · reference.toList) ≠ some (.array items)) :
    itemCount data reference = 0 := by
  unfold itemCount
  split
  · rename_i items found
    exact absurd found (missing items)
  · rfl

namespace ExpansionContext

variable (context : ExpansionContext) (placeholders : List Placeholder)

/-- Expanding content expands the elements in it. -/
theorem expandAll_eq (content : List Markup.Content) :
    context.expandAll placeholders content =
      (Markup.elements content).map (context.expand placeholders) := by
  induction content with
  | nil => rfl
  | cons part rest hypothesis =>
    cases part with
    | text characters => rw [expandAll, Markup.elements, hypothesis]
    | element child => rw [expandAll, Markup.elements, List.map_cons, hypothesis]

/-- The attributes of an element with the placeholders put in. -/
def written (element : Markup.Element) : Entries String String :=
  attributesOf placeholders element.attributes

/-- The placeholders inside one copy of a repeater. -/
def inCopy (element : Markup.Element) (index : Nat) : List Placeholder :=
  placeholders ++ [⟨context.markOf (written placeholders element), index⟩]

/-- One copy of a repeater: the elements inside, in a view. -/
def copyOf (element : Markup.Element) (index : Nat) : Block :=
  .mk { tagName := "View", repeatIndex := some index }
    ((Markup.elements element.content).map
      (context.expand (context.inCopy placeholders element index)))

/-- An element keeps its tag and its attributes. -/
theorem head_expand (element : Markup.Element) :
    (context.expand placeholders element).head.tagName = element.name ∧
      (context.expand placeholders element).head.attributes = written placeholders element := by
  obtain ⟨name, attributes, content, inner⟩ := element
  rw [expand]
  split
  · exact ⟨rfl, rfl⟩
  · split
    · exact ⟨rfl, rfl⟩
    · split
      · exact ⟨rfl, rfl⟩
      · exact ⟨rfl, rfl⟩

/-- A repeater has a copy for each item of its source. -/
theorem children_expand_of_repeater {element : Markup.Element}
    (repeater : Text.lowered element.name = "repeater") :
    (context.expand placeholders element).children =
      (List.range (context.copies (written placeholders element))).map
        (context.copyOf placeholders element) := by
  obtain ⟨name, attributes, content, inner⟩ := element
  have type : BlockHead.type { tagName := name, attributes := attributesOf placeholders attributes }
      = "repeater" := repeater
  rw [expand]
  simp only [type, if_true, expandAll_eq]
  rfl

/-- The copy at a place is the one of that index. -/
theorem eq_copyOf {element : Markup.Element} (repeater : Text.lowered element.name = "repeater")
    {place : Nat} {block : Block}
    (found : (context.expand placeholders element).children[place]? = some block) :
    block = context.copyOf placeholders element place := by
  rw [context.children_expand_of_repeater placeholders repeater, List.getElem?_map,
    Option.map_eq_some_iff] at found
  obtain ⟨index, counted, copied⟩ := found
  have same : place = index := by
    have bound := (List.getElem?_eq_some_iff.mp counted).2
    simpa using bound
  rw [same, copied]

/-- The block at a place inside a copy is that of the element at that place in the repeater. -/
theorem exists_of_children_copyOf {element : Markup.Element} {index place : Nat} {block : Block}
    (found : (context.copyOf placeholders element index).children[place]? = some block) :
    ∃ child, (Markup.elements element.content)[place]? = some child ∧
      context.expand (context.inCopy placeholders element index) child = block := by
  rw [copyOf, Block.children, List.getElem?_map, Option.map_eq_some_iff] at found
  exact found

/-- The block at a place inside an element that is no repeater is that of the element at that
place. -/
theorem exists_of_children_expand {element : Markup.Element}
    (ordinary : Text.lowered element.name ≠ "repeater") {place : Nat} {block : Block}
    (found : (context.expand placeholders element).children[place]? = some block) :
    ∃ child, (Markup.elements element.content)[place]? = some child ∧
      context.expand placeholders child = block := by
  obtain ⟨name, attributes, content, inner⟩ := element
  have type : BlockHead.type { tagName := name, attributes := attributesOf placeholders attributes }
      ≠ "repeater" := ordinary
  rw [expand] at found
  simp only [type, if_false] at found
  split at found
  · simp [Block.children] at found
  · split at found
    · simp [Block.children] at found
    · rw [expandAll_eq, Block.children, List.getElem?_map, Option.map_eq_some_iff] at found
      exact found

end ExpansionContext

namespace ConfigTree

/-- Which element of a document a node stands for, and with which placeholders put in. -/
inductive StandsFor (context : ExpansionContext) (document : Markup.Element) (tree : ConfigTree) :
    Nat → Markup.Element → List Placeholder → Prop
  /-- The outermost node stands for the document. -/
  | root : StandsFor context document tree 0 document []
  /-- The nodes inside a node that is no repeater stand for the elements inside its element. -/
  | child {id : Nat} {element : Markup.Element} {placeholders : List Placeholder}
    {node : ConfigNode} {place inner : Nat} {child : Markup.Element}
    (around : StandsFor context document tree id element placeholders)
    (found : tree.get? id = some node) (ordinary : node.type ≠ "repeater")
    (inside : node.children[place]? = some inner)
    (listed : (Markup.elements element.content)[place]? = some child) :
    StandsFor context document tree inner child placeholders
  /-- The nodes inside a copy of a repeater stand for the elements inside the repeater, and its
  placeholder for the index of the copy. -/
  | copy {id : Nat} {element : Markup.Element} {placeholders : List Placeholder}
    {node view : ConfigNode} {index wrapper place inner : Nat} {child : Markup.Element}
    (around : StandsFor context document tree id element placeholders)
    (found : tree.get? id = some node) (repeater : node.type = "repeater")
    (wraps : node.children[index]? = some wrapper) (wrapped : tree.get? wrapper = some view)
    (inside : view.children[place]? = some inner)
    (listed : (Markup.elements element.content)[place]? = some child) :
    StandsFor context document tree inner child
      (placeholders ++ [⟨context.markOf node.attributes, index⟩])

/-- A repeater as the document, the placeholders around it and the task data say. -/
structure Repeats (context : ExpansionContext) (document : Markup.Element) (tree : ConfigTree)
    (node : ConfigNode) (element : Markup.Element) (placeholders : List Placeholder) : Prop where
  /-- It has the tag of its element. -/
  tagName : node.tagName = element.name
  /-- It has the source of its element, with the placeholders put in. -/
  source : node.attr? "on" =
    (ExpansionContext.attributesOf placeholders element.attributes).get? "on"
  /-- It has a copy for each item of its source. -/
  copies : node.children.length = Reference.itemCount context.task ((node.attr? "on").getD "")
  /-- It has none if its source is missing or no array. -/
  missing : (∀ items, context.task.bind (Reference.resolve · ((node.attr? "on").getD "").toList) ≠
    some (.array items)) → node.children = []
  /-- A copy is a view that was not written, with the index of the copy and with no attributes but
  made-up names; inside it stand the elements inside the repeater, in order. -/
  copy : ∀ index wrapper, node.children[index]? = some wrapper → ∃ view,
    tree.get? wrapper = some view ∧ view.tagName = "View" ∧ view.repeatIndex = some index ∧
    view.nameSynthesized = true ∧ view.value = none ∧
    (∀ key, key ≠ "name" → key ≠ "toname" → view.attributes.get? key = none) ∧
    (tree.children wrapper).map ConfigNode.tagName =
      (Markup.elements element.content).map Markup.Element.name ∧
    List.Forall₂ (fun inner child => StandsFor context document tree inner child
      (placeholders ++ [⟨context.markOf node.attributes, index⟩]))
      view.children (Markup.elements element.content)

section Document

variable {context : ExpansionContext} {document element : Markup.Element}
  {placeholders : List Placeholder} {parent : Option Nat} {id : Nat}

/-- Completing the names does not change the placeholder of a repeater. -/
theorem markOf_of_completes {node done : ConfigNode} (completes : node.Completes done) :
    context.markOf done.attributes = context.markOf node.attributes := by
  rw [ExpansionContext.markOf, ExpansionContext.markOf,
    completes.others "indexflag" (by decide) (by decide)]

/-- The node of an expanded element is of the type of the element. -/
theorem type_of_expand {node : ConfigNode}
    (completes : ((context.expand placeholders element).nodeAt parent id).Completes node) :
    node.type = Text.lowered element.name :=
  completes.type.trans (congrArg Text.lowered (context.head_expand placeholders element).1)

/-- The node of an expanded element has the placeholder of the element. -/
theorem markOf_of_expand {node : ConfigNode}
    (completes : ((context.expand placeholders element).nodeAt parent id).Completes node) :
    context.markOf node.attributes =
      context.markOf (ExpansionContext.written placeholders element) := by
  have attributes : ((context.expand placeholders element).nodeAt parent id).attributes =
      ExpansionContext.written placeholders element :=
    (context.head_expand placeholders element).2
  rw [markOf_of_completes completes, attributes]

/-- A located block is an expanded element for which its number stands, or a copy of a repeater. -/
theorem origin_of_located {block : Block}
    (located : Located (context.expand [] document) parent id block) :
    (∃ element placeholders, block = context.expand placeholders element ∧
      StandsFor context document (ofDocument context document) id element placeholders) ∨
    ∃ outer element placeholders node index, block = context.copyOf placeholders element index ∧
      StandsFor context document (ofDocument context document) outer element placeholders ∧
      (ofDocument context document).get? outer = some node ∧ node.type = "repeater" ∧
      node.children[index]? = some id ∧
      context.markOf node.attributes =
        context.markOf (ExpansionContext.written placeholders element) := by
  induction located with
  | root => exact Or.inl ⟨document, [], rfl, .root⟩
  | @child parent id outer child front back around split hypothesis =>
    obtain ⟨node, found, completes⟩ := get?_of_located context.catalogue around
    have inside : node.children[front.length]? = some (id + 1 + Block.sizeAll front) := by
      rw [children_of_get? around found, split, Block.getElem?_numbers]
    have listed : outer.children[front.length]? = some child := by simp [split]
    rcases hypothesis with ⟨element, placeholders, expanded, stands⟩ |
      ⟨above, element, placeholders, repeater, index, copied, stands, there, type, wraps, mark⟩
    · subst expanded
      have same := type_of_expand completes
      by_cases type : node.type = "repeater"
      · have copied := context.eq_copyOf placeholders (same ▸ type) listed
        exact Or.inr ⟨id, element, placeholders, node, front.length, copied, stands, found, type,
          inside, markOf_of_expand completes⟩
      · obtain ⟨inner, there, expanded⟩ :=
          context.exists_of_children_expand placeholders (same ▸ type) listed
        exact Or.inl ⟨inner, placeholders, expanded.symm, .child stands found type inside there⟩
    · subst copied
      obtain ⟨inner, there', expanded⟩ := context.exists_of_children_copyOf placeholders listed
      have copy := StandsFor.copy stands there type wraps found inside there'
      rw [mark] at copy
      exact Or.inl ⟨inner, _, expanded.symm, copy⟩

/-- Around the copies of a repeater are the views that its node lists. -/
theorem located_copyOf
    (located : Located (context.expand [] document) parent id
      (context.expand placeholders element))
    {node : ConfigNode} (found : (ofDocument context document).get? id = some node)
    (repeater : node.type = "repeater") {index wrapper : Nat}
    (wraps : node.children[index]? = some wrapper) :
    Located (context.expand [] document) (some id) wrapper
      (context.copyOf placeholders element index) := by
  have completes := completes_of_get? located found
  have type : Text.lowered element.name = "repeater" := type_of_expand completes ▸ repeater
  rw [children_of_get? located found] at wraps
  obtain ⟨block, placed, below⟩ := located.exists_child wraps
  rw [← context.eq_copyOf placeholders type placed]
  exact below

/-- What stands for an element is the block that the element is expanded to. -/
theorem located_of_standsFor
    (stands : StandsFor context document (ofDocument context document) id element placeholders) :
    ∃ parent, Located (context.expand [] document) parent id
      (context.expand placeholders element) := by
  induction stands with
  | root => exact ⟨none, .root⟩
  | @child id element placeholders node place inner child _ found ordinary inside listed
      hypothesis =>
    obtain ⟨parent, located⟩ := hypothesis
    have completes := completes_of_get? located found
    have type : Text.lowered element.name ≠ "repeater" := type_of_expand completes ▸ ordinary
    rw [children_of_get? located found] at inside
    obtain ⟨block, placed, below⟩ := located.exists_child inside
    obtain ⟨other, there, expanded⟩ := context.exists_of_children_expand placeholders type placed
    obtain rfl : other = child := Option.some.inj (there.symm.trans listed)
    exact ⟨_, expanded ▸ below⟩
  | @copy id element placeholders node view index wrapper place inner child _ found repeater wraps
      wrapped inside listed hypothesis =>
    obtain ⟨parent, located⟩ := hypothesis
    have copied := located_copyOf located found repeater wraps
    rw [children_of_get? copied wrapped] at inside
    obtain ⟨block, placed, below⟩ := copied.exists_child inside
    obtain ⟨other, there, expanded⟩ := context.exists_of_children_copyOf placeholders placed
    obtain rfl : other = child := Option.some.inj (there.symm.trans listed)
    rw [markOf_of_expand (completes_of_get? located found)]
    exact ⟨_, expanded ▸ below⟩

/-- The nodes that stand for some elements have their tags, in order. -/
theorem tagNames_of_standsFor {nodes : List Nat} {elements : List Markup.Element}
    (stand : List.Forall₂ (fun inner child =>
      StandsFor context document (ofDocument context document) inner child placeholders)
      nodes elements) :
    (nodes.filterMap (ofDocument context document).get?).map ConfigNode.tagName =
      elements.map Markup.Element.name := by
  induction stand with
  | nil => rfl
  | @cons inner child nodes elements stands _ hypothesis =>
    obtain ⟨parent, located⟩ := located_of_standsFor stands
    obtain ⟨node, found, completes⟩ := get?_of_located context.catalogue located
    have there : (ofDocument context document).get? inner = some node := found
    have tag : node.tagName = child.name :=
      completes.tagName.trans (context.head_expand placeholders child).1
    rw [List.filterMap_cons_some there, List.map_cons, List.map_cons, hypothesis, tag]

/-- In each copy of a repeater stand the elements inside it, in order. -/
theorem forall₂_standsFor_of_copy
    (stands : StandsFor context document (ofDocument context document) id element placeholders)
    {node view : ConfigNode} (found : (ofDocument context document).get? id = some node)
    (repeater : node.type = "repeater") {index wrapper : Nat}
    (wraps : node.children[index]? = some wrapper)
    (wrapped : (ofDocument context document).get? wrapper = some view) :
    List.Forall₂ (fun inner child => StandsFor context document (ofDocument context document)
      inner child (placeholders ++ [⟨context.markOf node.attributes, index⟩]))
      view.children (Markup.elements element.content) := by
  obtain ⟨parent, located⟩ := located_of_standsFor stands
  have copied := located_copyOf located found repeater wraps
  have children : view.children = Block.numbers (wrapper + 1)
      ((Markup.elements element.content).map
        (context.expand (context.inCopy placeholders element index))) :=
    children_of_get? copied wrapped
  have lengths : view.children.length = (Markup.elements element.content).length := by
    rw [children, Block.length_numbers, List.length_map]
  rw [List.forall₂_iff_get]
  refine ⟨lengths, fun place here there => ?_⟩
  exact .copy stands found repeater wraps wrapped (List.getElem?_eq_getElem here)
    (List.getElem?_eq_getElem there)

/-- A node that stands for a repeater repeats its content. -/
theorem repeats_of_standsFor
    (stands : StandsFor context document (ofDocument context document) id element placeholders)
    {node : ConfigNode} (found : (ofDocument context document).get? id = some node)
    (repeater : node.type = "repeater") :
    Repeats context document (ofDocument context document) node element placeholders := by
  obtain ⟨parent, located⟩ := located_of_standsFor stands
  have completes := completes_of_get? located found
  have type : Text.lowered element.name = "repeater" := type_of_expand completes ▸ repeater
  obtain ⟨tagName, attributes⟩ := context.head_expand placeholders element
  have source : node.attr? "on" =
      (ExpansionContext.attributesOf placeholders element.attributes).get? "on" := by
    have lowered : Text.lowered "on" = "on" := by decide
    rw [ConfigNode.attr?, lowered, completes.others "on" (by decide) (by decide)]
    exact congrArg (Entries.get? "on") attributes
  have copies : node.children.length =
      Reference.itemCount context.task ((node.attr? "on").getD "") := by
    rw [children_of_get? located found, Block.length_numbers,
      context.children_expand_of_repeater placeholders type, List.length_map, List.length_range,
      source]
    rfl
  refine ⟨completes.tagName.trans tagName, source, copies, fun missing => ?_,
    fun index wrapper wraps => ?_⟩
  · rw [Reference.itemCount_eq_zero missing] at copies
    exact List.eq_nil_of_length_eq_zero copies
  · have copied := located_copyOf located found repeater wraps
    obtain ⟨view, wrapped, shown⟩ := get?_of_located context.catalogue copied
    have stand := forall₂_standsFor_of_copy stands found repeater wraps wrapped
    refine ⟨view, wrapped, shown.tagName, shown.repeatIndex, shown.nameSynthesized, shown.value,
      shown.others, ?_, stand⟩
    have children : (ofDocument context document).children wrapper =
        view.children.filterMap (ofDocument context document).get? := by
      rw [ConfigTree.children, show (ofDocument context document).get? wrapper = _ from wrapped,
        Option.map_some, Option.getD_some]
    rw [children, tagNames_of_standsFor stand]

end Document

/-- Every repeater of a compiled document stands for a repeater of the document. -/
theorem exists_standsFor {context : ExpansionContext} {document : Markup.Element} {id : Nat}
    {node : ConfigNode} (found : (ofDocument context document).get? id = some node)
    (repeater : node.type = "repeater") :
    ∃ element placeholders,
      StandsFor context document (ofDocument context document) id element placeholders := by
  obtain ⟨parent, block, located, completes⟩ := exists_located_of_get? found
  rcases origin_of_located located with ⟨element, placeholders, -, stands⟩ |
    ⟨_, element, placeholders, _, index, copied, -, -, -, -, -⟩
  · exact ⟨element, placeholders, stands⟩
  · subst copied
    have view : node.type = Text.lowered "View" := completes.type
    rw [view] at repeater
    contradiction

/-- Every repeater of a compiled document stands for a repeater of the document, and whichever it
stands for, it has a view for each item of its source, with the content of that repeater inside. -/
theorem repeats_of_get?_ofDocument (context : ExpansionContext) (document : Markup.Element)
    {id : Nat} {node : ConfigNode} (found : (ofDocument context document).get? id = some node)
    (repeater : node.type = "repeater") :
    (∃ element placeholders,
      StandsFor context document (ofDocument context document) id element placeholders) ∧
    ∀ element placeholders,
      StandsFor context document (ofDocument context document) id element placeholders →
      Repeats context document (ofDocument context document) node element placeholders :=
  ⟨exists_standsFor found repeater,
    fun _ _ stands => repeats_of_standsFor stands found repeater⟩

/-- A table with a repeater for its rows, and in it one for the cells of a row. -/
def cellDocument : Markup.Element :=
  .mk "View" [] [.element (.mk "Repeater" [("on", "$rows")] [.element cells] none)] none
where
  /-- The cells of a row. -/
  cells : Markup.Element :=
    .mk "Repeater" [("on", "$rows[\x7b\x7bidx\x7d\x7d].cells"), ("indexFlag", "#")]
      [.element (.mk "Text" [("name", "cell_#")] [] none)] none

/-- Two rows, the first of two cells and the second of none. -/
def cellContext : ExpansionContext where
  catalogue := .standard
  task := some (.object [("rows", .array [.object [("cells", .array [.null, .null])], .object []])])
  indexFlag := defaultIndexFlag

/-- The repeater for the cells of the first row repeats the cell twice. -/
theorem cellDocument_repeats :
    ∃ node, (ofDocument cellContext cellDocument).get? 3 = some node ∧ node.type = "repeater" ∧
      node.children = [4, 6] ∧
      (∃ element placeholders, StandsFor cellContext cellDocument
        (ofDocument cellContext cellDocument) 3 element placeholders) ∧
      ∀ element placeholders, StandsFor cellContext cellDocument
        (ofDocument cellContext cellDocument) 3 element placeholders →
        Repeats cellContext cellDocument (ofDocument cellContext cellDocument) node element
          placeholders := by
  have evaluated : ((ofDocument cellContext cellDocument).get? 3).map (fun node =>
      (node.type, node.children)) = some ("repeater", [4, 6]) := by
    decide +kernel
  obtain ⟨node, found, same⟩ := Option.map_eq_some_iff.mp evaluated
  obtain ⟨type, children⟩ := Prod.mk.inj same
  exact ⟨node, found, type, children, repeats_of_get?_ofDocument _ _ found type⟩

end ConfigTree
end Labeling
