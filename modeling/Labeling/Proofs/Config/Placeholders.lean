import Labeling.Proofs.Config.Repeaters
import Labeling.Proofs.Text.Replacing

/-!
# What the placeholders change

A node of a compiled document has the attributes and the text of the element that it stands for,
with the placeholders of the repeaters around it replaced one after the other. So what contains none
of them stays as it is (`unmarked_kept`); they are the ones that the repeaters have in that copy,
where each has replaced its own in what is written for those inside it, and they are the written
ones just where none is changed in that way (`marks_placeholdersIn`). And since only digits are put
in, a placeholder without digits is nowhere left (`no_mark_inside`).
-/
namespace Labeling

/-- A placeholder does not stand in a text that it changes nothing in. -/
def Placeholder.IsAbsent (placeholder : Placeholder) (text : String) : Prop :=
  placeholder.mark = "" ∨ Text.occursIn placeholder.mark.toList text.toList = false

section Substitution

variable {placeholders : List Placeholder} {text : String}

/-- A text without the placeholders stays as it is. -/
theorem substituted_eq_self (absent : ∀ placeholder ∈ placeholders, placeholder.IsAbsent text) :
    substituted placeholders text = text := by
  induction placeholders with
  | nil => rfl
  | cons placeholder rest hypothesis =>
    have first : placeholder.apply text = text := by
      rw [Placeholder.apply, Text.replaced_eq_self, String.ofList_toList]
      exact (absent placeholder List.mem_cons_self).imp_left fun empty => by rw [empty]; rfl
    rw [substituted, List.foldl_cons, first]
    exact hypothesis fun other member => absent other (List.mem_cons_of_mem _ member)

variable {mark : String} (some : mark ≠ "")
  (noDigit : ∀ character ∈ mark.toList, character.isDigit = false)

include some noDigit

/-- A mark without digits does not come in as placeholders are replaced. -/
theorem occursIn_substituted (absent : Text.occursIn mark.toList text.toList = false) :
    Text.occursIn mark.toList (substituted placeholders text).toList = false := by
  induction placeholders generalizing text with
  | nil => exact absent
  | cons placeholder rest hypothesis =>
    rw [substituted, List.foldl_cons]
    refine hypothesis ?_
    rw [Placeholder.apply, String.toList_ofList]
    exact Text.occursIn_replaced (Text.disjoint_decimal noDigit _) (Text.toList_decimal_ne_nil _)
      (by simpa using some) absent

/-- A placeholder whose mark has no digits is nowhere left. -/
theorem occursIn_substituted_of_mem {index : Nat} (member : ⟨mark, index⟩ ∈ placeholders) :
    Text.occursIn mark.toList (substituted placeholders text).toList = false := by
  obtain ⟨front, back, split⟩ := List.append_of_mem member
  rw [split, substituted, List.foldl_append, List.foldl_cons]
  refine occursIn_substituted some noDigit ?_
  rw [Placeholder.apply, String.toList_ofList]
  exact Text.occursIn_replaced_self (Text.disjoint_decimal noDigit _) (Text.toList_decimal_ne_nil _)
    (by simpa using some)

end Substitution

/-- A repeater of a document, and which of its copies. -/
structure RepeaterCopy where
  /-- The repeater. -/
  repeater : Markup.Element
  /-- The index of the copy. -/
  index : Nat

namespace ExpansionContext

variable (context : ExpansionContext) (placeholders : List Placeholder)

/-- The text or the markup inside an element that a node of it has, as it is written. -/
def textOf (element : Markup.Element) : Option String :=
  if Text.lowered element.name = "repeater" then none
  else if context.keepsMarkup (Text.lowered element.name) then element.inner.bind nonBlank?
  else if (Markup.elements element.content).isEmpty then
    nonBlank? (Markup.characters element.content)
  else none

/-- An element has its text with the placeholders put in. -/
theorem value_expand (element : Markup.Element) :
    (context.expand placeholders element).head.value =
      (context.textOf element).map (substituted placeholders) := by
  obtain ⟨name, attributes, content, inner⟩ := element
  rw [expand, textOf]
  simp only [BlockHead.type, Markup.Element.name, Markup.Element.content, Markup.Element.inner]
  by_cases repeater : Text.lowered name = "repeater"
  · simp only [repeater, if_true]
    rfl
  · by_cases markup : context.keepsMarkup (Text.lowered name) = true
    · simp only [repeater, markup, if_true, if_false]
      rfl
    · by_cases plain : (Markup.elements content).isEmpty = true
      · simp only [repeater, markup, plain, if_true, if_false]
        rfl
      · simp only [repeater, markup, plain, if_false]
        rfl

/-- Inside an element that is no repeater and keeps no markup are the elements inside it. -/
theorem children_expand_of_ordinary {element : Markup.Element}
    (ordinary : Text.lowered element.name ≠ "repeater")
    (structured : context.keepsMarkup (Text.lowered element.name) = false) :
    (context.expand placeholders element).children =
      (Markup.elements element.content).map (context.expand placeholders) := by
  obtain ⟨name, attributes, content, inner⟩ := element
  have type : BlockHead.type { tagName := name, attributes := attributesOf placeholders attributes }
      ≠ "repeater" := ordinary
  have plain : context.keepsMarkup
      (BlockHead.type { tagName := name, attributes := attributesOf placeholders attributes }) =
      false := structured
  rw [expand]
  simp only [type, plain, if_false, Bool.false_eq_true]
  split
  · rename_i none
    rw [Markup.Element.content, List.isEmpty_iff.mp none, Block.children, List.map_nil]
  · rw [expandAll_eq, Block.children, Markup.Element.content]

/-- An element has its attributes with the placeholders put in. -/
theorem get?_written (element : Markup.Element) (key : String) :
    (written placeholders element).get? key =
      ((written [] element).get? key).map (substituted placeholders) := by
  rw [written, written, attributesOf, attributesOf, Entries.get?_ofList_eq_getLast?,
    Entries.get?_ofList_eq_getLast?, List.filter_map, List.filter_map, List.getLast?_map,
    List.getLast?_map, Option.map_map, Option.map_map, Option.map_map]
  rfl

/-- The placeholders inside some copies, each of which is inside the one before it. -/
def placeholdersIn (copies : List RepeaterCopy) : List Placeholder :=
  copies.foldl (fun placeholders copy => context.inCopy placeholders copy.repeater copy.index) []

/-- The placeholders that are written for the repeaters of some copies. -/
def writtenMarks (copies : List RepeaterCopy) : List String :=
  copies.map fun copy => context.markOf (written [] copy.repeater)

/-- No placeholder that a repeater names contains one written for a repeater around it. -/
def NamedApart (copies : List RepeaterCopy) : Prop :=
  ∀ outer copy inner flag, copies = outer ++ copy :: inner →
    (written [] copy.repeater).get? "indexflag" = some flag →
    ∀ mark ∈ context.writtenMarks outer,
      mark = "" ∨ Text.occursIn mark.toList flag.toList = false

/-- Inside one more copy there is one more placeholder. -/
theorem placeholdersIn_append (copies : List RepeaterCopy) (copy : RepeaterCopy) :
    context.placeholdersIn (copies ++ [copy]) =
      context.inCopy (context.placeholdersIn copies) copy.repeater copy.index := by
  rw [placeholdersIn, List.foldl_append]
  rfl

/-- Where no named placeholder contains one from around it, the placeholders are the written
ones. -/
theorem marks_placeholdersIn {copies : List RepeaterCopy} (apart : context.NamedApart copies) :
    (context.placeholdersIn copies).map Placeholder.mark = context.writtenMarks copies := by
  induction copies using List.reverseRecOn with
  | nil => rfl
  | append_singleton copies last hypothesis =>
    have around := hypothesis fun outer copy inner flag split =>
      apart outer copy (inner ++ [last]) flag (by rw [split, List.append_assoc, List.cons_append])
    have same : context.markOf (written (context.placeholdersIn copies) last.repeater) =
        context.markOf (written [] last.repeater) := by
      rw [markOf, markOf, get?_written]
      cases named : (written [] last.repeater).get? "indexflag" with
      | none => rfl
      | some flag =>
        have kept : substituted (context.placeholdersIn copies) flag = flag := by
          refine substituted_eq_self fun placeholder member => ?_
          exact apart copies last [] flag rfl named _ (around ▸ List.mem_map_of_mem member)
        rw [Option.map_some, kept]
    rw [placeholdersIn_append, inCopy, List.map_append, around, writtenMarks, writtenMarks,
      List.map_append, List.map_singleton, List.map_singleton, same]

/-- The block of an element that is inside a copy with a placeholder, or of a copy inside it. -/
def Carries (placeholder : Placeholder) (block : Block) : Prop :=
  (∃ placeholders element, placeholder ∈ placeholders ∧
    block = context.expand placeholders element) ∨
  ∃ placeholders element index, placeholder ∈ context.inCopy placeholders element index ∧
    block = context.copyOf placeholders element index

variable {context}

/-- What is inside a copy with a placeholder stays inside it at every depth. -/
theorem Carries.child {placeholder : Placeholder} {block inner : Block} {front back : List Block}
    (carries : context.Carries placeholder block)
    (split : block.children = front ++ inner :: back) : context.Carries placeholder inner := by
  have listed : block.children[front.length]? = some inner := by simp [split]
  rcases carries with ⟨placeholders, element, member, expanded⟩ |
    ⟨placeholders, element, index, member, copied⟩
  · subst expanded
    by_cases repeater : Text.lowered element.name = "repeater"
    · exact Or.inr ⟨placeholders, element, front.length, List.mem_append_left _ member,
        context.eq_copyOf placeholders repeater listed⟩
    · obtain ⟨child, -, expanded⟩ := context.exists_of_children_expand placeholders repeater listed
      exact Or.inl ⟨placeholders, child, member, expanded.symm⟩
  · subst copied
    obtain ⟨child, -, expanded⟩ := context.exists_of_children_copyOf placeholders listed
    exact Or.inl ⟨_, child, member, expanded.symm⟩

/-- A placeholder without digits is left nowhere inside its copy. -/
theorem Carries.unmarked {mark : String} {index : Nat} {block : Block}
    (carries : context.Carries ⟨mark, index⟩ block) (nonempty : mark ≠ "")
    (noDigit : ∀ character ∈ mark.toList, character.isDigit = false) :
    (∀ key value, block.head.attributes.get? key = some value →
      Text.occursIn mark.toList value.toList = false) ∧
    ∀ value, block.head.value = some value →
      Text.occursIn mark.toList value.toList = false := by
  rcases carries with ⟨placeholders, element, member, expanded⟩ |
    ⟨placeholders, element, index, -, copied⟩
  · rw [expanded, context.value_expand, (context.head_expand placeholders element).2]
    constructor
    · intro key value found
      rw [get?_written, Option.map_eq_some_iff] at found
      obtain ⟨text, -, same⟩ := found
      exact same ▸ occursIn_substituted_of_mem nonempty noDigit member
    · intro value found
      obtain ⟨text, -, same⟩ := Option.map_eq_some_iff.mp found
      exact same ▸ occursIn_substituted_of_mem nonempty noDigit member
  · -- The view of a copy has no attributes and no text.
    rw [copied]
    constructor
    · intro key value found
      contradiction
    · intro value found
      contradiction

end ExpansionContext

namespace ConfigTree

open Block (Located)

/-- Which element of a document a node stands for, and in which copies of which repeaters. -/
inductive StandsIn (document : Markup.Element) (tree : ConfigTree) :
    Nat → Markup.Element → List RepeaterCopy → Prop
  /-- The outermost node stands for the document, in no copy. -/
  | root : StandsIn document tree 0 document []
  /-- The nodes inside a node that is no repeater stand for the elements inside its element. -/
  | child {id : Nat} {element : Markup.Element} {copies : List RepeaterCopy}
    {node : ConfigNode} {place inner : Nat} {child : Markup.Element}
    (around : StandsIn document tree id element copies)
    (found : tree.get? id = some node) (ordinary : node.type ≠ "repeater")
    (inside : node.children[place]? = some inner)
    (listed : (Markup.elements element.content)[place]? = some child) :
    StandsIn document tree inner child copies
  /-- The nodes inside the views that a repeater lists stand for the elements inside it, each in one
  of its copies. -/
  | copy {id : Nat} {element : Markup.Element} {copies : List RepeaterCopy}
    {node view : ConfigNode} {index wrapper place inner : Nat} {child : Markup.Element}
    (around : StandsIn document tree id element copies)
    (found : tree.get? id = some node) (repeater : node.type = "repeater")
    (wraps : node.children[index]? = some wrapper) (wrapped : tree.get? wrapper = some view)
    (inside : view.children[place]? = some inner)
    (listed : (Markup.elements element.content)[place]? = some child) :
    StandsIn document tree inner child (copies ++ [⟨element, index⟩])

section Document

variable {context : ExpansionContext} {document element : Markup.Element}
  {copies : List RepeaterCopy} {id : Nat}

/-- A node that stands for an element in some copies stands for it with their placeholders. -/
theorem StandsIn.standsFor
    (stands : StandsIn document (ofDocument context document) id element copies) :
    StandsFor context document (ofDocument context document) id element
      (context.placeholdersIn copies) := by
  induction stands with
  | root => exact .root
  | child _ found ordinary inside listed hypothesis =>
    exact .child hypothesis found ordinary inside listed
  | copy _ found repeater wraps wrapped inside listed hypothesis =>
    obtain ⟨parent, located⟩ := located_of_standsFor hypothesis
    rw [ExpansionContext.placeholdersIn_append, ExpansionContext.inCopy,
      ← markOf_of_expand (completes_of_get? located found)]
    exact .copy hypothesis found repeater wraps wrapped inside listed

/-- An element inside a repeater stands in each of its copies. -/
theorem StandsIn.exists_in_copy
    (stands : StandsIn document (ofDocument context document) id element copies)
    {node : ConfigNode} (found : (ofDocument context document).get? id = some node)
    (repeater : node.type = "repeater") {index : Nat} (made : index < node.children.length)
    {child : Markup.Element} (listed : child ∈ Markup.elements element.content) :
    ∃ inner, StandsIn document (ofDocument context document) inner child
      (copies ++ [⟨element, index⟩]) := by
  have wraps := List.getElem?_eq_getElem made
  obtain ⟨parent, located⟩ := located_of_standsFor stands.standsFor
  obtain ⟨view, wrapped, -⟩ := get?_of_located context.catalogue
    (located_copyOf located found repeater wraps)
  have lengths :=
    (forall₂_standsFor_of_copy stands.standsFor found repeater wraps wrapped).length_eq
  obtain ⟨place, there⟩ := List.getElem?_of_mem listed
  have inside : place < view.children.length := lengths ▸ (List.getElem?_eq_some_iff.mp there).1
  exact ⟨_, .copy stands found repeater wraps wrapped (List.getElem?_eq_getElem inside) there⟩

/-- An element inside one that is no repeater and keeps no markup stands in the same copies. -/
theorem StandsIn.exists_inside
    (stands : StandsIn document (ofDocument context document) id element copies)
    {node : ConfigNode} (found : (ofDocument context document).get? id = some node)
    (ordinary : node.type ≠ "repeater")
    (structured : context.keepsMarkup (Text.lowered element.name) = false)
    {child : Markup.Element} (listed : child ∈ Markup.elements element.content) :
    ∃ inner, StandsIn document (ofDocument context document) inner child copies := by
  obtain ⟨parent, located⟩ := located_of_standsFor stands.standsFor
  have type : Text.lowered element.name ≠ "repeater" :=
    type_of_expand (completes_of_get? located found) ▸ ordinary
  have lengths : node.children.length = (Markup.elements element.content).length := by
    rw [children_of_get? located found, Block.length_numbers,
      context.children_expand_of_ordinary _ type structured, List.length_map]
  obtain ⟨place, there⟩ := List.getElem?_of_mem listed
  have inside : place < node.children.length := lengths ▸ (List.getElem?_eq_some_iff.mp there).1
  exact ⟨_, .child stands found ordinary (List.getElem?_eq_getElem inside) there⟩

/-- Wherever an element stands in copies of repeaters, an attribute or a text that contains none of
the placeholders in these copies is there as it is written, and the elements inside it stand there
too, those inside a repeater in each of its copies. The placeholders are the written ones where no
repeater names one that contains a placeholder from around it. -/
theorem unmarked_kept (context : ExpansionContext) (document : Markup.Element) {id : Nat}
    {element : Markup.Element} {copies : List RepeaterCopy}
    (stands : StandsIn document (ofDocument context document) id element copies) :
    (∃ node, (ofDocument context document).get? id = some node ∧
      (∀ text, (∀ placeholder ∈ context.placeholdersIn copies, placeholder.IsAbsent text) →
        (∀ key, (ExpansionContext.written [] element).get? key = some text →
          node.attributes.get? key = some text) ∧
        (context.textOf element = some text → node.value = some text)) ∧
      (node.type = "repeater" → ∀ index < node.children.length,
        ∀ child ∈ Markup.elements element.content, ∃ inner,
          StandsIn document (ofDocument context document) inner child
            (copies ++ [⟨element, index⟩])) ∧
      (node.type ≠ "repeater" → context.keepsMarkup (Text.lowered element.name) = false →
        ∀ child ∈ Markup.elements element.content, ∃ inner,
          StandsIn document (ofDocument context document) inner child copies)) ∧
    (context.NamedApart copies →
      (context.placeholdersIn copies).map Placeholder.mark = context.writtenMarks copies) := by
  refine ⟨?_, context.marks_placeholdersIn⟩
  obtain ⟨parent, located⟩ := located_of_standsFor stands.standsFor
  obtain ⟨node, found, completes⟩ := get?_of_located context.catalogue located
  refine ⟨node, found, fun text absent => ⟨fun key given => ?_, fun given => ?_⟩,
    fun repeater _ made _ listed => stands.exists_in_copy found repeater made listed,
    fun ordinary structured _ listed => stands.exists_inside found ordinary structured listed⟩
  · refine completes.declared key text ?_
    rw [Block.nodeAt, Block.nodeOf, (context.head_expand _ element).2, ExpansionContext.get?_written,
      given, Option.map_some, substituted_eq_self absent]
  · rw [completes.value, Block.nodeAt, Block.nodeOf, context.value_expand, given, Option.map_some,
      substituted_eq_self absent]

/-- What is inside a copy is the block of an element with the placeholder of the copy, or a copy
inside it. -/
theorem carries_of_isInside {placeholder : Placeholder} {wrapper inner : Nat}
    {parent : Option Nat} {block : Block}
    (inside : (ofDocument context document).IsInside wrapper inner)
    (located : Located (context.expand [] document) parent wrapper block)
    (carries : context.Carries placeholder block) :
    ∃ parent block, Located (context.expand [] document) parent inner block ∧
      context.Carries placeholder block := by
  induction inside with
  | refl => exact ⟨parent, block, located, carries⟩
  | tail _ lists hypothesis =>
    obtain ⟨_, outer, around, carried⟩ := hypothesis
    obtain ⟨front, child, back, split, number⟩ :=
      Block.exists_split_of_mem_numbers ((lists_iff around _).mp lists)
    exact ⟨_, child, number ▸ around.child split, carried.child split⟩

end Document

/-- Inside the copies of a repeater, at any depth, its placeholder is left in no attribute that was
declared and in no text, if it has a character and none that is a digit. -/
theorem no_mark_inside (context : ExpansionContext) (document : Markup.Element)
    {outer wrapper inner : Nat} {repeater node : ConfigNode}
    (found : (ofDocument context document).get? outer = some repeater)
    (type : repeater.type = "repeater") (copy : wrapper ∈ repeater.children)
    (inside : (ofDocument context document).IsInside wrapper inner)
    (there : (ofDocument context document).get? inner = some node)
    (nonempty : context.markOf repeater.attributes ≠ "")
    (noDigit : ∀ character ∈ (context.markOf repeater.attributes).toList,
      character.isDigit = false) :
    (∀ key value, node.Declares key value →
      Text.occursIn (context.markOf repeater.attributes).toList value.toList = false) ∧
    ∀ value, node.value = some value →
      Text.occursIn (context.markOf repeater.attributes).toList value.toList = false := by
  obtain ⟨element, placeholders, stands⟩ := exists_standsFor found type
  obtain ⟨parent, located⟩ := located_of_standsFor stands
  obtain ⟨index, wraps⟩ := List.getElem?_of_mem copy
  have copied := located_copyOf located found type wraps
  have carries : context.Carries ⟨context.markOf repeater.attributes, index⟩
      (context.copyOf placeholders element index) := by
    refine Or.inr ⟨placeholders, element, index, List.mem_append_right _ ?_, rfl⟩
    rw [markOf_of_expand (completes_of_get? located found)]
    exact List.mem_singleton_self _
  obtain ⟨_, block, below, carried⟩ := carries_of_isInside inside copied carries
  have completes := completes_of_get? below there
  obtain ⟨attributes, value⟩ := carried.unmarked nonempty noDigit
  constructor
  · intro key text declares
    exact attributes key text (Naming.get?_of_declares completes declares)
  · intro text given
    exact value text (completes.value.symm.trans given)

/-! ## A repeater in a repeater of the same placeholder -/

/-- The cells of rows, where both repeaters name the placeholder that is used without one. -/
def gridDocument : Markup.Element :=
  .mk "View" [] [.element rows] none
where
  /-- The rows. -/
  rows : Markup.Element :=
    .mk "Repeater" [("on", "$rows"), ("indexFlag", defaultIndexFlag)] [.element cells] none
  /-- The cells of a row. -/
  cells : Markup.Element :=
    .mk "Repeater" [("on", "$rows"), ("indexFlag", defaultIndexFlag)] [.element cell] none
  /-- A cell. -/
  cell : Markup.Element :=
    .mk "Text" [("name", "cell"), ("value", "$pages[10]"), ("granularity", "word")] [] none

/-- Two rows. -/
def gridContext : ExpansionContext where
  catalogue := .standard
  task := some (.object [("rows", .array [.null, .null])])
  indexFlag := defaultIndexFlag

/-- The tree of the grid. -/
def gridTree : ConfigTree := ofDocument gridContext gridDocument

/-- The nodes of the grid by type, nodes inside, placeholder and value. -/
def gridOutline : List (String × List Nat × Option String × Option String) := [
  ("view", [1], none, none), ("repeater", [2, 8], some defaultIndexFlag, none),
  ("view", [3], none, none), ("repeater", [4, 6], some "0", none),
  ("view", [5], none, none), ("text", [], none, some "$pages[10]"),
  ("view", [7], none, none), ("text", [], none, some "$pages[11]"),
  ("view", [9], none, none), ("repeater", [10, 12], some "1", none),
  ("view", [11], none, none), ("text", [], none, some "$pages[00]"),
  ("view", [13], none, none), ("text", [], none, some "$pages[10]")]

/-- The nodes of the grid are as outlined. -/
theorem outline_gridTree : gridTree.nodes.map (fun node => (node.type, node.children,
    node.attributes.get? "indexflag", node.attributes.get? "value")) = gridOutline := by
  decide +kernel

/-- A node of the grid. -/
theorem get?_gridTree (id : Nat) {type : String} {children : List Nat}
    {flag value : Option String}
    (outlined : gridOutline[id]? = some (type, children, flag, value)) :
    ∃ node, gridTree.get? id = some node ∧ node.type = type ∧ node.children = children ∧
      node.attributes.get? "indexflag" = flag ∧ node.attributes.get? "value" = value := by
  rw [← outline_gridTree, List.getElem?_map, Option.map_eq_some_iff] at outlined
  obtain ⟨node, found, same⟩ := outlined
  simp only [Prod.mk.injEq] at same
  exact ⟨node, found, same⟩

/-- A node of the grid lists another one. -/
theorem lists_gridTree (outer inner : Nat) {type : String} {children : List Nat}
    {flag value : Option String}
    (outlined : gridOutline[outer]? = some (type, children, flag, value))
    (listed : inner ∈ children) : gridTree.Lists outer inner := by
  obtain ⟨node, found, -, same, -⟩ := get?_gridTree outer outlined
  exact ⟨node, found, same ▸ listed⟩

/-- The second cell of the first row. -/
def secondCell : List RepeaterCopy := [⟨gridDocument.rows, 0⟩, ⟨gridDocument.cells, 1⟩]

/-- A node stands for the second cell of the first row. -/
theorem standsIn_secondCell :
    StandsIn gridDocument gridTree 7 gridDocument.cell secondCell := by
  obtain ⟨view, viewFound, viewType, viewChildren, -⟩ := get?_gridTree 0 rfl
  obtain ⟨rows, rowsFound, rowsType, rowsChildren, -⟩ := get?_gridTree 1 rfl
  obtain ⟨row, rowFound, -, rowChildren, -⟩ := get?_gridTree 2 rfl
  obtain ⟨cells, cellsFound, cellsType, cellsChildren, -⟩ := get?_gridTree 3 rfl
  obtain ⟨cell, cellFound, -, cellChildren, -⟩ := get?_gridTree 6 rfl
  have first {node : ConfigNode} {child : Nat} {others : List Nat}
      (listed : node.children = child :: others) : node.children[0]? = some child := by
    rw [listed]
    rfl
  have outer : StandsIn gridDocument gridTree 1 gridDocument.rows [] :=
    .child .root viewFound (by rw [viewType]; decide) (first viewChildren) rfl
  have inner : StandsIn gridDocument gridTree 3 gridDocument.cells [⟨gridDocument.rows, 0⟩] :=
    .copy outer rowsFound rowsType (first rowsChildren) rowFound (first rowChildren) rfl
  exact .copy inner cellsFound cellsType (by rw [cellsChildren]; rfl) cellFound
    (first cellChildren) rfl

/-- The granularity of the cell is as it is written. -/
theorem secondCell_kept :
    StandsIn gridDocument gridTree 7 gridDocument.cell secondCell ∧
      ∃ node, gridTree.get? 7 = some node ∧
        node.attributes.get? "granularity" = some "word" := by
  obtain ⟨⟨node, found, kept, -⟩, -⟩ := unmarked_kept gridContext gridDocument standsIn_secondCell
  have absent : ∀ placeholder ∈ gridContext.placeholdersIn secondCell,
      placeholder.mark = "" ∨ Text.occursIn placeholder.mark.toList "word".toList = false := by
    decide +kernel
  exact ⟨standsIn_secondCell, node, found, (kept "word" absent).1 "granularity" (by decide +kernel)⟩

/-- Not every attribute that contains none of the written placeholders is there as it is written: in
a copy of the outer repeater the inner one has another placeholder. -/
theorem secondCell_changed :
    ¬ ∀ (context : ExpansionContext) (document : Markup.Element) (id : Nat)
        (element : Markup.Element) (copies : List RepeaterCopy) (node : ConfigNode)
        (key text : String),
      StandsIn document (ofDocument context document) id element copies →
      (∀ mark ∈ context.writtenMarks copies, Text.occursIn mark.toList text.toList = false) →
      (ExpansionContext.written [] element).get? key = some text →
      (ofDocument context document).get? id = some node → node.attributes.get? key = some text := by
  intro follows
  obtain ⟨node, found, -, -, -, changed⟩ := get?_gridTree 7 rfl
  have absent : ∀ mark ∈ gridContext.writtenMarks secondCell,
      Text.occursIn mark.toList "$pages[10]".toList = false := by
    decide +kernel
  have kept := follows gridContext gridDocument 7 gridDocument.cell secondCell node "value"
    "$pages[10]" standsIn_secondCell absent (by decide +kernel) found
  rw [changed] at kept
  exact absurd kept (by decide)

/-- The placeholder of the outer repeater is not left in the second cell of the first row. -/
theorem secondCell_unmarked :
    ∃ rows cell, gridTree.get? 1 = some rows ∧ rows.type = "repeater" ∧ 2 ∈ rows.children ∧
      gridTree.IsInside 2 7 ∧ gridTree.get? 7 = some cell ∧
      gridContext.markOf rows.attributes = defaultIndexFlag ∧
      ∀ key value, cell.Declares key value →
        Text.occursIn defaultIndexFlag.toList value.toList = false := by
  obtain ⟨rows, rowsFound, rowsType, rowsChildren, rowsFlag, -⟩ := get?_gridTree 1 rfl
  obtain ⟨cell, cellFound, -⟩ := get?_gridTree 7 rfl
  have copy : 2 ∈ rows.children := rowsChildren ▸ List.mem_cons_self
  have inside : gridTree.IsInside 2 7 :=
    ((Relation.ReflTransGen.single (lists_gridTree 2 3 rfl (by decide))).tail
      (lists_gridTree 3 6 rfl (by decide))).tail (lists_gridTree 6 7 rfl (by decide))
  have mark : gridContext.markOf rows.attributes = defaultIndexFlag := by
    rw [ExpansionContext.markOf, rowsFlag, Option.getD_some]
  have noDigit : defaultIndexFlag.toList.all (fun character => !character.isDigit) = true := by
    decide +kernel
  simp only [List.all_eq_true, Bool.not_eq_true'] at noDigit
  have unmarked := no_mark_inside gridContext gridDocument rowsFound rowsType copy inside cellFound
  rw [mark] at unmarked
  exact ⟨rows, cell, rowsFound, rowsType, copy, inside, cellFound, mark,
    (unmarked (by decide) noDigit).1⟩

end ConfigTree
end Labeling
