import Labeling.Config.Compile

/-!
# Building the nodes one by one

The nodes of a document can also be made in one walk, without a tree of blocks in between: a node
is pushed as its element is met, before the elements inside are known, and each node is attached to
the one around it once all inside it is built. The wrappers of a repeater are pushed and attached
by a loop of its own. Both ways give the same nodes (`nodes_ofDocument_eq`): what a walk pushes is
one run behind the nodes there before, and what it attaches to them are the numbers of that run's
outermost nodes.
-/
namespace Labeling.Building

/-- The nodes with one more, inside the node of a number and with none inside it yet. -/
def push (nodes : List ConfigNode) (head : BlockHead) (parent : Option Nat) : List ConfigNode :=
  nodes ++ [Block.nodeOf head parent nodes.length []]

/-- The nodes with some numbers more in the list of one node. -/
def attach (nodes : List ConfigNode) (parent : Nat) (numbers : List Nat) : List ConfigNode :=
  nodes.modify parent fun node => { node with children := node.children ++ numbers }

mutual

/-- The nodes with those of an element, as they are met. -/
def build (context : ExpansionContext) (placeholders : List Placeholder) (parent : Option Nat)
    (nodes : List ConfigNode) : Markup.Element → List ConfigNode
  | .mk name attributes content inner =>
    let head : BlockHead :=
      { tagName := name, attributes := ExpansionContext.attributesOf placeholders attributes }
    if head.type = "repeater" then
      let mark := context.markOf head.attributes
      (List.range (context.copies head.attributes)).foldl
        (fun built index =>
          let view : BlockHead := { tagName := "View", repeatIndex := some index }
          attach (buildAll context (placeholders ++ [⟨mark, index⟩]) built.length
            (push built view (some nodes.length)) content) nodes.length [built.length])
        (push nodes head parent)
    else if context.keepsMarkup head.type then
      let markup := (inner.bind ExpansionContext.nonBlank?).map (substituted placeholders)
      push nodes { head with value := markup } parent
    else if (Markup.elements content).isEmpty then
      let text := (ExpansionContext.nonBlank? (Markup.characters content)).map
        (substituted placeholders)
      push nodes { head with value := text } parent
    else buildAll context placeholders nodes.length (push nodes head parent) content

/-- The nodes with those of the elements among some content, attached to the node around them. -/
def buildAll (context : ExpansionContext) (placeholders : List Placeholder) (parent : Nat)
    (nodes : List ConfigNode) : List Markup.Content → List ConfigNode
  | [] => nodes
  | .text _ :: rest => buildAll context placeholders parent nodes rest
  | .element child :: rest =>
    buildAll context placeholders parent
      (attach (build context placeholders (some parent) nodes child) parent [nodes.length]) rest

end

/-! ## What is attached -/

/-- Attaching nothing changes nothing. -/
theorem attach_nil (nodes : List ConfigNode) (parent : Nat) : attach nodes parent [] = nodes := by
  simp only [attach, List.append_nil]
  exact List.modify_id parent nodes

/-- Attaching makes no node. -/
@[simp] theorem length_attach (nodes : List ConfigNode) (parent : Nat) (numbers : List Nat) :
    (attach nodes parent numbers).length = nodes.length := by
  simp [attach]

/-- Attaching to a node leaves the nodes pushed later as they are. -/
theorem attach_append {nodes : List ConfigNode} {parent : Nat} (inside : parent < nodes.length)
    (later : List ConfigNode) (numbers : List Nat) :
    attach (nodes ++ later) parent numbers = attach nodes parent numbers ++ later := by
  have longer : parent < (nodes ++ later).length := by
    rw [List.length_append]
    omega
  rw [attach, attach, List.modify_eq_take_cons_drop longer, List.modify_eq_take_cons_drop inside,
    List.take_append_of_le_length (by omega), List.drop_append_of_le_length (by omega),
    List.getElem_append_left inside]
  simp

/-- What is attached to a node just pushed are the nodes inside it. -/
theorem attach_push (nodes : List ConfigNode) (head : BlockHead) (parent : Option Nat)
    (numbers : List Nat) :
    attach (push nodes head parent) nodes.length numbers =
      nodes ++ [Block.nodeOf head parent nodes.length numbers] := by
  have behind := List.modifyTailIdx_add
    (List.modifyHead fun node : ConfigNode => { node with children := node.children ++ numbers }) 0
    nodes [Block.nodeOf head parent nodes.length []]
  exact behind

/-- Attaching a node with all inside it, and then some more to the same node. -/
theorem attach_attach {nodes : List ConfigNode} {parent : Nat} (inside : parent < nodes.length)
    (first : Nat) (numbers : List Nat) (run later : List ConfigNode) :
    attach (attach nodes parent [first] ++ run) parent numbers ++ later =
      attach nodes parent (first :: numbers) ++ (run ++ later) := by
  rw [attach_append (by simpa using inside), List.append_assoc]
  simp only [attach, List.modify_modify_eq, Function.comp_def, List.append_assoc,
    List.cons_append, List.nil_append]

/-! ## Both ways give the same nodes -/

/-- Building blocks in a loop attaches their numbers and pushes their nodes. -/
theorem foldl_eq {step : List ConfigNode → Nat → List ConfigNode} {copy : Nat → Block}
    {parent : Nat}
    (each : ∀ built index, parent < built.length → step built index =
      attach built parent [built.length] ++ Block.nodes (some parent) built.length (copy index))
    (indices : List Nat) {built : List ConfigNode} (inside : parent < built.length) :
    indices.foldl step built =
      attach built parent (Block.numbers built.length (indices.map copy)) ++
        Block.nodesAll (some parent) built.length (indices.map copy) := by
  induction indices generalizing built with
  | nil => simp [Block.numbers, Block.nodesAll, attach_nil]
  | cons index rest hypothesis =>
    have length : (step built index).length = built.length + (copy index).size := by
      rw [each built index inside, List.length_append, length_attach, Block.length_nodes]
    rw [List.foldl_cons, hypothesis (by omega), length, each built index inside,
      attach_attach inside, List.map_cons, Block.numbers, Block.nodesAll]

mutual

/-- Building an element pushes the nodes of the block that it is expanded to. -/
theorem build_eq (context : ExpansionContext) (placeholders : List Placeholder)
    (parent : Option Nat) (nodes : List ConfigNode) (element : Markup.Element) :
    build context placeholders parent nodes element =
      nodes ++ Block.nodes parent nodes.length (context.expand placeholders element) := by
  match element with
  | .mk name attributes content inner =>
    rw [build, ExpansionContext.expand]
    split
    · -- Each copy is pushed as a view and filled, and then attached to the repeater.
      have each (mark : String) (built : List ConfigNode) (index : Nat)
          (inside : nodes.length < built.length) :
          attach (buildAll context (placeholders ++ [⟨mark, index⟩]) built.length
              (push built { tagName := "View", repeatIndex := some index } (some nodes.length))
              content) nodes.length [built.length] =
            attach built nodes.length [built.length] ++
              Block.nodes (some nodes.length) built.length
                (.mk { tagName := "View", repeatIndex := some index }
                  (context.expandAll (placeholders ++ [⟨mark, index⟩]) content)) := by
        rw [buildAll_eq context _ content (by simp [push]), attach_push, List.append_assoc,
          attach_append inside, Block.nodes]
        simp [push]
      rw [foldl_eq (each _) _ (by simp [push]), attach_push, Block.nodes]
      simp [push]
    · split
      · simp [push, Block.nodes, Block.numbers, Block.nodesAll]
      · split
        · simp [push, Block.nodes, Block.numbers, Block.nodesAll]
        · rw [buildAll_eq context placeholders content (by simp [push]), attach_push, Block.nodes]
          simp [push]

/-- Building the elements among some content pushes the nodes of their blocks and attaches their
numbers to the node around them. -/
theorem buildAll_eq (context : ExpansionContext) (placeholders : List Placeholder) {parent : Nat}
    {nodes : List ConfigNode} (content : List Markup.Content) (inside : parent < nodes.length) :
    buildAll context placeholders parent nodes content =
      attach nodes parent (Block.numbers nodes.length (context.expandAll placeholders content)) ++
        Block.nodesAll (some parent) nodes.length (context.expandAll placeholders content) := by
  match content with
  | [] => simp [buildAll, ExpansionContext.expandAll, Block.numbers, Block.nodesAll, attach_nil]
  | .text _ :: rest =>
    rw [buildAll, ExpansionContext.expandAll, buildAll_eq context placeholders rest inside]
  | .element child :: rest =>
    have built := build_eq context placeholders (some parent) nodes child
    rw [buildAll, built, attach_append inside,
      buildAll_eq context placeholders rest (by simp; omega), attach_attach inside,
      ExpansionContext.expandAll, Block.numbers, Block.nodesAll]
    simp [Block.length_nodes]

end

/-- The nodes of a document are those built in one walk, with their names completed. -/
theorem nodes_ofDocument_eq (context : ExpansionContext) (document : Markup.Element) :
    (ConfigTree.ofDocument context document).nodes =
      Naming.completed context.catalogue (build context [] none [] document) := by
  rw [build_eq, List.nil_append, ConfigTree.ofDocument, List.length_nil]

end Labeling.Building
