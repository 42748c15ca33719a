import Labeling.Config.Expansion

/-!
# Numbering of blocks

The nodes of a tree of blocks in document order. A block gets the next free number, and the blocks
inside it the numbers behind, one subtree after the other. Names that are missing are made up
later.
-/
namespace Labeling.Block

mutual

/-- The number of blocks in a tree. -/
def size : Block → Nat
  | .mk _ children => sizeAll children + 1

/-- The number of blocks in some trees. -/
def sizeAll : List Block → Nat
  | [] => 0
  | block :: blocks => size block + sizeAll blocks

end

/-- The numbers of sibling blocks, the first of which gets the number given. -/
def numbers (start : Nat) : List Block → List Nat
  | [] => []
  | block :: blocks => start :: numbers (start + block.size) blocks

/-- The node of a block before its name is completed. -/
def nodeOf (head : BlockHead) (parent : Option Nat) (id : Nat) (children : List Nat) :
    ConfigNode where
  id := id
  tagName := head.tagName
  type := head.type
  attributes := head.attributes
  parent := parent
  children := children
  value := head.value
  nameSynthesized := false
  toNameSynthesized := false
  repeatIndex := head.repeatIndex

mutual

/-- The nodes of a block and of the blocks inside. -/
def nodes (parent : Option Nat) (id : Nat) : Block → List ConfigNode
  | .mk head children =>
    nodeOf head parent id (numbers (id + 1) children) :: nodesAll (some id) (id + 1) children

/-- The nodes of sibling blocks and of the blocks inside. -/
def nodesAll (parent : Option Nat) (start : Nat) : List Block → List ConfigNode
  | [] => []
  | block :: blocks =>
    nodes parent start block ++ nodesAll parent (start + block.size) blocks

end

mutual

/-- There are as many nodes as blocks. -/
theorem length_nodes (parent : Option Nat) (id : Nat) (block : Block) :
    (nodes parent id block).length = block.size := by
  match block with
  | .mk head children => simp [nodes, size, length_nodesAll (some id) (id + 1) children]

/-- There are as many nodes as blocks among siblings. -/
theorem length_nodesAll (parent : Option Nat) (start : Nat) (blocks : List Block) :
    (nodesAll parent start blocks).length = sizeAll blocks := by
  match blocks with
  | [] => rfl
  | block :: blocks =>
    simp [nodesAll, sizeAll, length_nodes parent start block,
      length_nodesAll parent (start + block.size) blocks]

end

end Labeling.Block
