import Labeling.Config.Numbering

/-!
# Where the blocks of a tree stand

Every block of a tree has a number, one more for each block before it (`Located`). Numbering keeps
its promise: the nodes of a block and of the blocks inside stand in one run from its number on
(`Located.run`), every number below the size of the tree belongs to a block
(`exists_located`), and the numbers a node lists are those of the blocks inside it.
-/
namespace Labeling.Block

/-- What holds of a block if it holds of the blocks directly inside holds of every block. -/
theorem induction {motive : Block → Prop}
    (mk : ∀ head children, (∀ child ∈ children, motive child) → motive (.mk head children))
    (block : Block) : motive block := by
  cases block with
  | mk head children => exact mk head children fun child member => induction mk child
termination_by sizeOf block

/-- A tree has a block. -/
theorem size_pos (block : Block) : 0 < block.size := by
  cases block
  simp [size]

/-- The size of two groups of trees. -/
@[simp] theorem sizeAll_append (front back : List Block) :
    sizeAll (front ++ back) = sizeAll front + sizeAll back := by
  induction front with
  | nil => simp [sizeAll]
  | cons block rest hypothesis =>
    simp only [List.cons_append, sizeAll, hypothesis]
    omega

/-- A place among the blocks of some trees is in one of the trees. -/
theorem exists_split_of_lt_sizeAll {blocks : List Block} {place : Nat}
    (inside : place < sizeAll blocks) :
    ∃ front child back, blocks = front ++ child :: back ∧ sizeAll front ≤ place ∧
      place < sizeAll front + child.size := by
  induction blocks generalizing place with
  | nil => simp [sizeAll] at inside
  | cons block rest hypothesis =>
    rw [sizeAll] at inside
    by_cases first : place < block.size
    · exact ⟨[], block, rest, rfl, Nat.zero_le _, by simpa [sizeAll] using first⟩
    · have later : place - block.size < sizeAll rest := by omega
      obtain ⟨front, child, back, split, low, high⟩ := hypothesis later
      refine ⟨block :: front, child, back, by rw [split, List.cons_append], ?_, ?_⟩
      · rw [sizeAll]
        omega
      · rw [sizeAll]
        omega

/-! ## Numbers of siblings -/

/-- There is a number for each sibling. -/
@[simp] theorem length_numbers (start : Nat) (blocks : List Block) :
    (numbers start blocks).length = blocks.length := by
  induction blocks generalizing start with
  | nil => rfl
  | cons block rest hypothesis => simp [numbers, hypothesis]

/-- The numbers of siblings go on behind the trees before them. -/
theorem numbers_append (start : Nat) (front back : List Block) :
    numbers start (front ++ back) =
      numbers start front ++ numbers (start + sizeAll front) back := by
  induction front generalizing start with
  | nil => simp [numbers, sizeAll]
  | cons block rest hypothesis =>
    simp only [List.cons_append, numbers, sizeAll, hypothesis, Nat.add_assoc]

/-- A sibling is numbered behind the trees before it. -/
theorem getElem?_numbers (start : Nat) (front : List Block) (child : Block) (back : List Block) :
    (numbers start (front ++ child :: back))[front.length]? = some (start + sizeAll front) := by
  rw [numbers_append, List.getElem?_append_right (by simp)]
  simp [numbers]

/-- A number at some place belongs to the sibling at that place. -/
theorem exists_split_of_getElem?_numbers {start place number : Nat} {blocks : List Block}
    (found : (numbers start blocks)[place]? = some number) :
    ∃ front child back, blocks = front ++ child :: back ∧ front.length = place ∧
      number = start + sizeAll front := by
  have inside : place < blocks.length := by
    rw [← length_numbers start]
    exact (List.getElem?_eq_some_iff.mp found).1
  have split : blocks = blocks.take place ++ blocks[place] :: blocks.drop (place + 1) := by
    rw [List.getElem_cons_drop, List.take_append_drop]
  have length : (blocks.take place).length = place := by
    rw [List.length_take]
    omega
  refine ⟨_, _, _, split, length, ?_⟩
  have there := getElem?_numbers start (blocks.take place) blocks[place]
    (blocks.drop (place + 1))
  rw [← split, length, found] at there
  exact Option.some.inj there

/-- A number of siblings is the one of a sibling. -/
theorem exists_split_of_mem_numbers {start number : Nat} {blocks : List Block}
    (member : number ∈ numbers start blocks) :
    ∃ front child back, blocks = front ++ child :: back ∧ number = start + sizeAll front := by
  obtain ⟨place, found⟩ := List.getElem?_of_mem member
  obtain ⟨front, child, back, split, -, numbered⟩ := exists_split_of_getElem?_numbers found
  exact ⟨front, child, back, split, numbered⟩

/-- The numbers of siblings increase. -/
theorem pairwise_numbers (start : Nat) (blocks : List Block) :
    (numbers start blocks).Pairwise (· < ·) := by
  induction blocks generalizing start with
  | nil => exact List.Pairwise.nil
  | cons block rest hypothesis =>
    rw [numbers, List.pairwise_cons]
    refine ⟨fun number member => ?_, hypothesis _⟩
    obtain ⟨front, child, back, -, numbered⟩ := exists_split_of_mem_numbers member
    have positive := block.size_pos
    omega

/-! ## Located blocks -/

/-- The nodes of siblings go on behind the nodes of the trees before them. -/
theorem nodesAll_append (parent : Option Nat) (start : Nat) (front back : List Block) :
    nodesAll parent start (front ++ back) =
      nodesAll parent start front ++ nodesAll parent (start + sizeAll front) back := by
  induction front generalizing start with
  | nil => simp [nodesAll, sizeAll]
  | cons block rest hypothesis =>
    simp only [List.cons_append, nodesAll, sizeAll, hypothesis, Nat.add_assoc, List.append_assoc]

/-- The size of a tree in terms of the trees directly inside. -/
theorem size_eq (block : Block) : block.size = sizeAll block.children + 1 := by
  cases block
  rw [size, children]

/-- The node of a block that has a number. -/
def nodeAt (parent : Option Nat) (id : Nat) (block : Block) : ConfigNode :=
  nodeOf block.head parent id (numbers (id + 1) block.children)

/-- The node of a block comes before the nodes of the blocks inside. -/
theorem nodes_eq (parent : Option Nat) (id : Nat) (block : Block) :
    nodes parent id block =
      nodeAt parent id block :: nodesAll (some id) (id + 1) block.children := by
  cases block
  rw [nodes, nodeAt, head, children]

/-- A block of a tree with its number and the number of the block around it. -/
inductive Located (root : Block) : Option Nat → Nat → Block → Prop
  /-- The outermost block comes first. -/
  | root : Located root none 0 root
  /-- A block directly inside another comes behind the trees before it. -/
  | child {parent : Option Nat} {id : Nat} {outer child : Block} {front back : List Block}
    (around : Located root parent id outer) (split : outer.children = front ++ child :: back) :
    Located root (some id) (id + 1 + sizeAll front) child

namespace Located

variable {root block : Block} {parent : Option Nat} {id : Nat}

/-- The nodes of a located block stand in one run from its number on. -/
theorem run (located : Located root parent id block) :
    ∃ before after, nodes none 0 root = before ++ nodes parent id block ++ after ∧
      before.length = id := by
  induction located with
  | root => exact ⟨[], [], by simp, rfl⟩
  | @child parent id outer child front back around split hypothesis =>
    obtain ⟨before, after, placed, length⟩ := hypothesis
    rw [nodes_eq parent id outer, split, nodesAll_append, nodesAll] at placed
    refine ⟨before ++ nodeAt parent id outer :: nodesAll (some id) (id + 1) front,
      nodesAll (some id) (id + 1 + sizeAll front + child.size) back ++ after, ?_, ?_⟩
    · rw [placed]
      simp
    · simp only [List.length_append, List.length_cons, length_nodesAll, length]
      omega

/-- The run of a located block is inside the tree. -/
theorem add_size_le (located : Located root parent id block) : id + block.size ≤ root.size := by
  obtain ⟨before, after, placed, length⟩ := located.run
  have lengths := congrArg List.length placed
  simp only [List.length_append, length_nodes, length] at lengths
  omega

/-- The node of a located block. -/
theorem getElem?_nodes (located : Located root parent id block) :
    (nodes none 0 root)[id]? = some (nodeAt parent id block) := by
  obtain ⟨before, after, placed, length⟩ := located.run
  rw [placed, nodes_eq parent id block, ← length]
  simp

/-- The number at a place among the blocks inside is that of the block at that place. -/
theorem exists_child (located : Located root parent id block) {place number : Nat}
    (found : (numbers (id + 1) block.children)[place]? = some number) :
    ∃ child, block.children[place]? = some child ∧ Located root (some id) number child := by
  obtain ⟨front, child, back, split, length, numbered⟩ := exists_split_of_getElem?_numbers found
  refine ⟨child, ?_, numbered ▸ located.child split⟩
  rw [split, ← length]
  simp

/-- Every number in the run of a located block is the number of a block. -/
theorem exists_located (located : Located root parent id block) {place : Nat} (low : id ≤ place)
    (high : place < id + block.size) : ∃ parent inner, Located root parent place inner := by
  induction block using Block.induction generalizing parent id with
  | mk head children hypothesis =>
    by_cases same : place = id
    · exact ⟨parent, _, same ▸ located⟩
    · rw [size] at high
      have inside : place - (id + 1) < sizeAll children := by omega
      obtain ⟨front, child, back, split, after, before⟩ := exists_split_of_lt_sizeAll inside
      have member : child ∈ children := by simp [split]
      exact hypothesis child member (located.child split) (by omega) (by omega)

end Located

/-- Every number below the size of a tree is the number of a block. -/
theorem exists_located {root : Block} {place : Nat} (inside : place < root.size) :
    ∃ parent block, Located root parent place block :=
  Located.root.exists_located (Nat.zero_le _) (by omega)

end Labeling.Block
