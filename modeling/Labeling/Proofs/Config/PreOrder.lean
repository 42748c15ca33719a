import Labeling.Proofs.Config.Naming
import Labeling.Proofs.Config.Numbering
import Mathlib.Data.List.Nodup
import Mathlib.Logic.Relation

/-!
# The nodes of a configuration stand in document order

The links of a compiled configuration are two lists of numbers: a node has the number of the node
around it, and that one lists the numbers of the nodes inside it. The two agree, and both follow
the order of the document (`ConfigTree.PreOrder`): the nodes inside a node stand in one run behind
it, and walking along the listed numbers with a stack visits that run in order. This holds for
every document, because the blocks that it is expanded to are numbered one subtree after the other
(`ofDocument_preOrder`).
-/
namespace Labeling.ConfigTree

/-- The nodes from a place on, as many as counted. -/
def segment (tree : ConfigTree) (id count : Nat) : List ConfigNode :=
  (tree.nodes.drop id).take count

/-- Whether a node lists another as directly inside. -/
def Lists (tree : ConfigTree) (outer id : Nat) : Prop :=
  ∃ around, tree.get? outer = some around ∧ id ∈ around.children

/-- Whether a node is another one or inside it, at any depth. -/
def IsInside (tree : ConfigTree) (outer id : Nat) : Prop :=
  Relation.ReflTransGen tree.Lists outer id

/-- A configuration whose nodes stand in document order, with links that agree. -/
structure PreOrder (tree : ConfigTree) : Prop where
  /-- There is an outermost node. -/
  nonempty : tree.nodes ≠ []
  /-- The number of a node is its place. -/
  numbered : ∀ id node, tree.get? id = some node → node.id = id
  /-- Only the first node is inside no other. -/
  outermost : ∀ id node, tree.get? id = some node → (node.parent = none ↔ id = 0)
  /-- A node stands behind the node around it, which lists it exactly once. -/
  inside : ∀ id node outer, tree.get? id = some node → node.parent = some outer →
    outer < id ∧ ∃ around, tree.get? outer = some around ∧ around.children.count id = 1
  /-- No node lists one that is not directly inside it. -/
  listed : ∀ outer id, tree.Lists outer id →
    ∃ node, tree.get? id = some node ∧ node.parent = some outer
  /-- A node lists the nodes inside it in order. -/
  increasing : ∀ id node, tree.get? id = some node → node.children.Pairwise (· < ·)
  /-- The nodes inside a node are one run that begins with it, and its descendants are that run. -/
  descendants : ∀ id, id < tree.nodes.length → ∃ count,
    0 < count ∧ id + count ≤ tree.nodes.length ∧
    (∀ other, tree.IsInside id other ↔ id ≤ other ∧ other < id + count) ∧
    tree.descendants id = tree.segment id count
  /-- A number of no node has no descendants. -/
  unknown : ∀ id, tree.get? id = none → tree.descendants id = []
  /-- The descendants of the outermost node are all nodes. -/
  whole : tree.descendants 0 = tree.nodes

/-- Two runs in a row. -/
theorem segment_add (tree : ConfigTree) (id first second : Nat) :
    tree.segment id (first + second) =
      tree.segment id first ++ tree.segment (id + first) second := by
  rw [segment, segment, segment, List.take_add, List.drop_drop]

/-- A run of one node more than another. -/
theorem segment_succ {tree : ConfigTree} {id : Nat} {node : ConfigNode}
    (found : tree.get? id = some node) (count : Nat) :
    tree.segment id (count + 1) = node :: tree.segment (id + 1) count := by
  obtain ⟨inside, value⟩ := List.getElem?_eq_some_iff.mp found
  rw [segment, segment, List.drop_eq_getElem_cons inside, value, List.take_succ_cons]

/-- A stack without numbers is visited. -/
@[simp] theorem visit_nil (tree : ConfigTree) (fuel : Nat) : visit tree fuel [] = [] := by
  cases fuel <;> rfl

/-- Siblings are visited one after the other if each is visited with all inside it. -/
theorem visit_numbers (tree : ConfigTree) (children : List Block) (start : Nat)
    (each : ∀ front child back, children = front ++ child :: back → ∀ fuel stack,
      visit tree (child.size + fuel) ((start + Block.sizeAll front) :: stack) =
        tree.segment (start + Block.sizeAll front) child.size ++ visit tree fuel stack)
    (fuel : Nat) (stack : List Nat) :
    visit tree (Block.sizeAll children + fuel) (Block.numbers start children ++ stack) =
      tree.segment start (Block.sizeAll children) ++ visit tree fuel stack := by
  induction children generalizing start with
  | nil => simp [Block.sizeAll, Block.numbers, segment]
  | cons child rest hypothesis =>
    have first := each [] child rest rfl (Block.sizeAll rest + fuel)
      (Block.numbers (start + child.size) rest ++ stack)
    have later := hypothesis (start + child.size) fun front inner back split fuel stack => by
      have inside := each (child :: front) inner back (by rw [split, List.cons_append]) fuel stack
      rwa [Block.sizeAll, ← Nat.add_assoc] at inside
    rw [Block.sizeAll, Nat.add_zero] at first
    rw [Block.sizeAll, Block.numbers, Nat.add_assoc, List.cons_append, first, later, segment_add,
      List.append_assoc]

/-- The configuration of a tree of blocks. -/
def ofBlock (catalogue : Catalogue) (root : Block) : ConfigTree :=
  ⟨Naming.completed catalogue (Block.nodes none 0 root)⟩

/-- A document is compiled through the block that it is expanded to. -/
theorem ofDocument_eq (context : ExpansionContext) (document : Markup.Element) :
    ofDocument context document = ofBlock context.catalogue (context.expand [] document) := rfl

section Blocks

open Block (Located)

variable {catalogue : Catalogue} {root block : Block} {parent : Option Nat} {id : Nat}

/-- There are as many nodes as blocks. -/
@[simp] theorem length_nodes_ofBlock (catalogue : Catalogue) (root : Block) :
    (ofBlock catalogue root).nodes.length = root.size := by
  rw [ofBlock, Naming.length_completed, Block.length_nodes]

/-- The node of a located block is that of the block, completed. -/
theorem get?_of_located (catalogue : Catalogue) (located : Located root parent id block) :
    ∃ node, (ofBlock catalogue root).get? id = some node ∧
      (block.nodeAt parent id).Completes node :=
  Naming.getElem?_completed located.getElem?_nodes

/-- The node at the number of a located block is that of the block, completed. -/
theorem completes_of_get? (located : Located root parent id block) {node : ConfigNode}
    (found : (ofBlock catalogue root).get? id = some node) :
    (block.nodeAt parent id).Completes node := by
  obtain ⟨other, listed, completes⟩ := get?_of_located catalogue located
  rw [found] at listed
  exact Option.some.inj listed ▸ completes

/-- The node of a located block lists the numbers of the blocks inside. -/
theorem children_of_get? (located : Located root parent id block) {node : ConfigNode}
    (found : (ofBlock catalogue root).get? id = some node) :
    node.children = Block.numbers (id + 1) block.children :=
  (completes_of_get? located found).children

/-- Every node is that of a located block, completed. -/
theorem exists_located_of_get? {node : ConfigNode}
    (found : (ofBlock catalogue root).get? id = some node) :
    ∃ parent block, Located root parent id block ∧ (block.nodeAt parent id).Completes node := by
  have inside : id < root.size := by
    rw [← length_nodes_ofBlock catalogue]
    exact (List.getElem?_eq_some_iff.mp found).1
  obtain ⟨parent, block, located⟩ := Block.exists_located inside
  exact ⟨parent, block, located, completes_of_get? located found⟩

/-- What is listed by the node of a located block is one of the numbers of the blocks inside. -/
theorem lists_iff (located : Located root parent id block) (inner : Nat) :
    (ofBlock catalogue root).Lists id inner ↔ inner ∈ Block.numbers (id + 1) block.children := by
  constructor
  · rintro ⟨around, found, member⟩
    rwa [← children_of_get? located found]
  · intro member
    obtain ⟨node, found, -⟩ := get?_of_located catalogue located
    have same := children_of_get? located found
    exact ⟨node, found, same ▸ member⟩

/-- A listed number is that of a block inside. -/
theorem exists_child_of_lists {outer : Nat} (lists : (ofBlock catalogue root).Lists outer id)
    (around : Located root parent outer block) :
    ∃ child, Located root (some outer) id child ∧ outer < id ∧
      id + child.size ≤ outer + block.size := by
  obtain ⟨front, child, back, split, numbered⟩ :=
    Block.exists_split_of_mem_numbers ((lists_iff around id).mp lists)
  subst numbered
  refine ⟨child, around.child split, by omega, ?_⟩
  rw [block.size_eq, split, Block.sizeAll_append, Block.sizeAll]
  omega

/-- A block inside a located block is listed by its node. -/
theorem lists_of_split (catalogue : Catalogue) (located : Located root parent id block)
    {front back : List Block} {child : Block} (split : block.children = front ++ child :: back) :
    (ofBlock catalogue root).Lists id (id + 1 + Block.sizeAll front) := by
  rw [lists_iff located, split]
  exact List.mem_of_getElem? (Block.getElem?_numbers (id + 1) front child back)

/-- Visiting a located block visits its run. -/
theorem visit_of_located (located : Located root parent id block) (fuel : Nat)
    (stack : List Nat) :
    visit (ofBlock catalogue root) (block.size + fuel) (id :: stack) =
      (ofBlock catalogue root).segment id block.size ++
        visit (ofBlock catalogue root) fuel stack := by
  induction block using Block.induction generalizing parent id fuel stack with
  | mk head children hypothesis =>
    obtain ⟨node, found, -⟩ := get?_of_located catalogue located
    have same : node.children = Block.numbers (id + 1) children := children_of_get? located found
    have siblings := visit_numbers (ofBlock catalogue root) children (id + 1)
      (fun front child back split => hypothesis child (by simp [split]) (located.child split))
      fuel stack
    have order : Block.sizeAll children + 1 + fuel = Block.sizeAll children + fuel + 1 := by omega
    rw [Block.size, order, visit, found, segment_succ found]
    simp only [same, siblings, List.cons_append]

/-- The descendants of a located block are its run. -/
theorem descendants_of_located (located : Located root parent id block) :
    (ofBlock catalogue root).descendants id = (ofBlock catalogue root).segment id block.size := by
  have inside := located.add_size_le
  have fuel : (ofBlock catalogue root).nodes.length + 1 =
      block.size + (root.size + 1 - block.size) := by
    rw [length_nodes_ofBlock]
    omega
  rw [descendants, fuel, visit_of_located located, visit_nil, List.append_nil]

/-- What is inside a located block stands in its run. -/
theorem run_of_isInside {other : Nat} (isInside : (ofBlock catalogue root).IsInside id other)
    (located : Located root parent id block) : id ≤ other ∧ other < id + block.size := by
  induction isInside using Relation.ReflTransGen.head_induction_on generalizing parent block with
  | refl =>
    have positive := block.size_pos
    omega
  | head lists _ hypothesis =>
    obtain ⟨child, inside, after, before⟩ := exists_child_of_lists lists located
    have run := hypothesis inside
    omega

/-- What stands in the run of a located block is inside it. -/
theorem isInside_of_run (located : Located root parent id block) {other : Nat}
    (low : id ≤ other) (high : other < id + block.size) :
    (ofBlock catalogue root).IsInside id other := by
  induction block using Block.induction generalizing parent id with
  | mk head children hypothesis =>
    by_cases same : other = id
    · rw [same]
      exact Relation.ReflTransGen.refl
    · rw [Block.size] at high
      have behind : other - (id + 1) < Block.sizeAll children := by omega
      obtain ⟨front, child, back, split, after, before⟩ := Block.exists_split_of_lt_sizeAll behind
      have inside := hypothesis child (by simp [split]) (located.child split) (by omega) (by omega)
      exact Relation.ReflTransGen.head (lists_of_split catalogue located split) inside

/-- A configuration of a tree of blocks stands in document order. -/
theorem ofBlock_preOrder (catalogue : Catalogue) (root : Block) :
    (ofBlock catalogue root).PreOrder where
  nonempty := by
    have positive := root.size_pos
    rw [← List.length_pos_iff, length_nodes_ofBlock]
    exact positive
  numbered id node found := by
    obtain ⟨parent, block, located, completes⟩ := exists_located_of_get? found
    exact completes.id
  outermost id node found := by
    obtain ⟨parent, block, located, completes⟩ := exists_located_of_get? found
    have same : node.parent = parent := completes.parent
    rw [same]
    cases located with
    | root => simp
    | child around split => simp
  inside id node outer found around := by
    obtain ⟨parent, block, located, completes⟩ := exists_located_of_get? found
    have same : node.parent = parent := completes.parent
    rw [same] at around
    subst around
    cases located with
    | @child _ _ outerBlock _ front back located split =>
      obtain ⟨around, there, member⟩ := lists_of_split catalogue located split
      have nodup : around.children.Nodup := by
        rw [children_of_get? located there]
        exact (Block.pairwise_numbers _ _).imp fun less => Nat.ne_of_lt less
      exact ⟨by omega, around, there, List.count_eq_one_of_mem nodup member⟩
  listed outer id lists := by
    obtain ⟨around, found, member⟩ := lists
    obtain ⟨parent, block, located, -⟩ := exists_located_of_get? found
    obtain ⟨child, inside, -, -⟩ := exists_child_of_lists ⟨around, found, member⟩ located
    obtain ⟨node, there, completes⟩ := get?_of_located catalogue inside
    exact ⟨node, there, completes.parent⟩
  increasing id node found := by
    obtain ⟨parent, block, located, -⟩ := exists_located_of_get? found
    rw [children_of_get? located found]
    exact Block.pairwise_numbers (id + 1) block.children
  descendants id inside := by
    rw [length_nodes_ofBlock] at inside
    obtain ⟨parent, block, located⟩ := Block.exists_located inside
    refine ⟨block.size, block.size_pos, ?_, fun other => ?_, descendants_of_located located⟩
    · rw [length_nodes_ofBlock]
      exact located.add_size_le
    · exact ⟨fun isInside => run_of_isInside isInside located,
        fun run => isInside_of_run located run.1 run.2⟩
  unknown id absent := by
    rw [ConfigTree.descendants, visit, absent, visit_nil]
  whole := by
    rw [descendants_of_located Located.root, segment, List.drop_zero,
      ← length_nodes_ofBlock catalogue, List.take_length]

end Blocks

/-- Every compiled document stands in document order. -/
theorem ofDocument_preOrder (context : ExpansionContext) (document : Markup.Element) :
    (ofDocument context document).PreOrder := by
  rw [ofDocument_eq]
  exact ofBlock_preOrder context.catalogue (context.expand [] document)

end Labeling.ConfigTree
