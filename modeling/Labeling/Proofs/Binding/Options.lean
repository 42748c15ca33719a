import Labeling.Proofs.Binding
import Labeling.Proofs.Config.PreOrder
import Mathlib.Data.List.Pairwise

/-!
# The options that a control offers

The options of a control are collected along the nodes inside it: what has the tag of an option is
one, with what is inside it nested in it, and what has another tag is only layout, whose options
count as those of the control (`Offers`). Nodes stand in document order, so the bound on the depth
leaves nothing out (`mem_offered_iff`) and no node is collected twice (`pairwise_offered`). A
control offers a value twice just if two nodes that it offers have that value
(`nodup_values_options_iff`).
-/
namespace Labeling

/-- Whether a node has the tag of an option. -/
def ConfigNode.IsOption (catalogue : Catalogue) (node : ConfigNode) : Prop :=
  ((catalogue.get? node.type).map (·.kind)) = some .child

instance (catalogue : Catalogue) (node : ConfigNode) : Decidable (node.IsOption catalogue) :=
  inferInstanceAs (Decidable (_ = _))

namespace ConfigTree

variable {tree : ConfigTree} {catalogue : Catalogue} {id : Nat} {node : ConfigNode}

/-- Which nodes a node offers as options: those inside it that have the tag of an option, and those
that the others inside it offer. -/
inductive Offers (tree : ConfigTree) (catalogue : Catalogue) : Nat → ConfigNode → Prop
  /-- An option directly inside is offered. -/
  | option {id : Nat} {node : ConfigNode} (inside : node ∈ tree.children id)
    (isOption : node.IsOption catalogue) : Offers tree catalogue id node
  /-- What layout inside offers is offered. -/
  | within {id : Nat} {layout node : ConfigNode} (inside : layout ∈ tree.children id)
    (noOption : ¬ layout.IsOption catalogue) (offers : Offers tree catalogue layout.id node) :
    Offers tree catalogue id node

/-- The nodes that a node offers, collected as deep as bounded. -/
def offered (tree : ConfigTree) (catalogue : Catalogue) : Nat → Nat → List ConfigNode
  | 0, _ => []
  | fuel + 1, id =>
    (tree.children id).flatMap fun child =>
      if child.IsOption catalogue then [child] else offered tree catalogue fuel child.id

/-- A node is directly inside another one that lists it. -/
theorem mem_children_iff (order : tree.PreOrder) :
    node ∈ tree.children id ↔ tree.Lists id node.id ∧ tree.get? node.id = some node := by
  rw [children]
  cases found : tree.get? id with
  | none => simp [Lists, found]
  | some around =>
    rw [Option.map_some, Option.getD_some, List.mem_filterMap]
    constructor
    · rintro ⟨place, listed, there⟩
      have same := order.numbered place node there
      subst same
      exact ⟨⟨around, found, listed⟩, there⟩
    · rintro ⟨⟨other, again, listed⟩, there⟩
      obtain rfl := Option.some.inj (found.symm.trans again)
      exact ⟨node.id, listed, there⟩

/-- What a node lists stands behind it. -/
theorem lt_of_lists (order : tree.PreOrder) {outer : Nat} (lists : tree.Lists outer id) :
    outer < id := by
  obtain ⟨node, found, parent⟩ := order.listed outer id lists
  exact (order.inside id node outer found parent).1

/-- What is inside a node does not stand in front of it. -/
theorem le_of_isInside (order : tree.PreOrder) {inner : Nat} (inside : tree.IsInside id inner) :
    id ≤ inner := by
  induction inside with
  | refl => exact Nat.le_refl _
  | tail _ lists hypothesis =>
    exact Nat.le_trans hypothesis (Nat.le_of_lt (lt_of_lists order lists))

/-- The nodes directly inside a node are in document order. -/
theorem pairwise_children (order : tree.PreOrder) (id : Nat) :
    (tree.children id).Pairwise fun first second => first.id < second.id := by
  rw [children]
  cases found : tree.get? id with
  | none => exact List.Pairwise.nil
  | some around =>
    rw [Option.map_some, Option.getD_some, List.pairwise_filterMap]
    refine (order.increasing id around found).imp fun less first there second here => ?_
    rw [order.numbered _ first there, order.numbered _ second here]
    exact less

/-- Nodes in document order are different. -/
theorem nodup_of_increasing {nodes : List ConfigNode}
    (increasing : nodes.Pairwise fun first second => first.id < second.id) : nodes.Nodup :=
  increasing.imp fun less same => Nat.ne_of_lt less (congrArg ConfigNode.id same)

/-- What is inside the first of two siblings stands before the second one. -/
theorem lt_of_isInside_sibling (order : tree.PreOrder) {first second inner : Nat}
    (firstListed : tree.Lists id first) (secondListed : tree.Lists id second)
    (less : first < second) (inside : tree.IsInside first inner) : inner < second := by
  obtain ⟨node, found, parent⟩ := order.listed id second secondListed
  have placed : first < tree.nodes.length := by
    have bound := (List.getElem?_eq_some_iff.mp found).1
    omega
  obtain ⟨count, -, -, run, -⟩ := order.descendants first placed
  by_contra notLess
  have bound := ((run inner).mp inside).2
  -- Else the second sibling is inside the first one, and so is the node around both.
  have within : tree.IsInside first second := (run second).mpr ⟨by omega, by omega⟩
  rcases Relation.ReflTransGen.cases_tail within with same | ⟨outer, outerInside, lists⟩
  · omega
  · obtain ⟨other, there, otherParent⟩ := order.listed outer second lists
    obtain rfl := Option.some.inj (found.symm.trans there)
    obtain rfl := Option.some.inj (parent.symm.trans otherParent)
    have above := ((run id).mp outerInside).1
    have below := lt_of_lists order firstListed
    omega

/-- What a node offers is inside it. -/
theorem isInside_of_offers (order : tree.PreOrder) (offers : tree.Offers catalogue id node) :
    tree.IsInside id node.id := by
  induction offers with
  | option inside isOption =>
    exact Relation.ReflTransGen.single ((mem_children_iff order).mp inside).1
  | within inside noOption offers hypothesis =>
    exact Relation.ReflTransGen.head ((mem_children_iff order).mp inside).1 hypothesis

/-- What is collected is offered. -/
theorem offers_of_mem_offered {fuel : Nat} (member : node ∈ tree.offered catalogue fuel id) :
    tree.Offers catalogue id node := by
  induction fuel generalizing id with
  | zero => contradiction
  | succ fuel hypothesis =>
    obtain ⟨child, inside, listed⟩ := List.mem_flatMap.mp member
    split at listed
    · rename_i isOption
      rw [List.mem_singleton] at listed
      exact .option (listed ▸ inside) (listed ▸ isOption)
    · rename_i noOption
      exact .within inside noOption (hypothesis listed)

/-- What is offered is collected if the bound reaches the end of the tree. -/
theorem mem_offered_iff (order : tree.PreOrder) {fuel : Nat}
    (enough : tree.nodes.length ≤ fuel + id) :
    node ∈ tree.offered catalogue fuel id ↔ tree.Offers catalogue id node := by
  refine ⟨offers_of_mem_offered, fun offers => ?_⟩
  induction fuel generalizing id with
  | zero =>
    obtain ⟨child, inside⟩ : ∃ child, child ∈ tree.children id := by
      cases offers with
      | option inside _ => exact ⟨_, inside⟩
      | within inside _ _ => exact ⟨_, inside⟩
    obtain ⟨around, found, -⟩ := ((mem_children_iff order).mp inside).1
    have bound := (List.getElem?_eq_some_iff.mp found).1
    omega
  | succ fuel hypothesis =>
    rw [offered, List.mem_flatMap]
    cases offers with
    | option inside isOption => exact ⟨node, inside, by rw [if_pos isOption, List.mem_singleton]⟩
    | @within _ layout _ inside noOption offers =>
      refine ⟨layout, inside, ?_⟩
      have below := lt_of_lists order ((mem_children_iff order).mp inside).1
      rw [if_neg noOption]
      exact hypothesis (by omega) offers

/-- The nodes that a node offers are in document order. -/
theorem pairwise_offered (order : tree.PreOrder) (fuel id : Nat) :
    (tree.offered catalogue fuel id).Pairwise fun first second => first.id < second.id := by
  induction fuel generalizing id with
  | zero => exact List.Pairwise.nil
  | succ fuel hypothesis =>
    have isInside {child node : ConfigNode}
        (listed : node ∈ if child.IsOption catalogue then [child]
          else tree.offered catalogue fuel child.id) : tree.IsInside child.id node.id := by
      split at listed
      · rw [List.mem_singleton.mp listed]
        exact Relation.ReflTransGen.refl
      · exact isInside_of_offers order (offers_of_mem_offered listed)
    rw [offered, List.pairwise_flatMap]
    refine ⟨fun child _ => ?_, ?_⟩
    · split
      · exact List.pairwise_singleton _ _
      · exact hypothesis child.id
    · refine (pairwise_children order id).imp_of_mem ?_
      intro first second firstMember secondMember less inner innerListed other otherListed
      have before := lt_of_isInside_sibling order ((mem_children_iff order).mp firstMember).1
        ((mem_children_iff order).mp secondMember).1 less (isInside innerListed)
      exact Nat.lt_of_lt_of_le before (le_of_isInside order (isInside otherListed))

/-- Two different nodes have one value, each as it gives values. -/
def ShareValue (value? : ConfigNode → Option String) (first second : ConfigNode) : Prop :=
  first ≠ second ∧ ∃ value, value? first = some value ∧ value? second = some value

instance (value? : ConfigNode → Option String) (first second : ConfigNode) :
    Decidable (ShareValue value? first second) :=
  decidable_of_iff (first ≠ second ∧ ∃ value ∈ value? first, value? second = some value) Iff.rfl

/-- The values of different nodes are different if no two nodes share one. -/
theorem nodup_filterMap_iff {nodes : List ConfigNode} (nodup : nodes.Nodup)
    (value? : ConfigNode → Option String) :
    (nodes.filterMap value?).Nodup ↔
      ¬ ∃ first ∈ nodes, ∃ second ∈ nodes, ShareValue value? first second := by
  rw [List.Nodup, List.pairwise_filterMap]
  constructor
  · rintro apart ⟨first, firstMember, second, secondMember, different, value, one, other⟩
    have symmetric : Std.Symm fun first second : ConfigNode =>
        ∀ value, value? first = some value → ∀ other, value? second = some other → value ≠ other :=
      ⟨fun _ _ apart value one other two => (apart other two value one).symm⟩
    exact apart.forall firstMember secondMember different value one value other rfl
  · intro none
    refine nodup.imp_of_mem fun firstMember secondMember different value one other two same => ?_
    exact none ⟨_, firstMember, _, secondMember, different, value, one, same ▸ two⟩

/-- Whether a node offers two options of one value. -/
def OffersTwice (tree : ConfigTree) (catalogue : Catalogue) (id : Nat) : Prop :=
  ∃ first second, tree.Offers catalogue id first ∧ tree.Offers catalogue id second ∧
    ShareValue ConfigNode.valueText? first second

end ConfigTree

namespace ElementTree

variable {config : ConfigTree}

/-- The values of the options of a node are those of the nodes that it offers. -/
theorem values_options (config : ConfigTree) (catalogue : Catalogue) (fuel id : Nat) :
    (options config catalogue fuel id).map LabelOption.value =
      (config.offered catalogue fuel id).filterMap ConfigNode.valueText? := by
  induction fuel generalizing id with
  | zero => rfl
  | succ fuel hypothesis =>
    rw [options, ConfigTree.offered, List.map_flatMap, List.filterMap_flatMap]
    refine List.flatMap_congr fun child _ => ?_
    by_cases isOption : child.IsOption catalogue
    · have tag : ((catalogue.get? child.type).map (·.kind)) = some .child := isOption
      dsimp only
      rw [if_pos isOption, if_pos tag]
      cases found : child.valueText? with
      | none => simp [found]
      | some value => simp [found, LabelOption.value]
    · have tag : ¬ ((catalogue.get? child.type).map (·.kind)) = some .child := isOption
      dsimp only
      rw [if_neg isOption, if_neg tag, hypothesis child.id]

/-- The options of a node have different values just if it offers none twice. -/
theorem nodup_values_options_iff (order : config.PreOrder) (catalogue : Catalogue) (id : Nat) :
    ((options config catalogue config.nodes.length id).map LabelOption.value).Nodup ↔
      ¬ config.OffersTwice catalogue id := by
  have enough : config.nodes.length ≤ config.nodes.length + id := Nat.le_add_right _ _
  have nodup : (config.offered catalogue config.nodes.length id).Nodup :=
    ConfigTree.nodup_of_increasing (ConfigTree.pairwise_offered order _ id)
  rw [values_options, ConfigTree.nodup_filterMap_iff nodup, ConfigTree.OffersTwice]
  simp only [ConfigTree.mem_offered_iff order enough]
  refine not_congr ?_
  constructor
  · rintro ⟨first, firstOffered, second, secondOffered, shared⟩
    exact ⟨first, second, firstOffered, secondOffered, shared⟩
  · rintro ⟨first, second, firstOffered, secondOffered, shared⟩
    exact ⟨first, firstOffered, second, secondOffered, shared⟩

end ElementTree
end Labeling
