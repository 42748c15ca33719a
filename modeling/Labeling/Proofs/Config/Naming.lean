import Labeling.Config.Compile
import Labeling.Proofs.Entries

/-!
# What completing the names changes

Completing the names goes through the nodes once and carries along which names are taken. No node
comes or goes: at each place stands the node that was there, given its name and then its target
(`getElem?_completed`). All that it had it still has, and only these two attributes are new
(`Completes`).
-/
namespace Labeling

/-- A node and the same node with its names completed. -/
structure ConfigNode.Completes (node done : ConfigNode) : Prop where
  /-- It keeps its number. -/
  id : done.id = node.id
  /-- It keeps its tag. -/
  tagName : done.tagName = node.tagName
  /-- It keeps its type. -/
  type : done.type = node.type
  /-- It stays inside the same node. -/
  parent : done.parent = node.parent
  /-- It keeps the nodes inside. -/
  children : done.children = node.children
  /-- It keeps its text. -/
  value : done.value = node.value
  /-- It keeps the number of its copy. -/
  repeatIndex : done.repeatIndex = node.repeatIndex
  /-- Declared attributes stay as they are. -/
  declared : ∀ key value, node.attributes.get? key = some value →
    done.attributes.get? key = some value
  /-- Only a name and a target are made up. -/
  others : ∀ key, key ≠ "name" → key ≠ "toname" →
    done.attributes.get? key = node.attributes.get? key
  /-- A made-up name is one that was not declared. -/
  nameSynthesized : done.nameSynthesized = (node.nameSynthesized || (node.attr? "name").isNone)
  /-- A target that is not made up was declared. -/
  toNameDeclared : done.toNameSynthesized = false →
    done.attributes.get? "toname" = node.attributes.get? "toname"

/-- A node has an attribute of its own: not a name or a target that was made up for it. -/
structure ConfigNode.Declares (node : ConfigNode) (key value : String) : Prop where
  /-- It has the attribute. -/
  found : node.attributes.get? key = some value
  /-- A name is its own. -/
  name : key = "name" → node.nameSynthesized = false
  /-- A target is its own. -/
  toName : key = "toname" → node.toNameSynthesized = false

namespace Naming

variable {catalogue : Catalogue}

/-- The attribute for the name is in lower case. -/
theorem lowered_name : Text.lowered "name" = "name" := by decide

/-- The attribute for the target is in lower case. -/
theorem lowered_toname : Text.lowered "toname" = "toname" := by decide

/-- An attribute of its own a completed node had before. -/
theorem get?_of_declares {node done : ConfigNode} (completes : node.Completes done)
    {key value : String} (declares : done.Declares key value) :
    node.attributes.get? key = some value := by
  by_cases name : key = "name"
  · have own := completes.nameSynthesized.symm.trans (declares.name name)
    rw [Bool.or_eq_false_iff, Option.isNone_eq_false_iff, ConfigNode.attr?, lowered_name] at own
    obtain ⟨former, found⟩ := Option.isSome_iff_exists.mp own.2
    subst name
    rw [found, ← completes.declared _ former found, declares.found]
  · by_cases target : key = "toname"
    · subst target
      rw [← completes.toNameDeclared (declares.toName rfl), declares.found]
    · rw [← completes.others key name target, declares.found]

/-- Giving a node a name completes it. -/
theorem completes_withName (taken : List String) (node : ConfigNode) :
    node.Completes (withName taken node) := by
  unfold withName
  cases found : node.attr? "name" with
  | some name =>
    refine ⟨rfl, rfl, rfl, rfl, rfl, rfl, rfl, fun _ _ same => same, fun _ _ _ => rfl, ?_,
      fun _ => rfl⟩
    simp [found]
  | none =>
    have absent : node.attributes.get? "name" = none := by
      rwa [ConfigNode.attr?, lowered_name] at found
    refine ⟨rfl, rfl, rfl, rfl, rfl, rfl, rfl, fun key value same => ?_, fun key other _ => ?_, ?_,
      fun _ => Entries.get?_put_of_ne _ (by decide) _⟩
    · have other : key ≠ "name" := by
        intro named
        rw [named, absent] at same
        contradiction
      rw [Entries.get?_put_of_ne _ other, same]
    · rw [Entries.get?_put_of_ne _ other]
    · simp [found]

/-- Giving a node a target changes the target alone. -/
theorem withTarget_eq (catalogue : Catalogue) (node : ConfigNode) :
    withTarget catalogue node = node ∨
      node.attr? "toname" = none ∧ withTarget catalogue node =
        { node with
          attributes := node.attributes.put "toname" node.name, toNameSynthesized := true } := by
  by_cases needed : ((catalogue.get? node.type).map (·.binds)).getD false &&
      (node.attr? "toname").isNone
  · have absent : node.attr? "toname" = none := by
      rw [Bool.and_eq_true, Option.isNone_iff_eq_none] at needed
      exact needed.2
    refine Or.inr ⟨absent, ?_⟩
    unfold withTarget
    simp only [needed, if_true]
  · unfold withTarget
    simp only [needed, if_false, true_or, Bool.false_eq_true]

/-- Giving a completed node a target completes it still. -/
theorem completes_withTarget {node named : ConfigNode} (completes : node.Completes named) :
    node.Completes (withTarget catalogue named) := by
  rcases withTarget_eq catalogue named with same | ⟨found, targeted⟩
  · rw [same]
    exact completes
  · have absent : named.attributes.get? "toname" = none := by
      rwa [ConfigNode.attr?, lowered_toname] at found
    rw [targeted]
    refine { completes with
      declared := fun key value same => ?_, others := fun key name other => ?_
      toNameDeclared := fun given => absurd given (by simp) }
    · have kept := completes.declared key value same
      have other : key ≠ "toname" := by
        intro target
        rw [target, absent] at kept
        contradiction
      rw [Entries.get?_put_of_ne _ other, kept]
    · rw [Entries.get?_put_of_ne _ other, completes.others key name other]

/-- A node of a tag that binds has a target once it is given one. -/
theorem isSome_toname_withTarget {node : ConfigNode} {spec : TagSpec}
    (known : catalogue.get? node.type = some spec) (binds : spec.binds = true) :
    ((withTarget catalogue node).attr? "toname").isSome = true := by
  unfold withTarget
  cases found : node.attr? "toname" with
  | some target => simp [found]
  | none =>
    simp only [known, Option.map_some, Option.getD_some, binds, Option.isNone_none,
      Bool.and_self, if_true]
    rw [ConfigNode.attr?, lowered_toname, Entries.get?_put_self, Option.isSome_some]

/-- At each place stands the node that was there, with a name and then a target. -/
theorem getElem?_complete (catalogue : Catalogue) (taken : List String) (nodes : List ConfigNode)
    (place : Nat) :
    ∃ taken', (complete catalogue taken nodes)[place]? =
      nodes[place]?.map fun node => withTarget catalogue (withName taken' node) := by
  induction nodes generalizing taken place with
  | nil => exact ⟨taken, by simp [complete]⟩
  | cons node rest hypothesis =>
    rw [complete]
    cases place with
    | zero => exact ⟨taken, by simp⟩
    | succ place =>
      simp only [List.getElem?_cons_succ]
      exact hypothesis _ place

/-- No node comes or goes as names are completed. -/
@[simp] theorem length_completed (nodes : List ConfigNode) :
    (completed catalogue nodes).length = nodes.length := by
  have same (taken : List String) : (complete catalogue taken nodes).length = nodes.length := by
    induction nodes generalizing taken with
    | nil => rfl
    | cons node rest hypothesis => simp [complete, hypothesis]
  exact same _

/-- At each place stands the node that was there, completed. -/
theorem getElem?_completed {nodes : List ConfigNode} {place : Nat} {node : ConfigNode}
    (found : nodes[place]? = some node) :
    ∃ done, (completed catalogue nodes)[place]? = some done ∧ node.Completes done := by
  obtain ⟨taken, same⟩ := getElem?_complete catalogue (declared nodes) nodes place
  have named := completes_withName taken node
  exact ⟨_, by rw [completed, same, found, Option.map_some], completes_withTarget named⟩

end Naming
end Labeling
