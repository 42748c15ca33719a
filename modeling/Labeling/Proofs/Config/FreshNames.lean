import Labeling.Proofs.Config.Naming
import Labeling.Proofs.Text.Numerals
import Mathlib.Data.List.Nodup
import Mathlib.Data.List.Perm.Subperm

/-!
# Made-up names

A name is made up by a search through its candidates. It needs no bound: the candidates are all
different, so only as many of them as there are names can be taken, and the search ends (`Finds`).
What one node gets is taken for the nodes behind it, and the names that any node declares are taken
from the beginning. So a made-up name is told apart from the name of every other node, wherever it
stands (`completed_namesApart`).
-/
namespace Labeling.Naming

variable {catalogue : Catalogue} {taken : List String} {base : String}

/-! ## The search -/

/-- The search for a name that is not taken, from a candidate on, ends with a name. -/
inductive Finds (taken : List String) (base : String) : Nat → String → Prop
  /-- A candidate that is not taken ends it. -/
  | free {suffix : Nat} (free : candidate base suffix ∉ taken) :
    Finds taken base suffix (candidate base suffix)
  /-- Behind one that is taken it goes on with the next one. -/
  | next {suffix : Nat} {name : String} (inUse : candidate base suffix ∈ taken)
    (finds : Finds taken base (suffix + 1) name) : Finds taken base suffix name

/-- What the search ends with is not taken. -/
theorem Finds.not_mem {suffix : Nat} {name : String} (finds : Finds taken base suffix name) :
    name ∉ taken := by
  induction finds with
  | free free => exact free
  | next _ _ hypothesis => exact hypothesis

/-- The candidates of a name are different. -/
theorem candidate_injective (base : String) : Function.Injective (candidate base) := by
  have longer (suffix : Nat) : base ≠ base ++ "_" ++ Text.decimal suffix := by
    intro same
    have lengths := congrArg String.length same
    rw [String.length_append, String.length_append] at lengths
    have mark : "_".length = 1 := rfl
    omega
  intro first second same
  cases first with
  | zero =>
    cases second with
    | zero => rfl
    | succ second => exact absurd same (longer (second + 1))
  | succ first =>
    cases second with
    | zero => exact absurd same.symm (longer (first + 1))
    | succ second => exact Text.decimal_injective ((String.append_right_inj (base ++ "_")).mp same)

/-- One of as many candidates as there are taken names, and one more, is free. -/
theorem exists_candidate_not_mem (taken : List String) (base : String) :
    ∃ suffix ≤ taken.length, candidate base suffix ∉ taken := by
  by_contra all
  push Not at all
  have tried : ((List.range (taken.length + 1)).map (candidate base)).Nodup :=
    List.nodup_range.map (candidate_injective base)
  have inUse : (List.range (taken.length + 1)).map (candidate base) ⊆ taken := by
    intro name member
    obtain ⟨suffix, small, rfl⟩ := List.mem_map.mp member
    exact all suffix (Nat.le_of_lt_succ (List.mem_range.mp small))
  have fewer := (List.subperm_of_subset tried inUse).length_le
  rw [List.length_map, List.length_range] at fewer
  exact Nat.not_succ_le_self _ fewer

/-- A bounded search ends as the search does, if it reaches a free candidate. -/
theorem finds_freeFrom {fuel suffix free : Nat} (low : suffix ≤ free) (high : free ≤ suffix + fuel)
    (isFree : candidate base free ∉ taken) :
    Finds taken base suffix (freeFrom taken base fuel suffix) := by
  induction fuel generalizing suffix with
  | zero =>
    have same : free = suffix := by omega
    subst same
    exact Finds.free isFree
  | succ fuel hypothesis =>
    rw [freeFrom]
    split
    · rename_i inUse
      have member := List.contains_iff_mem.mp inUse
      have other : suffix ≠ free := fun same => isFree (same ▸ member)
      exact Finds.next member (hypothesis (by omega) (by omega))
    · rename_i notInUse
      exact Finds.free fun member => notInUse (List.contains_iff_mem.mpr member)

/-- Whatever is taken, the search ends with the free name. -/
theorem finds_freeName (taken : List String) (base : String) :
    Finds taken base 0 (freeName taken base) := by
  obtain ⟨suffix, small, isFree⟩ := exists_candidate_not_mem taken base
  exact finds_freeFrom (Nat.zero_le suffix) (by omega) isFree

/-- Declared names that look like made-up ones are passed over. -/
example : freeName ["view_0_1", "text", "view_0"] "view_0" = "view_0_2" := by decide

/-! ## The pass over the nodes -/

/-- A target does not change the name. -/
theorem attr?_name_withTarget (node : ConfigNode) :
    (withTarget catalogue node).attr? "name" = node.attr? "name" := by
  rcases withTarget_eq catalogue node with same | ⟨-, targeted⟩
  · rw [same]
  · rw [targeted, ConfigNode.attr?, ConfigNode.attr?, lowered_name]
    exact Entries.get?_put_of_ne _ (by decide) _

/-- A target does not mark a name. -/
theorem nameSynthesized_withTarget (node : ConfigNode) :
    (withTarget catalogue node).nameSynthesized = node.nameSynthesized := by
  rcases withTarget_eq catalogue node with same | ⟨-, targeted⟩
  · rw [same]
  · rw [targeted]

/-- A node that declares no name gets the free one. -/
theorem attr?_name_withName {node : ConfigNode} (bare : node.attr? "name" = none) :
    (withName taken node).attr? "name" =
      some (freeName taken (node.type ++ "_" ++ Text.decimal node.id)) := by
  rw [withName, bare, ConfigNode.attr?, lowered_name]
  exact Entries.get?_put_self _ _ _

/-- A node that declares no name is marked. -/
theorem nameSynthesized_withName {node : ConfigNode} (bare : node.attr? "name" = none) :
    (withName taken node).nameSynthesized = true := by
  rw [withName, bare]

/-- The names that are taken behind a node. -/
def takenBehind (taken : List String) (node : ConfigNode) : List String :=
  let named := withName taken node
  if named.nameSynthesized then named.name :: taken else taken

/-- What is taken stays taken. -/
theorem subset_takenBehind (taken : List String) (node : ConfigNode) :
    taken ⊆ takenBehind taken node := by
  rw [takenBehind]
  split
  · exact List.subset_cons_self _ taken
  · exact List.Subset.refl taken

/-- A name made up for a node is taken behind it. -/
theorem mem_takenBehind {node : ConfigNode} {name : String} (bare : node.attr? "name" = none)
    (named : (withName taken node).attr? "name" = some name) : name ∈ takenBehind taken node := by
  rw [takenBehind, if_pos (nameSynthesized_withName bare), ConfigNode.name, named]
  exact List.mem_cons_self

/-- Where the pass comes to a node, every name is taken that was at the beginning, and every name
made up before. -/
theorem exists_taken (catalogue : Catalogue) (taken : List String) {nodes : List ConfigNode}
    {place : Nat} {node : ConfigNode} (found : nodes[place]? = some node) :
    ∃ known, taken ⊆ known ∧
      (complete catalogue taken nodes)[place]? = some (withTarget catalogue (withName known node)) ∧
      ∀ earlier < place, ∀ former made name, nodes[earlier]? = some former →
        former.attr? "name" = none → (complete catalogue taken nodes)[earlier]? = some made →
          made.attr? "name" = some name → name ∈ known := by
  induction nodes generalizing taken place with
  | nil => simp at found
  | cons head rest hypothesis =>
    have step : complete catalogue taken (head :: rest) =
        withTarget catalogue (withName taken head) ::
          complete catalogue (takenBehind taken head) rest := rfl
    rw [step]
    cases place with
    | zero =>
      rw [← Option.some.inj found]
      exact ⟨taken, List.Subset.refl taken, rfl, fun earlier before => by omega⟩
    | succ place =>
      obtain ⟨known, grown, there, former⟩ := hypothesis (takenBehind taken head) found
      refine ⟨known, List.Subset.trans (subset_takenBehind taken head) grown, there, ?_⟩
      intro earlier before node made name standing bare done named
      cases earlier with
      | zero =>
        obtain rfl := Option.some.inj standing
        obtain rfl := Option.some.inj done
        rw [attr?_name_withTarget] at named
        exact grown (mem_takenBehind bare named)
      | succ earlier =>
        exact former earlier (Nat.lt_of_succ_lt_succ before) node made name standing bare done named

/-- A name that one of some nodes declares is declared among them. -/
theorem mem_declared {nodes : List ConfigNode} {place : Nat} {node : ConfigNode} {name : String}
    (found : nodes[place]? = some node) (declares : node.attr? "name" = some name) :
    name ∈ declared nodes :=
  List.mem_filterMap.mpr ⟨node, List.mem_of_getElem? found, declares⟩

/-- A completed node was there before. -/
theorem exists_of_getElem?_completed {nodes : List ConfigNode} {place : Nat} {done : ConfigNode}
    (there : (completed catalogue nodes)[place]? = some done) :
    ∃ node, nodes[place]? = some node ∧ node.Completes done := by
  have small := (List.getElem?_eq_some_iff.mp there).1
  rw [length_completed] at small
  have found := List.getElem?_eq_getElem small
  obtain ⟨other, same, completes⟩ : ∃ other, (completed catalogue nodes)[place]? = some other ∧
      nodes[place].Completes other := getElem?_completed found
  rw [there] at same
  exact ⟨nodes[place], found, Option.some.inj same ▸ completes⟩

/-- Of two nodes that declare no name the later one gets another name. -/
theorem name_ne_of_lt {nodes : List ConfigNode} {place later : Nat} {node other : ConfigNode}
    {made otherMade : ConfigNode} {name : String} (before : place < later)
    (found : nodes[place]? = some node) (bare : node.attr? "name" = none)
    (otherFound : nodes[later]? = some other) (otherBare : other.attr? "name" = none)
    (there : (completed catalogue nodes)[place]? = some made)
    (otherThere : (completed catalogue nodes)[later]? = some otherMade)
    (named : made.attr? "name" = some name) : otherMade.attr? "name" ≠ some name := by
  obtain ⟨known, -, done, former⟩ := exists_taken catalogue (declared nodes) otherFound
  have inUse : name ∈ known := former place before node made name found bare there named
  have same : otherMade = withTarget catalogue (withName known other) :=
    Option.some.inj (otherThere.symm.trans done)
  rw [same, attr?_name_withTarget, attr?_name_withName otherBare]
  intro clash
  exact (finds_freeName known _).not_mem (Option.some.inj clash ▸ inUse)

/-- The names of some completed nodes are told apart as far as they were made up. -/
structure NamesApart (nodes done : List ConfigNode) : Prop where
  /-- No node comes or goes. -/
  length_eq : done.length = nodes.length
  /-- A declared name stays, and is not marked as made up. -/
  declared : ∀ (place : Nat) (node named : ConfigNode) (name : String),
    nodes[place]? = some node → done[place]? = some named → node.attr? "name" = some name →
      named.attr? "name" = some name ∧ named.nameSynthesized = node.nameSynthesized
  /-- Where none was declared one is made up that no node declares and no other node has. -/
  madeUp : ∀ (place : Nat) (node named : ConfigNode),
    nodes[place]? = some node → done[place]? = some named → node.attr? "name" = none →
      named.nameSynthesized = true ∧
        ∃ name, named.attr? "name" = some name ∧ name ∉ Naming.declared nodes ∧
          ∀ (other : Nat) (otherNamed : ConfigNode), other ≠ place →
            done[other]? = some otherNamed → otherNamed.attr? "name" ≠ some name

/-- Whatever names are taken, the search for a free one ends. Completing the names of some nodes
with it keeps every declared name, and makes up names that differ from every declared one and from
each other. -/
theorem completed_namesApart (catalogue : Catalogue) (nodes : List ConfigNode) :
    (∀ taken base, Finds taken base 0 (freeName taken base)) ∧
      NamesApart nodes (completed catalogue nodes) := by
  have keeps {place : Nat} {node named : ConfigNode} {name : String}
      (found : nodes[place]? = some node) (there : (completed catalogue nodes)[place]? = some named)
      (declares : node.attr? "name" = some name) :
      named.attr? "name" = some name ∧ named.nameSynthesized = node.nameSynthesized := by
    obtain ⟨done, same, completes⟩ : ∃ done, (completed catalogue nodes)[place]? = some done ∧
        node.Completes done := getElem?_completed found
    obtain rfl := Option.some.inj (there.symm.trans same)
    refine ⟨completes.declared _ name declares, ?_⟩
    rw [completes.nameSynthesized, declares, Option.isNone_some, Bool.or_false]
  refine ⟨finds_freeName, length_completed nodes, fun _ _ _ _ => keeps, ?_⟩
  intro place node named found there bare
  obtain ⟨known, grown, done, -⟩ := exists_taken catalogue (declared nodes) found
  obtain rfl := Option.some.inj (there.symm.trans done)
  have made : (withTarget catalogue (withName known node)).attr? "name" = _ :=
    (attr?_name_withTarget _).trans (attr?_name_withName bare)
  have new : freeName known (node.type ++ "_" ++ Text.decimal node.id) ∉ declared nodes :=
    fun member => (finds_freeName known _).not_mem (grown member)
  refine ⟨?_, _, made, new, ?_⟩
  · rw [nameSynthesized_withTarget, nameSynthesized_withName bare]
  · intro other otherNamed apart otherThere clash
    obtain ⟨otherNode, otherFound, -⟩ := exists_of_getElem?_completed otherThere
    cases declares : otherNode.attr? "name" with
    | some name =>
      have same := (keeps otherFound otherThere declares).1
      rw [clash] at same
      exact new (Option.some.inj same ▸ mem_declared otherFound declares)
    | none =>
      rcases Nat.lt_or_gt_of_ne apart with before | behind
      · exact name_ne_of_lt before otherFound declares found bare otherThere there clash made
      · exact name_ne_of_lt behind found bare otherFound declares there otherThere made clash

end Labeling.Naming
