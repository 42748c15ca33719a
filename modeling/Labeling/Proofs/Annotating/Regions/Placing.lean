import Labeling.Annotating.Regions
import Labeling.Proofs.Areas
import Mathlib.Data.List.Nodup
import Mathlib.Logic.Relation

/-!
# Placing areas inside one another

The forest of areas is grown by a search: an area is placed, then what lies directly inside it, and
then the areas behind it; what has been placed is left out. The search is bounded, but the bound is
never reached (`places_grow`): each area is placed once, and at most all areas are looked through
for each. Without the bound it is the relation `Places`, and what the search does is proved of that:
nothing is placed twice (`Places.nodup`), what is placed inside an area names it (`Places.inside`),
and whatever lies inside a placed area is placed too (`Places.mem_iff`).
-/
namespace Labeling

namespace Areas

/-- Areas as a finite map: in the order of their ids, each stored under its own. -/
structure ById (areas : Areas) : Prop where
  /-- The areas are in the order of their ids. -/
  sorted : Entries.Sorted areas
  /-- An area is stored under its id. -/
  keys : ∀ entry ∈ areas, entry.2.id = entry.1

variable {tree : ElementTree} {owner : String} {bound : Nat} {areas : Areas}

/-- Well-formed areas, as every run leaves them, are stored by their ids. -/
theorem WellFormed.byId (wellFormed : areas.WellFormed tree owner bound) : areas.ById :=
  ⟨wellFormed.sorted, wellFormed.keys⟩

namespace ById

/-- What is stored under an id is the area of that id. -/
theorem get?_eq_some_iff (byId : areas.ById) {id : AreaId} {area : Area} :
    areas.get? id = some area ↔ area ∈ areas.values ∧ area.id = id := by
  constructor
  · intro found
    have inside := Entries.mem_of_get? found
    exact ⟨Entries.mem_values.mpr ⟨id, inside⟩, byId.keys _ inside⟩
  · rintro ⟨member, same⟩
    obtain ⟨key, inside⟩ := Entries.mem_values.mp member
    have named : area.id = key := byId.keys _ inside
    rw [← same, named]
    exact Entries.get?_of_mem byId.sorted inside

/-- An area is stored under its id. -/
theorem get?_of_mem (byId : areas.ById) {area : Area} (member : area ∈ areas.values) :
    areas.get? area.id = some area :=
  byId.get?_eq_some_iff.mpr ⟨member, rfl⟩

/-- Areas of one id are the same. -/
theorem eq_of_id_eq (byId : areas.ById) {first second : Area} (firstMember : first ∈ areas.values)
    (secondMember : second ∈ areas.values) (same : first.id = second.id) : first = second := by
  have found := byId.get?_of_mem firstMember
  rw [same, byId.get?_of_mem secondMember] at found
  exact (Option.some.inj found).symm

/-- No two areas have one id. -/
theorem nodup_ids (byId : areas.ById) : (areas.values.map Area.id).Nodup := by
  have keys : areas.values.map Area.id = Entries.keys areas := by
    rw [Entries.values, List.map_map, Entries.keys]
    exact List.map_congr_left byId.keys
  rw [keys]
  exact Entries.nodup_keys_of_sorted byId.sorted

end ById

/-- Whether the one area names the other as the one around it. -/
def LiesIn (areas : Areas) (inner outer : AreaId) : Prop :=
  ∃ area, areas.get? inner = some area ∧ RegionView.properParent? areas area = some outer

/-- What is around an area is an area. -/
theorem has_of_properParent? {area : Area} {outer : AreaId}
    (around : RegionView.properParent? areas area = some outer) : areas.has outer = true := by
  rw [RegionView.properParent?, Option.filter_eq_some_iff] at around
  have named := around.1
  unfold RegionView.parentOf? at named
  split at named
  · contradiction
  · split at named
    · rename_i found
      rw [Option.filter_eq_some_iff] at found
      exact Option.some.inj named ▸ found.2
    · dsimp only at named
      split at named
      · rename_i present
        exact Option.some.inj named ▸ present
      · contradiction

end Areas

namespace Region

mutual

/-- A region and the regions inside it, at any depth. -/
def within : Region → List Region
  | .mk area children => .mk area children :: withinAll children

/-- Some regions and the regions inside them, at any depth. -/
def withinAll : List Region → List Region
  | [] => []
  | region :: regions => within region ++ withinAll regions

end

mutual

/-- The regions within a region are itself and the children of regions within it. -/
theorem within_perm (region : Region) :
    region.within.Perm (region :: region.within.flatMap Region.children) := by
  match region with
  | .mk area inner =>
    rw [within]
    refine List.Perm.cons _ ?_
    rw [List.flatMap_cons, Region.children]
    exact withinAll_perm inner

/-- The regions within some regions are these and the children of regions within them. -/
theorem withinAll_perm (regions : List Region) :
    (withinAll regions).Perm (regions ++ (withinAll regions).flatMap Region.children) := by
  match regions with
  | [] => exact List.Perm.refl _
  | region :: rest =>
    rw [withinAll, List.flatMap_append, List.cons_append, ← List.append_assoc]
    refine ((within_perm region).append (withinAll_perm rest)).trans ?_
    rw [List.cons_append, ← List.append_assoc]
    exact List.Perm.cons _ (List.perm_append_comm.append_right _)

end

/-- A region within some regions is one of them or the child of one within them. -/
theorem mem_withinAll_iff {region : Region} {regions : List Region} :
    region ∈ withinAll regions ↔
      region ∈ regions ∨ ∃ around ∈ withinAll regions, region ∈ around.children := by
  rw [(withinAll_perm regions).mem_iff, List.mem_append, List.mem_flatMap]

end Region

namespace RegionView

/-- The display order has all areas. -/
theorem sorted_perm (view : RegionView) : view.sorted.Perm view.areas.values := by
  have created : view.areas.bySeq.Perm view.areas.values := List.mergeSort_perm _ _
  unfold sorted
  cases view.sort with
  | date =>
    dsimp only
    split
    · exact (List.reverse_perm _).trans created
    · exact created
  | score =>
    dsimp only
    split
    · exact (List.mergeSort_perm _ _).trans created
    · exact (List.mergeSort_perm _ _).trans created

/-- The display order has nothing but areas. -/
theorem mem_sorted {view : RegionView} {area : Area} :
    area ∈ view.sorted ↔ area ∈ view.areas.values :=
  view.sorted_perm.mem_iff

/-- The display order has no area twice. -/
theorem nodup_sorted {view : RegionView} (byId : view.areas.ById) : view.sorted.Nodup :=
  view.sorted_perm.nodup_iff.mpr byId.nodup_ids.of_map

/-- What is directly inside an area. -/
theorem mem_childrenOf {view : RegionView} {id : AreaId} {area : Area} :
    area ∈ view.childrenOf id ↔
      area ∈ view.sorted ∧ properParent? view.areas area = some id := by
  rw [childrenOf, List.mem_filter, decide_eq_true_eq]

/-- An area lies in another just if it is one of those directly inside it. -/
theorem liesIn_iff {view : RegionView} (byId : view.areas.ById) {inner outer : AreaId} :
    view.areas.LiesIn inner outer ↔ ∃ area ∈ view.childrenOf outer, area.id = inner := by
  constructor
  · rintro ⟨area, found, around⟩
    obtain ⟨member, same⟩ := byId.get?_eq_some_iff.mp found
    exact ⟨area, mem_childrenOf.mpr ⟨mem_sorted.mpr member, around⟩, same⟩
  · rintro ⟨area, member, same⟩
    obtain ⟨listed, around⟩ := mem_childrenOf.mp member
    exact ⟨area, byId.get?_eq_some_iff.mpr ⟨mem_sorted.mp listed, same⟩, around⟩

/-! ## The search without its bound -/

/-- Areas are placed one after the other, each with the areas inside it: from what is placed before
to the regions and what is placed after. -/
inductive Places (view : RegionView) :
    List AreaId → List Area → List Region → List AreaId → Prop
  /-- Without areas nothing is placed. -/
  | done {placed : List AreaId} : Places view placed [] [] placed
  /-- An area that is placed is left out. -/
  | skip {placed after : List AreaId} {area : Area} {rest : List Area} {regions : List Region}
    (there : area.id ∈ placed) (behind : Places view placed rest regions after) :
    Places view placed (area :: rest) regions after
  /-- Another one is placed before the areas inside it, and these before the areas behind it. -/
  | place {placed inner after : List AreaId} {area : Area} {rest : List Area}
    {children others : List Region} (absent : area.id ∉ placed)
    (inside : Places view (area.id :: placed) (view.childrenOf area.id) children inner)
    (behind : Places view inner rest others after) :
    Places view placed (area :: rest) (.mk area children :: others) after

/-- The ids of the regions within some regions. -/
def idsWithin (regions : List Region) : List AreaId :=
  (Region.withinAll regions).map (·.area.id)

/-- How many areas are not placed. -/
def unplaced (view : RegionView) (placed : List AreaId) : Nat :=
  view.sorted.countP fun area => !placed.contains area.id

section Bound

variable {view : RegionView}

/-- The more is placed the less is not. -/
theorem unplaced_mono (view : RegionView) {placed more : List AreaId} (subset : placed ⊆ more) :
    view.unplaced more ≤ view.unplaced placed := by
  refine List.countP_mono_left fun area _ absent => ?_
  rw [Bool.not_eq_true', List.contains_eq_mem, decide_eq_false_iff_not] at absent ⊢
  exact fun member => absent (subset member)

/-- One more placed area is one less that is not. -/
theorem unplaced_cons_lt {placed : List AreaId} {area : Area} (member : area ∈ view.sorted)
    (absent : area.id ∉ placed) : view.unplaced (area.id :: placed) < view.unplaced placed := by
  obtain ⟨front, back, split⟩ := List.append_of_mem member
  have fewer (areas : List Area) :
      areas.countP (fun other => !(area.id :: placed).contains other.id) ≤
        areas.countP (fun other => !placed.contains other.id) := by
    refine List.countP_mono_left fun other _ outside => ?_
    simp only [List.contains_eq_mem, List.mem_cons, Bool.not_eq_true', decide_eq_false_iff_not,
      not_or] at outside ⊢
    exact outside.2
  have before := fewer front
  have behind := fewer back
  have here : (!(area.id :: placed).contains area.id) = false := by simp
  have there : (!placed.contains area.id) = true := by simpa using absent
  simp only [unplaced, split, List.countP_append, List.countP_cons, here, there, if_true,
    Bool.false_eq_true, if_false]
  omega

/-- What is placed after is what was placed before and the areas of the regions, the last first. -/
theorem Places.after_eq {placed after : List AreaId} {areas : List Area} {regions : List Region}
    (places : view.Places placed areas regions after) :
    after = (idsWithin regions).reverse ++ placed := by
  induction places with
  | done => rfl
  | skip there behind hypothesis => exact hypothesis
  | place absent inside behind inner outer =>
    rw [outer, inner]
    simp [idsWithin, Region.withinAll, Region.within, Region.area]

/-- What is placed stays placed. -/
theorem Places.subset {placed after : List AreaId} {areas : List Area} {regions : List Region}
    (places : view.Places placed areas regions after) : placed ⊆ after := by
  rw [places.after_eq]
  exact List.subset_append_right _ _

/-- With a bound that lets every area be looked through once for each that is not placed, the search
comes to its end. -/
theorem places_grow {fuel : Nat} {placed : List AreaId} {areas : List Area}
    (known : areas ⊆ view.sorted)
    (enough : view.unplaced placed * (view.sorted.length + 1) + areas.length < fuel) :
    view.Places placed areas (view.grow fuel placed areas).1 (view.grow fuel placed areas).2 := by
  induction fuel generalizing placed areas with
  | zero => omega
  | succ fuel hypothesis =>
    cases areas with
    | nil =>
      rw [grow]
      exact .done
    | cons area rest =>
      rw [List.length_cons] at enough
      have restKnown : rest ⊆ view.sorted := fun other member => known (List.mem_cons_of_mem _ member)
      rw [grow]
      split
      · rename_i there
        rw [List.contains_eq_mem, decide_eq_true_eq] at there
        exact .skip there (hypothesis restKnown (by omega))
      · rename_i absent
        rw [List.contains_eq_mem, decide_eq_true_eq] at absent
        have fewer := unplaced_cons_lt (known List.mem_cons_self) absent
        have children : (view.childrenOf area.id).length ≤ view.sorted.length :=
          List.length_filter_le _ _
        have room : (view.unplaced (area.id :: placed) + 1) * (view.sorted.length + 1) ≤
            view.unplaced placed * (view.sorted.length + 1) :=
          Nat.mul_le_mul_right _ fewer
        rw [Nat.add_mul, Nat.one_mul] at room
        have inside : view.Places (area.id :: placed) (view.childrenOf area.id)
            (view.grow fuel (area.id :: placed) (view.childrenOf area.id)).1
            (view.grow fuel (area.id :: placed) (view.childrenOf area.id)).2 :=
          hypothesis (fun other member => (mem_childrenOf.mp member).1) (by omega)
        have still := Nat.mul_le_mul_right (view.sorted.length + 1)
          (view.unplaced_mono inside.subset)
        exact .place absent inside (hypothesis restKnown (by omega))

end Bound

/-! ## What is placed -/

section Search

variable {view : RegionView} {placed after : List AreaId} {areas : List Area}
  {regions : List Region}

/-- Nothing is placed twice. -/
theorem Places.nodup (places : view.Places placed areas regions after) (distinct : placed.Nodup) :
    after.Nodup := by
  induction places with
  | done => exact distinct
  | skip there behind hypothesis => exact hypothesis distinct
  | place absent inside behind inner outer =>
    exact outer (inner (List.nodup_cons.mpr ⟨absent, distinct⟩))

/-- Every area is placed. -/
theorem Places.mem_after (places : view.Places placed areas regions after) {area : Area}
    (member : area ∈ areas) : area.id ∈ after := by
  induction places with
  | done => contradiction
  | skip there behind hypothesis =>
    rcases List.mem_cons.mp member with same | later
    · exact behind.subset (same ▸ there)
    · exact hypothesis later
  | place absent inside behind inner outer =>
    rcases List.mem_cons.mp member with same | later
    · exact behind.subset (inside.subset (same ▸ List.mem_cons_self))
    · exact outer later

/-- The areas that are placed at the top are some of the areas, in their order. -/
theorem Places.tops_sublist (places : view.Places placed areas regions after) :
    (regions.map Region.area).Sublist areas := by
  induction places with
  | done => exact List.Sublist.refl _
  | skip there behind hypothesis => exact hypothesis.cons _
  | place absent inside behind inner outer => exact outer.cons_cons _

/-- The areas that are placed inside an area are some of those directly inside it, in their order. -/
theorem Places.inside (places : view.Places placed areas regions after) {region : Region}
    (member : region ∈ Region.withinAll regions) :
    (region.children.map Region.area).Sublist (view.childrenOf region.area.id) := by
  induction places with
  | done => contradiction
  | skip there behind hypothesis => exact hypothesis member
  | place absent inside behind inner outer =>
    rw [Region.withinAll, Region.within, List.cons_append, List.mem_cons, List.mem_append] at member
    rcases member with same | below | later
    · rw [same]
      exact inside.tops_sublist
    · exact inner below
    · exact outer later

/-- What lies in an area that was placed in the search is placed. -/
theorem Places.closed (places : view.Places placed areas regions after) {outer : AreaId}
    (there : outer ∈ after) (new : outer ∉ placed) {area : Area}
    (member : area ∈ view.childrenOf outer) : area.id ∈ after := by
  induction places with
  | done => exact absurd there new
  | skip _ behind hypothesis => exact hypothesis there new
  | @place placed middle after first rest children others absent inside behind inner later =>
    by_cases early : outer ∈ middle
    · refine behind.subset ?_
      by_cases same : outer = first.id
      · exact inside.mem_after (same ▸ member)
      · exact inner early fun old => (List.mem_cons.mp old).elim same new
    · exact later there early

/-- The regions within those that are placed are of areas that lie in the areas, at some depth. -/
theorem Places.exists_around (byId : view.areas.ById) (places : view.Places placed areas regions after)
    {region : Region} (member : region ∈ Region.withinAll regions) :
    ∃ area ∈ areas, Relation.ReflTransGen view.areas.LiesIn region.area.id area.id := by
  induction places with
  | done => contradiction
  | skip _ behind hypothesis =>
    obtain ⟨area, later, below⟩ := hypothesis member
    exact ⟨area, List.mem_cons_of_mem _ later, below⟩
  | place absent inside behind inner outer =>
    rw [Region.withinAll, Region.within, List.cons_append, List.mem_cons, List.mem_append] at member
    rcases member with same | deeper | later
    · rw [same]
      exact ⟨_, List.mem_cons_self, .refl⟩
    · obtain ⟨child, directly, below⟩ := inner deeper
      exact ⟨_, List.mem_cons_self, below.tail ((liesIn_iff byId).mpr ⟨child, directly, rfl⟩)⟩
    · obtain ⟨area, behindIt, below⟩ := outer later
      exact ⟨area, List.mem_cons_of_mem _ behindIt, below⟩

/-- With an area whatever lies in it is placed. -/
def Closed (view : RegionView) (placed : List AreaId) : Prop :=
  ∀ inner outer, view.areas.LiesIn inner outer → outer ∈ placed → inner ∈ placed

/-- A search that begins where with an area whatever lies in it is placed ends so. -/
theorem Places.closed_after (byId : view.areas.ById)
    (places : view.Places placed areas regions after) (closed : view.Closed placed) :
    view.Closed after := by
  intro inner outer lies there
  by_cases old : outer ∈ placed
  · exact places.subset (closed inner outer lies old)
  · obtain ⟨area, member, same⟩ := (liesIn_iff byId).mp lies
    exact same ▸ places.closed there old member

/-- Where with an area whatever lies in it is placed, this holds at any depth. -/
theorem Closed.mem_of_below (closed : view.Closed placed) {inner outer : AreaId}
    (below : Relation.ReflTransGen view.areas.LiesIn inner outer) (there : outer ∈ placed) :
    inner ∈ placed := by
  induction below using Relation.ReflTransGen.head_induction_on with
  | refl => exact there
  | head lies _ hypothesis => exact closed _ _ lies hypothesis

/-- What is placed after is what was placed before, the areas, and what lies in them. -/
theorem Places.mem_iff (byId : view.areas.ById) (places : view.Places placed areas regions after)
    (closed : view.Closed placed) {id : AreaId} :
    id ∈ after ↔
      id ∈ placed ∨ ∃ area ∈ areas, Relation.ReflTransGen view.areas.LiesIn id area.id := by
  constructor
  · intro there
    rw [places.after_eq, List.mem_append, List.mem_reverse, idsWithin, List.mem_map] at there
    rcases there with ⟨region, member, same⟩ | old
    · obtain ⟨area, listed, below⟩ := places.exists_around byId member
      exact Or.inr ⟨area, listed, same ▸ below⟩
    · exact Or.inl old
  · rintro (old | ⟨area, listed, below⟩)
    · exact places.subset old
    · exact (places.closed_after byId closed).mem_of_below below (places.mem_after listed)

/-- A search for two groups of areas is one search after the other. -/
theorem Places.exists_append {front back : List Area}
    (places : view.Places placed (front ++ back) regions after) :
    ∃ first second middle, regions = first ++ second ∧ view.Places placed front first middle ∧
      view.Places middle back second after := by
  induction front generalizing placed regions with
  | nil => exact ⟨[], regions, placed, rfl, .done, places⟩
  | cons area rest hypothesis =>
    cases places with
    | skip there behind =>
      obtain ⟨first, second, middle, split, before, later⟩ := hypothesis behind
      exact ⟨first, second, middle, split, .skip there before, later⟩
    | @place _ _ _ _ _ children _ absent inside behind =>
      obtain ⟨first, second, middle, split, before, later⟩ := hypothesis behind
      exact ⟨.mk area children :: first, second, middle, by rw [split, List.cons_append],
        .place absent inside before, later⟩

/-- An area at the top was not placed when its turn came. -/
theorem Places.exists_turn (places : view.Places placed areas regions after) {region : Region}
    (top : region ∈ regions) :
    ∃ front back first middle, areas = front ++ region.area :: back ∧
      view.Places placed front first middle ∧ region.area.id ∉ middle := by
  induction places with
  | done => contradiction
  | @skip placed after area rest regions there behind hypothesis =>
    obtain ⟨front, back, first, middle, split, before, absent⟩ := hypothesis top
    exact ⟨area :: front, back, first, middle, by rw [split, List.cons_append],
      .skip there before, absent⟩
  | @place placed inner after area rest children others absent inside behind _ hypothesis =>
    rcases List.mem_cons.mp top with same | later
    · subst same
      exact ⟨[], rest, [], placed, rfl, .done, absent⟩
    · obtain ⟨front, back, first, middle, split, before, free⟩ := hypothesis later
      exact ⟨area :: front, back, .mk area children :: first, middle,
        by rw [split, List.cons_append], .place absent inside before, free⟩

/-- An area is placed at the top just if it was not placed and lies in none of the areas before
it. -/
theorem Places.mem_tops_iff (byId : view.areas.ById)
    (places : view.Places placed areas regions after) (closed : view.Closed placed) {area : Area} :
    area ∈ regions.map Region.area ↔
      ∃ front back, areas = front ++ area :: back ∧ area.id ∉ placed ∧
        ∀ earlier ∈ front, ¬ Relation.ReflTransGen view.areas.LiesIn area.id earlier.id := by
  constructor
  · intro top
    obtain ⟨region, member, same⟩ := List.mem_map.mp top
    obtain ⟨front, back, first, middle, split, before, absent⟩ := places.exists_turn member
    rw [same] at split absent
    rw [before.mem_iff byId closed, not_or] at absent
    exact ⟨front, back, split, absent.1, fun earlier listed below =>
      absent.2 ⟨earlier, listed, below⟩⟩
  · rintro ⟨front, back, split, absent, apart⟩
    rw [split] at places
    obtain ⟨first, second, middle, parts, before, later⟩ := places.exists_append
    have free : area.id ∉ middle := by
      rw [before.mem_iff byId closed, not_or]
      exact ⟨absent, fun ⟨earlier, listed, below⟩ => apart earlier listed below⟩
    cases later with
    | skip there _ => exact absurd there free
    | place _ _ _ =>
      rw [parts, List.map_append, List.map_cons]
      exact List.mem_append_right _ List.mem_cons_self

end Search

end RegionView
end Labeling
