import Labeling.Proofs.Annotating.Regions.Placing
import Mathlib

/-!
# The forest of areas

The forest shows every area once, and only inside the one that it names (`isForest_forest`). First
come the areas that lie in no other one, with all that lies in them. Where no area lies in itself,
at any depth, these are all; else there are areas that lie in a circle or hang from one, and they
are placed in display order. Of these an area comes inside the one that it names just if some area
around it is shown before it (`placedIn_iff`). So of each circle one area is at the top, but so is
an area that hangs from a circle and is shown before it (`hangingArea_at_top`).
-/
open Relation (ReflTransGen TransGen)

namespace Labeling

namespace Areas

variable {areas : Areas}

/-- Where no area lies in itself, at any depth, every area lies in one that lies in no other. -/
theorem ById.exists_outermost (byId : areas.ById) (acyclic : ∀ id, ¬ TransGen areas.LiesIn id id)
    {area : Area} (member : area ∈ areas.values) :
    ∃ root ∈ areas.values, RegionView.properParent? areas root = none ∧
      ReflTransGen areas.LiesIn area.id root.id := by
  -- Going outwards ends, as there are finitely many ids and none comes twice.
  have order : IsStrictOrder AreaId fun outer inner => TransGen areas.LiesIn inner outer :=
    { irrefl := acyclic, trans := fun _ _ _ first second => second.trans first }
  have finite : {id | id ∈ Entries.keys areas}.Finite := List.finite_toSet _
  have ends := finite.wellFoundedOn (r := fun outer inner => TransGen areas.LiesIn inner outer)
  have found := byId.get?_of_mem member
  have key : area.id ∈ Entries.keys areas := Entries.mem_keys (Entries.mem_of_get? found)
  refine ends.induction (P := fun id => ∀ area, areas.get? id = some area →
    ∃ root ∈ areas.values, RegionView.properParent? areas root = none ∧
      ReflTransGen areas.LiesIn id root.id) key ?_ area found
  intro id _ hypothesis area found
  cases around : RegionView.properParent? areas area with
  | none =>
    obtain ⟨member, same⟩ := byId.get?_eq_some_iff.mp found
    exact ⟨area, member, around, same ▸ .refl⟩
  | some outer =>
    have lies : areas.LiesIn id outer := ⟨area, found, around⟩
    have present := has_of_properParent? around
    obtain ⟨there, stored⟩ := (Entries.has_eq_true_iff _ _).mp present
    obtain ⟨root, member, outermost, below⟩ :=
      hypothesis outer ((Entries.has_iff_mem_keys _ _).mp present) (.single lies) there stored
    exact ⟨root, member, outermost, below.head lies⟩

/-- Where every area comes after the one that it names, no area lies in itself. -/
theorem ById.acyclic_of_seq (byId : areas.ById)
    (later : ∀ area ∈ areas.values, ∀ outer ∈ areas.values,
      RegionView.properParent? areas area = some outer.id → outer.seq < area.seq) (id : AreaId) :
    ¬ TransGen areas.LiesIn id id := by
  have less {inner outer : AreaId} (below : TransGen areas.LiesIn inner outer) :
      ∃ first second, areas.get? inner = some first ∧ areas.get? outer = some second ∧
        second.seq < first.seq := by
    have step {inner outer : AreaId} (lies : areas.LiesIn inner outer) :
        ∃ first second, areas.get? inner = some first ∧ areas.get? outer = some second ∧
          second.seq < first.seq := by
      obtain ⟨area, found, around⟩ := lies
      obtain ⟨there, stored⟩ := (Entries.has_eq_true_iff _ _).mp (has_of_properParent? around)
      obtain ⟨outerMember, same⟩ := byId.get?_eq_some_iff.mp stored
      exact ⟨area, there, found, stored,
        later area (byId.get?_eq_some_iff.mp found).1 there outerMember (same ▸ around)⟩
    induction below with
    | single lies => exact step lies
    | tail _ lies hypothesis =>
      obtain ⟨first, middle, found, there, less⟩ := hypothesis
      obtain ⟨same, last, stored, lastFound, more⟩ := step lies
      obtain rfl : middle = same := Option.some.inj (there.symm.trans stored)
      exact ⟨first, last, found, lastFound, more.trans less⟩
  intro cycle
  obtain ⟨first, second, found, stored, smaller⟩ := less cycle
  obtain rfl : first = second := Option.some.inj (found.symm.trans stored)
  exact absurd smaller (Nat.lt_irrefl _)

end Areas

namespace RegionView

/-- The areas that lie in no other one, in display order. -/
def outermost (view : RegionView) : List Area :=
  view.sorted.filter fun area => (properParent? view.areas area).isNone

/-- In a forest an area is directly inside the area of an id. -/
def PlacedIn (forest : List Region) (area : Area) (outer : AreaId) : Prop :=
  ∃ region ∈ Region.withinAll forest, region.area.id = outer ∧
    area ∈ region.children.map Region.area

/-- An area is shown before another one. -/
def Precedes (view : RegionView) (first second : Area) : Prop :=
  ∃ front back, view.sorted = front ++ second :: back ∧ first ∈ front

/-- What the forest of the areas is. -/
structure IsForest (view : RegionView) (forest : List Region) : Prop where
  /-- The search for it comes to its end. -/
  ends : ∃ placed, view.Places [] (view.outermost ++ view.sorted) forest placed
  /-- Every area is in it exactly once. -/
  once : ((Region.withinAll forest).map Region.area).Perm view.areas.values
  /-- An area is only inside another one that it names. -/
  parent : ∀ region ∈ Region.withinAll forest, ∀ child ∈ region.children,
    properParent? view.areas child.area = some region.area.id
  /-- Areas inside the same one are in display order. -/
  siblings : ∀ region ∈ Region.withinAll forest,
    (region.children.map Region.area).Sublist view.sorted
  /-- Where no area lies in itself, those at the top are the ones that lie in no other. -/
  top : (∀ id, ¬ TransGen view.areas.LiesIn id id) → forest.map Region.area = view.outermost
  /-- Where no area lies in itself, every other one is inside the one that it names. -/
  nested : (∀ id, ¬ TransGen view.areas.LiesIn id id) → ∀ area ∈ view.areas.values, ∀ outer,
    properParent? view.areas area = some outer → PlacedIn forest area outer

section Forest

variable {view : RegionView} {placed : List AreaId} {forest : List Region}

/-- The outermost areas are those that lie in no other. -/
theorem mem_outermost {area : Area} :
    area ∈ view.outermost ↔
      area ∈ view.areas.values ∧ properParent? view.areas area = none := by
  rw [outermost, List.mem_filter, mem_sorted, Option.isNone_iff_eq_none]

/-- The search for the forest comes to its end. -/
theorem exists_places_forest (view : RegionView) :
    ∃ placed, view.Places [] (view.outermost ++ view.sorted) view.forest placed := by
  have few : view.unplaced [] ≤ view.sorted.length := List.countP_le_length
  have fewer : view.outermost.length ≤ view.sorted.length := List.length_filter_le _ _
  refine ⟨_, places_grow (fun area member => ?_) ?_⟩
  · rcases List.mem_append.mp member with first | later
    · exact (List.mem_filter.mp first).1
    · exact later
  · have room := Nat.mul_le_mul_right (view.sorted.length + 1) few
    have bound : (view.sorted.length + 1) * (view.sorted.length + 1 + 2) =
        view.sorted.length * (view.sorted.length + 1) + 3 * view.sorted.length + 3 := by ring
    rw [List.length_append]
    omega

/-- Before anything is placed, all that lies in what is placed is. -/
theorem closed_nil (view : RegionView) : view.Closed [] := fun _ _ _ there => by
  contradiction

/-- Nothing is around an area that lies in no other. -/
theorem eq_of_below (byId : view.areas.ById) {area : Area} {outer : AreaId}
    (member : area ∈ view.areas.values) (alone : properParent? view.areas area = none)
    (below : ReflTransGen view.areas.LiesIn area.id outer) : area.id = outer := by
  rcases below.cases_head with same | ⟨next, ⟨found, stored, around⟩, -⟩
  · exact same
  · rw [byId.get?_of_mem member, Option.some.injEq] at stored
    rw [← stored, alone] at around
    contradiction

/-- No region is twice in the forest. -/
theorem nodup_idsWithin
    (places : view.Places [] (view.outermost ++ view.sorted) forest placed) :
    (idsWithin forest).Nodup := by
  have distinct := places.nodup List.nodup_nil
  rw [places.after_eq, List.append_nil] at distinct
  exact List.nodup_reverse.mp distinct

/-- The regions within the forest are those of the areas. -/
theorem mem_map_withinAll_iff (byId : view.areas.ById)
    (places : view.Places [] (view.outermost ++ view.sorted) forest placed) {area : Area} :
    area ∈ (Region.withinAll forest).map Region.area ↔ area ∈ view.areas.values := by
  have known {region : Region} (member : region ∈ Region.withinAll forest) :
      region.area ∈ view.areas.values := by
    rcases Region.mem_withinAll_iff.mp member with top | ⟨around, outer, child⟩
    · rcases List.mem_append.mp (places.tops_sublist.subset (List.mem_map_of_mem top)) with
        first | later
      · exact (mem_outermost.mp first).1
      · exact mem_sorted.mp later
    · have inside := (places.inside outer).subset (List.mem_map_of_mem child)
      exact mem_sorted.mp (mem_childrenOf.mp inside).1
  constructor
  · intro member
    obtain ⟨region, inside, same⟩ := List.mem_map.mp member
    exact same ▸ known inside
  · intro member
    have there := places.mem_after (List.mem_append_right _ (mem_sorted.mpr member))
    rw [places.after_eq, List.append_nil, List.mem_reverse, idsWithin, List.mem_map] at there
    obtain ⟨region, inside, same⟩ := there
    rw [← byId.eq_of_id_eq (known inside) member same]
    exact List.mem_map_of_mem inside

/-- The areas of the forest are the areas, each once. -/
theorem perm_areas (byId : view.areas.ById)
    (places : view.Places [] (view.outermost ++ view.sorted) forest placed) :
    ((Region.withinAll forest).map Region.area).Perm view.areas.values := by
  have distinct : (((Region.withinAll forest).map Region.area).map Area.id).Nodup := by
    rw [List.map_map]
    exact nodup_idsWithin places
  rw [List.perm_ext_iff_of_nodup distinct.of_map byId.nodup_ids.of_map]
  exact fun area => mem_map_withinAll_iff byId places

/-- An area that lies in another one is at the top or inside that one, and not both. -/
theorem placedIn_iff_not_top (byId : view.areas.ById)
    (places : view.Places [] (view.outermost ++ view.sorted) forest placed) {area : Area}
    {outer : AreaId} (member : area ∈ view.areas.values)
    (around : properParent? view.areas area = some outer) :
    PlacedIn forest area outer ↔ area ∉ forest.map Region.area := by
  constructor
  · rintro ⟨region, within, -, child⟩ top
    -- The area would be in the forest as a child and once more at the top.
    have distinct := nodup_idsWithin places
    rw [idsWithin, ((Region.withinAll_perm forest).map _).nodup_iff, List.map_append] at distinct
    obtain ⟨inner, inside, same⟩ := List.mem_map.mp child
    obtain ⟨first, atTop, equal⟩ := List.mem_map.mp top
    refine (List.nodup_append.mp distinct).2.2 _ (List.mem_map_of_mem atTop) _
      (List.mem_map_of_mem (List.mem_flatMap.mpr ⟨region, within, inside⟩)) ?_
    rw [same, equal]
  · intro low
    obtain ⟨region, within, same⟩ := List.mem_map.mp ((mem_map_withinAll_iff byId places).mpr member)
    rcases Region.mem_withinAll_iff.mp within with top | ⟨holder, inside, child⟩
    · exact absurd (same ▸ List.mem_map_of_mem top) low
    · have there : area ∈ holder.children.map Region.area := same ▸ List.mem_map_of_mem child
      have parent := (mem_childrenOf.mp ((places.inside inside).subset there)).2
      rw [around, Option.some.injEq] at parent
      exact ⟨holder, inside, parent.symm, there⟩

/-- The first ones at the top are the areas that lie in no other. -/
theorem tops_of_outermost (byId : view.areas.ById)
    (places : view.Places [] view.outermost forest placed) :
    forest.map Region.area = view.outermost := by
  have distinct : view.outermost.Nodup := (nodup_sorted byId).filter _
  have each : view.outermost ⊆ forest.map Region.area := by
    intro area member
    obtain ⟨front, back, split, new⟩ := List.eq_append_cons_of_mem member
    rw [places.mem_tops_iff byId view.closed_nil]
    refine ⟨front, back, split, List.not_mem_nil, fun earlier before below => ?_⟩
    obtain ⟨known, alone⟩ := mem_outermost.mp member
    have other : earlier ∈ view.outermost := by
      rw [split]
      exact List.mem_append_left _ before
    have same := byId.eq_of_id_eq known (mem_outermost.mp other).1 (eq_of_below byId known alone below)
    exact new (same ▸ before)
  exact places.tops_sublist.eq_of_length_le (List.subperm_of_subset distinct each).length_le

/-- Where the display order splits at an area, the areas before it are those shown before it. -/
theorem precedes_iff (byId : view.areas.ById) {earlier area : Area} {front back : List Area}
    (split : view.sorted = front ++ area :: back) :
    view.Precedes earlier area ↔ earlier ∈ front := by
  constructor
  · rintro ⟨before, behind, order, listed⟩
    have distinct := nodup_sorted byId
    rw [split] at distinct order
    have apart := List.nodup_middle.mp distinct
    rw [List.nodup_cons, List.mem_append, not_or] at apart
    have same := (List.append_cons_inj_of_notMem apart.1.1 apart.1.2).mp order
    exact same.1 ▸ listed
  · exact fun listed => ⟨front, back, split, listed⟩

/-- What the first of two lists does not have splits the second. -/
theorem exists_split_behind {first second front back : List Area} {area : Area}
    (split : first ++ second = front ++ area :: back) (other : area ∉ first) :
    ∃ later, front = first ++ later ∧ second = later ++ area :: back := by
  rcases List.append_eq_append_iff.mp split with ⟨later, before, rest⟩ | ⟨rest, before, later⟩
  · exact ⟨later, before, rest⟩
  · cases rest with
    | nil => exact ⟨[], by rw [before, List.append_nil, List.append_nil], later.symm⟩
    | cons next others =>
      have same := (List.cons.inj later).1
      exact absurd (before ▸ List.mem_append_right _ (same ▸ List.mem_cons_self)) other

/-- An area that lies in another one is at the top just if each area around it, at any depth, lies in
another one and is not shown before it. -/
theorem mem_tops_iff_of_lies (byId : view.areas.ById)
    (places : view.Places [] (view.outermost ++ view.sorted) forest placed) {area : Area}
    {outer : AreaId} (member : area ∈ view.areas.values)
    (lies : properParent? view.areas area = some outer) :
    area ∈ forest.map Region.area ↔
      ∀ around ∈ view.areas.values, TransGen view.areas.LiesIn area.id around.id →
        properParent? view.areas around ≠ none ∧ ¬ view.Precedes around area := by
  have inner : area ∉ view.outermost := by
    intro alone
    rw [(mem_outermost.mp alone).2] at lies
    contradiction
  rw [places.mem_tops_iff byId view.closed_nil]
  constructor
  · rintro ⟨early, back, whole, -, apart⟩ around known below
    obtain ⟨front, same, split⟩ := exists_split_behind whole inner
    rw [precedes_iff byId split]
    constructor
    · intro alone
      have listed : around ∈ early :=
        same ▸ List.mem_append_left _ (mem_outermost.mpr ⟨known, alone⟩)
      exact apart around listed below.to_reflTransGen
    · intro before
      exact apart around (same ▸ List.mem_append_right _ before) below.to_reflTransGen
  · intro apart
    obtain ⟨front, back, split, new⟩ := List.eq_append_cons_of_mem (mem_sorted.mpr member)
    refine ⟨view.outermost ++ front, back, by rw [split, List.append_assoc], List.not_mem_nil,
      fun earlier listed below => ?_⟩
    have known : earlier ∈ view.areas.values := by
      rcases List.mem_append.mp listed with alone | before
      · exact (mem_outermost.mp alone).1
      · exact mem_sorted.mp (by rw [split]; exact List.mem_append_left _ before)
    have deeper : TransGen view.areas.LiesIn area.id earlier.id := by
      rcases Relation.reflTransGen_iff_eq_or_transGen.mp below with same | deeper
      · obtain rfl := byId.eq_of_id_eq known member same
        exact absurd listed (List.not_mem_append inner new)
      · exact deeper
    obtain ⟨nested, later⟩ := apart earlier known deeper
    rcases List.mem_append.mp listed with alone | before
    · exact nested (mem_outermost.mp alone).2
    · exact later ((precedes_iff byId split).mpr before)

/-- Where no area lies in itself, only those that lie in no other are at the top. -/
theorem tops_of_acyclic (byId : view.areas.ById)
    (places : view.Places [] (view.outermost ++ view.sorted) forest placed)
    (acyclic : ∀ id, ¬ TransGen view.areas.LiesIn id id) :
    forest.map Region.area = view.outermost := by
  obtain ⟨first, second, middle, split, begun, rest⟩ := places.exists_append
  -- Everything lies in one of the outermost areas, so that nothing is left for the second time.
  have none (area : Area) : area ∉ second.map Region.area := by
    rw [rest.mem_tops_iff byId (begun.closed_after byId view.closed_nil)]
    rintro ⟨front, back, sorted, free, -⟩
    have known : area ∈ view.areas.values := mem_sorted.mp (by rw [sorted]; simp)
    obtain ⟨root, member, alone, below⟩ := byId.exists_outermost acyclic known
    refine free ((begun.mem_iff byId view.closed_nil).mpr (Or.inr ⟨root, ?_, below⟩))
    exact mem_outermost.mpr ⟨member, alone⟩
  rw [split, List.map_append, List.eq_nil_iff_forall_not_mem.mpr none, List.append_nil]
  exact tops_of_outermost byId begun

end Forest

/-- The forest has every area once, and only where it belongs, for areas that name any others and in
every display order. -/
theorem isForest_forest (view : RegionView) (byId : view.areas.ById) :
    view.IsForest view.forest := by
  obtain ⟨placed, places⟩ := view.exists_places_forest
  refine ⟨⟨placed, places⟩, perm_areas byId places, ?_, ?_, tops_of_acyclic byId places, ?_⟩
  · intro region within child inside
    exact (mem_childrenOf.mp ((places.inside within).subset (List.mem_map_of_mem inside))).2
  · intro region within
    exact (places.inside within).trans List.filter_sublist
  · intro acyclic area member outer around
    rw [placedIn_iff_not_top byId places member around, tops_of_acyclic byId places acyclic]
    intro alone
    rw [(mem_outermost.mp alone).2] at around
    contradiction

/-- An area that lies in another one is placed inside it just if an area around it, at some depth,
lies in no other or is shown before it. -/
theorem placedIn_iff (view : RegionView) (byId : view.areas.ById) {area : Area} {outer : AreaId}
    (member : area ∈ view.areas.values) (lies : properParent? view.areas area = some outer) :
    PlacedIn view.forest area outer ↔
      ∃ around ∈ view.areas.values, TransGen view.areas.LiesIn area.id around.id ∧
        (properParent? view.areas around = none ∨ view.Precedes around area) := by
  obtain ⟨placed, places⟩ := view.exists_places_forest
  rw [placedIn_iff_not_top byId places member lies, mem_tops_iff_of_lies byId places member lies]
  simp only [not_forall, not_and_or, not_not, exists_prop, ne_eq]

/-! ## Spans in spans -/

/-- A span of an id, with the id of the one around it and its place in the order of creation. -/
def spanOf (raw around : String) (seq : Nat) : Area where
  id := ⟨raw, "1"⟩
  object := "text"
  parentId := around
  shape := {}
  results := [{ fromName := "label", toName := "text", resultType := "labels" }]
  seq := seq

/-- Spans by their ids, shown in the order of creation. -/
def spanView (spans : List Area) : RegionView where
  areas := spans.map fun span => (span.id, span)
  tree := { config := {}, elements := [], names := [], toNames := [], report := [] }

/-- The regions within a forest by the raw ids of their areas, each with those directly inside it. -/
def outline (forest : List Region) : List (String × List String) :=
  (Region.withinAll forest).map fun region =>
    (region.area.id.raw, region.children.map (·.area.id.raw))

/-- What is placed inside an area stands there in the outline. -/
theorem PlacedIn.mem_outline {forest : List Region} {area : Area} {outer : AreaId}
    (placed : PlacedIn forest area outer) :
    ∃ entry ∈ outline forest, entry.1 = outer.raw ∧ area.id.raw ∈ entry.2 := by
  obtain ⟨region, within, same, child⟩ := placed
  obtain ⟨inner, inside, equal⟩ := List.mem_map.mp child
  exact ⟨_, List.mem_map_of_mem within, congrArg AreaId.raw same,
    List.mem_map.mpr ⟨inner, inside, congrArg (·.id.raw) equal⟩⟩

/-- A span in a span in a span. -/
def nestedView : RegionView :=
  spanView [spanOf "c" "r" 1, spanOf "g" "c#1" 2, spanOf "r" "missing" 0]

/-- The forest of nested spans is one tree. -/
theorem nestedView_isForest :
    nestedView.areas.ById ∧ nestedView.IsForest nestedView.forest ∧
      (∀ id, ¬ TransGen nestedView.areas.LiesIn id id) ∧
      outline nestedView.forest = [("r", ["c"]), ("c", ["g"]), ("g", [])] := by
  have byId : nestedView.areas.ById := ⟨by decide, by decide⟩
  exact ⟨byId, isForest_forest nestedView byId, byId.acyclic_of_seq (by decide +kernel), by cbv⟩

/-- Two spans in a circle and two that hang from it, of which one comes before it and one behind. -/
def circledView : RegionView :=
  spanView [spanOf "a" "b" 1, spanOf "b" "a" 2, spanOf "early" "a" 0, spanOf "late" "a" 3]

/-- The span that hangs from the circle and comes behind it is inside the one that it names. -/
theorem circledView_late :
    circledView.areas.ById ∧ spanOf "late" "a" 3 ∈ circledView.areas.values ∧
      properParent? circledView.areas (spanOf "late" "a" 3) = some ⟨"a", "1"⟩ ∧
      PlacedIn circledView.forest (spanOf "late" "a" 3) ⟨"a", "1"⟩ := by
  have byId : circledView.areas.ById := ⟨by decide, by decide⟩
  have member : spanOf "late" "a" 3 ∈ circledView.areas.values :=
    Entries.mem_values.mpr ⟨⟨"late", "1"⟩, by simp [circledView, spanView, spanOf]⟩
  have lies : properParent? circledView.areas (spanOf "late" "a" 3) = some ⟨"a", "1"⟩ := by
    decide +kernel
  have order : circledView.sorted =
      [spanOf "early" "a" 0, spanOf "a" "b" 1, spanOf "b" "a" 2] ++ spanOf "late" "a" 3 :: [] := by
    cbv
  refine ⟨byId, member, lies, (placedIn_iff circledView byId member lies).mpr
    ⟨spanOf "a" "b" 1, ?_, .single ⟨_, byId.get?_of_mem member, lies⟩, Or.inr ⟨_, _, order, ?_⟩⟩⟩
  · exact Entries.mem_values.mpr ⟨⟨"a", "1"⟩, by simp [circledView, spanView, spanOf]⟩
  · simp

/-- Not every area that lies in another one, but not in itself, is placed inside it: it may hang from
a circle and be shown before all that is around it. -/
theorem hangingArea_at_top :
    ¬ ∀ (view : RegionView) (area : Area) (outer : AreaId), view.areas.ById →
      area ∈ view.areas.values → properParent? view.areas area = some outer →
      ¬ TransGen view.areas.LiesIn area.id area.id → PlacedIn view.forest area outer := by
  intro follows
  have outlined : outline circledView.forest =
      [("early", []), ("a", ["b", "late"]), ("b", []), ("late", [])] := by
    cbv
  have free : ¬ TransGen circledView.areas.LiesIn ⟨"early", "1"⟩ ⟨"early", "1"⟩ := by
    intro cycle
    obtain ⟨_, -, ⟨area, found, around⟩⟩ := Relation.TransGen.tail'_iff.mp cycle
    have none : ∀ area ∈ circledView.areas.values,
        properParent? circledView.areas area ≠ some ⟨"early", "1"⟩ := by
      decide +kernel
    exact none area (Entries.mem_values.mpr ⟨_, Entries.mem_of_get? found⟩) around
  have placed := follows circledView (spanOf "early" "a" 0) ⟨"a", "1"⟩ ⟨by decide, by decide⟩
    (Entries.mem_values.mpr ⟨⟨"early", "1"⟩, by simp [circledView, spanView, spanOf]⟩)
    (by decide +kernel) free
  have apart : ∀ entry ∈ outline circledView.forest, entry.1 = "a" → "early" ∉ entry.2 := by
    rw [outlined]
    decide
  obtain ⟨entry, listed, named, inside⟩ := placed.mem_outline
  exact apart entry listed named inside

end RegionView
end Labeling
