import Labeling.Area
import Labeling.Proofs.Entries
import Mathlib.Data.String.Basic

/-!
# Areas by id and in order

Ids of areas are in a strict total order, so that areas are finite maps with sorted entries. The
order of creation is another order of the same areas. An area is well formed when it is stored
under its own id, has a result, and names elements of the configuration that are what they should
be; no two areas of a map have the same place in the order of creation.
-/
namespace Labeling

/-- Ids of the same raw id in the same annotation are the same. -/
theorem AreaId.eq_of_raw_eq {left right : AreaId} (raw : left.raw = right.raw)
    (owner : left.owner = right.owner) : left = right := by
  cases left
  cases right
  rw [AreaId.mk.injEq]
  exact ⟨raw, owner⟩

/-- Ids are ordered by raw id and then by annotation, which is a strict total order. -/
instance : IsStrictTotalOrder AreaId (· < ·) where
  irrefl id less := by
    rcases less with less | ⟨-, less⟩
    · exact lt_irrefl id.raw less
    · exact lt_irrefl id.owner less
  trans first second third firstLess secondLess := by
    rcases firstLess with less | ⟨same, less⟩
    · rcases secondLess with further | ⟨equal, -⟩
      · exact Or.inl (lt_trans less further)
      · exact Or.inl (equal ▸ less)
    · rcases secondLess with further | ⟨equal, further⟩
      · exact Or.inl (same ▸ further)
      · exact Or.inr ⟨same.trans equal, lt_trans less further⟩
  trichotomous left right notLess notGreater := by
    have raw : left.raw = right.raw := by
      rcases lt_trichotomy left.raw right.raw with less | same | greater
      · exact absurd (Or.inl less) notLess
      · exact same
      · exact absurd (Or.inl greater) notGreater
    have owner : left.owner = right.owner := by
      rcases lt_trichotomy left.owner right.owner with less | same | greater
      · exact absurd (Or.inr ⟨raw, less⟩) notLess
      · exact same
      · exact absurd (Or.inr ⟨raw.symm, greater⟩) notGreater
    exact AreaId.eq_of_raw_eq raw owner

namespace Areas

/-- The order of creation has the areas and nothing else. -/
theorem mem_bySeq {areas : Areas} {area : Area} :
    area ∈ areas.bySeq ↔ ∃ id, (id, area) ∈ areas := by
  rw [bySeq, List.mem_mergeSort, Entries.mem_values]

end Areas

/-- A name stands for an object. -/
def ElementTree.IsObject (tree : ElementTree) (name : String) : Prop :=
  ∃ element, tree.get? name = some element ∧ element.isObject = true

/-- A name stands for a control. -/
def ElementTree.IsControl (tree : ElementTree) (name : String) : Prop :=
  ∃ element, tree.get? name = some element ∧ element.isControl = true

/-- What holds of an area of an annotation. -/
structure Area.WellFormed (tree : ElementTree) (owner : String) (area : Area) : Prop where
  /-- The id is one of the annotation. -/
  owner : area.id.owner = owner
  /-- The area has a result. -/
  nonempty : area.results ≠ []
  /-- The area is one of an object. -/
  object : tree.IsObject area.object
  /-- Every result names an object. -/
  toName : ∀ result ∈ area.results, tree.IsObject result.toName
  /-- Every result comes from a control. -/
  fromName : ∀ result ∈ area.results, tree.IsControl result.fromName

/-- What holds of the areas of an annotation, or of its suggestions. -/
structure Areas.WellFormed (tree : ElementTree) (owner : String) (bound : Nat)
    (areas : Areas) : Prop where
  /-- The areas are in the order of their ids. -/
  sorted : Entries.Sorted areas
  /-- An area is stored under its id. -/
  keys : ∀ entry ∈ areas, entry.2.id = entry.1
  /-- Every area is well formed. -/
  each : ∀ entry ∈ areas, entry.2.WellFormed tree owner
  /-- Every area has a place of its own in the order of creation. -/
  distinct : ∀ first ∈ areas, ∀ second ∈ areas, first.2.seq = second.2.seq → first.1 = second.1
  /-- The places are below the bound. -/
  below : ∀ entry ∈ areas, entry.2.seq < bound

namespace Areas.WellFormed

variable {tree : ElementTree} {owner : String} {bound : Nat} {areas : Areas}

/-- No areas at all are well formed. -/
theorem nil : WellFormed tree owner bound [] :=
  ⟨List.Pairwise.nil, by simp, by simp, by simp, by simp⟩

/-- Areas stay well formed as the bound grows. -/
theorem mono {greater : Nat} (wellFormed : areas.WellFormed tree owner bound)
    (grows : bound ≤ greater) : areas.WellFormed tree owner greater :=
  { wellFormed with
    below := fun entry member => Nat.lt_of_lt_of_le (wellFormed.below entry member) grows }

/-- Some of well-formed areas are well formed. -/
theorem filter (wellFormed : areas.WellFormed tree owner bound) (test : AreaId × Area → Bool) :
    WellFormed tree owner bound (areas.filter test) where
  sorted := List.Pairwise.filter _ wellFormed.sorted
  keys entry member := wellFormed.keys entry (List.mem_filter.mp member).1
  each entry member := wellFormed.each entry (List.mem_filter.mp member).1
  distinct first firstMember second secondMember :=
    wellFormed.distinct first (List.mem_filter.mp firstMember).1 second
      (List.mem_filter.mp secondMember).1
  below entry member := wellFormed.below entry (List.mem_filter.mp member).1

/-- A well-formed area with the next place may be stored under its id. -/
theorem put (wellFormed : areas.WellFormed tree owner bound) {area : Area}
    (made : area.WellFormed tree owner) (last : area.seq = bound) :
    WellFormed tree owner (bound + 1) (Entries.put area.id area areas) where
  sorted := Entries.sorted_put area.id area wellFormed.sorted
  keys entry member := by
    rcases Entries.mem_put member with new | old
    · rw [new]
    · exact wellFormed.keys entry old
  each entry member := by
    rcases Entries.mem_put member with new | old
    · rw [new]
      exact made
    · exact wellFormed.each entry old
  distinct first firstMember second secondMember same := by
    rcases Entries.mem_put firstMember with firstNew | firstOld
    · rcases Entries.mem_put secondMember with secondNew | secondOld
      · rw [firstNew, secondNew]
      · have placed : second.2.seq = bound := by rw [← same, firstNew, last]
        exact absurd placed (Nat.ne_of_lt (wellFormed.below second secondOld))
    · rcases Entries.mem_put secondMember with secondNew | secondOld
      · have placed : first.2.seq = bound := by rw [same, secondNew, last]
        exact absurd placed (Nat.ne_of_lt (wellFormed.below first firstOld))
      · exact wellFormed.distinct first firstOld second secondOld same
  below entry member := by
    rcases Entries.mem_put member with new | old
    · rw [new, last]
      exact Nat.lt_succ_self bound
    · exact Nat.lt_succ_of_lt (wellFormed.below entry old)

/-- A change that keeps the id, the place and the well-formedness of an area may be made. -/
theorem update (wellFormed : areas.WellFormed tree owner bound) (id : AreaId)
    {change : Area → Area} (sameId : ∀ area, (change area).id = area.id)
    (sameSeq : ∀ area, (change area).seq = area.seq)
    (keeps : ∀ area : Area, area.WellFormed tree owner → (change area).WellFormed tree owner) :
    WellFormed tree owner bound (Entries.update id change areas) := by
  -- Every entry comes from one under the same key, with the same id and place.
  have source {entry : AreaId × Area} (member : entry ∈ Entries.update id change areas) :
      ∃ former ∈ areas, entry.1 = former.1 ∧ entry.2.id = former.2.id ∧
        entry.2.seq = former.2.seq ∧ (entry.2 = former.2 ∨ entry.2 = change former.2) := by
    rcases Entries.mem_update member with old | ⟨area, old, changed⟩
    · exact ⟨entry, old, rfl, rfl, rfl, Or.inl rfl⟩
    · rw [changed]
      exact ⟨(id, area), old, rfl, sameId area, sameSeq area, Or.inr rfl⟩
  refine ⟨Entries.sorted_update id change wellFormed.sorted, ?_, ?_, ?_, ?_⟩
  · intro entry member
    obtain ⟨former, old, key, sameEntryId, -, -⟩ := source member
    rw [sameEntryId, key]
    exact wellFormed.keys former old
  · intro entry member
    obtain ⟨former, old, -, -, -, same | changed⟩ := source member
    · rw [same]
      exact wellFormed.each former old
    · rw [changed]
      exact keeps former.2 (wellFormed.each former old)
  · intro first firstMember second secondMember same
    obtain ⟨former, old, key, -, seq, -⟩ := source firstMember
    obtain ⟨other, otherOld, otherKey, -, otherSeq, -⟩ := source secondMember
    rw [key, otherKey]
    exact wellFormed.distinct former old other otherOld (by omega)
  · intro entry member
    obtain ⟨former, old, -, -, seq, -⟩ := source member
    rw [seq]
    exact wellFormed.below former old

end Areas.WellFormed

namespace Areas

/-! ## The order of creation -/

section Order

variable {tree : ElementTree} {owner : String} {bound : Nat} {areas : Areas}

/-- The areas are in the order of their places. -/
theorem pairwise_bySeq (areas : Areas) :
    areas.bySeq.Pairwise fun left right => left.seq ≤ right.seq := by
  have ordered : areas.bySeq.Pairwise fun left right => decide (left.seq ≤ right.seq) = true := by
    apply List.pairwise_mergeSort
    · intro first second third firstLess secondLess
      rw [decide_eq_true_eq] at firstLess secondLess ⊢
      exact Nat.le_trans firstLess secondLess
    · intro first second
      rw [Bool.or_eq_true, decide_eq_true_eq, decide_eq_true_eq]
      exact Nat.le_total first.seq second.seq
  exact ordered.imp fun less => of_decide_eq_true less

/-- The areas in the order of creation are well formed. -/
theorem WellFormed.each_bySeq (wellFormed : areas.WellFormed tree owner bound) {area : Area}
    (member : area ∈ areas.bySeq) : area.WellFormed tree owner := by
  obtain ⟨id, inside⟩ := mem_bySeq.mp member
  exact wellFormed.each _ inside

/-- An area in the order of creation is the one of its id. -/
theorem WellFormed.get?_of_mem_bySeq (wellFormed : areas.WellFormed tree owner bound) {area : Area}
    (member : area ∈ areas.bySeq) : areas.get? area.id = some area := by
  obtain ⟨id, inside⟩ := mem_bySeq.mp member
  have named : area.id = id := wellFormed.keys _ inside
  rw [named]
  exact Entries.get?_of_mem wellFormed.sorted inside

/-- Of well-formed areas in the order of creation, those of one place are the same. -/
theorem WellFormed.eq_of_seq_eq (wellFormed : areas.WellFormed tree owner bound)
    {first second : Area} (firstMember : first ∈ areas.bySeq) (secondMember : second ∈ areas.bySeq)
    (same : first.seq = second.seq) : first = second := by
  obtain ⟨firstId, firstInside⟩ := mem_bySeq.mp firstMember
  obtain ⟨secondId, secondInside⟩ := mem_bySeq.mp secondMember
  have sameId : firstId = secondId := wellFormed.distinct _ firstInside _ secondInside same
  have found := Entries.get?_of_mem wellFormed.sorted firstInside
  rw [sameId, Entries.get?_of_mem wellFormed.sorted secondInside] at found
  exact (Option.some.inj found).symm

/-- There is an area of an id if one in the order of creation has it. -/
theorem WellFormed.has_iff (wellFormed : areas.WellFormed tree owner bound) (id : AreaId) :
    areas.has id = true ↔ ∃ area ∈ areas.bySeq, area.id = id := by
  rw [Entries.has_iff_mem_keys]
  constructor
  · intro member
    obtain ⟨entry, inside, key⟩ := List.mem_map.mp member
    exact ⟨entry.2, mem_bySeq.mpr ⟨entry.1, inside⟩, (wellFormed.keys entry inside).trans key⟩
  · rintro ⟨area, member, same⟩
    obtain ⟨key, inside⟩ := mem_bySeq.mp member
    have stored : area.id = key := wellFormed.keys _ inside
    rw [← same, stored]
    exact Entries.mem_keys inside

/-- A new area with the next place is the last one. -/
theorem WellFormed.bySeq_put (wellFormed : areas.WellFormed tree owner bound) {area : Area}
    (made : area.WellFormed tree owner) (absent : areas.has area.id = false)
    (last : area.seq = bound) :
    bySeq (Entries.put area.id area areas) = areas.bySeq ++ [area] := by
  have putWellFormed := wellFormed.put made last
  have perm : (bySeq (Entries.put area.id area areas)).Perm (areas.bySeq ++ [area]) := by
    have values : (Entries.values (Entries.put area.id area areas)).Perm
        (area :: Entries.values areas) :=
      List.Perm.map Prod.snd (Entries.perm_put area ((Entries.has_eq_false_iff _ _).mp absent))
    rw [bySeq]
    refine ((List.mergeSort_perm _ _).trans values).trans (.trans ?_ (.symm
      (List.perm_append_singleton area areas.bySeq)))
    exact .cons area (List.mergeSort_perm _ _).symm
  have placed : (areas.bySeq ++ [area]).Pairwise fun left right => left.seq ≤ right.seq := by
    refine List.pairwise_append.mpr ⟨pairwise_bySeq areas, List.pairwise_singleton _ _, ?_⟩
    intro earlier member later same
    obtain ⟨id, inside⟩ := mem_bySeq.mp member
    rw [List.mem_singleton.mp same, last]
    exact Nat.le_of_lt (wellFormed.below _ inside)
  refine perm.eq_of_pairwise ?_ (pairwise_bySeq _) placed
  intro first second firstMember secondMember less greater
  exact putWellFormed.eq_of_seq_eq firstMember (perm.mem_iff.mpr secondMember)
    (Nat.le_antisymm less greater)

/-- A changed area stays where it is. -/
theorem WellFormed.bySeq_update (wellFormed : areas.WellFormed tree owner bound) (id : AreaId)
    {change : Area → Area} (sameSeq : ∀ area, (change area).seq = area.seq) :
    bySeq (Entries.update id change areas) =
      areas.bySeq.map fun area => if area.id = id then change area else area := by
  have values : Entries.values (Entries.update id change areas) =
      (Entries.values areas).map fun area => if area.id = id then change area else area := by
    rw [Entries.values, Entries.values, Entries.update, List.map_map, List.map_map]
    refine List.map_congr_left fun entry member => ?_
    rw [Function.comp_apply, Function.comp_apply, wellFormed.keys entry member]
    split
    · rfl
    · rfl
  have seq (area : Area) : (if area.id = id then change area else area).seq = area.seq := by
    split
    · exact sameSeq area
    · rfl
  rw [bySeq, values, bySeq]
  refine (List.map_mergeSort ?_).symm
  intro left _ right _
  rw [seq, seq]

/-- Areas in the order of creation have different raw ids. -/
theorem WellFormed.pairwise_raw_bySeq (wellFormed : areas.WellFormed tree owner bound) :
    areas.bySeq.Pairwise fun first second => first.id.raw ≠ second.id.raw := by
  have ids : (Entries.values areas).map Area.id = Entries.keys areas := by
    rw [Entries.values, List.map_map, Entries.keys]
    exact List.map_congr_left wellFormed.keys
  have nodup : (areas.bySeq.map Area.id).Nodup := by
    refine (((List.mergeSort_perm (Entries.values areas) _).map Area.id).nodup_iff).mpr ?_
    rw [ids]
    exact Entries.nodup_keys_of_sorted wellFormed.sorted
  refine (List.pairwise_map.mp nodup).imp_of_mem ?_
  intro first second firstMember secondMember different same
  obtain ⟨_, firstInside⟩ := mem_bySeq.mp firstMember
  obtain ⟨_, secondInside⟩ := mem_bySeq.mp secondMember
  have firstOwner : first.id.owner = owner := (wellFormed.each _ firstInside).owner
  have secondOwner : second.id.owner = owner := (wellFormed.each _ secondInside).owner
  exact different (AreaId.eq_of_raw_eq same (firstOwner.trans secondOwner.symm))

end Order

end Areas

end Labeling
