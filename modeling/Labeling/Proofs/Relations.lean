import Labeling.Annotating.Loading
import Labeling.Proofs.Areas

/-!
# Relations of an annotation

Relations that are added one by one join different areas, and no two of them the same ones
(`Relations.Joined`). Written and added to another annotation, such relations are all added again,
in their order (`addRelations_toWire`).
-/
namespace Labeling

namespace Relations

/-- Relations as adding them one by one makes them. -/
structure Joined (owner : String) (relations : Relations) : Prop where
  /-- The ends are areas of the annotation. -/
  owner : ∀ relation ∈ relations, relation.first.owner = owner ∧ relation.second.owner = owner
  /-- The ends are different. -/
  apart : ∀ relation ∈ relations, relation.first ≠ relation.second
  /-- No relation joins what an earlier one joins. -/
  distinct : relations.Pairwise fun earlier later =>
    earlier.connects later.first later.second = false

variable {owner : String} {relations : Relations}

/-- No relations are joined. -/
theorem Joined.nil (owner : String) : Joined owner [] := ⟨by simp, by simp, List.Pairwise.nil⟩

/-- Some of joined relations, in their order, are joined. -/
theorem Joined.sublist (joined : Joined owner relations) {some : Relations}
    (sublist : some.Sublist relations) : Joined owner some where
  owner relation member := joined.owner relation (sublist.subset member)
  apart relation member := joined.apart relation (sublist.subset member)
  distinct := joined.distinct.sublist sublist

/-- The joined relations that pass a test are joined. -/
theorem Joined.filter (joined : Joined owner relations) (test : Relation → Bool) :
    Joined owner (relations.filter test) :=
  joined.sublist List.filter_sublist

/-- Joined relations stay joined as one between areas of the annotation is added. -/
theorem Joined.insert (joined : Joined owner relations) {relation : Relation}
    (first : relation.first.owner = owner) (second : relation.second.owner = owner) :
    Joined owner (relations.insert relation).1 := by
  rw [Relations.insert]
  split
  · rename_i admitted
    rw [admits, Bool.and_eq_true, decide_eq_true_eq, Bool.not_eq_true', List.any_eq_false]
      at admitted
    obtain ⟨apart, distinct⟩ := admitted
    refine ⟨fun other member => ?_, fun other member => ?_, ?_⟩
    · rcases List.mem_append.mp member with old | new
      · exact joined.owner other old
      · rw [List.mem_singleton.mp new]
        exact ⟨first, second⟩
    · rcases List.mem_append.mp member with old | new
      · exact joined.apart other old
      · rw [List.mem_singleton.mp new]
        exact apart
    · refine List.pairwise_append.mpr ⟨joined.distinct, List.pairwise_singleton _ _, ?_⟩
      intro earlier member later last
      rw [List.mem_singleton.mp last]
      exact Bool.eq_false_iff.mpr (distinct earlier member)
  · exact joined

end Relations

namespace AnnotationState

variable {owner other : String}

/-- Joined relations stay joined as those of items are added. -/
theorem joined_addRelations {relations : Relations} (joined : relations.Joined owner)
    (items : List WireRelation) : (addRelations owner relations items).Joined owner := by
  induction items generalizing relations with
  | nil => exact joined
  | cons item rest hypothesis => exact hypothesis (joined.insert rfl rfl)

/-- The relation as another annotation reads it. -/
def carried (other : String) (relation : Relation) : Relation :=
  Relation.ofWire other relation.toWire

/-- Carried ends are the same just when the ends are. -/
theorem carried_end_iff {left right : AreaId} (leftOwner : left.owner = owner)
    (rightOwner : right.owner = owner) :
    (⟨left.raw, other⟩ : AreaId) = ⟨right.raw, other⟩ ↔ left = right := by
  constructor
  · intro same
    exact AreaId.eq_of_raw_eq (AreaId.mk.inj same).1 (leftOwner.trans rightOwner.symm)
  · intro same
    rw [same]

/-- Carried relations join the same areas just when the relations do. -/
theorem connects_carried {relation next : Relation}
    (ends : relation.first.owner = owner ∧ relation.second.owner = owner)
    (nextEnds : next.first.owner = owner ∧ next.second.owner = owner) :
    (carried other relation).connects (carried other next).first (carried other next).second =
      relation.connects next.first next.second := by
  simp only [Relation.connects, carried, Relation.ofWire, Relation.toWire,
    carried_end_iff ends.1 nextEnds.1, carried_end_iff ends.2 nextEnds.2,
    carried_end_iff ends.1 nextEnds.2, carried_end_iff ends.2 nextEnds.1]

/-- Written relations are all added to another annotation, in their order. -/
theorem addRelations_toWire {relations : Relations} (joined : relations.Joined owner) :
    addRelations other [] (relations.map Relation.toWire) = relations.map (carried other) := by
  have from_any (done rest : Relations) (joined : Relations.Joined owner (done ++ rest)) :
      addRelations other (done.map (carried other)) (rest.map Relation.toWire) =
        (done ++ rest).map (carried other) := by
    induction rest generalizing done with
    | nil => rw [List.append_nil]; rfl
    | cons relation rest hypothesis =>
      have inside : relation ∈ done ++ relation :: rest := by simp
      have ends := joined.owner relation inside
      have apart : (carried other relation).first ≠ (carried other relation).second := by
        intro same
        exact joined.apart relation inside ((carried_end_iff ends.1 ends.2).mp same)
      have free : (done.map (carried other)).any
          (·.connects (carried other relation).first (carried other relation).second) = false := by
        rw [List.any_eq_false]
        intro moved member
        obtain ⟨earlier, present, same⟩ := List.mem_map.mp member
        have earlierInside : earlier ∈ done ++ relation :: rest := List.mem_append_left _ present
        rw [← same, connects_carried (joined.owner earlier earlierInside) ends,
          (List.pairwise_append.mp joined.distinct).2.2 earlier present relation
            List.mem_cons_self]
        exact Bool.false_ne_true
      have admitted :
          Relations.admits (done.map (carried other)) (carried other relation) = true := by
        rw [Relations.admits, free, decide_eq_true apart]
        rfl
      have inserted : (Relations.insert (done.map (carried other)) (carried other relation)).1 =
          (done ++ [relation]).map (carried other) := by
        rw [Relations.insert, if_pos admitted, List.map_append]
        rfl
      have next := hypothesis (done ++ [relation]) (by simpa using joined)
      rw [List.append_cons, ← next, ← inserted]
      rfl
  exact from_any [] relations joined

end AnnotationState
end Labeling
