import Labeling.Proofs.Annotating.WellFormed
import Mathlib.Data.List.Induction

/-!
# Superseded classifications

Of the classifications that one control created only the newest one stays. A classification is
superseded just if there is a newer one of its control (`isSuperseded_iff`), so that an area is
superseded by one alone, whatever else is there. Therefore superseded areas may be removed as often
as one likes before newer areas come: in the end the same areas are left (`unsuperseded_put`).
-/
namespace Labeling

/-- An area is a classification by the control that created an older one. -/
structure Area.Supersedes (newer older : Area) : Prop where
  /-- The newer area classifies the task. -/
  classifies : newer.classification = true
  /-- So does the older one. -/
  classified : older.classification = true
  /-- The same control created both. -/
  control : ∃ control, newer.control? = some control ∧ older.control? = some control
  /-- The newer area came later. -/
  later : older.seq < newer.seq

namespace AnnotationState

/-- Of some areas one is the newest. -/
theorem exists_newestOf {areas : List Area} (nonempty : areas ≠ []) :
    ∃ newest ∈ areas, newestOf areas = some newest ∧ ∀ area ∈ areas, area.seq ≤ newest.seq := by
  induction areas using List.reverseRecOn with
  | nil => contradiction
  | append_singleton areas last hypothesis =>
    by_cases empty : areas = []
    · subst empty
      exact ⟨last, List.mem_singleton_self last, rfl, fun area member =>
        Nat.le_of_eq (congrArg Area.seq (List.mem_singleton.mp member))⟩
    · obtain ⟨newest, member, found, greatest⟩ := hypothesis empty
      have step : newestOf (areas ++ [last]) =
          if newest.seq < last.seq then some last else some newest := by
        rw [newestOf] at found ⊢
        rw [List.foldl_append, found]
        rfl
      rw [step]
      split
      · rename_i less
        refine ⟨last, List.mem_append_right _ (List.mem_singleton_self last), rfl, ?_⟩
        intro area inside
        rcases List.mem_append.mp inside with earlier | same
        · exact Nat.le_trans (greatest area earlier) (Nat.le_of_lt less)
        · rw [List.mem_singleton.mp same]
      · rename_i notLess
        refine ⟨newest, List.mem_append_left _ member, rfl, ?_⟩
        intro area inside
        rcases List.mem_append.mp inside with earlier | same
        · exact greatest area earlier
        · rw [List.mem_singleton.mp same]
          exact Nat.le_of_not_lt notLess

section Areas

variable {tree : ElementTree} {owner : String} {bound : Nat} {areas : Areas}

/-- The classifications that a control created. -/
theorem mem_classifications_iff {control : String} {area : Area} :
    area ∈ areas.classifications.filter (·.control? == some control) ↔
      (∃ key, (key, area) ∈ areas) ∧ area.classification = true ∧
        area.control? = some control := by
  rw [List.mem_filter, Areas.classifications, List.mem_filter, Entries.mem_values, beq_iff_eq,
    and_assoc]

/-- An area is superseded just if there is one that supersedes it. -/
theorem isSuperseded_iff (wellFormed : areas.WellFormed tree owner bound) {id : AreaId}
    {area : Area} (member : (id, area) ∈ areas) :
    isSuperseded areas area = true ↔ ∃ entry ∈ areas, entry.2.Supersedes area := by
  rw [isSuperseded, Bool.and_eq_true]
  cases named : area.control? with
  | none =>
    constructor
    · rintro ⟨-, impossible⟩
      contradiction
    · rintro ⟨entry, -, -, -, ⟨control, -, created⟩, -⟩
      rw [named] at created
      contradiction
  | some control =>
    dsimp only
    constructor
    · rintro ⟨classifies, superseded⟩
      have present := mem_classifications_iff.mpr ⟨⟨id, member⟩, classifies, named⟩
      obtain ⟨newest, inside, found, greatest⟩ := exists_newestOf (List.ne_nil_of_mem present)
      obtain ⟨⟨key, stored⟩, newestClassifies, created⟩ := mem_classifications_iff.mp inside
      rw [newestOfControl, found] at superseded
      refine ⟨(key, newest), stored, newestClassifies, classifies, ⟨control, created, named⟩, ?_⟩
      have differs : newest.seq ≠ area.seq := by
        intro same
        have sameKey : key = id := wellFormed.distinct _ stored _ member same
        have newestId : newest.id = key := wellFormed.keys _ stored
        have areaId : area.id = id := wellFormed.keys _ member
        exact of_decide_eq_true superseded (newestId.trans (sameKey.trans areaId.symm))
      have bounded := greatest area present
      exact Nat.lt_of_le_of_ne bounded differs.symm
    · rintro ⟨⟨key, newer⟩, stored, supersedes⟩
      obtain ⟨other, newerCreated, areaCreated⟩ := supersedes.control
      have sameControl : other = control := Option.some.inj (areaCreated.symm.trans named)
      have inside := mem_classifications_iff.mpr
        ⟨⟨key, stored⟩, supersedes.classifies, sameControl ▸ newerCreated⟩
      obtain ⟨newest, newestInside, found, greatest⟩ :=
        exists_newestOf (List.ne_nil_of_mem inside)
      obtain ⟨⟨newestKey, newestStored⟩, -, -⟩ := mem_classifications_iff.mp newestInside
      rw [newestOfControl, found]
      refine ⟨supersedes.classified, decide_eq_true fun same => ?_⟩
      have newestId : newest.id = newestKey := wellFormed.keys _ newestStored
      have areaId : area.id = id := wellFormed.keys _ member
      rw [← newestId, same, areaId] at newestStored
      have equal : newest = area := Option.some.inj
        ((Entries.get?_of_mem wellFormed.sorted newestStored).symm.trans
          (Entries.get?_of_mem wellFormed.sorted member))
      have bounded := greatest newer inside
      rw [equal] at bounded
      exact absurd supersedes.later (Nat.not_lt_of_le bounded)

/-- The areas without the superseded ones. -/
def unsuperseded (areas : Areas) : Areas := areas.filter fun entry => !isSuperseded areas entry.2

/-- The areas that are left are those that none supersedes. -/
theorem mem_unsuperseded (wellFormed : areas.WellFormed tree owner bound)
    {entry : AreaId × Area} : entry ∈ unsuperseded areas ↔
      entry ∈ areas ∧ ∀ newer ∈ areas, ¬ newer.2.Supersedes entry.2 := by
  rw [unsuperseded, List.mem_filter, Bool.not_eq_true', ← Bool.not_eq_true]
  refine and_congr_right fun member => ?_
  rw [isSuperseded_iff wellFormed member]
  simp

/-- The areas that are left are well formed. -/
theorem wellFormed_unsuperseded (wellFormed : areas.WellFormed tree owner bound) :
    (unsuperseded areas).WellFormed tree owner bound := wellFormed.filter _

/-- An area that does not classify the task is left. -/
theorem get?_unsuperseded {id : AreaId} {area : Area}
    (wellFormed : areas.WellFormed tree owner bound) (found : areas.get? id = some area)
    (region : area.classification = false) : (unsuperseded areas).get? id = some area := by
  refine Entries.get?_of_mem (wellFormed_unsuperseded wellFormed).sorted
    ((mem_unsuperseded wellFormed).mpr ⟨Entries.mem_of_get? found, fun newer _ supersedes => ?_⟩)
  exact Bool.false_ne_true (region.symm.trans supersedes.classified)

/-- There is no area left that was not there. -/
theorem has_of_has_unsuperseded {id : AreaId} (present : (unsuperseded areas).has id = true) :
    areas.has id = true := by
  rw [Entries.has_iff_mem_keys] at present ⊢
  obtain ⟨entry, member, same⟩ := List.mem_map.mp present
  exact List.mem_map.mpr ⟨entry, (List.mem_filter.mp member).1, same⟩

/-- Sorted areas are the same if the same entries are among them. -/
theorem eq_of_mem_iff {left right : Areas} (leftSorted : Entries.Sorted left)
    (rightSorted : Entries.Sorted right) (same : ∀ entry, entry ∈ left ↔ entry ∈ right) :
    left = right := by
  refine Entries.ext_of_sorted leftSorted rightSorted fun key => Option.ext fun value => ?_
  constructor
  · intro found
    exact Entries.get?_of_mem rightSorted ((same _).mp (Entries.mem_of_get? found))
  · intro found
    exact Entries.get?_of_mem leftSorted ((same _).mpr (Entries.mem_of_get? found))

/-- Nothing is superseded among what is left. -/
theorem unsuperseded_unsuperseded (wellFormed : areas.WellFormed tree owner bound) :
    unsuperseded (unsuperseded areas) = unsuperseded areas := by
  have left := wellFormed_unsuperseded wellFormed
  refine eq_of_mem_iff (wellFormed_unsuperseded left).sorted left.sorted fun entry => ?_
  rw [mem_unsuperseded left]
  refine and_iff_left_of_imp fun member newer inside => ?_
  exact ((mem_unsuperseded wellFormed).mp member).2 newer
    ((mem_unsuperseded wellFormed).mp inside).1

/-- A new area with a new id is among the others. -/
theorem mem_put_iff {id : AreaId} (area : Area) (absent : areas.has id = false)
    {entry : AreaId × Area} :
    entry ∈ Entries.put id area areas ↔ entry = (id, area) ∨ entry ∈ areas := by
  have perm := Entries.perm_put area ((Entries.has_eq_false_iff _ _).mp absent)
  rw [perm.mem_iff, List.mem_cons]

/-- Superseded areas may be removed before a newer area comes. -/
theorem unsuperseded_put (wellFormed : areas.WellFormed tree owner bound) {area : Area}
    (made : area.WellFormed tree owner) (last : area.seq = bound)
    (absent : areas.has area.id = false) :
    unsuperseded (Entries.put area.id area (unsuperseded areas)) =
      unsuperseded (Entries.put area.id area areas) := by
  have fewer := wellFormed_unsuperseded wellFormed
  have fewerAbsent : (unsuperseded areas).has area.id = false := by
    rw [← Bool.not_eq_true] at absent ⊢
    exact mt has_of_has_unsuperseded absent
  have first := fewer.put made last
  have second := wellFormed.put made last
  have newest {older : Area} {id : AreaId} (member : (id, older) ∈ areas) :
      ¬ older.Supersedes area := by
    intro supersedes
    have below : older.seq < bound := wellFormed.below _ member
    have later := supersedes.later
    omega
  refine eq_of_mem_iff (wellFormed_unsuperseded first).sorted
    (wellFormed_unsuperseded second).sorted fun entry => ?_
  rw [mem_unsuperseded first, mem_unsuperseded second, mem_put_iff area fewerAbsent,
    mem_put_iff area absent, mem_unsuperseded wellFormed]
  constructor
  · rintro ⟨new | ⟨old, unchallenged⟩, left⟩
    · refine ⟨Or.inl new, fun newer member supersedes => ?_⟩
      rcases (mem_put_iff area absent).mp member with same | inside
      · rw [new, same] at supersedes
        exact Nat.lt_irrefl _ supersedes.later
      · rw [new] at supersedes
        exact newest inside supersedes
    · refine ⟨Or.inr old, fun newer member supersedes => ?_⟩
      rcases (mem_put_iff area absent).mp member with same | inside
      · exact left newer ((mem_put_iff area fewerAbsent).mpr (Or.inl same)) supersedes
      · exact unchallenged newer inside supersedes
  · rintro ⟨present, left⟩
    have left' (newer : AreaId × Area) (member : newer ∈ areas) : ¬ newer.2.Supersedes entry.2 :=
      left newer ((mem_put_iff area absent).mpr (Or.inr member))
    refine ⟨present.imp_right fun old => ⟨old, left'⟩, fun newer member supersedes => ?_⟩
    refine left newer ((mem_put_iff area absent).mpr ?_) supersedes
    rcases (mem_put_iff area fewerAbsent).mp member with same | inside
    · exact Or.inl same
    · exact Or.inr ((mem_unsuperseded wellFormed).mp inside).1

end Areas

variable {state : AnnotationState}

/-- Removing superseded classifications leaves the other areas. -/
theorem areas_cleaned {bound : Nat}
    (wellFormed : state.areas.WellFormed state.tree state.id bound) :
    state.cleaned.1.areas = unsuperseded state.areas := by
  let stale := state.areas.values.filter (isSuperseded state.areas)
  have mem_stale {area : Area} : area ∈ stale ↔
      (∃ key, (key, area) ∈ state.areas) ∧ isSuperseded state.areas area = true := by
    rw [List.mem_filter, Entries.mem_values]
  rw [cleaned]
  dsimp only
  split
  · rename_i empty
    refine (List.filter_eq_self.mpr fun entry member => ?_).symm
    rw [Bool.not_eq_true', ← Bool.not_eq_true]
    intro superseded
    have inside : entry.2 ∈ stale := mem_stale.mpr ⟨⟨entry.1, member⟩, superseded⟩
    have none : stale = [] := List.isEmpty_iff.mp empty
    exact List.not_mem_nil (none ▸ inside)
  · refine List.filter_congr fun entry member => congrArg (!·) (Bool.eq_iff_iff.mpr ?_)
    rw [List.contains_iff_mem, List.mem_map]
    constructor
    · rintro ⟨area, inside, same⟩
      obtain ⟨⟨key, stored⟩, superseded⟩ := mem_stale.mp inside
      have named : area.id = key := wellFormed.keys _ stored
      rw [← named, same] at stored
      have equal : area = entry.2 := Option.some.inj
        ((Entries.get?_of_mem wellFormed.sorted stored).symm.trans
          (Entries.get?_of_mem wellFormed.sorted member))
      exact equal ▸ superseded
    · intro superseded
      exact ⟨entry.2, mem_stale.mpr ⟨⟨entry.1, member⟩, superseded⟩, wellFormed.keys _ member⟩

/-- Besides that it changes nothing but the selection and the values of the controls. -/
theorem cleaned_eq (state : AnnotationState) : ∃ selection controlValues,
    state.cleaned.1 = { state with
      areas := state.cleaned.1.areas, selection := selection, controlValues := controlValues } := by
  rw [cleaned]
  split
  · exact ⟨_, _, rfl⟩
  · exact ⟨_, _, rfl⟩

end AnnotationState
end Labeling
