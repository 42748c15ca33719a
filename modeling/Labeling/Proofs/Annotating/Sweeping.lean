import Labeling.Proofs.Annotating.AcceptingOne
import Labeling.Proofs.Annotating.ControlValues
import Labeling.Proofs.Annotating.Turns
import Labeling.Proofs.Annotating.Undoing

/-!
# Removing superseded classifications

The classifications that a control created have different places in the order of creation, so that
one of them is the newest (`existsUnique_isNewest`). Removing superseded classifications leaves just
these and every region, takes from the selection what is gone, and tells how many areas that is; a
second time there is nothing left to remove: `run_swept`.
-/
namespace Labeling

/-- Of the classifications that one control created just one is the newest. -/
theorem Areas.WellFormed.existsUnique_isNewest {tree : ElementTree} {owner : String} {bound : Nat}
    {areas : Areas} (wellFormed : areas.WellFormed tree owner bound) {entry : AreaId × Area}
    (inside : entry ∈ areas) (classifies : entry.2.classification = true) :
    ∃! newest, areas.IsNewest newest ∧ newest.2.control? = entry.2.control? := by
  obtain ⟨control, created⟩ := AnnotationState.exists_control (wellFormed.each entry inside)
  have candidate := AnnotationState.mem_classifications_iff.mpr
    ⟨⟨entry.1, inside⟩, classifies, created⟩
  obtain ⟨newest, member, -, greatest⟩ :=
    AnnotationState.exists_newestOf (List.ne_nil_of_mem candidate)
  obtain ⟨⟨key, stored⟩, newestClassifies, newestCreated⟩ :=
    AnnotationState.mem_classifications_iff.mp member
  have isNewest : areas.IsNewest (key, newest) := by
    refine ⟨stored, newestClassifies, fun rival rivalInside rivalClassifies same => ?_⟩
    exact greatest rival.2 (AnnotationState.mem_classifications_iff.mpr
      ⟨⟨rival.1, rivalInside⟩, rivalClassifies, same.trans newestCreated⟩)
  refine ⟨(key, newest), ⟨isNewest, newestCreated.trans created.symm⟩, ?_⟩
  rintro other ⟨otherNewest, otherCreated⟩
  have control : other.2.control? = newest.control? :=
    otherCreated.trans (created.trans newestCreated.symm)
  -- Each is at least as new as the other one, and a place in the order has one area.
  have seq : other.2.seq = newest.seq :=
    Nat.le_antisymm (isNewest.newest other otherNewest.inside otherNewest.classifies control)
      (otherNewest.newest _ stored newestClassifies control.symm)
  have id : other.1 = key := wellFormed.distinct other otherNewest.inside _ stored seq
  have found := Entries.get?_of_mem wellFormed.sorted otherNewest.inside
  rw [id, Entries.get?_of_mem wellFormed.sorted stored] at found
  exact Prod.ext id (Option.some.inj found).symm

namespace AnnotationState

variable {state : AnnotationState}

/-- The removal tells how many areas are superseded. -/
theorem count_cleaned (state : AnnotationState) :
    state.cleaned.2 = (state.areas.values.filter (isSuperseded state.areas)).length := by
  rw [cleaned]
  dsimp only
  split
  · rename_i none
    rw [List.isEmpty_iff.mp none]
    rfl
  · rfl

/-- The removal tells how many areas are gone. -/
theorem count_cleaned_eq_removed {bound : Nat}
    (wellFormed : state.areas.WellFormed state.tree state.id bound) :
    state.cleaned.2 =
      (state.areas.filter fun entry => !state.cleaned.1.areas.has entry.1).length := by
  have left := wellFormed_unsuperseded wellFormed
  rw [count_cleaned, Entries.values, List.filter_map, List.length_map, areas_cleaned wellFormed]
  refine congrArg List.length (List.filter_congr fun entry member => ?_)
  show isSuperseded state.areas entry.2 = !Entries.has entry.1 (unsuperseded state.areas)
  rw [Bool.eq_iff_iff, Bool.not_eq_true', Entries.has_eq_false_iff, Entries.get?_eq_none_iff]
  constructor
  · intro superseded present
    obtain ⟨other, inside, same⟩ := List.mem_map.mp present
    obtain ⟨stored, kept⟩ := List.mem_filter.mp inside
    have found := Entries.get?_of_mem wellFormed.sorted stored
    rw [same, Entries.get?_of_mem wellFormed.sorted member] at found
    rw [← Option.some.inj found, superseded] at kept
    contradiction
  · intro absent
    by_contra unchallenged
    refine absent (List.mem_map.mpr ⟨entry, List.mem_filter.mpr ⟨member, ?_⟩, rfl⟩)
    exact (Bool.not_eq_true' _).mpr (Bool.eq_false_iff.mpr unchallenged)

/-- Behind a removal nothing is superseded any more. -/
theorem cleaned_cleaned {bound : Nat}
    (wellFormed : state.areas.WellFormed state.tree state.id bound) :
    state.cleaned.1.cleaned = (state.cleaned.1, 0) := by
  have continues := continues_cleaned state
  have areas := areas_cleaned wellFormed
  have left : state.cleaned.1.areas.WellFormed state.cleaned.1.tree state.cleaned.1.id bound := by
    rw [areas, continues.tree, continues.id]
    exact wellFormed_unsuperseded wellFormed
  have same : state.cleaned.1.cleaned.1.areas = state.cleaned.1.areas := by
    rw [areas_cleaned left, areas, unsuperseded_unsuperseded wellFormed]
  have none : state.cleaned.1.cleaned.2 = 0 := by
    rw [count_cleaned_eq_removed left, same, List.length_eq_zero_iff, List.filter_eq_nil_iff]
    intro entry member
    rw [Bool.not_eq_true', Bool.not_eq_false]
    exact (Entries.has_iff_mem_keys _ _).mpr (Entries.mem_keys member)
  exact Prod.ext (cleaned_eq_self none) none

/-- What removing superseded classifications makes of an annotation. -/
structure Swept (state next : AnnotationState) : Prop where
  /-- The regions are the former ones. -/
  regions : ∀ entry, entry.2.classification = false →
    (entry ∈ next.areas ↔ entry ∈ state.areas)
  /-- The classifications are the former ones that are the newest of their controls. -/
  classifications : ∀ entry, entry ∈ next.areas ∧ entry.2.classification = true ↔
    state.areas.IsNewest entry
  /-- Every control that created a classification has just one. -/
  one : ∀ entry ∈ state.areas, entry.2.classification = true →
    ∃! kept, (kept ∈ next.areas ∧ kept.2.classification = true) ∧
      kept.2.control? = entry.2.control?
  /-- What is gone is no longer selected, the values of the controls are those of the areas that are
  left, and nothing else changes. -/
  rest : next = { state with
    areas := next.areas
    selection := state.selection.filter (next.areas.has ·)
    controlValues := controlValuesOf state.tree next.areas }

/-- The removal of superseded classifications sweeps an annotation. -/
theorem swept_cleaned (sound : state.Sound) (synced : state.Synced) :
    state.Swept state.cleaned.1 := by
  have areas := areas_cleaned sound.areas
  have newest (entry : AreaId × Area) : entry ∈ state.cleaned.1.areas ∧
      entry.2.classification = true ↔ state.areas.IsNewest entry := by
    rw [areas]
    exact isNewest_iff sound.areas
  refine ⟨fun entry region => ?_, newest, fun entry inside classifies => ?_, ?_⟩
  · rw [areas, mem_unsuperseded sound.areas]
    refine and_iff_left_of_imp fun _ newer _ supersedes => ?_
    exact Bool.false_ne_true (region.symm.trans supersedes.classified)
  · simp only [newest]
    exact sound.areas.existsUnique_isNewest inside classifies
  · have selection := selection_cleaned sound.selection
    have values : state.cleaned.1.Synced := synced.perform .clean
    obtain ⟨selected, controlValues, made⟩ := cleaned_eq state
    rw [Synced, (continues_cleaned state).tree] at values
    rw [← selection, ← values, made]

/-- Whatever operations were carried out on an annotation of a bound tree, removing superseded
classifications leaves of the classifications just the newest one of each control, and the regions,
the relations and the suggestions as they are; it takes from the selection the areas that are gone
and answers how many these are. Doing it again changes nothing and answers that there was none. -/
theorem run_swept (id : String) (kind : AnnotationKind) (config : ConfigTree)
    (catalogue : Catalogue) (task : Option Json) (settings : Settings) (session : Session)
    (operations : List Operation) :
    let state :=
      (start id kind (.ofConfig config catalogue task) settings session).run operations
    let next := (state.perform .clean).1
    state.Swept next ∧
      (state.perform .clean).2 =
        .count (state.areas.filter fun entry => !next.areas.has entry.1).length ∧
      (next.perform .clean).1 = next ∧ (next.perform .clean).2 = .count 0 := by
  intro state next
  have sound : state.Sound :=
    ((wellFormed_start id kind config catalogue task settings session).run operations).sound
  have synced : state.Synced := run_controlValues id kind _ settings session operations
  have again : next.cleaned = (next, 0) := cleaned_cleaned sound.areas
  refine ⟨swept_cleaned sound synced, ?_, ?_, ?_⟩
  · exact congrArg Answer.count (count_cleaned_eq_removed sound.areas)
  · show next.cleaned.1 = next
    rw [again]
  · show Answer.count next.cleaned.2 = .count 0
    rw [again]

set_option maxRecDepth 10000 in
/-- Of two loaded moods the later one is left. -/
example :
    let state := (start "1" .manual moodTree {} {}).run [.loadItems moodsOfTwo {}]
    (state.areas.keys, state.cleaned.1.areas.keys, state.cleaned.2) =
      ([⟨"a", "1"⟩, ⟨"b", "1"⟩], [⟨"b", "1"⟩], 1) := by
  decide +kernel

end AnnotationState
end Labeling
