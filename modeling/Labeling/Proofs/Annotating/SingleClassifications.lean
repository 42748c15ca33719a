import Labeling.Proofs.Annotating.RelationEnds
import Labeling.Proofs.Annotating.Reshaping
import Labeling.Proofs.Annotating.Undoing

/-!
# One classification for each control

A control that classifies the whole task is meant to have one area at most. Creating an area,
accepting suggestions and cleaning end with the removal of superseded classifications, and leave one
for each control whatever was there before. No other operation adds a classification, apart from
loads, which remove nothing: `run_single_iff`.
-/
namespace Labeling

/-- No control has created two areas that classify the task. -/
def Areas.Single (areas : Areas) : Prop :=
  ∀ left ∈ areas, ∀ right ∈ areas, left.2.classification = true →
    right.2.classification = true → left.2.control? = right.2.control? → left.1 = right.1

instance (areas : Areas) : Decidable areas.Single :=
  inferInstanceAs (Decidable (∀ left ∈ areas, ∀ right ∈ areas, _ → _ → _ → _))

namespace Areas.Single

variable {areas : Areas}

/-- Fewer areas stay single. -/
theorem subset {fewer : Areas} (single : areas.Single) (among : fewer ⊆ areas) : fewer.Single :=
  fun left leftInside right rightInside =>
    single left (among leftInside) right (among rightInside)

/-- A change that leaves an area a classification by its control or none leaves areas single. -/
theorem update (single : areas.Single) (nonempty : ∀ entry ∈ areas, entry.2.results ≠ [])
    (id : AreaId) {change : Area → Area}
    (classification : ∀ area, (change area).classification = area.classification)
    (control : ∀ area, area.results ≠ [] → (change area).control? = area.control?) :
    Single (Entries.update id change areas) := by
  have source {entry : AreaId × Area} (inside : entry ∈ Entries.update id change areas) :
      ∃ former ∈ areas, entry.1 = former.1 ∧
        entry.2.classification = former.2.classification ∧
        entry.2.control? = former.2.control? := by
    rcases Entries.mem_update inside with old | ⟨former, stored, same⟩
    · exact ⟨entry, old, rfl, rfl, rfl⟩
    · rw [same]
      exact ⟨(id, former), stored, rfl, classification former,
        control former (nonempty _ stored)⟩
  intro left leftInside right rightInside leftClassifies rightClassifies same
  obtain ⟨leftFormer, leftStored, leftKey, leftFlag, leftControl⟩ := source leftInside
  obtain ⟨rightFormer, rightStored, rightKey, rightFlag, rightControl⟩ := source rightInside
  rw [leftFlag] at leftClassifies
  rw [rightFlag] at rightClassifies
  rw [leftControl, rightControl] at same
  rw [leftKey, rightKey]
  exact single _ leftStored _ rightStored leftClassifies rightClassifies same

end Areas.Single

/-- Whether an operation ends with the removal of superseded classifications. -/
def Operation.sweeps : Operation → Bool
  | .create .. => true
  | .accept _ => true
  | .acceptAll => true
  | .clean => true
  | _ => false

namespace AnnotationState

variable {state : AnnotationState} {operation : Operation}

/-! ## What the removal leaves -/

/-- An area that is left under its id was there and is not superseded. -/
theorem not_superseded_of_mem_cleaned {entry : AreaId × Area}
    (left : entry ∈ state.cleaned.1.areas) (named : entry.2.id = entry.1) :
    entry ∈ state.areas ∧ isSuperseded state.areas entry.2 = false := by
  let stale := state.areas.values.filter (isSuperseded state.areas)
  have mem_stale (inside : entry ∈ state.areas)
      (superseded : isSuperseded state.areas entry.2 = true) : entry.2 ∈ stale :=
    List.mem_filter.mpr ⟨Entries.mem_values.mpr ⟨entry.1, inside⟩, superseded⟩
  rw [cleaned] at left
  dsimp only at left
  split at left
  · rename_i empty
    refine ⟨left, Bool.eq_false_iff.mpr fun superseded => ?_⟩
    exact List.ne_nil_of_mem (mem_stale left superseded) (List.isEmpty_iff.mp empty)
  · obtain ⟨inside, kept⟩ := List.mem_filter.mp left
    refine ⟨inside, Bool.eq_false_iff.mpr fun superseded => ?_⟩
    have gone : entry.1 ∈ stale.map Area.id :=
      List.mem_map.mpr ⟨entry.2, mem_stale inside superseded, named⟩
    rw [List.contains_iff_mem.mpr gone] at kept
    contradiction

/-- A classification that is left is the newest one of its control. -/
theorem newest_of_mem_cleaned {entry : AreaId × Area} (left : entry ∈ state.cleaned.1.areas)
    (named : entry.2.id = entry.1) (classifies : entry.2.classification = true)
    {control : String} (created : entry.2.control? = some control) :
    (newestOfControl state.areas control).map Area.id = some entry.1 := by
  obtain ⟨inside, stays⟩ := not_superseded_of_mem_cleaned left named
  have present := mem_classifications_iff.mpr ⟨⟨entry.1, inside⟩, classifies, created⟩
  obtain ⟨newest, -, found, -⟩ := exists_newestOf (List.ne_nil_of_mem present)
  have same : newest.id = entry.2.id := by
    simpa [isSuperseded, classifies, created, newestOfControl, found] using stays
  rw [newestOfControl, found, Option.map_some, same, named]

/-- The removal of superseded classifications leaves one for each control. -/
theorem single_cleaned {tree : ElementTree} {owner : String} {bound : Nat}
    (wellFormed : state.cleaned.1.areas.WellFormed tree owner bound) :
    state.cleaned.1.areas.Single := by
  intro left leftInside right rightInside leftClassifies rightClassifies same
  obtain ⟨first, rest, whole⟩ :=
    List.exists_cons_of_ne_nil (wellFormed.each left leftInside).nonempty
  have created : left.2.control? = some first.fromName := by rw [Area.control?, whole]; rfl
  -- Both are the newest area of the control, which is one area.
  have leftNewest := newest_of_mem_cleaned leftInside (wellFormed.keys left leftInside)
    leftClassifies created
  have rightNewest := newest_of_mem_cleaned rightInside (wellFormed.keys right rightInside)
    rightClassifies (same ▸ created)
  exact Option.some.inj (leftNewest.symm.trans rightNewest)

/-- Recording leaves the areas alone. -/
theorem areas_recorded (state : AnnotationState) : state.recorded.areas = state.areas := rfl

/-- An operation that ends with the removal fails, or leaves what the removal leaves. -/
theorem perform_sweeps (state : AnnotationState) (sweeps : operation.sweeps = true) :
    (∃ cause, (state.perform operation).2 = .failure cause) ∨
      ∃ middle : AnnotationState, (state.perform operation).1.areas = middle.cleaned.1.areas := by
  cases operation with
  | create shape value control object =>
    cases created : state.create shape value control object with
    | ok success =>
      obtain ⟨_, _, middle, made, -⟩ := create_eq_ok created
      exact Or.inr ⟨middle, by rw [perform, created, attempt, made, areas_recorded]⟩
    | error cause => exact Or.inl ⟨cause, by rw [perform, created, attempt]⟩
  | accept id =>
    cases accepted : state.accept id with
    | ok success =>
      obtain ⟨suggestion, -, made⟩ := accept_eq_ok accepted
      exact Or.inr ⟨_, by rw [perform, accepted, attempt, made, areas_recorded]⟩
    | error cause => exact Or.inl ⟨cause, by rw [perform, accepted, attempt]⟩
  | acceptAll =>
    obtain ⟨_, _, made⟩ := perform_acceptAll state
    exact Or.inr ⟨state.allAccepted.promoteRelations, by rw [made]; rfl⟩
  | clean => exact Or.inr ⟨state, rfl⟩
  | _ => contradiction

/-! ## Runs -/

/-- A load leaves no control with two classifications. -/
def LoadsSingle (state : AnnotationState) (operation : Operation) : Prop :=
  ∀ loading, state.loading? operation = some loading → loading.applied.areas.Single

/-- No control has two classifications, neither now nor in a state that the history may hand
out. -/
structure SingleThroughout (state : AnnotationState) : Prop where
  /-- The areas are well formed. -/
  wellFormed : state.WellFormed
  /-- No control has two classifications now. -/
  present : state.areas.Single
  /-- Nor has it in a state that the history may hand out. -/
  holds : ∀ held, state.history.Holds held → held.areas.Single

/-- An operation leaves no control with two classifications just when none is loaded. -/
theorem SingleThroughout.perform_iff (before : state.SingleThroughout) (operation : Operation) :
    (state.perform operation).1.areas.Single ↔ state.LoadsSingle operation := by
  cases loads : state.loading? operation with
  | some loading =>
    rw [(perform_loading loads).1]
    constructor
    · intro single other found
      rw [loads] at found
      cases found
      exact single
    · exact fun single => single loading loads
  | none =>
    refine iff_of_true ?_ fun loading found => by rw [loads] at found; contradiction
    have wellFormed := (perform_wellFormed before.wellFormed operation).sound.areas
    obtain ⟨reshapes, -⟩ := reshapes_perform operation loads
    generalize (state.perform operation).1.areas = areas at reshapes wellFormed ⊢
    cases reshapes with
    | fewer among => exact before.present.subset among
    | changed id classification control =>
      exact before.present.update
        (fun entry inside => (before.wellFormed.sound.areas.each entry inside).nonempty) id
        classification control
    -- Here it does not matter what was there before.
    | swept => exact single_cleaned wellFormed
    | handed holds => exact before.holds _ holds

/-- What the history holds stays single if the areas do. -/
theorem SingleThroughout.perform (before : state.SingleThroughout) (operation : Operation)
    (single : (state.perform operation).1.areas.Single) :
    (state.perform operation).1.SingleThroughout := by
  refine ⟨perform_wellFormed before.wellFormed operation, single, fun held holds => ?_⟩
  rcases holds_perform state operation holds with old | new
  · exact before.holds held old
  · exact new ▸ single

/-- In a run from a new annotation of a bound tree no control ever has two areas that classify the
task just when no load leaves one with two. Whatever was there before, creating an area, accepting
suggestions and removing superseded classifications leave no control with two. -/
theorem run_single_iff (id : String) (kind : AnnotationKind) (config : ConfigTree)
    (catalogue : Catalogue) (task : Option Json) (settings : Settings) (session : Session)
    (operations : List Operation) :
    let first := start id kind (.ofConfig config catalogue task) settings session
    ((∀ before after, operations = before ++ after → (first.run before).areas.Single) ↔
      ∀ before operation after, operations = before ++ operation :: after →
        (first.run before).LoadsSingle operation) ∧
    ∀ operation : Operation, operation.sweeps = true →
      (∀ cause, ((first.run operations).perform operation).2 ≠ .failure cause) →
        ((first.run operations).perform operation).1.areas.Single := by
  intro first
  have begun : first.SingleThroughout := by
    refine ⟨wellFormed_start id kind config catalogue task settings session, ?_,
      fun held holds => ?_⟩
    · exact List.forall_mem_nil _
    · rw [History.Holds.of_attach holds]
      exact List.forall_mem_nil _
  refine ⟨run_iff (fun _ before => before.present) (fun _ before => before.perform_iff)
    (fun _ before => before.perform) begun operations, fun operation sweeps succeeds => ?_⟩
  have before : (first.run operations).WellFormed :=
    (wellFormed_start id kind config catalogue task settings session).run operations
  have wellFormed := (perform_wellFormed before operation).sound.areas
  rcases perform_sweeps (first.run operations) sweeps with ⟨cause, failed⟩ | ⟨middle, made⟩
  · exact absurd failed (succeeds cause)
  · rw [made] at wellFormed ⊢
    exact single_cleaned wellFormed

set_option maxRecDepth 10000 in
/-- A loaded mood is the only one of its control, and still is once another one is created and
superseded ones are removed. -/
theorem loadedMood_single :
    let first := start "1" .manual (.ofConfig moodConfig .standard none) {} {}
    let operations := [.loadItems (moodItems ["good"]) {},
      .create {} [("choices", .array [.string "good"])] "mood" "text"]
    (∀ before operation after, operations = before ++ operation :: after →
        (first.run before).LoadsSingle operation) ∧
      (∀ before after, operations = before ++ after → (first.run before).areas.Single) ∧
      Operation.clean.sweeps = true ∧
      (∀ cause, ((first.run operations).perform .clean).2 ≠ .failure cause) ∧
      ((first.run operations).perform .clean).1.areas.Single := by
  intro first operations
  obtain ⟨runs, sweeps⟩ :=
    run_single_iff "1" .manual moodConfig .standard none {} {} operations
  have fits (before : List Operation) (operation : Operation) (after : List Operation)
      (whole : operations = before ++ operation :: after) :
      (first.run before).LoadsSingle operation := by
    intro loading loads
    rcases before with _ | ⟨earlier, before⟩
    · have load := (List.cons.inj whole).1
      rw [← load] at loads
      cases loads
      show Areas.Single (Loading.applied ⟨first, _, _⟩).areas
      decide +kernel
    · rcases before with _ | ⟨later, before⟩
      · have create := (List.cons.inj (List.cons.inj whole).2).1
        rw [← create] at loads
        contradiction
      · simp [operations] at whole
  have succeeds (state : AnnotationState) (cause : Failure) :
      (state.perform .clean).2 ≠ .failure cause := fun same => nomatch same
  refine ⟨fits, runs.mpr fits, rfl, succeeds _, ?_⟩
  subst first
  exact sweeps .clean rfl (succeeds _)

set_option maxRecDepth 10000 in
/-- Not every control has one classification at most: two moods may be loaded. -/
theorem loadedMoods_not_single :
    ¬ ∀ (config : ConfigTree) (task : Option Json) (settings : Settings) (id : String)
        (operations : List Operation),
      ((start id .manual (.ofConfig config .standard task) settings {}).run
        operations).areas.Single := by
  intro single
  have double : ¬ ((start "1" .manual (.ofConfig moodConfig .standard none) {} {}).run
      [.loadItems moodsOfTwo {}]).areas.Single := by decide +kernel
  exact double (single moodConfig none {} "1" _)

end AnnotationState
end Labeling
