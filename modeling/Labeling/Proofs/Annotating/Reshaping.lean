import Labeling.Proofs.Annotating.Accepting
import Labeling.Proofs.Annotating.Attached

/-!
# How operations change the areas

An operation that loads nothing leaves areas out, changes one of them, puts new ones there and
removes what they supersede, or puts back areas that the history hands out: `reshapes_perform`.
None of these makes an area a classification that was none, or gives it another control, and none
of them adds a suggestion.
-/
namespace Labeling.AnnotationState

variable {state next : AnnotationState} {operation : Operation}

/-- How an area comes without a load. -/
inductive Joins (state : AnnotationState) (operation : Operation) (area : Area) : Prop where
  /-- The operation creates it. It is no classification, or one without a geometry, and nothing of
  it has a score. -/
  | created {value : Value} {control object : String}
    (creates : operation = .create area.shape value control object)
    (classification : area.classification = true → area.shape.isNone = true)
    (unscored : ∀ result ∈ area.results, result.score = none)
  /-- It was a suggestion, with its geometry and its results. -/
  | accepted {id : AreaId} {suggestion : Area} (pending : (id, suggestion) ∈ state.suggestions)
    (classification : area.classification = suggestion.classification)
    (shape : area.shape = suggestion.shape) (results : area.results = suggestion.results)

/-- The scores of a changed area are those of the former one. -/
def KeepsScores (change : Area → Area) : Prop :=
  ∀ area, ∀ result ∈ (change area).results,
    result.score = none ∨ ∃ former ∈ area.results, result.score = former.score

/-- How an operation that loads nothing changes the areas. -/
inductive Reshapes (state : AnnotationState) (operation : Operation) : Areas → Prop where
  /-- There is no area that was not there. -/
  | fewer {areas : Areas} (among : areas ⊆ state.areas) : Reshapes state operation areas
  /-- One area changes. Only an operation that replaces its geometry does so. -/
  | changed (id : AreaId) {change : Area → Area}
    (classification : ∀ area, (change area).classification = area.classification)
    (control : ∀ area, area.results ≠ [] → (change area).control? = area.control?)
    (scores : KeepsScores change)
    (shape : ∀ area, (change area).shape = area.shape ∨
      operation = .updateShape id (change area).shape) :
    Reshapes state operation (state.areas.update id change)
  /-- Areas join the others, and then superseded classifications are removed. -/
  | swept {middle : AnnotationState}
    (each : ∀ entry ∈ middle.areas, entry ∈ state.areas ∨ state.Joins operation entry.2) :
    Reshapes state operation middle.cleaned.1.areas
  /-- The areas of a state that the history may hand out are put back. -/
  | handed {held : Snapshot} (holds : state.history.Holds held) :
    Reshapes state operation held.areas

/-- An operation changes the areas as one that loads nothing does, and adds no suggestion. -/
def Reshaped (state : AnnotationState) (operation : Operation) (next : AnnotationState) : Prop :=
  state.Reshapes operation next.areas ∧ next.suggestions ⊆ state.suggestions

/-- Some of the areas and some of the suggestions are left. -/
theorem reshaped_of_subset (areas : next.areas ⊆ state.areas)
    (suggestions : next.suggestions ⊆ state.suggestions) : state.Reshaped operation next :=
  ⟨.fewer areas, suggestions⟩

/-- The areas and the suggestions stay. -/
theorem reshaped_of_eq (areas : next.areas = state.areas)
    (suggestions : next.suggestions = state.suggestions) : state.Reshaped operation next :=
  reshaped_of_subset (areas ▸ List.Subset.refl _) (suggestions ▸ List.Subset.refl _)

/-- Recording reshapes nothing more. -/
theorem Reshaped.recorded (reshaped : state.Reshaped operation next) :
    state.Reshaped operation next.recorded := by
  obtain ⟨_, _, _, made⟩ := recorded_eq next
  rw [made]
  exact reshaped

/-- Ending a batch reshapes nothing more. -/
theorem Reshaped.committed (reshaped : state.Reshaped operation next) :
    state.Reshaped operation next.committed := by
  obtain ⟨_, _, _, made⟩ := committed_eq next
  rw [made]
  exact reshaped

/-- An operation that may fail reshapes the areas if its success does. -/
theorem reshaped_attempt {α : Type} {result : Except Failure (AnnotationState × α)}
    {answer : α → Answer}
    (reshaped : ∀ next value, result = .ok (next, value) → state.Reshaped operation next) :
    state.Reshaped operation (state.attempt result answer).1 := by
  cases result with
  | ok success => exact reshaped _ _ rfl
  | error failure => exact reshaped_of_eq rfl rfl

/-- The same for operations without a value. -/
theorem reshaped_attemptDone {result : Except Failure AnnotationState}
    (reshaped : ∀ next, result = .ok next → state.Reshaped operation next) :
    state.Reshaped operation (state.attemptDone result).1 := by
  cases result with
  | ok success => exact reshaped _ rfl
  | error failure => exact reshaped_of_eq rfl rfl

/-- The control that created an area is that of its results, however they go on. -/
theorem control?_append (area : Area) (result : AreaResult) (nonempty : area.results ≠ []) :
    { area with results := area.results ++ [result] }.control? = area.control? := by
  obtain ⟨first, rest, whole⟩ := List.exists_cons_of_ne_nil nonempty
  simp [Area.control?, whole]

/-- Another value of a result leaves the control that created the area. -/
theorem control?_setValue (control : String) (value : Value) (area : Area) :
    (setValue control value area).control? = area.control? := by
  rw [Area.control?, Area.control?, setValue]
  cases area.results with
  | nil => rfl
  | cons first rest =>
    dsimp only [changeFirst]
    split
    · rfl
    · rfl

/-- A recorded value leaves the control that created the area. -/
theorem control?_recordedResult (element : Element) (control : String) (value : Value)
    (area : Area) (nonempty : area.results ≠ []) :
    (recordedResult element control value area).control? = area.control? := by
  rw [recordedResult]
  split
  · exact control?_setValue control value area
  · exact control?_append area _ nonempty

/-- Another value of a result has the score of the former one. -/
theorem keepsScores_setValue (control : String) (value : Value) :
    KeepsScores (setValue control value) := by
  intro area result member
  obtain ⟨former, inside, same | changed⟩ := exists_of_mem_changeFirst member
  · exact Or.inr ⟨former, inside, same ▸ rfl⟩
  · exact Or.inr ⟨former, inside, changed ▸ rfl⟩

/-- A recorded value has no score, or the one of the value that it replaces. -/
theorem keepsScores_recordedResult (element : Element) (control : String) (value : Value) :
    KeepsScores (recordedResult element control value) := by
  intro area result member
  rw [recordedResult] at member
  split at member
  · exact keepsScores_setValue control value area result member
  · rcases List.mem_append.mp member with old | new
    · exact Or.inr ⟨result, old, rfl⟩
    · rw [List.mem_singleton.mp new]
      exact Or.inl rfl

/-- A change that keeps the geometry, the results and whether the area classifies. -/
theorem reshaped_changeLive {id : AreaId} {change : Area → Area}
    (changed : state.changeLive id change = .ok next)
    (classification : ∀ area, (change area).classification = area.classification)
    (results : ∀ area, (change area).results = area.results)
    (shape : ∀ area, (change area).shape = area.shape ∨
      operation = .updateShape id (change area).shape) : state.Reshaped operation next := by
  rw [changeLive_eq_ok changed]
  refine ⟨.changed id classification (fun area _ => ?_) (fun area result member => ?_) shape,
    List.Subset.refl _⟩
  · rw [Area.control?, results, Area.control?]
  · rw [results] at member
    exact Or.inr ⟨result, member, rfl⟩

/-- A recorded value. -/
theorem reshaped_addResult {id : AreaId} {control : String} {value : Value}
    (added : state.addResult id control value = .ok next) : state.Reshaped operation next := by
  obtain ⟨element, -, made⟩ := addResult_eq_ok added
  rw [made]
  refine ⟨.changed id (fun area => ?_) (control?_recordedResult element control value)
    (keepsScores_recordedResult element control value) (fun area => Or.inl ?_),
    List.Subset.refl _⟩
  · rw [recordedResult]
    split
    · rfl
    · rfl
  · rw [recordedResult]
    split
    · rfl
    · rfl

/-- A replaced value. -/
theorem reshaped_updateValue {id : AreaId} {control : String} {value : Value}
    (updated : state.updateValue id control value = .ok next) :
    state.Reshaped operation next := by
  rw [updateValue_eq_ok updated]
  exact ⟨.changed id (fun _ => rfl) (fun area _ => control?_setValue control value area)
    (keepsScores_setValue control value) (fun _ => Or.inl rfl), List.Subset.refl _⟩

/-- The removal of superseded classifications only leaves areas out. -/
theorem areas_cleaned_subset (state : AnnotationState) : state.cleaned.1.areas ⊆ state.areas := by
  rw [cleaned]
  split
  · exact List.Subset.refl _
  · exact List.filter_sublist.subset

/-- Areas join, and then superseded classifications are removed. -/
theorem reshaped_swept {middle : AnnotationState}
    (each : ∀ entry ∈ middle.areas, entry ∈ state.areas ∨ state.Joins operation entry.2)
    (suggestions : middle.suggestions ⊆ state.suggestions) :
    state.Reshaped operation middle.cleaned.1 := by
  have same : middle.cleaned.1.suggestions = middle.suggestions := by
    rw [cleaned]
    split
    · rfl
    · rfl
  exact ⟨.swept each, same ▸ suggestions⟩

/-- A created area joins, and what it supersedes is removed. -/
theorem reshaped_create {shape : Shape} {value : Value} {control object : String} {id : AreaId}
    (created : state.create shape value control object = .ok (next, id)) :
    state.Reshaped (.create shape value control object) next := by
  obtain ⟨controlElement, objectElement, changed, made, -, -, -, -, areas, -, suggestions, -⟩ :=
    create_eq_ok created
  rw [made]
  refine (reshaped_swept (fun entry inside => ?_) (suggestions ▸ List.Subset.refl _)).recorded
  rw [areas] at inside
  rcases Entries.mem_put inside with new | old
  · rw [new]
    refine Or.inr (.created rfl (fun classifies => (Bool.and_eq_true_iff.mp classifies).2) ?_)
    exact List.forall_mem_singleton.mpr rfl
  · exact Or.inl old

/-- An accepted suggestion joins the areas. -/
theorem mem_areas_acceptArea {suggestion : Area} {entry : AreaId × Area}
    (inside : entry ∈ (state.acceptArea suggestion).1.areas) :
    entry ∈ state.areas ∨ (entry.2.classification = suggestion.classification ∧
      entry.2.shape = suggestion.shape ∧ entry.2.results = suggestion.results) := by
  obtain ⟨id, session, -, made⟩ := acceptArea_eq state suggestion
  rw [made] at inside
  rcases Entries.mem_put inside with new | old
  · exact Or.inr (new ▸ ⟨rfl, rfl, rfl⟩)
  · exact Or.inl old

/-- Several accepted suggestions join the areas. -/
theorem mem_areas_acceptAreas (pending : List Area) {state : AnnotationState}
    {entry : AreaId × Area} (inside : entry ∈ (state.acceptAreas pending).areas) :
    entry ∈ state.areas ∨ ∃ suggestion ∈ pending,
      entry.2.classification = suggestion.classification ∧
        entry.2.shape = suggestion.shape ∧ entry.2.results = suggestion.results := by
  induction pending generalizing state with
  | nil => exact Or.inl inside
  | cons suggestion rest hypothesis =>
    rcases hypothesis inside with before | ⟨other, member, same⟩
    · exact (mem_areas_acceptArea before).imp_right
        fun same => ⟨suggestion, List.mem_cons_self, same⟩
    · exact Or.inr ⟨other, List.mem_cons_of_mem _ member, same⟩

/-- An accepted suggestion joins, and what it supersedes is removed. -/
theorem reshaped_accept {id accepted : AreaId} (done : state.accept id = .ok (next, accepted)) :
    state.Reshaped operation next := by
  obtain ⟨suggestion, found, made⟩ := accept_eq_ok done
  let taken := { state with suggestions := state.suggestions.erase id }
  obtain ⟨_, _, -, acceptedSuggestion⟩ := acceptArea_eq taken suggestion
  rw [made]
  refine (reshaped_swept (fun entry inside => ?_) ?_).recorded
  · exact (mem_areas_acceptArea inside).imp_right fun ⟨classification, shape, results⟩ =>
      .accepted (Entries.mem_of_get? found) classification shape results
  · show (taken.acceptArea suggestion).1.suggestions ⊆ state.suggestions
    rw [acceptedSuggestion]
    exact List.filter_sublist.subset

/-- Every suggestion joins, and what they supersede is removed. -/
theorem reshaped_acceptAll (state : AnnotationState) :
    state.Reshaped operation state.acceptAll.1 := by
  have reshaped : state.Reshaped operation state.allAccepted.promoteRelations.cleaned.1 := by
    refine reshaped_swept (fun entry inside => ?_) ?_
    · rcases mem_areas_acceptAreas _ inside with
        before | ⟨suggestion, member, classification, shape, results⟩
      · exact Or.inl before
      · obtain ⟨id, pending⟩ := Areas.mem_bySeq.mp member
        exact Or.inr (.accepted pending classification shape results)
    · show state.allAccepted.suggestions ⊆ state.suggestions
      rw [allAccepted, suggestions_acceptAreas]
      exact List.nil_subset _
  exact reshaped.committed

/-- Areas that the history hands out are put back. -/
theorem reshaped_travel {result : History Snapshot × Option Snapshot}
    (handed : ∀ held, result.2 = some held → state.history.Holds held) :
    state.Reshaped operation (state.travel result).1 := by
  rw [travel]
  split
  · rename_i snapshot found
    refine ⟨?_, ?_⟩
    · rw [restore]
      split
      · exact .handed (handed snapshot found)
      · exact .handed (handed snapshot found)
    · rw [restore]
      split
      · exact List.Subset.refl _
      · exact List.Subset.refl _
  · exact reshaped_of_eq rfl rfl

/-- A deleted area is left out. -/
theorem reshaped_delete {id : AreaId} {removed : Area}
    (deleted : state.delete id = .ok (next, removed)) : state.Reshaped operation next := by
  obtain ⟨changed, made, -, areas, -, suggestions, -⟩ := delete_eq_ok deleted
  have fewer : changed.areas ⊆ state.areas := by
    rw [areas]
    exact List.filter_sublist.subset
  rw [made]
  exact (reshaped_of_subset fewer (suggestions ▸ List.Subset.refl _)).recorded

/-- Every area is left out. -/
theorem reshaped_deleteAll (state : AnnotationState) :
    state.Reshaped operation state.deleteAll := by
  obtain ⟨areas, suggestions⟩ := present_cleared state
  have told (ids : List AreaId) (state : AnnotationState) :
      let told := ids.foldl (fun state id => state.fire (.deleted id)) state
      told.areas = state.areas ∧ told.suggestions = state.suggestions := by
    induction ids generalizing state with
    | nil => exact ⟨rfl, rfl⟩
    | cons id rest hypothesis => exact hypothesis (state.fire (.deleted id))
  obtain ⟨toldAreas, toldSuggestions⟩ := told state.areas.keys state.cleared
  have none := toldAreas.trans areas
  have same := toldSuggestions.trans suggestions
  exact (reshaped_of_subset (none ▸ List.nil_subset _) (same ▸ List.Subset.refl _)).recorded

/-- Superseded classifications are removed. -/
theorem reshaped_cleaned (state : AnnotationState) :
    state.Reshaped operation state.cleaned.1 :=
  reshaped_swept (fun _ inside => Or.inl inside) (List.Subset.refl _)

/-- A change of the relations leaves the areas alone. -/
theorem reshaped_withRelations {α : Type} (state : AnnotationState) (result : Relations × α)
    (hasChanged : α → Bool) :
    state.Reshaped operation (state.withRelations result hasChanged).1 := by
  rw [withRelations]
  split
  · exact reshaped_of_eq rfl rfl
  · exact reshaped_of_eq rfl rfl

/-- An autosave leaves the areas alone. -/
theorem reshaped_autosave (state : AnnotationState) (now : Nat) :
    state.Reshaped operation (state.autosave now).1 := by
  rw [autosave]
  split
  · exact reshaped_of_eq rfl rfl
  · split
    · exact reshaped_of_eq rfl rfl
    · dsimp only
      split
      · exact reshaped_of_eq rfl rfl
      · exact reshaped_of_eq rfl rfl

/-- A payload that cannot be read leaves the areas alone. -/
theorem reshaped_load {payload : Json} {options : LoadOptions}
    (unreadable : loadingOf? state payload options = none) :
    state.Reshaped operation (state.load payload options).1 := by
  have present := present_load state payload options
  rw [unreadable] at present
  exact reshaped_of_eq present.1 present.2

/-- Switching to a version that cannot be read leaves the areas out. -/
theorem reshaped_toggleDraft (loadsNothing : state.loading? .toggleDraft = none) :
    state.Reshaped operation state.toggleDraft.1 := by
  rw [loading?] at loadsNothing
  split at loadsNothing
  · rename_i draft
    rw [toggleDraft, if_pos draft]
    exact reshaped_of_eq rfl rfl
  · rename_i draft
    obtain ⟨areas, suggestions⟩ := present_cleared state.switched
    have present := present_load state.switched.cleared (.array state.switched.stored) {}
    rw [loadsNothing] at present
    have toggled : state.toggleDraft.1 =
        (state.switched.cleared.load (.array state.switched.stored) {}).1.resetHistory := by
      rw [toggleDraft, if_neg draft]
      rfl
    rw [toggled]
    refine reshaped_of_subset ?_ ?_
    · exact (present.1.trans areas) ▸ List.nil_subset _
    · exact (present.2.trans suggestions) ▸ List.Subset.refl _

/-- Every operation that loads nothing reshapes the areas and adds no suggestion. -/
theorem reshapes_perform (operation : Operation) (loadsNothing : state.loading? operation = none) :
    state.Reshaped operation (state.perform operation).1 := by
  cases operation with
  | create shape value control object =>
    exact reshaped_attempt fun next id created => reshaped_create created
  | addResult area control value =>
    exact reshaped_attemptDone fun next added => reshaped_addResult added
  | updateValue area control value =>
    exact reshaped_attemptDone fun next updated => reshaped_updateValue updated
  | updateShape area shape =>
    exact reshaped_attemptDone fun next changed =>
      reshaped_changeLive changed (fun _ => rfl) (fun _ => rfl) fun _ => Or.inr rfl
  | setParent area parent =>
    exact reshaped_attemptDone fun next changed =>
      reshaped_changeLive changed (fun _ => rfl) (fun _ => rfl) fun _ => Or.inl rfl
  | setReadonly area value =>
    exact reshaped_attemptDone fun next changed =>
      reshaped_changeLive changed (fun _ => rfl) (fun _ => rfl) fun _ => Or.inl rfl
  | setHidden area value =>
    exact reshaped_attemptDone fun next changed =>
      reshaped_changeLive changed (fun _ => rfl) (fun _ => rfl) fun _ => Or.inl rfl
  | delete area => exact reshaped_attempt fun next removed deleted => reshaped_delete deleted
  | deleteAll => exact reshaped_deleteAll state
  | clean => exact reshaped_cleaned state
  | load payload options => exact reshaped_load loadsNothing
  | loadItems items options => contradiction
  | accept area => exact reshaped_attempt fun next id accepted => reshaped_accept accepted
  | reject area =>
    refine reshaped_attempt fun next removed rejected => ?_
    rw [reject_eq_ok rejected]
    exact reshaped_of_subset (List.Subset.refl _) List.filter_sublist.subset
  | acceptAll => exact reshaped_acceptAll state
  | addVersions versions => exact reshaped_of_eq rfl rfl
  | toggleDraft => exact reshaped_toggleDraft loadsNothing
  | autosave now => exact reshaped_autosave state now
  | refuseDrafts value => exact reshaped_of_eq rfl rfl
  | select area =>
    refine reshaped_attemptDone fun next selected => ?_
    rw [(select_eq_ok selected).2]
    exact reshaped_of_eq rfl rfl
  | toggle area =>
    refine reshaped_attempt fun next value toggled => ?_
    obtain ⟨_, _, made⟩ := toggle_eq_ok toggled
    rw [made]
    exact reshaped_of_eq rfl rfl
  | unselectAll =>
    rw [perform, unselectAll]
    split
    · exact reshaped_of_eq rfl rfl
    · exact reshaped_of_eq rfl rfl
  | setGroundTruth value => exact reshaped_of_eq rfl rfl
  | setEditable value => exact reshaped_of_eq rfl rfl
  | setKey key => exact reshaped_of_eq rfl rfl
  | relate source target =>
    refine reshaped_attempt fun next value related => ?_
    have reshaped : state.Reshaped (.relate source target) _ := reshaped_withRelations state
      (state.relations.insert { first := source, second := target }) (· == true)
    rwa [← relate_eq_ok related] at reshaped
  | unrelate place => exact reshaped_withRelations state (state.relations.delete place) _
  | rotateRelation place => exact reshaped_withRelations state (state.relations.rotate place) _
  | labelRelation place labels =>
    exact reshaped_withRelations state
      (state.relations.setLabels place (declaredLabels state.tree labels)) _
  | unrelateArea area => exact reshaped_withRelations state (state.relations.deleteArea area) _
  | undo => exact reshaped_travel fun held => History.holds_undo.2
  | redo => exact reshaped_travel fun held => History.holds_redo.2
  | reset => exact reshaped_travel fun held => History.holds_reset.2
  | resetHistory => exact reshaped_of_eq rfl rfl

end Labeling.AnnotationState
