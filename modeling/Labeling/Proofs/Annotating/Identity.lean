import Labeling.Proofs.Annotating.Turns

/-!
# The identity of an annotation

An annotation keeps its id and its kind, whatever is done to it: no operation, successful or not,
gives it other ones (`remains_perform`).
-/
namespace Labeling.AnnotationState

variable {state next : AnnotationState}

/-- An annotation that is still the same one. -/
structure Remains (state next : AnnotationState) : Prop where
  /-- The id stays. -/
  id : next.id = state.id
  /-- The kind stays. -/
  kind : next.kind = state.kind

/-- An annotation remains what it is. -/
theorem Remains.refl (state : AnnotationState) : state.Remains state := ⟨rfl, rfl⟩

/-- What remains twice remains. -/
theorem Remains.trans {last : AnnotationState} (first : state.Remains next)
    (second : next.Remains last) : state.Remains last :=
  ⟨second.id.trans first.id, second.kind.trans first.kind⟩

/-- An annotation remains as a change is recorded. -/
theorem remains_recorded (state : AnnotationState) : state.Remains state.recorded := ⟨rfl, rfl⟩

/-- An annotation remains as a batch of changes is recorded. -/
theorem remains_committed (state : AnnotationState) : state.Remains state.committed := ⟨rfl, rfl⟩

/-- Steps in which an annotation remains leave it the same together. -/
theorem remains_foldl {α : Type} (step : AnnotationState → α → AnnotationState)
    (remains : ∀ (state : AnnotationState) (value : α), state.Remains (step state value))
    (values : List α) (state : AnnotationState) : state.Remains (values.foldl step state) := by
  induction values generalizing state with
  | nil => exact .refl state
  | cons value rest hypothesis => exact (remains state value).trans (hypothesis _)

/-- An operation that may fail leaves an annotation the same if it does so where it succeeds. -/
theorem remains_attempt {α : Type} {result : Except Failure (AnnotationState × α)}
    {answer : α → Answer}
    (remains : ∀ next value, result = .ok (next, value) → state.Remains next) :
    state.Remains (state.attempt result answer).1 := by
  cases result with
  | ok success => exact remains _ _ rfl
  | error failure => exact .refl state

/-- The same for operations without a value. -/
theorem remains_attemptDone {result : Except Failure AnnotationState}
    (remains : ∀ next, result = .ok next → state.Remains next) :
    state.Remains (state.attemptDone result).1 := by
  cases result with
  | ok success => exact remains _ rfl
  | error failure => exact .refl state

/-! ## Areas -/

/-- An annotation remains as superseded classifications are removed. -/
theorem remains_cleaned (state : AnnotationState) : state.Remains state.cleaned.1 := by
  obtain ⟨selection, controlValues, made⟩ := cleaned_eq state
  exact made ▸ ⟨rfl, rfl⟩

/-- An annotation remains as an area is created. -/
theorem remains_create {shape : Shape} {value : Value} {control object : String} {id : AreaId}
    (created : state.create shape value control object = .ok (next, id)) :
    state.Remains next := by
  obtain ⟨controlElement, objectElement, session, -, -, -, -, made⟩ :=
    create_eq_withCreated created
  have put (begun : AnnotationState) (area : Area) : begun.Remains (begun.withCreated area) := by
    rw [withCreated]
    dsimp only
    split
    · exact ⟨rfl, rfl⟩
    · split
      · exact ⟨rfl, rfl⟩
      · exact ⟨rfl, rfl⟩
  have begun : state.Remains { state with session := session } := ⟨rfl, rfl⟩
  rw [made]
  exact ((begun.trans (put _ _)).trans (remains_cleaned _)).trans (remains_recorded _)

/-- An annotation remains as an area is changed. -/
theorem remains_changeLive {id : AreaId} {change : Area → Area}
    (changed : state.changeLive id change = .ok next) : state.Remains next :=
  changeLive_eq_ok changed ▸ ⟨rfl, rfl⟩

/-- An annotation remains as an area is deleted. -/
theorem remains_delete {id : AreaId} {area : Area}
    (deleted : state.delete id = .ok (next, area)) : state.Remains next := by
  simp only [delete, Except.bind_eq_ok] at deleted
  obtain ⟨found, -, deleted⟩ := deleted
  simp only [pure, Except.pure, Except.ok.injEq, Prod.mk.injEq] at deleted
  obtain ⟨made, -⟩ := deleted
  split at made
  · exact made ▸ ⟨rfl, rfl⟩
  · exact made ▸ ⟨rfl, rfl⟩

/-- An annotation remains as it is cleared. -/
theorem remains_cleared (state : AnnotationState) : state.Remains state.cleared := by
  rw [cleared]
  dsimp only
  split
  · exact ⟨rfl, rfl⟩
  · exact ⟨rfl, rfl⟩

/-! ## Loading -/

/-- An annotation remains as results are applied, also where one fails. -/
theorem remains_applyResults (options : LoadOptions) (items : List WireResult)
    (state : AnnotationState) : state.Remains (applyResults options state items).1 := by
  induction items generalizing state with
  | nil => exact .refl state
  | cons item rest hypothesis =>
    rw [applyResults]
    split
    · rename_i next applied
      obtain ⟨object, control, -, -, made⟩ := applyResult_eq_ok applied
      have remains : state.Remains next := by
        rw [made, itemId]
        split
        · exact ⟨rfl, rfl⟩
        · exact ⟨rfl, rfl⟩
      exact remains.trans (hypothesis next)
    · exact .refl state

/-- An annotation remains as items are applied. -/
theorem remains_applyItems (options : LoadOptions) (state : AnnotationState)
    (items : List WireItem) : state.Remains (applyItems options state items).1 := by
  have results := remains_applyResults options
    (WireItem.results (Repair.items state.tree items)) state
  rw [applyItems]
  dsimp only
  split
  · rename_i applied
    rw [applied] at results
    exact results
  · rename_i applied
    rw [applied] at results
    split
    · exact results.trans ⟨rfl, rfl⟩
    · exact results.trans ⟨rfl, rfl⟩

/-- An annotation remains at the end of a load. -/
theorem remains_finishLoad (result : AnnotationState × Option Failure) :
    result.1.Remains (finishLoad result).1 := by
  obtain ⟨changed, failure⟩ := result
  cases failure with
  | none => exact ⟨rfl, rfl⟩
  | some failure => exact ⟨rfl, rfl⟩

/-- An annotation remains as items are loaded. -/
theorem remains_loadItems (state : AnnotationState) (items : List WireItem)
    (options : LoadOptions) : state.Remains (state.loadItems items options).1 := by
  have begun : state.Remains state.frozen := ⟨rfl, rfl⟩
  exact (begun.trans (remains_applyItems options state.frozen items)).trans (remains_finishLoad _)

/-- An annotation remains as a payload is loaded, also where it cannot be read. -/
theorem remains_load (state : AnnotationState) (payload : Json) (options : LoadOptions) :
    state.Remains (state.load payload options).1 := by
  rw [load]
  split
  · exact remains_loadItems state _ options
  · exact ⟨rfl, rfl⟩

/-- An annotation remains as it is switched between draft and result. -/
theorem remains_toggleDraft (state : AnnotationState) : state.Remains state.toggleDraft.1 := by
  rw [toggleDraft]
  split
  · exact .refl state
  · let switched := { state with draftSelected := !state.draftSelected }
    have turned : state.Remains switched := ⟨rfl, rfl⟩
    exact ((turned.trans (remains_cleared switched)).trans (remains_load _ _ _)).trans ⟨rfl, rfl⟩

/-! ## Suggestions, relations and history -/

/-- An annotation remains as a suggestion becomes an area. -/
theorem remains_acceptArea (state : AnnotationState) (area : Area) :
    state.Remains (state.acceptArea area).1 := by
  rw [acceptArea]
  dsimp only
  split
  · exact ⟨rfl, rfl⟩
  · exact ⟨rfl, rfl⟩

/-- An annotation remains as suggested relations become relations. -/
theorem remains_promoteRelations (state : AnnotationState) :
    state.Remains state.promoteRelations := ⟨rfl, rfl⟩

/-- An annotation remains as a suggestion is accepted. -/
theorem remains_accept {id accepted : AreaId} (done : state.accept id = .ok (next, accepted)) :
    state.Remains next := by
  obtain ⟨area, -, made⟩ := accept_eq_ok done
  have taken : state.Remains { state with suggestions := state.suggestions.erase id } := ⟨rfl, rfl⟩
  rw [made]
  exact (((taken.trans (remains_acceptArea _ area)).trans (remains_promoteRelations _)).trans
    (remains_cleaned _)).trans (remains_recorded _)

/-- An annotation remains as every suggestion is accepted. -/
theorem remains_acceptAll (state : AnnotationState) : state.Remains state.acceptAll.1 := by
  have begun : state.Remains { state with suggestions := [] }.frozen := ⟨rfl, rfl⟩
  have accepted := remains_foldl (fun state area => (state.acceptArea area).1)
    remains_acceptArea state.suggestions.bySeq
    { state with suggestions := [] }.frozen
  exact (((begun.trans accepted).trans (remains_promoteRelations _)).trans
    (remains_cleaned _)).trans (remains_committed _)

/-- An annotation remains as its relations are changed. -/
theorem remains_withRelations {α : Type} (state : AnnotationState) (result : Relations × α)
    (hasChanged : α → Bool) : state.Remains (state.withRelations result hasChanged).1 := by
  rw [withRelations]
  split
  · exact ⟨rfl, rfl⟩
  · exact .refl state

/-- An annotation remains as a state of its history is restored. -/
theorem remains_travel (state : AnnotationState) (result : History Snapshot × Option Snapshot) :
    state.Remains (state.travel result).1 := by
  rw [travel]
  split
  · rw [restore]
    split
    · exact ⟨rfl, rfl⟩
    · exact ⟨rfl, rfl⟩
  · exact .refl state

/-- An annotation remains as a draft is handed over. -/
theorem remains_autosave (state : AnnotationState) (now : Nat) :
    state.Remains (state.autosave now).1 := by
  rw [autosave]
  split
  · exact .refl state
  · split
    · exact .refl state
    · dsimp only
      split
      · exact ⟨rfl, rfl⟩
      · exact ⟨rfl, rfl⟩

/-! ## Every operation -/

/-- An annotation keeps its id and its kind in every operation. -/
theorem remains_perform (state : AnnotationState) (operation : Operation) :
    state.Remains (state.perform operation).1 := by
  cases operation with
  | create shape value control object => exact remains_attempt fun _ _ => remains_create
  | addResult area control value =>
    refine remains_attemptDone fun next added => ?_
    obtain ⟨element, -, made⟩ := addResult_eq_ok added
    exact made ▸ ⟨rfl, rfl⟩
  | updateValue area control value =>
    exact remains_attemptDone fun next updated => updateValue_eq_ok updated ▸ ⟨rfl, rfl⟩
  | updateShape area shape => exact remains_attemptDone fun _ => remains_changeLive
  | setParent area parent => exact remains_attemptDone fun _ => remains_changeLive
  | setReadonly area value => exact remains_attemptDone fun _ => remains_changeLive
  | setHidden area value => exact remains_attemptDone fun _ => remains_changeLive
  | delete area => exact remains_attempt fun _ _ => remains_delete
  | deleteAll =>
    have fired := remains_foldl (fun state id => state.fire (.deleted id))
      (fun _ _ => ⟨rfl, rfl⟩) state.areas.keys state.cleared
    exact ((remains_cleared state).trans fired).trans (remains_recorded _)
  | clean => exact remains_cleaned state
  | load payload options => exact remains_load state payload options
  | loadItems items options => exact remains_loadItems state items options
  | accept area => exact remains_attempt fun _ _ => remains_accept
  | reject area =>
    exact remains_attempt fun next removed rejected => reject_eq_ok rejected ▸ ⟨rfl, rfl⟩
  | acceptAll => exact remains_acceptAll state
  | addVersions versions => exact ⟨rfl, rfl⟩
  | toggleDraft => exact remains_toggleDraft state
  | autosave now => exact remains_autosave state now
  | refuseDrafts value => exact ⟨rfl, rfl⟩
  | select area =>
    exact remains_attemptDone fun next selected => (select_eq_ok selected).2 ▸ ⟨rfl, rfl⟩
  | toggle area =>
    refine remains_attempt fun next value toggled => ?_
    obtain ⟨selection, -, made⟩ := toggle_eq_ok toggled
    exact made ▸ ⟨rfl, rfl⟩
  | unselectAll =>
    rw [perform, unselectAll]
    split
    · exact .refl state
    · exact ⟨rfl, rfl⟩
  | setGroundTruth value => exact ⟨rfl, rfl⟩
  | setEditable value => exact ⟨rfl, rfl⟩
  | setKey key => exact ⟨rfl, rfl⟩
  | relate source target =>
    refine remains_attempt fun next value related => ?_
    have remains := remains_withRelations state
      (state.relations.insert { first := source, second := target }) (· == true)
    rwa [← relate_eq_ok related] at remains
  | unrelate place => exact remains_withRelations state (state.relations.delete place) _
  | rotateRelation place => exact remains_withRelations state (state.relations.rotate place) _
  | labelRelation place labels =>
    exact remains_withRelations state
      (state.relations.setLabels place (declaredLabels state.tree labels)) _
  | unrelateArea area => exact remains_withRelations state (state.relations.deleteArea area) _
  | undo => exact remains_travel state _
  | redo => exact remains_travel state _
  | reset => exact remains_travel state _
  | resetHistory => exact ⟨rfl, rfl⟩

end Labeling.AnnotationState
