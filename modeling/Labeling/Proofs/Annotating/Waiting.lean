import Labeling.Proofs.Annotating.Accepting
import Labeling.Proofs.Annotating.Loaded

/-!
# Suggestions and suggested relations wait

Only accepting and rejecting take a suggestion away. Every other operation leaves what waits or adds
to it: suggestions with nonempty raw ids, and suggested relations one by one (`gathers_perform`). So
suggestions always have nonempty raw ids (`Named.perform`).
-/
namespace Labeling

/-- Whether an operation decides on suggestions. -/
def Operation.decides : Operation → Bool
  | .accept _ => true
  | .reject _ => true
  | .acceptAll => true
  | _ => false

namespace AnnotationState

variable {state next : AnnotationState}

/-- Nothing that waits is taken away, new suggestions have names, and suggested relations are added
one by one. -/
structure Gathers (state next : AnnotationState) : Prop where
  /-- The id of the annotation stays. -/
  id : next.id = state.id
  /-- A suggestion was there or has a nonempty raw id. -/
  named : ∀ id, next.suggestions.has id = true → state.suggestions.has id = true ∨ id.raw ≠ ""
  /-- The suggested relations are those from before with others added. -/
  relations : ∃ items, next.suggestedRelations =
    addRelations state.id state.suggestedRelations items

/-- Where what waits stays, nothing is taken away. -/
theorem gathers_of_eq (id : next.id = state.id) (suggestions : next.suggestions = state.suggestions)
    (relations : next.suggestedRelations = state.suggestedRelations) : state.Gathers next where
  id := id
  named _ present := Or.inl (suggestions ▸ present)
  relations := ⟨[], relations⟩

/-- What gathers twice gathers. -/
theorem Gathers.trans {last : AnnotationState} (first : state.Gathers next)
    (second : next.Gathers last) : state.Gathers last where
  id := second.id.trans first.id
  named id present := by
    rcases second.named id present with between | named
    · exact first.named id between
    · exact Or.inr named
  relations := by
    obtain ⟨items, added⟩ := first.relations
    obtain ⟨others, addedThen⟩ := second.relations
    refine ⟨items ++ others, ?_⟩
    rw [addedThen, added, first.id, addRelations, addRelations, addRelations, List.foldl_append]

/-- An operation that may fail gathers if it does so where it succeeds. -/
theorem gathers_attempt {α : Type} {result : Except Failure (AnnotationState × α)}
    {answer : α → Answer}
    (gathers : ∀ next value, result = .ok (next, value) → state.Gathers next) :
    state.Gathers (state.attempt result answer).1 := by
  cases result with
  | ok success => exact gathers _ _ rfl
  | error failure => exact gathers_of_eq rfl rfl rfl

/-- The same for operations without a value. -/
theorem gathers_attemptDone {result : Except Failure AnnotationState}
    (gathers : ∀ next, result = .ok next → state.Gathers next) :
    state.Gathers (state.attemptDone result).1 := by
  cases result with
  | ok success => exact gathers _ rfl
  | error failure => exact gathers_of_eq rfl rfl rfl

/-- Removing superseded classifications leaves what waits. -/
theorem gathers_cleaned (state : AnnotationState) : state.Gathers state.cleaned.1 := by
  rw [cleaned]
  split
  · exact gathers_of_eq rfl rfl rfl
  · exact gathers_of_eq rfl rfl rfl

/-- Recording leaves what waits. -/
theorem gathers_recorded (state : AnnotationState) : state.Gathers state.recorded :=
  gathers_of_eq rfl rfl rfl

/-- Creating an area leaves what waits. -/
theorem gathers_create {shape : Shape} {value : Value} {control object : String} {id : AreaId}
    (created : state.create shape value control object = .ok (next, id)) :
    state.Gathers next := by
  obtain ⟨-, -, changed, made, -, -, -, continues, -, -, suggestions, relations, -⟩ :=
    create_eq_ok created
  rw [made]
  exact ((gathers_of_eq continues.id suggestions relations).trans (gathers_cleaned changed)).trans
    (gathers_recorded _)

/-- Deleting an area leaves what waits. -/
theorem gathers_delete {id : AreaId} {area : Area} (deleted : state.delete id = .ok (next, area)) :
    state.Gathers next := by
  obtain ⟨changed, made, continues, -, -, suggestions, relations, -⟩ := delete_eq_ok deleted
  rw [made]
  exact (gathers_of_eq continues.id suggestions relations).trans (gathers_recorded _)

/-- Clearing an annotation leaves what waits. -/
theorem gathers_cleared (state : AnnotationState) : state.Gathers state.cleared := by
  rw [cleared]
  dsimp only
  split
  · exact gathers_of_eq rfl rfl rfl
  · exact gathers_of_eq rfl rfl rfl

/-- Notifications leave what waits. -/
theorem gathers_foldl_fire (events : List AreaId) (state : AnnotationState) :
    state.Gathers (events.foldl (fun state id => state.fire (.deleted id)) state) := by
  induction events generalizing state with
  | nil => exact gathers_of_eq rfl rfl rfl
  | cons event rest hypothesis =>
    have fired : state.Gathers (state.fire (.deleted event)) := gathers_of_eq rfl rfl rfl
    exact fired.trans (hypothesis _)

/-- Adding an item adds its area, if that is not there. -/
theorem has_of_has_addItem {areas : Areas} {control object : Element} {item : WireResult}
    {options : LoadOptions} {id other : AreaId} {seq : Nat}
    (present : (addItem areas control object item options id seq).has other = true) :
    other = id ∨ areas.has other = true := by
  rw [addItem] at present
  dsimp only at present
  split at present
  · rw [Entries.has_iff_mem_keys, Entries.keys_update] at present
    exact Or.inr ((Entries.has_iff_mem_keys _ _).mpr present)
  · rw [Entries.has, Entries.get?_put] at present
    split at present
    · rename_i same
      exact Or.inl same
    · exact Or.inr present

/-- Applying an item adds at most a suggestion with a name. -/
theorem gathers_applyResult {options : LoadOptions} {item : WireResult}
    (applied : applyResult options state item = .ok next) : state.Gathers next := by
  have id := (continues_applyResult applied).id
  obtain ⟨object, control, -, -, made⟩ := applyResult_eq_ok applied
  refine ⟨id, fun other present => ?_, [], ?_⟩
  · rw [made] at present
    dsimp only at present
    split at present
    · rcases has_of_has_addItem present with same | old
      · exact Or.inr (same ▸ raw_itemId state item)
      · exact Or.inl old
    · exact Or.inl present
  · rw [made, itemId]
    split
    · rfl
    · rfl

/-- Applying items adds only suggestions with names, also where one fails. -/
theorem gathers_applyResults (options : LoadOptions) (items : List WireResult)
    (state : AnnotationState) : state.Gathers (applyResults options state items).1 := by
  induction items generalizing state with
  | nil => exact gathers_of_eq rfl rfl rfl
  | cons item rest hypothesis =>
    rw [applyResults]
    split
    · rename_i applied
      exact (gathers_applyResult applied).trans (hypothesis _)
    · exact gathers_of_eq rfl rfl rfl

/-- Applying repaired items gathers, and so do their relations. -/
theorem gathers_applyItems (options : LoadOptions) (state : AnnotationState)
    (items : List WireItem) : state.Gathers (applyItems options state items).1 := by
  have results := gathers_applyResults options
    (WireItem.results (Repair.items state.tree items)) state
  rw [applyItems]
  dsimp only
  split
  · rename_i applied
    rw [applied] at results
    exact results
  · rename_i applied
    rw [applied] at results
    split
    · exact results.trans ⟨rfl, fun _ present => Or.inl present, _, rfl⟩
    · exact results.trans (gathers_of_eq rfl rfl rfl)

/-- The end of a load leaves what waits. -/
theorem gathers_finishLoad (result : AnnotationState × Option Failure) :
    result.1.Gathers (finishLoad result).1 := by
  obtain ⟨state, failure⟩ := result
  cases failure with
  | none => exact gathers_of_eq rfl rfl rfl
  | some failure => exact gathers_of_eq rfl rfl rfl

/-- A load of items gathers. -/
theorem gathers_loadItems (state : AnnotationState) (items : List WireItem)
    (options : LoadOptions) : state.Gathers (state.loadItems items options).1 := by
  have begun : state.Gathers state.frozen := gathers_of_eq rfl rfl rfl
  exact (begun.trans (gathers_applyItems options state.frozen items)).trans (gathers_finishLoad _)

/-- A load of a payload gathers, also where the payload cannot be read. -/
theorem gathers_load (state : AnnotationState) (payload : Json) (options : LoadOptions) :
    state.Gathers (state.load payload options).1 := by
  rw [load]
  split
  · exact gathers_loadItems state _ options
  · have begun : state.Gathers state.frozen := gathers_of_eq rfl rfl rfl
    exact begun.trans (gathers_finishLoad (state.frozen, _))

/-- Switching between draft and result gathers. -/
theorem gathers_toggleDraft (state : AnnotationState) : state.Gathers state.toggleDraft.1 := by
  rw [toggleDraft]
  split
  · exact gathers_of_eq rfl rfl rfl
  · let switched := { state with draftSelected := !state.draftSelected }
    have turned : state.Gathers switched := gathers_of_eq rfl rfl rfl
    have begun (made : AnnotationState) : made.Gathers made.resetHistory :=
      gathers_of_eq rfl rfl rfl
    exact ((turned.trans (gathers_cleared switched)).trans (gathers_load _ _ _)).trans (begun _)

/-- Changed relations leave what waits. -/
theorem gathers_withRelations {α : Type} (state : AnnotationState) (result : Relations × α)
    (hasChanged : α → Bool) : state.Gathers (state.withRelations result hasChanged).1 := by
  rw [withRelations]
  split
  · exact gathers_of_eq rfl rfl rfl
  · exact gathers_of_eq rfl rfl rfl

/-- Restoring a state leaves what waits. -/
theorem gathers_travel (state : AnnotationState) (result : History Snapshot × Option Snapshot) :
    state.Gathers (state.travel result).1 := by
  rw [travel]
  split
  · rw [restore]
    split
    · exact gathers_of_eq rfl rfl rfl
    · exact gathers_of_eq rfl rfl rfl
  · exact gathers_of_eq rfl rfl rfl

/-- An autosave leaves what waits. -/
theorem gathers_autosave (state : AnnotationState) (now : Nat) :
    state.Gathers (state.autosave now).1 := by
  rw [autosave]
  split
  · exact gathers_of_eq rfl rfl rfl
  · split
    · exact gathers_of_eq rfl rfl rfl
    · dsimp only
      split
      · exact gathers_of_eq rfl rfl rfl
      · exact gathers_of_eq rfl rfl rfl

/-- Changing an area leaves what waits. -/
theorem gathers_changeLive {id : AreaId} {change : Area → Area}
    (changed : state.changeLive id change = .ok next) : state.Gathers next := by
  rw [changeLive_eq_ok changed]
  exact gathers_of_eq rfl rfl rfl

/-- Only an operation that decides on suggestions takes away what waits. -/
theorem gathers_perform (state : AnnotationState) {operation : Operation}
    (leaves : operation.decides = false) : state.Gathers (state.perform operation).1 := by
  cases operation with
  | create shape value control object =>
    exact gathers_attempt fun next id created => gathers_create created
  | addResult area control value =>
    refine gathers_attemptDone fun next added => ?_
    obtain ⟨_, _, made⟩ := addResult_eq_ok added
    rw [made]
    exact gathers_of_eq rfl rfl rfl
  | updateValue area control value =>
    refine gathers_attemptDone fun next updated => ?_
    rw [updateValue_eq_ok updated]
    exact gathers_of_eq rfl rfl rfl
  | updateShape area shape => exact gathers_attemptDone fun _ => gathers_changeLive
  | setParent area parent => exact gathers_attemptDone fun _ => gathers_changeLive
  | setReadonly area value => exact gathers_attemptDone fun _ => gathers_changeLive
  | setHidden area value => exact gathers_attemptDone fun _ => gathers_changeLive
  | delete area => exact gathers_attempt fun next removed deleted => gathers_delete deleted
  | deleteAll =>
    exact ((gathers_cleared state).trans (gathers_foldl_fire _ _)).trans (gathers_recorded _)
  | clean => exact gathers_cleaned state
  | load payload options => exact gathers_load state payload options
  | loadItems items options => exact gathers_loadItems state items options
  | accept area => contradiction
  | reject area => contradiction
  | acceptAll => contradiction
  | addVersions versions => exact gathers_of_eq rfl rfl rfl
  | toggleDraft => exact gathers_toggleDraft state
  | autosave now => exact gathers_autosave state now
  | refuseDrafts value => exact gathers_of_eq rfl rfl rfl
  | select area =>
    refine gathers_attemptDone fun next selected => ?_
    rw [(select_eq_ok selected).2]
    exact gathers_of_eq rfl rfl rfl
  | toggle area =>
    refine gathers_attempt fun next value toggled => ?_
    obtain ⟨_, _, made⟩ := toggle_eq_ok toggled
    rw [made]
    exact gathers_of_eq rfl rfl rfl
  | unselectAll =>
    rw [perform, unselectAll]
    split
    · exact gathers_of_eq rfl rfl rfl
    · exact gathers_of_eq rfl rfl rfl
  | setGroundTruth value => exact gathers_of_eq rfl rfl rfl
  | setEditable value => exact gathers_of_eq rfl rfl rfl
  | setKey key => exact gathers_of_eq rfl rfl rfl
  | relate source target =>
    refine gathers_attempt fun next value related => ?_
    have gathers := gathers_withRelations state
      (state.relations.insert { first := source, second := target }) (· == true)
    rwa [← relate_eq_ok related] at gathers
  | unrelate place => exact gathers_withRelations state (state.relations.delete place) _
  | rotateRelation place => exact gathers_withRelations state (state.relations.rotate place) _
  | labelRelation place labels =>
    exact gathers_withRelations state
      (state.relations.setLabels place (declaredLabels state.tree labels)) _
  | unrelateArea area => exact gathers_withRelations state (state.relations.deleteArea area) _
  | undo => exact gathers_travel state _
  | redo => exact gathers_travel state _
  | reset => exact gathers_travel state _
  | resetHistory => exact gathers_of_eq rfl rfl rfl

/-- Every suggestion has a nonempty raw id. -/
def Named (state : AnnotationState) : Prop :=
  ∀ id, state.suggestions.has id = true → id.raw ≠ ""

/-- Suggestions that are taken away leave named ones. -/
theorem Named.of_erase (named : state.Named) {id : AreaId}
    (suggestions : next.suggestions = state.suggestions.erase id) : next.Named := by
  intro other present
  rw [suggestions, Entries.has, Entries.get?_erase] at present
  split at present
  · contradiction
  · exact named other present

/-- Every operation leaves every suggestion with a nonempty raw id. -/
theorem Named.perform (named : state.Named) (operation : Operation) :
    (state.perform operation).1.Named := by
  cases decides : operation.decides with
  | false =>
    intro id present
    exact ((gathers_perform state decides).named id present).elim (named id) fun raw => raw
  | true =>
    cases operation with
    | accept id =>
      show (state.attempt (state.accept id) .area).1.Named
      cases accepted : state.accept id with
      | error failure => exact named
      | ok result =>
        obtain ⟨next, made⟩ := result
        obtain ⟨area, -, done⟩ := accept_eq_ok accepted
        let taken := { state with suggestions := state.suggestions.erase id }
        obtain ⟨-, moved⟩ := acceptArea_eq_acceptedId taken area
        obtain ⟨selection, controlValues, cleans⟩ :=
          cleaned_eq (taken.acceptArea area).1.promoteRelations
        have suggestions : next.suggestions = state.suggestions.erase id := by
          rw [done, cleans, promoteRelations_eq, moved]
          rfl
        exact named.of_erase suggestions
    | reject id =>
      show (state.attempt (state.reject id) .removed).1.Named
      cases rejected : state.reject id with
      | error failure => exact named
      | ok result =>
        obtain ⟨next, area⟩ := result
        have suggestions : next.suggestions = state.suggestions.erase id := by
          rw [reject_eq_ok rejected]
        exact named.of_erase suggestions
    | acceptAll =>
      obtain ⟨selection, controlValues, performed⟩ := perform_acceptAll state
      have empty : (state.perform .acceptAll).1.suggestions = [] := by
        rw [performed]
        exact suggestions_acceptAreas _ _
      intro id present
      rw [empty] at present
      contradiction
    | _ => contradiction

end AnnotationState
end Labeling
