import Labeling.Proofs.Annotating.WellFormed

/-!
# Where areas come from

An operation either loads items or makes its areas of known ones: every area behind an operation
that loads nothing has the object and the results of an area that was known before, or was created
by a control bound to its object, or has one more result or another value of a control, which is the
value that the operation records (`explains_perform`). The areas behind a load are those of its
items, added one by one to the areas before (`perform_loading`).
-/
namespace Labeling

/-- The value that an operation records, if it records one. -/
def Operation.value? : Operation → Option Value
  | .create _ value _ _ => some value
  | .addResult _ _ value => some value
  | .updateValue _ _ value => some value
  | _ => none

namespace AnnotationState

variable {state next : AnnotationState} {operation : Operation} {area : Area}

/-- An area is there, among the areas or among the suggestions. -/
def Presents (state : AnnotationState) (area : Area) : Prop :=
  (∃ id, (id, area) ∈ state.areas) ∨ ∃ id, (id, area) ∈ state.suggestions

/-- An area is there, or in a state that the history may hand out. -/
def Knows (state : AnnotationState) (area : Area) : Prop :=
  state.Presents area ∨ ∃ held, state.history.Holds held ∧ ∃ id, (id, area) ∈ held.areas

/-- What holds of everything that is there holds of each area and of each suggestion. -/
theorem forall_presents_iff {holds : Area → Prop} :
    (∀ area, state.Presents area → holds area) ↔
      (∀ entry ∈ state.areas, holds entry.2) ∧ ∀ entry ∈ state.suggestions, holds entry.2 := by
  constructor
  · exact fun each => ⟨fun entry inside => each _ (Or.inl ⟨entry.1, inside⟩),
      fun entry inside => each _ (Or.inr ⟨entry.1, inside⟩)⟩
  · rintro ⟨areas, suggestions⟩ area (⟨id, inside⟩ | ⟨id, inside⟩)
    · exact areas _ inside
    · exact suggestions _ inside

/-! ## Operations that load -/

/-- What an operation loads, and how. -/
structure Loading where
  /-- The annotation that the items join. -/
  target : AnnotationState
  /-- The items. -/
  items : List WireItem
  /-- Where and how they are loaded. -/
  options : LoadOptions

namespace Loading

/-- The result items that are added. -/
def results (loading : Loading) : List WireResult :=
  WireItem.results (Repair.items loading.target.tree loading.items)

/-- The annotation with the result items added, up to the first one that fails. -/
def applied (loading : Loading) : AnnotationState :=
  (applyResults loading.options loading.target.frozen loading.results).1

end Loading

/-- What a payload loads, if it can be read. -/
def loadingOf? (target : AnnotationState) (payload : Json) (options : LoadOptions) :
    Option Loading :=
  match Payload.items payload with
  | .ok items => some ⟨target, items, options⟩
  | .error _ => none

/-- The annotation that switches between draft and result, before it loads the one or the other. -/
def switched (state : AnnotationState) : AnnotationState :=
  { state with draftSelected := !state.draftSelected }

/-- What is stored for the version that is shown. -/
def stored (state : AnnotationState) : List Json :=
  (if state.draftSelected then state.versions.draft else state.versions.result).getD []

/-- What an operation loads, if it loads anything. -/
def loading? (state : AnnotationState) : Operation → Option Loading
  | .load payload options => loadingOf? state payload options
  | .loadItems items options => some ⟨state, items, options⟩
  | .toggleDraft =>
    if state.versions.draft.isNone then none
    else loadingOf? state.switched.cleared (.array state.switched.stored) {}
  | _ => none

/-- Adding relations behind the results leaves the areas and the suggestions alone. -/
theorem present_applyItems (options : LoadOptions) (state : AnnotationState)
    (items : List WireItem) :
    let results := WireItem.results (Repair.items state.tree items)
    (applyItems options state items).1.areas = (applyResults options state results).1.areas ∧
      (applyItems options state items).1.suggestions =
        (applyResults options state results).1.suggestions := by
  intro results
  rw [applyItems]
  dsimp only
  split
  · rename_i applied
    rw [applied]
    exact ⟨rfl, rfl⟩
  · rename_i applied
    rw [applied]
    split
    · exact ⟨rfl, rfl⟩
    · exact ⟨rfl, rfl⟩

/-- The end of a load leaves the areas and the suggestions alone. -/
theorem present_finishLoad (result : AnnotationState × Option Failure) :
    (finishLoad result).1.areas = result.1.areas ∧
      (finishLoad result).1.suggestions = result.1.suggestions := by
  obtain ⟨state, failure⟩ := result
  cases failure with
  | none => exact ⟨rfl, rfl⟩
  | some failure => exact ⟨rfl, rfl⟩

/-- Behind a load of items there are the areas that the result items make. -/
theorem present_loadItems (state : AnnotationState) (items : List WireItem)
    (options : LoadOptions) :
    (state.loadItems items options).1.areas = (Loading.applied ⟨state, items, options⟩).areas ∧
      (state.loadItems items options).1.suggestions =
        (Loading.applied ⟨state, items, options⟩).suggestions := by
  obtain ⟨areas, suggestions⟩ := present_applyItems options state.frozen items
  obtain ⟨finished, finishedSuggestions⟩ :=
    present_finishLoad (applyItems options state.frozen items)
  exact ⟨finished.trans areas, finishedSuggestions.trans suggestions⟩

/-- Behind a load of a payload that can be read there are the areas of its result items; without
one there are the areas from before. -/
theorem present_load (state : AnnotationState) (payload : Json) (options : LoadOptions) :
    match loadingOf? state payload options with
    | some loading => (state.load payload options).1.areas = loading.applied.areas ∧
        (state.load payload options).1.suggestions = loading.applied.suggestions
    | none => (state.load payload options).1.areas = state.areas ∧
        (state.load payload options).1.suggestions = state.suggestions := by
  rw [loadingOf?, load]
  cases Payload.items payload with
  | ok items => exact present_loadItems state items options
  | error fault => exact present_finishLoad (state.frozen, _)

/-- Clearing an annotation takes its areas and leaves its suggestions. -/
theorem present_cleared (state : AnnotationState) :
    state.cleared.areas = [] ∧ state.cleared.suggestions = state.suggestions := by
  rw [cleared]
  dsimp only
  split
  · exact ⟨rfl, rfl⟩
  · exact ⟨rfl, rfl⟩

/-- Items join the annotation, or the annotation without its areas. -/
theorem target_of_loading? {loading : Loading}
    (loads : state.loading? operation = some loading) :
    loading.target.tree = state.tree ∧
      (loading.target.areas = state.areas ∨ loading.target.areas = []) ∧
      loading.target.suggestions = state.suggestions := by
  have fromPayload {target : AnnotationState} {payload : Json} {options : LoadOptions}
      (loads : loadingOf? target payload options = some loading) : loading.target = target := by
    rw [loadingOf?] at loads
    split at loads
    · cases loads
      rfl
    · contradiction
  cases operation with
  | load payload options =>
    rw [fromPayload loads]
    exact ⟨rfl, Or.inl rfl, rfl⟩
  | loadItems items options =>
    cases loads
    exact ⟨rfl, Or.inl rfl, rfl⟩
  | toggleDraft =>
    rw [loading?] at loads
    split at loads
    · contradiction
    · obtain ⟨areas, suggestions⟩ := present_cleared state.switched
      rw [fromPayload loads]
      exact ⟨(continues_cleared state.switched).tree, Or.inr areas, suggestions⟩
  | _ => contradiction

/-- Behind an operation that loads items there are the areas that these items make. -/
theorem perform_loading {loading : Loading}
    (loads : state.loading? operation = some loading) :
    (state.perform operation).1.areas = loading.applied.areas ∧
      (state.perform operation).1.suggestions = loading.applied.suggestions := by
  cases operation with
  | load payload options =>
    have present := present_load state payload options
    rwa [show loadingOf? state payload options = some loading from loads] at present
  | loadItems items options =>
    cases loads
    exact present_loadItems state items options
  | toggleDraft =>
    rw [loading?] at loads
    split at loads
    · contradiction
    · rename_i draft
      have present := present_load state.switched.cleared (.array state.switched.stored) {}
      rw [loads] at present
      have toggled : state.toggleDraft.1 =
          (state.switched.cleared.load (.array state.switched.stored) {}).1.resetHistory := by
        rw [toggleDraft, if_neg draft]
        rfl
      show state.toggleDraft.1.areas = _ ∧ state.toggleDraft.1.suggestions = _
      rw [toggled]
      exact present
  | _ => contradiction

/-- What items join was there before. -/
theorem presents_of_target {loading : Loading} (loads : state.loading? operation = some loading)
    (present : loading.target.Presents area) : state.Presents area := by
  obtain ⟨-, areas, suggestions⟩ := target_of_loading? loads
  rcases present with ⟨id, inside⟩ | ⟨id, inside⟩
  · rcases areas with same | empty
    · exact Or.inl ⟨id, same ▸ inside⟩
    · rw [empty] at inside
      contradiction
  · exact Or.inr ⟨id, suggestions ▸ inside⟩

/-! ## Operations that load nothing -/

/-- Where the object and the results of an area come from, as an operation is carried out. -/
inductive Origin (state : AnnotationState) (operation : Operation) :
    String → List AreaResult → Prop
  /-- They are those of a known area. -/
  | kept {former : Area} (known : state.Knows former) :
    Origin state operation former.object former.results
  /-- A control that is bound to an object created the area there. -/
  | created {control object : Element} (names : String × String) {value : Value}
    (records : operation.value? = some value)
    (controlFound : state.tree.get? names.1 = some control ∧ control.makesResults = true)
    (objectFound : state.tree.get? names.2 = some object ∧ object.isObject = true)
    (targets : control.targets object.name = true) :
    Origin state operation object.name
      [{ fromName := names.1
         toName := names.2
         resultType := control.resultType.getD ""
         value := value }]
  /-- A control that is bound to the object of a known area recorded a value there. -/
  | appended {former : Area} (known : state.Knows former) {control : String} {element : Element}
    {value : Value} (records : operation.value? = some value)
    (found : state.tree.get? control = some element ∧ element.makesResults = true)
    (targets : element.targets former.object = true) :
    Origin state operation former.object
      (former.results ++
        [{ fromName := control
           toName := former.object
           resultType := element.resultType.getD ""
           value := value }])
  /-- A result of a known area got another value. -/
  | changed {former : Area} (known : state.Knows former) (control : String) {value : Value}
    (records : operation.value? = some value) :
    Origin state operation former.object (setValue control value former).results

/-- Every area that is there has an origin in another annotation. -/
def Explains (state : AnnotationState) (operation : Operation) (next : AnnotationState) : Prop :=
  ∀ area, next.Presents area → state.Origin operation area.object area.results

/-- Every area that is there has the object and the results of one that was there before. -/
def Inherits (state next : AnnotationState) : Prop :=
  ∀ area, next.Presents area → ∃ former, state.Presents former ∧
    area.object = former.object ∧ area.results = former.results

/-- What is inherited twice is inherited. -/
theorem Inherits.trans {last : AnnotationState} (first : state.Inherits next)
    (second : next.Inherits last) : state.Inherits last := by
  intro area present
  obtain ⟨middle, inside, object, results⟩ := second area present
  obtain ⟨former, known, middleObject, middleResults⟩ := first middle inside
  exact ⟨former, known, object.trans middleObject, results.trans middleResults⟩

/-- What is inherited from an explained annotation is explained. -/
theorem Explains.trans {last : AnnotationState} (first : state.Explains operation next)
    (second : next.Inherits last) : state.Explains operation last := by
  intro area present
  obtain ⟨middle, inside, object, results⟩ := second area present
  rw [object, results]
  exact first middle inside

/-- What is inherited is explained. -/
theorem Inherits.explains (inherits : state.Inherits next) : state.Explains operation next := by
  intro area present
  obtain ⟨former, known, object, results⟩ := inherits area present
  rw [object, results]
  exact .kept (Or.inl known)

/-- Areas and suggestions are inherited from annotations that have them all. -/
theorem inherits_of_subset (areas : next.areas ⊆ state.areas)
    (suggestions : next.suggestions ⊆ state.suggestions) : state.Inherits next := by
  intro area present
  refine ⟨area, ?_, rfl, rfl⟩
  rcases present with ⟨id, inside⟩ | ⟨id, inside⟩
  · exact Or.inl ⟨id, areas inside⟩
  · exact Or.inr ⟨id, suggestions inside⟩

/-- The same areas and suggestions are inherited. -/
theorem inherits_of_eq (areas : next.areas = state.areas)
    (suggestions : next.suggestions = state.suggestions) : state.Inherits next :=
  inherits_of_subset (areas ▸ List.Subset.refl _) (suggestions ▸ List.Subset.refl _)

/-- The same areas and suggestions are explained. -/
theorem explains_of_eq (areas : next.areas = state.areas)
    (suggestions : next.suggestions = state.suggestions) : state.Explains operation next :=
  (inherits_of_eq areas suggestions).explains

/-- Recording, an annotation inherits. -/
theorem inherits_recorded (state : AnnotationState) : state.Inherits state.recorded :=
  inherits_of_eq rfl rfl

/-- Ending a batch, an annotation inherits. -/
theorem inherits_committed (state : AnnotationState) : state.Inherits state.committed :=
  inherits_of_eq rfl rfl

/-- Promoting relations, an annotation inherits. -/
theorem inherits_promoteRelations (state : AnnotationState) :
    state.Inherits state.promoteRelations := inherits_of_eq rfl rfl

/-- Removing superseded classifications, an annotation inherits. -/
theorem inherits_cleaned (state : AnnotationState) : state.Inherits state.cleaned.1 := by
  rw [cleaned]
  split
  · exact inherits_of_eq rfl rfl
  · exact inherits_of_subset (List.filter_sublist.subset) (List.Subset.refl _)

/-- A change of one area is explained if the changed area is. -/
theorem explains_changeArea (state : AnnotationState) (id : AreaId) {change : Area → Area}
    (changed : ∀ area, (id, area) ∈ state.areas →
      state.Origin operation (change area).object (change area).results) :
    state.Explains operation (state.changeArea id change) := by
  rintro area (⟨key, inside⟩ | suggested)
  · rcases Entries.mem_update inside with old | ⟨former, known, same⟩
    · exact .kept (Or.inl (Or.inl ⟨key, old⟩))
    · cases same
      exact changed former known
  · exact .kept (Or.inl (Or.inr suggested))

/-- An accepted suggestion has its object and its results; the other areas stay. -/
theorem presents_acceptArea {suggestion : Area}
    (present : (state.acceptArea suggestion).1.Presents area) :
    state.Presents area ∨
      (area.object = suggestion.object ∧ area.results = suggestion.results) := by
  obtain ⟨id, session, -, made⟩ := acceptArea_eq state suggestion
  rw [made] at present
  rcases present with ⟨key, inside⟩ | suggested
  · rcases Entries.mem_put inside with new | old
    · cases new
      exact Or.inr ⟨rfl, rfl⟩
    · exact Or.inl (Or.inl ⟨key, old⟩)
  · exact Or.inl (Or.inr suggested)

/-- The same for several suggestions. -/
theorem presents_foldl_acceptArea (suggestions : List Area) (state : AnnotationState)
    (present : (suggestions.foldl (fun state area => (state.acceptArea area).1) state).Presents
      area) :
    state.Presents area ∨ ∃ suggestion ∈ suggestions,
      area.object = suggestion.object ∧ area.results = suggestion.results := by
  induction suggestions generalizing state with
  | nil => exact Or.inl present
  | cons suggestion rest hypothesis =>
    rcases hypothesis _ present with before | ⟨other, inside, same⟩
    · exact (presents_acceptArea before).imp_right
        fun same => ⟨suggestion, List.mem_cons_self, same⟩
    · exact Or.inr ⟨other, List.mem_cons_of_mem _ inside, same⟩

/-- Accepting a suggestion, an annotation inherits. -/
theorem inherits_accept {id accepted : AreaId} (done : state.accept id = .ok (next, accepted)) :
    state.Inherits next := by
  obtain ⟨suggestion, found, made⟩ := accept_eq_ok done
  let taken := { state with suggestions := state.suggestions.erase id }
  have inherits : state.Inherits (taken.acceptArea suggestion).1 := by
    intro area present
    rcases presents_acceptArea present with (⟨key, inside⟩ | ⟨key, inside⟩) | same
    · exact ⟨area, Or.inl ⟨key, inside⟩, rfl, rfl⟩
    · exact ⟨area, Or.inr ⟨key, (List.mem_filter.mp inside).1⟩, rfl, rfl⟩
    · exact ⟨suggestion, Or.inr ⟨id, Entries.mem_of_get? found⟩, same⟩
  rw [made]
  exact ((inherits.trans (inherits_promoteRelations _)).trans (inherits_cleaned _)).trans
    (inherits_recorded _)

/-- Accepting every suggestion, an annotation inherits. -/
theorem inherits_acceptAll (state : AnnotationState) : state.Inherits state.acceptAll.1 := by
  let begun := { state with suggestions := [] }.frozen
  let accepted := state.suggestions.bySeq.foldl (fun state area => (state.acceptArea area).1) begun
  have inherits : state.Inherits accepted := by
    intro area present
    rcases presents_foldl_acceptArea _ begun present with before | ⟨suggestion, inside, same⟩
    · rcases before with ⟨key, inside⟩ | ⟨key, inside⟩
      · exact ⟨area, Or.inl ⟨key, inside⟩, rfl, rfl⟩
      · contradiction
    · obtain ⟨key, pending⟩ := Areas.mem_bySeq.mp inside
      exact ⟨suggestion, Or.inr ⟨key, pending⟩, same⟩
  exact ((inherits.trans (inherits_promoteRelations accepted)).trans (inherits_cleaned _)).trans
    (inherits_committed _)

/-- A control creates areas only on objects that it is bound to. -/
theorem targets_of_create {shape : Shape} {value : Value} {control object : String} {id : AreaId}
    (created : state.create shape value control object = .ok (next, id))
    {controlElement objectElement : Element}
    (controlFound : state.tree.get? control = some controlElement)
    (objectFound : state.tree.get? object = some objectElement) :
    controlElement.targets objectElement.name = true := by
  simp only [create, Except.bind_eq_ok, resultControl_eq_ok, objectElement_eq_ok] at created
  obtain ⟨other, ⟨otherFound, -⟩, target, ⟨targetFound, -⟩, created⟩ := created
  rw [controlFound, Option.some.injEq] at otherFound
  rw [objectFound, Option.some.injEq] at targetFound
  subst otherFound targetFound
  split at created
  · contradiction
  · rename_i bound
    rwa [Bool.not_eq_true', Bool.not_eq_false] at bound

/-- A created area is explained, and the other areas stay. -/
theorem explains_create {shape : Shape} {value : Value} {control object : String} {id : AreaId}
    (created : state.create shape value control object = .ok (next, id))
    (records : operation.value? = some value) : state.Explains operation next := by
  obtain ⟨controlElement, objectElement, changed, made, controlFound, objectFound, -, -, areas, -,
    suggestions, -⟩ := create_eq_ok created
  have explains : state.Explains operation changed := by
    rintro area (⟨key, inside⟩ | ⟨key, inside⟩)
    · rw [areas] at inside
      rcases Entries.mem_put inside with new | old
      · cases new
        exact .created (control, object) records controlFound objectFound
          (targets_of_create created controlFound.1 objectFound.1)
      · exact .kept (Or.inl (Or.inl ⟨key, old⟩))
    · rw [suggestions] at inside
      exact .kept (Or.inl (Or.inr ⟨key, inside⟩))
  rw [made]
  exact explains.trans ((inherits_cleaned changed).trans (inherits_recorded _))

/-- A control records values only for areas of objects that it is bound to. -/
theorem targets_of_addResult {id : AreaId} {control : String} {value : Value}
    (added : state.addResult id control value = .ok next) {element : Element}
    (found : state.tree.get? control = some element) (stored : state.areas.get? id = some area) :
    element.targets area.object = true := by
  simp only [addResult, Except.bind_eq_ok, resultControl_eq_ok, liveArea_eq_ok] at added
  obtain ⟨other, ⟨otherFound, -⟩, live, liveFound, added⟩ := added
  rw [found, Option.some.injEq] at otherFound
  rw [stored, Option.some.injEq] at liveFound
  subst otherFound liveFound
  split at added
  · contradiction
  · rename_i bound
    rwa [Bool.not_eq_true', Bool.not_eq_false] at bound

/-- A recorded value is explained. -/
theorem explains_addResult (sorted : Entries.Sorted state.areas) {id : AreaId} {control : String}
    {value : Value} (added : state.addResult id control value = .ok next)
    (records : operation.value? = some value) : state.Explains operation next := by
  obtain ⟨element, found, made⟩ := addResult_eq_ok added
  rw [made]
  refine Explains.trans (explains_changeArea state id fun area inside => ?_)
    (inherits_recorded _)
  have known : state.Knows area := Or.inl (Or.inl ⟨id, inside⟩)
  rw [recordedResult]
  split
  · exact .changed known control records
  · exact .appended known records found
      (targets_of_addResult added found.1 (Entries.get?_of_mem sorted inside))

/-- A change of one area that keeps its object and its results is explained. -/
theorem explains_changeLive {id : AreaId} {change : Area → Area}
    (changed : state.changeLive id change = .ok next)
    (unchanged : ∀ area, (change area).object = area.object ∧
      (change area).results = area.results) : state.Explains operation next := by
  rw [changeLive_eq_ok changed]
  refine Explains.trans (explains_changeArea state id fun area inside => ?_)
    (inherits_recorded _)
  rw [(unchanged area).1, (unchanged area).2]
  exact .kept (Or.inl (Or.inl ⟨id, inside⟩))

/-- What the history hands out was known. -/
theorem explains_travel {result : History Snapshot × Option Snapshot}
    (handed : ∀ held, result.2 = some held → state.history.Holds held) :
    state.Explains operation (state.travel result).1 := by
  rw [travel]
  split
  · rename_i snapshot found
    rintro area (⟨key, inside⟩ | ⟨key, inside⟩)
    · refine .kept (Or.inr ⟨snapshot, handed snapshot found, key, ?_⟩)
      rw [restore] at inside
      split at inside
      · exact inside
      · exact inside
    · refine .kept (Or.inl (Or.inr ⟨key, ?_⟩))
      rw [restore] at inside
      split at inside
      · exact inside
      · exact inside
  · exact explains_of_eq rfl rfl

/-- Deleting an area leaves the others. -/
theorem inherits_delete {id : AreaId} {removed : Area}
    (deleted : state.delete id = .ok (next, removed)) : state.Inherits next := by
  obtain ⟨changed, made, -, areas, -, suggestions, -⟩ := delete_eq_ok deleted
  have inherits : state.Inherits changed := by
    refine inherits_of_subset ?_ ?_
    · rw [areas]
      exact List.filter_sublist.subset
    · rw [suggestions]
      exact List.Subset.refl _
  rw [made]
  exact inherits.trans (inherits_recorded changed)

/-- Rejecting a suggestion leaves the others. -/
theorem inherits_reject {id : AreaId} {removed : Area}
    (rejected : state.reject id = .ok (next, removed)) : state.Inherits next := by
  rw [reject_eq_ok rejected]
  exact inherits_of_subset (List.Subset.refl _) List.filter_sublist.subset

/-- Notifications leave the areas alone. -/
theorem inherits_foldl_fire (events : List AreaId) (state : AnnotationState) :
    state.Inherits (events.foldl (fun state id => state.fire (.deleted id)) state) := by
  induction events generalizing state with
  | nil => exact inherits_of_eq rfl rfl
  | cons id rest hypothesis =>
    have fired : state.Inherits (state.fire (.deleted id)) := inherits_of_eq rfl rfl
    exact fired.trans (hypothesis _)

/-- Clearing an annotation leaves the suggestions. -/
theorem inherits_cleared (state : AnnotationState) : state.Inherits state.cleared := by
  obtain ⟨areas, suggestions⟩ := present_cleared state
  refine inherits_of_subset ?_ ?_
  · rw [areas]
    exact List.nil_subset _
  · rw [suggestions]
    exact List.Subset.refl _

/-- Deleting every area leaves the suggestions. -/
theorem inherits_deleteAll (state : AnnotationState) : state.Inherits state.deleteAll :=
  ((inherits_cleared state).trans (inherits_foldl_fire _ _)).trans (inherits_recorded _)

/-- An operation that may fail is explained if its success is. -/
theorem explains_attempt {α : Type} {result : Except Failure (AnnotationState × α)}
    {answer : α → Answer}
    (explains : ∀ next value, result = .ok (next, value) → state.Explains operation next) :
    state.Explains operation (state.attempt result answer).1 := by
  cases result with
  | ok success => exact explains _ _ rfl
  | error failure => exact explains_of_eq rfl rfl

/-- The same for operations without a value. -/
theorem explains_attemptDone {result : Except Failure AnnotationState}
    (explains : ∀ next, result = .ok next → state.Explains operation next) :
    state.Explains operation (state.attemptDone result).1 := by
  cases result with
  | ok success => exact explains _ rfl
  | error failure => exact explains_of_eq rfl rfl

/-- A change of the relations leaves the areas alone. -/
theorem explains_withRelations {α : Type} (state : AnnotationState) (result : Relations × α)
    (hasChanged : α → Bool) :
    state.Explains operation (state.withRelations result hasChanged).1 := by
  have related (relations : Relations) : state.Inherits { state with relations := relations } :=
    inherits_of_eq rfl rfl
  rw [withRelations]
  split
  · exact ((related result.1).trans (inherits_recorded _)).explains
  · exact explains_of_eq rfl rfl

/-- An autosave leaves the areas alone. -/
theorem inherits_autosave (state : AnnotationState) (now : Nat) :
    state.Inherits (state.autosave now).1 := by
  rw [autosave]
  split
  · exact inherits_of_eq rfl rfl
  · split
    · exact inherits_of_eq rfl rfl
    · dsimp only
      split
      · exact inherits_of_eq rfl rfl
      · exact inherits_of_eq rfl rfl

/-- A load of a payload that cannot be read leaves the areas alone. -/
theorem inherits_load {payload : Json} {options : LoadOptions}
    (unreadable : loadingOf? state payload options = none) :
    state.Inherits (state.load payload options).1 := by
  have present := present_load state payload options
  rw [unreadable] at present
  exact inherits_of_eq present.1 present.2

/-- Switching to a version that cannot be read leaves the suggestions. -/
theorem inherits_toggleDraft (loadsNothing : state.loading? .toggleDraft = none) :
    state.Inherits state.toggleDraft.1 := by
  rw [loading?] at loadsNothing
  rw [toggleDraft]
  split
  · exact inherits_of_eq rfl rfl
  · rename_i draft
    rw [if_neg draft] at loadsNothing
    have switched : state.Inherits state.switched := inherits_of_eq rfl rfl
    have loaded := inherits_load loadsNothing
    exact ((switched.trans (inherits_cleared _)).trans loaded).trans (inherits_of_eq rfl rfl)

/-- Every area behind an operation that loads nothing has an origin before it. -/
theorem explains_perform (sorted : Entries.Sorted state.areas)
    (loadsNothing : state.loading? operation = none) :
    state.Explains operation (state.perform operation).1 := by
  cases operation with
  | create shape value control object =>
    exact explains_attempt fun next id created => explains_create created rfl
  | addResult area control value =>
    exact explains_attemptDone fun next added => explains_addResult sorted added rfl
  | updateValue area control value =>
    refine explains_attemptDone fun next updated => ?_
    rw [updateValue_eq_ok updated]
    refine Explains.trans (explains_changeArea state area fun former inside => ?_)
      (inherits_recorded _)
    exact .changed (Or.inl (Or.inl ⟨area, inside⟩)) control rfl
  | updateShape area shape =>
    exact explains_attemptDone fun next changed => explains_changeLive changed fun _ => ⟨rfl, rfl⟩
  | setParent area parent =>
    exact explains_attemptDone fun next changed => explains_changeLive changed fun _ => ⟨rfl, rfl⟩
  | setReadonly area value =>
    exact explains_attemptDone fun next changed => explains_changeLive changed fun _ => ⟨rfl, rfl⟩
  | setHidden area value =>
    exact explains_attemptDone fun next changed => explains_changeLive changed fun _ => ⟨rfl, rfl⟩
  | delete area =>
    exact explains_attempt fun next removed deleted => (inherits_delete deleted).explains
  | deleteAll => exact (inherits_deleteAll state).explains
  | clean => exact (inherits_cleaned state).explains
  | load payload options => exact (inherits_load loadsNothing).explains
  | loadItems items options => contradiction
  | accept area =>
    exact explains_attempt fun next id accepted => (inherits_accept accepted).explains
  | reject area =>
    exact explains_attempt fun next removed rejected => (inherits_reject rejected).explains
  | acceptAll => exact (inherits_acceptAll state).explains
  | addVersions versions => exact explains_of_eq rfl rfl
  | toggleDraft => exact (inherits_toggleDraft loadsNothing).explains
  | autosave now => exact (inherits_autosave state now).explains
  | refuseDrafts value => exact explains_of_eq rfl rfl
  | select area =>
    refine explains_attemptDone fun next selected => ?_
    rw [(select_eq_ok selected).2]
    exact explains_of_eq rfl rfl
  | toggle area =>
    refine explains_attempt fun next value toggled => ?_
    obtain ⟨_, _, made⟩ := toggle_eq_ok toggled
    rw [made]
    exact explains_of_eq rfl rfl
  | unselectAll =>
    rw [perform, unselectAll]
    split
    · exact explains_of_eq rfl rfl
    · exact explains_of_eq rfl rfl
  | setGroundTruth value => exact explains_of_eq rfl rfl
  | setEditable value => exact explains_of_eq rfl rfl
  | setKey key => exact explains_of_eq rfl rfl
  | relate source target =>
    refine explains_attempt fun next value related => ?_
    have explains : state.Explains (.relate source target) _ := explains_withRelations state
      (state.relations.insert { first := source, second := target }) (· == true)
    rwa [← relate_eq_ok related] at explains
  | unrelate place => exact explains_withRelations state (state.relations.delete place) _
  | rotateRelation place => exact explains_withRelations state (state.relations.rotate place) _
  | labelRelation place labels =>
    exact explains_withRelations state
      (state.relations.setLabels place (declaredLabels state.tree labels)) _
  | unrelateArea area => exact explains_withRelations state (state.relations.deleteArea area) _
  | undo => exact explains_travel fun held => History.holds_undo.2
  | redo => exact explains_travel fun held => History.holds_redo.2
  | reset => exact explains_travel fun held => History.holds_reset.2
  | resetHistory => exact explains_of_eq rfl rfl

end AnnotationState
end Labeling
