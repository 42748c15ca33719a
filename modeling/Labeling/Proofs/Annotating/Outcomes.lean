import Labeling.Annotating.Operation
import Labeling.Proofs.Except

/-!
# What operations on an annotation do

An operation that may fail looks up the areas and elements that it names, and only then changes
anything; each has here the form of its success. All operations but one end in `recorded` or
`committed`, leave what is recorded as it is, put back a state that the history hands out, or begin
the history anew: `perform_outcome`. Those that neither go back or forth in the history nor begin it
anew record what they change: `perform_change`. The one is the removal of superseded classifications
by itself.
-/
namespace Labeling

/-- Whether an operation goes back or forth in the history or begins it anew. -/
def Operation.travels : Operation → Bool
  | .undo => true
  | .redo => true
  | .reset => true
  | .toggleDraft => true
  | .resetHistory => true
  | _ => false

namespace AnnotationState

variable {state next : AnnotationState}

/-! ## Looking up -/

/-- The object of a name is what the name stands for. -/
theorem objectElement_eq_ok {tree : ElementTree} {name : String} {object : Element} :
    objectElement tree name = .ok object ↔
      tree.get? name = some object ∧ object.isObject = true := by
  rw [objectElement]
  cases tree.get? name with
  | none => simp
  | some element =>
    by_cases isObject : element.isObject = true
    · simp only [isObject, if_true, Except.ok.injEq, Option.some.injEq]
      exact ⟨fun same => ⟨same, same ▸ isObject⟩, fun found => found.1⟩
    · simp only [isObject]
      constructor
      · intro found
        contradiction
      · rintro ⟨found, is⟩
        cases found
        contradiction

/-- The control of an item is what its name stands for. -/
theorem itemControl_eq_ok {tree : ElementTree} {name : String} {control : Element} :
    itemControl tree name = .ok control ↔
      tree.get? name = some control ∧ control.isControl = true := by
  rw [itemControl]
  cases found : (tree.get? name).filter (·.isControl) with
  | none =>
    simp only [reduceCtorEq, false_iff]
    rintro ⟨named, isControl⟩
    simp [named, isControl] at found
  | some element =>
    obtain ⟨named, isControl⟩ := Option.filter_eq_some_iff.mp found
    simp only [Except.ok.injEq, named, Option.some.injEq]
    exact ⟨fun same => ⟨same, same ▸ isControl⟩, fun same => same.1⟩

/-- The control of a name that makes results is what the name stands for. -/
theorem resultControl_eq_ok {tree : ElementTree} {name : String} {control : Element} :
    resultControl tree name = .ok control ↔
      tree.get? name = some control ∧ control.makesResults = true := by
  rw [resultControl]
  cases tree.get? name with
  | none => simp
  | some element =>
    by_cases makes : element.makesResults = true
    · simp only [makes, if_true, Except.ok.injEq, Option.some.injEq]
      exact ⟨fun same => ⟨same, same ▸ makes⟩, fun found => found.1⟩
    · simp only [makes]
      constructor
      · intro found
        contradiction
      · rintro ⟨found, is⟩
        cases found
        contradiction

/-- The area of an id is what is stored under it. -/
theorem liveArea_eq_ok {id : AreaId} {area : Area} :
    state.liveArea id = .ok area ↔ state.areas.get? id = some area := by
  rw [liveArea]
  cases state.areas.get? id <;> simp

/-- The suggestion of an id is what is stored under it. -/
theorem pendingArea_eq_ok {id : AreaId} {area : Area} :
    state.pendingArea id = .ok area ↔ state.suggestions.get? id = some area := by
  rw [pendingArea]
  cases state.suggestions.get? id <;> simp

/-! ## Going on with the history -/

/-- An annotation that goes on with its configuration and its history as they are. -/
structure Continues (state next : AnnotationState) : Prop where
  /-- The id stays. -/
  id : next.id = state.id
  /-- The configuration stays. -/
  tree : next.tree = state.tree
  /-- The settings stay. -/
  settings : next.settings = state.settings
  /-- The history stays. -/
  history : next.history = state.history

/-- An annotation goes on as it is. -/
theorem Continues.refl (state : AnnotationState) : state.Continues state := ⟨rfl, rfl, rfl, rfl⟩

/-- What goes on twice goes on. -/
theorem Continues.trans {last : AnnotationState} (first : state.Continues next)
    (second : next.Continues last) : state.Continues last :=
  ⟨second.id.trans first.id, second.tree.trans first.tree, second.settings.trans first.settings,
    second.history.trans first.history⟩

/-- Recording changes the values of the controls, the revision and the history. -/
theorem recorded_eq (state : AnnotationState) : ∃ controlValues revision history,
    state.recorded = { state with
      controlValues := controlValues, revision := revision, history := history } :=
  ⟨_, _, _, rfl⟩

/-- Recording a batch changes the same. -/
theorem committed_eq (state : AnnotationState) : ∃ controlValues revision history,
    state.committed = { state with
      controlValues := controlValues, revision := revision, history := history } :=
  ⟨_, _, _, rfl⟩

/-- Restoring a state puts its areas and relations in place of the present ones, and records. -/
theorem restore_eq (state : AnnotationState) (snapshot : Snapshot) : ∃ told : AnnotationState,
    state.restore snapshot = told.recorded ∧ state.Continues told ∧
      told.snapshot = snapshot := by
  rw [restore]
  split
  · exact ⟨_, rfl, ⟨rfl, rfl, rfl, rfl⟩, rfl⟩
  · exact ⟨_, rfl, ⟨rfl, rfl, rfl, rfl⟩, rfl⟩

/-! ## The forms of success -/

/-- The area that a control creates on an object. -/
def createdArea (control object : Element) (shape : Shape) (value : Value)
    (names : String × String) (id : AreaId) (seq : Nat) : Area where
  id := id
  object := object.name
  shape := shape
  results := [{ fromName := names.1
                toName := names.2
                resultType := control.resultType.getD ""
                value := value }]
  classification := control.classification && shape.isNone
  seq := seq

/-- A created area is put under an id of the annotation, and recorded without the classifications
that it supersedes. It may be the only one selected. -/
theorem create_eq_ok {shape : Shape} {value : Value} {control object : String} {id : AreaId}
    (created : state.create shape value control object = .ok (next, id)) :
    ∃ controlElement objectElement changed, next = changed.cleaned.1.recorded ∧
      (state.tree.get? control = some controlElement ∧ controlElement.makesResults = true) ∧
      (state.tree.get? object = some objectElement ∧ objectElement.isObject = true) ∧
      id.owner = state.id ∧ state.Continues changed ∧
      changed.areas = state.areas.put id
        (createdArea controlElement objectElement shape value (control, object) id
          state.nextSeq) ∧
      changed.nextSeq = state.nextSeq + 1 ∧ changed.suggestions = state.suggestions ∧
      changed.suggestedRelations = state.suggestedRelations ∧
      (changed.selection = state.selection ∨ changed.selection = [id]) := by
  simp only [create, Except.bind_eq_ok, resultControl_eq_ok, objectElement_eq_ok] at created
  obtain ⟨controlElement, controlFound, objectElement, objectFound, created⟩ := created
  split at created
  · contradiction
  · simp only [pure, Except.pure, Except.ok.injEq, Prod.mk.injEq] at created
    obtain ⟨made, same⟩ := created
    subst same
    split at made
    · exact ⟨controlElement, objectElement, _, made.symm, controlFound, objectFound, rfl,
        ⟨rfl, rfl, rfl, rfl⟩, rfl, rfl, rfl, rfl, Or.inl rfl⟩
    · split at made
      · exact ⟨controlElement, objectElement, _, made.symm, controlFound, objectFound, rfl,
          ⟨rfl, rfl, rfl, rfl⟩, rfl, rfl, rfl, rfl, Or.inr rfl⟩
      · exact ⟨controlElement, objectElement, _, made.symm, controlFound, objectFound, rfl,
          ⟨rfl, rfl, rfl, rfl⟩, rfl, rfl, rfl, rfl, Or.inl rfl⟩

/-- A successful change of an area is recorded. -/
theorem changeLive_eq_ok {id : AreaId} {change : Area → Area}
    (changed : state.changeLive id change = .ok next) :
    next = (state.changeArea id change).recorded := by
  simp only [changeLive, Except.bind_eq_ok] at changed
  obtain ⟨area, -, changed⟩ := changed
  exact (Except.ok.inj changed).symm

/-- The change that recording a value of a control makes of an area. -/
def recordedResult (control : Element) (name : String) (value : Value) (area : Area) : Area :=
  if (area.resultFor? name).isSome then setValue name value area
  else
    { area with results := area.results ++
        [{ fromName := name
           toName := area.object
           resultType := control.resultType.getD ""
           value := value }] }

/-- A recorded value changes its area. -/
theorem addResult_eq_ok {id : AreaId} {control : String} {value : Value}
    (added : state.addResult id control value = .ok next) :
    ∃ element, (state.tree.get? control = some element ∧ element.makesResults = true) ∧
      next = (state.changeArea id (recordedResult element control value)).recorded := by
  simp only [addResult, Except.bind_eq_ok, resultControl_eq_ok] at added
  obtain ⟨element, found, area, -, added⟩ := added
  split at added
  · contradiction
  · exact ⟨element, found, (Except.ok.inj added).symm⟩

/-- A replaced value changes its area. -/
theorem updateValue_eq_ok {id : AreaId} {control : String} {value : Value}
    (updated : state.updateValue id control value = .ok next) :
    next = (state.changeArea id (setValue control value)).recorded := by
  simp only [updateValue, Except.bind_eq_ok] at updated
  obtain ⟨area, -, updated⟩ := updated
  split at updated
  · contradiction
  · exact (Except.ok.inj updated).symm

/-- A deleted area leaves the areas and the selection. -/
theorem delete_eq_ok {id : AreaId} {area : Area} (deleted : state.delete id = .ok (next, area)) :
    ∃ changed, next = changed.recorded ∧ state.Continues changed ∧
      changed.areas = state.areas.erase id ∧ changed.nextSeq = state.nextSeq ∧
      changed.suggestions = state.suggestions ∧
      changed.suggestedRelations = state.suggestedRelations ∧
      changed.selection = state.selection.filter (· ≠ id) := by
  simp only [delete, Except.bind_eq_ok] at deleted
  obtain ⟨found, -, deleted⟩ := deleted
  simp only [pure, Except.pure, Except.ok.injEq, Prod.mk.injEq] at deleted
  obtain ⟨made, -⟩ := deleted
  split at made
  · exact ⟨_, made.symm, ⟨rfl, rfl, rfl, rfl⟩, rfl, rfl, rfl, rfl, rfl⟩
  · exact ⟨_, made.symm, ⟨rfl, rfl, rfl, rfl⟩, rfl, rfl, rfl, rfl, rfl⟩

/-- An area is selected if there is one. -/
theorem select_eq_ok {id : AreaId} (selected : state.select id = .ok next) :
    state.areas.has id = true ∧ next = { state with selection := [id] }.selectionTold := by
  simp only [select, Except.bind_eq_ok, liveArea_eq_ok] at selected
  obtain ⟨area, found, selected⟩ := selected
  exact ⟨by rw [Entries.has, found]; rfl, (Except.ok.inj selected).symm⟩

/-- An area is selected or no longer selected if there is one. -/
theorem toggle_eq_ok {id : AreaId} {value : Bool}
    (toggled : state.toggle id = .ok (next, value)) :
    ∃ selection, (selection = state.selection.filter (· ≠ id) ∨
        state.areas.has id = true ∧ selection = insertId id state.selection) ∧
      next = { state with selection := selection }.selectionTold := by
  simp only [toggle, Except.bind_eq_ok, liveArea_eq_ok] at toggled
  obtain ⟨area, found, toggled⟩ := toggled
  split at toggled
  · cases toggled
    exact ⟨_, Or.inl rfl, rfl⟩
  · cases toggled
    exact ⟨_, Or.inr ⟨by rw [Entries.has, found]; rfl, rfl⟩, rfl⟩

/-- Two areas are related in one step. -/
theorem relate_eq_ok {source target : AreaId} {value : Bool}
    (related : state.relate source target = .ok (next, value)) :
    (next, value) = state.withRelations
      (state.relations.insert { first := source, second := target }) (· == true) := by
  simp only [relate, Except.bind_eq_ok] at related
  obtain ⟨_, -, _, -, related⟩ := related
  exact (Except.ok.inj related).symm

/-- An accepted suggestion is taken from the suggestions and put among the areas. -/
theorem accept_eq_ok {id accepted : AreaId} (done : state.accept id = .ok (next, accepted)) :
    ∃ area, state.suggestions.get? id = some area ∧
      next = ({ state with suggestions := state.suggestions.erase id }.acceptArea
        area).1.promoteRelations.cleaned.1.recorded := by
  simp only [accept, Except.bind_eq_ok, pendingArea_eq_ok] at done
  obtain ⟨area, found, done⟩ := done
  cases done
  exact ⟨area, found, rfl⟩

/-- A rejected suggestion is taken from the suggestions with its relations. -/
theorem reject_eq_ok {id : AreaId} {area : Area} (done : state.reject id = .ok (next, area)) :
    next = { state with
      suggestions := state.suggestions.erase id
      suggestedRelations := (state.suggestedRelations.deleteArea id).1 } := by
  simp only [reject, Except.bind_eq_ok] at done
  obtain ⟨_, -, done⟩ := done
  cases done
  rfl

/-- An applied item joins the areas or the suggestions under the id that it gets. -/
theorem applyResult_eq_ok {options : LoadOptions} {item : WireResult}
    (applied : applyResult options state item = .ok next) :
    ∃ object control, (state.tree.get? item.toName = some object ∧ object.isObject = true) ∧
      (state.tree.get? item.fromName = some control ∧ control.isControl = true) ∧
      next = { (state.itemId item).1 with
        nextSeq := state.nextSeq + 1
        areas :=
          if options.suggestions then state.areas
          else addItem state.areas control object item options (state.itemId item).2 state.nextSeq
        suggestions :=
          if options.suggestions then
            addItem state.suggestions control object item options (state.itemId item).2
              state.nextSeq
          else state.suggestions } := by
  simp only [applyResult, Except.bind_eq_ok, objectElement_eq_ok, itemControl_eq_ok] at applied
  obtain ⟨object, objectFound, control, controlFound, applied⟩ := applied
  refine ⟨object, control, objectFound, controlFound, ?_⟩
  have session : ∃ session, (state.itemId item).1 = { state with session := session } := by
    rw [itemId]
    split
    · exact ⟨_, rfl⟩
    · exact ⟨_, rfl⟩
  obtain ⟨session, named⟩ := session
  rw [named] at applied ⊢
  split at applied
  · rename_i suggested
    rw [if_pos suggested, if_pos suggested]
    exact (Except.ok.inj applied).symm
  · rename_i live
    rw [if_neg live, if_neg live]
    exact (Except.ok.inj applied).symm

/-! ## How the history goes on -/

/-- Removing superseded classifications goes on with the history. -/
theorem continues_cleaned (state : AnnotationState) : state.Continues state.cleaned.1 := by
  rw [cleaned]
  split
  · exact .refl state
  · exact ⟨rfl, rfl, rfl, rfl⟩

/-- Clearing an annotation goes on with the history. -/
theorem continues_cleared (state : AnnotationState) : state.Continues state.cleared := by
  rw [cleared]
  dsimp only
  split
  · exact ⟨rfl, rfl, rfl, rfl⟩
  · exact ⟨rfl, rfl, rfl, rfl⟩

/-- Steps that go on with the history do so together. -/
theorem continues_foldl {α : Type} (step : AnnotationState → α → AnnotationState)
    (continues : ∀ (state : AnnotationState) (value : α), state.Continues (step state value))
    (values : List α) (state : AnnotationState) : state.Continues (values.foldl step state) := by
  induction values generalizing state with
  | nil => exact .refl state
  | cons value rest hypothesis => exact (continues state value).trans (hypothesis _)

/-- Applying an item goes on with the history. -/
theorem continues_applyResult {options : LoadOptions} {item : WireResult}
    (applied : applyResult options state item = .ok next) : state.Continues next := by
  obtain ⟨_, _, _, _, made⟩ := applyResult_eq_ok applied
  rw [made, itemId]
  split
  · exact ⟨rfl, rfl, rfl, rfl⟩
  · exact ⟨rfl, rfl, rfl, rfl⟩

/-- Applying items goes on with the history, also where one fails. -/
theorem continues_applyResults (options : LoadOptions) (items : List WireResult)
    (state : AnnotationState) : state.Continues (applyResults options state items).1 := by
  induction items generalizing state with
  | nil => exact .refl state
  | cons item rest hypothesis =>
    rw [applyResults]
    split
    · rename_i next applied
      exact (continues_applyResult applied).trans (hypothesis next)
    · exact .refl state

/-- Applying repaired items and relations goes on with the history. -/
theorem continues_applyItems (options : LoadOptions) (state : AnnotationState)
    (items : List WireItem) : state.Continues (applyItems options state items).1 := by
  have results := continues_applyResults options
    (WireItem.results (Repair.items state.tree items)) state
  rw [applyItems]
  dsimp only
  split
  · rename_i applied
    rw [applied] at results
    exact results
  · rename_i applied
    rw [applied] at results
    split
    · exact results.trans ⟨rfl, rfl, rfl, rfl⟩
    · exact results.trans ⟨rfl, rfl, rfl, rfl⟩

/-- Accepting a suggestion goes on with the history. -/
theorem continues_acceptArea (state : AnnotationState) (area : Area) :
    state.Continues (state.acceptArea area).1 := by
  rw [acceptArea]
  dsimp only
  split
  · exact ⟨rfl, rfl, rfl, rfl⟩
  · exact ⟨rfl, rfl, rfl, rfl⟩

/-- Promoting relations goes on with the history. -/
theorem continues_promoteRelations (state : AnnotationState) :
    state.Continues state.promoteRelations := ⟨rfl, rfl, rfl, rfl⟩

/-- What an operation that begins no journey makes of an annotation, told by how its history goes
on. -/
inductive Change (state : AnnotationState) : AnnotationState → Prop where
  /-- The areas, the relations and the values of the controls stay. -/
  | quiet {next : AnnotationState} (continues : state.Continues next)
    (areas : next.areas = state.areas) (relations : next.relations = state.relations)
    (controlValues : next.controlValues = state.controlValues) : Change state next
  /-- A change is recorded. -/
  | recorded {changed : AnnotationState} (continues : state.Continues changed) :
    Change state changed.recorded
  /-- A batch of changes is recorded. -/
  | committed {changed : AnnotationState} (continues : state.frozen.Continues changed) :
    Change state changed.committed

/-- An operation that does nothing is quiet. -/
theorem Change.same (state : AnnotationState) : state.Change state :=
  .quiet (.refl state) rfl rfl rfl

/-- An operation that fails is quiet, and one that succeeds changes as its success does. -/
theorem changes_attempt {α : Type} {result : Except Failure (AnnotationState × α)}
    {answer : α → Answer}
    (changes : ∀ next value, result = .ok (next, value) → state.Change next) :
    state.Change (state.attempt result answer).1 := by
  cases result with
  | ok success => exact changes _ _ rfl
  | error failure => exact .same state

/-- The same for operations without a value. -/
theorem changes_attemptDone {result : Except Failure AnnotationState}
    (changes : ∀ next, result = .ok next → state.Change next) :
    state.Change (state.attemptDone result).1 := by
  cases result with
  | ok success => exact changes _ rfl
  | error failure => exact .same state

/-- A change of an area is recorded. -/
theorem changes_changeArea (state : AnnotationState) (id : AreaId) (change : Area → Area) :
    state.Change (state.changeArea id change).recorded :=
  .recorded ⟨rfl, rfl, rfl, rfl⟩

/-- A change of the relations is recorded, and anything else about them changes nothing. -/
theorem changes_withRelations {α : Type} (state : AnnotationState) (result : Relations × α)
    (hasChanged : α → Bool) : state.Change (state.withRelations result hasChanged).1 := by
  rw [withRelations]
  split
  · exact .recorded ⟨rfl, rfl, rfl, rfl⟩
  · exact .same state

/-- The end of a load records the batch. -/
theorem finishLoad_eq (result : AnnotationState × Option Failure) :
    ∃ changed, (finishLoad result).1 = changed.committed ∧ result.1.Continues changed := by
  obtain ⟨changed, failure⟩ := result
  cases failure with
  | none => exact ⟨_, rfl, .refl changed⟩
  | some failure => exact ⟨_, rfl, ⟨rfl, rfl, rfl, rfl⟩⟩

/-- A load of items is a batch. -/
theorem loadItems_eq (state : AnnotationState) (items : List WireItem) (options : LoadOptions) :
    ∃ changed, (state.loadItems items options).1 = changed.committed ∧
      state.frozen.Continues changed := by
  obtain ⟨changed, made, finished⟩ := finishLoad_eq (applyItems options state.frozen items)
  exact ⟨changed, made, (continues_applyItems options state.frozen items).trans finished⟩

/-- A load of a payload is a batch, also where the payload cannot be read. -/
theorem load_eq (state : AnnotationState) (payload : Json) (options : LoadOptions) :
    ∃ changed, (state.load payload options).1 = changed.committed ∧
      state.frozen.Continues changed := by
  rw [load]
  split
  · exact loadItems_eq state _ options
  · exact finishLoad_eq (state.frozen, _)

/-- A load is recorded as one step. -/
theorem changes_load (state : AnnotationState) (payload : Json) (options : LoadOptions) :
    state.Change (state.load payload options).1 := by
  obtain ⟨changed, made, continues⟩ := load_eq state payload options
  rw [made]
  exact .committed continues

/-- A load of items is recorded as one step. -/
theorem changes_loadItems (state : AnnotationState) (items : List WireItem)
    (options : LoadOptions) : state.Change (state.loadItems items options).1 := by
  obtain ⟨changed, made, continues⟩ := loadItems_eq state items options
  rw [made]
  exact .committed continues

/-- Deleting every area is recorded as one step. -/
theorem changes_deleteAll (state : AnnotationState) : state.Change state.deleteAll :=
  .recorded ((continues_cleared state).trans
    (continues_foldl (fun state id => state.fire (.deleted id))
      (fun _ _ => ⟨rfl, rfl, rfl, rfl⟩) state.areas.keys state.cleared))

/-- Accepting every suggestion is a batch. -/
theorem changes_acceptAll (state : AnnotationState) : state.Change state.acceptAll.1 := by
  have accepted := continues_foldl (fun state area => (state.acceptArea area).1)
    continues_acceptArea state.suggestions.bySeq { state with suggestions := [] }.frozen
  have begun : state.frozen.Continues { state with suggestions := [] }.frozen :=
    ⟨rfl, rfl, rfl, rfl⟩
  exact .committed (((begun.trans accepted).trans (continues_promoteRelations _)).trans
    (continues_cleaned _))

/-- An autosave is quiet. -/
theorem changes_autosave (state : AnnotationState) (now : Nat) :
    state.Change (state.autosave now).1 := by
  rw [autosave]
  split
  · exact .same state
  · split
    · exact .same state
    · dsimp only
      split
      · exact .quiet ⟨rfl, rfl, rfl, rfl⟩ rfl rfl rfl
      · exact .quiet ⟨rfl, rfl, rfl, rfl⟩ rfl rfl rfl

/-- Every operation but the removal of superseded classifications records what it changes, unless it
goes back or forth in the history or begins it anew. -/
theorem perform_change (state : AnnotationState) {operation : Operation}
    (direct : operation ≠ .clean) (stays : operation.travels = false) :
    state.Change (state.perform operation).1 := by
  cases operation with
  | create shape value control object =>
    refine changes_attempt fun next id created => ?_
    obtain ⟨_, _, changed, made, _, _, _, continues, _⟩ := create_eq_ok created
    rw [made]
    exact .recorded (continues.trans (continues_cleaned changed))
  | addResult area control value =>
    refine changes_attemptDone fun next added => ?_
    obtain ⟨_, _, made⟩ := addResult_eq_ok added
    rw [made]
    exact changes_changeArea state area _
  | updateValue area control value =>
    refine changes_attemptDone fun next updated => ?_
    rw [updateValue_eq_ok updated]
    exact changes_changeArea state area _
  | updateShape area shape =>
    refine changes_attemptDone fun next changed => ?_
    rw [changeLive_eq_ok changed]
    exact changes_changeArea state area _
  | setParent area parent =>
    refine changes_attemptDone fun next changed => ?_
    rw [changeLive_eq_ok changed]
    exact changes_changeArea state area _
  | setReadonly area value =>
    refine changes_attemptDone fun next changed => ?_
    rw [changeLive_eq_ok changed]
    exact changes_changeArea state area _
  | setHidden area value =>
    refine changes_attemptDone fun next changed => ?_
    rw [changeLive_eq_ok changed]
    exact changes_changeArea state area _
  | delete area =>
    refine changes_attempt fun next removed deleted => ?_
    obtain ⟨changed, made, continues, _⟩ := delete_eq_ok deleted
    rw [made]
    exact .recorded continues
  | deleteAll => exact changes_deleteAll state
  | clean => contradiction
  | load payload options => exact changes_load state payload options
  | loadItems items options => exact changes_loadItems state items options
  | accept area =>
    refine changes_attempt fun next id accepted => ?_
    obtain ⟨suggestion, _, made⟩ := accept_eq_ok accepted
    have taken : state.Continues { state with suggestions := state.suggestions.erase area } :=
      ⟨rfl, rfl, rfl, rfl⟩
    rw [made]
    exact .recorded (((taken.trans (continues_acceptArea _ suggestion)).trans
      (continues_promoteRelations _)).trans (continues_cleaned _))
  | reject area =>
    refine changes_attempt fun next removed rejected => ?_
    rw [reject_eq_ok rejected]
    exact .quiet ⟨rfl, rfl, rfl, rfl⟩ rfl rfl rfl
  | acceptAll => exact changes_acceptAll state
  | addVersions versions => exact .quiet ⟨rfl, rfl, rfl, rfl⟩ rfl rfl rfl
  | toggleDraft => contradiction
  | autosave now => exact changes_autosave state now
  | refuseDrafts value => exact .quiet ⟨rfl, rfl, rfl, rfl⟩ rfl rfl rfl
  | select area =>
    refine changes_attemptDone fun next selected => ?_
    rw [(select_eq_ok selected).2]
    exact .quiet ⟨rfl, rfl, rfl, rfl⟩ rfl rfl rfl
  | toggle area =>
    refine changes_attempt fun next value toggled => ?_
    obtain ⟨_, _, made⟩ := toggle_eq_ok toggled
    rw [made]
    exact .quiet ⟨rfl, rfl, rfl, rfl⟩ rfl rfl rfl
  | unselectAll =>
    rw [perform, unselectAll]
    split
    · exact .same state
    · exact .quiet ⟨rfl, rfl, rfl, rfl⟩ rfl rfl rfl
  | setGroundTruth value => exact .quiet ⟨rfl, rfl, rfl, rfl⟩ rfl rfl rfl
  | setEditable value => exact .quiet ⟨rfl, rfl, rfl, rfl⟩ rfl rfl rfl
  | setKey key => exact .quiet ⟨rfl, rfl, rfl, rfl⟩ rfl rfl rfl
  | relate source target =>
    refine changes_attempt fun next value related => ?_
    have changes := changes_withRelations state
      (state.relations.insert { first := source, second := target }) (· == true)
    rwa [← relate_eq_ok related] at changes
  | unrelate place => exact changes_withRelations state (state.relations.delete place) _
  | rotateRelation place => exact changes_withRelations state (state.relations.rotate place) _
  | labelRelation place labels =>
    exact changes_withRelations state
      (state.relations.setLabels place (declaredLabels state.tree labels)) _
  | unrelateArea area => exact changes_withRelations state (state.relations.deleteArea area) _
  | undo => contradiction
  | redo => contradiction
  | reset => contradiction
  | resetHistory => contradiction

/-- What an operation makes of an annotation, told by how its history goes on. -/
inductive Outcome (state : AnnotationState) : AnnotationState → Prop where
  /-- The areas, the relations and the values of the controls stay. -/
  | quiet {next : AnnotationState} (continues : state.Continues next)
    (areas : next.areas = state.areas) (relations : next.relations = state.relations)
    (controlValues : next.controlValues = state.controlValues) : Outcome state next
  /-- A change is recorded. -/
  | recorded {changed : AnnotationState} (continues : state.Continues changed) :
    Outcome state changed.recorded
  /-- A batch of changes is recorded. -/
  | committed {changed : AnnotationState} (continues : state.frozen.Continues changed) :
    Outcome state changed.committed
  /-- A state that the history hands out is restored. -/
  | travelled {result : History Snapshot × Option Snapshot} {snapshot : Snapshot}
    (moved : result = state.history.undo ∨ result = state.history.redo
      ∨ result = state.history.reset) (handed : result.2 = some snapshot) :
    Outcome state ({ state with history := result.1 }.restore snapshot)
  /-- The history begins anew at what the operation made. -/
  | restarted {next : AnnotationState} (before : Outcome state next) :
    Outcome state next.resetHistory

/-- A change is an outcome. -/
theorem Change.outcome (changes : state.Change next) : state.Outcome next := by
  cases changes with
  | quiet continues areas relations controlValues =>
    exact .quiet continues areas relations controlValues
  | recorded continues => exact .recorded continues
  | committed continues => exact .committed continues

/-- An operation that does nothing is quiet. -/
theorem Outcome.same (state : AnnotationState) : state.Outcome state := (Change.same state).outcome

/-- Switching between draft and result begins the history anew behind a load. -/
theorem outcome_toggleDraft (state : AnnotationState) : state.Outcome state.toggleDraft.1 := by
  rw [toggleDraft]
  split
  · exact .same state
  · let switched := { state with draftSelected := !state.draftSelected }
    let stored :=
      if switched.draftSelected then switched.versions.draft else switched.versions.result
    obtain ⟨changed, made, continues⟩ := load_eq switched.cleared (.array (stored.getD [])) {}
    have cleared := continues_cleared switched
    have frozen : state.frozen.Continues switched.cleared.frozen :=
      ⟨cleared.id, cleared.tree, cleared.settings, congrArg History.freeze cleared.history⟩
    show state.Outcome (switched.cleared.load (.array (stored.getD [])) {}).1.resetHistory
    rw [made]
    exact .restarted (.committed (frozen.trans continues))

/-- Restoring what the history hands out is a journey, and without a state nothing happens. -/
theorem outcome_travel {result : History Snapshot × Option Snapshot}
    (moved : result = state.history.undo ∨ result = state.history.redo
      ∨ result = state.history.reset) : state.Outcome (state.travel result).1 := by
  rw [travel]
  split
  · rename_i handed
    exact .travelled moved handed
  · exact .same state

/-- Every operation but the removal of superseded classifications has an outcome. -/
theorem perform_outcome (state : AnnotationState) {operation : Operation}
    (direct : operation ≠ .clean) : state.Outcome (state.perform operation).1 := by
  cases journey : operation.travels with
  | false => exact (perform_change state direct journey).outcome
  | true =>
    cases operation with
    | undo => exact outcome_travel (Or.inl rfl)
    | redo => exact outcome_travel (Or.inr (Or.inl rfl))
    | reset => exact outcome_travel (Or.inr (Or.inr rfl))
    | toggleDraft => exact outcome_toggleDraft state
    | resetHistory => exact .restarted (.same state)
    | _ => contradiction

/-- What every operation keeps, every run keeps. -/
theorem run_keeps {holds : AnnotationState → Prop}
    (keeps : ∀ state, holds state → ∀ operation, holds (state.perform operation).1)
    (before : holds state) (operations : List Operation) : holds (state.run operations) := by
  induction operations generalizing state with
  | nil => exact before
  | cons operation rest hypothesis => exact hypothesis (keeps state before operation)

/-- What an operation keeps just when it fits, a run keeps from beginning to end just when each of
its operations fits. The invariant carries what else is known between the operations. -/
theorem run_iff {invariant good : AnnotationState → Prop}
    {fits : AnnotationState → Operation → Prop}
    (begins : ∀ state, invariant state → good state)
    (step : ∀ state, invariant state → ∀ operation,
      good (state.perform operation).1 ↔ fits state operation)
    (keeps : ∀ state, invariant state → ∀ operation, good (state.perform operation).1 →
      invariant (state.perform operation).1)
    (before : invariant state) (operations : List Operation) :
    (∀ before after, operations = before ++ after → good (state.run before)) ↔
      ∀ before operation after, operations = before ++ operation :: after →
        fits (state.run before) operation := by
  induction operations generalizing state with
  | nil =>
    refine iff_of_true (fun earlier after whole => ?_) fun earlier operation after whole => ?_
    · rw [(List.append_eq_nil_iff.mp whole.symm).1]
      exact begins state before
    · simp at whole
  | cons operation rest hypothesis =>
    constructor
    -- The invariant is known behind the first operation only where that operation keeps what is
    -- good, so in both directions this comes first and the later operations follow.
    · intro each
      have stepGood : good (state.perform operation).1 := each [operation] rest rfl
      have later := (hypothesis (keeps state before operation stepGood)).mp
        fun earlier after whole => each (operation :: earlier) after (whole ▸ rfl)
      rintro (_ | ⟨first, earlier⟩) other after whole
      · cases whole
        exact (step state before operation).mp stepGood
      · cases whole
        exact later earlier other after rfl
    · intro fit
      have stepGood := (step state before operation).mpr (fit [] operation rest rfl)
      have later := (hypothesis (keeps state before operation stepGood)).mpr
        fun earlier other after whole => fit (operation :: earlier) other after (whole ▸ rfl)
      rintro (_ | ⟨first, earlier⟩) after whole
      · exact begins state before
      · cases whole
        exact later earlier after rfl

end AnnotationState
end Labeling
