import Labeling.Proofs.Annotating.Origins
import Labeling.Proofs.Annotating.Turns
import Labeling.Proofs.Annotating.Undoing

/-!
# Operations carried out in place

In place an operation is a procedure: it looks things up and changes the annotation in some order,
and where it stops, what it has changed by then stays changed. A suggestion, for instance, is taken
out before it turns out whether there was one, and the history is moved before it turns out whether
it hands a state out. `Operation.inPlace` spells out the operations that may be declined, step by
step. Between operations a procedure ends as `perform` says (`ended_inPlace`), and so it leaves the
annotation as it was wherever the operation is declined (`run_declined`).
-/
namespace Labeling

namespace Relations

variable {α : Type}

/-- A change of relations tells whether there was something to change. -/
def TellsChange (change : Relations → Relations × α) (hasChanged : α → Bool) : Prop :=
  ∀ relations, hasChanged (change relations).2 = false → (change relations).1 = relations

/-- An addition tells whether the relation was added. -/
theorem tellsChange_insert (relation : Relation) :
    TellsChange (·.insert relation) (· == true) := by
  intro relations same
  dsimp only at same ⊢
  rw [insert] at same ⊢
  split at same
  · contradiction
  · rename_i refused
    rw [if_neg refused]

/-- A deletion tells whether there was a relation at the place. -/
theorem tellsChange_delete (place : Nat) : TellsChange (·.delete place) (· == true) := by
  intro relations same
  have beyond : relations.length ≤ place := by simpa [delete] using same
  exact List.eraseIdx_of_length_le beyond

/-- The deletion of the relations of an area tells how many there were. -/
theorem tellsChange_deleteArea (area : AreaId) :
    TellsChange (·.deleteArea area) (fun count => decide (0 < count)) := by
  intro relations same
  have none : relations.countP (·.touches area) = 0 := by simpa [deleteArea] using same
  refine List.filter_eq_self.mpr fun relation member => ?_
  have untouched := List.countP_eq_zero.mp none relation member
  rw [Bool.not_eq_true] at untouched
  rw [untouched]
  rfl

/-- A turn tells the new direction, if there was a relation at the place. -/
theorem tellsChange_rotate (place : Nat) : TellsChange (·.rotate place) (·.isSome) := by
  intro relations same
  dsimp only at same ⊢
  rw [rotate] at same ⊢
  cases found : relations[place]? with
  | none => rfl
  | some relation =>
    rw [found] at same
    contradiction

/-- Labels tell whether there was a relation at the place. -/
theorem tellsChange_setLabels (place : Nat) (labels : List String) :
    TellsChange (·.setLabels place labels) (· == true) := by
  intro relations same
  dsimp only at same ⊢
  rw [setLabels] at same ⊢
  cases found : relations[place]? with
  | none => rfl
  | some relation =>
    rw [found] at same
    contradiction

end Relations

namespace Zipper.Represents

variable {α : Type} {limit : Option Nat} {zipper : Zipper α} {history : History α}

/-- Where there is nothing to undo the history stays. -/
theorem undo_eq_self (represents : Represents limit zipper history)
    (none : history.undo.2 = none) : history.undo.1 = history := by
  have handed := represents.undo.2
  rw [none, Zipper.undo] at handed
  cases earlier : zipper.past with
  | nil => rw [History.undo, represents.canUndo, earlier]; rfl
  | cons state past =>
    rw [earlier] at handed
    contradiction

/-- Where there is nothing to redo the history stays. -/
theorem redo_eq_self (represents : Represents limit zipper history)
    (none : history.redo.2 = none) : history.redo.1 = history := by
  have handed := represents.redo.2
  rw [none, Zipper.redo] at handed
  cases later : zipper.future with
  | nil => rw [History.redo, represents.canRedo, later]; rfl
  | cons state future =>
    rw [later] at handed
    contradiction

/-- There is always a state to return to. -/
theorem reset_eq_self (represents : Represents limit zipper history)
    (none : history.reset.2 = none) : history.reset.1 = history := by
  rw [represents.reset.2] at none
  contradiction

end Zipper.Represents

namespace AnnotationState

/-- A procedure that changes an annotation step by step, and may stop in between. -/
abbrev InPlace := EStateM Failure AnnotationState

namespace InPlace

variable {α : Type}

/-! ## Steps -/

/-- Look something up in the annotation; where that fails, stop. -/
def find (look : AnnotationState → Except Failure α) : InPlace α := fun state =>
  match look state with
  | .ok value => .ok value state
  | .error failure => .error failure state

/-- Change the annotation, and return what the change tells. -/
def step (change : AnnotationState → AnnotationState × α) : InPlace α := fun state =>
  .ok (change state).2 (change state).1

/-- How a procedure leaves an annotation, and what it answers. -/
def ended (procedure : InPlace Answer) (state : AnnotationState) : AnnotationState × Answer :=
  match procedure.run state with
  | .ok answer next => (next, answer)
  | .error failure next => (next, .failure failure)

/-! ## Procedures -/

/-- Create an area, once its control and its object are found to fit. -/
def create (shape : Shape) (value : Value) (control object : String) : InPlace Answer := do
  let controlElement ← find fun state => resultControl state.tree control
  let objectElement ← find fun state => objectElement state.tree object
  if !controlElement.targets objectElement.name then
    throw (.wrongElement control .boundToObject)
  let id ← step madeUpId
  let seq := (← get).nextSeq
  modify (·.withCreated
    (createdArea controlElement objectElement shape value (control, object) id seq))
  modify (·.cleaned.1)
  modify recorded
  return .area id

/-- Record a value of a control for an area, once they are found to fit. -/
def addResult (id : AreaId) (control : String) (value : Value) : InPlace Answer := do
  let element ← find fun state => resultControl state.tree control
  let area ← find (·.liveArea id)
  if !element.targets area.object then throw (.wrongElement control .boundToArea)
  modify (·.changeArea id (recordedResult element control value))
  modify recorded
  return .done

/-- Replace the value of a control at an area, once both are found. -/
def updateValue (id : AreaId) (control : String) (value : Value) : InPlace Answer := do
  let area ← find (·.liveArea id)
  if (area.resultFor? control).isNone then throw (.unknownElement control)
  modify (·.changeArea id (setValue control value))
  modify recorded
  return .done

/-- Change an area, once it is found. -/
def changeLive (id : AreaId) (change : Area → Area) : InPlace Answer := do
  let _ ← find (·.liveArea id)
  modify (·.changeArea id change)
  modify recorded
  return .done

/-- Take the area of an id out of some areas of the annotation, and stop if there was none. -/
def take (areas : AnnotationState → Areas) (put : AnnotationState → Areas → AnnotationState)
    (id : AreaId) : InPlace Area := do
  let found ← step fun state => (put state ((areas state).erase id), (areas state).get? id)
  match found with
  | some area => return area
  | none => throw (.unknownArea id.full)

/-- Take an area out, and then out of the selection. -/
def delete (id : AreaId) : InPlace Answer := do
  let area ← take areas ({ · with areas := · }) id
  if (← get).selection.contains id then
    modify fun state => { state with selection := state.selection.filter (· ≠ id) }
    modify selectionTold
  modify (·.fire (.deleted id))
  modify recorded
  return .removed area

/-- Take a suggestion out, and then make it an area. -/
def accept (id : AreaId) : InPlace Answer := do
  let area ← take suggestions ({ · with suggestions := · }) id
  let accepted ← step (·.acceptArea area)
  modify promoteRelations
  modify (·.cleaned.1)
  modify recorded
  return .area accepted

/-- Take a suggestion out, and then its suggested relations. -/
def reject (id : AreaId) : InPlace Answer := do
  let area ← take suggestions ({ · with suggestions := · }) id
  modify fun state =>
    { state with suggestedRelations := (state.suggestedRelations.deleteArea id).1 }
  return .removed area

/-- Select one area only, once it is found. -/
def select (id : AreaId) : InPlace Answer := do
  let _ ← find (·.liveArea id)
  modify ({ · with selection := [id] })
  modify selectionTold
  return .done

/-- Select an area or take it out of the selection, once it is found. -/
def toggle (id : AreaId) : InPlace Answer := do
  let _ ← find (·.liveArea id)
  let selected := !(← get).selection.contains id
  modify fun state => { state with
    selection :=
      if selected then insertId id state.selection else state.selection.filter (· ≠ id) }
  modify selectionTold
  return .flag selected

/-- Change the relations, and record that if there was something to change. -/
def changeRelations (change : Relations → Relations × α) (hasChanged : α → Bool)
    (answer : α → Answer) : InPlace Answer := do
  let value ← step fun state =>
    ({ state with relations := (change state.relations).1 }, (change state.relations).2)
  if hasChanged value then modify recorded
  return answer value

/-- Relate two areas, once both are found. -/
def relate (source target : AreaId) : InPlace Answer := do
  let _ ← find (·.liveArea source)
  let _ ← find (·.liveArea target)
  changeRelations (·.insert { first := source, second := target }) (· == true) .flag

/-- Label a relation with those of some labels that are declared. -/
def labelRelation (place : Nat) (labels : List String) : InPlace Answer := do
  let declared := declaredLabels (← get).tree labels
  changeRelations (·.setLabels place declared) (· == true) .flag

/-- Move in the history, and restore the state that it hands out, if there is one. -/
def travel (move : History Snapshot → History Snapshot × Option Snapshot) : InPlace Answer := do
  let handed ← step fun state =>
    ({ state with history := (move state.history).1 }, (move state.history).2)
  match handed with
  | some snapshot =>
    modify (·.restore snapshot)
    return .flag true
  | none => return .flag false

/-- Switch between draft and result, if there is a draft. -/
def toggleDraft : InPlace Answer := do
  if (← get).versions.draft.isNone then return .flag false
  modify switched
  let stored := (← get).stored
  modify cleared
  modify fun state => (state.load (.array stored) {}).1
  modify resetHistory
  return .flag true

/-! ## How procedures end -/

variable {state : AnnotationState}

/-- What cannot be found stops a procedure before it goes on. -/
theorem ended_find (look : AnnotationState → Except Failure α) (rest : α → InPlace Answer) :
    ended (find look >>= rest) state =
      match look state with
      | .ok value => ended (rest value) state
      | .error failure => (state, .failure failure) := by
  cases found : look state with
  | ok value => simp only [ended, EStateM.run, bind, EStateM.bind, find, found]
  | error failure => simp only [ended, EStateM.run, bind, EStateM.bind, find, found]

/-- Reading the annotation leaves it as it is. -/
theorem ended_get (rest : AnnotationState → InPlace Answer) (state : AnnotationState) :
    ended (get >>= rest) state = ended (rest state) state := rfl

/-- The annotation with an area that an element creates on another one, and the id of the area. -/
def created (state : AnnotationState) (control object : Element) (shape : Shape) (value : Value)
    (names : String × String) : AnnotationState × AreaId :=
  let (state, id) := state.madeUpId
  let area := createdArea control object shape value names id state.nextSeq
  ((state.withCreated area).cleaned.1.recorded, id)

/-- An area is created once its control and its object are found to fit. -/
theorem create_eq (state : AnnotationState) (shape : Shape) (value : Value)
    (control object : String) : state.create shape value control object =
      (resultControl state.tree control).bind fun controlElement =>
        (objectElement state.tree object).bind fun objectElement =>
          if !controlElement.targets objectElement.name then
            .error (.wrongElement control .boundToObject)
          else .ok (created state controlElement objectElement shape value (control, object)) := by
  rfl

/-- Creating in place ends as creating does. -/
theorem ended_create (state : AnnotationState) (shape : Shape) (value : Value)
    (control object : String) : ended (create shape value control object) state =
      state.attempt (state.create shape value control object) .area := by
  rw [create, ended_find, create_eq]
  cases resultControl state.tree control with
  | error failure => rfl
  | ok controlElement =>
    dsimp only [Except.bind]
    rw [ended_find]
    cases AnnotationState.objectElement state.tree object with
    | error failure => rfl
    | ok objectElement =>
      dsimp only
      cases controlElement.targets objectElement.name with
      | false => rfl
      | true => rfl

/-- Recording a value in place ends as recording it does. -/
theorem ended_addResult (state : AnnotationState) (id : AreaId) (control : String)
    (value : Value) : ended (addResult id control value) state =
      state.attemptDone (state.addResult id control value) := by
  rw [addResult, ended_find, AnnotationState.addResult]
  cases resultControl state.tree control with
  | error failure => rfl
  | ok element =>
    dsimp only
    rw [ended_find]
    cases state.liveArea id with
    | error failure => rfl
    | ok area =>
      simp only [bind, Except.bind]
      cases element.targets area.object with
      | false => rfl
      | true => rfl

/-- Replacing a value in place ends as replacing it does. -/
theorem ended_updateValue (state : AnnotationState) (id : AreaId) (control : String)
    (value : Value) : ended (updateValue id control value) state =
      state.attemptDone (state.updateValue id control value) := by
  rw [updateValue, ended_find, AnnotationState.updateValue]
  cases state.liveArea id with
  | error failure => rfl
  | ok area =>
    simp only [bind, Except.bind]
    cases (area.resultFor? control).isNone with
    | false => rfl
    | true => rfl

/-- Changing an area in place ends as changing it does. -/
theorem ended_changeLive (state : AnnotationState) (id : AreaId) (change : Area → Area) :
    ended (changeLive id change) state = state.attemptDone (state.changeLive id change) := by
  rw [changeLive, ended_find, AnnotationState.changeLive]
  cases state.liveArea id with
  | error failure => rfl
  | ok area => rfl

/-- Selecting in place ends as selecting does. -/
theorem ended_select (state : AnnotationState) (id : AreaId) :
    ended (select id) state = state.attemptDone (state.select id) := by
  rw [select, ended_find, AnnotationState.select]
  cases state.liveArea id with
  | error failure => rfl
  | ok area => rfl

/-- Changing the selection in place ends as changing it does. -/
theorem ended_toggle (state : AnnotationState) (id : AreaId) :
    ended (toggle id) state = state.attempt (state.toggle id) .flag := by
  rw [toggle, ended_find, AnnotationState.toggle]
  cases state.liveArea id with
  | error failure => rfl
  | ok area =>
    dsimp only
    rw [ended_get]
    simp only [bind, Except.bind]
    cases selected : state.selection.contains id with
    | false => rfl
    | true => rfl

/-- What is not there cannot be taken out, which leaves the annotation as it was. -/
theorem ended_take {areas : AnnotationState → Areas}
    {put : AnnotationState → Areas → AnnotationState}
    (same : ∀ state, put state (areas state) = state) (id : AreaId) (rest : Area → InPlace Answer)
    (state : AnnotationState) : ended (take areas put id >>= rest) state =
      match (areas state).get? id with
      | some area => ended (rest area) (put state ((areas state).erase id))
      | none => (state, .failure (.unknownArea id.full)) := by
  cases found : (areas state).get? id with
  | some area => simp only [take, ended, EStateM.run, bind, EStateM.bind, step, found]; rfl
  | none =>
    have kept : put state ((areas state).erase id) = state := by
      rw [Entries.erase_of_get?_eq_none found, same]
    simp only [take, ended, EStateM.run, bind, EStateM.bind, step, found, kept]
    rfl

/-- Deleting in place ends as deleting does. -/
theorem ended_delete (state : AnnotationState) (id : AreaId) :
    ended (delete id) state = state.attempt (state.delete id) .removed := by
  rw [delete, ended_take (fun _ => rfl), AnnotationState.delete, liveArea]
  cases state.areas.get? id with
  | none => rfl
  | some area =>
    dsimp only
    rw [ended_get]
    simp only [bind, Except.bind]
    cases selected : state.selection.contains id with
    | false =>
      have same : state.selection.filter (· ≠ id) = state.selection := by
        rw [List.filter_eq_self]
        intro other member
        rw [decide_eq_true_eq]
        rintro rfl
        rw [List.contains_eq_mem, decide_eq_false_iff_not] at selected
        exact selected member
      rw [same]
      rfl
    | true => rfl

/-- Accepting in place ends as accepting does. -/
theorem ended_accept (state : AnnotationState) (id : AreaId) :
    ended (accept id) state = state.attempt (state.accept id) .area := by
  rw [accept, ended_take (fun _ => rfl), AnnotationState.accept, pendingArea]
  cases state.suggestions.get? id with
  | none => rfl
  | some area => rfl

/-- Rejecting in place ends as rejecting does. -/
theorem ended_reject (state : AnnotationState) (id : AreaId) :
    ended (reject id) state = state.attempt (state.reject id) .removed := by
  rw [reject, ended_take (fun _ => rfl), AnnotationState.reject, pendingArea]
  cases state.suggestions.get? id with
  | none => rfl
  | some area => rfl

/-- Changing the relations in place ends as changing them does. -/
theorem ended_changeRelations {change : Relations → Relations × α} {hasChanged : α → Bool}
    (tells : Relations.TellsChange change hasChanged) (answer : α → Answer)
    (state : AnnotationState) : ended (changeRelations change hasChanged answer) state =
      answered (state.withRelations (change state.relations) hasChanged) answer := by
  rw [withRelations]
  cases changed : hasChanged (change state.relations).2 with
  | true =>
    simp only [changeRelations, ended, EStateM.run, bind, EStateM.bind, step, changed]
    rfl
  | false =>
    have same := tells state.relations changed
    simp only [changeRelations, ended, EStateM.run, bind, EStateM.bind, step, changed, same]
    rfl

/-- Relating in place ends as relating does. -/
theorem ended_relate (state : AnnotationState) (source target : AreaId) :
    ended (relate source target) state = state.attempt (state.relate source target) .flag := by
  rw [relate, ended_find, AnnotationState.relate]
  cases state.liveArea source with
  | error failure => rfl
  | ok area =>
    dsimp only
    rw [ended_find]
    cases state.liveArea target with
    | error failure => rfl
    | ok area => exact ended_changeRelations (Relations.tellsChange_insert _) .flag state

/-- Moving in the history in place ends as moving there does, if the history stays where it hands
nothing out. -/
theorem ended_travel {move : History Snapshot → History Snapshot × Option Snapshot}
    (stays : (move state.history).2 = none → (move state.history).1 = state.history) :
    ended (travel move) state = answered (state.travel (move state.history)) .flag := by
  rw [AnnotationState.travel]
  cases handed : (move state.history).2 with
  | some snapshot =>
    simp only [travel, ended, EStateM.run, bind, EStateM.bind, step, handed]
    rfl
  | none =>
    have same := stays handed
    simp only [travel, ended, EStateM.run, bind, EStateM.bind, step, handed, same]
    rfl

/-- Switching in place ends as switching does. -/
theorem ended_toggleDraft (state : AnnotationState) :
    ended toggleDraft state = answered state.toggleDraft .flag := by
  rw [toggleDraft, ended_get, AnnotationState.toggleDraft]
  cases none : state.versions.draft.isNone with
  | true => rfl
  | false => rfl

end InPlace
end AnnotationState

/-! ## Operations -/

namespace Operation

/-- An operation as a procedure. One that is never declined is a single step. -/
def inPlace : Operation → AnnotationState.InPlace Answer
  | .create shape value control object => .create shape value control object
  | .addResult area control value => .addResult area control value
  | .updateValue area control value => .updateValue area control value
  | .updateShape area shape => .changeLive area ({ · with shape := shape })
  | .setParent area parent => .changeLive area ({ · with parentId := parent })
  | .setReadonly area value => .changeLive area ({ · with readonly := value })
  | .setHidden area value => .changeLive area ({ · with hidden := value })
  | .delete area => .delete area
  | .accept area => .accept area
  | .reject area => .reject area
  | .select area => .select area
  | .toggle area => .toggle area
  | .relate source target => .relate source target
  | .unrelate place => .changeRelations (·.delete place) (· == true) .flag
  | .rotateRelation place => .changeRelations (·.rotate place) (·.isSome) .direction
  | .labelRelation place labels => .labelRelation place labels
  | .unrelateArea area =>
    .changeRelations (·.deleteArea area) (fun count => decide (0 < count)) .count
  | .undo => .travel History.undo
  | .redo => .travel History.redo
  | .reset => .travel History.reset
  | .toggleDraft => .toggleDraft
  | operation => .step (·.perform operation)

/-- Whether an answer tells that an operation could not be carried out, or found nothing to do. -/
def isDeclined : Operation → Answer → Bool
  | _, .failure _ => true
  | .relate .., .flag value => !value
  | .unrelate _, .flag value => !value
  | .labelRelation .., .flag value => !value
  | .undo, .flag value => !value
  | .redo, .flag value => !value
  | .reset, .flag value => !value
  | .toggleDraft, .flag value => !value
  | .rotateRelation _, .direction value => value.isNone
  | .unrelateArea _, .count value => value == 0
  | _, _ => false

end Operation

namespace AnnotationState

variable {state : AnnotationState} {zipper : Zipper Snapshot}

/-- Between operations a procedure ends as its operation does. -/
theorem ended_inPlace (follows : state.Follows zipper) (operation : Operation) :
    operation.inPlace.ended state = state.perform operation := by
  cases operation with
  | create shape value control object => exact InPlace.ended_create state shape value control object
  | addResult area control value => exact InPlace.ended_addResult state area control value
  | updateValue area control value => exact InPlace.ended_updateValue state area control value
  | updateShape area shape => exact InPlace.ended_changeLive state area _
  | setParent area parent => exact InPlace.ended_changeLive state area _
  | setReadonly area value => exact InPlace.ended_changeLive state area _
  | setHidden area value => exact InPlace.ended_changeLive state area _
  | delete area => exact InPlace.ended_delete state area
  | accept area => exact InPlace.ended_accept state area
  | reject area => exact InPlace.ended_reject state area
  | select area => exact InPlace.ended_select state area
  | toggle area => exact InPlace.ended_toggle state area
  | relate source target => exact InPlace.ended_relate state source target
  | unrelate place =>
    exact InPlace.ended_changeRelations (Relations.tellsChange_delete place) .flag state
  | rotateRelation place =>
    exact InPlace.ended_changeRelations (Relations.tellsChange_rotate place) .direction state
  | labelRelation place labels =>
    exact InPlace.ended_changeRelations
      (Relations.tellsChange_setLabels place (declaredLabels state.tree labels)) .flag state
  | unrelateArea area =>
    exact InPlace.ended_changeRelations (Relations.tellsChange_deleteArea area) .count state
  | undo => exact InPlace.ended_travel follows.represents.undo_eq_self
  | redo => exact InPlace.ended_travel follows.represents.redo_eq_self
  | reset => exact InPlace.ended_travel follows.represents.reset_eq_self
  | toggleDraft => exact InPlace.ended_toggleDraft state
  | _ => rfl

/-- What is answered only by a failure where it is declined leaves the annotation as it was then. -/
theorem attempt_eq_self {α : Type} {result : Except Failure (AnnotationState × α)}
    {answer : α → Answer} {operation : Operation}
    (never : ∀ value, operation.isDeclined (answer value) = false)
    (declined : operation.isDeclined (state.attempt result answer).2 = true) :
    (state.attempt result answer).1 = state := by
  cases result with
  | error failure => rfl
  | ok made => exact absurd ((never made.2).symm.trans declined) Bool.false_ne_true

/-- What is done unless it fails leaves the annotation as it was where it is declined. -/
theorem attemptDone_eq_self {result : Except Failure AnnotationState} {operation : Operation}
    (never : operation.isDeclined .done = false)
    (declined : operation.isDeclined (state.attemptDone result).2 = true) :
    (state.attemptDone result).1 = state := by
  cases result with
  | error failure => rfl
  | ok made => exact absurd (never.symm.trans declined) Bool.false_ne_true

/-- Where there was nothing to change about the relations the annotation stays as it was. -/
theorem withRelations_eq_self {α : Type} {result : Relations × α} (hasChanged : α → Bool)
    (same : hasChanged (state.withRelations result hasChanged).2 = false) :
    (state.withRelations result hasChanged).1 = state := by
  rw [withRelations] at same ⊢
  split
  · rename_i changed
    rw [if_pos changed] at same
    exact absurd (same.symm.trans changed) Bool.false_ne_true
  · rfl

/-- Where two areas are related already, relating them leaves the annotation as it was. -/
theorem relate_eq_self {source target : AreaId} {next : AnnotationState}
    (related : state.relate source target = .ok (next, false)) : next = state := by
  simp only [relate, Except.bind_eq_ok] at related
  obtain ⟨-, -, -, -, related⟩ := related
  have made := Except.ok.inj related
  have same : (state.withRelations (state.relations.insert { first := source, second := target })
      (· == true)).1 = state := withRelations_eq_self _ (by rw [made]; rfl)
  rw [made] at same
  exact same

/-- Where the history hands nothing out the annotation stays as it was. -/
theorem travel_eq_self {result : History Snapshot × Option Snapshot}
    (none : (state.travel result).2 = false) : (state.travel result).1 = state := by
  rw [travel] at none ⊢
  split
  · rename_i handed
    rw [handed] at none
    contradiction
  · rfl

/-- Without a draft the switch leaves the annotation as it was. -/
theorem toggleDraft_eq_self (none : state.toggleDraft.2 = false) : state.toggleDraft.1 = state := by
  rw [toggleDraft] at none ⊢
  split
  · rfl
  · rename_i draft
    rw [if_neg draft] at none
    contradiction

/-- An operation that is declined leaves the annotation as it was. -/
theorem perform_eq_self {operation : Operation}
    (declined : operation.isDeclined (state.perform operation).2 = true) :
    (state.perform operation).1 = state := by
  cases operation with
  | create shape value control object => exact attempt_eq_self (fun _ => rfl) declined
  | addResult area control value => exact attemptDone_eq_self rfl declined
  | updateValue area control value => exact attemptDone_eq_self rfl declined
  | updateShape area shape => exact attemptDone_eq_self rfl declined
  | setParent area parent => exact attemptDone_eq_self rfl declined
  | setReadonly area value => exact attemptDone_eq_self rfl declined
  | setHidden area value => exact attemptDone_eq_self rfl declined
  | delete area => exact attempt_eq_self (fun _ => rfl) declined
  | accept area => exact attempt_eq_self (fun _ => rfl) declined
  | reject area => exact attempt_eq_self (fun _ => rfl) declined
  | select area => exact attemptDone_eq_self rfl declined
  | toggle area => exact attempt_eq_self (fun _ => rfl) declined
  | relate source target =>
    change Operation.isDeclined (.relate source target)
      (state.attempt (state.relate source target) .flag).2 = true at declined
    show (state.attempt (state.relate source target) .flag).1 = state
    cases related : state.relate source target with
    | error failure => rfl
    | ok made =>
      obtain ⟨next, added⟩ := made
      rw [related] at declined
      rw [(Bool.not_eq_true' _).mp declined] at related
      exact relate_eq_self related
  | unrelate place =>
    have none : (state.unrelate place).2 = false := (Bool.not_eq_true' _).mp declined
    exact withRelations_eq_self (· == true) (congrArg (· == true) none)
  | rotateRelation place =>
    have none : (state.rotateRelation place).2 = none := Option.isNone_iff_eq_none.mp declined
    exact withRelations_eq_self Option.isSome (congrArg Option.isSome none)
  | labelRelation place labels =>
    have none : (state.labelRelation place labels).2 = false := (Bool.not_eq_true' _).mp declined
    exact withRelations_eq_self (· == true) (congrArg (· == true) none)
  | unrelateArea area =>
    have none : (state.unrelateArea area).2 = 0 := beq_iff_eq.mp declined
    exact withRelations_eq_self (fun count => decide (0 < count))
      (congrArg (fun count => decide (0 < count)) none)
  | undo => exact travel_eq_self ((Bool.not_eq_true' _).mp declined)
  | redo => exact travel_eq_self ((Bool.not_eq_true' _).mp declined)
  | reset => exact travel_eq_self ((Bool.not_eq_true' _).mp declined)
  | toggleDraft => exact toggleDraft_eq_self ((Bool.not_eq_true' _).mp declined)
  | _ => exact absurd declined Bool.false_ne_true

/-- In any run from a new annotation an operation that is carried out in place ends as it does in
one piece. Where it fails, or tells that there was nothing to do, it ends with the annotation as it
was: whatever it has touched by then is as before, and nothing has been told. -/
theorem run_declined (id : String) (kind : AnnotationKind) (tree : ElementTree)
    (settings : Settings) (session : Session) (operations : List Operation)
    (operation : Operation) :
    let state := (start id kind tree settings session).run operations
    let ended := operation.inPlace.ended state
    ended = state.perform operation ∧
      (operation.isDeclined ended.2 = true → ended.1 = state) := by
  intro state ended
  obtain ⟨-, zipper, follows⟩ : state.Zips settings :=
    (zips_start id kind tree settings session).run operations
  have performed : ended = state.perform operation := ended_inPlace follows operation
  refine ⟨performed, fun declined => ?_⟩
  rw [performed] at declined ⊢
  exact perform_eq_self declined

/-- Operations on suggestions, relations, undone steps and drafts, where there are none. -/
def idleOperations : List Operation :=
  [.accept ⟨"a", "1"⟩, .reject ⟨"a", "1"⟩, .unrelate 0, .redo, .toggleDraft]

set_option maxRecDepth 10000 in
/-- Beside two loaded moods there is nothing to accept, to reject, to delete, to redo or to switch
to, and the moods stay as they are. -/
theorem loadedMoods_declined :
    let state := (start "1" .manual (.ofConfig moodConfig .standard none) {} {}).run
      [.loadItems moodsOfTwo {}]
    ∀ operation ∈ idleOperations,
      operation.isDeclined (operation.inPlace.ended state).2 = true ∧
        (operation.inPlace.ended state).1 = state := by
  rw [ofConfig_moodConfig]
  intro state operation member
  have declined : ∀ operation ∈ idleOperations,
      operation.isDeclined (operation.inPlace.ended state).2 = true := by decide +kernel
  obtain ⟨-, keeps⟩ := run_declined "1" .manual moodTree {} {} [.loadItems moodsOfTwo {}] operation
  exact ⟨declined operation member, keeps (declined operation member)⟩

end AnnotationState
end Labeling
