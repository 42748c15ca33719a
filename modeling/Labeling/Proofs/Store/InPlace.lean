import Labeling.Proofs.Store.Consistency

/-!
# Stores changed in place

In place an operation on a store is a procedure, and where it stops, what it has changed by then
stays changed. Deleting lets the selection go before it turns out whether there is an annotation to
delete, and selecting takes the selected id out before it puts the new one in. On a consistent store
a procedure ends as `perform` says all the same (`Consistent.ended_inPlace`): a selected id is
always that of an annotation, so an unknown id is not selected.
-/
namespace Labeling

namespace Store

/-- A procedure that changes a store step by step, and may stop in between. -/
abbrev InPlace := EStateM Failure Store

namespace InPlace

variable {α : Type} {store : Store} {id : String}

/-! ## Steps -/

/-- Look an annotation up; without one of the id, stop. -/
def find (look : Store → Option α) (id : String) : InPlace α := fun store =>
  match look store with
  | some value => .ok value store
  | none => .error (.unknownAnnotationId id) store

/-- Change the store, and return what the change tells. -/
def step (change : Store → Store × α) : InPlace α := fun store =>
  .ok (change store).2 (change store).1

/-- How a procedure leaves a store, and what it answers. -/
def ended (procedure : InPlace StoreAnswer) (store : Store) : Store × StoreAnswer :=
  match procedure.run store with
  | .ok answer next => (next, answer)
  | .error failure next => (next, .failure failure)

/-! ## Procedures -/

/-- Copy a prediction into a new annotation, once it is found. -/
def fromPrediction (id : String) : InPlace String := do
  let source ← find (·.predictions.find? (·.id == id)) id
  let made ← step (·.fresh .manual)
  let loaded := (made.loadItems source.items {}).1
  step (·.append loaded.resetHistory)

/-- Take the annotation of an id out of the first list of some kinds that has it, and stop if none
of them does. -/
def takeFrom (id : String) : List AnnotationKind → InPlace AnnotationState
  | [] => throw (.unknownAnnotationId id)
  | kind :: kinds => do
    match ((← get).ofKind kind).find? (·.id == id) with
    | some state =>
      modify fun store => store.setKind (without id (store.ofKind kind)) kind
      return state
    | none => takeFrom id kinds

/-- Let the selection of an id go, and then take its annotation out. -/
def delete (id : String) : InPlace AnnotationState := do
  modify (·.unselected id)
  takeFrom id [.manual, .prediction, .history]

/-- Once an annotation of the id is found, take the selected id out, select no area of its
annotation, and select the id. -/
def select (id : String) : InPlace Unit := do
  let _ ← find (·.get? id) id
  let previous ← step fun store => ({ store with selected := none }, store.selected)
  if let some previous := previous then
    modify fun store => (store.on previous .unselectAll).1
  modify ({ · with selected := some id })
  modify fun store => { store with session := store.session.fire (.annotationSelected id) }

end InPlace
end Store

/-- An operation on a store as a procedure. -/
def StoreOperation.inPlace : StoreOperation → Store.InPlace StoreAnswer
  | .create => return .created (← .step Store.create)
  | .add kind payload key => return .created (← .step (·.add kind payload key))
  | .fromPrediction id => return .created (← .fromPrediction id)
  | .delete id => return .removed (← .delete id)
  | .select id => do
    Store.InPlace.select id
    return .done
  | .on id operation => return .answered (← .step (·.on id operation))

namespace Store

variable {store : Store} {id : String} {state : AnnotationState}

/-! ## How procedures end -/

/-- Copying a prediction in place ends as copying it does. -/
theorem ended_fromPrediction (store : Store) (id : String) :
    (StoreOperation.fromPrediction id).inPlace.ended store =
      store.perform (.fromPrediction id) := by
  rw [perform, fromPrediction]
  cases found : store.predictions.find? (·.id == id) with
  | none =>
    simp only [StoreOperation.inPlace, InPlace.ended, EStateM.run, bind, EStateM.bind,
      InPlace.fromPrediction, InPlace.find, found]
  | some source =>
    simp only [StoreOperation.inPlace, InPlace.ended, EStateM.run, bind, EStateM.bind,
      InPlace.fromPrediction, InPlace.find, found]
    rfl

/-- A procedure that reads the store goes on with it. -/
theorem get_bind {α : Type} (rest : Store → InPlace α) (store : Store) :
    (get >>= rest) store = rest store store := rfl

/-- Among some kinds an annotation is taken out of the first list that has its id. -/
theorem run_takeFrom (store : Store) (id : String) (kinds : List AnnotationKind) :
    InPlace.takeFrom id kinds store =
      match kinds.findSome? fun kind => ((store.ofKind kind).find? (·.id == id)).map (kind, ·) with
      | some (kind, state) => .ok state (store.setKind (without id (store.ofKind kind)) kind)
      | none => .error (.unknownAnnotationId id) store := by
  induction kinds with
  | nil => rfl
  | cons kind rest hypothesis =>
    rw [InPlace.takeFrom, List.findSome?_cons, get_bind]
    cases (store.ofKind kind).find? (·.id == id) with
    | none => exact hypothesis
    | some state => rfl

/-- Deleting in place ends as deleting does; where that fails the selection of the id is let go. -/
theorem ended_delete (store : Store) (id : String) :
    (StoreOperation.delete id).inPlace.ended store =
      match store.delete id with
      | .ok (next, state) => (next, .removed state)
      | .error failure => (store.unselected id, .failure failure) := by
  have taken := run_takeFrom (store.unselected id) id [.manual, .prediction, .history]
  have held : (store.unselected id).holder? id = store.holder? id := rfl
  rw [← holder?, held] at taken
  have deleted : InPlace.delete id store =
      InPlace.takeFrom id [.manual, .prediction, .history] (store.unselected id) := rfl
  rw [delete_eq_holder?]
  simp only [StoreOperation.inPlace, InPlace.ended, EStateM.run, bind, EStateM.bind, deleted, taken]
  cases store.holder? id with
  | none => rfl
  | some found => rfl

/-- The selected id plays no part in operations on annotations. -/
theorem on_of_selected (store : Store) (selected : Option String) (id : String)
    (operation : Operation) : ({ store with selected := selected }.on id operation).1 =
      { (store.on id operation).1 with selected := selected } := by
  have same : { store with selected := selected }.get? id = store.get? id := rfl
  rw [on, on, same]
  cases store.get? id with
  | none => rfl
  | some state =>
    dsimp only
    rw [replace, replace]
    dsimp only
    split_ifs
    · rfl
    · rfl
    · rfl

/-- Selecting in place ends as selecting does. -/
theorem ended_select (store : Store) (id : String) :
    (StoreOperation.select id).inPlace.ended store = store.perform (.select id) := by
  rw [perform]
  cases found : store.get? id with
  | none =>
    rw [select_of_get?_eq_none found]
    simp only [StoreOperation.inPlace, InPlace.ended, EStateM.run, bind, EStateM.bind,
      InPlace.select, InPlace.find, found]
  | some state =>
    rw [select_of_get? found, deselected]
    cases previous : store.selected with
    | none =>
      simp only [StoreOperation.inPlace, InPlace.ended, EStateM.run, bind, EStateM.bind,
        InPlace.select, InPlace.find, InPlace.step, found, previous]
      rfl
    | some former =>
      have settled := on_of_selected store none former .unselectAll
      simp only [StoreOperation.inPlace, InPlace.ended, EStateM.run, bind, EStateM.bind,
        InPlace.select, InPlace.find, InPlace.step, found, previous]
      show ({ ({ store with selected := none }.on former .unselectAll).1 with
        selected := some id
        session := ({ store with selected := none }.on former .unselectAll).1.session.fire
          (.annotationSelected id) }, StoreAnswer.done) = _
      rw [settled]

/-- On a consistent store a procedure ends as its operation does. -/
theorem Consistent.ended_inPlace (consistent : store.Consistent) (operation : StoreOperation) :
    operation.inPlace.ended store = store.perform operation := by
  cases operation with
  | create => rfl
  | add kind payload key => rfl
  | fromPrediction id => exact ended_fromPrediction store id
  | delete id =>
    rw [ended_delete, Store.perform]
    cases found : store.get? id with
    | none =>
      -- By then the selection of the id is let go, but an unknown id is not the selected one.
      rw [delete_of_get?_eq_none found, consistent.unselected_eq_self found]
    | some state => rw [consistent.delete_eq found]
  | select id => exact ended_select store id
  | on id operation => rfl

/-- The store after a run of operations in place. -/
def runInPlace (store : Store) (operations : List StoreOperation) : Store :=
  operations.foldl (fun store operation => (operation.inPlace.ended store).1) store

/-- In place a run from a consistent store ends as it does in one piece. -/
theorem Consistent.runInPlace_eq (consistent : store.Consistent)
    (operations : List StoreOperation) : store.runInPlace operations = store.run operations := by
  induction operations generalizing store with
  | nil => rfl
  | cons operation rest hypothesis =>
    have first : (operation.inPlace.ended store).1 = (store.perform operation).1 :=
      congrArg Prod.fst (consistent.ended_inPlace operation)
    rw [runInPlace, List.foldl_cons, first]
    exact hypothesis (consistent.perform operation)

/-- An operation is refused for want of an annotation of an id, and leaves the store as it was. -/
def Refuses (store : Store) (operation : StoreOperation) (id : String) : Prop :=
  operation.inPlace.ended store = (store, .failure (.unknownAnnotationId id))

/-- In any run of operations in place, with any supply of ids, stores are consistent. Deleting an
annotation leaves every other one as it was; what is to be deleted, selected or copied from a
prediction is refused where there is none of its id, and all the store stays as it was. -/
theorem runInPlace_consistent (tree : ElementTree) (settings : Settings) (session : Session)
    (supply : Session.Supply) (operations : List StoreOperation) :
    let start : Store :=
      { tree := tree, settings := settings, session := session, supply := supply }
    let store := start.runInPlace operations
    store = start.run operations ∧ store.Consistent ∧
      (∀ id state, store.get? id = some state →
        (StoreOperation.delete id).inPlace.ended store = (store.removed id, .removed state) ∧
          ∀ other, other ≠ id → (store.removed id).get? other = store.get? other) ∧
      (∀ id, store.get? id = none → store.Refuses (.delete id) id ∧ store.Refuses (.select id) id) ∧
      (∀ id, (∀ state ∈ store.predictions, state.id ≠ id) →
        store.Refuses (.fromPrediction id) id) := by
  intro start store
  have begun : start.Consistent := consistent_start tree settings session supply
  have same : store = start.run operations := begun.runInPlace_eq operations
  have consistent : store.Consistent := same ▸ begun.run operations
  refine ⟨same, consistent, fun id state found => ⟨?_, fun other apart => ?_⟩,
    fun id missing => ⟨?_, ?_⟩, fun id unknown => ?_⟩
  · rw [consistent.ended_inPlace, perform, consistent.delete_eq found]
  · rw [get?_removed, if_neg apart]
  · rw [Refuses, consistent.ended_inPlace, perform, delete_of_get?_eq_none missing]
  · rw [Refuses, consistent.ended_inPlace, perform, select_of_get?_eq_none missing]
  · have missing : store.predictions.find? (·.id == id) = none := by
      simpa [List.find?_eq_none] using unknown
    rw [Refuses, consistent.ended_inPlace, perform, fromPrediction, missing]

/-- An annotation with two areas, a selected prediction with one, and an empty former version. -/
def selectedPrediction : List StoreOperation := [
  .create, .on "@01" (.loadItems (AnnotationState.moodItems ["good"]) {}),
  .add .prediction
    (.array (((AnnotationState.moodItems ["bad"]).take 1).map WireItem.toJson)) none,
  .add .history (.array []) none, .select "@02"]

set_option maxRecDepth 10000 in
/-- A selected prediction can be deleted, which leaves the annotation and the former version as they
were, and nothing can be done with another id. -/
theorem runInPlace_selectedPrediction :
    let store := runInPlace { tree := AnnotationState.moodTree, settings := {} } selectedPrediction
    store.ids = ["@01", "@02", "@03"] ∧ store.selected = some "@02" ∧
      store.all.map (·.areas.keys.map AreaId.raw) = [["a", "b"], ["a"], []] ∧
      (∃ state, (StoreOperation.delete "@02").inPlace.ended store =
        (store.removed "@02", .removed state)) ∧
      (store.removed "@02").ids = ["@01", "@03"] ∧ (store.removed "@02").selected = none ∧
      (store.removed "@02").get? "@01" = store.get? "@01" ∧
      (store.removed "@02").get? "@03" = store.get? "@03" ∧
      store.Refuses (.delete "@04") "@04" ∧ store.Refuses (.select "@04") "@04" ∧
      store.Refuses (.fromPrediction "@04") "@04" := by
  intro store
  obtain ⟨-, -, deletes, refuses, copies⟩ := runInPlace_consistent AnnotationState.moodTree {} {}
    (.numbered '@' 2) selectedPrediction
  obtain ⟨ids, chosen, areas, left, freed⟩ : store.ids = ["@01", "@02", "@03"] ∧
      store.selected = some "@02" ∧
      store.all.map (·.areas.keys.map AreaId.raw) = [["a", "b"], ["a"], []] ∧
      (store.removed "@02").ids = ["@01", "@03"] ∧ (store.removed "@02").selected = none := by
    decide +kernel
  have found : (store.get? "@02").isSome = true := by decide +kernel
  obtain ⟨state, found⟩ := Option.isSome_iff_exists.mp found
  obtain ⟨deleted, others⟩ := deletes "@02" state found
  have missing : store.get? "@04" = none := Option.isNone_iff_eq_none.mp (by decide +kernel)
  have unknown : ∀ state ∈ store.predictions, state.id ≠ "@04" := by decide +kernel
  exact ⟨ids, chosen, areas, ⟨state, deleted⟩, left, freed, others "@01" (by decide),
    others "@03" (by decide), (refuses "@04" missing).1, (refuses "@04" missing).2,
    copies "@04" unknown⟩

end Store
end Labeling
