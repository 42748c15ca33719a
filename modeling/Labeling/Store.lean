import Labeling.Annotating.Operation

/-!
# The annotations of a task

A store owns the annotations, predictions and former versions of one task. They share its
configuration, its settings and its session. At most one of them is selected.
-/
namespace Labeling

/-- The annotations of a task. -/
structure Store where
  /-- The configuration. -/
  tree : ElementTree
  /-- The settings. -/
  settings : Settings
  /-- What the annotations share. -/
  session : Session := {}
  /-- The ids that are made up for annotations. -/
  supply : Session.Supply := .numbered '@' 2
  /-- The annotations made by persons. -/
  manual : List AnnotationState := []
  /-- The predictions. -/
  predictions : List AnnotationState := []
  /-- The former versions. -/
  history : List AnnotationState := []
  /-- The id of the selected annotation. -/
  selected : Option String := none
  /-- How many annotations have been made. -/
  created : Nat := 0

namespace Store

/-- Every annotation, in the order of the lists. -/
def all (store : Store) : List AnnotationState :=
  store.manual ++ store.predictions ++ store.history

/-- The annotation of an id. -/
def get? (store : Store) (id : String) : Option AnnotationState := store.all.find? (·.id == id)

/-- The store of a configuration. -/
def open? (context : ExpansionContext) (config : String) (settings : Settings) : Option Store :=
  (ElementTree.compile? { context with indexFlag := settings.repeaterIndexFlag } config).map
    fun tree => { tree := tree, settings := settings }

/-- A new empty annotation of the store. -/
def fresh (store : Store) (kind : AnnotationKind) : Store × AnnotationState :=
  let place := store.created + 1
  ({ store with created := place },
    AnnotationState.start (store.supply.name place) kind store.tree store.settings store.session)

/-- The store with one more annotation at the end of the list of its kind; tells its id. -/
def append (store : Store) (state : AnnotationState) : Store × String :=
  let store := { store with session := state.session }
  let state := { state with session := {} }
  let store := match state.kind with
    | .manual => { store with manual := store.manual ++ [state] }
    | .prediction => { store with predictions := store.predictions ++ [state] }
    | .history => { store with history := store.history ++ [state] }
  (store, state.id)

/-- Create an empty annotation. -/
def create (store : Store) : Store × String :=
  let (store, state) := store.fresh .manual
  store.append state

/-- Add an annotation with a stored payload and the host's key. It is added even if the payload
cannot be loaded. -/
def add (store : Store) (kind : AnnotationKind) (payload : Json) (key : Option String) :
    Store × String :=
  let (store, state) := store.fresh kind
  let loaded := ({ state with key := key }.load payload {}).1
  store.append loaded.resetHistory

/-- Copy a prediction into a new annotation. -/
def fromPrediction (store : Store) (id : String) : Except Failure (Store × String) :=
  match store.predictions.find? (·.id == id) with
  | none => .error (.unknownAnnotationId id)
  | some source =>
    let (store, state) := store.fresh .manual
    let loaded := (state.loadItems source.items {}).1
    .ok (store.append loaded.resetHistory)

/-- The list without the first annotation of an id. -/
def without (id : String) (states : List AnnotationState) : List AnnotationState :=
  states.eraseP (·.id == id)

/-- Delete an annotation of whatever kind. A deleted annotation is no longer selected. -/
def delete (store : Store) (id : String) : Except Failure (Store × AnnotationState) :=
  let store := if store.selected = some id then { store with selected := none } else store
  let isOwn (state : AnnotationState) : Bool := state.id == id
  match store.manual.find? isOwn, store.predictions.find? isOwn, store.history.find? isOwn with
  | some state, _, _ => .ok ({ store with manual := without id store.manual }, state)
  | none, some state, _ =>
    .ok ({ store with predictions := without id store.predictions }, state)
  | none, none, some state => .ok ({ store with history := without id store.history }, state)
  | none, none, none => .error (.unknownAnnotationId id)

/-- The list with the first annotation of an id replaced. -/
def replaceIn (id : String) (next : AnnotationState) :
    List AnnotationState → List AnnotationState
  | [] => []
  | state :: states => if state.id = id then next :: states else state :: replaceIn id next states

/-- The store with the annotation of an id replaced. -/
def replace (store : Store) (id : String) (next : AnnotationState) : Store :=
  if store.manual.any (·.id == id) then
    { store with manual := replaceIn id next store.manual }
  else if store.predictions.any (·.id == id) then
    { store with predictions := replaceIn id next store.predictions }
  else { store with history := replaceIn id next store.history }

/-- Carry out an operation on the annotation of an id; without such an annotation nothing
happens. -/
def on (store : Store) (id : String) (operation : Operation) : Store × Option Answer :=
  match store.get? id with
  | none => (store, none)
  | some state =>
    let (next, answer) := { state with session := store.session }.perform operation
    let store := { store with session := next.session }
    (store.replace id { next with session := {} }, some answer)

/-- Select an annotation. The areas of the one selected before are no longer selected. -/
def select (store : Store) (id : String) : Except Failure Store :=
  match store.get? id with
  | none => .error (.unknownAnnotationId id)
  | some _ =>
    let store := match store.selected with
      | some previous => (store.on previous .unselectAll).1
      | none => store
    .ok { store with
      selected := some id
      session := store.session.fire (.annotationSelected id) }

/-- The selected annotation. -/
def selected? (store : Store) : Option AnnotationState := store.selected.bind store.get?

end Store

/-- A public operation on a store. -/
inductive StoreOperation where
  /-- Create an empty annotation. -/
  | create
  /-- Add an annotation with a stored payload. -/
  | add (kind : AnnotationKind) (payload : Json) (key : Option String)
  /-- Copy a prediction into a new annotation. -/
  | fromPrediction (id : String)
  /-- Delete an annotation. -/
  | delete (id : String)
  /-- Select an annotation. -/
  | select (id : String)
  /-- Carry out an operation on an annotation. -/
  | on (id : String) (operation : Operation)

/-- The answer to an operation on a store. -/
inductive StoreAnswer where
  /-- It was carried out. -/
  | done
  /-- The id of a new annotation. -/
  | created (id : String)
  /-- An annotation that is gone. -/
  | removed (state : AnnotationState)
  /-- The answer of an annotation, if there is one. -/
  | answered (answer : Option Answer)
  /-- Why it was not carried out. -/
  | failure (cause : Failure)

namespace Store

/-- Carry out an operation and answer it; one that fails changes nothing. -/
def perform (store : Store) : StoreOperation → Store × StoreAnswer
  | .create =>
    let (store, id) := store.create
    (store, .created id)
  | .add kind payload key =>
    let (store, id) := store.add kind payload key
    (store, .created id)
  | .fromPrediction id =>
    match store.fromPrediction id with
    | .ok (store, id) => (store, .created id)
    | .error failure => (store, .failure failure)
  | .delete id =>
    match store.delete id with
    | .ok (store, state) => (store, .removed state)
    | .error failure => (store, .failure failure)
  | .select id =>
    match store.select id with
    | .ok store => (store, .done)
    | .error failure => (store, .failure failure)
  | .on id operation =>
    let (store, answer) := store.on id operation
    (store, .answered answer)

/-- The store after a run of operations. -/
def run (store : Store) (operations : List StoreOperation) : Store :=
  operations.foldl (fun store operation => (store.perform operation).1) store

end Store
end Labeling
