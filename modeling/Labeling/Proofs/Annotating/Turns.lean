import Labeling.Proofs.Annotating.SingleClassifications

/-!
# What an operation tells and counts

Beside the areas and the relations an annotation has a selection, which it tells, and counters for
the autosave: how often something was recorded, how often at the last save, and when a draft was
last handed over. Every operation moves these in one of a few ways (`perform_turn`). It tells each
change of the selection, apart from what the removal of superseded classifications takes away; and
it counts each change of the areas or the relations, apart from that removal by itself.
-/
namespace Labeling

/-! ## Notifications of the selection -/

namespace Event

/-- What a notification tells of the selection. -/
def selection? : Event → Option (List AreaId)
  | .selectionChanged selected => some selected
  | _ => none

/-- Whether a notification tells the selection. -/
def tellsSelection (event : Event) : Bool := event.selection?.isSome

/-- The selection that is known behind some notifications: the one told last, or the one that was
known before. -/
def known (events : List Event) (before : List AreaId) : List AreaId :=
  events.foldl (fun known event => event.selection?.getD known) before

/-- What is known behind further notifications is known from those before. -/
theorem known_append (first second : List Event) (before : List AreaId) :
    known (first ++ second) before = known second (known first before) := List.foldl_append

/-- Where the selection is not told nothing else is known of it. -/
theorem known_of_untold {events : List Event} (untold : events.any tellsSelection = false)
    (before : List AreaId) : known events before = before := by
  induction events generalizing before with
  | nil => rfl
  | cons event rest hypothesis =>
    rw [List.any_cons, Bool.or_eq_false_iff] at untold
    have nothing : event.selection? = none := by simpa [tellsSelection] using untold.1
    rw [known, List.foldl_cons, nothing]
    exact hypothesis untold.2 before

end Event

/-! ## What counts and what saves -/

/-- Whether an answer tells that something was carried out. -/
def Answer.saysDone : Answer → Bool
  | .done => true
  | .flag value => value
  | .count value => 0 < value
  | .area _ => true
  | .removed _ => true
  | .direction value => value.isSome
  | .autosave _ => false
  | .failure _ => false

/-- Whether a draft was handed over, with or without success. -/
def AutosaveOutcome.isAttempt : AutosaveOutcome → Bool
  | .saved => true
  | .failed => true
  | _ => false

namespace Operation

/-- Whether an operation that is answered so counts as a change. A load and the acceptance of all
suggestions always do. The removal of superseded classifications by itself never does, and neither
does what touches no area and no relation. -/
def counts (operation : Operation) (answer : Answer) : Bool :=
  match operation with
  | .load .. => true
  | .loadItems .. => true
  | .acceptAll => true
  | .clean => false
  | .reject _ => false
  | .addVersions _ => false
  | .autosave _ => false
  | .refuseDrafts _ => false
  | .select _ => false
  | .toggle _ => false
  | .unselectAll => false
  | .setGroundTruth _ => false
  | .setEditable _ => false
  | .setKey _ => false
  | .resetHistory => false
  | _ => answer.saysDone

/-- Whether an operation that is answered so makes the present state the one that is saved. -/
def saves (operation : Operation) (answer : Answer) : Bool :=
  match operation, answer with
  | .resetHistory, _ => true
  | .toggleDraft, answer => answer.saysDone
  | .autosave _, .autosave .saved => true
  | _, _ => false

/-- When an operation that is answered so handed a draft over. -/
def attempt? (operation : Operation) (answer : Answer) : Option Nat :=
  match operation, answer with
  | .autosave now, .autosave outcome => if outcome.isAttempt then some now else none
  | _, _ => none

/-- Whether an operation may save or hand a draft over. -/
def maySave : Operation → Bool
  | .resetHistory => true
  | .toggleDraft => true
  | .autosave _ => true
  | _ => false

/-- What may not save neither saves nor hands a draft over. -/
theorem saves_of_maySave {operation : Operation} (never : operation.maySave = false)
    (answer : Answer) : operation.saves answer = false ∧ operation.attempt? answer = none := by
  cases operation <;> first | contradiction | exact ⟨rfl, rfl⟩

end Operation

namespace AnnotationState

variable {state next changed : AnnotationState} {operation : Operation} {answer : Answer}

/-! ## On the way to a record -/

/-- An annotation goes on with its counters as they are, and tells how its selection changes. -/
structure Tells (state next : AnnotationState) : Prop where
  /-- Each change of the selection is told. -/
  told : ∃ fired, next.session.events = state.session.events ++ fired ∧
    next.selection = Event.known fired state.selection
  /-- Nothing is counted. -/
  revision : next.revision = state.revision
  /-- Nothing is saved. -/
  savedRevision : next.savedRevision = state.savedRevision
  /-- No draft is handed over. -/
  lastAttempt : next.lastAttempt = state.lastAttempt

/-- Where nothing is told and the selection stays, each change of it is told. -/
theorem tells_of_eq (events : next.session.events = state.session.events)
    (selection : next.selection = state.selection) (revision : next.revision = state.revision)
    (savedRevision : next.savedRevision = state.savedRevision)
    (lastAttempt : next.lastAttempt = state.lastAttempt) : state.Tells next :=
  ⟨⟨[], events.trans (List.append_nil _).symm, selection⟩, revision, savedRevision, lastAttempt⟩

/-- Where nothing happens there is nothing to tell. -/
theorem Tells.refl (state : AnnotationState) : state.Tells state :=
  tells_of_eq rfl rfl rfl rfl rfl

/-- What is told twice is told. -/
theorem Tells.trans {last : AnnotationState} (first : state.Tells next)
    (second : next.Tells last) : state.Tells last := by
  obtain ⟨firstFired, firstEvents, firstSelection⟩ := first.told
  obtain ⟨secondFired, secondEvents, secondSelection⟩ := second.told
  refine ⟨⟨firstFired ++ secondFired, ?_, ?_⟩, second.revision.trans first.revision,
    second.savedRevision.trans first.savedRevision, second.lastAttempt.trans first.lastAttempt⟩
  · rw [secondEvents, firstEvents, List.append_assoc]
  · rw [secondSelection, firstSelection, Event.known_append]

/-- Steps that tell their changes do so together. -/
theorem tells_foldl {α : Type} {step : AnnotationState → α → AnnotationState}
    (telling : ∀ (state : AnnotationState) (value : α), state.Tells (step state value))
    (values : List α) (state : AnnotationState) : state.Tells (values.foldl step state) := by
  induction values generalizing state with
  | nil => exact .refl state
  | cons value rest hypothesis => exact (telling state value).trans (hypothesis _)

/-- Another selection is told. -/
theorem tells_selectionTold (session : changed.session = state.session)
    (revision : changed.revision = state.revision)
    (savedRevision : changed.savedRevision = state.savedRevision)
    (lastAttempt : changed.lastAttempt = state.lastAttempt) :
    state.Tells changed.selectionTold := by
  refine ⟨⟨[.selectionChanged changed.selection], ?_, rfl⟩, revision, savedRevision, lastAttempt⟩
  rw [← session]
  rfl

/-- A notification that is not about the selection leaves it alone. -/
theorem tells_fire (state : AnnotationState) (event : Event)
    (untold : event.selection? = none) : state.Tells (state.fire event) :=
  ⟨⟨[event], rfl, by rw [Event.known, List.foldl_cons, untold]; rfl⟩, rfl, rfl, rfl⟩

/-- A cleared annotation tells that nothing is selected. -/
theorem tells_cleared (state : AnnotationState) : state.Tells state.cleared := by
  rw [cleared]
  dsimp only
  split
  · exact tells_of_eq rfl rfl rfl rfl rfl
  · exact tells_selectionTold rfl rfl rfl rfl

/-- Applying an item leaves the selection alone. -/
theorem tells_applyResult {options : LoadOptions} {item : WireResult}
    (applied : applyResult options state item = .ok next) : state.Tells next := by
  obtain ⟨_, _, -, -, made⟩ := applyResult_eq_ok applied
  rw [made, itemId]
  split
  · exact tells_of_eq rfl rfl rfl rfl rfl
  · exact tells_of_eq rfl rfl rfl rfl rfl

/-- Applying items leaves the selection alone, also where one fails. -/
theorem tells_applyResults (options : LoadOptions) (items : List WireResult)
    (state : AnnotationState) : state.Tells (applyResults options state items).1 := by
  induction items generalizing state with
  | nil => exact .refl state
  | cons item rest hypothesis =>
    rw [applyResults]
    split
    · rename_i next applied
      exact (tells_applyResult applied).trans (hypothesis next)
    · exact .refl state

/-- Applying repaired items and relations leaves the selection alone. -/
theorem tells_applyItems (options : LoadOptions) (state : AnnotationState)
    (items : List WireItem) : state.Tells (applyItems options state items).1 := by
  have results := tells_applyResults options
    (WireItem.results (Repair.items state.tree items)) state
  rw [applyItems]
  dsimp only
  split
  · rename_i applied
    rw [applied] at results
    exact results
  · rename_i applied
    rw [applied] at results
    split
    · exact results.trans (tells_of_eq rfl rfl rfl rfl rfl)
    · exact results.trans (tells_of_eq rfl rfl rfl rfl rfl)

/-- A load of items leaves the selection alone up to its record. -/
theorem exists_tells_loadItems (state : AnnotationState) (items : List WireItem)
    (options : LoadOptions) : ∃ changed, (state.loadItems items options).1 = changed.committed ∧
      state.Tells changed := by
  have frozen : state.Tells state.frozen := tells_of_eq rfl rfl rfl rfl rfl
  have applied := frozen.trans (tells_applyItems options state.frozen items)
  rw [loadItems]
  generalize applyItems options state.frozen items = result at applied
  obtain ⟨changed, _ | failure⟩ := result
  · exact ⟨changed, rfl, applied⟩
  · exact ⟨_, rfl, applied.trans (tells_of_eq rfl rfl rfl rfl rfl)⟩

/-- A load of a payload leaves the selection alone up to its record. -/
theorem exists_tells_load (state : AnnotationState) (payload : Json) (options : LoadOptions) :
    ∃ changed, (state.load payload options).1 = changed.committed ∧ state.Tells changed := by
  rw [load]
  split
  · exact exists_tells_loadItems state _ options
  · exact ⟨_, rfl, tells_of_eq rfl rfl rfl rfl rfl⟩

/-- Restoring a state tells what is no longer selected, up to its record. -/
theorem exists_tells_restore (state : AnnotationState) (snapshot : Snapshot) :
    ∃ changed, state.restore snapshot = changed.recorded ∧ state.Tells changed := by
  rw [restore]
  split
  · rename_i same
    refine ⟨_, rfl, tells_of_eq rfl ?_ rfl rfl rfl⟩
    exact List.filter_eq_self.mpr (List.length_filter_eq_length_iff.mp same)
  · exact ⟨_, rfl, tells_selectionTold rfl rfl rfl rfl⟩

/-- A deleted area is told, and so is that it is no longer selected, up to the record. -/
theorem exists_tells_delete {id : AreaId} {area : Area}
    (deleted : state.delete id = .ok (next, area)) :
    ∃ changed, next = changed.recorded ∧ state.Tells changed := by
  simp only [delete, Except.bind_eq_ok] at deleted
  obtain ⟨found, -, deleted⟩ := deleted
  simp only [pure, Except.pure, Except.ok.injEq, Prod.mk.injEq] at deleted
  obtain ⟨made, -⟩ := deleted
  split at made
  · have told : state.Tells { state with
        areas := state.areas.erase id
        selection := state.selection.filter (· ≠ id) }.selectionTold :=
      tells_selectionTold rfl rfl rfl rfl
    exact ⟨_, made.symm, told.trans (tells_fire _ _ rfl)⟩
  · rename_i unselected
    have same : state.selection.filter (· ≠ id) = state.selection := by
      refine List.filter_eq_self.mpr fun other member => decide_eq_true fun isId => ?_
      exact unselected (List.contains_iff_mem.mpr (isId ▸ member))
    have erased : state.Tells { state with
        areas := state.areas.erase id
        selection := state.selection.filter (· ≠ id) } := tells_of_eq rfl same rfl rfl rfl
    exact ⟨_, made.symm, erased.trans (tells_fire _ _ rfl)⟩

/-- Deleting every area tells so, up to the record. -/
theorem exists_tells_deleteAll (state : AnnotationState) :
    ∃ changed, state.deleteAll = changed.recorded ∧ state.Tells changed :=
  ⟨_, rfl, (tells_cleared state).trans
    (tells_foldl (fun state id => tells_fire state (.deleted id) rfl) _ _)⟩

/-! ## Records -/

/-- A record counts once and changes nothing else that is counted, told or shown. -/
structure Counted (changed next : AnnotationState) : Prop where
  /-- Nothing is told. -/
  session : next.session = changed.session
  /-- The selection stays. -/
  selection : next.selection = changed.selection
  /-- The areas stay. -/
  areas : next.areas = changed.areas
  /-- It counts once. -/
  revision : next.revision = changed.revision + 1
  /-- Nothing is saved. -/
  savedRevision : next.savedRevision = changed.savedRevision
  /-- No draft is handed over. -/
  lastAttempt : next.lastAttempt = changed.lastAttempt

/-- A recorded change counts once. -/
theorem counted_recorded (changed : AnnotationState) : changed.Counted changed.recorded := by
  obtain ⟨history, made⟩ : ∃ history,
      changed.recorded = { changed.touched with history := history } := ⟨_, rfl⟩
  rw [made]
  exact ⟨rfl, rfl, rfl, rfl, rfl, rfl⟩

/-- A recorded batch counts once. -/
theorem counted_committed (changed : AnnotationState) : changed.Counted changed.committed := by
  obtain ⟨history, made⟩ : ∃ history,
      changed.committed = { changed.touched with history := history } := ⟨_, rfl⟩
  rw [made]
  exact ⟨rfl, rfl, rfl, rfl, rfl, rfl⟩

/-- The removal of superseded classifications takes from the selection just what it takes from the
areas. -/
theorem selection_cleaned (selected : ∀ id ∈ state.selection, state.areas.has id = true) :
    state.cleaned.1.selection = state.selection.filter (state.cleaned.1.areas.has ·) := by
  rw [cleaned]
  dsimp only
  split
  · exact (List.filter_eq_self.mpr selected).symm
  · refine List.filter_congr fun id member => ?_
    generalize (state.areas.values.filter (isSuperseded state.areas)).map (·.id) = stale
    show (!stale.contains id) =
      Entries.has id (state.areas.filter fun entry => !stale.contains entry.1)
    rw [Entries.has, Entries.get?_filter (fun id => !stale.contains id)]
    split
    · rename_i kept
      rw [kept]
      exact (selected id member).symm
    · rename_i removed
      rw [Bool.eq_false_iff.mpr removed]
      rfl

/-- The removal of superseded classifications tells nothing, counts nothing and saves nothing. -/
theorem cleaned_keeps (state : AnnotationState) :
    state.cleaned.1.session = state.session ∧ state.cleaned.1.revision = state.revision ∧
      state.cleaned.1.savedRevision = state.savedRevision ∧
      state.cleaned.1.lastAttempt = state.lastAttempt := by
  rw [cleaned]
  dsimp only
  split
  · exact ⟨rfl, rfl, rfl, rfl⟩
  · exact ⟨rfl, rfl, rfl, rfl⟩

/-! ## Turns -/

/-- How an operation goes on from an annotation: what it tells of the selection, and what it counts
and saves. -/
structure Turn (state : AnnotationState) (operation : Operation)
    (outcome : AnnotationState × Answer) : Prop where
  /-- What counts is counted. -/
  revision : outcome.1.revision = state.revision + (operation.counts outcome.2).toNat
  /-- What saves takes over the present count. -/
  savedRevision : outcome.1.savedRevision =
    if operation.saves outcome.2 then outcome.1.revision else state.savedRevision
  /-- A draft that is handed over is the last one. -/
  lastAttempt : outcome.1.lastAttempt =
    (operation.attempt? outcome.2).or state.lastAttempt
  /-- What does not count leaves the areas and the relations as they are, unless it is the removal
  of superseded classifications by itself. -/
  snapshot : operation ≠ .clean → operation.counts outcome.2 = false →
    outcome.1.snapshot = state.snapshot
  /-- Each change of the selection is told, unless areas are removed as superseded and no selection
  is told. -/
  told : state.Sound → ∃ fired, outcome.1.session.events = state.session.events ++ fired ∧
    outcome.1.selection =
      if operation.sweeps && !fired.any Event.tellsSelection then
        state.selection.filter (outcome.1.areas.has ·)
      else Event.known fired state.selection

/-- An operation that fails does nothing. -/
theorem turn_same (never : operation.maySave = false)
    (uncounted : operation.counts answer = false) : state.Turn operation (state, answer) := by
  obtain ⟨saves, attempt⟩ := Operation.saves_of_maySave never answer
  refine ⟨?_, ?_, ?_, fun _ _ => rfl, fun sound => ⟨[], (List.append_nil _).symm, ?_⟩⟩
  · rw [uncounted]
    rfl
  · rw [saves]
    rfl
  · rw [attempt]
    rfl
  · split
    · exact (List.filter_eq_self.mpr sound.selection).symm
    · rfl

/-- An operation that is not recorded tells what it changes. -/
theorem turn_tells (telling : state.Tells next) (snapshot : next.snapshot = state.snapshot)
    (never : operation.maySave = false) (uncounted : operation.counts answer = false)
    (sweepless : operation.sweeps = false) : state.Turn operation (next, answer) := by
  obtain ⟨saves, attempt⟩ := Operation.saves_of_maySave never answer
  refine ⟨?_, ?_, ?_, fun _ _ => snapshot, fun _ => ?_⟩
  · rw [uncounted]
    exact telling.revision
  · rw [saves]
    exact telling.savedRevision
  · rw [attempt]
    exact telling.lastAttempt
  · rw [sweepless]
    exact telling.told

/-- An operation that is recorded counts once, whatever it tells. -/
theorem turn_recorded (revision : changed.revision = state.revision)
    (savedRevision : changed.savedRevision = state.savedRevision)
    (lastAttempt : changed.lastAttempt = state.lastAttempt) (counted : changed.Counted next)
    (never : operation.maySave = false) (counts : operation.counts answer = true)
    (told : state.Sound → ∃ fired, changed.session.events = state.session.events ++ fired ∧
      changed.selection =
        if operation.sweeps && !fired.any Event.tellsSelection then
          state.selection.filter (changed.areas.has ·)
        else Event.known fired state.selection) : state.Turn operation (next, answer) := by
  obtain ⟨saves, attempt⟩ := Operation.saves_of_maySave never answer
  refine ⟨?_, ?_, ?_, fun _ uncounted => ?_, fun sound => ?_⟩
  · rw [counts, counted.revision, revision]
    rfl
  · rw [saves, counted.savedRevision, savedRevision]
    rfl
  · rw [attempt, counted.lastAttempt, lastAttempt]
    rfl
  · rw [counts] at uncounted
    contradiction
  · rw [counted.session, counted.selection, counted.areas]
    exact told sound

/-- An operation tells what it changes, and is recorded. -/
theorem turn_counted (telling : state.Tells changed) (counted : changed.Counted next)
    (never : operation.maySave = false) (counts : operation.counts answer = true)
    (sweepless : operation.sweeps = false) : state.Turn operation (next, answer) := by
  refine turn_recorded telling.revision telling.savedRevision telling.lastAttempt counted never
    counts fun _ => ?_
  rw [sweepless]
  exact telling.told

/-- Superseded classifications are removed, and that is recorded. Either nothing was told of the
selection, which is left with what is still there, or what was told is still there. -/
theorem turn_swept (telling : state.Tells changed) (counted : changed.cleaned.1.Counted next)
    (never : operation.maySave = false) (counts : operation.counts answer = true)
    (sweeps : operation.sweeps = true)
    (selected : state.Sound → ∃ fired, changed.session.events = state.session.events ++ fired ∧
      ((fired.any Event.tellsSelection = false ∧ changed.selection = state.selection ∧
          ∀ id ∈ state.selection, changed.areas.has id = true) ∨
        (fired.any Event.tellsSelection = true ∧
          changed.cleaned.1.selection = Event.known fired state.selection))) :
    state.Turn operation (next, answer) := by
  obtain ⟨session, revision, savedRevision, lastAttempt⟩ := cleaned_keeps changed
  refine turn_recorded (revision.trans telling.revision)
    (savedRevision.trans telling.savedRevision) (lastAttempt.trans telling.lastAttempt) counted
    never counts fun sound => ?_
  obtain ⟨fired, events, way⟩ := selected sound
  refine ⟨fired, (congrArg Session.events session).trans events, ?_⟩
  rw [sweeps]
  rcases way with ⟨untold, same, present⟩ | ⟨told, known⟩
  -- What the removal takes from the selection here is told to nobody.
  · rw [untold, selection_cleaned (same ▸ present), same]
    rfl
  · rw [told, known]
    rfl

/-- An operation that may fail takes the turn of its success, or does nothing. -/
theorem turn_attempt {α : Type} {result : Except Failure (AnnotationState × α)}
    {answer : α → Answer} (never : operation.maySave = false)
    (failed : ∀ cause, operation.counts (.failure cause) = false)
    (turns : ∀ next value, result = .ok (next, value) →
      state.Turn operation (next, answer value)) :
    state.Turn operation (state.attempt result answer) := by
  cases result with
  | ok success => exact turns _ _ rfl
  | error failure => exact turn_same never (failed failure)

/-- The same for operations without a value. -/
theorem turn_attemptDone {result : Except Failure AnnotationState}
    (never : operation.maySave = false)
    (failed : ∀ cause, operation.counts (.failure cause) = false)
    (turns : ∀ next, result = .ok next → state.Turn operation (next, .done)) :
    state.Turn operation (state.attemptDone result) := by
  cases result with
  | ok success => exact turns _ rfl
  | error failure => exact turn_same never (failed failure)

/-! ## Creating and accepting -/

/-- The annotation with a created area, before superseded classifications are removed. A region is
told, and may be selected. -/
def withCreated (state : AnnotationState) (area : Area) : AnnotationState :=
  let state := { state with
    areas := state.areas.put area.id area
    nextSeq := state.nextSeq + 1 }
  if area.classification then state
  else
    let state := state.fire (.created area.id)
    if state.settings.selectAfterCreate then
      { state with selection := [area.id] }.selectionTold
    else state

/-- Creating puts an area of a made-up id there and removes what it supersedes. -/
theorem create_eq_withCreated {shape : Shape} {value : Value} {control object : String}
    {id : AreaId} (created : state.create shape value control object = .ok (next, id)) :
    ∃ controlElement objectElement session,
      (state.tree.get? control = some controlElement ∧ controlElement.makesResults = true) ∧
      (state.tree.get? object = some objectElement ∧ objectElement.isObject = true) ∧
      id.owner = state.id ∧ session.events = state.session.events ∧
      next = ({ state with session := session }.withCreated
        (createdArea controlElement objectElement shape value (control, object) id
          state.nextSeq)).cleaned.1.recorded := by
  simp only [create, Except.bind_eq_ok, resultControl_eq_ok, objectElement_eq_ok] at created
  obtain ⟨controlElement, controlFound, objectElement, objectFound, created⟩ := created
  split at created
  · contradiction
  · simp only [pure, Except.pure, Except.ok.injEq, Prod.mk.injEq] at created
    obtain ⟨made, same⟩ := created
    subst same
    exact ⟨controlElement, objectElement, state.madeUpId.1.session, controlFound, objectFound,
      rfl, rfl, made.symm⟩

/-- A created area is put there, and if anything is told of the selection, it is that this area
alone is selected, which is a region then. -/
theorem tells_withCreated (state : AnnotationState) (area : Area) :
    (state.withCreated area).areas = state.areas.put area.id area ∧
      (state.withCreated area).tree = state.tree ∧ (state.withCreated area).id = state.id ∧
      state.Tells (state.withCreated area) ∧
      ∃ fired, (state.withCreated area).session.events = state.session.events ++ fired ∧
        ((fired.any Event.tellsSelection = false ∧
            (state.withCreated area).selection = state.selection) ∨
          (fired.any Event.tellsSelection = true ∧ area.classification = false ∧
            (state.withCreated area).selection = [area.id] ∧
            Event.known fired state.selection = [area.id])) := by
  rw [withCreated]
  dsimp only
  split
  · exact ⟨rfl, rfl, rfl, tells_of_eq rfl rfl rfl rfl rfl,
      [], (List.append_nil _).symm, Or.inl ⟨rfl, rfl⟩⟩
  · rename_i region
    have isRegion : area.classification = false := Bool.eq_false_iff.mpr region
    split
    · refine ⟨rfl, rfl, rfl, ⟨⟨[.created area.id, .selectionChanged [area.id]], ?_, rfl⟩,
        rfl, rfl, rfl⟩, [.created area.id, .selectionChanged [area.id]], ?_,
        Or.inr ⟨rfl, isRegion, rfl, rfl⟩⟩
      · exact List.append_assoc _ [_] [_]
      · exact List.append_assoc _ [_] [_]
    · exact ⟨rfl, rfl, rfl, ⟨⟨[.created area.id], rfl, rfl⟩, rfl, rfl, rfl⟩,
        [.created area.id], rfl, Or.inl ⟨rfl, rfl⟩⟩

/-- An area that is put among others leaves the others there. -/
theorem has_put (areas : Areas) {id other : AreaId} (area : Area)
    (present : areas.has other = true) : Entries.has other (Entries.put id area areas) = true := by
  rw [Entries.has, Entries.get?_put]
  split
  · rfl
  · exact present

/-- Behind the removal of superseded classifications a created region is still selected if that was
told. -/
theorem selection_cleaned_withCreated (sound : state.Sound) {area : Area}
    (fits : area.WellFormed state.tree state.id) (placed : area.seq = state.nextSeq)
    (region : area.classification = false)
    (selection : (state.withCreated area).selection = [area.id]) :
    (state.withCreated area).cleaned.1.selection = [area.id] := by
  obtain ⟨areas, tree, id, -⟩ := tells_withCreated state area
  have wellFormed : (state.withCreated area).areas.WellFormed (state.withCreated area).tree
      (state.withCreated area).id (state.nextSeq + 1) := by
    rw [areas, tree, id]
    exact sound.areas.put fits placed
  have stored : (state.withCreated area).areas.get? area.id = some area := by
    rw [areas, Entries.get?_put, if_pos rfl]
  have present : (state.withCreated area).areas.has area.id = true := by
    rw [Entries.has, stored]
    rfl
  have stays : (state.withCreated area).cleaned.1.areas.has area.id = true := by
    rw [areas_cleaned wellFormed, Entries.has, get?_unsuperseded wellFormed stored region]
    rfl
  rw [selection_cleaned (selection ▸ List.forall_mem_singleton.mpr present), selection]
  exact List.filter_eq_self.mpr (List.forall_mem_singleton.mpr stays)

/-- A created area takes a turn. -/
theorem turn_create {shape : Shape} {value : Value} {control object : String} {id : AreaId}
    (created : state.create shape value control object = .ok (next, id)) :
    state.Turn (.create shape value control object) (next, .area id) := by
  obtain ⟨controlElement, objectElement, session, controlFound, objectFound, owner, events, made⟩ :=
    create_eq_withCreated created
  let area := createdArea controlElement objectElement shape value (control, object) id
    state.nextSeq
  let begun : AnnotationState := { state with session := session }
  obtain ⟨areas, -, -, telling, fired, told, ways⟩ := tells_withCreated begun area
  have toBegun : state.Tells begun := tells_of_eq events rfl rfl rfl rfl
  rw [made]
  refine turn_swept (toBegun.trans telling) (counted_recorded _) rfl rfl rfl fun sound =>
    ⟨fired, told.trans (congrArg (· ++ fired) events), ?_⟩
  -- The selection is told before the removal, so that it has to survive it: a region does, as only
  -- classifications are superseded.
  rcases ways with ⟨untold, same⟩ | ⟨loud, region, selection, known⟩
  · refine Or.inl ⟨untold, same, fun other member => ?_⟩
    rw [areas]
    exact has_put state.areas area (sound.selection other member)
  · have named : state.tree.get? objectElement.name = some objectElement := by
      rw [sound.named object objectElement objectFound.1]
      exact objectFound.1
    have fits : area.WellFormed state.tree state.id :=
      Area.WellFormed.createdArea controlFound objectFound named owner
    have begunSound : begun.Sound :=
      ⟨sound.named, sound.areas, sound.suggestions, sound.selection⟩
    refine Or.inr ⟨loud, ?_⟩
    rw [selection_cleaned_withCreated begunSound fits rfl region selection]
    exact known.symm

/-- An accepted suggestion leaves the other areas there. -/
theorem has_acceptArea (state : AnnotationState) (area : Area) {id : AreaId}
    (present : state.areas.has id = true) : (state.acceptArea area).1.areas.has id = true := by
  obtain ⟨_, _, -, made⟩ := acceptArea_eq state area
  rw [made]
  exact has_put state.areas _ present

/-- Accepting a suggestion leaves the selection alone. -/
theorem tells_acceptArea (state : AnnotationState) (area : Area) :
    state.Tells (state.acceptArea area).1 ∧
      (state.acceptArea area).1.session.events = state.session.events ∧
      (state.acceptArea area).1.selection = state.selection := by
  rw [acceptArea]
  dsimp only
  split
  · exact ⟨tells_of_eq rfl rfl rfl rfl rfl, rfl, rfl⟩
  · exact ⟨tells_of_eq rfl rfl rfl rfl rfl, rfl, rfl⟩

/-- Accepting several suggestions leaves the other areas there, and the selection alone. -/
theorem tells_acceptAreas (pending : List Area) (state : AnnotationState) :
    state.Tells (state.acceptAreas pending) ∧
      (state.acceptAreas pending).session.events = state.session.events ∧
      (state.acceptAreas pending).selection = state.selection ∧
      ∀ id, state.areas.has id = true → (state.acceptAreas pending).areas.has id = true := by
  induction pending generalizing state with
  | nil => exact ⟨.refl state, rfl, rfl, fun _ present => present⟩
  | cons area rest hypothesis =>
    obtain ⟨telling, events, selection⟩ := tells_acceptArea state area
    obtain ⟨later, laterEvents, laterSelection, has⟩ := hypothesis (state.acceptArea area).1
    exact ⟨telling.trans later, laterEvents.trans events, laterSelection.trans selection,
      fun id present => has id (has_acceptArea state area present)⟩

/-- An accepted suggestion takes a turn. -/
theorem turn_accept {id accepted : AreaId} (done : state.accept id = .ok (next, accepted)) :
    state.Turn (.accept id) (next, .area accepted) := by
  obtain ⟨area, -, made⟩ := accept_eq_ok done
  let taken : AnnotationState := { state with suggestions := state.suggestions.erase id }
  obtain ⟨telling, events, selection⟩ := tells_acceptArea taken area
  have whole : state.Tells (taken.acceptArea area).1.promoteRelations :=
    tells_of_eq events selection telling.revision telling.savedRevision telling.lastAttempt
  rw [made]
  exact turn_swept whole (counted_recorded _) rfl rfl rfl fun sound =>
    ⟨[], events.trans (List.append_nil _).symm, Or.inl ⟨rfl, selection, fun other member =>
      has_acceptArea taken area (sound.selection other member)⟩⟩

/-- The acceptance of every suggestion takes a turn. -/
theorem turn_acceptAll (state : AnnotationState) :
    state.Turn .acceptAll (state.perform .acceptAll) := by
  obtain ⟨telling, events, selection, has⟩ := tells_acceptAreas state.suggestions.bySeq
    { state with suggestions := [] }.frozen
  have whole : state.Tells state.allAccepted.promoteRelations :=
    tells_of_eq events selection telling.revision telling.savedRevision telling.lastAttempt
  exact turn_swept whole (counted_committed _) rfl rfl rfl fun sound =>
    ⟨[], events.trans (List.append_nil _).symm, Or.inl ⟨rfl, selection, fun other member =>
      has other (sound.selection other member)⟩⟩

/-- The removal of superseded classifications takes a turn that does not count. -/
theorem turn_clean (state : AnnotationState) : state.Turn .clean (state.perform .clean) := by
  obtain ⟨session, revision, savedRevision, lastAttempt⟩ := cleaned_keeps state
  refine ⟨revision, savedRevision, lastAttempt, fun direct => absurd rfl direct, fun sound => ?_⟩
  exact ⟨[], (congrArg Session.events session).trans (List.append_nil _).symm,
    selection_cleaned sound.selection⟩

/-! ## Saving -/

/-- What an autosave answers and does. -/
inductive Autosaves (state : AnnotationState) (now : Nat) :
    AnnotationState × AutosaveOutcome → Prop where
  /-- Nothing has been counted since the last save. -/
  | unchanged (saved : state.savedRevision = state.revision) :
    Autosaves state now (state, .unchanged)
  /-- The last draft was handed over too recently. -/
  | throttled (unsaved : state.savedRevision ≠ state.revision)
    (throttled : state.isThrottled now = true) : Autosaves state now (state, .throttled)
  /-- The host refuses the draft. -/
  | failed (unsaved : state.savedRevision ≠ state.revision)
    (late : state.isThrottled now = false) (refuses : state.session.refusesDrafts = true) :
    Autosaves state now ({ state with lastAttempt := some now }, .failed)
  /-- The host takes the draft. -/
  | saved (unsaved : state.savedRevision ≠ state.revision)
    (late : state.isThrottled now = false) (takes : state.session.refusesDrafts = false) :
    Autosaves state now ({ state with
      lastAttempt := some now
      session := state.session.fire (.draftSubmitted state.id state.key state.itemValues)
      versions := { state.versions with draft := some state.itemValues }
      savedRevision := state.revision }, .saved)

/-- An autosave does one of these. -/
theorem autosaves (state : AnnotationState) (now : Nat) :
    state.Autosaves now (state.autosave now) := by
  rw [autosave]
  split
  · rename_i saved
    exact .unchanged saved
  · rename_i unsaved
    split
    · rename_i throttled
      exact .throttled unsaved throttled
    · rename_i late
      dsimp only
      split
      · rename_i refuses
        exact .failed unsaved (Bool.eq_false_iff.mpr late) refuses
      · rename_i takes
        exact .saved unsaved (Bool.eq_false_iff.mpr late) (Bool.eq_false_iff.mpr takes)

/-- An autosave takes a turn that does not count. -/
theorem turn_autosave (state : AnnotationState) (now : Nat) :
    state.Turn (.autosave now) (state.perform (.autosave now)) := by
  have outcome := autosaves state now
  show state.Turn (.autosave now) ((state.autosave now).1, .autosave (state.autosave now).2)
  generalize state.autosave now = result at outcome
  cases outcome with
  | unchanged =>
    exact ⟨rfl, rfl, rfl, fun _ _ => rfl, fun _ => ⟨[], (List.append_nil _).symm, rfl⟩⟩
  | throttled =>
    exact ⟨rfl, rfl, rfl, fun _ _ => rfl, fun _ => ⟨[], (List.append_nil _).symm, rfl⟩⟩
  | failed =>
    exact ⟨rfl, rfl, rfl, fun _ _ => rfl, fun _ => ⟨[], (List.append_nil _).symm, rfl⟩⟩
  | saved =>
    exact ⟨rfl, rfl, rfl, fun _ _ => rfl, fun _ =>
      ⟨[.draftSubmitted state.id state.key state.itemValues], rfl, rfl⟩⟩

/-- Switching between draft and result counts once and saves, if there is a draft. -/
theorem turn_toggleDraft (state : AnnotationState) :
    state.Turn .toggleDraft (state.perform .toggleDraft) := by
  show state.Turn .toggleDraft (state.toggleDraft.1, .flag state.toggleDraft.2)
  rw [toggleDraft]
  split
  · exact ⟨rfl, rfl, rfl, fun _ _ => rfl, fun _ => ⟨[], (List.append_nil _).symm, rfl⟩⟩
  · obtain ⟨changed, made, loaded⟩ :=
      exists_tells_load state.switched.cleared (.array state.switched.stored) {}
    have switched : state.Tells state.switched := tells_of_eq rfl rfl rfl rfl rfl
    have telling := (switched.trans (tells_cleared state.switched)).trans loaded
    show state.Turn .toggleDraft
      ((state.switched.cleared.load (.array state.switched.stored) {}).1.resetHistory, .flag true)
    have counted := counted_committed changed
    rw [made]
    generalize changed.committed = last at counted
    refine ⟨counted.revision.trans (congrArg (· + 1) telling.revision), rfl,
      counted.lastAttempt.trans telling.lastAttempt, fun _ uncounted => ?_, fun _ => ?_⟩
    · contradiction
    · obtain ⟨fired, events, selection⟩ := telling.told
      exact ⟨fired, (congrArg Session.events counted.session).trans events,
        counted.selection.trans selection⟩

/-- Going back or forth in the history counts if there is a state to restore. -/
theorem turn_travel (result : History Snapshot × Option Snapshot)
    (never : operation.maySave = false) (counts : ∀ value, operation.counts (.flag value) = value)
    (sweepless : operation.sweeps = false) :
    state.Turn operation (answered (state.travel result) .flag) := by
  rw [travel]
  split
  · rename_i snapshot _
    obtain ⟨changed, made, telling⟩ :=
      exists_tells_restore { state with history := result.1 } snapshot
    have begun : state.Tells { state with history := result.1 } :=
      tells_of_eq rfl rfl rfl rfl rfl
    rw [made]
    exact turn_counted (begun.trans telling) (counted_recorded _) never (counts true) sweepless
  · exact turn_same never (counts false)

/-- A change of the relations counts, and anything else about them does not. -/
theorem turn_withRelations {α : Type} (result : Relations × α) {hasChanged : α → Bool}
    {answer : α → Answer} (never : operation.maySave = false)
    (counts : ∀ value, operation.counts (answer value) = hasChanged value)
    (sweepless : operation.sweeps = false) :
    state.Turn operation (answered (state.withRelations result hasChanged) answer) := by
  rw [withRelations]
  split
  · rename_i changed
    have begun : state.Tells { state with relations := result.1 } :=
      tells_of_eq rfl rfl rfl rfl rfl
    exact turn_counted begun (counted_recorded _) never ((counts _).trans changed) sweepless
  · rename_i unchanged
    exact turn_same never ((counts _).trans (Bool.eq_false_iff.mpr unchanged))

/-- A change of an area counts. -/
theorem turn_changeArea (id : AreaId) (change : Area → Area) (never : operation.maySave = false)
    (counts : operation.counts answer = true) (sweepless : operation.sweeps = false) :
    state.Turn operation ((state.changeArea id change).recorded, answer) := by
  have begun : state.Tells (state.changeArea id change) := tells_of_eq rfl rfl rfl rfl rfl
  exact turn_counted begun (counted_recorded _) never counts sweepless

/-- Every operation takes a turn. -/
theorem perform_turn (state : AnnotationState) (operation : Operation) :
    state.Turn operation (state.perform operation) := by
  cases operation with
  | create shape value control object =>
    exact turn_attempt rfl (fun _ => rfl) fun next id created => turn_create created
  | addResult area control value =>
    refine turn_attemptDone rfl (fun _ => rfl) fun next added => ?_
    obtain ⟨_, -, made⟩ := addResult_eq_ok added
    exact made ▸ turn_changeArea _ _ rfl rfl rfl
  | updateValue area control value =>
    exact turn_attemptDone rfl (fun _ => rfl) fun next updated =>
      updateValue_eq_ok updated ▸ turn_changeArea _ _ rfl rfl rfl
  | updateShape area shape =>
    exact turn_attemptDone rfl (fun _ => rfl) fun next changed =>
      changeLive_eq_ok changed ▸ turn_changeArea _ _ rfl rfl rfl
  | setParent area parent =>
    exact turn_attemptDone rfl (fun _ => rfl) fun next changed =>
      changeLive_eq_ok changed ▸ turn_changeArea _ _ rfl rfl rfl
  | setReadonly area value =>
    exact turn_attemptDone rfl (fun _ => rfl) fun next changed =>
      changeLive_eq_ok changed ▸ turn_changeArea _ _ rfl rfl rfl
  | setHidden area value =>
    exact turn_attemptDone rfl (fun _ => rfl) fun next changed =>
      changeLive_eq_ok changed ▸ turn_changeArea _ _ rfl rfl rfl
  | delete area =>
    refine turn_attempt rfl (fun _ => rfl) fun next removed deleted => ?_
    obtain ⟨changed, made, telling⟩ := exists_tells_delete deleted
    exact made ▸ turn_counted telling (counted_recorded changed) rfl rfl rfl
  | deleteAll =>
    obtain ⟨changed, made, telling⟩ := exists_tells_deleteAll state
    rw [perform, made]
    exact turn_counted telling (counted_recorded changed) rfl rfl rfl
  | clean => exact turn_clean state
  | load payload options =>
    obtain ⟨changed, made, telling⟩ := exists_tells_load state payload options
    rw [perform, answered, made]
    exact turn_counted telling (counted_committed changed) rfl rfl rfl
  | loadItems items options =>
    obtain ⟨changed, made, telling⟩ := exists_tells_loadItems state items options
    rw [perform, answered, made]
    exact turn_counted telling (counted_committed changed) rfl rfl rfl
  | accept area =>
    exact turn_attempt rfl (fun _ => rfl) fun next id accepted => turn_accept accepted
  | reject area =>
    refine turn_attempt rfl (fun _ => rfl) fun next removed rejected => ?_
    rw [reject_eq_ok rejected]
    exact turn_tells (tells_of_eq rfl rfl rfl rfl rfl) rfl rfl rfl rfl
  | acceptAll => exact turn_acceptAll state
  | addVersions versions =>
    exact turn_tells (tells_of_eq rfl rfl rfl rfl rfl) rfl rfl rfl rfl
  | toggleDraft => exact turn_toggleDraft state
  | autosave now => exact turn_autosave state now
  | refuseDrafts value =>
    exact turn_tells (tells_of_eq rfl rfl rfl rfl rfl) rfl rfl rfl rfl
  | select area =>
    refine turn_attemptDone rfl (fun _ => rfl) fun next selected => ?_
    rw [(select_eq_ok selected).2]
    exact turn_tells (tells_selectionTold rfl rfl rfl rfl) rfl rfl rfl rfl
  | toggle area =>
    refine turn_attempt rfl (fun _ => rfl) fun next value toggled => ?_
    obtain ⟨_, -, made⟩ := toggle_eq_ok toggled
    rw [made]
    exact turn_tells (tells_selectionTold rfl rfl rfl rfl) rfl rfl rfl rfl
  | unselectAll =>
    rw [perform, unselectAll]
    split
    · exact turn_same rfl rfl
    · exact turn_tells (tells_selectionTold rfl rfl rfl rfl) rfl rfl rfl rfl
  | setGroundTruth value =>
    have marked : state.Tells { state with groundTruth := value } :=
      tells_of_eq rfl rfl rfl rfl rfl
    exact turn_tells (marked.trans (tells_fire _ _ rfl)) rfl rfl rfl rfl
  | setEditable value =>
    exact turn_tells (tells_of_eq rfl rfl rfl rfl rfl) rfl rfl rfl rfl
  | setKey key => exact turn_tells (tells_of_eq rfl rfl rfl rfl rfl) rfl rfl rfl rfl
  | relate source target =>
    refine turn_attempt rfl (fun _ => rfl) fun next value related => ?_
    have turn : state.Turn (.relate source target) (answered (state.withRelations
        (state.relations.insert { first := source, second := target }) (· == true)) .flag) :=
      turn_withRelations _ rfl (fun value => (beq_true value).symm) rfl
    rw [← relate_eq_ok related] at turn
    exact turn
  | unrelate place =>
    exact turn_withRelations _ rfl (fun value => (beq_true value).symm) rfl
  | rotateRelation place => exact turn_withRelations _ rfl (fun _ => rfl) rfl
  | labelRelation place labels =>
    exact turn_withRelations _ rfl (fun value => (beq_true value).symm) rfl
  | unrelateArea area => exact turn_withRelations _ rfl (fun _ => rfl) rfl
  | undo => exact turn_travel _ rfl (fun _ => rfl) rfl
  | redo => exact turn_travel _ rfl (fun _ => rfl) rfl
  | reset => exact turn_travel _ rfl (fun _ => rfl) rfl
  | resetHistory =>
    exact ⟨rfl, rfl, rfl, fun _ _ => rfl, fun _ => ⟨[], (List.append_nil _).symm, rfl⟩⟩

end AnnotationState
end Labeling
