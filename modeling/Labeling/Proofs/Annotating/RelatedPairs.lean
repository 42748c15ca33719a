import Labeling.Proofs.Annotating.SuggestedRelations
import Labeling.Proofs.Annotating.Turns

/-!
# Two areas are related at most once

Relations come in by being related, loaded or promoted, and each time it is asked whether their pair
is joined already; they change their direction and labels but never their ends, and undoing restores
relations that were there before. So the relations of an annotation join different areas, and no two
of them the same ones (`Related.perform`). The suggested relations are moved without a question;
they stay apart because a suggestion moves only to an id that is new (`run_related_once`).
-/
namespace Labeling

/-- The areas that a relation joins, in its order. -/
def Relation.ends (relation : Relation) : AreaId × AreaId := (relation.first, relation.second)

namespace Relations

variable {owner : String} {relations : Relations}

/-- Whether relations are joined is decided by their ends. -/
theorem Joined.of_ends (joined : relations.Joined owner) {others : Relations}
    (same : others.map Relation.ends = relations.map Relation.ends) : others.Joined owner := by
  have source {relation : Relation} (member : relation ∈ others) :
      ∃ former ∈ relations, former.first = relation.first ∧ former.second = relation.second := by
    have listed : relation.ends ∈ relations.map Relation.ends :=
      same ▸ List.mem_map_of_mem member
    obtain ⟨former, inside, ends⟩ := List.mem_map.mp listed
    exact ⟨former, inside, Prod.mk.inj ends⟩
  -- Both lists are read through their ends, so that they are the same list.
  have read (list : Relations) :
      (list.Pairwise fun earlier later => earlier.connects later.first later.second = false) ↔
        (list.map Relation.ends).Pairwise fun earlier later =>
          Relation.connects ⟨earlier.1, earlier.2, .right, none⟩ later.1 later.2 = false := by
    rw [List.pairwise_map]
    exact Iff.rfl
  refine ⟨fun relation member => ?_, fun relation member => ?_, ?_⟩
  · obtain ⟨former, inside, first, second⟩ := source member
    have owned := joined.owner former inside
    rwa [first, second] at owned
  · obtain ⟨former, inside, first, second⟩ := source member
    have apart := joined.apart former inside
    rwa [first, second] at apart
  · rw [read, same, ← read]
    exact joined.distinct

/-- A relation changed apart from its ends leaves relations joined. -/
theorem Joined.set (joined : relations.Joined owner) {place : Nat} {relation changed : Relation}
    (found : relations[place]? = some relation) (ends : changed.ends = relation.ends) :
    Joined owner (List.set relations place changed) := by
  refine joined.of_ends ?_
  have stays : (relations.map Relation.ends)[place]? = some changed.ends := by
    simp [found, ends]
  obtain ⟨inside, value⟩ := List.getElem?_eq_some_iff.mp stays
  rw [List.map_set, ← value, List.set_getElem_self]

/-- Joined relations stay joined as others between areas of the annotation are added. -/
theorem Joined.addAll (joined : relations.Joined owner) {additions : Relations}
    (owned : ∀ relation ∈ additions,
      relation.first.owner = owner ∧ relation.second.owner = owner) :
    (relations.addAll additions).Joined owner := by
  induction additions generalizing relations with
  | nil => exact joined
  | cons relation rest hypothesis =>
    have ends := owned relation List.mem_cons_self
    have inserted := joined.insert ends.1 ends.2
    exact hypothesis inserted fun other member => owned other (List.mem_cons_of_mem _ member)

/-- A turned relation leaves relations joined. -/
theorem Joined.rotate (joined : relations.Joined owner) (place : Nat) :
    (relations.rotate place).1.Joined owner := by
  unfold Relations.rotate
  split
  · exact joined
  · rename_i relation found
    exact joined.set found rfl

/-- A labelled relation leaves relations joined. -/
theorem Joined.setLabels (joined : relations.Joined owner) (place : Nat) (labels : List String) :
    (relations.setLabels place labels).1.Joined owner := by
  unfold Relations.setLabels
  split
  · exact joined
  · rename_i relation found
    exact joined.set found rfl

end Relations

namespace AnnotationState

variable {state next : AnnotationState}

/-! ## Operations that decide on no suggestion -/

/-- Joined relations of an annotation stay joined. -/
structure StaysJoined (state next : AnnotationState) : Prop where
  /-- The id of the annotation stays. -/
  id : next.id = state.id
  /-- The relations are joined if they were. -/
  joined : state.relations.Joined state.id → next.relations.Joined state.id

/-- The same relations stay joined. -/
theorem staysJoined_of_eq (id : next.id = state.id) (relations : next.relations = state.relations) :
    state.StaysJoined next where
  id := id
  joined before := relations ▸ before

/-- What stays joined twice stays joined. -/
theorem StaysJoined.trans {last : AnnotationState} (first : state.StaysJoined next)
    (second : next.StaysJoined last) : state.StaysJoined last where
  id := second.id.trans first.id
  joined before := first.id ▸ second.joined (first.id ▸ first.joined before)

/-- An operation that may fail leaves relations joined if it does so where it succeeds. -/
theorem staysJoined_attempt {α : Type} {result : Except Failure (AnnotationState × α)}
    {answer : α → Answer}
    (stays : ∀ next value, result = .ok (next, value) → state.StaysJoined next) :
    state.StaysJoined (state.attempt result answer).1 := by
  cases result with
  | ok success => exact stays _ _ rfl
  | error failure => exact staysJoined_of_eq rfl rfl

/-- The same for operations without a value. -/
theorem staysJoined_attemptDone {result : Except Failure AnnotationState}
    (stays : ∀ next, result = .ok next → state.StaysJoined next) :
    state.StaysJoined (state.attemptDone result).1 := by
  cases result with
  | ok success => exact stays _ rfl
  | error failure => exact staysJoined_of_eq rfl rfl

/-- Recording leaves the relations. -/
theorem staysJoined_recorded (state : AnnotationState) : state.StaysJoined state.recorded :=
  staysJoined_of_eq rfl rfl

/-- The removal of superseded classifications leaves the relations. -/
theorem staysJoined_cleaned (state : AnnotationState) : state.StaysJoined state.cleaned.1 := by
  obtain ⟨selection, controlValues, made⟩ := cleaned_eq state
  rw [made]
  exact staysJoined_of_eq rfl rfl

/-- A created area leaves the relations. -/
theorem staysJoined_withCreated (state : AnnotationState) (area : Area) :
    state.StaysJoined (state.withCreated area) := by
  unfold withCreated
  dsimp only
  split
  · exact staysJoined_of_eq rfl rfl
  · split
    · exact staysJoined_of_eq rfl rfl
    · exact staysJoined_of_eq rfl rfl

/-- Creating an area leaves the relations. -/
theorem staysJoined_create {shape : Shape} {value : Value} {control object : String} {id : AreaId}
    (created : state.create shape value control object = .ok (next, id)) :
    state.StaysJoined next := by
  obtain ⟨controlElement, objectElement, session, -, -, -, -, made⟩ :=
    create_eq_withCreated created
  let named : AnnotationState := { state with session := session }
  have begun : state.StaysJoined named := staysJoined_of_eq rfl rfl
  rw [made]
  exact ((begun.trans (staysJoined_withCreated named _)).trans (staysJoined_cleaned _)).trans
    (staysJoined_recorded _)

/-- A deleted area leaves the relations. -/
theorem staysJoined_delete {id : AreaId} {area : Area}
    (deleted : state.delete id = .ok (next, area)) : state.StaysJoined next := by
  simp only [delete, Except.bind_eq_ok] at deleted
  obtain ⟨found, -, deleted⟩ := deleted
  simp only [pure, Except.pure, Except.ok.injEq, Prod.mk.injEq] at deleted
  obtain ⟨made, -⟩ := deleted
  split at made
  · exact made ▸ staysJoined_of_eq rfl rfl
  · exact made ▸ staysJoined_of_eq rfl rfl

/-- A cleared annotation has no relations. -/
theorem staysJoined_cleared (state : AnnotationState) : state.StaysJoined state.cleared := by
  have none : state.cleared.relations = [] := by
    unfold cleared
    dsimp only
    split
    · rfl
    · rfl
  exact ⟨(continues_cleared state).id, fun _ => none ▸ .nil state.id⟩

/-- Notifications leave the relations. -/
theorem staysJoined_foldl_fire (events : List AreaId) (state : AnnotationState) :
    state.StaysJoined (events.foldl (fun state id => state.fire (.deleted id)) state) := by
  induction events generalizing state with
  | nil => exact staysJoined_of_eq rfl rfl
  | cons event rest hypothesis =>
    have fired : state.StaysJoined (state.fire (.deleted event)) := staysJoined_of_eq rfl rfl
    exact fired.trans (hypothesis _)

/-- Applied results leave the relations, also where one fails. -/
theorem staysJoined_applyResults (options : LoadOptions) (items : List WireResult)
    (state : AnnotationState) : state.StaysJoined (applyResults options state items).1 := by
  induction items generalizing state with
  | nil => exact staysJoined_of_eq rfl rfl
  | cons item rest hypothesis =>
    unfold applyResults
    split
    · rename_i next applied
      have id := (continues_applyResult applied).id
      obtain ⟨object, control, -, -, made⟩ := applyResult_eq_ok applied
      have relations : next.relations = state.relations := by
        rw [made, itemId]
        split
        · rfl
        · rfl
      exact (staysJoined_of_eq id relations).trans (hypothesis _)
    · exact staysJoined_of_eq rfl rfl

/-- Loaded relations are added one by one. -/
theorem staysJoined_applyItems (options : LoadOptions) (state : AnnotationState)
    (items : List WireItem) : state.StaysJoined (applyItems options state items).1 := by
  have results := staysJoined_applyResults options
    (WireItem.results (Repair.items state.tree items)) state
  unfold applyItems
  dsimp only
  split
  · rename_i applied
    rw [applied] at results
    exact results
  · rename_i loaded applied
    rw [applied] at results
    split
    · exact results.trans (staysJoined_of_eq rfl rfl)
    · exact results.trans ⟨rfl, fun before => joined_addRelations before _⟩

/-- A load of items leaves joined relations. -/
theorem staysJoined_loadItems (state : AnnotationState) (items : List WireItem)
    (options : LoadOptions) : state.StaysJoined (state.loadItems items options).1 := by
  have begun : state.StaysJoined state.frozen := staysJoined_of_eq rfl rfl
  obtain ⟨-, id, -, -, relations⟩ := finishLoad_keeps (applyItems options state.frozen items)
  exact (begun.trans (staysJoined_applyItems options state.frozen items)).trans
    (staysJoined_of_eq id relations)

/-- A load of a payload leaves joined relations, also where the payload cannot be read. -/
theorem staysJoined_load (state : AnnotationState) (payload : Json) (options : LoadOptions) :
    state.StaysJoined (state.load payload options).1 := by
  unfold load
  split
  · exact staysJoined_loadItems state _ options
  · rename_i fault _
    obtain ⟨-, id, -, -, relations⟩ :=
      finishLoad_keeps (state.frozen, some (.malformedPayload fault))
    exact staysJoined_of_eq id relations

/-- Switching between draft and result loads into an annotation without relations. -/
theorem staysJoined_toggleDraft (state : AnnotationState) :
    state.StaysJoined state.toggleDraft.1 := by
  unfold toggleDraft
  split
  · exact staysJoined_of_eq rfl rfl
  · let switched := { state with draftSelected := !state.draftSelected }
    have turned : state.StaysJoined switched := staysJoined_of_eq rfl rfl
    have begun (made : AnnotationState) : made.StaysJoined made.resetHistory :=
      staysJoined_of_eq rfl rfl
    exact ((turned.trans (staysJoined_cleared switched)).trans (staysJoined_load _ _ _)).trans
      (begun _)

/-- Changed relations are joined if the change keeps that. -/
theorem staysJoined_withRelations {α : Type} {result : Relations × α} {hasChanged : α → Bool}
    (stays : state.relations.Joined state.id → result.1.Joined state.id) :
    state.StaysJoined (state.withRelations result hasChanged).1 := by
  unfold withRelations
  split
  · exact ⟨rfl, stays⟩
  · exact staysJoined_of_eq rfl rfl

/-- Related areas are areas of the annotation. -/
theorem staysJoined_relate (sound : state.Sound) {source target : AreaId} {value : Bool}
    (related : state.relate source target = .ok (next, value)) : state.StaysJoined next := by
  have owned {id : AreaId} {area : Area} (found : state.areas.get? id = some area) :
      id.owner = state.id := by
    have member := Entries.mem_of_get? found
    have key : area.id = id := sound.areas.keys _ member
    exact key ▸ (sound.areas.each _ member).owner
  simp only [relate, Except.bind_eq_ok, liveArea_eq_ok] at related
  obtain ⟨first, firstFound, second, secondFound, made⟩ := related
  have performed : (state.withRelations
      (state.relations.insert { first := source, second := target }) (· == true)).1 = next :=
    congrArg Prod.fst (Except.ok.inj made)
  rw [← performed]
  exact staysJoined_withRelations fun before => before.insert (owned firstFound) (owned secondFound)

/-- An autosave leaves the relations. -/
theorem staysJoined_autosave (state : AnnotationState) (now : Nat) :
    state.StaysJoined (state.autosave now).1 := by
  unfold autosave
  split
  · exact staysJoined_of_eq rfl rfl
  · split
    · exact staysJoined_of_eq rfl rfl
    · dsimp only
      split
      · exact staysJoined_of_eq rfl rfl
      · exact staysJoined_of_eq rfl rfl

/-- Changing an area leaves the relations. -/
theorem staysJoined_changeLive {id : AreaId} {change : Area → Area}
    (changed : state.changeLive id change = .ok next) : state.StaysJoined next := by
  rw [changeLive_eq_ok changed]
  exact staysJoined_of_eq rfl rfl

/-! ## Every operation -/

/-- What holds of the relations of an annotation between two operations of a fresh run. -/
structure Related (state : AnnotationState) : Prop where
  /-- What waits is in order. -/
  waits : state.Waits
  /-- The relations join different areas, and no two of them the same ones. -/
  joined : state.relations.Joined state.id
  /-- So do the relations of every state that the history may hand out. -/
  held : ∀ held, state.history.Holds held → held.relations.Joined state.id

/-- The restored relations are those of a state that the history holds. -/
theorem Related.travel (related : state.Related) {result : History Snapshot × Option Snapshot}
    (handed : ∀ held, result.2 = some held → state.history.Holds held) :
    state.StaysJoined (state.travel result).1 := by
  unfold AnnotationState.travel
  split
  · rename_i snapshot found
    have fits := related.held snapshot (handed snapshot found)
    obtain ⟨told, made, continues, restored⟩ :=
      restore_eq { state with history := result.1 } snapshot
    have relations : told.relations = snapshot.relations := congrArg Snapshot.relations restored
    have id : told.id = state.id := continues.id
    rw [made]
    exact ⟨id, fun _ => relations ▸ fits⟩
  · exact staysJoined_of_eq rfl rfl

/-- The relations of an accepted suggestion are promoted at its new id. -/
theorem Related.accept (related : state.Related) {id : AreaId}
    (new : ∀ made ∈ state.madeUpIds (.accept id), state.mentions made = false) :
    state.StaysJoined (state.perform (.accept id)).1 := by
  cases found : state.suggestions.get? id with
  | none =>
    rw [perform_accept_of_none found]
    exact staysJoined_of_eq rfl rfl
  | some area =>
    obtain ⟨named, -, accepted⟩ := accepted_perform related.waits.wellFormed.sound found
    have moved := related.waits.joined_retarget found new
    refine ⟨accepted.id, fun before => ?_⟩
    rw [accepted.relations, named]
    exact before.addAll fun relation member => moved.owner relation (List.mem_filter.mp member).1

/-- Suggestions become areas without a change of the relations. -/
theorem relations_acceptAreas (pending : List Area) (state : AnnotationState) :
    (state.acceptAreas pending).relations = state.relations := by
  induction pending generalizing state with
  | nil => rfl
  | cons area rest hypothesis =>
    obtain ⟨-, moved⟩ := acceptArea_eq_acceptedId state area
    have step : (state.acceptArea area).1.relations = state.relations := by rw [moved]
    exact (hypothesis _).trans step

/-- The relations of all suggestions are promoted together. -/
theorem Related.acceptAll (related : state.Related)
    (new : ∀ id ∈ state.madeUpIds .acceptAll, state.mentions id = false) :
    state.StaysJoined (state.perform .acceptAll).1 := by
  obtain ⟨selection, controlValues, performed⟩ := perform_acceptAll state
  have moved : state.allAccepted.suggestedRelations.Joined state.id :=
    related.waits.joined_allAccepted new
  have kept : state.allAccepted.relations = state.relations := relations_acceptAreas _ _
  rw [promoteRelations_eq] at performed
  refine ⟨performed ▸ id_allAccepted state, fun before => ?_⟩
  rw [performed]
  show Relations.Joined state.id (state.allAccepted.relations.addAll _)
  rw [kept]
  exact before.addAll fun relation member => moved.owner relation (List.mem_filter.mp member).1

/-- Every operation that makes up new ids only leaves joined relations. -/
theorem Related.staysJoined (related : state.Related) {operation : Operation}
    (new : ∀ id ∈ state.madeUpIds operation, state.mentions id = false) :
    state.StaysJoined (state.perform operation).1 := by
  cases operation with
  | create shape value control object =>
    exact staysJoined_attempt fun next id created => staysJoined_create created
  | addResult area control value =>
    refine staysJoined_attemptDone fun next added => ?_
    obtain ⟨element, -, made⟩ := addResult_eq_ok added
    exact made ▸ staysJoined_of_eq rfl rfl
  | updateValue area control value =>
    exact staysJoined_attemptDone fun next updated =>
      updateValue_eq_ok updated ▸ staysJoined_of_eq rfl rfl
  | updateShape area shape => exact staysJoined_attemptDone fun _ => staysJoined_changeLive
  | setParent area parent => exact staysJoined_attemptDone fun _ => staysJoined_changeLive
  | setReadonly area value => exact staysJoined_attemptDone fun _ => staysJoined_changeLive
  | setHidden area value => exact staysJoined_attemptDone fun _ => staysJoined_changeLive
  | delete area => exact staysJoined_attempt fun next removed deleted => staysJoined_delete deleted
  | deleteAll =>
    exact ((staysJoined_cleared state).trans (staysJoined_foldl_fire _ _)).trans
      (staysJoined_recorded _)
  | clean => exact staysJoined_cleaned state
  | load payload options => exact staysJoined_load state payload options
  | loadItems items options => exact staysJoined_loadItems state items options
  | accept area => exact related.accept new
  | reject area =>
    refine staysJoined_attempt fun next removed rejected => ?_
    rw [reject_eq_ok rejected]
    exact staysJoined_of_eq rfl rfl
  | acceptAll => exact related.acceptAll new
  | addVersions versions => exact staysJoined_of_eq rfl rfl
  | toggleDraft => exact staysJoined_toggleDraft state
  | autosave now => exact staysJoined_autosave state now
  | refuseDrafts value => exact staysJoined_of_eq rfl rfl
  | select area =>
    refine staysJoined_attemptDone fun next selected => ?_
    rw [(select_eq_ok selected).2]
    exact staysJoined_of_eq rfl rfl
  | toggle area =>
    refine staysJoined_attempt fun next value toggled => ?_
    obtain ⟨selection, -, made⟩ := toggle_eq_ok toggled
    rw [made]
    exact staysJoined_of_eq rfl rfl
  | unselectAll =>
    rw [perform, unselectAll]
    split
    · exact staysJoined_of_eq rfl rfl
    · exact staysJoined_of_eq rfl rfl
  | setGroundTruth value => exact staysJoined_of_eq rfl rfl
  | setEditable value => exact staysJoined_of_eq rfl rfl
  | setKey key => exact staysJoined_of_eq rfl rfl
  | relate source target =>
    have sound := related.waits.wellFormed.sound
    exact staysJoined_attempt fun next value done => staysJoined_relate sound done
  | unrelate place =>
    have sublist : (state.relations.delete place).1.Sublist state.relations :=
      List.eraseIdx_sublist _ _
    exact staysJoined_withRelations fun before => before.sublist sublist
  | rotateRelation place => exact staysJoined_withRelations fun before => before.rotate place
  | labelRelation place labels =>
    exact staysJoined_withRelations fun before => before.setLabels place _
  | unrelateArea area =>
    have sublist : (state.relations.deleteArea area).1.Sublist state.relations :=
      List.filter_sublist
    exact staysJoined_withRelations fun before => before.sublist sublist
  | undo => exact related.travel fun held => History.holds_undo.2
  | redo => exact related.travel fun held => History.holds_redo.2
  | reset => exact related.travel fun held => History.holds_reset.2
  | resetHistory => exact staysJoined_of_eq rfl rfl

/-- The history holds nothing but what it held before an operation and what the operation made. The
removal of superseded classifications by itself records nothing. -/
theorem holds_of_holds_perform {operation : Operation} {held : Snapshot}
    (holds : (state.perform operation).1.history.Holds held) :
    state.history.Holds held ∨ held = (state.perform operation).1.snapshot := by
  by_cases direct : operation = .clean
  · subst direct
    have stays : (state.perform .clean).1.history = state.history :=
      (continues_cleaned state).history
    exact Or.inl (stays ▸ holds)
  · exact (perform_outcome state direct).holds holds

/-- Every operation that makes up new ids only keeps what holds of the relations. -/
theorem Related.perform (related : state.Related) {operation : Operation}
    (new : ∀ id ∈ state.madeUpIds operation, state.mentions id = false) :
    (state.perform operation).1.Related := by
  have stays := related.staysJoined new
  have joined := stays.joined related.joined
  refine ⟨related.waits.perform new, stays.id ▸ joined, fun held holds => ?_⟩
  rw [stays.id]
  rcases holds_of_holds_perform holds with before | made
  · exact related.held held before
  · exact made ▸ joined

/-- Whatever operations are carried out on an annotation of a bound tree, if the ids that they make
up are new, then its relations and its suggested relations join areas of the annotation, each of
them two different ones, and no two of them the same ones. The same holds of the relations that
undoing, redoing and resetting may restore. -/
theorem run_related_once (id : String) (kind : AnnotationKind) (config : ConfigTree)
    (catalogue : Catalogue) (task : Option Json) (settings : Settings) (session : Session)
    (operations : List Operation) :
    let begun := start id kind (.ofConfig config catalogue task) settings session
    let state := begun.run operations
    begun.isFresh operations = true →
      state.relations.Joined state.id ∧ state.suggestedRelations.Joined state.id ∧
        ∀ held, state.history.Holds held → held.relations.Joined state.id := by
  intro begun state fresh
  have starts : begun.Related := by
    refine ⟨waits_start id kind config catalogue task settings session, .nil id, ?_⟩
    intro held holds
    rw [History.Holds.of_attach holds]
    exact .nil id
  have related : state.Related :=
    run_keeps_of_isFresh fresh (fun _ before _ _ new => before.perform new) starts
  exact ⟨related.joined, related.waits.joined, related.held⟩

/-- A relation item that a payload may hold. -/
def linkItem (source target : String) : WireItem :=
  .relation { fromId := source, toId := target }

/-- Two spans with links between them, in both directions, from one to itself and to no area. -/
def linkedSpans : List WireItem :=
  [spanItem "p", spanItem "q", linkItem "p" "q", linkItem "q" "p", linkItem "p" "p",
    linkItem "p" "nowhere"]

/-- The spans are loaded, and suggested as well, so that their ids are taken when the suggestions
are accepted; then the run goes back, forth and to a draft of the same spans. -/
def linksThereAndBack : List Operation := [
  .loadItems linkedSpans {}, .addVersions { draft := some (linkedSpans.map WireItem.toJson) },
  .loadItems linkedSpans { suggestions := true },
  .accept ⟨"p", "1"⟩, .accept ⟨"q", "1"⟩, .relate ⟨"q", "1"⟩ ⟨"p", "1"⟩, .rotateRelation 0,
  .undo, .undo, .redo, .toggleDraft, .loadItems linkedSpans { suggestions := true }, .reset]

set_option maxRecDepth 10000 in
/-- The links of such a run join each pair once. -/
theorem linksThereAndBack_once :
    let begun := start "1" .manual (.ofConfig moodConfig .standard none) {} {}
    let state := begun.run linksThereAndBack
    begun.isFresh linksThereAndBack = true ∧
      state.relations.Joined state.id ∧ state.suggestedRelations.Joined state.id ∧
      ∀ held, state.history.Holds held → held.relations.Joined state.id := by
  intro begun state
  have fresh : begun.isFresh linksThereAndBack = true := by
    rw [show begun = start "1" .manual moodTree {} {} by rw [← ofConfig_moodConfig]]
    decide +kernel
  exact ⟨fresh,
    run_related_once "1" .manual moodConfig .standard none {} {} linksThereAndBack fresh⟩

end AnnotationState
end Labeling
