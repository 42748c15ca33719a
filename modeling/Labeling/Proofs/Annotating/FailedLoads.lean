import Labeling.Proofs.Annotating.Origins
import Labeling.Proofs.Annotating.Reloading
import Labeling.Proofs.Annotating.Undoing

/-!
# Loads that fail

A load adds its repaired results in order and stops at the first one that cannot be added. Up to
there it has done what a load of the results before does; relations would only come behind all
results, and none is added. A payload with a value that is no item adds nothing at all. Either way
there is one more problem, and the load is one step of the history: `run_failing_load`.
-/
namespace Labeling

/-- Recording a state makes a history longer by one state at most. -/
theorem History.length_record_le {α : Type} [BEq α] (history : History α) (state : α) :
    (history.record state).1.states.length ≤ history.states.length + 1 := by
  have trimmed_le (limit : Option Nat) (states : List α) :
      (trimmed limit states).length ≤ states.length := by
    cases limit with
    | none => exact Nat.le_refl _
    | some most => exact (List.drop_sublist _ states).length_le
  rw [record]
  split
  · exact Nat.le_succ _
  · split
    · exact Nat.le_succ _
    · split
      · exact Nat.succ_le_succ (Nat.zero_le _)
      · split
        · exact Nat.le_succ _
        · refine (trimmed_le _ _).trans ?_
          rw [List.length_append, List.length_singleton]
          exact Nat.succ_le_succ (List.take_sublist _ _).length_le

namespace AnnotationState

variable {state next : AnnotationState} {options : LoadOptions} {failure : Failure}

/-! ## Where a load stops -/

/-- The repaired form of an item that is kept as a result. -/
def repairedResult? (tree : ElementTree) : WireItem → Option WireResult
  | .result item => Repair.result? tree item
  | .relation _ => none

/-- The repaired results are the repaired forms of the items that are kept as results. -/
theorem results_repaired (tree : ElementTree) (items : List WireItem) :
    WireItem.results (Repair.items tree items) = items.filterMap (repairedResult? tree) := by
  rw [WireItem.results, Repair.items, List.filterMap_filterMap]
  congr 1
  funext item
  cases item with
  | relation item => rfl
  | result item =>
    cases repaired : Repair.result? tree item with
    | none => simp [Repair.item?, repairedResult?, repaired]
    | some fixed => simp [Repair.item?, repairedResult?, repaired]

/-- Without its relations a payload has the same repaired results. -/
theorem results_repaired_results (tree : ElementTree) (items : List WireItem) :
    WireItem.results (Repair.items tree ((WireItem.results items).map .result)) =
      WireItem.results (Repair.items tree items) := by
  rw [results_repaired, results_repaired, List.filterMap_map, WireItem.results,
    List.filterMap_filterMap]
  congr 1
  funext item
  cases item with
  | result item => rfl
  | relation item => rfl

/-- Results that cannot all be added stop at the first one that cannot. -/
theorem exists_stop_of_applyResults {items : List WireResult}
    (stopped : applyResults options state items = (next, some failure)) :
    ∃ added item rest, items = added ++ item :: rest ∧
      applyResults options state added = (next, none) ∧
      applyResult options next item = .error failure := by
  induction items generalizing state with
  | nil => cases stopped
  | cons item rest hypothesis =>
    rw [applyResults] at stopped
    split at stopped
    · rename_i following applied
      obtain ⟨added, failing, later, whole, before, fails⟩ := hypothesis stopped
      refine ⟨item :: added, failing, later, congrArg (item :: ·) whole, ?_, fails⟩
      rw [applyResults, applied]
      exact before
    · rename_i cause fails
      cases stopped
      exact ⟨[], item, rest, rfl, rfl, fails⟩

/-- A load stops at a result item: all repaired results before it are added, and the repaired form
of this one cannot be. -/
structure StopsAt (state : AnnotationState) (options : LoadOptions) (before : List WireItem)
    (item : WireResult) (failure : Failure) : Prop where
  /-- The results before can be added. -/
  added : (applyResults options state.frozen
    (WireItem.results (Repair.items state.tree before))).2 = none
  /-- The repaired form of the item cannot be added behind them. -/
  fails : ∃ fixed, Repair.result? state.tree item = some fixed ∧
    applyResult options (Loading.applied ⟨state, before, options⟩) fixed = .error failure

/-- The results of a load that stops are those before the item at which it does. -/
theorem StopsAt.applyResults_eq {before after : List WireItem} {item : WireResult}
    (stops : state.StopsAt options before item failure) :
    applyResults options state.frozen
        (WireItem.results (Repair.items state.tree (before ++ .result item :: after))) =
      (Loading.applied ⟨state, before, options⟩, some failure) := by
  obtain ⟨added, fixed, repaired, fails⟩ := stops
  have added : applyResults options state.frozen
      (WireItem.results (Repair.items state.tree before)) =
        (Loading.applied ⟨state, before, options⟩, none) := Prod.ext rfl added
  have split : WireItem.results (Repair.items state.tree (before ++ .result item :: after)) =
      WireItem.results (Repair.items state.tree before) ++
        fixed :: after.filterMap (repairedResult? state.tree) := by
    have kept : repairedResult? state.tree (.result item) = some fixed := repaired
    rw [results_repaired, results_repaired, List.filterMap_append,
      List.filterMap_cons_some kept]
  rw [split, applyResults_append added, applyResults, fails]

/-- The results of a payload that cannot all be added stop at a result item of the payload. -/
theorem exists_stopsAt_of_applyResults {items : List WireItem}
    (stopped : applyResults options state.frozen
      (WireItem.results (Repair.items state.tree items)) = (next, some failure)) :
    ∃ before item after, items = before ++ .result item :: after ∧
      state.StopsAt options before item failure := by
  obtain ⟨added, fixed, rest, whole, before, fails⟩ := exists_stop_of_applyResults stopped
  rw [results_repaired, List.filterMap_eq_append_iff] at whole
  obtain ⟨first, second, same, firstAdded, secondKept⟩ := whole
  obtain ⟨dropped, item, after, sameSecond, each, kept, -⟩ :=
    List.filterMap_eq_cons_iff.mp secondKept
  have results : WireItem.results (Repair.items state.tree (first ++ dropped)) = added := by
    rw [results_repaired, List.filterMap_append, firstAdded,
      List.filterMap_eq_nil_iff.mpr each, List.append_nil]
  have applied : Loading.applied ⟨state, first ++ dropped, options⟩ = next := by
    show (applyResults options state.frozen
      (WireItem.results (Repair.items state.tree (first ++ dropped)))).1 = next
    rw [results, before]
  cases item with
  | relation item => cases kept
  | result item =>
    refine ⟨first ++ dropped, item, after, ?_, ?_, fixed, kept, ?_⟩
    · rw [same, sameSecond, List.append_assoc]
    · rw [results, before]
    · rw [applied]
      exact fails

/-- A load answers whether all repaired results could be added. -/
theorem answer_loadItems (state : AnnotationState) (items : List WireItem)
    (options : LoadOptions) : (state.loadItems items options).2 =
      (applyResults options state.frozen
        (WireItem.results (Repair.items state.tree items))).2.isNone := by
  have tree : state.frozen.tree = state.tree := rfl
  rw [loadItems, applyItems, tree]
  dsimp only
  split
  · rename_i stopped
    rw [stopped]
    rfl
  · rename_i added
    rw [added]
    split
    · rfl
    · rfl

/-- A load answers that not everything could be added just when it stops at a result item. -/
theorem loadItems_eq_false_iff (state : AnnotationState) (items : List WireItem)
    (options : LoadOptions) : (state.loadItems items options).2 = false ↔
      ∃ before item after failure, items = before ++ .result item :: after ∧
        state.StopsAt options before item failure := by
  rw [answer_loadItems]
  constructor
  · intro refused
    obtain ⟨failure, fails⟩ := Option.isSome_iff_exists.mp (Option.isNone_eq_false_iff.mp refused)
    obtain ⟨before, item, after, whole, stops⟩ :=
      exists_stopsAt_of_applyResults (Prod.ext rfl fails)
    exact ⟨before, item, after, failure, whole, stops⟩
  · rintro ⟨before, item, after, failure, whole, stops⟩
    rw [whole, stops.applyResults_eq]
    rfl

/-! ## What a load that fails leaves -/

/-- Adding a result leaves the relations and the problems alone. -/
theorem applyResult_keeps {item : WireResult}
    (applied : applyResult options state item = .ok next) :
    next.relations = state.relations ∧ next.suggestedRelations = state.suggestedRelations ∧
      next.issues = state.issues := by
  obtain ⟨_, _, -, -, made⟩ := applyResult_eq_ok applied
  rw [made, itemId]
  split
  · exact ⟨rfl, rfl, rfl⟩
  · exact ⟨rfl, rfl, rfl⟩

/-- Adding results leaves the relations and the problems alone, also where one fails. -/
theorem applyResults_keeps (options : LoadOptions) (items : List WireResult)
    (state : AnnotationState) :
    let next := (applyResults options state items).1
    next.relations = state.relations ∧ next.suggestedRelations = state.suggestedRelations ∧
      next.issues = state.issues := by
  induction items generalizing state with
  | nil => exact ⟨rfl, rfl, rfl⟩
  | cons item rest hypothesis =>
    intro next
    subst next
    rw [applyResults]
    split
    · rename_i following applied
      obtain ⟨relations, suggestedRelations, issues⟩ := applyResult_keeps applied
      obtain ⟨laterRelations, laterSuggested, laterIssues⟩ := hypothesis following
      exact ⟨laterRelations.trans relations, laterSuggested.trans suggestedRelations,
        laterIssues.trans issues⟩
    · exact ⟨rfl, rfl, rfl⟩

/-- What a load that fails makes of the rest of an annotation, beside its areas and suggestions. -/
structure FailsLoading (state : AnnotationState) (failure : Failure) (next : AnnotationState) :
    Prop where
  /-- No relation is added. -/
  relations : next.relations = state.relations
  /-- No suggested relation is added. -/
  suggestedRelations : next.suggestedRelations = state.suggestedRelations
  /-- The failure is one more problem. -/
  issues : next.issues =
    state.issues ++ [Issue.error .general failure.message (.resultsOf state.id)]
  /-- What came before the failure is recorded as one step. -/
  history : next.history = (state.history.record next.snapshot).1
  /-- The history is longer by one state at most. -/
  length : next.history.states.length ≤ state.history.states.length + 1
  /-- Recording is not suspended any more. -/
  thawed : next.history.frozen = 0

/-- A load that ends with a failure notes it, and ends the batch. -/
theorem finishLoad_eq_of_failure (changed : AnnotationState) (failure : Failure) :
    ∃ controlValues revision, (finishLoad (changed, some failure)).1 = { changed with
      controlValues := controlValues
      revision := revision
      issues := changed.issues ++ [Issue.error .general failure.message (.resultsOf changed.id)]
      history := (changed.history.unfreeze changed.snapshot).1 } :=
  ⟨_, _, rfl⟩

/-- A load that ends with a failure, once nothing but areas and suggestions has been added. -/
theorem failsLoading_finishLoad {changed : AnnotationState} (records : state.history.Records)
    (continues : state.frozen.Continues changed) (relations : changed.relations = state.relations)
    (suggestedRelations : changed.suggestedRelations = state.suggestedRelations)
    (issues : changed.issues = state.issues) (failure : Failure) :
    state.FailsLoading failure (finishLoad (changed, some failure)).1 := by
  obtain ⟨controlValues, revision, ended⟩ := finishLoad_eq_of_failure changed failure
  have frozen : changed.history = state.history.freeze := continues.history
  have history : (changed.history.unfreeze changed.snapshot).1 =
      (state.history.record changed.snapshot).1 := by
    rw [frozen]
    exact congrArg Prod.fst (records.unfreeze_freeze changed.snapshot)
  have owner : changed.id = state.id := continues.id
  rw [ended, history]
  refine ⟨relations, suggestedRelations, ?_, rfl, ?_, ?_⟩
  · rw [issues, owner]
  · exact state.history.length_record_le changed.snapshot
  · exact (records.record changed.snapshot).1.thawed

/-- A load that stops has added what a load of the results before adds, and no more. -/
theorem StopsAt.loadItems (records : state.history.Records) {before after : List WireItem}
    {item : WireResult} (stops : state.StopsAt options before item failure) :
    let failed := state.loadItems (before ++ .result item :: after) options
    let loaded := state.loadItems ((WireItem.results before).map .result) options
    loaded.2 = true ∧ failed.1.areas = loaded.1.areas ∧
      failed.1.suggestions = loaded.1.suggestions ∧ state.FailsLoading failure failed.1 := by
  intro failed loaded
  have results : applyResults options state.frozen
      (WireItem.results (Repair.items state.frozen.tree (before ++ .result item :: after))) =
        (Loading.applied ⟨state, before, options⟩, some failure) := stops.applyResults_eq
  have stopped : failed =
      finishLoad (Loading.applied ⟨state, before, options⟩, some failure) := by
    show finishLoad (applyItems options state.frozen (before ++ .result item :: after)) = _
    rw [applyItems]
    dsimp only
    rw [results]
  have same : Loading.applied ⟨state, (WireItem.results before).map .result, options⟩ =
      Loading.applied ⟨state, before, options⟩ := by
    rw [Loading.applied, Loading.results, results_repaired_results]
    rfl
  have present := present_loadItems state ((WireItem.results before).map .result) options
  rw [same] at present
  refine ⟨?_, ?_, ?_, ?_⟩
  · rw [answer_loadItems, results_repaired_results, stops.added]
    rfl
  · rw [stopped, present.1]
    exact (present_finishLoad _).1
  · rw [stopped, present.2]
    exact (present_finishLoad _).2
  · obtain ⟨relations, suggestedRelations, issues⟩ := applyResults_keeps options
      (WireItem.results (Repair.items state.tree before)) state.frozen
    rw [stopped]
    exact failsLoading_finishLoad records
      (continues_applyResults options (WireItem.results (Repair.items state.tree before))
        state.frozen) relations suggestedRelations issues failure

/-- A payload with a value that is no item has no items. -/
theorem items_eq_error {payload : Json} {contents : List Json}
    (read : Payload.values payload = .ok contents) {content : Json} (member : content ∈ contents)
    {fault : Json.Fault} (faulty : WireItem.ofJson? content = .error fault) :
    ∃ cause, Payload.items payload = .error cause := by
  cases done : Payload.items payload with
  | error cause => exact ⟨cause, rfl⟩
  | ok items =>
    rw [Payload.items, Except.bind_eq_ok] at done
    obtain ⟨values, same, done⟩ := done
    rw [read, Except.ok.injEq] at same
    obtain ⟨item, found⟩ := Except.exists_of_mapM (same ▸ done) member
    rw [faulty] at found
    contradiction

/-- A payload that cannot be read adds nothing. -/
theorem load_unreadable (records : state.history.Records) {payload : Json} {cause : PayloadFault}
    (unreadable : Payload.items payload = .error cause) (options : LoadOptions) :
    let failed := state.load payload options
    failed.2 = false ∧ failed.1.areas = state.areas ∧ failed.1.suggestions = state.suggestions ∧
      state.FailsLoading (.malformedPayload cause) failed.1 := by
  intro failed
  have stopped : failed = finishLoad (state.frozen, some (.malformedPayload cause)) := by
    show state.load payload options = _
    rw [load, unreadable]
  obtain ⟨areas, suggestions⟩ := present_finishLoad (state.frozen, some (.malformedPayload cause))
  rw [stopped]
  exact ⟨rfl, areas, suggestions,
    failsLoading_finishLoad records (.refl state.frozen) rfl rfl rfl _⟩

/-- In any run from a new annotation a load of items fails just when it stops at a result item. It
then has added what a load of the result items before adds, which does not fail; and no relation is
added, the failure of the item is one more problem, and the history goes on with one step at most. A
payload with a value that is no item fails in the same way, and adds nothing at all. -/
theorem run_failing_load (id : String) (kind : AnnotationKind) (tree : ElementTree)
    (settings : Settings) (session : Session) (operations : List Operation)
    (options : LoadOptions) :
    let state := (start id kind tree settings session).run operations
    (∀ items, (state.loadItems items options).2 = false ↔
      ∃ before item after failure, items = before ++ .result item :: after ∧
        state.StopsAt options before item failure) ∧
    (∀ before item after failure, state.StopsAt options before item failure →
      let failed := state.loadItems (before ++ .result item :: after) options
      let loaded := state.loadItems ((WireItem.results before).map .result) options
      loaded.2 = true ∧ failed.1.areas = loaded.1.areas ∧
        failed.1.suggestions = loaded.1.suggestions ∧ state.FailsLoading failure failed.1) ∧
    ∀ payload contents, Payload.values payload = .ok contents →
      (∃ content ∈ contents, ∃ fault, WireItem.ofJson? content = .error fault) →
        let failed := state.load payload options
        failed.2 = false ∧ failed.1.areas = state.areas ∧
          failed.1.suggestions = state.suggestions ∧
          ∃ cause, state.FailsLoading (.malformedPayload cause) failed.1 := by
  intro state
  obtain ⟨-, zipper, follows⟩ : state.Zips settings :=
    (zips_start id kind tree settings session).run operations
  refine ⟨fun items => loadItems_eq_false_iff state items options,
    fun before item after failure stops => stops.loadItems follows.records, ?_⟩
  rintro payload contents read ⟨content, member, fault, faulty⟩
  obtain ⟨cause, unreadable⟩ := items_eq_error read member faulty
  obtain ⟨answer, areas, suggestions, fails⟩ := load_unreadable follows.records unreadable options
  exact ⟨answer, areas, suggestions, cause, fails⟩

/-- A mood chosen for what is no object. -/
def misplacedMood : WireResult where
  id := some "c"
  fromName := "mood"
  toName := "label"
  resultType := "choices"
  value := [("choices", .array [.string "good"])]

set_option maxRecDepth 10000 in
/-- Behind two related areas a misplaced mood ends a load: the areas stay, and are not related. A
list that ends with no item loads nothing. -/
theorem misplacedMood_stops :
    let state := (start "1" .manual (.ofConfig moodConfig .standard none) {} {}).run []
    let failed := state.loadItems (moodItems ["good"] ++ [.result misplacedMood]) {}
    let loaded := state.loadItems ((WireItem.results (moodItems ["good"])).map .result) {}
    let unread := state.load (.array [.object [], .null]) {}
    (∃ failure, state.StopsAt {} (moodItems ["good"]) misplacedMood failure ∧
      loaded.2 = true ∧ failed.1.areas = loaded.1.areas ∧
      failed.1.suggestions = loaded.1.suggestions ∧ state.FailsLoading failure failed.1) ∧
    (∃ content ∈ [Json.object [], .null], ∃ fault, WireItem.ofJson? content = .error fault) ∧
      unread.2 = false ∧ unread.1.areas = state.areas ∧
      unread.1.suggestions = state.suggestions ∧
      ∃ cause, state.FailsLoading (.malformedPayload cause) unread.1 := by
  rw [ofConfig_moodConfig]
  intro state failed loaded unread
  obtain ⟨-, stops, unreadable⟩ := run_failing_load "1" .manual moodTree {} {} [] {}
  have added : (applyResults {} state.frozen
      (WireItem.results (Repair.items state.tree (moodItems ["good"])))).2 = none := by
    decide +kernel
  have refused : ((Repair.result? state.tree misplacedMood).any fun fixed =>
      !(applyResult {} (Loading.applied ⟨state, moodItems ["good"], {}⟩) fixed).isOk) = true := by
    decide +kernel
  obtain ⟨fixed, kept, refused⟩ := (Option.any_eq_true _ _).mp refused
  have noItem : ∃ content ∈ [Json.object [], .null], ∃ fault,
      WireItem.ofJson? content = .error fault := ⟨.null, by simp, _, rfl⟩
  refine ⟨?_, noItem, unreadable (.array [.object [], .null]) _ rfl noItem⟩
  cases fails : applyResult {} (Loading.applied ⟨state, moodItems ["good"], {}⟩) fixed with
  | ok next =>
    rw [fails] at refused
    exact absurd refused Bool.false_ne_true
  | error failure =>
    have stopped : state.StopsAt {} (moodItems ["good"]) misplacedMood failure :=
      ⟨added, fixed, kept, fails⟩
    exact ⟨failure, stopped, stops _ _ [] _ stopped⟩

end AnnotationState
end Labeling
