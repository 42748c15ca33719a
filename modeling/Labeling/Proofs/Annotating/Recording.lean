import Labeling.Proofs.Annotating.Numbers
import Labeling.Proofs.Annotating.RelationEnds

/-!
# The history and the control values keep up with the areas

An operation records what it changed, or restores a state that the history hands out and then
records nothing. Between operations the history is therefore neither frozen nor latched, its
current state is the present one, and the control values are those of the present areas:
`run_upToDate`. A state with a double that is no number differs from itself as the history compares
states; it is shown as the very one that was recorded.
-/
namespace Labeling

namespace History

variable {α : Type}

/-- A pushed state is the current one. -/
theorem current?_push (history : History α) (state : α) :
    (history.push state).current? = some state := by
  have newest : ∃ before, trimmed history.limit
      (history.states.take (history.cursor + 1) ++ [state]) = before ++ [state] := by
    cases limit : history.limit with
    | none => exact ⟨_, rfl⟩
    | some most =>
      refine ⟨_, List.drop_append_of_le_length ?_⟩
      have positive : 1 ≤ max most 1 := Nat.le_max_right most 1
      simp only [List.length_append, List.length_cons, List.length_nil]
      omega
  obtain ⟨before, trimmed⟩ := newest
  simp [current?, push, trimmed]

/-- What holds of a history that records, between two recordings. -/
structure Records (history : History α) : Prop where
  /-- Recording is not suspended. -/
  thawed : history.frozen = 0
  /-- The next recording is not left out. -/
  unlatched : history.skipNext = false

/-- The current state of a history is this one, or equals it. -/
def Shows [BEq α] (history : History α) (state : α) : Prop :=
  ∃ shown, history.current? = some shown ∧ Alike shown state

/-- A history shows its current state. -/
theorem shows_of_current? [BEq α] {history : History α} {state : α}
    (current : history.current? = some state) : history.Shows state :=
  ⟨state, current, Or.inl rfl⟩

/-- A history shows what it finds equal to its current state. -/
theorem shows_of_beq [BEq α] {history : History α} {state : α}
    (same : (history.current? == some state) = true) : history.Shows state := by
  cases current : history.current? with
  | none =>
    rw [current] at same
    contradiction
  | some shown =>
    rw [current] at same
    exact ⟨shown, current, Or.inr same⟩

/-- A history finds what it shows equal to its current state, if it equals itself. -/
theorem Shows.beq [BEq α] {history : History α} {state : α} (shows : history.Shows state)
    (self : (state == state) = true) : (history.current? == some state) = true := by
  obtain ⟨shown, current, alike⟩ := shows
  rw [current]
  exact alike.beq self

/-- A history that records has the recorded state as its current one, and records on. -/
theorem Records.record [BEq α] {history : History α} (records : history.Records) (state : α) :
    (history.record state).1.Records ∧ (history.record state).1.Shows state := by
  have notFrozen : ¬ 0 < history.frozen := by
    rw [records.thawed]
    exact Nat.lt_irrefl 0
  rw [History.record, records.unlatched, if_neg Bool.false_ne_true, if_neg notFrozen]
  split
  · exact ⟨⟨rfl, rfl⟩, shows_of_current? rfl⟩
  · split
    · rename_i same
      exact ⟨records, shows_of_beq same⟩
    · exact ⟨⟨records.thawed, records.unlatched⟩, shows_of_current? (current?_push history state)⟩

/-- A batch on a history that records is one recording. -/
theorem Records.unfreeze_freeze [BEq α] {history : History α} (records : history.Records)
    (state : α) : history.freeze.unfreeze state = history.record state := by
  have balanced : { history.freeze with frozen := history.freeze.frozen - 1 } = history := rfl
  rw [History.unfreeze, balanced, if_pos records.thawed]

/-- A batch on a history that records ends with the recorded state as the current one. -/
theorem Records.unfreeze [BEq α] {history : History α} (records : history.Records) (state : α) :
    (history.freeze.unfreeze state).1.Records ∧
      (history.freeze.unfreeze state).1.Shows state := by
  rw [records.unfreeze_freeze]
  exact records.record state

/-- A history that hands a state out and leaves out the next recording. -/
structure HandsOut (history : History α) (state : α) : Prop where
  /-- Recording is not suspended. -/
  thawed : history.frozen = 0
  /-- The next recording is left out. -/
  latched : history.skipNext = true
  /-- The state handed out is the current one. -/
  current : history.current? = some state

/-- The recording behind a state handed out only opens the latch. -/
theorem HandsOut.record [BEq α] {history : History α} {state : α}
    (handed : history.HandsOut state) :
    (history.record state).1.Records ∧ (history.record state).1.Shows state := by
  rw [History.record, if_pos handed.latched]
  exact ⟨⟨handed.thawed, rfl⟩, shows_of_current? handed.current⟩

/-- Undoing hands out the state that becomes current. -/
theorem Records.undo {history : History α} (records : history.Records) {state : α}
    (handed : history.undo.2 = some state) : history.undo.1.HandsOut state := by
  rw [History.undo] at handed ⊢
  split at handed
  · rename_i available
    rw [if_pos available]
    exact ⟨records.thawed, rfl, handed⟩
  · contradiction

/-- Redoing hands out the state that becomes current. -/
theorem Records.redo {history : History α} (records : history.Records) {state : α}
    (handed : history.redo.2 = some state) : history.redo.1.HandsOut state := by
  rw [History.redo] at handed ⊢
  split at handed
  · rename_i available
    rw [if_pos available]
    exact ⟨records.thawed, rfl, handed⟩
  · contradiction

/-- A reset hands out the state that becomes current. -/
theorem Records.reset {history : History α} (records : history.Records) {state : α}
    (handed : history.reset.2 = some state) : history.reset.1.HandsOut state := by
  rw [History.reset] at handed ⊢
  split at handed
  · contradiction
  · cases handed
    exact ⟨records.thawed, rfl, rfl⟩

/-- A history that records hands out the state that becomes current, wherever it goes. -/
theorem Records.handsOut {history : History α} (records : history.Records)
    {result : History α × Option α} {state : α}
    (moved : result = history.undo ∨ result = history.redo ∨ result = history.reset)
    (handed : result.2 = some state) : result.1.HandsOut state := by
  rcases moved with undone | redone | begun
  · subst undone
    exact records.undo handed
  · subst redone
    exact records.redo handed
  · subst begun
    exact records.reset handed

end History

namespace AnnotationState

/-- What holds of an annotation between two operations. -/
structure UpToDate (state : AnnotationState) : Prop where
  /-- The history is not frozen, and it leaves out no recording. -/
  records : state.history.Records
  /-- The current state of the history is the present one. -/
  current : state.history.Shows state.snapshot
  /-- The values of the controls are those of the present areas. -/
  controlValues : state.controlValues = controlValuesOf state.tree state.areas

variable {state next : AnnotationState}

/-- A recorded change is up to date if the history records. -/
theorem upToDate_recorded (records : state.history.Records) : state.recorded.UpToDate :=
  ⟨(records.record state.snapshot).1, (records.record state.snapshot).2, rfl⟩

/-- A recorded batch is up to date if the history records apart from the batch. -/
theorem upToDate_committed {history : History Snapshot} (records : history.Records)
    (batch : state.history = history.freeze) : state.committed.UpToDate := by
  have ended := records.unfreeze state.snapshot
  rw [← batch] at ended
  exact ⟨ended.1, ended.2, rfl⟩

/-- A restored state is up to date if it was handed out. -/
theorem upToDate_restore {snapshot : Snapshot} (handed : state.history.HandsOut snapshot) :
    (state.restore snapshot).UpToDate := by
  obtain ⟨told, made, continues, restored⟩ := restore_eq state snapshot
  have ended := handed.record
  rw [← continues.history, ← restored] at ended
  rw [made]
  exact ⟨ended.1, ended.2, rfl⟩

/-- A history that begins anew is up to date. -/
theorem UpToDate.resetHistory (upToDate : state.UpToDate) : state.resetHistory.UpToDate :=
  ⟨⟨rfl, rfl⟩, History.shows_of_current? rfl, upToDate.controlValues⟩

/-- An annotation stays up to date through every outcome of an operation. -/
theorem Outcome.upToDate (outcome : state.Outcome next) (before : state.UpToDate) :
    next.UpToDate := by
  induction outcome with
  | quiet continues areas relations controlValues =>
    refine ⟨continues.history ▸ before.records, ?_, ?_⟩
    · rw [continues.history, snapshot, areas, relations]
      exact before.current
    · rw [controlValues, continues.tree, areas]
      exact before.controlValues
  | recorded continues => exact upToDate_recorded (continues.history ▸ before.records)
  | committed continues => exact upToDate_committed before.records continues.history
  | travelled moved handed => exact upToDate_restore (before.records.handsOut moved handed)
  | restarted _ hypothesis => exact hypothesis.resetHistory

/-- A new annotation is up to date. -/
theorem upToDate_start (id : String) (kind : AnnotationKind) (tree : ElementTree)
    (settings : Settings) (session : Session) :
    (start id kind tree settings session).UpToDate :=
  ⟨⟨rfl, rfl⟩, History.shows_of_current? rfl, rfl⟩

/-- An annotation stays up to date through a run. -/
theorem UpToDate.run (before : state.UpToDate) {operations : List Operation}
    (direct : ∀ operation ∈ operations, operation ≠ .clean) : (state.run operations).UpToDate := by
  induction operations generalizing state with
  | nil => exact before
  | cons operation rest hypothesis =>
    have step := perform_outcome state (direct operation List.mem_cons_self)
    exact hypothesis (step.upToDate before)
      fun other member => direct other (List.mem_cons_of_mem _ member)

/-- The history finds the present state recorded, if all its doubles are numbers. -/
theorem UpToDate.isRecorded (upToDate : state.UpToDate)
    (numeric : state.snapshot.isNumeric = true) : state.isRecorded = true :=
  upToDate.current.beq (state.snapshot.beq_self.trans numeric)

/-- Between the operations of any run from a new annotation the history is neither frozen nor
latched, its current state is the present one, and the values of the controls are those of the
present areas; and the history finds the present state recorded, if no operation brings a double
that is no number. Removing superseded classifications by itself is not among the operations. -/
theorem run_upToDate (id : String) (kind : AnnotationKind) (tree : ElementTree)
    (settings : Settings) (session : Session) (operations : List Operation)
    (direct : ∀ operation ∈ operations, operation ≠ .clean) :
    let state := (start id kind tree settings session).run operations
    state.UpToDate ∧
      ((∀ operation ∈ operations, operation.isNumeric = true) → state.isRecorded = true) := by
  intro state
  have upToDate : state.UpToDate := (upToDate_start id kind tree settings session).run direct
  refine ⟨upToDate, fun numeric => upToDate.isRecorded ?_⟩
  have numbers := knowsNumbers_start id kind tree settings session
  exact (numbers.run numeric).isNumeric_snapshot

/-- A span of sound that begins at no number. -/
def unknownStart : Shape where
  geometry := .audioSpan ⟨false, 0x7ff8000000000000⟩ (.ofInt 1) none

set_option maxRecDepth 10000 in
example : ((start "1" .manual moodTree {} {}).run [
    .loadItems (moodItems ["good"]) {}, .updateShape ⟨"b", "1"⟩ unknownStart]).isRecorded =
      false := by decide +kernel

/-- A mood and a related span are loaded, and the mood goes and comes back; then a stored draft of
another mood is shown, which is deleted and comes back as the history returns to its beginning. -/
def movingMoods : List Operation := [
  .loadItems (moodItems ["good"]) {}, .delete ⟨"a", "1"⟩, .undo, .redo, .undo,
  .addVersions { draft := some (((moodItems ["bad"]).take 1).map WireItem.toJson) }, .toggleDraft,
  .delete ⟨"a", "1"⟩, .reset]

set_option maxRecDepth 10000 in
/-- The history keeps up as moods go and come back. -/
theorem movingMoods_upToDate :
    let first := start "1" .manual moodTree {} {}
    (∀ operation ∈ movingMoods, operation ≠ .clean) ∧
      (∀ operation ∈ movingMoods, operation.isNumeric = true) ∧
      ((List.range 10).map fun count =>
        (first.run (movingMoods.take count)).areas.keys.map AreaId.raw) =
          [[], ["a", "b"], ["b"], ["a", "b"], ["b"], ["a", "b"], ["a", "b"], ["a"], [], ["a"]] ∧
      (first.run movingMoods).UpToDate ∧ (first.run movingMoods).isRecorded = true := by
  intro first
  have direct : ∀ operation ∈ movingMoods, operation ≠ .clean := by simp [movingMoods]
  have numeric : ∀ operation ∈ movingMoods, operation.isNumeric = true := by decide +kernel
  obtain ⟨upToDate, recorded⟩ := run_upToDate "1" .manual moodTree {} {} movingMoods direct
  exact ⟨direct, numeric, by decide +kernel, upToDate, recorded numeric⟩

end AnnotationState
end Labeling
