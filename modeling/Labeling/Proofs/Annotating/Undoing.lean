import Labeling.Proofs.Annotating.Recording
import Labeling.Proofs.Annotating.RelationEnds
import Labeling.Proofs.History.Zipper
import Mathlib.Data.List.Induction

/-!
# Every recorded change is one step of undo

Between two operations the history of an annotation is a zipper of its states. An operation that
changes the areas or the relations puts the state before it into the past of this zipper, so that it
is undone and redone as one step, if that state was recorded (`run_undone`). The removal of
superseded classifications by itself records nothing: a state that is not recorded is one behind
such a removal.
-/
namespace Labeling

namespace Zipper

variable {α : Type} {limit : Option Nat} {zipper : Zipper α} {history : History α}

/-- A limit of two states or more leaves the latest of the earlier states. -/
theorem exists_newest_cons (two : ∀ most, limit = some most → 2 ≤ most) (state : α)
    (past : List α) : ∃ rest, newest limit (state :: past) = state :: rest := by
  cases limit with
  | none => exact ⟨past, rfl⟩
  | some most =>
    have positive : max most 1 - 1 = (max most 1 - 2) + 1 := by
      have bound : 2 ≤ most := two most rfl
      omega
    rw [newest, positive, List.take_succ_cons]
    exact ⟨_, rfl⟩

/-- Recording neither hands out a state nor suspends recording. -/
theorem record_keeps [BEq α] (limit : Option Nat) (zipper : Zipper α) (state : α) :
    (zipper.record limit state).1.applied = zipper.applied ∧
      (zipper.record limit state).1.depth = zipper.depth := by
  rw [record]
  split
  · exact ⟨rfl, rfl⟩
  · exact ⟨rfl, rfl⟩

/-- The recording right behind a state handed out is left out. -/
theorem Represents.record_applied [BEq α] (represents : Represents limit zipper history)
    (applied : zipper.applied = true) (state : α) :
    Represents limit { zipper with applied := false } (history.record state).1 := by
  have latched : history.skipNext = true := represents.skipNext_eq.trans applied
  rw [History.record, if_pos latched]
  exact represents.settle

end Zipper

namespace AnnotationState

variable {state next changed : AnnotationState} {zipper : Zipper Snapshot}

/-- Between two operations the history is a zipper that records. -/
structure Follows (state : AnnotationState) (zipper : Zipper Snapshot) : Prop where
  /-- The history holds the states of the zipper. -/
  represents : Zipper.Represents state.settings.historyLimit zipper state.history
  /-- No state was just handed out. -/
  settled : zipper.applied = false
  /-- Recording is not suspended. -/
  running : zipper.depth = 0

/-- The history is some zipper that records, under the given settings. -/
def Zips (settings : Settings) (state : AnnotationState) : Prop :=
  state.settings = settings ∧ ∃ zipper, state.Follows zipper

/-- A history that begins anew is a zipper of one state. -/
theorem represents_attach (limit : Option Nat) (snapshot : Snapshot) :
    Zipper.Represents limit (Zipper.attach snapshot)
      (History.attach { limit := limit } snapshot) := by
  have limited : ({ limit := limit } : History Snapshot).limit = limit := rfl
  exact Zipper.Represents.attach limited snapshot

/-- A history that is such a zipper records. -/
theorem Follows.records (follows : state.Follows zipper) : state.history.Records :=
  ⟨follows.represents.frozen_eq.trans follows.running,
    follows.represents.skipNext_eq.trans follows.settled⟩

/-- The history shows the present state if it is the present one of the zipper. -/
theorem Follows.alike_present (follows : state.Follows zipper)
    (shows : state.history.Shows state.snapshot) : Alike zipper.present state.snapshot := by
  obtain ⟨shown, current, alike⟩ := shows
  have same := follows.represents.current?.symm.trans current
  exact Option.some.inj same ▸ alike

/-- An annotation that goes on with its history follows the same zipper. -/
theorem Follows.continues (follows : state.Follows zipper) (continues : state.Continues next) :
    next.Follows zipper := by
  refine ⟨?_, follows.settled, follows.running⟩
  rw [continues.settings, continues.history]
  exact follows.represents

/-- A recorded change is recorded in the zipper. -/
theorem Follows.recorded (follows : state.Follows zipper) :
    state.recorded.Follows (zipper.record state.settings.historyLimit state.snapshot).1 := by
  obtain ⟨applied, depth⟩ :=
    Zipper.record_keeps state.settings.historyLimit zipper state.snapshot
  exact ⟨(follows.represents.record follows.settled state.snapshot).1,
    applied.trans follows.settled, depth.trans follows.running⟩

/-- A batch of changes is recorded in the zipper. -/
theorem Follows.committed (follows : state.Follows zipper)
    (continues : state.frozen.Continues changed) :
    changed.committed.Follows (zipper.record changed.settings.historyLimit changed.snapshot).1 := by
  have thawed : changed.committed.history = (state.history.record changed.snapshot).1 := by
    show (changed.history.unfreeze changed.snapshot).1 = _
    rw [continues.history]
    exact congrArg Prod.fst (follows.records.unfreeze_freeze changed.snapshot)
  have settings : changed.settings = state.settings := continues.settings
  obtain ⟨applied, depth⟩ :=
    Zipper.record_keeps changed.settings.historyLimit zipper changed.snapshot
  refine ⟨?_, applied.trans follows.settled, depth.trans follows.running⟩
  show Zipper.Represents changed.settings.historyLimit _ changed.committed.history
  rw [thawed, settings]
  exact (follows.represents.record follows.settled changed.snapshot).1

/-- A state that is handed out is restored. -/
theorem travel_eq_restore {result : History Snapshot × Option Snapshot} {snapshot : Snapshot}
    (handed : result.2 = some snapshot) :
    state.travel result = ({ state with history := result.1 }.restore snapshot, true) := by
  rw [travel, handed]

/-- A restored state is what the zipper hands out, and nothing is recorded. -/
theorem Follows.travel {result : History Snapshot × Option Snapshot} {snapshot : Snapshot}
    (represents : Zipper.Represents state.settings.historyLimit zipper result.1)
    (applied : zipper.applied = true) (running : zipper.depth = 0)
    (handed : result.2 = some snapshot) :
    (state.travel result).2 = true ∧ (state.travel result).1.snapshot = snapshot ∧
      (state.travel result).1.Follows { zipper with applied := false } := by
  obtain ⟨told, made, continues, restored⟩ := restore_eq { state with history := result.1 } snapshot
  have travelled : state.travel result = (told.recorded, true) := by
    rw [travel_eq_restore handed, made]
  have history : told.recorded.history = (result.1.record told.snapshot).1 := by
    show (told.history.record told.snapshot).1 = _
    rw [continues.history]
  have settings : told.recorded.settings = state.settings := continues.settings
  rw [travelled]
  refine ⟨rfl, restored, ?_, rfl, running⟩
  rw [history, settings]
  exact represents.record_applied applied told.snapshot

/-- Undoing goes to the latest of the earlier states. -/
theorem Follows.undo (follows : state.Follows zipper) {snapshot : Snapshot}
    {past : List Snapshot} (earlier : zipper.past = snapshot :: past) :
    state.undo.2 = true ∧ state.undo.1.snapshot = snapshot ∧
      state.undo.1.Follows { zipper with
        past := past, present := snapshot, future := zipper.present :: zipper.future,
        applied := false } := by
  obtain ⟨represents, handed⟩ := follows.represents.undo
  rw [Zipper.undo, earlier] at represents handed
  exact Follows.travel represents rfl follows.running handed

/-- Redoing goes to the nearest of the states undone. -/
theorem Follows.redo (follows : state.Follows zipper) {snapshot : Snapshot}
    {future : List Snapshot} (later : zipper.future = snapshot :: future) :
    state.redo.2 = true ∧ state.redo.1.snapshot = snapshot ∧
      state.redo.1.Follows { zipper with
        past := zipper.present :: zipper.past, present := snapshot, future := future,
        applied := false } := by
  obtain ⟨represents, handed⟩ := follows.represents.redo
  rw [Zipper.redo, later] at represents handed
  exact Follows.travel represents rfl follows.running handed

/-- Wherever the history goes, it is a zipper that records once the state is restored. -/
theorem Follows.moved (follows : state.Follows zipper)
    {result : History Snapshot × Option Snapshot} {snapshot : Snapshot}
    (moved : result = state.history.undo ∨ result = state.history.redo
      ∨ result = state.history.reset) (handed : result.2 = some snapshot) :
    ∃ zipper, ({ state with history := result.1 }.restore snapshot).Follows zipper := by
  have restored : ({ state with history := result.1 }.restore snapshot) =
      (state.travel result).1 := by rw [travel_eq_restore handed]
  rw [restored]
  rcases moved with undone | redone | begun
  · obtain ⟨-, same⟩ := follows.represents.undo
    rw [undone, same, Zipper.undo] at handed
    rw [undone]
    split at handed
    · contradiction
    · rename_i earlier
      exact ⟨_, (follows.undo earlier).2.2⟩
  · obtain ⟨-, same⟩ := follows.represents.redo
    rw [redone, same, Zipper.redo] at handed
    rw [redone]
    split at handed
    · contradiction
    · rename_i later
      exact ⟨_, (follows.redo later).2.2⟩
  · obtain ⟨represents, same⟩ := follows.represents.reset
    rw [begun]
    exact ⟨_, (Follows.travel represents rfl follows.running same).2.2⟩

/-- The history is a zipper that records behind every outcome of an operation. -/
theorem Follows.outcome (follows : state.Follows zipper) (outcome : state.Outcome next) :
    ∃ zipper, next.Follows zipper := by
  induction outcome with
  | quiet continues => exact ⟨_, follows.continues continues⟩
  | recorded continues => exact ⟨_, (follows.continues continues).recorded⟩
  | committed continues => exact ⟨_, follows.committed continues⟩
  | travelled moved handed => exact follows.moved moved handed
  | @restarted next _ _ =>
    exact ⟨_, represents_attach next.settings.historyLimit next.snapshot, rfl, rfl⟩

/-- No outcome of an operation changes the settings. -/
theorem Outcome.settings (outcome : state.Outcome next) : next.settings = state.settings := by
  induction outcome with
  | quiet continues => exact continues.settings
  | recorded continues => exact continues.settings
  | committed continues => exact continues.settings
  | @travelled result snapshot =>
    obtain ⟨told, made, continues, -⟩ := restore_eq { state with history := result.1 } snapshot
    rw [made]
    exact continues.settings
  | restarted _ hypothesis => exact hypothesis

/-- The history is a zipper that records behind every operation. -/
theorem Zips.perform {settings : Settings} (zips : state.Zips settings) (operation : Operation) :
    (state.perform operation).1.Zips settings := by
  obtain ⟨same, zipper, follows⟩ := zips
  by_cases clean : operation = .clean
  · subst clean
    have continues := continues_cleaned state
    exact ⟨continues.settings.trans same, zipper, follows.continues continues⟩
  · have outcome := perform_outcome state clean
    exact ⟨outcome.settings.trans same, follows.outcome outcome⟩

/-- It is one behind every run. -/
theorem Zips.run {settings : Settings} (zips : state.Zips settings)
    (operations : List Operation) : (state.run operations).Zips settings :=
  run_keeps (fun _ before => before.perform) zips operations

/-- The history of a new annotation is the zipper of the empty state. -/
theorem zips_start (id : String) (kind : AnnotationKind) (tree : ElementTree)
    (settings : Settings) (session : Session) :
    (start id kind tree settings session).Zips settings :=
  ⟨rfl, Zipper.attach {}, represents_attach settings.historyLimit {}, rfl, rfl⟩

/-! ## Changes as steps -/

/-- A changed state is the present one of the zipper. -/
theorem Follows.change (follows : state.Follows zipper) (changes : state.Change next)
    (differs : ¬ Alike next.snapshot state.snapshot) :
    next.Follows (zipper.record next.settings.historyLimit next.snapshot).1 := by
  cases changes with
  | quiet continues areas relations controlValues =>
    have same : next.snapshot = state.snapshot := by rw [snapshot, areas, relations]; rfl
    exact absurd (Or.inl same) differs
  | recorded continues => exact (follows.continues continues).recorded
  | committed continues => exact follows.committed continues

/-- An annotation is undone to another one and redone from it in one step. -/
structure OneStep (state next : AnnotationState) : Prop where
  /-- There is a step to undo. -/
  undoes : next.undo.2 = true
  /-- Undoing restores the areas and the relations from before. -/
  restored : Alike next.undo.1.snapshot state.snapshot
  /-- There is a step to redo behind it. -/
  redoes : next.undo.1.redo.2 = true
  /-- Redoing restores the areas and the relations from after. -/
  repeated : next.undo.1.redo.1.snapshot = next.snapshot

/-- A change of a recorded state is one step. -/
theorem Follows.oneStep (follows : state.Follows zipper)
    (shows : state.history.Shows state.snapshot) (changes : state.Change next)
    (differs : ¬ Alike next.snapshot state.snapshot)
    (two : ∀ most, next.settings.historyLimit = some most → 2 ≤ most) :
    state.OneStep next := by
  have before : Alike zipper.present state.snapshot := follows.alike_present shows
  have moves : (zipper.present == next.snapshot) = false := by
    refine Bool.eq_false_iff.mpr fun same => differs ?_
    have after : Alike zipper.present next.snapshot := Or.inr same
    exact after.symm.trans before
  have after := follows.change changes differs
  obtain ⟨rest, newest⟩ := Zipper.exists_newest_cons two zipper.present zipper.past
  have running : ¬ (0 < zipper.depth || zipper.present == next.snapshot) = true := by
    rw [follows.running, moves]
    decide
  rw [Zipper.record, if_neg running, newest] at after
  obtain ⟨undoes, restored, undone⟩ := after.undo rfl
  obtain ⟨redoes, repeated, -⟩ := undone.redo rfl
  exact ⟨undoes, restored ▸ before, redoes, repeated⟩

/-- An outcome leaves a recorded state, or changes neither the state nor the history. -/
theorem Outcome.shows_or_same (outcome : state.Outcome next)
    (records : state.history.Records) : next.history.Shows next.snapshot ∨
      (next.history = state.history ∧ next.snapshot = state.snapshot) := by
  induction outcome with
  | quiet continues areas relations =>
    exact Or.inr ⟨continues.history, by rw [snapshot, areas, relations]; rfl⟩
  | recorded continues => exact Or.inl (upToDate_recorded (continues.history ▸ records)).current
  | committed continues => exact Or.inl (upToDate_committed records continues.history).current
  | travelled moved handed =>
    exact Or.inl (upToDate_restore (records.handsOut moved handed)).current
  | restarted _ _ => exact Or.inl (History.shows_of_current? rfl)

/-- In a run superseded classifications were removed by themselves, and nothing was recorded
since. -/
def CleanedSince (first : AnnotationState) (operations : List Operation) : Prop :=
  ∃ before after, operations = before ++ .clean :: after ∧ (first.run before).cleaned.2 ≠ 0 ∧
    (first.run operations).history = (first.run before).history

/-- Nothing is recorded either by a further operation that leaves the history alone. -/
theorem CleanedSince.append {operations : List Operation} (since : state.CleanedSince operations)
    {operation : Operation}
    (same : (state.run (operations ++ [operation])).history = (state.run operations).history) :
    state.CleanedSince (operations ++ [operation]) := by
  obtain ⟨before, after, whole, removed, history⟩ := since
  refine ⟨before, after ++ [operation], ?_, removed, same.trans history⟩
  rw [whole, List.append_assoc, List.cons_append]

/-- Where no classification is superseded nothing changes. -/
theorem cleaned_eq_self (removed : state.cleaned.2 = 0) : state.cleaned.1 = state := by
  rw [cleaned] at removed ⊢
  split
  · rfl
  · rename_i stale
    rw [if_neg stale] at removed
    rw [List.isEmpty_iff, ← List.length_eq_zero_iff] at stale
    exact absurd removed stale

/-- In a run from a recorded state a state is recorded, unless superseded classifications were
removed by themselves and nothing was recorded since. -/
theorem shows_or_cleanedSince {settings : Settings} (zips : state.Zips settings)
    (shows : state.history.Shows state.snapshot) (operations : List Operation) :
    (state.run operations).history.Shows (state.run operations).snapshot ∨
      state.CleanedSince operations := by
  induction operations using List.reverseRecOn with
  | nil => exact Or.inl shows
  | append_singleton operations operation hypothesis =>
    obtain ⟨-, zipper, follows⟩ := zips.run operations
    have run : state.run (operations ++ [operation]) =
        ((state.run operations).perform operation).1 := List.foldl_append
    by_cases clean : operation = .clean
    · subst clean
      have cleans : state.run (operations ++ [.clean]) = (state.run operations).cleaned.1 := run
      have history := (continues_cleaned (state.run operations)).history
      rw [← cleans] at history
      by_cases removed : (state.run operations).cleaned.2 = 0
      · rw [cleans, cleaned_eq_self removed]
        exact hypothesis.imp_right fun since => since.append history
      · exact Or.inr ⟨operations, [], rfl, removed, history⟩
    · have outcome := perform_outcome (state.run operations) clean
      rw [← run] at outcome
      rcases outcome.shows_or_same follows.records with shown | ⟨history, snapshot⟩
      · exact Or.inl shown
      · rw [history, snapshot]
        exact hypothesis.imp_right fun since => since.append history

/-- In a run of any operations, at a limit of two states or more, each operation that changes the
areas or the relations and neither goes back or forth in the history nor begins it anew is undone
and redone as one step, if it is not the removal of superseded classifications by itself and begins
at a recorded state. Every state is recorded unless such a removal came before it and nothing was
recorded since. -/
theorem run_undone (id : String) (kind : AnnotationKind) (tree : ElementTree)
    (settings : Settings) (session : Session)
    (two : ∀ most, settings.historyLimit = some most → 2 ≤ most)
    (operations : List Operation) {operation : Operation} (stays : operation.travels = false) :
    let first := start id kind tree settings session
    let state := first.run operations
    let next := (state.perform operation).1
    ¬ Alike next.snapshot state.snapshot →
      (operation ≠ .clean → state.history.Shows state.snapshot → state.OneStep next) ∧
        (state.history.Shows state.snapshot ∨ first.CleanedSince operations) := by
  intro first state next differs
  have zips : first.Zips settings := zips_start id kind tree settings session
  have begun := (upToDate_start id kind tree settings session).current
  refine ⟨fun direct shows => ?_, shows_or_cleanedSince zips begun operations⟩
  have present : state.Zips settings := zips.run operations
  have same : next.settings = settings := (present.perform operation).1
  obtain ⟨-, zipper, follows⟩ := present
  exact follows.oneStep shows (perform_change state direct stays) differs (same ▸ two)

/-- Two moods chosen one after the other. -/
def moodsOfTwo : List WireItem := [
  .result { id := some "a", fromName := "mood", toName := "text", resultType := "choices",
            value := [("choices", .array [.string "good"])] },
  .result { id := some "b", fromName := "mood", toName := "text", resultType := "choices",
            value := [("choices", .array [.string "good"])] }]

set_option maxRecDepth 10000 in
/-- At a limit of two states, the removal of two loaded moods is undone and redone. -/
theorem loadedMoods_undone :
    let tree := ElementTree.ofConfig moodConfig .standard none
    let first := start "1" .manual tree { historyLimit := some 2 } {}
    let state := first.run [.loadItems moodsOfTwo {}]
    let next := (state.perform .deleteAll).1
    (∀ most, some 2 = some most → 2 ≤ most) ∧ Operation.deleteAll.travels = false ∧
      ¬ Alike next.snapshot state.snapshot ∧ state.history.Shows state.snapshot ∧
      state.OneStep next := by
  intro tree first state next
  have two (most : Nat) (same : some 2 = some most) : 2 ≤ most :=
    Nat.le_of_eq (Option.some.inj same)
  obtain ⟨unlike, self, recorded⟩ : (next.snapshot == state.snapshot) = false ∧
      (state.snapshot == state.snapshot) = true ∧ state.isRecorded = true := by decide +kernel
  have differs : ¬ Alike next.snapshot state.snapshot := Alike.not_of_beq unlike self
  have shows : state.history.Shows state.snapshot := History.shows_of_beq recorded
  obtain ⟨undone, -⟩ := run_undone "1" .manual tree { historyLimit := some 2 } {} two
    [.loadItems moodsOfTwo {}] (rfl : Operation.deleteAll.travels = false) differs
  exact ⟨two, rfl, differs, shows, undone (by simp) shows⟩

set_option maxRecDepth 10000 in
/-- Not every change is one step: the removal of the superseded one of two moods is not recorded,
and undoing it takes away both. -/
theorem cleanedMoods_not_undone :
    ¬ ∀ (tree : ElementTree) (settings : Settings) (id : String) (operations : List Operation)
        (operation : Operation), (∀ most, settings.historyLimit = some most → 2 ≤ most) →
      operation.travels = false →
        let state := (start id .manual tree settings {}).run operations
        let next := (state.perform operation).1
        ¬ Alike next.snapshot state.snapshot → state.OneStep next := by
  intro undone
  let tree := ElementTree.ofConfig moodConfig .standard none
  let state := (start "1" .manual tree {} {}).run [.loadItems moodsOfTwo {}]
  obtain ⟨unlike, self, lost⟩ : ((state.perform .clean).1.snapshot == state.snapshot) = false ∧
      (state.snapshot == state.snapshot) = true ∧
      ((state.perform .clean).1.undo.1.snapshot == state.snapshot) = false := by decide +kernel
  have step := undone tree {} "1" [.loadItems moodsOfTwo {}] .clean
    (fun _ same => nomatch same) rfl (Alike.not_of_beq unlike self)
  exact Alike.not_of_beq lost self step.restored

end AnnotationState
end Labeling
