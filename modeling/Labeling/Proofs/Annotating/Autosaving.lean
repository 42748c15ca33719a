import Labeling.Proofs.Annotating.Turns
import Mathlib.Data.List.Chain
import Mathlib.Data.List.DropRight

/-!
# Autosaves in a run

An autosave hands a draft over if something was counted since the last save and the last draft was
handed over long enough ago. What it can tell from its counters is what can be told from the steps
of the run: which of them count, which save, and which hand a draft over (`Account`). So two drafts
are never handed over too soon after one another, no change is lost where the host refuses a draft,
and none is passed over (`run_autosave`). What counts is a change by most operations, but not by all
of them: a load counts whatever it does (`run_submits_iff`).
-/
namespace Labeling.AnnotationState

/-! ## The steps of a run -/

/-- A step of a run: an operation and the annotation on which it is carried out. -/
structure Step where
  /-- The annotation before the step. -/
  before : AnnotationState
  /-- The operation. -/
  operation : Operation

namespace Step

/-- The annotation behind a step. -/
def after (step : Step) : AnnotationState := (step.before.perform step.operation).1

/-- The answer to the operation. -/
def answer (step : Step) : Answer := (step.before.perform step.operation).2

/-- Whether a step counts as a change. -/
def counts (step : Step) : Bool := step.operation.counts step.answer

/-- Whether a step makes the state behind it the one that is saved. -/
def saves (step : Step) : Bool := step.operation.saves step.answer

/-- When a step handed a draft over. -/
def attempt? (step : Step) : Option Nat := step.operation.attempt? step.answer

/-- A step that counts is counted. -/
theorem revision_after (step : Step) :
    step.after.revision = step.before.revision + step.counts.toNat :=
  (perform_turn step.before step.operation).revision

/-- A step that saves takes over the count. -/
theorem savedRevision_after (step : Step) : step.after.savedRevision =
    if step.saves then step.after.revision else step.before.savedRevision :=
  (perform_turn step.before step.operation).savedRevision

/-- A step that hands a draft over does it last. -/
theorem lastAttempt_after (step : Step) :
    step.after.lastAttempt = step.attempt?.or step.before.lastAttempt :=
  (perform_turn step.before step.operation).lastAttempt

/-- A step that does not count changes neither areas nor relations, unless it is the removal of
superseded classifications by itself. -/
theorem snapshot_after (step : Step) (direct : step.operation ≠ .clean)
    (uncounted : step.counts = false) : step.after.snapshot = step.before.snapshot :=
  (perform_turn step.before step.operation).snapshot direct uncounted

end Step

/-- The steps of a run. -/
def steps : AnnotationState → List Operation → List Step
  | _, [] => []
  | state, operation :: rest => ⟨state, operation⟩ :: (state.perform operation).1.steps rest

/-- When drafts were handed over in a run. -/
def attempts (first : AnnotationState) (operations : List Operation) : List Nat :=
  (first.steps operations).filterMap Step.attempt?

/-- The steps of a run since the last save. -/
def unsaved (first : AnnotationState) (operations : List Operation) : List Step :=
  (first.steps operations).rtakeWhile (!·.saves)

/-- The areas and the relations at the last save of a run, or at its beginning. -/
def savedSnapshot (first : AnnotationState) (operations : List Operation) : Snapshot :=
  match ((first.steps operations).filter Step.saves).getLast? with
  | some step => step.after.snapshot
  | none => first.snapshot

section Steps

variable {first : AnnotationState} (operations : List Operation) (operation : Operation)

/-- A run may be carried out in two parts. -/
theorem run_append (first : AnnotationState) (earlier later : List Operation) :
    first.run (earlier ++ later) = (first.run earlier).run later := List.foldl_append

/-- The last step of a run is taken where the steps before it end. -/
theorem steps_concat (first : AnnotationState) :
    first.steps (operations ++ [operation]) =
      first.steps operations ++ [⟨first.run operations, operation⟩] := by
  induction operations generalizing first with
  | nil => rfl
  | cons earlier rest hypothesis =>
    exact congrArg (_ :: ·) (hypothesis (first.perform earlier).1)

/-- The state behind the last step of a run is the one behind the run. -/
theorem run_concat (first : AnnotationState) :
    first.run (operations ++ [operation]) = Step.after ⟨first.run operations, operation⟩ :=
  run_append first operations [operation]

/-- A draft that the last step hands over comes last. -/
theorem attempts_concat (first : AnnotationState) :
    first.attempts (operations ++ [operation]) = first.attempts operations ++
      (Step.attempt? ⟨first.run operations, operation⟩).toList := by
  rw [attempts, steps_concat, List.filterMap_append, attempts]
  congr 1

/-- The last step is unsaved unless it saves, and then nothing is unsaved. -/
theorem unsaved_concat (first : AnnotationState) :
    first.unsaved (operations ++ [operation]) =
      if Step.saves ⟨first.run operations, operation⟩ then []
      else first.unsaved operations ++ [⟨first.run operations, operation⟩] := by
  rw [unsaved, steps_concat, List.rtakeWhile_concat]
  cases Step.saves ⟨first.run operations, operation⟩ <;> rfl

/-- The last step that saves is the last save. -/
theorem savedSnapshot_concat (first : AnnotationState) :
    first.savedSnapshot (operations ++ [operation]) =
      if Step.saves ⟨first.run operations, operation⟩ then
        (first.run (operations ++ [operation])).snapshot
      else first.savedSnapshot operations := by
  rw [savedSnapshot, steps_concat, List.filter_append, run_concat]
  cases saves : Step.saves ⟨first.run operations, operation⟩ with
  | true =>
    rw [List.filter_cons_of_pos saves, List.filter_nil, List.getLast?_concat]
    rfl
  | false =>
    have kept : ¬ Step.saves ⟨first.run operations, operation⟩ = true := by simp [saves]
    rw [List.filter_cons_of_neg kept, List.filter_nil, List.append_nil]
    rfl

end Steps

/-! ## The counters of a run -/

variable {state first : AnnotationState} {operations : List Operation}

/-- The counters tell what the steps of a run tell. -/
structure Account (first : AnnotationState) (operations : List Operation) : Prop where
  /-- Since the last save as much was counted as there are steps that count. -/
  revision : (first.run operations).revision =
    (first.run operations).savedRevision + (first.unsaved operations).countP Step.counts
  /-- The last draft was handed over at the last attempt. -/
  lastAttempt : (first.run operations).lastAttempt = (first.attempts operations).getLast?

/-- The counters tell what the steps of a run tell if they do so at its beginning. -/
theorem account_run (counted : first.revision = first.savedRevision)
    (never : first.lastAttempt = none) (operations : List Operation) :
    first.Account operations := by
  induction operations using List.reverseRecOn with
  | nil => exact ⟨counted, never⟩
  | append_singleton operations operation hypothesis =>
    let step : Step := ⟨first.run operations, operation⟩
    have revision : step.after.revision = step.before.revision + step.counts.toNat :=
      step.revision_after
    have before : step.before.revision =
        step.before.savedRevision + (first.unsaved operations).countP Step.counts :=
      hypothesis.revision
    refine ⟨?_, ?_⟩
    -- A step that saves leaves nothing to save; any other one joins what is left to save.
    · rw [run_concat, unsaved_concat, step.savedRevision_after]
      cases step.saves with
      | true => rfl
      | false =>
        have counted : (first.unsaved operations ++ [step]).countP Step.counts =
            (first.unsaved operations).countP Step.counts + step.counts.toNat := by
          rw [List.countP_append, List.countP_singleton]
          cases step.counts <;> rfl
        show step.after.revision =
          step.before.savedRevision + (first.unsaved operations ++ [step]).countP Step.counts
        rw [revision, before, counted, Nat.add_assoc]
    · rw [run_concat, attempts_concat, step.lastAttempt_after]
      cases step.attempt? with
      | none =>
        rw [Option.toList_none, List.append_nil]
        exact hypothesis.lastAttempt
      | some now =>
        rw [Option.toList_some, List.getLast?_concat]
        rfl

/-- Nothing is left to save just when no step since the last save counts. -/
theorem Account.saved_iff (account : first.Account operations) :
    (first.run operations).savedRevision = (first.run operations).revision ↔
      ∀ step ∈ first.unsaved operations, step.counts = false := by
  rw [account.revision, left_eq_add, List.countP_eq_zero]
  simp only [Bool.not_eq_true]

/-- Where no step since the last save counts, areas and relations are those of the last save. -/
theorem snapshot_eq_savedSnapshot (direct : ∀ operation ∈ operations, operation ≠ .clean)
    (uncounted : ∀ step ∈ first.unsaved operations, step.counts = false) :
    (first.run operations).snapshot = first.savedSnapshot operations := by
  induction operations using List.reverseRecOn with
  | nil => rfl
  | append_singleton operations operation hypothesis =>
    rw [unsaved_concat] at uncounted
    rw [savedSnapshot_concat]
    split
    · rfl
    · rename_i unsaved
      rw [if_neg unsaved] at uncounted
      have last := direct operation (List.mem_append_right _ List.mem_cons_self)
      rw [run_concat, Step.snapshot_after _ last (uncounted _ (by simp))]
      exact hypothesis (fun other member => direct other (List.mem_append_left _ member))
        fun step member => uncounted step (List.mem_append_left _ member)

/-! ## When a draft is handed over -/

/-- An attempt is not too soon just if enough time has passed since the last one. -/
theorem isThrottled_eq_false_iff {now : Nat} : state.isThrottled now = false ↔
    ∀ last ∈ state.lastAttempt, state.settings.autosaveDelay ≤ now - last := by
  rw [isThrottled]
  cases state.lastAttempt with
  | none => simp
  | some last => simp

/-- A draft is handed over just if there is something to save and the last attempt is long ago. -/
theorem isAttempt_autosave_iff {now : Nat} : (state.autosave now).2.isAttempt = true ↔
    state.savedRevision ≠ state.revision ∧ state.isThrottled now = false := by
  have outcome := autosaves state now
  generalize state.autosave now = result at outcome
  cases outcome with
  | unchanged saved => exact iff_of_false Bool.false_ne_true fun both => both.1 saved
  | throttled unsaved throttled =>
    exact iff_of_false Bool.false_ne_true fun both => by simp [throttled] at both
  | failed unsaved late _ => exact iff_of_true rfl ⟨unsaved, late⟩
  | saved unsaved late _ => exact iff_of_true rfl ⟨unsaved, late⟩

/-- Only an autosave hands a draft over. -/
theorem Step.eq_some_of_attempt? {step : Step} {now : Nat} (attempt : step.attempt? = some now) :
    step.operation = .autosave now ∧ (step.before.autosave now).2.isAttempt = true := by
  obtain ⟨before, operation⟩ := step
  cases operation with
  | autosave time =>
    change (if (before.autosave time).2.isAttempt then some time else none) = some now at attempt
    split at attempt
    · rename_i isAttempt
      cases attempt
      exact ⟨rfl, isAttempt⟩
    · contradiction
  | _ => contradiction

/-- What is left to save is still left behind steps that do not save. -/
theorem unsaved_run (unsaved : state.savedRevision < state.revision)
    (never : ∀ step ∈ state.steps operations, step.saves = false) :
    (state.run operations).savedRevision < (state.run operations).revision := by
  induction operations generalizing state with
  | nil => exact unsaved
  | cons operation rest hypothesis =>
    let step : Step := ⟨state, operation⟩
    have savedRevision : step.after.savedRevision = state.savedRevision := by
      rw [step.savedRevision_after, never step List.mem_cons_self]
      rfl
    have revision : step.after.revision = state.revision + step.counts.toNat :=
      step.revision_after
    have stillUnsaved : step.after.savedRevision < step.after.revision := by
      rw [savedRevision, revision]
      exact Nat.lt_add_right _ unsaved
    exact hypothesis stillUnsaved fun other member => never other (List.mem_cons_of_mem _ member)

/-- A refused draft changes nothing but the time of the last attempt, and there is something to
save. -/
theorem autosave_of_failed {now : Nat} (failed : (state.autosave now).2 = .failed) :
    (state.autosave now).1 = { state with lastAttempt := some now } ∧
      state.savedRevision ≠ state.revision := by
  have outcome := autosaves state now
  generalize state.autosave now = result at outcome failed
  cases outcome with
  | failed unsaved _ _ => exact ⟨rfl, unsaved⟩
  | _ => contradiction

/-- A draft that the host takes is what the annotation is written as. -/
theorem autosave_of_saved {now : Nat} (saved : (state.autosave now).2 = .saved) :
    (state.autosave now).1.versions = ⟨state.versions.result, some state.itemValues⟩ ∧
      (state.autosave now).1.snapshot = state.snapshot := by
  have outcome := autosaves state now
  generalize state.autosave now = result at outcome saved
  cases outcome with
  | saved => exact ⟨rfl, rfl⟩
  | _ => contradiction

section Start

variable (id : String) (kind : AnnotationKind) (tree : ElementTree) (settings : Settings)
  (session : Session)

/-- The counters of a run from a new annotation tell what its steps tell. -/
theorem account_start (operations : List Operation) :
    (start id kind tree settings session).Account operations :=
  account_run rfl rfl operations

/-- The settings stay in a run from a new annotation. -/
theorem settings_run (operations : List Operation) :
    ((start id kind tree settings session).run operations).settings = settings := by
  have zips := (zips_start id kind tree settings session).run operations
  exact zips.1

/-- An attempt in a run comes late enough behind the last one. -/
theorem isThrottled_run_iff (operations : List Operation) (now : Nat) :
    ((start id kind tree settings session).run operations).isThrottled now = false ↔
      ∀ last ∈ ((start id kind tree settings session).attempts operations).getLast?,
        settings.autosaveDelay ≤ now - last := by
  rw [isThrottled_eq_false_iff, settings_run,
    (account_start id kind tree settings session operations).lastAttempt]

/-- Drafts are never handed over too soon after one another. -/
theorem isChain_attempts (operations : List Operation) :
    ((start id kind tree settings session).attempts operations).IsChain
      fun earlier later => settings.autosaveDelay ≤ later - earlier := by
  induction operations using List.reverseRecOn with
  | nil => exact .nil
  | append_singleton operations operation hypothesis =>
    rw [attempts_concat, List.isChain_append]
    refine ⟨hypothesis, ?_, fun last isLast now isNext => ?_⟩
    · cases Step.attempt? _ with
      | none => exact .nil
      | some now => exact .singleton now
    · have attempt := Step.eq_some_of_attempt? (Option.mem_def.mp (by simpa using isNext))
      have late := (isAttempt_autosave_iff.mp attempt.2).2
      exact (isThrottled_run_iff id kind tree settings session operations now).mp late last isLast

/-- Behind a refused draft the next one is handed over as soon as enough time has passed, if nothing
was saved in between. -/
theorem isAttempt_of_failed (operations : List Operation) {now : Nat}
    (failed : (((start id kind tree settings session).run operations).autosave now).2 = .failed)
    (between : List Operation) (later : Nat) :
    let first := start id kind tree settings session
    let refused := ((first.run operations).autosave now).1
    (∀ step ∈ refused.steps between, step.saves = false) →
      (∀ last ∈ (first.attempts (operations ++ .autosave now :: between)).getLast?,
        settings.autosaveDelay ≤ later - last) →
      ((refused.run between).autosave later).2.isAttempt = true := by
  intro first refused never late
  have account : first.Account operations := account_start id kind tree settings session operations
  obtain ⟨made, differs⟩ := autosave_of_failed failed
  have unsaved : refused.savedRevision < refused.revision := by
    have grows : (first.run operations).savedRevision ≤ (first.run operations).revision := by
      rw [account.revision]
      exact Nat.le_add_right _ _
    show ((first.run operations).autosave now).1.savedRevision <
      ((first.run operations).autosave now).1.revision
    rw [made]
    exact Nat.lt_of_le_of_ne grows differs
  have whole : first.run (operations ++ .autosave now :: between) = refused.run between :=
    run_append first operations (.autosave now :: between)
  have unthrottled := (isThrottled_run_iff id kind tree settings session _ later).mpr late
  change (first.run (operations ++ .autosave now :: between)).isThrottled later = false
    at unthrottled
  rw [whole] at unthrottled
  exact isAttempt_autosave_iff.mpr ⟨Nat.ne_of_lt (unsaved_run unsaved never), unthrottled⟩

end Start

/-! ## Runs with autosaves -/

/-- In any run from a new annotation drafts are handed over no sooner after one another than the
settings say. A draft that the host refuses changes nothing of what is or was saved, so that the
next one is handed over as soon as enough time has passed; one that the host takes is stored as the
draft. And no autosave takes the annotation for unchanged if its areas or relations are not those of
the last save; here the removal of superseded classifications by itself is not among the
operations. -/
theorem run_autosave (id : String) (kind : AnnotationKind) (tree : ElementTree)
    (settings : Settings) (session : Session) (operations : List Operation) :
    let first := start id kind tree settings session
    let state := first.run operations
    (first.attempts operations).IsChain
        (fun earlier later => settings.autosaveDelay ≤ later - earlier) ∧
      (∀ now, (state.autosave now).2 = .failed →
        let refused := (state.autosave now).1
        refused.snapshot = state.snapshot ∧ refused.versions = state.versions ∧
          refused.savedRevision = state.savedRevision ∧
          first.savedSnapshot (operations ++ [.autosave now]) = first.savedSnapshot operations ∧
          ∀ between later, (∀ step ∈ refused.steps between, step.saves = false) →
            (∀ last ∈ (first.attempts (operations ++ .autosave now :: between)).getLast?,
              settings.autosaveDelay ≤ later - last) →
            ((refused.run between).autosave later).2.isAttempt = true) ∧
      (∀ now, (state.autosave now).2 = .saved →
        (state.autosave now).1.versions = ⟨state.versions.result, some state.itemValues⟩ ∧
          (state.autosave now).1.snapshot = state.snapshot) ∧
      ((∀ operation ∈ operations, operation ≠ .clean) →
        state.snapshot ≠ first.savedSnapshot operations →
          ∀ now, (state.autosave now).2 ≠ .unchanged) := by
  intro first state
  have account : first.Account operations := account_start id kind tree settings session operations
  refine ⟨isChain_attempts id kind tree settings session operations, fun now failed => ?_,
    fun now saved => autosave_of_saved saved, fun direct differs now unchanged => ?_⟩
  · have made := (autosave_of_failed failed).1
    have unsaving : Step.saves ⟨state, .autosave now⟩ = false := by
      show Operation.saves (.autosave now) (.autosave (state.autosave now).2) = false
      rw [failed]
      rfl
    refine ⟨?_, ?_, ?_, ?_,
      isAttempt_of_failed id kind tree settings session operations failed⟩
    · rw [made]
      rfl
    · rw [made]
    · rw [made]
    · rw [savedSnapshot_concat, unsaving]
      rfl
  · have saved : state.savedRevision = state.revision := by
      have outcome := autosaves state now
      generalize state.autosave now = result at outcome unchanged
      cases outcome with
      | unchanged saved => exact saved
      | _ => contradiction
    exact differs (snapshot_eq_savedSnapshot direct (account.saved_iff.mp saved))

set_option maxRecDepth 10000 in
/-- A refused draft of two loaded areas is handed over again once five seconds have passed, and is
stored then. -/
theorem refusedDraft_saved_later :
    let first := start "1" .manual (.ofConfig moodConfig .standard none) {} {}
    let operations := [.loadItems (moodItems ["good"]) {}, .refuseDrafts true]
    let between := [.autosave 100, .refuseDrafts false]
    let refused := ((first.run operations).autosave 0).1
    let later := first.run (operations ++ .autosave 0 :: between)
    ((first.run operations).autosave 0).2 = .failed ∧
      (∀ step ∈ refused.steps between, step.saves = false) ∧
      (∀ last ∈ (first.attempts (operations ++ .autosave 0 :: between)).getLast?,
        Settings.autosaveDelay {} ≤ 6000 - last) ∧
      ((refused.run between).autosave 6000).2.isAttempt = true ∧
      (later.autosave 6000).2 = .saved ∧
      (later.autosave 6000).1.versions = ⟨later.versions.result, some later.itemValues⟩ ∧
      (∀ operation ∈ operations, operation ≠ .clean) ∧
      (first.run operations).snapshot ≠ first.savedSnapshot operations ∧
      ((first.run operations).autosave 0).2 ≠ .unchanged := by
  rw [ofConfig_moodConfig]
  intro first operations between refused later
  obtain ⟨-, refuses, -, unchanged⟩ := run_autosave "1" .manual moodTree {} {} operations
  obtain ⟨-, -, stores, -⟩ :=
    run_autosave "1" .manual moodTree {} {} (operations ++ .autosave 0 :: between)
  obtain ⟨failed, never, attempts, saved⟩ :
      ((first.run operations).autosave 0).2 = .failed ∧
        (∀ step ∈ refused.steps between, step.saves = false) ∧
        first.attempts (operations ++ .autosave 0 :: between) = [0] ∧
        (later.autosave 6000).2 = .saved := by decide +kernel
  have late : ∀ last ∈ (first.attempts (operations ++ .autosave 0 :: between)).getLast?,
      Settings.autosaveDelay {} ≤ 6000 - last := by
    rw [attempts]
    rintro _ ⟨⟩
    decide
  have direct : ∀ operation ∈ operations, operation ≠ .clean := by simp [operations]
  have differs : (first.run operations).snapshot ≠ first.savedSnapshot operations := by
    intro same
    have empty := congrArg (fun snapshot : Snapshot => snapshot.areas.isEmpty) same
    exact absurd empty (by decide +kernel)
  obtain ⟨-, -, -, -, again⟩ := refuses 0 failed
  subst later refused first
  exact ⟨failed, never, late, again between 6000 never late, saved, (stores 6000 saved).1, direct,
    differs, unchanged direct differs 0⟩

/-- In any run from a new annotation an autosave hands a draft over just when the last attempt is
long enough ago and a step since the last save counts. Every step that changes the areas or the
relations counts, apart from the removal of superseded classifications by itself. -/
theorem run_submits_iff (id : String) (kind : AnnotationKind) (tree : ElementTree)
    (settings : Settings) (session : Session) (operations : List Operation) :
    let first := start id kind tree settings session
    (∀ now, ((first.run operations).autosave now).2.isAttempt = true ↔
      (∀ last ∈ (first.attempts operations).getLast?, settings.autosaveDelay ≤ now - last) ∧
        ∃ step ∈ first.unsaved operations, step.counts = true) ∧
    ∀ step ∈ first.steps operations, step.operation ≠ .clean →
      step.after.snapshot ≠ step.before.snapshot → step.counts = true := by
  intro first
  have account : first.Account operations := account_start id kind tree settings session operations
  refine ⟨fun now => ?_, fun step _ direct changes => ?_⟩
  · have something : (first.run operations).savedRevision ≠ (first.run operations).revision ↔
        ∃ step ∈ first.unsaved operations, step.counts = true := by
      rw [Ne, account.saved_iff]
      simp
    rw [isAttempt_autosave_iff, something,
      isThrottled_run_iff id kind tree settings session operations now]
    exact and_comm
  · by_contra uncounted
    exact changes (step.snapshot_after direct (Bool.eq_false_iff.mpr uncounted))

set_option maxRecDepth 10000 in
/-- A chosen mood changes the areas, and is handed over. -/
theorem chosenMood_submitted :
    let first := start "1" .manual (.ofConfig moodConfig .standard none) {} {}
    let choose : Operation := .create {} [("choices", .array [.string "good"])] "mood" "text"
    let step : Step := ⟨first, choose⟩
    step ∈ first.steps [choose] ∧ choose ≠ .clean ∧ step.after.snapshot ≠ step.before.snapshot ∧
      step.counts = true ∧ ((first.run [choose]).autosave 0).2.isAttempt = true := by
  rw [ofConfig_moodConfig]
  intro first choose step
  obtain ⟨submits, counts⟩ := run_submits_iff "1" .manual moodTree {} {} [choose]
  have member : step ∈ first.steps [choose] := List.mem_cons_self
  have direct : choose ≠ .clean := Operation.noConfusion
  have differs : step.after.snapshot ≠ step.before.snapshot := by
    intro same
    have empty := congrArg (fun snapshot : Snapshot => snapshot.areas.isEmpty) same
    exact absurd empty (by decide +kernel)
  have counted : step.counts = true := counts step member direct differs
  have unsaved : step ∈ first.unsaved [choose] := List.mem_cons_self
  refine ⟨member, direct, differs, counted, (submits 0).mpr ⟨?_, step, unsaved, counted⟩⟩
  rintro _ ⟨⟩

set_option maxRecDepth 10000 in
/-- Loaded suggestions are handed over as a draft, though nothing has changed. -/
theorem loadedSuggestions_submitted :
    ¬ ∀ (config : ConfigTree) (task : Option Json) (settings : Settings) (id : String)
        (operations : List Operation) (now : Nat),
      let first := start id .manual (.ofConfig config .standard task) settings {}
      ((first.run operations).autosave now).2.isAttempt = true →
        ∃ step ∈ first.unsaved operations, step.after.snapshot ≠ step.before.snapshot := by
  intro changed
  let first := start "1" .manual moodTree {} {}
  let load : Operation := .loadItems (moodItems ["good"]) { suggestions := true }
  have submitted := changed moodConfig none {} "1" [load] 0
  rw [ofConfig_moodConfig] at submitted
  obtain ⟨step, member, differs⟩ := submitted (by decide +kernel)
  have only : step = ⟨first, load⟩ := by
    have among : step ∈ first.steps [load] := (List.rtakeWhile_suffix _ _).subset member
    exact List.mem_singleton.mp among
  obtain ⟨areas, relations⟩ : (Step.after ⟨first, load⟩).areas.isEmpty = true ∧
      (Step.after ⟨first, load⟩).relations.isEmpty = true := by decide +kernel
  rw [only] at differs
  refine differs ?_
  rw [snapshot, List.isEmpty_iff.mp areas, List.isEmpty_iff.mp relations]
  rfl

end Labeling.AnnotationState
