import Labeling.Proofs.History.Zipper
import Mathlib.Data.Nat.PSub

/-!
# Histories under any calls

A user who does not restore what a history hands out, or ends suspensions that never began, loses
track of its states, but the history stays in bounds. Whatever the calls, its cursor is at one of
its states, it keeps no more states than its limit, and each place that it computes by a subtraction
is one. A reset returns to the state attached last; a history that none was attached to begins with
the first state that it records. The main statement is `run_inBounds`.
-/
namespace Labeling

namespace HistoryCall

variable {α : Type}

/-- The state that a call attaches. -/
def attached? : HistoryCall α → Option α
  | .attach state => some state
  | _ => none

/-- The state attached last. -/
def lastAttached (calls : List (HistoryCall α)) : Option α := (calls.filterMap attached?).getLast?

/-- The state that a call records, where recording has been suspended some times. -/
def recorded? (depth : Nat) : HistoryCall α → Option α
  | .record state => if depth = 0 then some state else none
  | .unfreeze state => if depth - 1 = 0 then some state else none
  | _ => none

/-- How often recording is suspended behind a call. -/
def depthBehind (depth : Nat) : HistoryCall α → Nat
  | .freeze => depth + 1
  | .unfreeze _ => depth - 1
  | .attach _ => 0
  | _ => depth

/-- The first state recorded, where recording has been suspended some times. -/
def firstRecorded : Nat → List (HistoryCall α) → Option α
  | _, [] => none
  | depth, call :: calls => (call.recorded? depth).or (firstRecorded (call.depthBehind depth) calls)

/-- The state that a new history begins with under some calls: the one attached last, or the first
one recorded where none is attached. -/
def beginning (calls : List (HistoryCall α)) : Option α :=
  (lastAttached calls).or (firstRecorded 0 calls)

/-- A suspension that ends without having begun records, too. -/
example : beginning [.undo, .freeze, .record 1, .freeze, .unfreeze 2, .unfreeze 3, .record 4] =
    some 3 := by decide

/-- An attached state is the last one, unless another one is attached behind it. -/
theorem lastAttached_attach (state : α) (calls : List (HistoryCall α)) :
    lastAttached (.attach state :: calls) = (lastAttached calls).or (some state) := by
  have attached : (HistoryCall.attach state).attached? = some state := rfl
  rw [lastAttached, List.filterMap_cons_some attached, List.getLast?_cons, lastAttached]
  cases (calls.filterMap attached?).getLast? with
  | none => rfl
  | some last => rfl

/-- Other calls attach nothing. -/
theorem lastAttached_cons {call : HistoryCall α} (other : call.attached? = none)
    (calls : List (HistoryCall α)) : lastAttached (call :: calls) = lastAttached calls := by
  rw [lastAttached, List.filterMap_cons_none other, lastAttached]

end HistoryCall

namespace History

variable {α : Type} {history : History α} {limit : Option Nat}

/-- The history after a run of calls. -/
def run [BEq α] (history : History α) (calls : List (HistoryCall α)) : History α :=
  calls.foldl (fun history call => (history.call call).1) history

/-! ## Bounds -/

/-- A history with a limit is in bounds. -/
structure InBounds (limit : Option Nat) (history : History α) : Prop where
  /-- The limit is the given one. -/
  limit_eq : history.limit = limit
  /-- The cursor is at one of the states. -/
  inside : history.states ≠ [] → history.cursor < history.states.length
  /-- Without states it is at the beginning. -/
  atStart : history.states = [] → history.cursor = 0
  /-- There are no more states than the limit, where at least one is kept. -/
  length_le : ∀ most, limit = some most → history.states.length ≤ max most 1

/-- Something is left of a list at whose end a state was added. -/
theorem trimmed_ne_nil (limit : Option Nat) (states : List α) (state : α) :
    trimmed limit (states ++ [state]) ≠ [] := by
  cases limit with
  | none => simp [trimmed]
  | some most =>
    have positive : 1 ≤ max most 1 := Nat.le_max_right most 1
    rw [trimmed, ne_eq, List.drop_eq_nil_iff, List.length_append, List.length_singleton]
    omega

/-- No more is left than the limit. -/
theorem length_trimmed_le (most : Nat) (states : List α) :
    (trimmed (some most) states).length ≤ max most 1 := by
  rw [trimmed, List.length_drop]
  omega

/-- A history of one state is in bounds. -/
theorem inBounds_singleton {state : α} (limit_eq : history.limit = limit)
    (states : history.states = [state]) (cursor : history.cursor = 0) :
    history.InBounds limit where
  limit_eq := limit_eq
  inside _ := by rw [states, cursor]; exact Nat.one_pos
  atStart none := absurd (states.symm.trans none) (List.cons_ne_nil state [])
  length_le most _ := by rw [states]; exact Nat.le_max_right most 1

/-- A history with a new state at its end is in bounds. -/
theorem InBounds.push (inBounds : history.InBounds limit) (state : α) :
    (history.push state).InBounds limit := by
  have some : (history.push state).states ≠ [] := trimmed_ne_nil _ _ state
  refine ⟨inBounds.limit_eq, fun _ => ?_, fun none => absurd none some, fun most same => ?_⟩
  · exact Nat.sub_one_lt_of_lt (List.length_pos_iff.mpr some)
  · have limited : history.limit = Option.some most := inBounds.limit_eq.trans same
    rw [History.push, limited]
    exact length_trimmed_le most _

/-- Recording keeps the bounds. -/
theorem InBounds.record [BEq α] (inBounds : history.InBounds limit) (state : α) :
    (history.record state).1.InBounds limit := by
  rw [History.record]
  split
  · exact ⟨inBounds.limit_eq, inBounds.inside, inBounds.atStart, inBounds.length_le⟩
  · split
    · exact inBounds
    · split
      · exact inBounds_singleton inBounds.limit_eq rfl rfl
      · split
        · exact inBounds
        · exact inBounds.push state

/-- Every call keeps the bounds. -/
theorem InBounds.call [BEq α] (inBounds : history.InBounds limit) (call : HistoryCall α) :
    (history.call call).1.InBounds limit := by
  cases call with
  | record state => exact inBounds.record state
  | undo =>
    simp only [History.call, History.undo]
    split
    · refine ⟨inBounds.limit_eq, fun some => ?_, fun none => ?_, inBounds.length_le⟩
      · exact Nat.lt_of_le_of_lt (Nat.sub_le _ 1) (inBounds.inside some)
      · exact congrArg (· - 1) (inBounds.atStart none)
    · exact inBounds
  | redo =>
    simp only [History.call, History.redo]
    split
    · rename_i later
      have below : history.cursor + 1 < history.states.length := decide_eq_true_iff.mp later
      refine ⟨inBounds.limit_eq, fun _ => below, fun none => ?_, inBounds.length_le⟩
      exact absurd (List.length_eq_zero_iff.mpr none) (Nat.ne_of_gt (Nat.zero_lt_of_lt below))
    · exact inBounds
  | reset =>
    simp only [History.call, History.reset]
    split
    · exact inBounds
    · exact inBounds_singleton inBounds.limit_eq rfl rfl
  | freeze => exact ⟨inBounds.limit_eq, inBounds.inside, inBounds.atStart, inBounds.length_le⟩
  | unfreeze state =>
    have lowered : InBounds limit { history with frozen := history.frozen - 1 } :=
      ⟨inBounds.limit_eq, inBounds.inside, inBounds.atStart, inBounds.length_le⟩
    simp only [History.call, History.unfreeze]
    split
    · exact lowered.record state
    · exact lowered
  | attach state => exact inBounds_singleton inBounds.limit_eq rfl rfl

/-- A run of calls keeps the bounds. -/
theorem InBounds.run [BEq α] (inBounds : history.InBounds limit) (calls : List (HistoryCall α)) :
    (history.run calls).InBounds limit := by
  induction calls generalizing history with
  | nil => exact inBounds
  | cons call calls hypothesis => exact hypothesis (inBounds.call call)

/-! ## Checked calls -/

/-- The history with a new state behind the current one, if its place can be computed. -/
def pushChecked? (history : History α) (state : α) : Option (History α) :=
  let states := trimmed history.limit (history.states.take (history.cursor + 1) ++ [state])
  (states.length.psub 1).map fun cursor => { history with states := states, cursor := cursor }

/-- Record a state, if its place can be computed. -/
def recordChecked? [BEq α] (history : History α) (state : α) : Option (History α × Bool) :=
  if history.skipNext then some ({ history with skipNext := false }, false)
  else if 0 < history.frozen then some (history, false)
  else if history.states.isEmpty then some (history.attach state, true)
  else if history.current? == some state then some (history, false)
  else (history.pushChecked? state).map (·, true)

/-- One state back, if its place can be computed. -/
def undoChecked? (history : History α) : Option (History α × Option α) :=
  if history.canUndo then
    (history.cursor.psub 1).map fun cursor =>
      let history := { history with cursor := cursor, skipNext := true }
      (history, history.current?)
  else some (history, none)

/-- End one suspension, if the place of the state to record can be computed. -/
def unfreezeChecked? [BEq α] (history : History α) (state : α) : Option (History α × Bool) :=
  let history := { history with frozen := history.frozen - 1 }
  if history.frozen = 0 then history.recordChecked? state else some (history, false)

/-- Carry out a call, if each place that it needs can be computed. -/
def callChecked? [BEq α] (history : History α) :
    HistoryCall α → Option (History α × HistoryReply α)
  | .record state =>
    (history.recordChecked? state).map fun result => (result.1, .recorded result.2)
  | .undo => history.undoChecked?.map fun result => (result.1, .handedOut result.2)
  | .unfreeze state =>
    (history.unfreezeChecked? state).map fun result => (result.1, .recorded result.2)
  | call => some (history.call call)

/-- The history after a run of calls, if each place on the way can be computed. -/
def runChecked? [BEq α] (history : History α) (calls : List (HistoryCall α)) :
    Option (History α) :=
  calls.foldlM (fun history call => (history.callChecked? call).map (·.1)) history

/-- The last of some states has a place, since a pushed state is never trimmed away. -/
theorem pushChecked?_eq (history : History α) (state : α) :
    history.pushChecked? state = some (history.push state) := by
  have some := trimmed_ne_nil history.limit (history.states.take (history.cursor + 1)) state
  rw [pushChecked?, Nat.psub_eq_sub (List.length_pos_iff.mpr some)]
  rfl

/-- The place of a recorded state can be computed. -/
theorem recordChecked?_eq [BEq α] (history : History α) (state : α) :
    history.recordChecked? state = some (history.record state) := by
  rw [recordChecked?, record, pushChecked?_eq, Option.map_some]
  simp only [apply_ite some]

/-- Every place that a call needs can be computed. -/
theorem callChecked?_eq [BEq α] (history : History α) (call : HistoryCall α) :
    history.callChecked? call = some (history.call call) := by
  cases call with
  | record state =>
    rw [callChecked?, recordChecked?_eq]
    rfl
  | undo =>
    rw [callChecked?, undoChecked?, call, undo]
    by_cases earlier : history.canUndo = true
    · have below : 1 ≤ history.cursor := decide_eq_true_iff.mp earlier
      rw [if_pos earlier, if_pos earlier, Nat.psub_eq_sub below]
      rfl
    · rw [if_neg earlier, if_neg earlier]
      rfl
  | unfreeze state =>
    rw [callChecked?, unfreezeChecked?, call, unfreeze]
    dsimp only
    rw [recordChecked?_eq]
    split <;> rfl
  | _ => rfl

/-- Every place that a run of calls needs can be computed. -/
theorem runChecked?_eq [BEq α] (history : History α) (calls : List (HistoryCall α)) :
    history.runChecked? calls = some (history.run calls) := by
  induction calls generalizing history with
  | nil => rfl
  | cons call calls hypothesis =>
    rw [runChecked?, List.foldlM_cons, callChecked?_eq]
    exact hypothesis (history.call call).1

/-! ## Resetting -/

/-- A reset hands out the baseline. -/
theorem reset_eq_baseline (history : History α) : history.reset.2 = history.baseline := by
  rw [reset]
  cases history.baseline with
  | none => rfl
  | some state => rfl

/-- Nothing was attached to a history, and it has recorded nothing. -/
structure Unbegun (history : History α) : Prop where
  /-- There are no states. -/
  states : history.states = []
  /-- The cursor is at the beginning. -/
  cursor : history.cursor = 0
  /-- There is nothing to return to. -/
  baseline : history.baseline = none
  /-- Nothing was handed out. -/
  skipNext : history.skipNext = false

/-- A history that began with a state. -/
structure Begun (origin : α) (history : History α) : Prop where
  /-- There are states. -/
  states : history.states ≠ []
  /-- A reset returns to the state. -/
  baseline : history.baseline = some origin

/-- Recording does not begin a history anew. -/
theorem Begun.record [BEq α] {origin : α} (begun : history.Begun origin) (state : α) :
    (history.record state).1.Begun origin := by
  rw [History.record]
  split
  · exact ⟨begun.states, begun.baseline⟩
  · split
    · exact begun
    · split
      · rename_i none
        exact absurd (List.isEmpty_iff.mp none) begun.states
      · split
        · exact begun
        · exact ⟨trimmed_ne_nil _ _ state, begun.baseline⟩

/-- Only attaching begins a history anew. -/
theorem Begun.call [BEq α] {origin : α} (begun : history.Begun origin) {call : HistoryCall α}
    (other : call.attached? = none) : (history.call call).1.Begun origin := by
  cases call with
  | record state => exact begun.record state
  | undo =>
    simp only [History.call, History.undo]
    split
    · exact ⟨begun.states, begun.baseline⟩
    · exact begun
  | redo =>
    simp only [History.call, History.redo]
    split
    · exact ⟨begun.states, begun.baseline⟩
    · exact begun
  | reset =>
    simp only [History.call, History.reset, begun.baseline]
    exact ⟨List.cons_ne_nil origin [], rfl⟩
  | freeze => exact ⟨begun.states, begun.baseline⟩
  | unfreeze state =>
    have lowered : Begun origin { history with frozen := history.frozen - 1 } :=
      ⟨begun.states, begun.baseline⟩
    simp only [History.call, History.unfreeze]
    split
    · exact lowered.record state
    · exact lowered
  | attach state => contradiction

/-- A history begins with the state attached to it. -/
theorem begun_attach (history : History α) (state : α) : (history.attach state).Begun state :=
  ⟨List.cons_ne_nil state [], rfl⟩

/-- A history that began returns to the state attached last, or to the one that it began with. -/
theorem Begun.baseline_run [BEq α] {origin : α} (begun : history.Begun origin)
    (calls : List (HistoryCall α)) :
    (history.run calls).baseline = (HistoryCall.lastAttached calls).or (some origin) := by
  induction calls generalizing history origin with
  | nil => exact begun.baseline
  | cons call calls hypothesis =>
    cases attaches : call.attached? with
    | none =>
      rw [HistoryCall.lastAttached_cons attaches]
      exact hypothesis (begun.call attaches)
    | some state =>
      cases call with
      | attach state =>
        rw [HistoryCall.lastAttached_attach, Option.or_assoc]
        exact hypothesis (begun_attach history state)
      | _ => contradiction

/-- The first recording begins a history, unless recording is suspended. -/
theorem Unbegun.record [BEq α] (unbegun : history.Unbegun) (state : α) :
    (history.record state).1 = if history.frozen = 0 then history.attach state else history := by
  have none : history.states.isEmpty = true := List.isEmpty_iff.mpr unbegun.states
  rw [History.record, unbegun.skipNext, if_neg Bool.false_ne_true, if_pos none]
  by_cases free : history.frozen = 0
  · rw [if_neg (Nat.not_lt.mpr (Nat.le_of_eq free)), if_pos free]
  · rw [if_pos (Nat.pos_of_ne_zero free), if_neg free]

/-- The end of the last suspension begins a history, too. -/
theorem Unbegun.unfreeze [BEq α] (unbegun : history.Unbegun) (state : α) :
    (history.unfreeze state).1 =
      let lowered := { history with frozen := history.frozen - 1 }
      if lowered.frozen = 0 then lowered.attach state else lowered := by
  have lowered : Unbegun { history with frozen := history.frozen - 1 } :=
    ⟨unbegun.states, unbegun.cursor, unbegun.baseline, unbegun.skipNext⟩
  rw [History.unfreeze]
  dsimp only
  split
  · rename_i last
    rw [lowered.record, if_pos last]
  · rfl

/-- A call that records begins a history with what it records. -/
theorem Unbegun.begun [BEq α] (unbegun : history.Unbegun) {call : HistoryCall α} {state : α}
    (recorded : call.recorded? history.frozen = some state) :
    (history.call call).1.Begun state := by
  cases call with
  | record other =>
    obtain ⟨free, same⟩ := Option.ite_none_right_eq_some.mp recorded
    rw [call, unbegun.record, if_pos free, Option.some.inj same]
    exact begun_attach history state
  | unfreeze other =>
    obtain ⟨last, same⟩ := Option.ite_none_right_eq_some.mp recorded
    rw [call, unbegun.unfreeze, if_pos last, Option.some.inj same]
    exact begun_attach _ state
  | _ => contradiction

/-- A call that neither attaches nor records does not begin a history. -/
theorem Unbegun.call [BEq α] (unbegun : history.Unbegun) {call : HistoryCall α}
    (other : call.attached? = none) (none : call.recorded? history.frozen = none) :
    (history.call call).1.Unbegun ∧
      (history.call call).1.frozen = call.depthBehind history.frozen := by
  have same {next : History α} (stays : next = history) :
      next.Unbegun ∧ next.frozen = history.frozen := stays.symm ▸ ⟨unbegun, rfl⟩
  cases call with
  | record state =>
    refine same ((unbegun.record state).trans (if_neg fun free => ?_))
    rw [HistoryCall.recorded?, if_pos free] at none
    contradiction
  | undo => exact same (by rw [History.call, undo, canUndo, unbegun.cursor]; rfl)
  | redo => exact same (by rw [History.call, redo, canRedo, unbegun.states]; rfl)
  | reset => exact same (by rw [History.call, reset, unbegun.baseline])
  | freeze => exact ⟨⟨unbegun.states, unbegun.cursor, unbegun.baseline, unbegun.skipNext⟩, rfl⟩
  | unfreeze state =>
    have lowered := (unbegun.unfreeze state).trans (if_neg fun last => ?_)
    · rw [History.call, lowered]
      exact ⟨⟨unbegun.states, unbegun.cursor, unbegun.baseline, unbegun.skipNext⟩, rfl⟩
    · rw [HistoryCall.recorded?, if_pos last] at none
      contradiction
  | attach state => contradiction

/-- A history that has not begun returns to the state attached last, or to the first one that it
records. -/
theorem Unbegun.baseline_run [BEq α] (unbegun : history.Unbegun) (calls : List (HistoryCall α)) :
    (history.run calls).baseline =
      (HistoryCall.lastAttached calls).or (HistoryCall.firstRecorded history.frozen calls) := by
  induction calls generalizing history with
  | nil => exact unbegun.baseline
  | cons call calls hypothesis =>
    cases attaches : call.attached? with
    | some state =>
      cases call with
      | attach state =>
        rw [HistoryCall.lastAttached_attach, Option.or_assoc]
        exact (begun_attach history state).baseline_run calls
      | _ => contradiction
    | none =>
      rw [HistoryCall.lastAttached_cons attaches, HistoryCall.firstRecorded]
      cases records : call.recorded? history.frozen with
      | some state => exact (unbegun.begun records).baseline_run calls
      | none =>
        obtain ⟨next, depth⟩ := unbegun.call attaches records
        rw [Option.none_or, ← depth]
        exact hypothesis next

/-- Under any calls a new history stays in bounds, and computes no place below zero. A reset then
hands out the state attached last, or the first one recorded where none was attached; without either
it hands out nothing. -/
theorem run_inBounds [BEq α] (limit : Option Nat) (calls : List (HistoryCall α)) :
    let start : History α := { limit := limit }
    (start.run calls).InBounds limit ∧ start.runChecked? calls = some (start.run calls) ∧
      (start.run calls).reset.2 = HistoryCall.beginning calls := by
  intro start
  have inBounds : start.InBounds limit :=
    ⟨rfl, fun some => absurd rfl some, fun _ => rfl, fun most _ => Nat.zero_le (max most 1)⟩
  have unbegun : start.Unbegun := ⟨rfl, rfl, rfl, rfl⟩
  refine ⟨inBounds.run calls, runChecked?_eq start calls, ?_⟩
  rw [reset_eq_baseline]
  exact unbegun.baseline_run calls

end History

end Labeling
