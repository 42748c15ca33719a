import Labeling.History

/-!
# Histories as bounded zippers

A history is a list of states with a cursor, a latch and a count of suspensions. Its user thinks of
a zipper instead: the states before the present one, the present one, and the states undone. Here
both are driven by the same calls. Whoever restores every state that is handed out, and records
right behind it, cannot tell them apart: `history_agrees_with_zipper`.
-/
namespace Labeling

/-- A call of a history. -/
inductive HistoryCall (α : Type) where
  /-- Record a state. -/
  | record (state : α)
  /-- Ask for the state before the present one. -/
  | undo
  /-- Ask for the state behind the present one. -/
  | redo
  /-- Ask for the state attached last. -/
  | reset
  /-- Suspend recording. -/
  | freeze
  /-- End one suspension with a state to record. -/
  | unfreeze (state : α)
  /-- Begin anew with a state. -/
  | attach (state : α)

/-- The answer to a call. -/
inductive HistoryReply (α : Type) where
  /-- The call has no answer. -/
  | done
  /-- Whether a state was recorded. -/
  | recorded (value : Bool)
  /-- The state to restore, if there is one. -/
  | handedOut (state : Option α)
deriving DecidableEq

/-- Whether a state was handed out for restoring. -/
def HistoryReply.restores {α : Type} : HistoryReply α → Bool
  | .handedOut (some _) => true
  | _ => false

/-- Whether no call but a recording comes first. -/
def HistoryCall.beginsRecording {α : Type} : List (HistoryCall α) → Bool
  | [] => true
  | .record _ :: _ => true
  | _ => false

/-- What can be seen of a history between two calls. -/
structure HistoryView (α : Type) where
  /-- The number of states. -/
  length : Nat
  /-- The place of the present state. -/
  index : Nat
  /-- The present state. -/
  current : Option α
  /-- Whether there is a state to undo to. -/
  canUndo : Bool
  /-- Whether there is a state to redo to. -/
  canRedo : Bool
deriving DecidableEq

namespace History

variable {α : Type}

/-- Carry out a call. -/
def call [BEq α] (history : History α) : HistoryCall α → History α × HistoryReply α
  | .record state => ((history.record state).1, .recorded (history.record state).2)
  | .undo => (history.undo.1, .handedOut history.undo.2)
  | .redo => (history.redo.1, .handedOut history.redo.2)
  | .reset => (history.reset.1, .handedOut history.reset.2)
  | .freeze => (history.freeze, .done)
  | .unfreeze state => ((history.unfreeze state).1, .recorded (history.unfreeze state).2)
  | .attach state => (history.attach state, .done)

/-- What can be seen of the history. -/
def view (history : History α) : HistoryView α where
  length := history.states.length
  index := history.cursor
  current := history.current?
  canUndo := history.canUndo
  canRedo := history.canRedo

/-- What calls in a row answer, each with what can be seen behind it. -/
def observed [BEq α] (history : History α) :
    List (HistoryCall α) → List (HistoryReply α × HistoryView α)
  | [] => []
  | call :: calls =>
    let (next, reply) := history.call call
    (reply, next.view) :: next.observed calls

/-- Behind every state handed out, a recording comes next. -/
def Restores [BEq α] (history : History α) : List (HistoryCall α) → Prop
  | [] => True
  | call :: calls =>
    ((history.call call).2.restores = true → HistoryCall.beginsRecording calls = true) ∧
      (history.call call).1.Restores calls

instance decidableRestores [BEq α] (history : History α) :
    (calls : List (HistoryCall α)) → Decidable (history.Restores calls)
  | [] => inferInstanceAs (Decidable True)
  | call :: calls =>
    have := decidableRestores (history.call call).1 calls
    inferInstanceAs (Decidable (_ ∧ _))

end History

/-- The states before the present one, the present one, and those undone. -/
structure Zipper (α : Type) where
  /-- The earlier states, the latest first. -/
  past : List α := []
  /-- The present state. -/
  present : α
  /-- The states undone, the nearest first. -/
  future : List α := []
  /-- How often recording has been suspended. -/
  depth : Nat := 0
  /-- The state attached last. -/
  origin : α
  /-- Whether the last call handed a state out. -/
  applied : Bool := false

namespace Zipper

variable {α : Type}

/-- The zipper of one state. -/
def attach (state : α) : Zipper α := { present := state, origin := state }

/-- The newest of some earlier states that a limit leaves beside the present one. -/
def newest (limit : Option Nat) (past : List α) : List α :=
  match limit with
  | none => past
  | some limit => past.take (max limit 1 - 1)

/-- A different state becomes the present one, unless recording is suspended. -/
def record [BEq α] (limit : Option Nat) (zipper : Zipper α) (state : α) :
    Zipper α × Bool :=
  if 0 < zipper.depth || zipper.present == state then (zipper, false)
  else
    ({ zipper with
        past := newest limit (zipper.present :: zipper.past), present := state, future := [] },
      true)

/-- Shift by one state into the past. -/
def undo (zipper : Zipper α) : Zipper α × Option α :=
  match zipper.past with
  | [] => (zipper, none)
  | state :: past =>
    ({ zipper with
        past := past, present := state, future := zipper.present :: zipper.future,
        applied := true },
      some state)

/-- Shift by one state into the future. -/
def redo (zipper : Zipper α) : Zipper α × Option α :=
  match zipper.future with
  | [] => (zipper, none)
  | state :: future =>
    ({ zipper with
        past := zipper.present :: zipper.past, present := state, future := future,
        applied := true },
      some state)

/-- The state attached last becomes the only one; suspensions stay. -/
def reset (zipper : Zipper α) : Zipper α × Option α :=
  ({ attach zipper.origin with depth := zipper.depth, applied := true }, some zipper.origin)

/-- End one suspension, and record a state if none is left. -/
def unfreeze [BEq α] (limit : Option Nat) (zipper : Zipper α) (state : α) :
    Zipper α × Bool :=
  let zipper := { zipper with depth := zipper.depth - 1 }
  if zipper.depth = 0 then zipper.record limit state else (zipper, false)

/-- Carry out a call. The recording right behind a state handed out is left out. -/
def call [BEq α] (limit : Option Nat) (zipper : Zipper α) (call : HistoryCall α) :
    Zipper α × HistoryReply α :=
  let settled := { zipper with applied := false }
  match call with
  | .record state =>
    if zipper.applied then (settled, .recorded false)
    else ((settled.record limit state).1, .recorded (settled.record limit state).2)
  | .undo => (settled.undo.1, .handedOut settled.undo.2)
  | .redo => (settled.redo.1, .handedOut settled.redo.2)
  | .reset => (settled.reset.1, .handedOut settled.reset.2)
  | .freeze => ({ settled with depth := settled.depth + 1 }, .done)
  | .unfreeze state =>
    ((settled.unfreeze limit state).1, .recorded (settled.unfreeze limit state).2)
  | .attach state => (attach state, .done)

/-- What can be seen of the zipper. -/
def view (zipper : Zipper α) : HistoryView α where
  length := zipper.past.length + 1 + zipper.future.length
  index := zipper.past.length
  current := some zipper.present
  canUndo := !zipper.past.isEmpty
  canRedo := !zipper.future.isEmpty

/-- What calls in a row answer, each with what can be seen behind it. -/
def observed [BEq α] (limit : Option Nat) (zipper : Zipper α) :
    List (HistoryCall α) → List (HistoryReply α × HistoryView α)
  | [] => []
  | call :: calls =>
    let (next, reply) := zipper.call limit call
    (reply, next.view) :: next.observed limit calls

/-- A history holds the states of a zipper in one row, with the cursor at the present one. -/
structure Represents (limit : Option Nat) (zipper : Zipper α) (history : History α) : Prop where
  /-- The limit is the given one. -/
  limit_eq : history.limit = limit
  /-- Earlier states come before the present one, and undone states behind it. -/
  states_eq : history.states = zipper.past.reverse ++ zipper.present :: zipper.future
  /-- The cursor counts the earlier states. -/
  cursor_eq : history.cursor = zipper.past.length
  /-- Suspensions are counted alike. -/
  frozen_eq : history.frozen = zipper.depth
  /-- The latch is set behind a state handed out. -/
  skipNext_eq : history.skipNext = zipper.applied
  /-- A reset returns to the state attached last. -/
  baseline_eq : history.baseline = some zipper.origin

variable {limit : Option Nat} {zipper : Zipper α} {history : History α}

/-- Attaching a state gives the zipper of that state, whatever was there before. -/
theorem Represents.attach (limit_eq : history.limit = limit) (state : α) :
    Represents limit (Zipper.attach state) (history.attach state) where
  limit_eq := limit_eq
  states_eq := rfl
  cursor_eq := rfl
  frozen_eq := rfl
  skipNext_eq := rfl
  baseline_eq := rfl

/-- The state at the cursor is the present one. -/
theorem Represents.current? (represents : Represents limit zipper history) :
    history.current? = some zipper.present := by
  have reversed : zipper.past.length = zipper.past.reverse.length := List.length_reverse.symm
  rw [History.current?, represents.states_eq, represents.cursor_eq, reversed,
    List.getElem?_append_right (Nat.le_refl _), Nat.sub_self]
  rfl

/-- There is a state to undo to when there is an earlier one. -/
theorem Represents.canUndo (represents : Represents limit zipper history) :
    history.canUndo = !zipper.past.isEmpty := by
  rw [History.canUndo, represents.cursor_eq]
  cases zipper.past <;> simp

/-- There is a state to redo to when one was undone. -/
theorem Represents.canRedo (represents : Represents limit zipper history) :
    history.canRedo = !zipper.future.isEmpty := by
  rw [History.canRedo, represents.states_eq, represents.cursor_eq]
  cases zipper.future <;> simp

/-- A history and its zipper look the same. -/
theorem Represents.view (represents : Represents limit zipper history) :
    history.view = zipper.view := by
  have length : history.states.length = zipper.past.length + 1 + zipper.future.length := by
    rw [represents.states_eq]
    simp only [List.length_append, List.length_reverse, List.length_cons]
    omega
  rw [History.view, Zipper.view, represents.current?, represents.canUndo, represents.canRedo,
    represents.cursor_eq, length]

/-- The states up to the cursor are the earlier ones and the present one. -/
theorem Represents.take_states (represents : Represents limit zipper history) :
    history.states.take (history.cursor + 1) = (zipper.present :: zipper.past).reverse := by
  have reversed : zipper.past.length = zipper.past.reverse.length := List.length_reverse.symm
  rw [represents.states_eq, represents.cursor_eq, reversed, List.take_length_add_append]
  simp

/-- At the limit the oldest states go: what stays before a new state is the newest ones. -/
theorem trimmed_append (limit : Option Nat) (past : List α) (state : α) :
    History.trimmed limit (past.reverse ++ [state]) = (newest limit past).reverse ++ [state] := by
  cases limit with
  | none => rfl
  | some limit =>
    have positive : 1 ≤ max limit 1 := Nat.le_max_right limit 1
    have dropped : (past.reverse ++ [state]).length - max limit 1 ≤ past.reverse.length := by
      simp only [List.length_append, List.length_cons, List.length_nil]
      omega
    have counts : past.length - (max limit 1 - 1) =
        (past.reverse ++ [state]).length - max limit 1 := by
      simp only [List.length_append, List.length_reverse, List.length_cons, List.length_nil]
      omega
    rw [History.trimmed, newest, List.drop_append_of_le_length dropped, List.reverse_take, counts]

/-- A pushed state becomes the present one, before it the newest earlier ones. -/
theorem Represents.push (represents : Represents limit zipper history) (state : α) :
    Represents limit
      { zipper with
        past := newest limit (zipper.present :: zipper.past), present := state, future := [] }
      (history.push state) := by
  have states : (history.push state).states =
      (newest limit (zipper.present :: zipper.past)).reverse ++ [state] := by
    rw [History.push, represents.take_states, represents.limit_eq]
    exact trimmed_append limit (zipper.present :: zipper.past) state
  have cursor : (history.push state).cursor = (history.push state).states.length - 1 := rfl
  constructor
  · exact represents.limit_eq
  · exact states
  · rw [cursor, states]
    simp
  · exact represents.frozen_eq
  · exact represents.skipNext_eq
  · exact represents.baseline_eq

/-- Where no state was just handed out, recording is recording in the zipper. -/
theorem Represents.record [BEq α] (represents : Represents limit zipper history)
    (settled : zipper.applied = false) (state : α) :
    Represents limit (zipper.record limit state).1 (history.record state).1 ∧
      (history.record state).2 = (zipper.record limit state).2 := by
  have latch : history.skipNext = false := represents.skipNext_eq.trans settled
  have nonempty : history.states.isEmpty = false := by
    rw [represents.states_eq]
    simp
  have compared : (history.current? == some state) = (zipper.present == state) := by
    rw [represents.current?]
    rfl
  rw [History.record, Zipper.record, latch, represents.frozen_eq, nonempty, compared]
  by_cases suspended : 0 < zipper.depth
  · simpa [suspended] using represents
  · by_cases unchanged : (zipper.present == state) = true
    · simpa [suspended, unchanged] using represents
    · simpa [suspended, unchanged] using represents.push state

/-- Without the mark of a state handed out, and with the latch open, nothing else differs. -/
theorem Represents.settle (represents : Represents limit zipper history) :
    Represents limit { zipper with applied := false } { history with skipNext := false } where
  limit_eq := represents.limit_eq
  states_eq := represents.states_eq
  cursor_eq := represents.cursor_eq
  frozen_eq := represents.frozen_eq
  skipNext_eq := rfl
  baseline_eq := represents.baseline_eq

/-- Undoing shifts the zipper by one state into the past. -/
theorem Represents.undo (represents : Represents limit zipper history) :
    Represents limit zipper.undo.1 history.undo.1 ∧ history.undo.2 = zipper.undo.2 := by
  rw [History.undo, Zipper.undo, represents.canUndo]
  cases earlier : zipper.past with
  | nil => simpa using represents
  | cons state past =>
    have shifted : Represents limit
        { zipper with
          past := past, present := state, future := zipper.present :: zipper.future,
          applied := true }
        { history with cursor := history.cursor - 1, skipNext := true } := by
      constructor
      · exact represents.limit_eq
      · rw [represents.states_eq, earlier]
        simp
      · rw [represents.cursor_eq, earlier]
        simp
      · exact represents.frozen_eq
      · rfl
      · exact represents.baseline_eq
    exact ⟨shifted, shifted.current?⟩

/-- Redoing shifts the zipper by one state into the future. -/
theorem Represents.redo (represents : Represents limit zipper history) :
    Represents limit zipper.redo.1 history.redo.1 ∧ history.redo.2 = zipper.redo.2 := by
  rw [History.redo, Zipper.redo, represents.canRedo]
  cases later : zipper.future with
  | nil => simpa using represents
  | cons state future =>
    have shifted : Represents limit
        { zipper with
          past := zipper.present :: zipper.past, present := state, future := future,
          applied := true }
        { history with cursor := history.cursor + 1, skipNext := true } := by
      constructor
      · exact represents.limit_eq
      · rw [represents.states_eq, later]
        simp
      · rw [represents.cursor_eq]
        simp
      · exact represents.frozen_eq
      · rfl
      · exact represents.baseline_eq
    exact ⟨shifted, shifted.current?⟩

/-- A reset leaves the state attached last alone. -/
theorem Represents.reset (represents : Represents limit zipper history) :
    Represents limit zipper.reset.1 history.reset.1 ∧ history.reset.2 = zipper.reset.2 := by
  rw [History.reset, represents.baseline_eq]
  exact ⟨⟨represents.limit_eq, rfl, rfl, represents.frozen_eq, rfl, rfl⟩, rfl⟩

/-- Ending a suspension is the same in the zipper. -/
theorem Represents.unfreeze [BEq α] (represents : Represents limit zipper history)
    (settled : zipper.applied = false) (state : α) :
    Represents limit (zipper.unfreeze limit state).1 (history.unfreeze state).1 ∧
      (history.unfreeze state).2 = (zipper.unfreeze limit state).2 := by
  have lowered : Represents limit { zipper with depth := zipper.depth - 1 }
      { history with frozen := history.frozen - 1 } := by
    refine ⟨represents.limit_eq, represents.states_eq, represents.cursor_eq, ?_,
      represents.skipNext_eq, represents.baseline_eq⟩
    exact congrArg (· - 1) represents.frozen_eq
  rw [History.unfreeze, Zipper.unfreeze]
  simp only [represents.frozen_eq] at lowered ⊢
  by_cases outermost : zipper.depth - 1 = 0
  · simp only [if_pos outermost]
    exact lowered.record settled state
  · simp only [if_neg outermost]
    exact ⟨lowered, trivial⟩

/-- The mark is set by exactly the calls that hand a state out. -/
theorem applied_call [BEq α] (limit : Option Nat) (zipper : Zipper α) (call : HistoryCall α) :
    (zipper.call limit call).1.applied = (zipper.call limit call).2.restores := by
  cases call with
  | record state =>
    simp only [Zipper.call, Zipper.record]
    split
    · rfl
    · split <;> rfl
  | undo =>
    simp only [Zipper.call, Zipper.undo]
    cases zipper.past <;> rfl
  | redo =>
    simp only [Zipper.call, Zipper.redo]
    cases zipper.future <;> rfl
  | reset => rfl
  | freeze => rfl
  | unfreeze state =>
    simp only [Zipper.call, Zipper.unfreeze, Zipper.record]
    split
    · split <;> rfl
    · rfl
  | attach state => rfl

/-- Where no state was just handed out, every call is the same in the zipper. -/
theorem Represents.call_settled [BEq α] (represents : Represents limit zipper history)
    (settled : zipper.applied = false) (call : HistoryCall α) :
    Represents limit (zipper.call limit call).1 (history.call call).1 ∧
      (history.call call).2 = (zipper.call limit call).2 := by
  have same : { zipper with applied := false } = zipper := by rw [← settled]
  cases call with
  | record state =>
    obtain ⟨next, answer⟩ := represents.record settled state
    simp only [Zipper.call, History.call, same, settled, Bool.false_eq_true, if_false]
    exact ⟨next, congrArg HistoryReply.recorded answer⟩
  | undo =>
    simp only [Zipper.call, History.call, same]
    exact ⟨represents.undo.1, congrArg HistoryReply.handedOut represents.undo.2⟩
  | redo =>
    simp only [Zipper.call, History.call, same]
    exact ⟨represents.redo.1, congrArg HistoryReply.handedOut represents.redo.2⟩
  | reset =>
    simp only [Zipper.call, History.call, same]
    exact ⟨represents.reset.1, congrArg HistoryReply.handedOut represents.reset.2⟩
  | freeze =>
    refine ⟨⟨represents.limit_eq, represents.states_eq, represents.cursor_eq, ?_,
      represents.skipNext_eq.trans settled, represents.baseline_eq⟩, rfl⟩
    exact congrArg (· + 1) represents.frozen_eq
  | unfreeze state =>
    obtain ⟨next, answer⟩ := represents.unfreeze settled state
    simp only [Zipper.call, History.call, same]
    exact ⟨next, congrArg HistoryReply.recorded answer⟩
  | attach state => exact ⟨Represents.attach represents.limit_eq state, rfl⟩

/-- One call of a user who records behind every state handed out. -/
theorem Represents.call [BEq α] (represents : Represents limit zipper history)
    {call : HistoryCall α} {calls : List (HistoryCall α)}
    (ready : zipper.applied = true → HistoryCall.beginsRecording (call :: calls) = true) :
    Represents limit (zipper.call limit call).1 (history.call call).1 ∧
      (history.call call).2 = (zipper.call limit call).2 := by
  cases handed : zipper.applied with
  | false => exact represents.call_settled handed call
  | true =>
    cases call with
    | record state =>
      have latch : history.skipNext = true := represents.skipNext_eq.trans handed
      simp only [Zipper.call, History.call, History.record, handed, latch, if_true]
      exact ⟨represents.settle, trivial⟩
    | _ => exact absurd (ready handed) (by simp [HistoryCall.beginsRecording])

/-- A run of calls of such a user looks the same from equal beginnings. -/
theorem Represents.observed [BEq α] (represents : Represents limit zipper history)
    {calls : List (HistoryCall α)}
    (ready : zipper.applied = true → HistoryCall.beginsRecording calls = true)
    (restores : history.Restores calls) :
    history.observed calls = zipper.observed limit calls := by
  induction calls generalizing zipper history with
  | nil => rfl
  | cons call calls hypothesis =>
    obtain ⟨next, answer⟩ := represents.call ready
    have nextReady : (zipper.call limit call).1.applied = true →
        HistoryCall.beginsRecording calls = true := by
      rw [applied_call, ← answer]
      exact restores.1
    simp only [History.observed, Zipper.observed, answer, next.view,
      hypothesis next nextReady restores.2]

end Zipper

/-- A history and the bounded zipper of its first state answer every run of calls alike and look
alike behind each, as long as a recording follows every state handed out. -/
theorem history_agrees_with_zipper {α : Type} [BEq α] (limit : Option Nat) (state : α)
    (calls : List (HistoryCall α))
    (restores : (History.attach { limit := limit } state).Restores calls) :
    (History.attach { limit := limit } state).view = (Zipper.attach state).view ∧
      (History.attach { limit := limit } state).observed calls =
        (Zipper.attach state).observed limit calls := by
  have limited : ({ limit := limit } : History α).limit = limit := rfl
  have start := Zipper.Represents.attach limited state
  exact ⟨start.view, start.observed (fun handed => nomatch handed) restores⟩

/-- At a limit of two states, with an undo while recording is suspended and a reset behind it. -/
theorem history_agrees_with_zipper_suspended :
    let history := History.attach { limit := some 2 } 0
    let calls : List (HistoryCall Nat) :=
      [.record 1, .record 2, .freeze, .record 7, .undo, .record 1, .unfreeze 3, .undo, .record 5,
        .redo, .record 3, .reset, .record 9, .redo, .attach 4, .record 4]
    history.Restores calls ∧ history.view = (Zipper.attach 0).view ∧
      history.observed calls = (Zipper.attach 0).observed (some 2) calls := by
  have restores : (History.attach { limit := some 2 } 0).Restores
      [.record 1, .record 2, .freeze, .record 7, .undo, .record 1, .unfreeze 3, .undo, .record 5,
        .redo, .record 3, .reset, .record 9, .redo, .attach 4, .record 4] := by
    decide
  exact ⟨restores, history_agrees_with_zipper (some 2) 0 _ restores⟩

end Labeling
