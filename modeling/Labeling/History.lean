/-!
# Undo histories

A history is a list of recorded states and a cursor at the current one. Recording drops the states
behind the cursor and, at the limit, the oldest one. While a history is frozen nothing is recorded;
after a state has been handed out for restoring, the next recording is the restored state itself
and is left out.
-/
namespace Labeling

/-- Recorded states with a cursor. -/
structure History (α : Type) where
  /-- The most states to keep; at least one is kept. -/
  limit : Option Nat := none
  /-- The states, oldest first. -/
  states : List α := []
  /-- The place of the current state. -/
  cursor : Nat := 0
  /-- The state that a reset returns to. -/
  baseline : Option α := none
  /-- How often the history has been frozen and not unfrozen. -/
  frozen : Nat := 0
  /-- Whether the next recording is left out. -/
  skipNext : Bool := false
deriving BEq

namespace History

variable {α : Type}

/-- The state at the cursor. -/
def current? (history : History α) : Option α := history.states[history.cursor]?

/-- Whether there is a state before the current one. -/
def canUndo (history : History α) : Bool := 0 < history.cursor

/-- Whether there is a state behind the current one. -/
def canRedo (history : History α) : Bool := history.cursor + 1 < history.states.length

/-- The history that begins with a state. -/
def attach (history : History α) (state : α) : History α :=
  { history with states := [state], cursor := 0, baseline := some state, frozen := 0,
                 skipNext := false }

/-- The newest states of a list, as many as are kept. -/
def trimmed (limit : Option Nat) (states : List α) : List α :=
  match limit with
  | none => states
  | some limit => states.drop (states.length - max limit 1)

/-- The history with a new state behind the current one. -/
def push (history : History α) (state : α) : History α :=
  let states := trimmed history.limit (history.states.take (history.cursor + 1) ++ [state])
  { history with states := states, cursor := states.length - 1 }

/-- Record a state, and tell whether it was recorded. Right after a restored state, while frozen,
and where nothing has changed, it is not. -/
def record [BEq α] (history : History α) (state : α) : History α × Bool :=
  if history.skipNext then ({ history with skipNext := false }, false)
  else if 0 < history.frozen then (history, false)
  else if history.states.isEmpty then (history.attach state, true)
  else if history.current? == some state then (history, false)
  else (history.push state, true)

/-- One state back: the state to restore, if there is one. -/
def undo (history : History α) : History α × Option α :=
  if history.canUndo then
    let history := { history with cursor := history.cursor - 1, skipNext := true }
    (history, history.current?)
  else (history, none)

/-- One state forward: the state to restore, if there is one. -/
def redo (history : History α) : History α × Option α :=
  if history.canRedo then
    let history := { history with cursor := history.cursor + 1, skipNext := true }
    (history, history.current?)
  else (history, none)

/-- Back to the baseline, forgetting every other state: the state to restore, if there is one. -/
def reset (history : History α) : History α × Option α :=
  match history.baseline with
  | none => (history, none)
  | some state =>
    ({ history with states := [state], cursor := 0, skipNext := true }, some state)

/-- Suspend recording. -/
def freeze (history : History α) : History α := { history with frozen := history.frozen + 1 }

/-- End one suspension, and record a state if it was the last one. -/
def unfreeze [BEq α] (history : History α) (state : α) : History α × Bool :=
  let history := { history with frozen := history.frozen - 1 }
  if history.frozen = 0 then history.record state else (history, false)

end History
end Labeling
