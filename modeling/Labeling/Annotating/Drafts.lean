import Labeling.Annotating.Loading

/-!
# Drafts and stored versions

A changed annotation is handed to its host as a draft, not too often. The areas can be switched
between the last draft and the submitted result; the history begins anew there.
-/
namespace Labeling

/-- How an autosave ended. -/
inductive AutosaveOutcome where
  /-- Nothing has changed since the last save. -/
  | unchanged
  /-- The last attempt is too recent. -/
  | throttled
  /-- The host has the draft. -/
  | saved
  /-- The host refused the draft. -/
  | failed
deriving DecidableEq, Repr

/-- The name of an outcome. -/
def AutosaveOutcome.name : AutosaveOutcome → String
  | .unchanged => "unchanged"
  | .throttled => "throttled"
  | .saved => "saved"
  | .failed => "failed"

namespace AnnotationState

/-- Begin the history anew at the present state, which counts as saved. -/
def resetHistory (state : AnnotationState) : AnnotationState :=
  { state with
    history := History.attach { limit := state.settings.historyLimit } state.snapshot
    savedRevision := state.revision }

/-- Take over stored versions; a missing one keeps the present one. -/
def addVersions (state : AnnotationState) (versions : Versions) : AnnotationState :=
  { state with versions :=
      { result := versions.result <|> state.versions.result
        draft := versions.draft <|> state.versions.draft } }

/-- Switch the areas between the draft and the result. Without a draft nothing happens, which is
told. -/
def toggleDraft (state : AnnotationState) : AnnotationState × Bool :=
  if state.versions.draft.isNone then (state, false)
  else
    let state := { state with draftSelected := !state.draftSelected }
    let stored := if state.draftSelected then state.versions.draft else state.versions.result
    let loaded := (state.cleared.load (.array (stored.getD [])) {}).1
    (loaded.resetHistory, true)

/-- Whether an attempt at a time comes too soon behind the last one. -/
def isThrottled (state : AnnotationState) (now : Nat) : Bool :=
  match state.lastAttempt with
  | some last => now - last < state.settings.autosaveDelay
  | none => false

/-- Hand a draft to the host, if something has changed and the last attempt is long enough ago. -/
def autosave (state : AnnotationState) (now : Nat) : AnnotationState × AutosaveOutcome :=
  if state.savedRevision = state.revision then (state, .unchanged)
  else if state.isThrottled now then (state, .throttled)
  else
    let state := { state with lastAttempt := some now }
    if state.session.refusesDrafts then (state, .failed)
    else
      let items := state.itemValues
      let state := state.fire (.draftSubmitted state.id state.key items)
      ({ state with
          versions := { state.versions with draft := some items }
          savedRevision := state.revision }, .saved)

end AnnotationState
end Labeling
