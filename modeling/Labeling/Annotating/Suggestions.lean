import Labeling.Annotating.Areas

/-!
# Accepting and rejecting suggestions

An accepted suggestion becomes an area; if its id is taken it gets a new one. A suggested relation
follows its areas and becomes a relation once both of them are accepted.
-/
namespace Labeling.AnnotationState

/-- The suggestion of an id. -/
def pendingArea (state : AnnotationState) (id : AreaId) : Except Failure Area :=
  match state.suggestions.get? id with
  | some area => .ok area
  | none => .error (.unknownArea id.full)

/-- Make a suggestion an area under its own id, or under a new one if that is taken. -/
def acceptArea (state : AnnotationState) (area : Area) : AnnotationState × AreaId :=
  let former := area.id
  let (state, id) := if state.areas.has former then state.madeUpId else (state, former)
  let accepted := { area with
    id := id
    fromSuggestion := true
    hidden := false
    seq := state.nextSeq }
  ({ state with
      nextSeq := state.nextSeq + 1
      areas := state.areas.put id accepted
      suggestedRelations := state.suggestedRelations.retarget former id }, id)

/-- Make the suggested relations whose areas are both accepted relations. -/
def promoteRelations (state : AnnotationState) : AnnotationState :=
  let isAccepted (id : AreaId) : Bool := state.areas.has id && !state.suggestions.has id
  let (ready, waiting) := state.suggestedRelations.extract fun relation =>
    isAccepted relation.first && isAccepted relation.second
  { state with
    suggestedRelations := waiting
    relations := ready.foldl (fun relations relation => (relations.insert relation).1)
      state.relations }

/-- Accept a suggestion. -/
def accept (state : AnnotationState) (id : AreaId) : Except Failure (AnnotationState × AreaId) := do
  let area ← state.pendingArea id
  let state := { state with suggestions := state.suggestions.erase id }
  let (state, accepted) := state.acceptArea area
  return (state.promoteRelations.cleaned.1.recorded, accepted)

/-- Reject a suggestion and its suggested relations. -/
def reject (state : AnnotationState) (id : AreaId) : Except Failure (AnnotationState × Area) := do
  let area ← state.pendingArea id
  return ({ state with
    suggestions := state.suggestions.erase id
    suggestedRelations := (state.suggestedRelations.deleteArea id).1 }, area)

/-- Accept every suggestion in the order of creation as one step, and tell how many there were. -/
def acceptAll (state : AnnotationState) : AnnotationState × Nat :=
  let pending := state.suggestions.bySeq
  let state := { state with suggestions := [] }.frozen
  let state := pending.foldl (fun state area => (state.acceptArea area).1) state
  (state.promoteRelations.cleaned.1.committed, pending.length)

end Labeling.AnnotationState
