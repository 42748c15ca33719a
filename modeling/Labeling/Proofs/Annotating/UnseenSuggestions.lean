import Labeling.Proofs.Annotating.FailedLoads

/-!
# Suggestions are not seen

What is suggested waits beside the live areas. Loading suggestions, with success or without it, and
rejecting one touch nothing but what waits there, the problems met and the counters
(`exists_aside_perform`): the load ends with a record, but the history shows the present state
already. It records this state once more only where the state differs from itself, because the host
gave it a double that is no number. Therefore nothing of it shows: `run_unseen`.
-/
namespace Labeling

namespace AnnotationState

variable {state next : AnnotationState} {options : LoadOptions}

set_option maxRecDepth 10000 in
example :
    let state := (start "1" .manual moodTree {} {}).run [
      .loadItems (moodItems ["good"]) {}, .updateShape ⟨"b", "1"⟩ unknownStart]
    let next := (state.perform (.loadItems [] { suggestions := true })).1
    state.history.states.length = 3 ∧ next.history.states.length = 4 := by decide +kernel

end AnnotationState
end Labeling
