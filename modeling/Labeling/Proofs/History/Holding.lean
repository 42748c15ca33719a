import Labeling.History

/-!
# What a history may hand out

A history hands out only states that it holds: recorded ones and its baseline. Recording adds the
recorded state to what it holds, and going back and forth adds nothing.
-/
namespace Labeling

namespace History

variable {α : Type} {history : History α} {state held : α}

/-- A state that a history may hand out: one of its states, or its baseline. -/
def Holds (history : History α) (state : α) : Prop :=
  state ∈ history.states ∨ history.baseline = some state

/-- A history that begins with a state holds no other one. -/
theorem Holds.of_attach (holds : (history.attach state).Holds held) : held = state := by
  rcases holds with member | baseline
  · exact List.mem_singleton.mp member
  · exact (Option.some.inj baseline).symm

/-- What a history holds behind a pushed state it held before, or it is that state. -/
theorem Holds.of_push (holds : (history.push state).Holds held) :
    history.Holds held ∨ held = state := by
  have source {limit : Option Nat} {states : List α} (member : held ∈ trimmed limit states) :
      held ∈ states := by
    cases limit with
    | none => exact member
    | some most => exact List.mem_of_mem_drop member
  rcases holds with member | baseline
  · rcases List.mem_append.mp (source member) with old | new
    · exact Or.inl (Or.inl (List.mem_of_mem_take old))
    · exact Or.inr (List.mem_singleton.mp new)
  · exact Or.inl (Or.inr baseline)

/-- What a history holds behind a recorded state it held before, or it is that state. -/
theorem Holds.of_record [BEq α] (holds : (history.record state).1.Holds held) :
    history.Holds held ∨ held = state := by
  rw [History.record] at holds
  split at holds
  · exact Or.inl holds
  · split at holds
    · exact Or.inl holds
    · split at holds
      · exact Or.inr holds.of_attach
      · split at holds
        · exact Or.inl holds
        · exact holds.of_push

/-- What a history holds behind a batch it held before, or it is the recorded state. -/
theorem Holds.of_unfreeze [BEq α] (holds : (history.unfreeze state).1.Holds held) :
    history.Holds held ∨ held = state := by
  rw [History.unfreeze] at holds
  dsimp only at holds
  split at holds
  · exact holds.of_record
  · exact Or.inl holds

/-- Going back, a history hands out what it holds, and holds nothing new. -/
theorem holds_undo : (history.undo.1.Holds held → history.Holds held) ∧
    (history.undo.2 = some held → history.Holds held) := by
  rw [History.undo]
  split
  · exact ⟨id, fun handed => Or.inl (List.mem_of_getElem? handed)⟩
  · exact ⟨id, fun handed => nomatch handed⟩

/-- Going forward, a history hands out what it holds, and holds nothing new. -/
theorem holds_redo : (history.redo.1.Holds held → history.Holds held) ∧
    (history.redo.2 = some held → history.Holds held) := by
  rw [History.redo]
  split
  · exact ⟨id, fun handed => Or.inl (List.mem_of_getElem? handed)⟩
  · exact ⟨id, fun handed => nomatch handed⟩

/-- Returning to its baseline, a history hands out what it holds, and holds nothing new. -/
theorem holds_reset : (history.reset.1.Holds held → history.Holds held) ∧
    (history.reset.2 = some held → history.Holds held) := by
  rw [History.reset]
  split
  · exact ⟨id, fun handed => nomatch handed⟩
  · rename_i baseline
    refine ⟨?_, fun handed => Or.inr (baseline.trans handed)⟩
    rintro (member | same)
    · exact Or.inr (List.mem_singleton.mp member ▸ baseline)
    · exact Or.inr same

end History

end Labeling
