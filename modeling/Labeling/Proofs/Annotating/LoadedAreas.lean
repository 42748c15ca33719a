import Labeling.Proofs.Annotating.Loaded
import Labeling.Proofs.Annotating.Origins

/-!
# What loads keep of areas

A load begins areas and goes on with them, item by item. What holds of every area that an item
begins, and goes on holding with a further item, holds of everything that is there behind a load if
it held of everything before (`LoadsKeep.perform`).
-/
namespace Labeling.AnnotationState

variable {tree : ElementTree} {given : WireResult → Prop} {holds : Area → Prop}
variable {state next : AnnotationState}

/-- What holds of the areas that given items of controls begin, and goes on holding with further
ones. -/
structure LoadsKeep (tree : ElementTree) (given : WireResult → Prop) (holds : Area → Prop) :
    Prop where
  /-- It holds of an area that begins with an item. -/
  begun : ∀ (control object : Element) (item : WireResult) (options : LoadOptions) (id : AreaId)
    (seq : Nat), tree.get? item.fromName = some control → given item →
      holds (begunArea control object item options id seq)
  /-- It goes on holding with a further item. -/
  continued : ∀ (control object : Element) (item : WireResult) (area : Area),
    tree.get? item.fromName = some control → given item → holds area →
      holds (continuedArea control object item area)

namespace LoadsKeep

/-- Adding an item keeps what holds of everything that is there. -/
theorem applyResult (keep : LoadsKeep state.tree given holds) {options : LoadOptions}
    {item : WireResult} (isGiven : given item)
    (applied : applyResult options state item = .ok next)
    (before : ∀ area, state.Presents area → holds area) :
    ∀ area, next.Presents area → holds area := by
  obtain ⟨object, control, -, ⟨controlFound, -⟩, made⟩ := applyResult_eq_ok applied
  obtain ⟨oldAreas, oldSuggestions⟩ := forall_presents_iff.mp before
  have added (areas : Areas) (each : ∀ entry ∈ areas, holds entry.2) :
      ∀ entry ∈ addItem areas control object item options (state.itemId item).2 state.nextSeq,
        holds entry.2 :=
    forall_mem_addItem each (keep.begun _ _ _ _ _ _ controlFound isGiven)
      fun area => keep.continued _ _ _ area controlFound isGiven
  have areas := congrArg AnnotationState.areas made
  have suggestions := congrArg AnnotationState.suggestions made
  dsimp only at areas suggestions
  rw [forall_presents_iff, areas, suggestions]
  split
  · exact ⟨oldAreas, added _ oldSuggestions⟩
  · exact ⟨added _ oldAreas, oldSuggestions⟩

/-- Adding items keeps what holds of everything that is there, also where one of them fails. -/
theorem applyResults (keep : LoadsKeep state.tree given holds) (options : LoadOptions)
    {items : List WireResult} (areGiven : ∀ item ∈ items, given item)
    (before : ∀ area, state.Presents area → holds area) :
    ∀ area, (applyResults options state items).1.Presents area → holds area := by
  induction items generalizing state with
  | nil => exact before
  | cons item rest hypothesis =>
    rw [AnnotationState.applyResults]
    split
    · rename_i next applied
      exact hypothesis ((continues_applyResult applied).tree ▸ keep)
        (fun other member => areGiven other (List.mem_cons_of_mem _ member))
        (keep.applyResult (areGiven item List.mem_cons_self) applied before)
    · exact before

/-- An operation that loads given items keeps what holds of everything that is there. -/
theorem perform (keep : LoadsKeep state.tree given holds) {operation : Operation}
    {loading : Loading} (loads : state.loading? operation = some loading)
    (areGiven : ∀ item ∈ loading.results, given item)
    (before : ∀ area, state.Presents area → holds area) :
    ∀ area, (state.perform operation).1.Presents area → holds area := by
  obtain ⟨areas, suggestions⟩ := perform_loading loads
  have target : LoadsKeep loading.target.frozen.tree given holds := by
    show LoadsKeep loading.target.tree given holds
    rw [(target_of_loading? loads).1]
    exact keep
  intro area present
  rw [Presents, areas, suggestions] at present
  exact target.applyResults loading.options areGiven
    (fun other inside => before other (presents_of_target loads inside)) area present

end LoadsKeep
end Labeling.AnnotationState
