import Labeling.Config.Numbering
import Labeling.Proofs.Annotating.Loaded
import Labeling.Proofs.Annotating.Origins
import Labeling.Proofs.Repair.Idempotence

/-!
# Results are bound to their objects

A result is bound if it names the object of its area, and its control targets that object and makes
results of its type. Creating areas, recording values, accepting suggestions and going back and
forth keep the results of an annotation bound; a load does so just when each item that it adds comes
from a control that targets its object and makes results of its type, and joins no area of another
object (`run_bound_iff`).
-/
namespace Labeling

/-- A control makes results of a type for an object. -/
def ElementTree.Binds (tree : ElementTree) (control object type : String) : Prop :=
  ∃ element ∈ tree.get? control, element.isControl = true ∧ element.targets object = true ∧
    element.resultType = some type

instance (tree : ElementTree) (control object type : String) :
    Decidable (tree.Binds control object type) :=
  inferInstanceAs (Decidable (∃ element ∈ tree.get? control, _))

/-- The results of an area name its object, and are of controls that make results of their types
for it. -/
def Area.IsBound (tree : ElementTree) (area : Area) : Prop :=
  ∀ result ∈ area.results, result.toName = area.object ∧
    tree.Binds result.fromName area.object result.resultType

instance (tree : ElementTree) (area : Area) : Decidable (area.IsBound tree) :=
  inferInstanceAs (Decidable (∀ result ∈ area.results, _))

namespace AnnotationState

variable {tree : ElementTree} {state next : AnnotationState} {area : Area} {areas : Areas}
  {item : WireResult} {options : LoadOptions}

/-- Every known area is bound: each area, each suggestion, and each area of a state that the history
may hand out. -/
def Bound (state : AnnotationState) : Prop := ∀ area, state.Knows area → area.IsBound state.tree

/-- What is there is bound. -/
def PresentBound (state : AnnotationState) : Prop :=
  (∀ entry ∈ state.areas, entry.2.IsBound state.tree) ∧
    ∀ entry ∈ state.suggestions, entry.2.IsBound state.tree

/-- What is there is bound just when each area and each suggestion is. -/
theorem presentBound_iff :
    state.PresentBound ↔ ∀ area, state.Presents area → area.IsBound state.tree :=
  forall_presents_iff.symm

/-! ## Loads -/

/-- The areas or the suggestions, whichever a load adds to. -/
def receiving (state : AnnotationState) (options : LoadOptions) : Areas :=
  if options.suggestions then state.suggestions else state.areas

/-- An item may be added: its control makes results of its type for its object, and an area of its
id is one of this object. -/
def ItemFits (state : AnnotationState) (options : LoadOptions) (item : WireResult) : Prop :=
  state.tree.Binds item.fromName item.toName item.resultType ∧
    ∀ entry ∈ state.receiving options, entry.1 = (state.itemId item).2 →
      entry.2.object = item.toName

instance (state : AnnotationState) (options : LoadOptions) (item : WireResult) :
    Decidable (state.ItemFits options item) := inferInstanceAs (Decidable (_ ∧ _))

/-- Each item up to the first one that fails may be added where the items before it have been. -/
def AllFit (options : LoadOptions) : AnnotationState → List WireResult → Prop
  | _, [] => True
  | state, item :: rest =>
    match applyResult options state item with
    | .ok next => state.ItemFits options item ∧ AllFit options next rest
    | .error _ => True

instance decidableAllFit (options : LoadOptions) :
    (state : AnnotationState) → (items : List WireResult) → Decidable (AllFit options state items)
  | _, [] => .isTrue trivial
  | state, item :: rest =>
    match applied : applyResult options state item with
    | .ok next =>
      have := decidableAllFit options next rest
      decidable_of_iff (state.ItemFits options item ∧ AllFit options next rest)
        (by rw [AllFit, applied])
    | .error _ => .isTrue (by rw [AllFit, applied]; trivial)

/-- Whatever an operation loads may be added. -/
def Fits (state : AnnotationState) (operation : Operation) : Prop :=
  ∀ loading, state.loading? operation = some loading →
    AllFit loading.options loading.target.frozen loading.results

/-- An area with one more result is bound just when it was and the result is. -/
theorem isBound_append_iff {changed : Area} (result : AreaResult)
    (object : changed.object = area.object) (results : changed.results = area.results ++ [result]) :
    changed.IsBound tree ↔ area.IsBound tree ∧ result.toName = area.object ∧
      tree.Binds result.fromName area.object result.resultType := by
  simp only [Area.IsBound, object, results, List.forall_mem_append, List.forall_mem_singleton]

/-- Areas with one more item are bound just when they were and the item may be added. -/
theorem bound_addItem_iff {control object : Element} {id : AreaId} {seq : Nat}
    (named : object.name = item.toName) :
    (∀ entry ∈ addItem areas control object item options id seq, entry.2.IsBound tree) ↔
      (∀ entry ∈ areas, entry.2.IsBound tree) ∧
        tree.Binds item.fromName item.toName item.resultType ∧
        ∀ entry ∈ areas, entry.1 = id → entry.2.object = item.toName := by
  rw [addItem_eq]
  split
  · rename_i present
    obtain ⟨former, found⟩ := (Entries.has_eq_true_iff id areas).mp present
    have continued (area : Area) : (continuedArea control object item area).IsBound tree ↔
        area.IsBound tree ∧ item.toName = area.object ∧
          tree.Binds item.fromName area.object item.resultType :=
      isBound_append_iff (AreaResult.ofWire item (splitPayload _ item.value).2) rfl rfl
    rw [Entries.update, List.forall_mem_map]
    constructor
    · intro each
      have same (area : Area) (inside : (id, area) ∈ areas) :
          area.IsBound tree ∧ item.toName = area.object ∧
            tree.Binds item.fromName area.object item.resultType := by
        have bound := each _ inside
        rw [if_pos rfl] at bound
        exact (continued area).mp bound
      obtain ⟨-, object, binds⟩ := same former (Entries.mem_of_get? found)
      refine ⟨fun entry inside => ?_, object ▸ binds, fun entry inside key =>
        (same entry.2 (key ▸ inside)).2.1.symm⟩
      by_cases key : entry.1 = id
      · exact (same entry.2 (key ▸ inside)).1
      · have bound := each entry inside
        rwa [if_neg key] at bound
    · rintro ⟨each, binds, objects⟩ entry inside
      split
      · rename_i key
        have object := objects entry inside key
        exact (continued entry.2).mpr ⟨each entry inside, object.symm, object ▸ binds⟩
      · exact each entry inside
  · rename_i absent
    rw [Bool.not_eq_true, Entries.has_eq_false_iff] at absent
    have begun : (begunArea control object item options id seq).IsBound tree ↔
        tree.Binds item.fromName item.toName item.resultType := by
      simp only [Area.IsBound, begunArea, areaOfItem, AreaResult.ofWire, List.forall_mem_singleton,
        named, true_and]
    have fresh (entry : AreaId × Area) (inside : entry ∈ areas) : entry.1 ≠ id :=
      fun key => (Entries.get?_eq_none_iff id areas).mp absent (key ▸ Entries.mem_keys inside)
    simp only [(Entries.perm_put _ absent).mem_iff, List.forall_mem_cons, begun]
    constructor
    · rintro ⟨binds, each⟩
      exact ⟨each, binds, fun entry inside key => absurd key (fresh entry inside)⟩
    · rintro ⟨each, binds, -⟩
      exact ⟨binds, each⟩

/-- What is there behind an item is bound just when it was before and the item may be added. -/
theorem presentBound_applyResult_iff (named : IsNamed state.tree)
    (applied : applyResult options state item = .ok next) :
    next.PresentBound ↔ state.PresentBound ∧ state.ItemFits options item := by
  have tree := (continues_applyResult applied).tree
  obtain ⟨object, control, objectFound, -, made⟩ := applyResult_eq_ok applied
  have sameName := named item.toName object objectFound.1
  have areas := congrArg AnnotationState.areas made
  have suggestions := congrArg AnnotationState.suggestions made
  dsimp only at areas suggestions
  rw [PresentBound, PresentBound, ItemFits, receiving, tree, areas, suggestions]
  split
  · rw [bound_addItem_iff sameName, and_assoc]
  · rw [bound_addItem_iff sameName, and_right_comm]

/-- What is there behind some items is bound just when it was before and each item may be added. -/
theorem presentBound_applyResults_iff (options : LoadOptions) (items : List WireResult)
    (named : IsNamed state.tree) : (applyResults options state items).1.PresentBound ↔
      state.PresentBound ∧ AllFit options state items := by
  induction items generalizing state with
  | nil => exact (and_iff_left trivial).symm
  | cons item rest hypothesis =>
    rw [applyResults, AllFit]
    cases applied : applyResult options state item with
    | ok next =>
      have tree := (continues_applyResult applied).tree
      rw [hypothesis (tree ▸ named), presentBound_applyResult_iff named applied, and_assoc]
    | error failure => exact (and_iff_left trivial).symm

/-! ## Operations -/

/-- Results with their origin in an annotation whose known areas are bound are bound. -/
theorem Bound.of_origin (bound : state.Bound) (named : IsNamed state.tree) {object : String}
    {results : List AreaResult} {operation : Operation}
    (origin : state.Origin operation object results) :
    ∀ result ∈ results, result.toName = object ∧
      state.tree.Binds result.fromName object result.resultType := by
  have made {element : Element} (makes : element.makesResults = true) :
      element.isControl = true ∧ element.resultType = some (element.resultType.getD "") := by
    obtain ⟨isControl, isSome⟩ := Bool.and_eq_true_iff.mp makes
    obtain ⟨type, found⟩ := Option.isSome_iff_exists.mp isSome
    exact ⟨isControl, by rw [found, Option.getD_some]⟩
  cases origin with
  | kept known => exact bound _ known
  | created names records controlFound objectFound targets =>
    obtain ⟨isControl, type⟩ := made controlFound.2
    rw [List.forall_mem_singleton]
    exact ⟨(named _ _ objectFound.1).symm, _, controlFound.1, isControl, targets, type⟩
  | appended known records found targets =>
    obtain ⟨isControl, type⟩ := made found.2
    rw [List.forall_mem_append, List.forall_mem_singleton]
    exact ⟨bound _ known, rfl, _, found.1, isControl, targets, type⟩
  | changed known control records =>
    intro result member
    obtain ⟨former, inside, same | changed⟩ := exists_of_mem_changeFirst member
    · rw [same]
      exact bound _ known former inside
    · rw [changed]
      exact bound _ known former inside

/-- Behind an operation the history holds what it held before and what the operation made. -/
theorem holds_perform (state : AnnotationState) (operation : Operation) {held : Snapshot}
    (holds : (state.perform operation).1.history.Holds held) :
    state.history.Holds held ∨ held = (state.perform operation).1.snapshot := by
  by_cases clean : operation = .clean
  · subst clean
    have continues := continues_cleaned state
    exact Or.inl (continues.history ▸ holds)
  · exact (perform_outcome state clean).holds holds

/-- Behind an operation only what is there was not known before. -/
theorem knows_perform {operation : Operation} (known : (state.perform operation).1.Knows area) :
    (state.perform operation).1.Presents area ∨ state.Knows area := by
  rcases known with present | ⟨held, holds, id, inside⟩
  · exact Or.inl present
  · rcases holds_perform state operation holds with old | new
    · exact Or.inr (Or.inr ⟨held, old, id, inside⟩)
    · rw [new] at inside
      exact Or.inl (Or.inl ⟨id, inside⟩)

/-- No operation changes the configuration. -/
theorem tree_perform (state : AnnotationState) (operation : Operation) :
    (state.perform operation).1.tree = state.tree := by
  by_cases clean : operation = .clean
  · subst clean
    exact (continues_cleaned state).tree
  · exact (perform_outcome state clean).stays.1

/-- Behind an operation every known area is bound just when everything that is there is. -/
theorem Bound.perform_iff_present (bound : state.Bound) (operation : Operation) :
    (state.perform operation).1.Bound ↔ (state.perform operation).1.PresentBound := by
  rw [presentBound_iff]
  constructor
  · exact fun each area present => each area (Or.inl present)
  · intro each area known
    rcases knows_perform known with present | before
    · exact each area present
    · rw [tree_perform]
      exact bound area before

/-- An operation keeps the known areas bound just when whatever it loads may be added. -/
theorem Bound.perform_iff (bound : state.Bound) (wellFormed : state.WellFormed)
    (operation : Operation) : (state.perform operation).1.Bound ↔ state.Fits operation := by
  rw [bound.perform_iff_present]
  cases loads : state.loading? operation with
  | none =>
    have explains := explains_perform wellFormed.sound.areas.sorted loads
    refine iff_of_true (presentBound_iff.mpr fun area present => ?_) ?_
    · rw [tree_perform]
      exact bound.of_origin wellFormed.sound.named (explains area present)
    · intro loading found
      rw [loads] at found
      contradiction
  | some loading =>
    obtain ⟨areas, suggestions⟩ := perform_loading loads
    have tree := (target_of_loading? loads).1
    have begun : loading.target.frozen.PresentBound := by
      refine presentBound_iff.mpr fun area present => ?_
      show area.IsBound loading.target.tree
      rw [tree]
      exact bound area (Or.inl (presents_of_target loads present))
    have fits : state.Fits operation ↔
        AllFit loading.options loading.target.frozen loading.results := by
      rw [Fits, loads]
      exact ⟨fun each => each loading rfl, fun fit other same => Option.some.inj same ▸ fit⟩
    have appliedTree : loading.applied.tree = state.tree :=
      (continues_applyResults _ _ loading.target.frozen).tree.trans tree
    have targetNamed : IsNamed loading.target.frozen.tree := by
      show IsNamed loading.target.tree
      exact tree ▸ wellFormed.sound.named
    have loaded := presentBound_applyResults_iff loading.options loading.results targetNamed
    have same : (state.perform operation).1.PresentBound ↔ loading.applied.PresentBound := by
      rw [PresentBound, PresentBound, areas, suggestions, tree_perform, appliedTree]
    rw [same, fits]
    exact loaded.trans (and_iff_right begun)

/-- In a run from an annotation with bound areas the known areas stay bound just when whatever an
operation loads may be added. -/
theorem Bound.run_iff (bound : state.Bound) (wellFormed : state.WellFormed)
    (operations : List Operation) :
    (∀ before after, operations = before ++ after → (state.run before).Bound) ↔
      ∀ before operation after, operations = before ++ operation :: after →
        (state.run before).Fits operation := by
  have begins (state : AnnotationState) (before : state.Bound ∧ state.WellFormed) : state.Bound :=
    before.1
  exact AnnotationState.run_iff begins (fun _ before => before.1.perform_iff before.2)
    (fun _ before operation kept => ⟨kept, perform_wellFormed before.2 operation⟩)
    ⟨bound, wellFormed⟩ operations

/-- In a run from a new annotation of a bound tree every result that is known, among the areas, the
suggestions and the states that the history may hand out, stays bound just when each item that an
operation loads comes from a control that targets its object and makes results of its type, and
joins no area of another object. -/
theorem run_bound_iff (id : String) (kind : AnnotationKind) (config : ConfigTree)
    (catalogue : Catalogue) (task : Option Json) (settings : Settings) (session : Session)
    (operations : List Operation) :
    let first := start id kind (.ofConfig config catalogue task) settings session
    (∀ before after, operations = before ++ after → (first.run before).Bound) ↔
      ∀ before operation after, operations = before ++ operation :: after →
        (first.run before).Fits operation := by
  intro first
  have bound : first.Bound := by
    rintro area ((⟨key, inside⟩ | ⟨key, inside⟩) | ⟨held, holds, key, inside⟩)
    · contradiction
    · contradiction
    · rw [History.Holds.of_attach holds] at inside
      contradiction
  exact bound.run_iff (wellFormed_start id kind config catalogue task settings session) operations

/-- Two texts and choices for the first one. -/
def twoTextsConfig : ConfigTree where
  nodes := Block.nodesAll none 0 [
    .mk { tagName := "Text", attributes := [("name", "first"), ("value", "$first")] } [],
    .mk { tagName := "Text", attributes := [("name", "second"), ("value", "$second")] } [],
    .mk { tagName := "Choices", attributes := [("name", "mood"), ("toname", "first")] } []]

/-- A chosen mood of one of the texts. -/
def chosenMood (text : String) : List WireItem := [
  .result { id := some "a", fromName := "mood", toName := text, resultType := "choices",
            value := [("choices", .array [.string "good"])] }]

set_option maxRecDepth 10000 in
/-- The mood of the text that the choices are for is bound, and still is once it is undone. -/
theorem chosenMood_bound :
    let first := start "1" .manual (.ofConfig twoTextsConfig .standard none) {} {}
    let operations := [.loadItems (chosenMood "first") {}, .undo]
    (∀ before operation after, operations = before ++ operation :: after →
        (first.run before).Fits operation) ∧
      ∀ before after, operations = before ++ after → (first.run before).Bound := by
  intro first operations
  have fits (before : List Operation) (operation : Operation) (after : List Operation)
      (whole : operations = before ++ operation :: after) :
      (first.run before).Fits operation := by
    intro loading loads
    rcases before with _ | ⟨earlier, before⟩
    · have load := (List.cons.inj whole).1
      rw [← load] at loads
      cases loads
      show AllFit {} first.frozen _
      decide +kernel
    · rcases before with _ | ⟨later, before⟩
      · have undo := (List.cons.inj (List.cons.inj whole).2).1
        rw [← undo] at loads
        contradiction
      · simp [operations] at whole
  exact ⟨fits, (run_bound_iff "1" .manual twoTextsConfig .standard none {} {} operations).mpr fits⟩

set_option maxRecDepth 10000 in
/-- Not every result of an area is bound: one may be loaded for the other text. -/
theorem chosenMood_stray :
    ¬ ∀ (config : ConfigTree) (task : Option Json) (settings : Settings) (id : String)
        (operations : List Operation),
      let tree := ElementTree.ofConfig config .standard task
      ∀ entry ∈ ((start id .manual tree settings {}).run operations).areas,
        entry.2.IsBound tree := by
  intro bound
  have stray : ¬ ∀ entry ∈ ((start "1" .manual (.ofConfig twoTextsConfig .standard none) {} {}).run
      [.loadItems (chosenMood "second") {}]).areas,
      entry.2.IsBound (.ofConfig twoTextsConfig .standard none) := by decide +kernel
  exact stray (bound twoTextsConfig none {} "1" _)

end AnnotationState
end Labeling
