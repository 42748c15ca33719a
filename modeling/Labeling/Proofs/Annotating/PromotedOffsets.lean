import Labeling.Proofs.Annotating.KeptGeometry
import Labeling.Proofs.Repair.Idempotence
import Labeling.Proofs.Shape.FilledOffsets

/-!
# When loaded spans of text get offsets

A load fills the offsets of a span of text in once, as the first item of an area comes. What the
first item leaves open stays open: whatever ends the later items of the area have, a span of text
that no item gave offsets has its ends as offsets just when the first item has both of them, and
else none (`loadItems_offsets`). This holds of every load, also of one that stops at an item that
cannot be added.
-/
namespace Labeling.AnnotationState

variable {state : AnnotationState} {options : LoadOptions} {item : WireResult}

/-- Whether an item names an object and a control. -/
def isAddable (tree : ElementTree) (item : WireResult) : Bool :=
  (tree.get? item.toName).any (·.isObject) && (tree.get? item.fromName).any (·.isControl)

/-- The results that a load adds: the repaired ones up to the first that cannot be added. -/
def addedResults (tree : ElementTree) (contents : List WireItem) : List WireResult :=
  (WireItem.results (Repair.items tree contents)).takeWhile (isAddable tree)

/-- What a load of parsed items adds is parsed. -/
theorem parsed_of_mem_addedResults {tree : ElementTree} {contents : List WireItem}
    (named : IsNamed tree) (parsed : ∀ item, .result item ∈ contents → item.Parsed)
    (member : item ∈ addedResults tree contents) : item.Parsed := by
  have inside : item ∈ WireItem.results (Repair.items tree contents) :=
    (List.takeWhile_prefix _).subset member
  obtain ⟨repaired, kept, same⟩ := List.mem_filterMap.mp inside
  cases repaired with
  | relation _ => cases same
  | result fixed =>
    cases same
    obtain ⟨given, among, becomes⟩ := Repair.exists_of_mem_items kept
    exact (Repair.tidied_of_result? named (parsed given among) becomes).parsed

/-- What can be added is addable, and the configuration stays. -/
theorem isAddable_of_applyResult {next : AnnotationState}
    (applied : applyResult options state item = .ok next) :
    isAddable state.tree item = true ∧ next.tree = state.tree := by
  obtain ⟨object, control, ⟨objectFound, isObject⟩, ⟨controlFound, isControl⟩, -⟩ :=
    applyResult_eq_ok applied
  refine ⟨?_, (continues_applyResult applied).tree⟩
  rw [isAddable, objectFound, controlFound, Option.any_some, Option.any_some, isObject, isControl]
  rfl

/-- What cannot be added is not addable. -/
theorem not_isAddable_of_applyResult {failure : Failure}
    (fails : applyResult options state item = .error failure) :
    isAddable state.tree item = false := by
  rw [← Bool.not_eq_true]
  intro addable
  obtain ⟨objectFits, controlFits⟩ := Bool.and_eq_true_iff.mp addable
  obtain ⟨object, objectFound⟩ := (Option.any_eq_true _ _).mp objectFits
  obtain ⟨control, controlFound⟩ := (Option.any_eq_true _ _).mp controlFits
  rw [applyResult, objectElement_eq_ok.mpr objectFound, itemControl_eq_ok.mpr controlFound] at fails
  cases suggested : options.suggestions with
  | true =>
    rw [suggested] at fails
    cases fails
  | false =>
    rw [suggested] at fails
    cases fails

/-- Up to the first item that cannot be added all items are. -/
theorem applyResults_takeWhile (options : LoadOptions) (items : List WireResult)
    (state : AnnotationState) :
    applyResults options state (items.takeWhile (isAddable state.tree)) =
      ((applyResults options state items).1, none) := by
  induction items generalizing state with
  | nil => rfl
  | cons item rest hypothesis =>
    cases applied : applyResult options state item with
    | ok next =>
      obtain ⟨addable, sameTree⟩ := isAddable_of_applyResult applied
      rw [List.takeWhile_cons_of_pos addable, applyResults, applyResults, applied, ← sameTree]
      exact hypothesis next
    | error failure =>
      have stops := not_isAddable_of_applyResult applied
      rw [List.takeWhile_cons_of_neg (Bool.not_eq_true _ ▸ stops), applyResults, applyResults,
        applied]

/-- A load into an annotation without areas makes areas of the added items of their ids. -/
theorem madeOf_addedResults (empty : state.receiving options = []) (contents : List WireItem) :
    ((state.loadItems contents options).1.receiving options).MadeOf state.tree
      fun id => state.itemsUnder id (addedResults state.tree contents) := by
  rw [receiving_loadItems]
  exact madeOf_of_empty empty (applyResults_takeWhile options
    (WireItem.results (Repair.items state.tree contents)) state.frozen)

/-- Whatever operations were carried out on an annotation of a bound tree, a load into it while it
has no areas fills offsets in for the first item of an area only: a span of text between whole
numbers that no item of the area gave an offset has its ends as its offsets if the first item is
one on text and has both ends as counts, and has no offsets otherwise. -/
theorem loadItems_offsets (id : String) (kind : AnnotationKind) (config : ConfigTree)
    (catalogue : Catalogue) (task : Option Json) (settings : Settings) (session : Session)
    (operations : List Operation) {contents : List WireItem} (options : LoadOptions) :
    let state := (start id kind (.ofConfig config catalogue task) settings session).run operations
    let loaded := (state.loadItems contents options).1
    state.receiving options = [] → (∀ item, .result item ∈ contents → item.Parsed) →
      ∀ areaId area, (loaded.receiving options).get? areaId = some area →
        let parts := (state.itemsUnder areaId (addedResults state.tree contents)).map
          (WireResult.geometry state.tree)
        (∀ part ∈ parts, part.1.isBare = true) →
        ∀ first last startOffset endOffset text,
          area.shape.geometry =
            .textSpan (.integer first) (.integer last) startOffset endOffset text →
          (startOffset, endOffset) =
            if parts.head?.any (fun part => Value.isTextObject part.2 && part.1.hasCounts) then
              (some first.toNat, some last.toNat)
            else (none, none) := by
  intro state loaded empty parsed areaId area found parts bare first last startOffset endOffset text
    span
  have wellFormed : state.WellFormed :=
    (wellFormed_start id kind config catalogue task settings session).run operations
  have made := (madeOf_addedResults empty contents).made areaId area found
  rw [made.shape] at span
  refine Shape.offsets_ofItems (List.forall_mem_map.mpr fun item inside => ?_) bare span
  have itemParsed := parsed_of_mem_addedResults wellFormed.sound.named parsed
    (mem_of_mem_itemsUnder inside)
  exact Entries.sorted_erase _ (Repair.sorted_of_parsed itemParsed)

/-- A labelled span without offsets. -/
def spanValue : Value :=
  [("end", .integer 5), ("labels", .array [.string "A"]), ("start", .integer 0)]

/-- A labelled span of an id. -/
def plainSpan (raw : String) : WireResult :=
  { id := some raw, fromName := "label", toName := "text", resultType := "labels",
    value := spanValue }

/-- A mood of an id, without a span. -/
def plainMood (raw : String) : WireResult :=
  { id := some raw, fromName := "mood", toName := "text", resultType := "choices",
    value := [("choices", .array [.string "good"])] }

/-- Two spans with their moods, of which the one comes before its mood and the other after it. -/
def spansWithMoods : List WireItem :=
  [plainSpan "a", plainMood "a", plainMood "b", plainSpan "b"].map .result

/-- The spans and moods are parsed. -/
theorem parsed_spansWithMoods (item : WireResult) (member : .result item ∈ spansWithMoods) :
    item.Parsed := by
  have span (raw : String) : (plainSpan raw).Parsed := by
    refine .object ?_ fun entry inside => ?_
    · show Entries.Sorted spanValue
      rw [Entries.Sorted, spanValue]
      decide
    · simp only [plainSpan, spanValue, List.mem_cons, List.not_mem_nil, or_false] at inside
      rcases inside with rfl | rfl | rfl
      · exact .integer (by decide)
      · exact .array (List.forall_mem_singleton.mpr (.string "A"))
      · exact .integer (by decide)
  have mood (raw : String) : (plainMood raw).Parsed :=
    .object (List.pairwise_singleton _ _) (List.forall_mem_singleton.mpr
      (.array (List.forall_mem_singleton.mpr (.string "good"))))
  simp only [spansWithMoods, List.map_cons, List.map_nil, List.mem_cons, WireItem.result.injEq,
    List.not_mem_nil, or_false] at member
  rcases member with rfl | rfl | rfl | rfl
  · exact span "a"
  · exact mood "a"
  · exact mood "b"
  · exact span "b"

set_option maxRecDepth 10000 in
/-- The spans are loaded from their starts to their ends. -/
theorem exists_spansWithMoods {raw : String} (member : raw ∈ ["a", "b"]) :
    let state := (start "1" .manual (.ofConfig moodConfig .standard none) {} {}).run []
    let loaded := (state.loadItems spansWithMoods {}).1
    ∃ area, (loaded.receiving {}).get? ⟨raw, "1"⟩ = some area ∧
      ∃ startOffset endOffset text, area.shape.geometry =
        .textSpan (.integer 0) (.integer 5) startOffset endOffset text := by
  rw [ofConfig_moodConfig]
  simp only [List.mem_cons, List.not_mem_nil, or_false] at member
  rcases member with rfl | rfl
  · exact ⟨_, rfl, some 0, some 5, none, rfl⟩
  · exact ⟨_, rfl, none, none, none, rfl⟩

set_option maxRecDepth 10000 in
/-- The span before its mood has its ends as its offsets, and the other one has no offsets. -/
theorem spansWithMoods_offsets :
    let state := (start "1" .manual (.ofConfig moodConfig .standard none) {} {}).run []
    let loaded := (state.loadItems spansWithMoods {}).1
    let parts := fun raw => (state.itemsUnder ⟨raw, "1"⟩
      (addedResults state.tree spansWithMoods)).map (WireResult.geometry state.tree)
    state.receiving {} = [] ∧ (∀ item, .result item ∈ spansWithMoods → item.Parsed) ∧
      ∀ raw ∈ ["a", "b"], (∀ part ∈ parts raw, part.1.isBare = true) ∧
        ∃ area, (loaded.receiving {}).get? ⟨raw, "1"⟩ = some area ∧
          ∃ startOffset endOffset text, area.shape.geometry =
              .textSpan (.integer 0) (.integer 5) startOffset endOffset text ∧
            (startOffset, endOffset) = if raw = "a" then (some 0, some 5) else (none, none) := by
  have offsets := @loadItems_offsets "1" .manual moodConfig .standard none {} {} []
    spansWithMoods {}
  have spans := @exists_spansWithMoods
  have evaluated :
      let state := (start "1" .manual (.ofConfig moodConfig .standard none) {} {}).run []
      let parts := fun raw => (state.itemsUnder ⟨raw, "1"⟩
        (addedResults state.tree spansWithMoods)).map (WireResult.geometry state.tree)
      state.receiving {} = [] ∧ ∀ raw ∈ ["a", "b"], (∀ part ∈ parts raw, part.1.isBare = true) ∧
        (parts raw).head?.any (fun part => Value.isTextObject part.2 && part.1.hasCounts) =
          decide (raw = "a") := by
    rw [ofConfig_moodConfig]
    decide +kernel
  -- What the annotation is made of is not looked at any more.
  generalize (start "1" .manual (.ofConfig moodConfig .standard none) {} {}).run [] = state
    at offsets spans evaluated ⊢
  obtain ⟨empty, each⟩ := evaluated
  refine ⟨empty, parsed_spansWithMoods, fun raw member => ?_⟩
  obtain ⟨bare, first⟩ := each raw member
  obtain ⟨area, found, startOffset, endOffset, text, span⟩ := spans member
  have filled := offsets empty parsed_spansWithMoods _ area found bare 0 5 startOffset endOffset
    text span
  rw [first] at filled
  exact ⟨bare, area, found, startOffset, endOffset, text, span, by simpa using filled⟩

set_option maxRecDepth 10000 in
/-- Not every span of text gets its ends as its offsets: one that comes after the mood of its area
has none. -/
theorem lateSpan_without_offsets :
    ¬ ∀ (config : ConfigTree) (task : Option Json) (settings : Settings)
        (contents : List WireItem) (id : String) (areaId : AreaId) (area : Area)
        (first last : Int) (startOffset endOffset : Option Nat) (text : Option String),
      let fresh := start id .manual (.ofConfig config .standard task) settings {}
      let loaded := (fresh.loadItems contents {}).1
      (∀ item, .result item ∈ contents → item.Parsed) →
        (∀ item ∈ WireItem.results contents, Value.isBare item.value = true) →
        loaded.areas.get? areaId = some area →
        (fresh.tree.get? area.object).any (Value.isTextObject ·.type) = true →
        area.shape.geometry =
          .textSpan (.integer first) (.integer last) startOffset endOffset text →
        0 ≤ first → 0 ≤ last → startOffset = some first.toNat ∧ endOffset = some last.toNat := by
  intro promotes
  have late := promotes moodConfig none {} spansWithMoods "1" ⟨"b", "1"⟩
  rw [ofConfig_moodConfig] at late
  obtain ⟨impossible, -⟩ := late _ 0 5 none none none parsed_spansWithMoods (by decide) rfl
    (by decide) rfl (by decide) (by decide)
  contradiction

end Labeling.AnnotationState
