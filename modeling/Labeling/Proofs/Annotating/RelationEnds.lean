import Labeling.Config.Numbering
import Labeling.Proofs.Annotating.WellFormed
import Labeling.Proofs.Annotating.Written

/-!
# The ends of written relations

A relation is written where both its ends are areas, whether or not a result of these areas is
written. So a written relation names an end without a written result just where the area of the end
has nothing to show: each of its results is an empty one of a control that classifies or labels and
does not allow it (`run_relation_ends`).
-/
namespace Labeling.AnnotationState

variable {state : AnnotationState} {area : Area} {result : AreaResult}

/-- An area of which no result is written: all of them are empty ones of controls that classify or
label and do not allow it, and the settings do not keep such results. -/
def Withholds (state : AnnotationState) (area : Area) : Prop :=
  state.settings.keepEmptyResults = false ∧ ∀ result ∈ area.results, ∃ control,
    state.tree.get? result.fromName = some control ∧
      (control.classification = true ∨ control.isLabels = true) ∧
      control.allowEmpty = false ∧ result.isEmpty (Area.keyOf control result) = true

/-- A result is not written just if it is an empty one of a control that classifies or labels and
does not allow it, and the settings do not keep it. -/
theorem keepsResult_eq_false_iff : state.keepsResult result = false ↔
    state.settings.keepEmptyResults = false ∧ ∃ control,
      state.tree.get? result.fromName = some control ∧
        (control.classification = true ∨ control.isLabels = true) ∧
        control.allowEmpty = false ∧ result.isEmpty (Area.keyOf control result) = true := by
  rw [keepsResult]
  split
  · rename_i keeps
    simp [keeps]
  · rename_i discards
    rw [Bool.not_eq_true] at discards
    cases state.tree.get? result.fromName with
    | none => simp
    | some control =>
      simp only [discards, Bool.or_eq_false_iff, Bool.not_eq_false', Bool.or_eq_true, and_assoc,
        Option.some.injEq, exists_eq_left', true_and]

/-- An area with results withholds them just if none is written. -/
theorem withholds_iff (nonempty : area.results ≠ []) :
    state.Withholds area ↔ state.written area = [] := by
  rw [written, List.filter_eq_nil_iff]
  simp only [Bool.not_eq_true, keepsResult_eq_false_iff]
  constructor
  · exact fun withholds result member => ⟨withholds.1, withholds.2 result member⟩
  · intro each
    obtain ⟨result, member⟩ := List.exists_mem_of_ne_nil _ nonempty
    exact ⟨(each result member).1, fun result member => (each result member).2⟩

/-- An area that is there has a written item just if it does not withhold its results. -/
theorem exists_item_iff_of_mem (wellFormed : state.WellFormed) {raw : String}
    (member : (⟨raw, state.id⟩, area) ∈ state.areas) :
    (∃ result, .result result ∈ state.items ∧ result.id = some raw) ↔
      ¬ state.Withholds area := by
  obtain ⟨sound, -⟩ := wellFormed
  rw [exists_mem_items_iff, withholds_iff (sound.areas.each _ member).nonempty]
  constructor
  · rintro ⟨⟨id, other⟩, inside, nonempty, sameRaw⟩
    have key : other.id = id := sound.areas.keys _ inside
    have sameId : id = ⟨raw, state.id⟩ :=
      key ▸ AreaId.eq_of_raw_eq sameRaw.symm (sound.areas.each _ inside).owner
    have found := Entries.get?_of_mem sound.areas.sorted inside
    rw [sameId, Entries.get?_of_mem sound.areas.sorted member, Option.some.injEq] at found
    rw [found]
    exact List.isEmpty_eq_false_iff.mp nonempty
  · intro nonempty
    have key : area.id = ⟨raw, state.id⟩ := sound.areas.keys _ member
    exact ⟨_, member, List.isEmpty_eq_false_iff.mpr nonempty, by rw [key]⟩

/-- The ends of a visible relation are areas of the annotation. -/
theorem exists_area_of_visible (wellFormed : state.WellFormed) {relation : Relation}
    (visible : relation ∈ state.visibleRelations) {raw : String}
    (isEnd : raw ∈ [relation.toWire.fromId, relation.toWire.toId]) :
    ∃ area, (⟨raw, state.id⟩, area) ∈ state.areas := by
  obtain ⟨sound, -⟩ := wellFormed
  have stored {id : AreaId} (present : state.areas.has id = true) :
      ∃ area, (⟨id.raw, state.id⟩, area) ∈ state.areas := by
    obtain ⟨area, found⟩ := (Entries.has_eq_true_iff _ _).mp present
    have member := Entries.mem_of_get? found
    have key : area.id = id := sound.areas.keys _ member
    have owner : id.owner = state.id := key ▸ (sound.areas.each _ member).owner
    rw [← owner]
    exact ⟨area, member⟩
  obtain ⟨-, ends⟩ := List.mem_filter.mp visible
  obtain ⟨first, second⟩ := Bool.and_eq_true_iff.mp ends
  rcases List.mem_pair.mp isEnd with same | same
  · rw [same]
    exact stored first
  · rw [same]
    exact stored second

/-- Whatever operations are carried out on an annotation of a bound tree, each end of each written
relation is an area, and there is a written result of its id unless the area withholds all its
results as empty ones. -/
theorem run_relation_ends (id : String) (kind : AnnotationKind) (config : ConfigTree)
    (catalogue : Catalogue) (task : Option Json) (settings : Settings) (session : Session)
    (operations : List Operation) :
    let state :=
      (start id kind (.ofConfig config catalogue task) settings session).run operations
    ∀ relation, .relation relation ∈ state.items → ∀ raw ∈ [relation.fromId, relation.toId],
      ∃ area, (⟨raw, state.id⟩, area) ∈ state.areas ∧
        ((∃ result, .result result ∈ state.items ∧ result.id = some raw) ↔
          ¬ state.Withholds area) := by
  intro state relation isWritten raw isEnd
  have wellFormed : state.WellFormed :=
    (wellFormed_start id kind config catalogue task settings session).run operations
  obtain ⟨stored, visible, same⟩ := relation_mem_items_iff.mp isWritten
  rw [← same] at isEnd
  obtain ⟨area, member⟩ := exists_area_of_visible wellFormed visible isEnd
  exact ⟨area, member, exists_item_iff_of_mem wellFormed member⟩

/-- A text with choices and labels. -/
def moodConfig : ConfigTree where
  nodes := Block.nodesAll none 0 [
    .mk { tagName := "Text", attributes := [("name", "text"), ("value", "$text")] } [],
    .mk { tagName := "Choices", attributes := [("name", "mood"), ("toname", "text")] } [],
    .mk { tagName := "Labels", attributes := [("name", "label"), ("toname", "text")] } []]

/-- Some chosen moods, a labelled span, and a relation from the one to the other. -/
def moodItems (moods : List String) : List WireItem := [
  .result { id := some "a", fromName := "mood", toName := "text", resultType := "choices",
            value := [("choices", .array (moods.map .string))] },
  .result { id := some "b", fromName := "label", toName := "text", resultType := "labels",
            value := [("end", .integer 5), ("labels", .array [.string "A"]),
              ("start", .integer 0)] },
  .relation { fromId := "a", toId := "b" }]

set_option maxRecDepth 10000 in
/-- The chosen mood that a relation begins at is written. -/
theorem relatedMood_written :
    let state := (start "1" .manual (.ofConfig moodConfig .standard none) {} {}).run
      [.loadItems (moodItems ["good"]) {}]
    .relation { fromId := "a", toId := "b" } ∈ state.items ∧
      ∃ result, .result result ∈ state.items ∧ result.id = some "a" := by
  intro state
  obtain ⟨visible, keeps⟩ : ⟨⟨"a", "1"⟩, ⟨"b", "1"⟩, .right, none⟩ ∈ state.visibleRelations ∧
      ∀ entry ∈ state.areas, ∃ result ∈ entry.2.results, state.keepsResult result = true := by
    decide +kernel
  have isWritten : .relation { fromId := "a", toId := "b" } ∈ state.items :=
    relation_mem_items_iff.mpr ⟨_, visible, rfl⟩
  obtain ⟨area, member, shown⟩ := run_relation_ends "1" .manual moodConfig .standard none {} {}
    [.loadItems (moodItems ["good"]) {}] _ isWritten "a" (by decide)
  obtain ⟨result, inside, kept⟩ := keeps _ member
  refine ⟨isWritten, shown.mpr fun withholds => ?_⟩
  have empty := keepsResult_eq_false_iff.mpr ⟨withholds.1, withholds.2 result inside⟩
  exact Bool.false_ne_true (empty.symm.trans kept)

set_option maxRecDepth 10000 in
/-- Not every end of a written relation is written: a mood may be related without being chosen. -/
theorem relatedMood_withheld :
    ¬ ∀ (config : ConfigTree) (task : Option Json) (settings : Settings) (id : String)
        (operations : List Operation),
      let state := (start id .manual (.ofConfig config .standard task) settings {}).run operations
      ∀ relation, .relation relation ∈ state.items → ∀ raw ∈ [relation.fromId, relation.toId],
        ∃ result, .result result ∈ state.items ∧ result.id = some raw := by
  intro closed
  let state := (start "1" .manual (.ofConfig moodConfig .standard none) {} {}).run
    [.loadItems (moodItems []) {}]
  obtain ⟨visible, withheld⟩ : ⟨⟨"a", "1"⟩, ⟨"b", "1"⟩, .right, none⟩ ∈ state.visibleRelations ∧
      ∀ entry ∈ state.areas, entry.2.id.raw = "a" → (state.written entry.2).isEmpty = true := by
    decide +kernel
  have isWritten : .relation { fromId := "a", toId := "b" } ∈ state.items :=
    relation_mem_items_iff.mpr ⟨_, visible, rfl⟩
  have found := closed moodConfig none {} "1" [.loadItems (moodItems []) {}] _ isWritten "a"
    (by decide)
  obtain ⟨entry, inside, shown, raw⟩ := exists_mem_items_iff.mp found
  exact Bool.false_ne_true (shown.symm.trans (withheld entry inside raw.symm))

/-! ## The tree of the moods -/

/-- The elements of the text, its choices and its labels. -/
def moodTree : ElementTree where
  config := moodConfig
  elements := [
    { id := 0, node := 0, tag := "Text", type := "text", kind := .object, name := "text",
      toNames := [], attributes := [("name", "text"), ("value", "$text")], value := some "$text",
      resolvedValue := none, resultType := none, payloadKey := none, classification := false,
      options := [] },
    { id := 1, node := 1, tag := "Choices", type := "choices", kind := .control, name := "mood",
      toNames := ["text"], attributes := [("name", "mood"), ("toname", "text")], value := none,
      resolvedValue := none, resultType := some "choices", payloadKey := some "choices",
      classification := true, options := [] },
    { id := 2, node := 2, tag := "Labels", type := "labels", kind := .control, name := "label",
      toNames := ["text"], attributes := [("name", "label"), ("toname", "text")], value := none,
      resolvedValue := none, resultType := some "labels", payloadKey := some "labels",
      classification := false, options := [] }]
  names := [("label", 2), ("mood", 1), ("text", 0)]
  toNames := [("text", ["mood", "label"])]
  report := Validation.check moodConfig .standard

set_option maxRecDepth 10000 in
/-- The tree of the moods is the one of their configuration. What is evaluated on the tree need not
look its tags up in the catalogue again. -/
theorem ofConfig_moodConfig : ElementTree.ofConfig moodConfig .standard none = moodTree := by
  rfl

end Labeling.AnnotationState
