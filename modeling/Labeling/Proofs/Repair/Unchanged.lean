import Labeling.Proofs.Binding.Controls
import Labeling.Proofs.Repair.Idempotence

/-!
# Results that repair leaves as they are

A result fits the configuration if it is at a control that is bound to its object and makes results
of its type, has nothing of former times in it, and has a payload where the control keeps one
(`Fits`). Repair looks for labels under the type of a result and not where the control keeps them,
so it leaves a result that fits as it is just when there are labels under its type, or none are
asked for (`items_unchanged_iff`). Where a control keeps its labels under the type of its results,
as all the standard ones do, this is always so; labels that a control keeps under a key of their own
are lost (`taggedSpan_dropped`).
-/
namespace Labeling.Repair

variable {config : ConfigTree} {catalogue : Catalogue} {task : Option Json} {item : WireResult}
  {control : Element}

/-- A result that fits a tree: it is at a control for its object and its type, in the words of
today, and what the control keeps is there. -/
structure Fits (tree : ElementTree) (control : Element) (item : WireResult) : Prop where
  /-- The name of the control stands for it. -/
  stands : tree.get? item.fromName = some control
  /-- It is a control. -/
  isControl : control.isControl = true
  /-- It is bound to the object. -/
  targets : control.targets item.toName = true
  /-- It makes results of the type. -/
  makes : control.resultType = some item.resultType
  /-- The type is no former one. -/
  present : item.resultType ≠ legacyType
  /-- Nothing is recorded under the former type. -/
  value : item.value.get? legacyType = none
  /-- There is no normalised text. -/
  extra : item.extra.get? "normalization" = none
  /-- Something is recorded under the key of the control's payload. -/
  payload : ∃ key, control.payloadKey = some key ∧ isEmptyPayload (item.value.get? key) = false

/-- What repair asks for in a labels result that fits: that the control allows regions without
labels, or that there are labels under the type of the result. -/
def ShowsLabels (control : Element) (item : WireResult) : Prop :=
  isLabelsType item.resultType = true →
    control.allowEmpty = true ∨ isEmptyPayload (item.value.get? item.resultType) = false

/-- The labels control of a labels result that fits is its control. -/
theorem Fits.labelsControl?_eq {tree : ElementTree} (fits : Fits tree control item)
    (labels : isLabelsType item.resultType = true) : labelsControl? tree item = some control := by
  refine labelsControl?_eq_some.mpr ⟨fits.stands, ?_, fits.targets⟩
  rw [Element.isLabels, fits.isControl, fits.makes]
  exact labels

/-- A result that fits is repaired to itself just when its labels are found. -/
theorem Fits.result?_eq_self_iff
    (fits : Fits (ElementTree.ofConfig config catalogue task) control item) :
    result? (ElementTree.ofConfig config catalogue task) item = some item ↔
      ShowsLabels control item := by
  have named (name : String) (element : Element)
      (found : (ElementTree.ofConfig config catalogue task).get? name = some element) :
      element.name = name := ElementTree.name_of_get? found
  have unchanged : prepared item = item := prepared_eq_self fits.present fits.value fits.extra
  constructor
  · intro same labels
    rcases (result?_cases same).1 with ⟨other, -⟩ | ⟨-, fixed⟩
    · rw [unchanged, labels] at other
      contradiction
    · rw [unchanged] at fixed
      rcases fixLabels?_cases named fixed with ⟨-, shown⟩ | ⟨geometry, other, stripped, -, made⟩
      · obtain ⟨other, found, -, shows⟩ := shown
        rw [fits.labelsControl?_eq labels, Option.some.injEq] at found
        exact found ▸ shows.symm
      · -- Bare geometry would be of another type.
        have bare : item.resultType = geometry := congrArg WireResult.resultType made
        rw [← bare] at stripped
        exact absurd stripped (geometryType_ne _)
  · intro shows
    have repaired : Repaired (ElementTree.ofConfig config catalogue task) item :=
      ⟨fits.present, fits.value, fits.extra,
        fun labels => ⟨control, fits.labelsControl?_eq labels, fits.makes⟩⟩
    have knownFrom :
        (ElementTree.ofConfig config catalogue task).contains item.fromName = true := by
      rw [ElementTree.contains_ofConfig, fits.stands]
      rfl
    have knownTo : (ElementTree.ofConfig config catalogue task).contains item.toName = true :=
      ElementTree.contains_of_targets (ElementTree.mem_of_get? fits.stands) fits.targets
    refine result?_of_repaired repaired knownFrom knownTo fun other found labels _ => ?_
    rw [fits.labelsControl?_eq labels, Option.some.injEq] at found
    exact found ▸ shows labels

/-- An item among others stays where it is just when it is repaired to itself. -/
theorem items_append_cons_iff (tree : ElementTree) (item : WireResult)
    (before after : List WireItem) :
    items tree (before ++ .result item :: after) =
        items tree before ++ .result item :: items tree after ↔
      result? tree item = some item := by
  have apart : items tree (before ++ .result item :: after) = items tree before ++
      ((item? tree (.result item)).toList ++ items tree after) := by
    rw [items, List.filterMap_append, List.filterMap_cons]
    cases item? tree (.result item) <;> rfl
  rw [apart, List.append_cancel_left_eq, ← List.singleton_append, List.append_cancel_right_eq,
    item?]
  cases result? tree item with
  | none => simp
  | some fixed => simp

/-- Repair leaves a result that fits as it is, wherever it stands among the items, just when it is
none of labels, its control allows regions without labels, or there are labels under its type. This
is so for every control that keeps its payload under the type of its results. -/
theorem items_unchanged_iff
    (fits : Fits (ElementTree.ofConfig config catalogue task) control item)
    (before after : List WireItem) :
    let tree := ElementTree.ofConfig config catalogue task
    (items tree (before ++ .result item :: after) =
        items tree before ++ .result item :: items tree after ↔ ShowsLabels control item) ∧
      (control.payloadKey = some item.resultType →
        items tree (before ++ .result item :: after) =
          items tree before ++ .result item :: items tree after) := by
  intro tree
  have unchanged := (items_append_cons_iff tree item before after).trans fits.result?_eq_self_iff
  refine ⟨unchanged, fun sameKey => unchanged.mpr fun _ => Or.inr ?_⟩
  obtain ⟨key, keeps, full⟩ := fits.payload
  rw [sameKey, Option.some.injEq] at keeps
  exact keeps ▸ full

/-- The standard tags, and one whose labels are kept under a key of their own. -/
def tagCatalogue : Catalogue :=
  Catalogue.standard.register
    (((TagSpec.control "Tags" "taglabels").accepting ["text"]).withValueKey "tags")

/-- A text with a control for tags and one that also allows regions without tags. -/
def tagConfig : ConfigTree where
  nodes := Block.nodesAll none 0 [
    .mk { tagName := "Text", attributes := [("name", "text"), ("value", "$text")] } [],
    .mk { tagName := "Tags", attributes := [("name", "tag"), ("toname", "text")] } [],
    .mk { tagName := "Tags",
          attributes := [("name", "hint"), ("toname", "text"), ("allowempty", "true")] } []]

/-- A span with a tag, from a control. -/
def taggedSpan (fromName : String) : WireResult :=
  { id := some "a", fromName := fromName, toName := "text", resultType := "taglabels",
    value := [("end", .integer 5), ("start", .integer 0),
      ("tags", .array [.string "City"])] }

set_option maxRecDepth 10000 in
/-- A tagged span fits both tag controls, of which only one asks for labels. -/
theorem exists_fits_taggedSpan {name : String} {allows : Bool}
    (listed : (name, allows) ∈ [("tag", false), ("hint", true)]) :
    ∃ control, Fits (ElementTree.ofConfig tagConfig tagCatalogue none) control
      (taggedSpan name) ∧ control.allowEmpty = allows := by
  have every : ∀ entry ∈ [("tag", false), ("hint", true)],
      ∃ control ∈ (ElementTree.ofConfig tagConfig tagCatalogue none).get? entry.1,
        control.isControl = true ∧ control.targets "text" = true ∧
          control.resultType = some "taglabels" ∧ control.payloadKey = some "tags" ∧
          control.allowEmpty = entry.2 := by
    decide +kernel
  obtain ⟨control, stands, isControl, targets, makes, keeps, same⟩ := every _ listed
  refine ⟨control, ⟨stands, isControl, targets, makes, ?_, ?_, rfl, "tags", keeps, ?_⟩, same⟩
  · dsimp only [taggedSpan]
    decide
  · dsimp only [taggedSpan]
    decide
  · dsimp only [taggedSpan]
    decide

/-- A tagged span is left as it is by the control that also allows regions without tags. -/
theorem taggedSpan_unchanged :
    let tree := ElementTree.ofConfig tagConfig tagCatalogue none
    ∃ control, Fits tree control (taggedSpan "hint") ∧ ShowsLabels control (taggedSpan "hint") ∧
      items tree [.relation { fromId := "a", toId := "a" }, .result (taggedSpan "hint")] =
        [.relation { fromId := "a", toId := "a" }, .result (taggedSpan "hint")] := by
  intro tree
  obtain ⟨control, fits, allows⟩ := exists_fits_taggedSpan
    (List.mem_cons_of_mem _ List.mem_cons_self)
  have shows : ShowsLabels control (taggedSpan "hint") := fun _ => Or.inl allows
  exact ⟨control, fits, shows,
    (items_unchanged_iff fits [.relation { fromId := "a", toId := "a" }] []).1.mpr shows⟩

set_option maxRecDepth 10000 in
/-- Repair does not leave every result that fits as it is: labels that a control keeps under a key
of their own are not found, and the result is dropped. -/
theorem taggedSpan_dropped :
    ¬ ∀ (config : ConfigTree) (catalogue : Catalogue) (task : Option Json) (control : Element)
        (item : WireResult),
      let tree := ElementTree.ofConfig config catalogue task
      (tree.elements.map Element.name).Nodup → Fits tree control item →
        items tree [.result item] = [.result item] := by
  intro unchanged
  obtain ⟨control, fits, -⟩ := exists_fits_taggedSpan List.mem_cons_self
  have same := unchanged tagConfig tagCatalogue none control (taggedSpan "tag")
    (by decide +kernel) fits
  exact absurd (congrArg List.length same) (by decide +kernel)

end Labeling.Repair
