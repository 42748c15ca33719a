import Labeling.Proofs.Catalogue
import Labeling.Proofs.Wire

/-!
# Repaired items stay as they are

Repair gives items that it would give back: no part of a repaired item has a former name, no
normalised text is left among its further data, and labels are at a labels control of their type
that is bound to their object (`repaired_of_result?`). An item of this kind whose labels are shown
is repaired to itself (`result?_of_repaired`).
-/
namespace Labeling.Repair

variable {tree : ElementTree} {item fixed : WireResult}

/-- An item that repair has nothing to change in, unless its labels are empty. -/
structure Repaired (tree : ElementTree) (item : WireResult) : Prop where
  /-- The type is no former one. -/
  resultType : item.resultType ≠ legacyType
  /-- Nothing is recorded under the former type. -/
  value : item.value.get? legacyType = none
  /-- No normalised text is left. -/
  extra : item.extra.get? "normalization" = none
  /-- Labels are at a labels control of their type that is bound to their object. -/
  labels : isLabelsType item.resultType = true →
    ∃ control, labelsControl? tree item = some control ∧ control.resultType = some item.resultType

/-! ## Values of repaired items -/

/-- A value of parsed fields, none of them under the former type. -/
structure IsCurrent (value : Value) : Prop where
  /-- The fields are parsed. -/
  parsed : Json.Parsed (.object value)
  /-- Nothing is recorded under the former type. -/
  absent : value.get? legacyType = none

/-- The fields of a parsed object are sorted. -/
theorem sorted_of_parsed {value : Value} (parsed : Json.Parsed (.object value)) :
    Entries.Sorted value := by
  cases parsed with
  | object sorted each => exact sorted

/-- A field of a parsed object is parsed. -/
theorem parsed_of_get? {value : Value} {key : String} {field : Json}
    (parsed : Json.Parsed (.object value)) (found : value.get? key = some field) :
    field.Parsed := by
  cases parsed with
  | object sorted each => exact each _ (Entries.mem_of_get? found)

/-- A parsed object stays parsed without a field. -/
theorem parsed_erase {value : Value} (parsed : Json.Parsed (.object value)) (key : String) :
    Json.Parsed (.object (value.erase key)) := by
  cases parsed with
  | object sorted each =>
    exact .object (Entries.sorted_erase key sorted)
      fun entry member => each entry (List.mem_filter.mp member).1

/-- A parsed object stays parsed with one more parsed field. -/
theorem parsed_put {value : Value} {field : Json} (parsed : Json.Parsed (.object value))
    (key : String) (content : field.Parsed) : Json.Parsed (.object (value.put key field)) := by
  cases parsed with
  | object sorted each =>
    refine .object (Entries.sorted_put key field sorted) fun entry member => ?_
    rcases Entries.mem_put member with new | old
    · rw [new]
      exact content
    · exact each entry old

/-- A value stays current without a field. -/
theorem IsCurrent.erase {value : Value} (current : IsCurrent value) (key : String) :
    IsCurrent (value.erase key) := by
  refine ⟨parsed_erase current.parsed key, ?_⟩
  rw [Entries.get?_erase]
  split
  · rfl
  · exact current.absent

/-- A value stays current with one more field under a present name. -/
theorem IsCurrent.put {value : Value} {key : String} {field : Json} (current : IsCurrent value)
    (present : key ≠ legacyType) (content : field.Parsed) : IsCurrent (value.put key field) := by
  refine ⟨parsed_put current.parsed key content, ?_⟩
  rw [Entries.get?_put, if_neg (Ne.symm present)]
  exact current.absent

/-! ## The steps of repair -/

/-- After renaming, neither the type nor a field of the value has the former name. -/
theorem renameLegacy_eq (parsed : item.Parsed) : ∃ resultType value,
    renameLegacy item = { item with resultType := resultType, value := value } ∧
      resultType ≠ legacyType ∧ IsCurrent value := by
  have present : (if item.resultType = legacyType then hypertextType else item.resultType) ≠
      legacyType := by
    split
    · decide
    · assumption
  rw [renameLegacy]
  dsimp only
  split
  · rename_i absent
    exact ⟨_, item.value, rfl, present, parsed, absent⟩
  · rename_i labels found
    have rest : IsCurrent (item.value.erase legacyType) :=
      ⟨parsed_erase parsed legacyType, Entries.get?_erase_self legacyType item.value⟩
    refine ⟨_, _, rfl, present, ?_⟩
    split
    · exact rest
    · exact rest.put (by decide) (parsed_of_get? parsed found)

/-- After moving, there is no normalised text among the further data. -/
theorem moveNormalization_eq (item : WireResult) : ∃ metadata,
    moveNormalization item =
      { item with extra := item.extra.erase "normalization", metadata := metadata } := by
  rw [moveNormalization]
  split
  · rename_i absent
    rw [Entries.erase_of_get?_eq_none absent]
    exact ⟨_, rfl⟩
  · dsimp only
    split
    · exact ⟨_, rfl⟩
    · exact ⟨_, rfl⟩
    · exact ⟨_, rfl⟩

/-- The item behind the first steps of repair: under its present type, its normalised text moved. -/
def prepared (item : WireResult) : WireResult := moveNormalization (renameLegacy item)

/-- An item is kept only at known names. -/
def known? (tree : ElementTree) (item : WireResult) : Option WireResult :=
  if tree.contains item.fromName && tree.contains item.toName then some item else none

/-- What is kept at known names is the item as it is. -/
theorem known?_eq_some : known? tree item = some fixed ↔
    (tree.contains item.fromName && tree.contains item.toName) = true ∧ item = fixed := by
  rw [known?, Option.ite_none_right_eq_some, Option.some.injEq]

/-- Behind the first steps, repair sees to labels, and keeps what is at known names. -/
theorem result?_eq (tree : ElementTree) (item : WireResult) :
    result? tree item =
      if isLabelsType (prepared item).resultType then
        (fixLabels? tree (prepared item)).bind (known? tree)
      else known? tree (prepared item) :=
  rfl

/-- An item without normalised text has none to move. -/
theorem moveNormalization_eq_self (absent : item.extra.get? "normalization" = none) :
    moveNormalization item = item := by
  rw [moveNormalization, absent]

/-- The first steps leave an item as it is if nothing in it is of former times. -/
theorem prepared_eq_self (present : item.resultType ≠ legacyType)
    (value : item.value.get? legacyType = none)
    (extra : item.extra.get? "normalization" = none) :
    prepared item = item := by
  rw [prepared, renameLegacy, value, if_neg present]
  exact moveNormalization_eq_self extra

/-- Retyping changes the type and the value, which stays current. -/
theorem retype_eq (current : IsCurrent item.value) {newType : String}
    (present : newType ≠ legacyType) : ∃ value,
    retype item newType = { item with resultType := newType, value := value } ∧
      IsCurrent value := by
  rw [retype]
  split
  · rename_i same
    exact ⟨item.value, by rw [← same], current⟩
  · split
    · exact ⟨item.value, rfl, current⟩
    · rename_i labels found
      exact ⟨_, rfl, (current.erase item.resultType).put present
        (parsed_of_get? current.parsed found)⟩

/-- The labels control of an item is the element of its name, carries labels and is bound to the
object. -/
theorem labelsControl?_eq_some {control : Element} :
    labelsControl? tree item = some control ↔
      tree.get? item.fromName = some control ∧ control.isLabels = true ∧
        control.targets item.toName = true := by
  rw [labelsControl?, Option.filter_eq_some_iff, Bool.and_eq_true]

/-- A labels control makes results of a labels type. -/
theorem resultType_of_isLabels {control : Element} (labels : control.isLabels = true) :
    ∃ type, control.resultType = some type ∧ isLabelsType type = true := by
  rw [Element.isLabels, Bool.and_eq_true] at labels
  obtain ⟨-, labels⟩ := labels
  cases found : control.resultType with
  | none =>
    rw [found] at labels
    contradiction
  | some type =>
    rw [found] at labels
    exact ⟨type, rfl, labels⟩

/-- Labels items go to a control of a present type; if this is a labels control for them, the type
is the one of its results. -/
theorem atControl_eq (regular : tree.Regular) (present : item.resultType ≠ legacyType)
    (current : IsCurrent item.value) : ∃ fromName resultType value,
    atControl tree item =
        { item with fromName := fromName, resultType := resultType, value := value } ∧
      resultType ≠ legacyType ∧ IsCurrent value ∧
      ∀ control, labelsControl? tree (atControl tree item) = some control →
        control.resultType = some resultType := by
  have presentOf {name : String} {control : Element} {type : String}
      (named : tree.get? name = some control) (makes : control.resultType = some type) :
      type ≠ legacyType := by
    intro same
    exact regular.resultType name control named (same ▸ makes)
  rw [atControl]
  split
  · rename_i control found
    obtain ⟨named, labels, targets⟩ := labelsControl?_eq_some.mp found
    obtain ⟨type, makes, -⟩ := resultType_of_isLabels labels
    rw [makes, Option.getD_some]
    obtain ⟨value, retyped, valueCurrent⟩ := retype_eq current (presentOf named makes)
    rw [retyped]
    refine ⟨_, _, _, rfl, presentOf named makes, valueCurrent, fun other again => ?_⟩
    have same : some control = some other := found.symm.trans again
    rw [← Option.some.inj same]
    exact makes
  · rename_i none
    dsimp only
    split
    · refine ⟨_, _, _, rfl, present, current, fun other again => ?_⟩
      rw [none] at again
      contradiction
    · rename_i control fallback
      have found : ∃ type, tree.findControl? item.toName type = some control := by
        rw [Option.orElse_eq_orElse, Option.orElse_eq_or, Option.or_eq_some_iff] at fallback
        rcases fallback with first | ⟨-, second⟩
        · exact ⟨_, first⟩
        · exact ⟨_, second⟩
      obtain ⟨type, found⟩ := found
      obtain ⟨named, makes, -⟩ := regular.bound _ _ _ found
      rw [makes, Option.getD_some]
      have renamed : IsCurrent { item with fromName := control.name }.value := current
      obtain ⟨value, retyped, valueCurrent⟩ := retype_eq renamed (presentOf named makes)
      rw [retyped]
      refine ⟨_, _, _, rfl, presentOf named makes, valueCurrent, fun other again => ?_⟩
      obtain ⟨otherNamed, -⟩ := labelsControl?_eq_some.mp again
      have same : some control = some other := named.symm.trans otherNamed
      rw [← Option.some.inj same]
      exact makes

/-- Labels items that are kept are current, and are at a labels control of their type if they are
of a labels type. -/
theorem fixLabels?_eq_some (regular : tree.Regular) (present : item.resultType ≠ legacyType)
    (current : IsCurrent item.value) (kept : fixLabels? tree item = some fixed) :
    fixed.resultType ≠ legacyType ∧ IsCurrent fixed.value ∧ fixed.extra = item.extra ∧
      (isLabelsType fixed.resultType = true → ∃ control,
        labelsControl? tree fixed = some control ∧
          control.resultType = some fixed.resultType) := by
  obtain ⟨fromName, resultType, value, moved, movedPresent, movedCurrent, typed⟩ :=
    atControl_eq regular present current
  -- Either the item is kept at a labels control, or it goes on as bare geometry.
  have cases : (∃ control, labelsControl? tree (atControl tree item) = some control ∧
        fixed = atControl tree item) ∨
      demote? tree item.resultType { atControl tree item with
        value := (atControl tree item).value.erase (atControl tree item).resultType } =
          some fixed := by
    cases found : labelsControl? tree (atControl tree item) with
    | none =>
      rw [fixLabels?, found] at kept
      exact Or.inr kept
    | some control =>
      rw [fixLabels?, found] at kept
      dsimp only at kept
      split at kept
      · exact Or.inl ⟨control, rfl, (Option.some.inj kept).symm⟩
      · exact Or.inr kept
  rcases cases with ⟨control, found, same⟩ | demoted
  · have makes := typed control found
    rw [moved] at found same
    subst same
    exact ⟨movedPresent, movedCurrent, rfl, fun _ => ⟨control, found, makes⟩⟩
  · rw [moved, demote?] at demoted
    obtain ⟨geometry, -, demoted⟩ := Option.bind_eq_some_iff.mp demoted
    obtain ⟨control, found, made⟩ := Option.bind_eq_some_iff.mp demoted
    obtain ⟨named, makes, targets⟩ := regular.bound _ _ _ found
    have same := Option.some.inj made
    subst same
    refine ⟨?_, movedCurrent.erase _, rfl, fun labels => ⟨control, ?_, makes⟩⟩
    · intro same
      exact regular.resultType _ _ named (same ▸ makes)
    · have isControl := regular.control _ _ named (by rw [makes]; rfl)
      refine labelsControl?_eq_some.mpr ⟨named, ?_, targets⟩
      rw [Element.isLabels, isControl, makes]
      exact labels

/-! ## What repair leaves alone -/

/-- An item has the id and the score of another one. -/
structure Keeps (item fixed : WireResult) : Prop where
  /-- The id is kept. -/
  id : fixed.id = item.id
  /-- The score is kept. -/
  score : fixed.score = item.score

/-- What is kept twice is kept. -/
theorem Keeps.trans {middle : WireResult} (first : Keeps item middle)
    (second : Keeps middle fixed) : Keeps item fixed :=
  ⟨second.id.trans first.id, second.score.trans first.score⟩

/-- Retyping keeps the id and the score. -/
theorem keeps_retype (item : WireResult) (newType : String) :
    Keeps item (retype item newType) := by
  rw [retype]
  split
  · exact ⟨rfl, rfl⟩
  · split
    · exact ⟨rfl, rfl⟩
    · exact ⟨rfl, rfl⟩

/-- Going to a control keeps the id and the score. -/
theorem keeps_atControl (tree : ElementTree) (item : WireResult) :
    Keeps item (atControl tree item) := by
  rw [atControl]
  split
  · exact keeps_retype item _
  · dsimp only
    split
    · exact ⟨rfl, rfl⟩
    · exact ⟨(keeps_retype _ _).id, (keeps_retype _ _).score⟩

/-- The first steps of repair keep the id and the score. -/
theorem keeps_prepared (item : WireResult) : Keeps item (prepared item) := by
  obtain ⟨metadata, moved⟩ := moveNormalization_eq (renameLegacy item)
  have renamed : Keeps item (renameLegacy item) := by
    rw [renameLegacy]
    dsimp only
    split
    · exact ⟨rfl, rfl⟩
    · exact ⟨rfl, rfl⟩
  rw [prepared, moved]
  exact ⟨renamed.id, renamed.score⟩

/-- A labels item that is kept keeps its id and its score. -/
theorem keeps_of_fixLabels? (kept : fixLabels? tree item = some fixed) : Keeps item fixed := by
  have demoted {type : String} {bare : WireResult} (goes : demote? tree type bare = some fixed) :
      Keeps bare fixed := by
    rw [demote?] at goes
    obtain ⟨geometry, -, goes⟩ := Option.bind_eq_some_iff.mp goes
    obtain ⟨control, -, made⟩ := Option.bind_eq_some_iff.mp goes
    rw [← Option.some.inj made]
    exact ⟨rfl, rfl⟩
  rw [fixLabels?, ite_eq_iff] at kept
  rcases kept with ⟨-, moved⟩ | ⟨-, goes⟩
  · rw [← Option.some.inj moved]
    exact keeps_atControl tree item
  · exact (keeps_atControl tree item).trans ⟨(demoted goes).id, (demoted goes).score⟩

/-- An item that is kept keeps its id and its score. -/
theorem keeps_of_result? (kept : result? tree item = some fixed) : Keeps item fixed := by
  rw [result?_eq] at kept
  split at kept
  · obtain ⟨last, found, kept⟩ := Option.bind_eq_some_iff.mp kept
    rw [← (known?_eq_some.mp kept).2]
    exact (keeps_prepared item).trans (keeps_of_fixLabels? found)
  · rw [← (known?_eq_some.mp kept).2]
    exact keeps_prepared item

/-- A result among repaired items is a repaired one of the items. -/
theorem exists_of_mem_results {contents : List WireItem}
    (member : fixed ∈ WireItem.results (items tree contents)) :
    ∃ item, .result item ∈ contents ∧ result? tree item = some fixed := by
  obtain ⟨kept, inside, same⟩ := List.mem_filterMap.mp member
  obtain ⟨original, given, repairs⟩ := List.mem_filterMap.mp inside
  cases kept with
  | relation other => contradiction
  | result other =>
    have sameItem : other = fixed := Option.some.inj same
    cases original with
    | relation relation => cases repairs
    | result item =>
      obtain ⟨_, repairs, made⟩ := Option.map_eq_some_iff.mp repairs
      rw [WireItem.result.injEq] at made
      exact ⟨item, given, by rw [repairs, made, sameItem]⟩

/-! ## Repaired items -/

/-- Repair gives repaired items, with parsed values if their values were parsed, and at names that
are known. -/
theorem repaired_of_result? (regular : tree.Regular) (parsed : item.Parsed)
    (kept : result? tree item = some fixed) : Repaired tree fixed ∧ fixed.Parsed := by
  obtain ⟨resultType, value, renamed, present, current⟩ := renameLegacy_eq parsed
  obtain ⟨metadata, moved⟩ := moveNormalization_eq (renameLegacy item)
  rw [renamed] at moved
  have extra : Entries.get? "normalization" (item.extra.erase "normalization") = none :=
    Entries.get?_erase_self "normalization" item.extra
  rw [result?, renamed, moved] at kept
  dsimp only at kept
  split at kept
  · obtain ⟨last, found, kept⟩ := Option.bind_eq_some_iff.mp kept
    obtain ⟨fixedPresent, fixedCurrent, sameExtra, labels⟩ :=
      fixLabels?_eq_some regular present current found
    rw [Option.ite_none_right_eq_some] at kept
    rw [← Option.some.inj kept.2]
    exact ⟨⟨fixedPresent, fixedCurrent.absent, by rw [sameExtra]; exact extra, labels⟩,
      fixedCurrent.parsed⟩
  · rename_i other
    obtain ⟨last, found, kept⟩ := Option.bind_eq_some_iff.mp kept
    rw [Option.ite_none_right_eq_some] at kept
    rw [← Option.some.inj kept.2, ← Option.some.inj found]
    exact ⟨⟨present, current.absent, extra, fun labels => absurd labels other⟩, current.parsed⟩

/-- A repaired item at known names is repaired to itself, if its labels are shown. -/
theorem result?_of_repaired (repaired : Repaired tree item)
    (fromName : tree.contains item.fromName = true) (toName : tree.contains item.toName = true)
    (shown : ∀ control, labelsControl? tree item = some control →
      isLabelsType item.resultType = true → control.resultType = some item.resultType →
        control.allowEmpty = true ∨ isEmptyPayload (item.value.get? item.resultType) = false) :
    result? tree item = some item := by
  have unchanged := prepared_eq_self repaired.resultType repaired.value repaired.extra
  have known : known? tree item = some item :=
    known?_eq_some.mpr ⟨Bool.and_eq_true_iff.mpr ⟨fromName, toName⟩, rfl⟩
  rw [result?_eq, unchanged]
  split
  · rename_i labels
    obtain ⟨control, found, makes⟩ := repaired.labels labels
    have atOwn : atControl tree item = item := by
      rw [atControl, found]
      dsimp only
      rw [makes, Option.getD_some, retype, if_pos rfl]
    have keeps : (!isEmptyPayload (item.value.get? item.resultType) || control.allowEmpty) =
        true := by
      rcases shown control found labels makes with allows | full
      · rw [allows, Bool.or_true]
      · rw [full]
        rfl
    have fixed : fixLabels? tree item = some item := by
      rw [fixLabels?, atOwn, found]
      exact if_pos keeps
    rw [fixed]
    exact known
  · exact known

end Labeling.Repair
