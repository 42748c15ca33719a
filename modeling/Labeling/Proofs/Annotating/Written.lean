import Labeling.Proofs.Annotating.Reloading

/-!
# What is written of a loaded annotation

What has been loaded once is written as items that repair leaves as they are (`items_items_eq`). The
copy of an area that these items make is written as the area was just when the geometry of the area
is read back from its parts (`areaItems_copy`).
-/
namespace Labeling.AnnotationState

open Repair

variable {tree : ElementTree} {state : AnnotationState} {area : Area} {result : AreaResult}

/-! ## Written items -/

/-- The results of an area that are written. -/
def written (state : AnnotationState) (area : Area) : List AreaResult :=
  area.results.filter state.keepsResult

/-- A written result is one of the area. -/
theorem mem_of_mem_written (member : result ∈ state.written area) : result ∈ area.results :=
  (List.mem_filter.mp member).1

/-- The items of an annotation are results and then relations. -/
theorem items_eq (state : AnnotationState) :
    state.items =
      (state.areas.bySeq.flatMap fun area => (state.written area).map area.toWire).map .result
        ++ (state.visibleRelations.map Relation.toWire).map .relation := by
  rw [items, List.map_flatMap, List.map_map]
  refine congrArg (· ++ _) (congrArg (List.flatMap · state.areas.bySeq) (funext fun area => ?_))
  rw [areaItems, List.map_map]
  rfl

/-- The result items of an annotation. -/
theorem results_items (state : AnnotationState) :
    WireItem.results state.items =
      state.areas.bySeq.flatMap fun area => (state.written area).map area.toWire := by
  rw [items_eq, WireItem.results_append, WireItem.results_map_result,
    WireItem.results_map_relation, List.append_nil]

/-- The relation items of an annotation. -/
theorem relations_items (state : AnnotationState) :
    WireItem.relations state.items = state.visibleRelations.map Relation.toWire := by
  rw [items_eq, WireItem.relations_append, WireItem.relations_map_result,
    WireItem.relations_map_relation, List.nil_append]

/-- A result item is written just if it is one of a kept result of an area. -/
theorem result_mem_items_iff {item : WireResult} : .result item ∈ state.items ↔
    ∃ entry ∈ state.areas, ∃ result ∈ state.written entry.2, entry.2.toWire result = item := by
  rw [items_eq, List.mem_append]
  constructor
  · rintro (isResult | isRelation)
    · obtain ⟨other, listed, same⟩ := List.mem_map.mp isResult
      cases same
      obtain ⟨area, ofArea, inArea⟩ := List.mem_flatMap.mp listed
      obtain ⟨result, kept, made⟩ := List.mem_map.mp inArea
      obtain ⟨key, inside⟩ := Areas.mem_bySeq.mp ofArea
      exact ⟨_, inside, result, kept, made⟩
    · obtain ⟨_, _, same⟩ := List.mem_map.mp isRelation
      contradiction
  · rintro ⟨entry, inside, result, kept, made⟩
    have listed : entry.2 ∈ state.areas.bySeq := Areas.mem_bySeq.mpr ⟨entry.1, inside⟩
    rw [← made]
    exact Or.inl (List.mem_map_of_mem
      (List.mem_flatMap.mpr ⟨_, listed, List.mem_map_of_mem kept⟩))

/-- A relation item is written just if it is one of a visible relation. -/
theorem relation_mem_items_iff {item : WireRelation} : .relation item ∈ state.items ↔
    ∃ relation ∈ state.visibleRelations, relation.toWire = item := by
  rw [items_eq, List.mem_append]
  constructor
  · rintro (isResult | isRelation)
    · obtain ⟨_, _, same⟩ := List.mem_map.mp isResult
      contradiction
    · obtain ⟨other, member, same⟩ := List.mem_map.mp isRelation
      cases same
      exact List.mem_map.mp member
  · rintro ⟨relation, member, same⟩
    exact Or.inr (List.mem_map_of_mem (List.mem_map.mpr ⟨relation, member, same⟩))

/-- An id is one of a written result just if it is one of an area with written results. -/
theorem exists_mem_items_iff {raw : String} :
    (∃ result, .result result ∈ state.items ∧ result.id = some raw) ↔
      ∃ entry ∈ state.areas, (state.written entry.2).isEmpty = false ∧ raw = entry.2.id.raw := by
  constructor
  · rintro ⟨wire, isWritten, found⟩
    obtain ⟨entry, inside, result, kept, same⟩ := result_mem_items_iff.mp isWritten
    rw [← same] at found
    exact ⟨entry, inside, List.isEmpty_eq_false_iff.mpr (List.ne_nil_of_mem kept),
      (Option.some.inj found).symm⟩
  · rintro ⟨entry, inside, nonempty, same⟩
    obtain ⟨result, kept⟩ := List.exists_mem_of_ne_nil _ (List.isEmpty_eq_false_iff.mp nonempty)
    exact ⟨entry.2.toWire result, result_mem_items_iff.mpr ⟨entry, inside, result, kept, rfl⟩,
      congrArg some same.symm⟩

/-- A labels control that writes a result shows its labels, unless it allows none. -/
theorem shown_of_keepsResult (regular : state.tree.Regular)
    (discards : state.settings.keepEmptyResults = false) {control : Element} {type : String}
    (found : state.tree.get? result.fromName = some control) (labels : control.isLabels = true)
    (makes : control.resultType = some type) (kept : state.keepsResult result = true) :
    control.allowEmpty = true ∨ isEmptyPayload (result.value.get? type) = false := by
  obtain ⟨other, otherMakes, isLabels⟩ := resultType_of_isLabels labels
  have key : Area.keyOf control result = type := by
    rw [makes, Option.some.injEq] at otherMakes
    rw [Area.keyOf, regular.labels _ _ _ found makes (otherMakes ▸ isLabels), Option.getD_some]
  rw [keepsResult, discards, if_neg Bool.false_ne_true, found] at kept
  dsimp only at kept
  rw [labels, Bool.or_true, Bool.not_true, Bool.false_or, Bool.or_eq_true, key,
    Bool.not_eq_true'] at kept
  exact kept

/-- What is written for a settled shape has nothing under the former type if its fields have
nothing there. -/
theorem current_toValue {objectType : String} {shape : Shape}
    (settled : Shape.Settled objectType shape)
    (absent : shape.allFields.get? legacyType = none) :
    shape.toValue.get? legacyType = none := by
  rw [settled.toValue_eq]
  split
  · rw [Entries.get?_erase_of_ne (by decide), Entries.get?_erase_of_ne (by decide)]
    exact absent
  · exact absent

/-- The items of a loaded area are repaired. -/
theorem repaired_toWire {objectType : String} (regular : tree.Regular) (loaded : area.Loaded tree)
    (settled : Shape.Settled objectType area.shape) (member : result ∈ area.results)
    (isControl : tree.IsControl result.fromName) : Repaired tree (area.toWire result) := by
  have resultLoaded := loaded.results result member
  obtain ⟨control, found, -⟩ := isControl
  refine ⟨resultLoaded.resultType, ?_, resultLoaded.extra, fun labels => ?_⟩
  · have geometry := current_toValue settled loaded.current
    have present : legacyType ≠ result.keyIn tree := by
      intro same
      rw [AreaResult.keyIn_eq found, Area.keyOf] at same
      cases key : control.payloadKey with
      | none =>
        rw [key] at same
        exact resultLoaded.resultType same.symm
      | some name =>
        rw [key] at same
        exact regular.payloadKey _ _ found (key.trans (congrArg some same.symm))
    have payload : result.value.get? legacyType = none := by
      rcases resultLoaded.own with none | ⟨payload, one⟩
      · rw [none, Entries.get?_nil]
      · rw [one, Entries.get?_cons, if_neg present, Entries.get?_nil]
    rw [Area.get?_toWire_value resultLoaded.own, payload, Option.none_or]
    exact geometry
  · obtain ⟨control, found, makes⟩ := resultLoaded.labels labels
    exact ⟨control, labelsControl?_eq_some.mpr found, makes⟩

/-- Repair leaves the written items of a loaded area as they are. -/
theorem result?_toWire {object : Element} (regular : state.tree.Regular)
    (discards : state.settings.keepEmptyResults = false) (loaded : area.Loaded state.tree)
    (readable : Readable state.tree object area) (member : result ∈ state.written area) :
    Repair.result? state.tree (area.toWire result) = some (area.toWire result) := by
  obtain ⟨inside, kept⟩ := List.mem_filter.mp member
  have isControl := readable.fromName result inside
  have repaired := repaired_toWire regular loaded readable.settled inside isControl
  have fromName : state.tree.contains result.fromName = true := by
    obtain ⟨control, found, -⟩ := isControl
    rw [regular.contains, found]
    rfl
  have toName : state.tree.contains result.toName = true := by
    have found : state.tree.get? result.toName = some object := (readable.toWire inside).1
    rw [regular.contains, found]
    rfl
  refine result?_of_repaired repaired fromName toName fun control found labels makes => ?_
  obtain ⟨named, isLabels, -⟩ := labelsControl?_eq_some.mp found
  rcases shown_of_keepsResult regular discards named isLabels makes kept with allows | full
  · exact Or.inl allows
  · refine Or.inr ?_
    rw [Area.get?_toWire_value (readable.own result inside)]
    cases payload : result.value.get? (area.toWire result).resultType with
    | none =>
      rw [payload] at full
      contradiction
    | some content =>
      rw [payload] at full
      exact full

/-- Repair leaves the items of an annotation with readable areas as they are. -/
theorem items_items_eq (regular : state.tree.Regular)
    (discards : state.settings.keepEmptyResults = false)
    (readable : ∀ area ∈ state.areas.bySeq, area.Loaded state.tree ∧
      ∃ object, Readable state.tree object area) :
    Repair.items state.tree state.items = state.items := by
  have each (item : WireItem) (member : item ∈ state.items) :
      Repair.item? state.tree item = some item := by
    cases item with
    | result wire =>
      obtain ⟨entry, inside, result, kept, same⟩ := result_mem_items_iff.mp member
      obtain ⟨loaded, object, areaReadable⟩ :=
        readable entry.2 (Areas.mem_bySeq.mpr ⟨entry.1, inside⟩)
      have repairs := result?_toWire regular discards loaded areaReadable kept
      rw [← same]
      exact congrArg (Option.map WireItem.result) repairs
    | relation wire => rfl
  rw [Repair.items]
  exact (List.filterMap_congr each).trans List.filterMap_some

/-! ## What is supposed of a loaded annotation -/

/-- What a loaded annotation has to fulfil to be loaded again from its items. -/
structure Reloadable (state : AnnotationState) : Prop where
  /-- The ends of written relations are areas with written results. -/
  ends : ∀ relation, .relation relation ∈ state.items →
    ∀ raw ∈ [relation.fromId, relation.toId],
      ∃ result, .result result ∈ state.items ∧ result.id = some raw
  /-- The results of an area name one object. -/
  oneObject : ∀ entry ∈ state.areas, ∀ first ∈ entry.2.results, ∀ second ∈ entry.2.results,
    first.toName = second.toName
  /-- On text, the geometry of an area with both ends is a span of text. -/
  spanned : ∀ entry ∈ state.areas, ∀ object,
    state.tree.get? entry.2.object = some object → Shape.IsSpan object.type entry.2.shape

/-- Areas that have been loaded can be read again if their results name one object. -/
theorem Reloadable.readable (reloadable : state.Reloadable) (loaded : state.IsLoaded)
    (sound : state.Sound) (member : area ∈ state.areas.bySeq) :
    area.Loaded state.tree ∧ ∃ object, Readable state.tree object area := by
  obtain ⟨id, inside⟩ := Areas.mem_bySeq.mp member
  have areaLoaded := loaded.areas _ inside
  have wellFormed := sound.areas.each _ inside
  obtain ⟨object, found, isObject⟩ := wellFormed.object
  obtain ⟨named, namedInside, names⟩ := areaLoaded.object
  have toName : ∀ result ∈ area.results, result.toName = area.object := by
    intro result resultInside
    rw [reloadable.oneObject _ inside result resultInside named namedInside, names]
  exact ⟨areaLoaded, object, areaLoaded.raw, ⟨found, isObject⟩, toName, wellFormed.fromName,
    fun result resultInside => (areaLoaded.results result resultInside).own,
    areaLoaded.settled object found toName⟩

/-! ## Copies of the areas -/

/-- A copy has the payload that the item of its result has. -/
theorem get?_reread (tree : ElementTree) (area : Area) (result : AreaResult) :
    (area.reread tree result).value.get? (result.keyIn tree) =
      (area.toWire result).value.get? (result.keyIn tree) := by
  have payload : (area.reread tree result).value =
      (((area.toWire result).value.get? (result.keyIn tree)).map
        fun payload => (result.keyIn tree, payload)).toList := splitPayload_snd _ _
  rw [payload]
  cases (area.toWire result).value.get? (result.keyIn tree) with
  | none => rfl
  | some content =>
    rw [Option.map_some, Option.toList_some, Entries.get?_cons, if_pos rfl]

/-- What is written of an area is written of its copy. -/
theorem keepsResult_reread (discards : state.settings.keepEmptyResults = false)
    (own : result.IsOwn state.tree) {control : Element}
    (found : state.tree.get? result.fromName = some control)
    (kept : state.keepsResult result = true) :
    state.keepsResult (area.reread state.tree result) = true := by
  have again : state.tree.get? (area.reread state.tree result).fromName = some control := found
  have key : Area.keyOf control (area.reread state.tree result) = result.keyIn state.tree :=
    (AreaResult.keyIn_eq found).symm
  rw [keepsResult, discards, if_neg Bool.false_ne_true] at kept ⊢
  rw [found] at kept
  rw [again]
  dsimp only at kept ⊢
  rw [Bool.or_eq_true] at kept ⊢
  refine kept.imp (fun always => always) fun full => ?_
  rw [Bool.not_eq_true'] at full ⊢
  rw [AreaResult.isEmpty, AreaResult.payload?, ← AreaResult.keyIn_eq found] at full
  rw [AreaResult.isEmpty, AreaResult.payload?, key, get?_reread, Area.get?_toWire_value own]
  cases payload : result.value.get? (result.keyIn state.tree) with
  | none =>
    rw [payload] at full
    contradiction
  | some content =>
    rw [payload] at full
    exact full

/-- The geometry of an area is read back from its written items. -/
def ReadsBack (state : AnnotationState) (area : Area) : Prop :=
  ∀ object, state.tree.get? area.object = some object →
    Shape.ReadsBack object.type area.shape.toValue
      ((state.written area).map (·.keyIn state.tree))

/-- The copy of an area has as many items as the area, and the same ones just when its geometry is
read back. -/
theorem areaItems_copy {object : Element} {copy : Area}
    (discards : state.settings.keepEmptyResults = false)
    (readable : Readable state.tree object area)
    (rebuilt : Area.Rebuilt state.tree object.type area (state.written area) copy) :
    (state.areaItems copy).length = (state.areaItems area).length ∧
      (state.areaItems copy = state.areaItems area ↔ state.ReadsBack area) := by
  have own (result : AreaResult) (member : result ∈ state.written area) :
      result.IsOwn state.tree := readable.own result (mem_of_mem_written member)
  have kept : (copy.results.filter state.keepsResult) =
      (state.written area).map (area.reread state.tree) := by
    rw [rebuilt.results, List.filter_eq_self]
    intro again member
    obtain ⟨result, inside, same⟩ := List.mem_map.mp member
    obtain ⟨ofArea, isKept⟩ := List.mem_filter.mp inside
    obtain ⟨control, found, -⟩ := readable.fromName result ofArea
    rw [← same]
    exact keepsResult_reread discards (own result inside) found isKept
  have ofCopy : state.areaItems copy = (state.written area).map fun result =>
      .result (copy.toWire (area.reread state.tree result)) := by
    rw [areaItems, kept, List.map_map]
    rfl
  have ofArea : state.areaItems area = (state.written area).map fun result =>
      .result (area.toWire result) := rfl
  have readsBack : state.ReadsBack area ↔ Shape.ReadsBack object.type area.shape.toValue
      ((state.written area).map (·.keyIn state.tree)) := by
    constructor
    · exact fun back => back object readable.isObject.1
    · intro back other found
      have same : some object = some other := readable.isObject.1.symm.trans found
      rw [← Option.some.inj same]
      exact back
  rw [ofCopy, ofArea, readsBack, List.length_map, List.length_map, List.map_inj_left,
    ← rebuilt.toWire_eq_iff own readable.settled.sorted_toValue]
  refine ⟨rfl, ?_⟩
  simp only [WireItem.result.injEq]

end Labeling.AnnotationState
