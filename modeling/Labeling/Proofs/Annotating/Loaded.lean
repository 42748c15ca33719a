import Labeling.Proofs.Annotating.WellFormed
import Labeling.Proofs.Relations
import Labeling.Proofs.Repair

/-!
# What loading makes

An annotation into which parsed items have been loaded has areas of repaired items only: every
result holds what its control records and nothing else, and the geometry of an area whose results
name one object is settled. Its relations join different areas of the annotation, no two areas
twice (`isLoaded_loadItems`).
-/
namespace Labeling

open Repair

/-- The key under which the control of a result records. -/
def AreaResult.keyIn (tree : ElementTree) (result : AreaResult) : String :=
  ((tree.get? result.fromName).bind (·.payloadKey)).getD result.resultType

/-- The key of a result is the one of its control. -/
theorem AreaResult.keyIn_eq {tree : ElementTree} {result : AreaResult} {control : Element}
    (found : tree.get? result.fromName = some control) :
    result.keyIn tree = Area.keyOf control result := by
  rw [keyIn, found]
  rfl

/-- A result that holds nothing but what its control records. -/
def AreaResult.IsOwn (tree : ElementTree) (result : AreaResult) : Prop :=
  result.value = [] ∨ ∃ payload, result.value = [(result.keyIn tree, payload)]

/-- What a result holds of its own is sorted. -/
theorem AreaResult.IsOwn.sorted {tree : ElementTree} {result : AreaResult}
    (own : result.IsOwn tree) : Entries.Sorted result.value := by
  rcases own with none | ⟨payload, one⟩
  · rw [none]
    exact List.Pairwise.nil
  · rw [one]
    exact List.pairwise_singleton _ _

/-- A result as a repaired item gives it. -/
structure AreaResult.Loaded (tree : ElementTree) (result : AreaResult) : Prop where
  /-- The result holds nothing but what its control records. -/
  own : result.IsOwn tree
  /-- The type is no former one. -/
  resultType : result.resultType ≠ legacyType
  /-- No normalised text is left. -/
  extra : result.extra.get? "normalization" = none
  /-- Labels are at a labels control of their type that is bound to their object. -/
  labels : isLabelsType result.resultType = true → ∃ control,
    (tree.get? result.fromName = some control ∧ control.isLabels = true ∧
      control.targets result.toName = true) ∧ control.resultType = some result.resultType

/-- An area as repaired items give it. -/
structure Area.Loaded (tree : ElementTree) (area : Area) : Prop where
  /-- The area has an id. -/
  raw : area.id.raw ≠ ""
  /-- The area is one of the object that some result names. -/
  object : ∃ result ∈ area.results, result.toName = area.object
  /-- Every result is as a repaired item gives it. -/
  results : ∀ result ∈ area.results, result.Loaded tree
  /-- Nothing of the geometry is under the former type. -/
  current : area.shape.allFields.get? legacyType = none
  /-- The geometry is settled if every result names the object. -/
  settled : ∀ object, tree.get? area.object = some object →
    (∀ result ∈ area.results, result.toName = area.object) →
      Shape.Settled object.type area.shape

namespace AnnotationState

variable {tree : ElementTree} {item : WireResult} {control object : Element}

/-! ## Payloads -/

/-- What is left of a value without the payload. -/
theorem splitPayload_fst (key : String) (value : Value) :
    (splitPayload key value).1 = value.erase key := by
  rw [splitPayload]
  split
  · rename_i absent
    exact (Entries.erase_of_get?_eq_none absent).symm
  · rfl

/-- The payload of a value stands under its key. -/
theorem splitPayload_snd (key : String) (value : Value) :
    (splitPayload key value).2 = ((value.get? key).map fun payload => (key, payload)).toList := by
  rw [splitPayload]
  split
  · rename_i absent
    rw [absent]
    rfl
  · rename_i payload found
    rw [found]
    rfl

/-- The result of an item holds nothing but what its control records. -/
theorem isOwn_ofWire (found : tree.get? item.fromName = some control) :
    (AreaResult.ofWire item
      (splitPayload (control.payloadKey.getD item.resultType) item.value).2).IsOwn tree := by
  rw [AreaResult.IsOwn, AreaResult.keyIn_eq found]
  show (splitPayload _ _).2 = [] ∨ ∃ payload, (splitPayload _ _).2 = [(_, payload)]
  rw [splitPayload_snd]
  cases item.value.get? (control.payloadKey.getD item.resultType) with
  | none => exact Or.inl rfl
  | some payload => exact Or.inr ⟨payload, rfl⟩

/-- The result of a repaired item is as a repaired item gives it. -/
theorem loaded_ofWire (found : tree.get? item.fromName = some control)
    (repaired : Repaired tree item) :
    (AreaResult.ofWire item
      (splitPayload (control.payloadKey.getD item.resultType) item.value).2).Loaded tree where
  own := isOwn_ofWire found
  resultType := repaired.resultType
  extra := repaired.extra
  labels labels := by
    obtain ⟨control, found, makes⟩ := repaired.labels labels
    exact ⟨control, labelsControl?_eq_some.mp found, makes⟩

/-! ## Geometry -/

/-- The ends in a parsed value fit 64 bits. -/
theorem hasSmallEnds_of_parsed {value : Value} (parsed : Json.Parsed (.object value)) :
    Shape.HasSmallEnds value := by
  intro key _ content found
  cases parsed_of_get? parsed found with
  | integer small => exact small

/-- The shape of a first item has nothing under the former type. -/
theorem current_reading {value : Value} (absent : value.get? legacyType = none)
    (objectType : String) :
    (Shape.reading value objectType).allFields.get? legacyType = none := by
  have absent : (Shape.ofValue (value.withOffsets objectType).1 objectType).allFields.get?
      legacyType = none := by
    rw [← Entries.has_eq_false_iff, Shape.has_allFields_ofValue, Entries.has_eq_false_iff,
      Shape.get?_withOffsets value objectType (by decide) (by decide)]
    exact absent
  rw [Shape.reading_eq]
  exact absent

/-- A shape with nothing under the former type takes over nothing under it. -/
theorem current_fillMissing {shape : Shape} {value : Value}
    (shapeAbsent : shape.allFields.get? legacyType = none)
    (absent : value.get? legacyType = none) (objectType : String) :
    (shape.fillMissing value objectType).allFields.get? legacyType = none := by
  rw [Shape.fillMissing]
  split
  · exact shapeAbsent
  · show (Shape.ofValue (shape.allFields.leftUnion value) objectType).allFields.get?
      legacyType = none
    rw [← Entries.has_eq_false_iff, Shape.has_allFields_ofValue, Entries.has_eq_false_iff,
      Entries.get?_eq_none_iff]
    rw [Entries.get?_eq_none_iff] at shapeAbsent absent
    intro member
    obtain ⟨entry, inside, key⟩ := List.mem_map.mp member
    rw [← key] at shapeAbsent absent
    rcases Entries.mem_foldl_put inside with old | new
    · exact shapeAbsent (Entries.mem_keys old)
    · exact absent (Entries.mem_keys new)

/-! ## Areas -/

/-- The area that the first item of an id begins. -/
def begunArea (control object : Element) (item : WireResult) (options : LoadOptions) (id : AreaId)
    (seq : Nat) : Area :=
  let split := splitPayload (control.payloadKey.getD item.resultType) item.value
  areaOfItem control object item split.1 (AreaResult.ofWire item split.2) options id seq

/-- The area with a further item of its id. -/
def continuedArea (control object : Element) (item : WireResult) (area : Area) : Area :=
  let split := splitPayload (control.payloadKey.getD item.resultType) item.value
  mergeItem object.type item split.1 (AreaResult.ofWire item split.2) area

/-- An item goes on with the area of its id, or begins it. -/
theorem addItem_eq (areas : Areas) (control object : Element) (item : WireResult)
    (options : LoadOptions) (id : AreaId) (seq : Nat) :
    addItem areas control object item options id seq =
      if areas.has id then areas.update id (continuedArea control object item)
      else areas.put id (begunArea control object item options id seq) := rfl

/-- What holds of areas holds of them with one more item, if it holds of the area of this item. -/
theorem forall_mem_addItem {areas : Areas} {options : LoadOptions} {id : AreaId} {seq : Nat}
    {holds : Area → Prop} (each : ∀ entry ∈ areas, holds entry.2)
    (begun : holds (begunArea control object item options id seq))
    (continued : ∀ area, holds area → holds (continuedArea control object item area)) :
    ∀ entry ∈ addItem areas control object item options id seq, holds entry.2 := by
  intro entry inside
  rw [addItem_eq] at inside
  split at inside
  · rcases Entries.mem_update inside with old | ⟨area, old, changed⟩
    · exact each entry old
    · rw [changed]
      exact continued area (each _ old)
  · rcases Entries.mem_put inside with new | old
    · rw [new]
      exact begun
    · exact each entry old

/-- The area of a first repaired item is as repaired items give it. -/
theorem loaded_begunArea (controlFound : tree.get? item.fromName = some control)
    (objectFound : tree.get? item.toName = some object) (named : object.name = item.toName)
    (repaired : Repaired tree item) (parsed : item.Parsed) (options : LoadOptions) {id : AreaId}
    (raw : id.raw ≠ "") (seq : Nat) :
    (begunArea control object item options id seq).Loaded tree := by
  have current : IsCurrent
      (splitPayload (control.payloadKey.getD item.resultType) item.value).1 := by
    rw [splitPayload_fst]
    exact IsCurrent.erase ⟨parsed, repaired.value⟩ _
  refine ⟨raw, ?_, ?_, current_reading current.absent object.type, ?_⟩
  · exact ⟨_, List.mem_singleton_self _, named.symm⟩
  · intro result member
    rw [List.mem_singleton.mp member]
    exact loaded_ofWire controlFound repaired
  · intro other again _
    have same : some object = some other := by
      rw [← objectFound, ← again]
      exact congrArg tree.get? named.symm
    rw [← Option.some.inj same]
    exact Shape.settled_reading (sorted_of_parsed current.parsed)
      (hasSmallEnds_of_parsed current.parsed) object.type

/-- An area as repaired items give it takes in one more repaired item. -/
theorem loaded_continuedArea {area : Area} (loaded : area.Loaded tree)
    (controlFound : tree.get? item.fromName = some control)
    (objectFound : tree.get? item.toName = some object)
    (repaired : Repaired tree item) (parsed : item.Parsed) :
    (continuedArea control object item area).Loaded tree := by
  have current : IsCurrent
      (splitPayload (control.payloadKey.getD item.resultType) item.value).1 := by
    rw [splitPayload_fst]
    exact IsCurrent.erase ⟨parsed, repaired.value⟩ _
  refine ⟨loaded.raw, ?_, ?_, current_fillMissing loaded.current current.absent object.type, ?_⟩
  · obtain ⟨result, member, names⟩ := loaded.object
    exact ⟨result, List.mem_append_left _ member, names⟩
  · intro result member
    rcases List.mem_append.mp member with old | new
    · exact loaded.results result old
    · rw [List.mem_singleton.mp new]
      exact loaded_ofWire controlFound repaired
  · intro other found sameObject
    have names : item.toName = area.object :=
      sameObject _ (List.mem_append_right _ (List.mem_singleton_self _))
    have same : some object = some other := by
      rw [← objectFound, ← found]
      exact congrArg tree.get? names
    have before : Shape.Settled object.type area.shape := by
      rw [Option.some.inj same]
      exact loaded.settled other found
        fun result member => sameObject result (List.mem_append_left _ member)
    rw [← Option.some.inj same]
    exact before.fillMissing (sorted_of_parsed current.parsed)
      (hasSmallEnds_of_parsed current.parsed)

/-- Areas as repaired items give them take in one more repaired item. -/
theorem loaded_addItem {areas : Areas} (loaded : ∀ entry ∈ areas, entry.2.Loaded tree)
    (controlFound : tree.get? item.fromName = some control)
    (objectFound : tree.get? item.toName = some object) (named : object.name = item.toName)
    (repaired : Repaired tree item) (parsed : item.Parsed) (options : LoadOptions) {id : AreaId}
    (raw : id.raw ≠ "") (seq : Nat) :
    ∀ entry ∈ addItem areas control object item options id seq, entry.2.Loaded tree :=
  forall_mem_addItem loaded
    (loaded_begunArea controlFound objectFound named repaired parsed options raw seq)
    fun _ former => loaded_continuedArea former controlFound objectFound repaired parsed

/-! ## Loads -/

/-- An annotation into which parsed items have been loaded. -/
structure IsLoaded (state : AnnotationState) : Prop where
  /-- Every area is as repaired items give it. -/
  areas : ∀ entry ∈ state.areas, entry.2.Loaded state.tree
  /-- The relations join different areas, no two of them the same ones. -/
  relations : state.relations.Joined state.id

variable {state next : AnnotationState}

/-- The id that an item gets is not empty. -/
theorem raw_itemId (state : AnnotationState) (item : WireResult) :
    (state.itemId item).2.raw ≠ "" := by
  rw [itemId]
  split
  · rename_i raw given
    exact bne_iff_ne.mp (Option.filter_eq_some_iff.mp given).2
  · exact state.session.supply.nonempty _

/-- An annotation stays loaded with one more repaired item. -/
theorem isLoaded_applyResult {options : LoadOptions} (regular : state.tree.Regular)
    (loaded : state.IsLoaded) (repaired : Repaired state.tree item) (parsed : item.Parsed)
    (applied : applyResult options state item = .ok next) : next.IsLoaded := by
  have continues := continues_applyResult applied
  obtain ⟨object, control, ⟨objectFound, -⟩, ⟨controlFound, -⟩, made⟩ := applyResult_eq_ok applied
  have relations : next.relations = state.relations := by
    rw [made, itemId]
    split
    · rfl
    · rfl
  have areas := congrArg AnnotationState.areas made
  dsimp only at areas
  refine ⟨?_, ?_⟩
  · rw [areas, continues.tree]
    split
    · exact loaded.areas
    · exact loaded_addItem loaded.areas controlFound objectFound
        (regular.named _ _ objectFound) repaired parsed options (raw_itemId state item) _
  · rw [relations, continues.id]
    exact loaded.relations

/-- An annotation stays loaded with more repaired items, also where one fails. -/
theorem isLoaded_applyResults {options : LoadOptions} {items : List WireResult}
    (regular : state.tree.Regular) (loaded : state.IsLoaded)
    (repaired : ∀ item ∈ items, Repaired state.tree item ∧ item.Parsed) :
    (applyResults options state items).1.IsLoaded := by
  induction items generalizing state with
  | nil => exact loaded
  | cons item rest hypothesis =>
    rw [applyResults]
    split
    · rename_i next applied
      have tree := (continues_applyResult applied).tree
      obtain ⟨itemRepaired, parsed⟩ := repaired item List.mem_cons_self
      refine hypothesis (tree ▸ regular)
        (isLoaded_applyResult regular loaded itemRepaired parsed applied) ?_
      rw [tree]
      exact fun other member => repaired other (List.mem_cons_of_mem _ member)
    · exact loaded

/-- The result items among repaired ones are repaired. -/
theorem repaired_of_mem {items : List WireItem} (regular : tree.Regular)
    (parsed : ∀ item, .result item ∈ items → item.Parsed) :
    ∀ item ∈ WireItem.results (Repair.items tree items),
      Repaired tree item ∧ item.Parsed := by
  intro fixed member
  obtain ⟨item, given, repairs⟩ := exists_of_mem_results member
  exact repaired_of_result? regular (parsed item given) repairs

/-- An annotation stays loaded as its areas and relations stay. -/
theorem IsLoaded.of_eq (loaded : state.IsLoaded) (tree : next.tree = state.tree)
    (id : next.id = state.id) (areas : next.areas = state.areas)
    (relations : next.relations = state.relations) : next.IsLoaded := by
  refine ⟨?_, ?_⟩
  · rw [areas, tree]
    exact loaded.areas
  · rw [relations, id]
    exact loaded.relations

/-- An annotation stays loaded with repaired items and relations. -/
theorem isLoaded_applyItems {items : List WireItem} (regular : state.tree.Regular)
    (loaded : state.IsLoaded) (parsed : ∀ item, .result item ∈ items → item.Parsed)
    (options : LoadOptions) : (applyItems options state items).1.IsLoaded := by
  have results : (applyResults options state
      (WireItem.results (Repair.items state.tree items))).1.IsLoaded :=
    isLoaded_applyResults regular loaded (repaired_of_mem regular parsed)
  rw [applyItems]
  dsimp only
  split
  · rename_i applied
    rw [applied] at results
    exact results
  · rename_i applied
    rw [applied] at results
    split
    · exact results.of_eq rfl rfl rfl rfl
    · exact ⟨results.areas, joined_addRelations results.relations _⟩

/-- The end of a load leaves the areas and the relations as they are. -/
theorem finishLoad_keeps (result : AnnotationState × Option Failure) :
    (finishLoad result).1.tree = result.1.tree ∧ (finishLoad result).1.id = result.1.id ∧
      (finishLoad result).1.settings = result.1.settings ∧
      (finishLoad result).1.areas = result.1.areas ∧
      (finishLoad result).1.relations = result.1.relations := by
  obtain ⟨changed, failure⟩ := result
  cases failure with
  | none =>
    obtain ⟨_, _, _, ended⟩ := committed_eq changed
    rw [finishLoad, ended]
    exact ⟨rfl, rfl, rfl, rfl, rfl⟩
  | some failure =>
    obtain ⟨_, _, _, ended⟩ := committed_eq { changed with
      issues := changed.issues ++ [Issue.error .general failure.message (.resultsOf changed.id)] }
    rw [finishLoad]
    dsimp only
    rw [ended]
    exact ⟨rfl, rfl, rfl, rfl, rfl⟩

/-- An annotation stays loaded as parsed items are loaded into it. -/
theorem isLoaded_loadItems {items : List WireItem} (regular : state.tree.Regular)
    (loaded : state.IsLoaded) (parsed : ∀ item, .result item ∈ items → item.Parsed)
    (options : LoadOptions) : (state.loadItems items options).1.IsLoaded := by
  have frozen : state.frozen.IsLoaded := loaded.of_eq rfl rfl rfl rfl
  have frozenRegular : state.frozen.tree.Regular := regular
  have applied : (applyItems options state.frozen items).1.IsLoaded :=
    isLoaded_applyItems frozenRegular frozen parsed options
  obtain ⟨tree, id, -, areas, relations⟩ :=
    finishLoad_keeps (applyItems options state.frozen items)
  exact applied.of_eq tree id areas relations

/-- An empty annotation is loaded. -/
theorem isLoaded_start (id : String) (kind : AnnotationKind) (tree : ElementTree)
    (settings : Settings) (session : Session) : (start id kind tree settings session).IsLoaded :=
  ⟨by simp [start], .nil id⟩

end AnnotationState
end Labeling
