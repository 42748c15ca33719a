import Mathlib
import Labeling.Proofs.Annotating.Written

/-!
# Serialization is stable after one load

The items of an annotation that has been loaded once make a copy of every area that was written, in
the same order, and the same relations (`isCopy_loadItems`), so that the copy is written as the
annotation was just when the geometry of its areas is read back (`IsCopy.items_eq_iff`). The
geometry may be lost where a result is one of a control that makes none: it is then recorded under
its own type, which may be the name of a field of geometry.
-/
namespace Labeling.AnnotationState

variable {state : AnnotationState} {area : Area}

/-! ## Paired lists -/

/-- Of lists that are paired, each member of the first one has a partner. -/
theorem exists_of_mem_forall₂ {α β : Type} {related : α → β → Prop} {first : List α}
    {second : List β} (paired : List.Forall₂ related first second) {value : α}
    (member : value ∈ first) : ∃ partner ∈ second, related value partner := by
  induction paired with
  | nil => contradiction
  | cons pair _ hypothesis =>
    rcases List.mem_cons.mp member with head | later
    · rw [head]
      exact ⟨_, List.mem_cons_self, pair⟩
    · obtain ⟨partner, inside, found⟩ := hypothesis later
      exact ⟨partner, List.mem_cons_of_mem _ inside, found⟩

/-- Paired lists are written as the same if every pair is, where pairs are written with the same
length. -/
theorem flatMap_eq_iff_of_forall₂ {α β γ : Type} {related : α → β → Prop} {holds : α → Prop}
    {first : List α} {second : List β} (paired : List.Forall₂ related first second)
    {write : α → List γ} {rewrite : β → List γ}
    (each : ∀ value partner, related value partner →
      (rewrite partner).length = (write value).length ∧
        (rewrite partner = write value ↔ holds value)) :
    second.flatMap rewrite = first.flatMap write ↔ ∀ value ∈ first, holds value := by
  induction paired with
  | nil => simp
  | cons pair _ hypothesis =>
    obtain ⟨length, same⟩ := each _ _ pair
    rw [List.flatMap_cons, List.flatMap_cons, List.forall_mem_cons, ← same, ← hypothesis]
    constructor
    · exact fun whole => List.append_inj whole length
    · rintro ⟨head, later⟩
      rw [head, later]

/-- Areas without written results are not written. -/
theorem flatMap_areaItems_filter (state : AnnotationState) (areas : List Area) :
    (areas.filter fun area => !(state.written area).isEmpty).flatMap state.areaItems =
      areas.flatMap state.areaItems := by
  induction areas with
  | nil => rfl
  | cons area rest hypothesis =>
    rw [List.filter_cons, List.flatMap_cons]
    cases found : state.written area with
    | nil =>
      have nothing : state.areaItems area = [] := by
        show (state.written area).map _ = []
        rw [found, List.map_nil]
      rw [nothing, List.nil_append]
      exact hypothesis
    | cons result results =>
      rw [if_pos (by rfl), List.flatMap_cons, hypothesis]

/-- The geometry of areas without written results is read back. -/
theorem forall_readsBack_filter (state : AnnotationState) (areas : List Area) :
    (∀ area ∈ areas.filter fun area => !(state.written area).isEmpty, state.ReadsBack area) ↔
      ∀ area ∈ areas, state.ReadsBack area := by
  constructor
  · intro each area member
    cases found : state.written area with
    | nil =>
      intro object _
      rw [found]
      trivial
    | cons result results =>
      exact each area (List.mem_filter.mpr ⟨member, by rw [found]; rfl⟩)
  · intro each area member
    exact each area (List.mem_filter.mp member).1

/-! ## Copies of annotations -/

/-- An annotation that copies another one: it has a copy of every area with written results, in the
same order, and the relations that were written. -/
structure IsCopy (state copy : AnnotationState) (owner : String) : Prop where
  /-- The configuration is the same. -/
  tree : copy.tree = state.tree
  /-- The settings are the same. -/
  settings : copy.settings = state.settings
  /-- An area is known by its id. -/
  has : ∀ id, copy.areas.has id = true ↔ ∃ area ∈ copy.areas.bySeq, area.id = id
  /-- The areas are copies. -/
  areas : List.Forall₂ (fun area copied => copied.id = ⟨area.id.raw, owner⟩ ∧ ∃ object,
      Readable state.tree object area ∧
        Area.Rebuilt state.tree object.type area (state.written area) copied)
    (state.areas.bySeq.filter fun area => !(state.written area).isEmpty) copy.areas.bySeq
  /-- The relations were written. -/
  relations : copy.relations = state.visibleRelations.map (carried owner)

/-- Loading the items of a loaded annotation into an empty one succeeds and copies it. -/
theorem isCopy_loadItems (regular : state.tree.Regular)
    (discards : state.settings.keepEmptyResults = false) (loaded : state.IsLoaded)
    (sound : state.Sound) (reloadable : state.Reloadable) (id : String) (kind : AnnotationKind)
    (session : Session) :
    let reloaded := (start id kind state.tree state.settings session).loadItems state.items {}
    reloaded.2 = true ∧ state.IsCopy reloaded.1 id := by
  intro reloaded
  let fresh := (start id kind state.tree state.settings session).frozen
  have readable (area : Area) (member : area ∈ state.areas.bySeq) :=
    reloadable.readable loaded sound member
  have begun : fresh.Shows state.tree id [] :=
    ⟨rfl, rfl, ⟨regular.named, .nil, .nil, List.forall_mem_nil _⟩, List.mergeSort_nil⟩
  have inside (area : Area) (_ : area ∈ state.areas.bySeq) (result : AreaResult)
      (member : result ∈ state.written area) : result ∈ area.results :=
    mem_of_mem_written member
  obtain ⟨next, copies, reads, shows, paired⟩ := begun.exists_reads_areas
    (fun area member => (readable area member).2) inside sound.areas.pairwise_raw_bySeq
    (fun _ _ => List.forall_mem_nil _)
  rw [List.nil_append] at shows
  rw [← results_items] at reads
  have unchanged : Repair.items fresh.tree state.items = state.items :=
    items_items_eq regular discards readable
  have applied := applyItems_of_reads unchanged reads
  rw [shows.id, reads.relations, relations_items] at applied
  have carry : addRelations id fresh.relations (state.visibleRelations.map Relation.toWire) =
      state.visibleRelations.map (carried id) :=
    addRelations_toWire (loaded.relations.filter (Relation.isVisible (state.areas.has ·)))
  rw [carry] at applied
  have ended : reloaded = finishLoad ({ next.synced with
      relations := state.visibleRelations.map (carried id) }, none) := congrArg finishLoad applied
  obtain ⟨tree, -, settings, areas, relations⟩ := finishLoad_keeps ({ next.synced with
    relations := state.visibleRelations.map (carried id) }, none)
  rw [← ended] at tree settings areas relations
  have sameAreas : reloaded.1.areas = next.areas := areas
  refine ⟨by rw [ended]; rfl, tree.trans shows.tree, settings.trans reads.settings, ?_, ?_,
    relations⟩
  · rw [sameAreas]
    exact shows.sound.areas.has_iff
  · rw [sameAreas, shows.areas]
    exact paired

/-- A copy keeps the results that are written. -/
theorem IsCopy.areaItems {copy : AnnotationState} {owner : String}
    (isCopy : state.IsCopy copy owner) : copy.areaItems = state.areaItems := by
  have kept : copy.keepsResult = state.keepsResult := by
    funext result
    rw [keepsResult, keepsResult, isCopy.settings, isCopy.tree]
  funext area
  rw [AnnotationState.areaItems, AnnotationState.areaItems, kept]

/-- The areas of written results are copied. -/
theorem IsCopy.has_of_written {copy : AnnotationState} {owner raw : String}
    (isCopy : state.IsCopy copy owner)
    (isWritten : ∃ result, .result result ∈ state.items ∧ result.id = some raw) :
    copy.areas.has ⟨raw, owner⟩ = true := by
  obtain ⟨entry, inside, nonempty, same⟩ := exists_mem_items_iff.mp isWritten
  have member : entry.2 ∈ state.areas.bySeq.filter fun area => !(state.written area).isEmpty :=
    List.mem_filter.mpr ⟨Areas.mem_bySeq.mpr ⟨_, inside⟩, by rw [nonempty]; rfl⟩
  obtain ⟨copied, listed, found, -⟩ := exists_of_mem_forall₂ isCopy.areas member
  rw [isCopy.has]
  exact ⟨copied, listed, same ▸ found⟩

/-- All relations of a copy are visible if their ends have written results. -/
theorem IsCopy.visibleRelations {copy : AnnotationState} {owner : String}
    (isCopy : state.IsCopy copy owner) (reloadable : state.Reloadable) :
    copy.visibleRelations = state.visibleRelations.map (carried owner) := by
  rw [AnnotationState.visibleRelations, Relations.visible, isCopy.relations, List.filter_eq_self]
  intro moved member
  obtain ⟨relation, inside, same⟩ := List.mem_map.mp member
  have isWritten := relation_mem_items_iff.mpr ⟨relation, inside, rfl⟩
  have ends := reloadable.ends relation.toWire isWritten
  rw [← same, Relation.isVisible, Bool.and_eq_true]
  exact ⟨isCopy.has_of_written (ends _ (by simp)), isCopy.has_of_written (ends _ (by simp))⟩

/-- A copy is written as the annotation was just when the geometry of every area is read back. -/
theorem IsCopy.items_eq_iff {copy : AnnotationState} {owner : String}
    (isCopy : state.IsCopy copy owner) (discards : state.settings.keepEmptyResults = false)
    (reloadable : state.Reloadable) :
    copy.items = state.items ↔ ∀ area ∈ state.areas.bySeq, state.ReadsBack area := by
  have sameTail : (fun relation => WireItem.relation relation.toWire) ∘ carried owner =
      fun relation => .relation relation.toWire := rfl
  rw [items, items, isCopy.visibleRelations reloadable, isCopy.areaItems, List.map_map, sameTail,
    List.append_left_inj, ← flatMap_areaItems_filter state state.areas.bySeq]
  refine Iff.trans ?_ (forall_readsBack_filter state state.areas.bySeq)
  apply flatMap_eq_iff_of_forall₂ isCopy.areas
  rintro area copied ⟨-, object, readable, rebuilt⟩
  exact areaItems_copy discards readable rebuilt

/-! ## Deciding whether an annotation can be loaded again -/

/-- What is supposed of a loaded annotation, told by its areas and relations in any order. -/
theorem reloadable_iff : state.Reloadable ↔
    (∀ relation ∈ state.visibleRelations, ∀ raw ∈ [relation.toWire.fromId, relation.toWire.toId],
      ∃ entry ∈ state.areas, (state.written entry.2).isEmpty = false ∧ raw = entry.2.id.raw) ∧
    (∀ entry ∈ state.areas, ∀ first ∈ entry.2.results, ∀ second ∈ entry.2.results,
      first.toName = second.toName) ∧
    ∀ entry ∈ state.areas, ∀ object ∈ state.tree.get? entry.2.object,
      Shape.IsSpan object.type entry.2.shape := by
  constructor
  · rintro ⟨ends, oneObject, spanned⟩
    refine ⟨fun relation visible raw isEnd => ?_, oneObject, spanned⟩
    have isWritten := relation_mem_items_iff.mpr ⟨relation, visible, rfl⟩
    exact exists_mem_items_iff.mp (ends _ isWritten raw isEnd)
  · rintro ⟨ends, oneObject, spanned⟩
    refine ⟨fun item isWritten raw isEnd => ?_, oneObject, spanned⟩
    obtain ⟨relation, visible, same⟩ := relation_mem_items_iff.mp isWritten
    rw [← same] at isEnd
    exact exists_mem_items_iff.mpr (ends relation visible raw isEnd)

instance (objectType : String) (shape : Shape) : Decidable (Shape.IsSpan objectType shape) :=
  inferInstanceAs (Decidable (_ → _ → _ → _))

instance (state : AnnotationState) : Decidable state.Reloadable :=
  decidable_of_iff _ reloadable_iff.symm

/-! ## Samples -/

/-- A node without a parent and children. -/
def sampleNode (id : Nat) (tag type : String) (attributes : Entries String String) :
    ConfigNode where
  id := id
  tagName := tag
  type := type
  attributes := attributes
  parent := none
  children := []
  value := none
  nameSynthesized := false
  toNameSynthesized := false
  repeatIndex := none

/-- A text with labels and relations. -/
def sampleConfig : ConfigTree where
  nodes := [
    sampleNode 0 "Text" "text" [("name", "text"), ("value", "$text")],
    sampleNode 1 "Labels" "labels" [("name", "label"), ("toname", "text")],
    sampleNode 2 "Relations" "relations" [("name", "links")]]

/-- The names of the sample are distinct. -/
theorem sampleConfig_distinct :
    (ElementTree.ofConfig sampleConfig .standard none).report.has .duplicateName = false := by
  decide +kernel

/-- Two labelled spans and a relation between them. -/
def linkedText : String :=
  "[\x7b\"id\":\"a\",\"type\":\"labels\",\"from_name\":\"label\",\"to_name\":\"text\",
    \"value\":\x7b\"start\":0,\"end\":5,\"labels\":[\"A\"]\x7d\x7d,
    \x7b\"id\":\"b\",\"type\":\"labels\",\"from_name\":\"label\",\"to_name\":\"text\",
    \"value\":\x7b\"start\":6,\"end\":9,\"labels\":[\"B\"]\x7d\x7d,
    \x7b\"type\":\"relation\",\"from_id\":\"a\",\"to_id\":\"b\"\x7d]"

/-- The value that the text of the linked spans writes. -/
def linkedPayload : Json := .array [
  .object [("from_name", .string "label"), ("id", .string "a"), ("to_name", .string "text"),
    ("type", .string "labels"), ("value", .object [("end", .integer 5),
      ("labels", .array [.string "A"]), ("start", .integer 0)])],
  .object [("from_name", .string "label"), ("id", .string "b"), ("to_name", .string "text"),
    ("type", .string "labels"), ("value", .object [("end", .integer 9),
      ("labels", .array [.string "B"]), ("start", .integer 6)])],
  .object [("from_id", .string "a"), ("to_id", .string "b"), ("type", .string "relation")]]

/-- The items of the linked spans. -/
def linkedItems : List WireItem := [
  .result { id := some "a", fromName := "label", toName := "text", resultType := "labels", value :=
    [("end", .integer 5), ("labels", .array [.string "A"]), ("start", .integer 0)] },
  .result { id := some "b", fromName := "label", toName := "text", resultType := "labels", value :=
    [("end", .integer 9), ("labels", .array [.string "B"]), ("start", .integer 6)] },
  .relation { fromId := "a", toId := "b" }]

/-- A labelled span of which the first result is one of the relations control. -/
def strayText : String :=
  "[\x7b\"id\":\"a\",\"type\":\"startOffset\",\"from_name\":\"links\",\"to_name\":\"text\",
    \"value\":\x7b\x7d\x7d,
    \x7b\"id\":\"a\",\"type\":\"labels\",\"from_name\":\"label\",\"to_name\":\"text\",
    \"value\":\x7b\"start\":0,\"end\":5,\"startOffset\":7,\"labels\":[\"A\"]\x7d\x7d]"

/-- The value that the text of the stray result writes. -/
def strayPayload : Json := .array [
  .object [("from_name", .string "links"), ("id", .string "a"), ("to_name", .string "text"),
    ("type", .string "startOffset"), ("value", .object [])],
  .object [("from_name", .string "label"), ("id", .string "a"), ("to_name", .string "text"),
    ("type", .string "labels"), ("value", .object [("end", .integer 5),
      ("labels", .array [.string "A"]), ("start", .integer 0), ("startOffset", .integer 7)])]]

/-- The items of the stray result and of the span. -/
def strayItems : List WireItem := [
  .result { id := some "a", fromName := "links", toName := "text", resultType := "startOffset" },
  .result { id := some "a", fromName := "label", toName := "text", resultType := "labels", value :=
    [("end", .integer 5), ("labels", .array [.string "A"]), ("start", .integer 0),
      ("startOffset", .integer 7)] }]

/-! ## Loaded once -/

/-- The geometry of an area is read back if every written result is one of a control that makes
results: such a control records beside the geometry. -/
theorem Reloadable.readsBack (regular : state.tree.Regular) (reloadable : state.Reloadable)
    (loaded : state.IsLoaded) (sound : state.Sound) (member : area ∈ state.areas.bySeq)
    (makes : ∀ result ∈ state.written area, ∃ control ∈ state.tree.get? result.fromName,
      control.resultType.isSome = true) :
    state.ReadsBack area := by
  obtain ⟨-, object, readable⟩ := reloadable.readable loaded sound member
  obtain ⟨id, inside⟩ := Areas.mem_bySeq.mp member
  intro other found
  have same : some object = some other := readable.isObject.1.symm.trans found
  have settled : Shape.Settled other.type area.shape := Option.some.inj same ▸ readable.settled
  refine settled.readsBack (reloadable.spanned _ inside other found) fun key keyInside => ?_
  obtain ⟨result, isWritten, keySame⟩ := List.mem_map.mp keyInside
  obtain ⟨control, controlFound, some⟩ := makes result isWritten
  obtain ⟨name, payload, beside⟩ := regular.beside _ _ controlFound some
  rw [← keySame, AreaResult.keyIn_eq controlFound, Area.keyOf, payload, Option.getD_some]
  exact beside

/-- A load leaves the tree and the settings as they are. -/
theorem loadItems_keeps (state : AnnotationState) (items : List WireItem)
    (options : LoadOptions) : (state.loadItems items options).1.tree = state.tree ∧
      (state.loadItems items options).1.settings = state.settings := by
  have applied := continues_applyItems options state.frozen items
  obtain ⟨tree, -, settings, -⟩ := finishLoad_keeps (applyItems options state.frozen items)
  exact ⟨tree.trans applied.tree, settings.trans applied.settings⟩

/-- Serialization is stable after one load. An annotation of a tree of standard tags with distinct
names, into which the items of a text have been loaded, is written as items that can be loaded
into a fresh annotation. That one is written as the same items just when the geometry of every
area is read back, and this is so if every written result is one of a control that makes
results. -/
theorem serialization_stable {config : ConfigTree} {task : Option Json} {settings : Settings}
    (distinct : (ElementTree.ofConfig config .standard task).report.has .duplicateName = false)
    (discards : settings.keepEmptyResults = false) {text : String} {payload : Json}
    {contents : List WireItem} (parsed : Json.read? text = some payload)
    (read : Payload.items payload = .ok contents) (id : String) (kind : AnnotationKind)
    (session : Session) (options : LoadOptions) (nextId : String) (nextKind : AnnotationKind)
    (nextSession : Session) :
    let tree := ElementTree.ofConfig config .standard task
    let loaded := ((start id kind tree settings session).loadItems contents options).1
    let reloaded := (start nextId nextKind tree settings nextSession).loadItems loaded.items {}
    loaded.Reloadable →
      reloaded.2 = true ∧
        (reloaded.1.items = loaded.items ↔
          ∀ entry ∈ loaded.areas, loaded.ReadsBack entry.2) ∧
        ((∀ entry ∈ loaded.areas, ∀ result ∈ loaded.written entry.2,
            ∃ control ∈ tree.get? result.fromName, control.resultType.isSome = true) →
          reloaded.1.items = loaded.items) := by
  intro tree loaded reloaded reloadable
  have treeRegular : tree.Regular := ElementTree.regular_ofConfig distinct
  obtain ⟨sameTree, sameSettings⟩ :=
    loadItems_keeps (start id kind tree settings session) contents options
  have loadedTree : loaded.tree = tree := sameTree
  have loadedSettings : loaded.settings = settings := sameSettings
  have regular : loaded.tree.Regular := loadedTree ▸ treeRegular
  have contentsParsed (item : WireResult) (member : .result item ∈ contents) : item.Parsed :=
    Payload.parsed_of_items read (Json.parsed_of_read? parsed) member
  have isLoaded : loaded.IsLoaded := isLoaded_loadItems treeRegular
    (isLoaded_start id kind tree settings session) contentsParsed options
  have sound : loaded.Sound :=
    (advances_loadItems (start id kind tree settings session) contents options
      ⟨treeRegular.named, .nil, .nil, List.forall_mem_nil _⟩).1
  have again := isCopy_loadItems regular (loadedSettings ▸ discards) isLoaded sound reloadable
    nextId nextKind nextSession
  rw [loadedTree, loadedSettings] at again
  obtain ⟨succeeds, isCopy⟩ := again
  have same := isCopy.items_eq_iff (loadedSettings ▸ discards) reloadable
  have entries : (∀ area ∈ loaded.areas.bySeq, loaded.ReadsBack area) ↔
      ∀ entry ∈ loaded.areas, loaded.ReadsBack entry.2 := by
    constructor
    · exact fun each entry member => each entry.2 (Areas.mem_bySeq.mpr ⟨entry.1, member⟩)
    · intro each area member
      obtain ⟨key, inside⟩ := Areas.mem_bySeq.mp member
      exact each _ inside
  refine ⟨succeeds, same.trans entries, fun makes => same.mpr fun area member => ?_⟩
  obtain ⟨key, inside⟩ := Areas.mem_bySeq.mp member
  refine reloadable.readsBack regular isLoaded sound member fun result isWritten => ?_
  rw [loadedTree]
  exact makes _ inside result isWritten

set_option maxRecDepth 10000 in
/-- Linked spans are written again as they were. -/
theorem linkedSpans_stable :
    let tree := ElementTree.ofConfig sampleConfig .standard none
    let loaded := ((start "1" .manual tree {} {}).loadItems linkedItems {}).1
    let reloaded := (start "2" .manual tree {} {}).loadItems loaded.items {}
    tree.report.has .duplicateName = false ∧ Settings.keepEmptyResults {} = false ∧
      Json.read? linkedText = some linkedPayload ∧
      Payload.items linkedPayload = .ok linkedItems ∧ loaded.Reloadable ∧
      (∀ entry ∈ loaded.areas, ∀ result ∈ loaded.written entry.2,
        ∃ control ∈ tree.get? result.fromName, control.resultType.isSome = true) ∧
      reloaded.2 = true ∧ reloaded.1.items = loaded.items := by
  intro tree loaded reloaded
  have distinct : tree.report.has .duplicateName = false := sampleConfig_distinct
  have letters : linkedText.toList = _ := String.toList_ofList
  have parsed : Json.read? linkedText = some linkedPayload := by
    rw [Json.read?, letters]
    cbv
  have read : Payload.items linkedPayload = .ok linkedItems := rfl
  have reloadable : loaded.Reloadable := by decide +kernel
  have makes : ∀ entry ∈ loaded.areas, ∀ result ∈ loaded.written entry.2,
      ∃ control ∈ tree.get? result.fromName, control.resultType.isSome = true := by
    decide +kernel
  obtain ⟨succeeds, -, same⟩ := serialization_stable distinct rfl parsed read "1" .manual {} {}
    "2" .manual {} reloadable
  exact ⟨distinct, rfl, parsed, read, reloadable, makes, succeeds, same makes⟩

set_option maxRecDepth 10000 in
/-- Not every annotation is written again as it was: the relations control makes no results, and the
offset of the span is taken for the payload of its stray result. -/
theorem strayResult_unstable :
    ¬ ∀ (config : ConfigTree) (task : Option Json) (settings : Settings) (text : String)
        (payload : Json) (contents : List WireItem) (id nextId : String),
      let tree := ElementTree.ofConfig config .standard task
      let loaded := ((start id .manual tree settings {}).loadItems contents {}).1
      let reloaded := (start nextId .manual tree settings {}).loadItems loaded.items {}
      tree.report.has .duplicateName = false → settings.keepEmptyResults = false →
        Json.read? text = some payload → Payload.items payload = .ok contents →
        loaded.Reloadable → reloaded.2 = true ∧ reloaded.1.items = loaded.items := by
  intro stable
  have letters : strayText.toList = _ := String.toList_ofList
  have parsed : Json.read? strayText = some strayPayload := by
    rw [Json.read?, letters]
    cbv
  obtain ⟨-, same⟩ := stable sampleConfig none {} strayText strayPayload strayItems "1" "2"
    sampleConfig_distinct rfl parsed rfl (by decide +kernel)
  let offsets (items : List WireItem) : List Bool :=
    (WireItem.results items).map fun item => item.value.has "startOffset"
  have kept := congrArg offsets same
  exact absurd kept (by decide +kernel)

end Labeling.AnnotationState
