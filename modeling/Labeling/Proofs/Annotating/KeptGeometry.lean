import Labeling.Proofs.Annotating.Attached
import Labeling.Proofs.Annotating.Rebuilding
import Labeling.Proofs.Annotating.RelationEnds
import Labeling.Proofs.Shape.Keeping

/-!
# Loading keeps geometry

Each area that a load makes has the shape that the values of all items of its id make in the order
of the load, each value without the payload of its control (`madeOf_applyResults`). What is written
for a result of the area, without that result's payload, has therefore the fields of these values,
of two fields of a name the first one, except for offsets that were filled in for the first item:
these hide the offsets of later items, and are written though no item had them if the area has
become no span of text (`loadItems_keeps_iff`).
-/
namespace Labeling

open Shape (ofItems filledFirst)

/-- What an item tells about geometry: its value without the payload of its control, and the type of
its object. -/
def WireResult.geometry (tree : ElementTree) (item : WireResult) : Value × String :=
  (item.value.erase ((AreaResult.ofWire item item.value).keyIn tree),
    ((tree.get? item.toName).map (·.type)).getD "")

/-- An area of some items: it has the shape that their values make, and its results hold nothing but
what their controls record. -/
structure Area.MadeOf (tree : ElementTree) (items : List WireResult) (area : Area) : Prop where
  /-- There is an item. -/
  nonempty : items ≠ []
  /-- The shape is the one that the values make. -/
  shape : area.shape = ofItems (items.map (WireResult.geometry tree))
  /-- Every result holds nothing but what its control records. -/
  own : ∀ result ∈ area.results, result.IsOwn tree

/-- Areas of the items that are given under their ids; under other ids no items are given. -/
structure Areas.MadeOf (tree : ElementTree) (given : AreaId → List WireResult) (areas : Areas) :
    Prop where
  /-- An area is made of the items of its id. -/
  made : ∀ id area, areas.get? id = some area → area.MadeOf tree (given id)
  /-- Without an area there is no item. -/
  absent : ∀ id, areas.get? id = none → given id = []

namespace AnnotationState

variable {tree : ElementTree} {state next : AnnotationState} {item : WireResult}
  {control object : Element} {area : Area} {items : List WireResult}

/-! ## Items of an id -/

/-- The items that a load adds under an id, in order. -/
def itemsUnder (id : AreaId) : AnnotationState → List WireResult → List WireResult
  | _, [] => []
  | state, item :: rest =>
    let (state, made) := state.itemId item
    if made = id then item :: itemsUnder id state rest else itemsUnder id state rest

/-- The items under an id are among the loaded ones. -/
theorem mem_of_mem_itemsUnder {id : AreaId} (member : item ∈ itemsUnder id state items) :
    item ∈ items := by
  induction items generalizing state with
  | nil => contradiction
  | cons first rest hypothesis =>
    rw [itemsUnder] at member
    dsimp only at member
    split at member
    · rcases List.mem_cons.mp member with head | later
      · exact head ▸ List.mem_cons_self
      · exact List.mem_cons_of_mem _ (hypothesis later)
    · exact List.mem_cons_of_mem _ (hypothesis member)

/-- The id of an item depends on the id of the annotation and on the ids made up before. -/
theorem itemId_congr {other : AnnotationState} (owner : other.id = state.id)
    (session : other.session = state.session) (item : WireResult) :
    (other.itemId item).2 = (state.itemId item).2 ∧
      (other.itemId item).1.id = (state.itemId item).1.id ∧
      (other.itemId item).1.session = (state.itemId item).1.session := by
  rw [itemId, itemId]
  split
  · rename_i raw _
    exact ⟨congrArg (AreaId.mk raw) owner, owner, session⟩
  · rw [madeUpId, madeUpId, session]
    exact ⟨congrArg (AreaId.mk _) owner, owner, rfl⟩

/-- Under which ids items are added depends on no more. -/
theorem itemsUnder_congr {other : AnnotationState} (owner : other.id = state.id)
    (session : other.session = state.session) (id : AreaId) (items : List WireResult) :
    itemsUnder id other items = itemsUnder id state items := by
  induction items generalizing state other with
  | nil => rfl
  | cons item rest hypothesis =>
    obtain ⟨made, sameOwner, sameSession⟩ := itemId_congr owner session item
    rw [itemsUnder, itemsUnder]
    dsimp only
    rw [made, hypothesis sameOwner sameSession]

/-! ## Areas of items -/

/-- The geometry of an item at known elements. -/
theorem geometry_eq (controlFound : tree.get? item.fromName = some control)
    (objectFound : tree.get? item.toName = some object) :
    item.geometry tree =
      ((splitPayload (control.payloadKey.getD item.resultType) item.value).1, object.type) := by
  rw [WireResult.geometry, AreaResult.keyIn_eq controlFound, splitPayload_fst, objectFound]
  rfl

/-- The area that an item begins is made of that item. -/
theorem madeOf_begunArea (controlFound : tree.get? item.fromName = some control)
    (objectFound : tree.get? item.toName = some object) (options : LoadOptions) (id : AreaId)
    (seq : Nat) : (begunArea control object item options id seq).MadeOf tree [item] where
  nonempty := List.cons_ne_nil item []
  shape := by
    rw [List.map_singleton, geometry_eq controlFound objectFound]
    rfl
  own result member := by
    rw [List.mem_singleton.mp member]
    exact isOwn_ofWire controlFound

/-- An area goes on with one more item. -/
theorem madeOf_continuedArea (made : area.MadeOf tree items)
    (controlFound : tree.get? item.fromName = some control)
    (objectFound : tree.get? item.toName = some object) :
    (continuedArea control object item area).MadeOf tree (items ++ [item]) where
  nonempty := List.append_ne_nil_of_left_ne_nil made.nonempty [item]
  shape := by
    have begun : items.map (WireResult.geometry tree) ≠ [] := by
      rw [ne_eq, List.map_eq_nil_iff]
      exact made.nonempty
    rw [List.map_append, List.map_singleton, Shape.ofItems_append_singleton begun,
      geometry_eq controlFound objectFound, ← made.shape]
    rfl
  own result member := by
    rcases List.mem_append.mp member with old | new
    · exact made.own result old
    · rw [List.mem_singleton.mp new]
      exact isOwn_ofWire controlFound

variable {given : AreaId → List WireResult} {areas : Areas} {options : LoadOptions}

/-- Areas of items take in one more item. -/
theorem madeOf_addItem (made : areas.MadeOf tree given)
    (controlFound : tree.get? item.fromName = some control)
    (objectFound : tree.get? item.toName = some object) (options : LoadOptions) (id : AreaId)
    (seq : Nat) :
    (addItem areas control object item options id seq).MadeOf tree
      fun other => given other ++ if id = other then [item] else [] := by
  have fields (other : AreaId) :
      (addItem areas control object item options id seq).get? other =
        if other = id then
          some (((areas.get? id).map (continuedArea control object item)).getD
            (begunArea control object item options id seq))
        else areas.get? other := by
    rw [addItem_eq, Entries.has]
    cases found : areas.get? id with
    | none => exact Entries.get?_put id other _ areas
    | some former =>
      refine (Entries.get?_update id other _ areas).trans ?_
      split
      · rename_i same
        rw [same, found]
        rfl
      · rfl
  refine ⟨fun other area stored => ?_, fun other none => ?_⟩
  · rw [fields] at stored
    split at stored
    · rename_i same
      subst same
      rw [← Option.some.inj stored, if_pos rfl]
      cases found : areas.get? other with
      | none =>
        rw [made.absent other found]
        exact madeOf_begunArea controlFound objectFound options other seq
      | some former =>
        exact madeOf_continuedArea (made.made other former found) controlFound objectFound
    · rename_i different
      rw [if_neg (Ne.symm different), List.append_nil]
      exact made.made other area stored
  · rw [fields] at none
    split at none
    · contradiction
    · rename_i different
      rw [if_neg (Ne.symm different), List.append_nil]
      exact made.absent other none

/-- Items that are added one after the other make areas of the items of their ids. -/
theorem madeOf_applyResults (made : (state.receiving options).MadeOf state.tree given)
    (applied : applyResults options state items = (next, none)) :
    (next.receiving options).MadeOf state.tree fun id => given id ++ itemsUnder id state items := by
  induction items generalizing state given with
  | nil =>
    cases applied
    simpa only [itemsUnder, List.append_nil] using made
  | cons item rest hypothesis =>
    rw [applyResults] at applied
    split at applied
    · rename_i middle first
      have sameTree := (continues_applyResult first).tree
      obtain ⟨object, control, ⟨objectFound, -⟩, ⟨controlFound, -⟩, changed⟩ :=
        applyResult_eq_ok first
      have added := madeOf_addItem made controlFound objectFound options (state.itemId item).2
        state.nextSeq
      have received : middle.receiving options = addItem (state.receiving options) control object
          item options (state.itemId item).2 state.nextSeq := by
        rw [changed, receiving, receiving]
        dsimp only
        split
        · rfl
        · rfl
      rw [← received, ← sameTree] at added
      have later := hypothesis added applied
      have owner : middle.id = (state.itemId item).1.id := by rw [changed]
      have session : middle.session = (state.itemId item).1.session := by rw [changed]
      have sameItems (id : AreaId) : itemsUnder id state (item :: rest) =
          (if (state.itemId item).2 = id then [item] else []) ++ itemsUnder id middle rest := by
        rw [itemsUnder_congr owner session, itemsUnder]
        dsimp only
        split
        · rfl
        · rfl
      rw [sameTree] at later
      simp only [sameItems, ← List.append_assoc]
      exact later
    · cases applied

/-- What a load adds to has behind it the areas that the result items make. -/
theorem receiving_loadItems (state : AnnotationState) (contents : List WireItem)
    (options : LoadOptions) : (state.loadItems contents options).1.receiving options =
      (Loading.applied ⟨state, contents, options⟩).receiving options := by
  obtain ⟨areas, suggestions⟩ := present_loadItems state contents options
  rw [receiving, receiving, areas, suggestions]

/-- Items that are all added where there are no areas make areas of the items of their ids. -/
theorem madeOf_of_empty (empty : state.receiving options = [])
    (applied : applyResults options state.frozen items = (next, none)) :
    (next.receiving options).MadeOf state.tree fun id => state.itemsUnder id items := by
  have begun : (state.frozen.receiving options).MadeOf state.frozen.tree fun _ => [] := by
    rw [show state.frozen.receiving options = [] from empty]
    refine ⟨fun _ _ present => ?_, fun _ _ => rfl⟩
    rw [Entries.get?_nil] at present
    contradiction
  have made := madeOf_applyResults begun applied
  have sameItems (id : AreaId) := itemsUnder_congr (show state.frozen.id = state.id from rfl)
    (show state.frozen.session = state.session from rfl) id items
  simp only [List.nil_append, sameItems] at made
  exact made

/-- A load into an annotation without areas that succeeds makes areas of the items of their ids. -/
theorem madeOf_loadItems {contents : List WireItem} (empty : state.receiving options = [])
    (unchanged : Repair.items state.tree contents = contents)
    (succeeds : (state.loadItems contents options).2 = true) :
    ((state.loadItems contents options).1.receiving options).MadeOf state.tree
      fun id => state.itemsUnder id (WireItem.results contents) := by
  cases applied : applyResults options state.frozen (WireItem.results contents) with
  | mk next failure =>
    have added : (Loading.applied ⟨state, contents, options⟩) = next := by
      rw [Loading.applied, Loading.results, unchanged]
      exact congrArg Prod.fst applied
    cases failure with
    | some failure =>
      have failed : applyItems options state.frozen contents = (next, some failure) := by
        rw [applyItems]
        dsimp only
        rw [show Repair.items state.frozen.tree contents = contents from unchanged, applied]
      rw [loadItems, failed] at succeeds
      contradiction
    | none =>
      rw [receiving_loadItems, added]
      exact madeOf_of_empty empty applied

/-- Loading keeps geometry up to filled in offsets. An annotation of a bound tree takes in items
that repair leaves as they are. What is then written for a result, without its own payload, has
the fields that the items of its id have beside their payloads, of two fields of a name the first
one, and no others, except for the offsets that are filled in for the first item. It has these
fields altogether just when no item has the result's own payload as a further field, and the
items have the offsets that are filled in just where these are written. -/
theorem loadItems_keeps_iff (id : String) (kind : AnnotationKind) (config : ConfigTree)
    (catalogue : Catalogue) (task : Option Json) (settings : Settings) (session : Session)
    {contents : List WireItem} (options : LoadOptions) :
    let tree := ElementTree.ofConfig config catalogue task
    let fresh := start id kind tree settings session
    let loaded := fresh.loadItems contents options
    Repair.items tree contents = contents →
      (∀ item ∈ WireItem.results contents, Entries.Sorted item.value) → loaded.2 = true →
      ∀ areaId area, (loaded.1.receiving options).get? areaId = some area →
        ∀ result ∈ area.results,
          let parts := (fresh.itemsUnder areaId (WireItem.results contents)).map
            (WireResult.geometry tree)
          let given := Value.union (parts.map Prod.fst)
          let own := result.keyIn tree
          let written : Value := (area.toWire result).value.erase own
          (∀ key, key ≠ own → (filledFirst parts).get? key = none →
            Option.Rel Json.Renders (written.get? key) (given.get? key)) ∧
          (written.Renders given ↔ given.get? own = none ∧
            ∀ key filled, key ≠ own → (filledFirst parts).get? key = some filled →
              given.get? key = if area.shape.offsetsPromoted then none else some filled) := by
  intro tree fresh loaded unchanged sorted succeeds areaId area found result member parts given own
    written
  have empty : fresh.receiving options = [] := by
    rw [receiving]
    split
    · rfl
    · rfl
  have made := (madeOf_loadItems empty unchanged succeeds).made areaId area found
  have shape : area.shape = ofItems parts := made.shape
  have isOwn : result.IsOwn tree := made.own result member
  have partsSorted : ∀ part ∈ parts, Entries.Sorted part.1 :=
    List.forall_mem_map.mpr fun item inside =>
      Entries.sorted_erase _ (sorted item (mem_of_mem_itemsUnder inside))
  have sameFields (key : String) : written.get? key =
      Entries.get? key ((ofItems parts).toValue.erase own) := by
    rw [Entries.get?_erase, Entries.get?_erase]
    split
    · rfl
    · rename_i other
      rw [Area.get?_toWire_value isOwn, Area.get?_value_of_ne isOwn other, Option.none_or, shape]
  refine ⟨fun key other unfilled => ?_, ?_⟩
  · rw [sameFields, Entries.get?_erase_of_ne other]
    exact Shape.rel_toValue_ofItems partsSorted unfilled
  · rw [shape]
    refine Iff.trans (forall_congr' fun key => ?_) (Shape.renders_erase_iff partsSorted own)
    rw [sameFields]

/-- A labelled span of an id and a mood that was chosen for it, which has some further fields. -/
def moodSpan (raw : String) (further : Value) : List WireItem := [
  .result { id := some raw, fromName := "label", toName := "text", resultType := "labels",
            value := [("end", .integer 5), ("labels", .array [.string "A"]),
              ("start", .integer 0)] },
  .result { id := some raw, fromName := "mood", toName := "text", resultType := "choices",
            value := [("choices", .array [.string "good"]), ("end", .integer 5),
              ("start", .integer 0)] ++ further }]

/-- Two such spans, of which the second one has a start offset with its mood. -/
def moodSpans : List WireItem := moodSpan "a" [] ++ moodSpan "b" [("startOffset", .integer 7)]

set_option maxRecDepth 10000 in
/-- Repair leaves the spans as they are. -/
theorem items_moodSpans :
    Repair.items (.ofConfig moodConfig .standard none) moodSpans = moodSpans :=
  Eq.refl moodSpans

set_option maxRecDepth 10000 in
/-- A span is written for its mood as it was given, without the offsets that are filled in. -/
theorem moodSpans_kept :
    let tree := ElementTree.ofConfig moodConfig .standard none
    let fresh := start "1" .manual tree {} {}
    let loaded := fresh.loadItems moodSpans {}
    let parts := (fresh.itemsUnder ⟨"a", "1"⟩ (WireItem.results moodSpans)).map
      (WireResult.geometry tree)
    Repair.items tree moodSpans = moodSpans ∧
      (∀ item ∈ WireItem.results moodSpans, Entries.Sorted item.value) ∧ loaded.2 = true ∧
      (Value.union (parts.map Prod.fst)).keys = ["end", "start"] ∧
      (filledFirst parts).keys = ["endOffset", "startOffset"] ∧
      ∃ area ∈ loaded.1.areas.get? ⟨"a", "1"⟩, ∃ result ∈ area.results,
        result.fromName = "mood" ∧ result.keyIn tree = "choices" ∧
        Value.Renders ((area.toWire result).value.erase "choices")
          (Value.union (parts.map Prod.fst)) := by
  intro tree fresh loaded parts
  obtain ⟨sorted, succeeds, given, filled, area, stored, promoted, result, member, name, key⟩ :
      (∀ item ∈ WireItem.results moodSpans, Entries.Sorted item.value) ∧ loaded.2 = true ∧
      (Value.union (parts.map Prod.fst)).keys = ["end", "start"] ∧
      (filledFirst parts).keys = ["endOffset", "startOffset"] ∧
      ∃ area ∈ loaded.1.areas.get? ⟨"a", "1"⟩, area.shape.offsetsPromoted = true ∧
        ∃ result ∈ area.results, result.fromName = "mood" ∧ result.keyIn tree = "choices" := by
    decide +kernel
  have received : (loaded.1.receiving {}).get? ⟨"a", "1"⟩ = some area := by
    rw [receiving, if_neg Bool.false_ne_true]
    exact stored
  have absent (name : String) (other : name ∉ ["end", "start"]) :
      (Value.union (parts.map Prod.fst)).get? name = none := by
    rw [Entries.get?_eq_none_iff, given]
    exact other
  obtain ⟨-, renders⟩ := loadItems_keeps_iff "1" .manual moodConfig .standard none {} {} {}
    items_moodSpans sorted succeeds ⟨"a", "1"⟩ area received result member
  rw [key, promoted] at renders
  refine ⟨items_moodSpans, sorted, succeeds, given, filled, area, stored, result, member, name,
    key, renders.mpr ⟨absent "choices" (by decide), fun other _ _ found => absent other ?_⟩⟩
  obtain ⟨offset, -⟩ := Shape.integer_of_filledFirst found
  intro inside
  have apart : ∀ name ∈ ["end", "start"], name ∉ Shape.filledNames := by decide
  exact apart other inside offset

set_option maxRecDepth 10000 in
/-- Not every offset is kept: the one that is filled in for a span hides the one that is given with
the mood, and is not written itself. -/
theorem givenOffset_lost :
    ¬ ∀ (config : ConfigTree) (task : Option Json) (settings : Settings)
        (contents : List WireItem) (id : String) (areaId : AreaId) (area : Area)
        (result : AreaResult),
      let tree := ElementTree.ofConfig config .standard task
      let fresh := start id .manual tree settings {}
      let loaded := fresh.loadItems contents {}
      let parts := (fresh.itemsUnder areaId (WireItem.results contents)).map
        (WireResult.geometry tree)
      tree.report.has .duplicateName = false → Repair.items tree contents = contents →
        (∀ item ∈ WireItem.results contents, Entries.Sorted item.value) → loaded.2 = true →
        loaded.1.areas.get? areaId = some area → result ∈ area.results →
        Value.Renders ((area.toWire result).value.erase (result.keyIn tree))
          (Value.union (parts.map Prod.fst)) := by
  intro keeps
  let tree := ElementTree.ofConfig moodConfig .standard none
  let fresh := start "1" .manual tree {} {}
  let loaded := fresh.loadItems moodSpans {}
  let parts := (fresh.itemsUnder ⟨"b", "1"⟩ (WireItem.results moodSpans)).map
    (WireResult.geometry tree)
  obtain ⟨distinct, sorted, succeeds, given, area, stored, result, member, lost⟩ :
      tree.report.has .duplicateName = false ∧
      (∀ item ∈ WireItem.results moodSpans, Entries.Sorted item.value) ∧ loaded.2 = true ∧
      (Value.union (parts.map Prod.fst)).has "startOffset" = true ∧
      ∃ area ∈ loaded.1.areas.get? ⟨"b", "1"⟩, ∃ result ∈ area.results,
        Entries.has "startOffset" ((area.toWire result).value.erase (result.keyIn tree)) =
          false := by
    decide +kernel
  have renders := keeps moodConfig none {} moodSpans "1" ⟨"b", "1"⟩ area result distinct
    items_moodSpans sorted succeeds stored member
  have same := Value.isSome_eq_of_rel (renders "startOffset")
  rw [Entries.has] at lost given
  rw [lost, given] at same
  exact Bool.false_ne_true same

end AnnotationState
end Labeling
