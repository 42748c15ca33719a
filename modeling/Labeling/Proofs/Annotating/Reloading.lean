import Labeling.Proofs.Annotating.Rebuilding

/-!
# Reading written items again

The items of areas, read into an annotation that has none of these areas, make their copies in the
order of the areas (`exists_reads_areas`): the first item of an area begins a copy at the end, and
every further one finds it there.
-/
namespace Labeling.AnnotationState

variable {tree : ElementTree} {owner : String} {state next last : AnnotationState}
variable {areas : List Area} {item : WireResult} {control object : Element}

/-! ## Steps of reading -/

/-- An annotation of a configuration that shows some areas in the order of creation. -/
structure Shows (tree : ElementTree) (owner : String) (areas : List Area)
    (state : AnnotationState) : Prop where
  /-- The annotation is one of the configuration. -/
  tree : state.tree = tree
  /-- The annotation has the id. -/
  id : state.id = owner
  /-- The annotation is sound. -/
  sound : state.Sound
  /-- The areas are these. -/
  areas : state.areas.bySeq = areas

/-- An annotation reads some result items, all of them. -/
structure Reads (state : AnnotationState) (items : List WireResult)
    (next : AnnotationState) : Prop where
  /-- Every item can be added. -/
  applied : applyResults {} state items = (next, none)
  /-- The settings stay. -/
  settings : next.settings = state.settings
  /-- The relations stay. -/
  relations : next.relations = state.relations

/-- Reading no items changes nothing. -/
theorem Reads.nil (state : AnnotationState) : state.Reads [] state := ⟨rfl, rfl, rfl⟩

/-- Items are added one after the other. -/
theorem applyResults_append {options : LoadOptions} {first : List WireResult}
    (applied : applyResults options state first = (next, none)) (second : List WireResult) :
    applyResults options state (first ++ second) = applyResults options next second := by
  induction first generalizing state with
  | nil =>
    cases applied
    rfl
  | cons item rest hypothesis =>
    rw [applyResults] at applied
    rw [List.cons_append, applyResults]
    split at applied
    · exact hypothesis applied
    · cases applied

/-- Items that are read one after the other are read together. -/
theorem Reads.append {first second : List WireResult} (begun : state.Reads first next)
    (ended : next.Reads second last) : state.Reads (first ++ second) last where
  applied := (applyResults_append begun.applied second).trans ended.applied
  settings := ended.settings.trans begun.settings
  relations := ended.relations.trans begun.relations

/-- An item at known elements and with an id is added under that id. -/
theorem applyResult_given {options : LoadOptions} {raw : String}
    (objectFound : state.tree.get? item.toName = some object ∧ object.isObject = true)
    (controlFound : state.tree.get? item.fromName = some control ∧ control.isControl = true)
    (given : item.id = some raw) (nonempty : raw ≠ "") (live : options.suggestions = false) :
    applyResult options state item = .ok { state with
      nextSeq := state.nextSeq + 1
      areas := addItem state.areas control object item options ⟨raw, state.id⟩ state.nextSeq } := by
  have named : state.itemId item = (state, ⟨raw, state.id⟩) := by
    rw [itemId, given, Option.filter_some, if_pos (bne_iff_ne.mpr nonempty)]
    rfl
  rw [applyResult, objectElement_eq_ok.mpr objectFound, itemControl_eq_ok.mpr controlFound, named]
  show (if options.suggestions then _ else _) = _
  rw [live]
  rfl

/-- An item at known elements and with an id is read, into an annotation as sound as before. -/
theorem Shows.exists_reads {raw : String} (shows : state.Shows tree owner areas)
    (objectFound : tree.get? item.toName = some object ∧ object.isObject = true)
    (controlFound : tree.get? item.fromName = some control ∧ control.isControl = true)
    (given : item.id = some raw) (nonempty : raw ≠ "") : ∃ next, state.Reads [item] next ∧
      next.Shows tree owner
        (addItem state.areas control object item {} ⟨raw, owner⟩ state.nextSeq).bySeq := by
  obtain ⟨isTree, isOwner, sound, -⟩ := shows
  subst isTree
  subst isOwner
  have live : ({} : LoadOptions).suggestions = false := rfl
  have applied := applyResult_given objectFound controlFound given nonempty live
  have advanced := (advances_applyResult applied sound).1
  have one : applyResults {} state [item] = ({ state with
      nextSeq := state.nextSeq + 1
      areas := addItem state.areas control object item {} ⟨raw, state.id⟩ state.nextSeq },
        none) := by
    rw [applyResults, applied]
    rfl
  exact ⟨_, ⟨one, rfl, rfl⟩, ⟨rfl, rfl, advanced, rfl⟩⟩

/-- An item of a new id begins an area at the end. -/
theorem Shows.exists_reads_new {raw : String} (shows : state.Shows tree owner areas)
    (objectFound : tree.get? item.toName = some object ∧ object.isObject = true)
    (controlFound : tree.get? item.fromName = some control ∧ control.isControl = true)
    (given : item.id = some raw) (nonempty : raw ≠ "")
    (absent : ∀ area ∈ areas, area.id ≠ ⟨raw, owner⟩) : ∃ next seq, state.Reads [item] next ∧
      next.Shows tree owner (areas ++ [begunArea control object item {} ⟨raw, owner⟩ seq]) := by
  obtain ⟨next, reads, showsNext⟩ := shows.exists_reads objectFound controlFound given nonempty
  obtain ⟨isTree, isOwner, sound, order⟩ := shows
  subst isTree
  subst isOwner
  subst order
  have isNew : state.areas.has ⟨raw, state.id⟩ = false := by
    rw [Bool.eq_false_iff, ne_eq, sound.areas.has_iff]
    rintro ⟨area, member, same⟩
    exact absent area member same
  have made : (begunArea control object item {} ⟨raw, state.id⟩ state.nextSeq).WellFormed
      state.tree state.id :=
    wellFormed_areaOfItem objectFound controlFound sound.named rfl
  have added : addItem state.areas control object item {} ⟨raw, state.id⟩ state.nextSeq =
      state.areas.put ⟨raw, state.id⟩
        (begunArea control object item {} ⟨raw, state.id⟩ state.nextSeq) := by
    rw [addItem, isNew]
    rfl
  have placed : Areas.bySeq (state.areas.put ⟨raw, state.id⟩
      (begunArea control object item {} ⟨raw, state.id⟩ state.nextSeq)) =
        state.areas.bySeq ++ [begunArea control object item {} ⟨raw, state.id⟩ state.nextSeq] :=
    sound.areas.bySeq_put made isNew rfl
  rw [added, placed] at showsNext
  exact ⟨next, state.nextSeq, reads, showsNext⟩

/-- An item of the id of the last area goes on with that area. -/
theorem Shows.exists_reads_last {raw : String} {copy : Area}
    (shows : state.Shows tree owner (areas ++ [copy]))
    (objectFound : tree.get? item.toName = some object ∧ object.isObject = true)
    (controlFound : tree.get? item.fromName = some control ∧ control.isControl = true)
    (given : item.id = some raw) (nonempty : raw ≠ "")
    (absent : ∀ area ∈ areas, area.id ≠ ⟨raw, owner⟩) (found : copy.id = ⟨raw, owner⟩) :
    ∃ next, state.Reads [item] next ∧
      next.Shows tree owner (areas ++ [continuedArea control object item copy]) := by
  obtain ⟨next, reads, showsNext⟩ := shows.exists_reads objectFound controlFound given nonempty
  obtain ⟨isTree, isOwner, sound, order⟩ := shows
  subst isTree
  subst isOwner
  have isOld : state.areas.has ⟨raw, state.id⟩ = true := by
    rw [sound.areas.has_iff, order]
    exact ⟨copy, by simp, found⟩
  have added : addItem state.areas control object item {} ⟨raw, state.id⟩ state.nextSeq =
      state.areas.update ⟨raw, state.id⟩ (continuedArea control object item) := by
    rw [addItem, isOld]
    rfl
  have placed : Areas.bySeq (state.areas.update ⟨raw, state.id⟩
      (continuedArea control object item)) =
        areas ++ [continuedArea control object item copy] := by
    have sameSeq (area : Area) : (continuedArea control object item area).seq = area.seq := rfl
    rw [sound.areas.bySeq_update ⟨raw, state.id⟩ sameSeq, order, List.map_append,
      List.map_singleton, if_pos found]
    refine congrArg (· ++ [continuedArea control object item copy]) ?_
    refine (List.map_congr_left fun area member => ?_).trans (List.map_id areas)
    exact if_neg (absent area member)
  rw [added, placed] at showsNext
  exact ⟨next, reads, showsNext⟩

/-- Items that repair leaves as they are, and whose results are read, are loaded with their
relations. -/
theorem applyItems_of_reads {items : List WireItem}
    (unchanged : Repair.items state.tree items = items)
    (reads : state.Reads (WireItem.results items) next) :
    applyItems {} state items = ({ next.synced with
      relations := addRelations next.id next.relations (WireItem.relations items) }, none) := by
  rw [applyItems]
  dsimp only
  rw [unchanged, reads.applied]
  rfl

/-! ## Areas -/

/-- An area of one object whose items can be read again. -/
structure Readable (tree : ElementTree) (object : Element) (area : Area) : Prop where
  /-- The area has an id. -/
  raw : area.id.raw ≠ ""
  /-- The object is the one of the area. -/
  isObject : tree.get? area.object = some object ∧ object.isObject = true
  /-- Every result names the object. -/
  toName : ∀ result ∈ area.results, result.toName = area.object
  /-- Every result comes from a control. -/
  fromName : ∀ result ∈ area.results, tree.IsControl result.fromName
  /-- Every result holds nothing but what its control records. -/
  own : ∀ result ∈ area.results, result.IsOwn tree
  /-- The geometry is settled. -/
  settled : Shape.Settled object.type area.shape

variable {area copy : Area}

/-- The items of the area are at its object. -/
theorem Readable.toWire (readable : Readable tree object area) {result : AreaResult}
    (member : result ∈ area.results) :
    tree.get? (area.toWire result).toName = some object ∧ object.isObject = true := by
  show tree.get? result.toName = some object ∧ object.isObject = true
  rw [readable.toName result member]
  exact readable.isObject

/-- Further items of the last area go on with it. -/
theorem Shows.exists_reads_rest (readable : Readable tree object area)
    {done rest : List AreaResult} (nonempty : done ≠ [])
    (inside : ∀ result ∈ rest, result ∈ area.results)
    (shows : state.Shows tree owner (areas ++ [copy]))
    (absent : ∀ other ∈ areas, other.id ≠ ⟨area.id.raw, owner⟩)
    (found : copy.id = ⟨area.id.raw, owner⟩)
    (rebuilt : Area.Rebuilt tree object.type area done copy) :
    ∃ next last, state.Reads (rest.map area.toWire) next ∧
      next.Shows tree owner (areas ++ [last]) ∧ last.id = ⟨area.id.raw, owner⟩ ∧
      Area.Rebuilt tree object.type area (done ++ rest) last := by
  induction rest generalizing state copy done with
  | nil =>
    rw [List.append_nil]
    exact ⟨state, copy, .nil state, shows, found, rebuilt⟩
  | cons result rest hypothesis =>
    have member := inside result List.mem_cons_self
    obtain ⟨control, controlFound, isControl⟩ := readable.fromName result member
    obtain ⟨middle, reads, showsMiddle⟩ := shows.exists_reads_last (readable.toWire member)
      ⟨controlFound, isControl⟩ rfl readable.raw absent found
    have goesOn := rebuilt.continuedArea nonempty controlFound (readable.own result member)
      readable.settled.sorted_toValue
    obtain ⟨next, last, readsRest, showsNext, lastFound, lastRebuilt⟩ :=
      hypothesis (List.append_ne_nil_of_right_ne_nil done (List.cons_ne_nil result []))
        (fun other later => inside other (List.mem_cons_of_mem _ later)) showsMiddle found goesOn
    rw [List.append_assoc] at lastRebuilt
    exact ⟨next, last, reads.append readsRest, showsNext, lastFound, lastRebuilt⟩

/-- The items of some results of an area make a copy of it at the end. -/
theorem Shows.exists_reads_area (readable : Readable tree object area)
    {written : List AreaResult} (nonempty : written ≠ [])
    (inside : ∀ result ∈ written, result ∈ area.results)
    (shows : state.Shows tree owner areas)
    (absent : ∀ other ∈ areas, other.id ≠ ⟨area.id.raw, owner⟩) :
    ∃ next copy, state.Reads (written.map area.toWire) next ∧
      next.Shows tree owner (areas ++ [copy]) ∧ copy.id = ⟨area.id.raw, owner⟩ ∧
      Area.Rebuilt tree object.type area written copy := by
  cases written with
  | nil => contradiction
  | cons result rest =>
    have member := inside result List.mem_cons_self
    obtain ⟨control, controlFound, isControl⟩ := readable.fromName result member
    obtain ⟨middle, seq, reads, showsMiddle⟩ := shows.exists_reads_new (readable.toWire member)
      ⟨controlFound, isControl⟩ rfl readable.raw absent
    have begun : Area.Rebuilt tree object.type area [result]
        (begunArea control object (area.toWire result) {} ⟨area.id.raw, owner⟩ seq) :=
      Area.rebuilt_begunArea controlFound (readable.own result member)
        readable.settled.sorted_toValue ⟨area.id.raw, owner⟩ rfl seq
    obtain ⟨next, last, readsRest, showsNext, lastFound, lastRebuilt⟩ :=
      Shows.exists_reads_rest readable (List.cons_ne_nil result [])
        (fun other later => inside other (List.mem_cons_of_mem _ later)) showsMiddle absent rfl
        begun
    exact ⟨next, last, reads.append readsRest, showsNext, lastFound, lastRebuilt⟩

/-- The items of some results of areas make the copies of those areas that have such results, in
order. -/
theorem Shows.exists_reads_areas {written : Area → List AreaResult} {originals : List Area}
    (readable : ∀ area ∈ originals, ∃ object, Readable tree object area)
    (inside : ∀ area ∈ originals, ∀ result ∈ written area, result ∈ area.results)
    (different : originals.Pairwise fun first second => first.id.raw ≠ second.id.raw)
    (shows : state.Shows tree owner areas)
    (absent : ∀ area ∈ originals, ∀ other ∈ areas, other.id ≠ ⟨area.id.raw, owner⟩) :
    ∃ next copies,
      state.Reads (originals.flatMap fun area => (written area).map area.toWire) next ∧
      next.Shows tree owner (areas ++ copies) ∧
      List.Forall₂ (fun area copy => copy.id = ⟨area.id.raw, owner⟩ ∧ ∃ object,
          Readable tree object area ∧ Area.Rebuilt tree object.type area (written area) copy)
        (originals.filter fun area => !(written area).isEmpty) copies := by
  induction originals generalizing state areas with
  | nil =>
    refine ⟨state, [], .nil state, ?_, .nil⟩
    rw [List.append_nil]
    exact shows
  | cons area rest hypothesis =>
    obtain ⟨apart, restDifferent⟩ := List.pairwise_cons.mp different
    have restReadable (other : Area) (member : other ∈ rest) :=
      readable other (List.mem_cons_of_mem _ member)
    have restInside (other : Area) (member : other ∈ rest) :=
      inside other (List.mem_cons_of_mem _ member)
    have restAbsent (other : Area) (member : other ∈ rest) :=
      absent other (List.mem_cons_of_mem _ member)
    rw [List.flatMap_cons, List.filter_cons]
    by_cases none : written area = []
    · rw [none]
      exact hypothesis restReadable restInside restDifferent shows restAbsent
    · obtain ⟨object, areaReadable⟩ := readable area List.mem_cons_self
      obtain ⟨middle, copy, reads, showsMiddle, copyFound, rebuilt⟩ :=
        Shows.exists_reads_area areaReadable none (inside area List.mem_cons_self) shows
          (absent area List.mem_cons_self)
      have middleAbsent : ∀ other ∈ rest, ∀ shown ∈ areas ++ [copy],
          shown.id ≠ ⟨other.id.raw, owner⟩ := by
        intro other member shown present
        rcases List.mem_append.mp present with before | last
        · exact restAbsent other member shown before
        · rw [List.mem_singleton.mp last, copyFound]
          intro same
          exact apart other member (AreaId.mk.inj same).1
      obtain ⟨next, copies, readsRest, showsNext, paired⟩ :=
        hypothesis restReadable restInside restDifferent showsMiddle middleAbsent
      have some : (!(written area).isEmpty) = true := by
        rw [Bool.not_eq_true', List.isEmpty_eq_false_iff]
        exact none
      rw [if_pos some]
      rw [List.append_assoc] at showsNext
      exact ⟨next, copy :: copies, reads.append readsRest, showsNext,
        .cons ⟨copyFound, object, areaReadable, rebuilt⟩ paired⟩

end Labeling.AnnotationState
