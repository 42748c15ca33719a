import Labeling.Proofs.Binding

/-!
# Controls of objects

The controls of an object are looked up by name in an index that is built beside the elements. Where
no two elements have one name, the index says no more than the elements do: the controls of an
object are the elements that are bound to it, in document order (`controlsFor_ofConfig`), and the
one that is found for a type is the first of them that makes results of the type
(`findControl?_ofConfig`). Only controls are bound, and only to names of elements. `Consistent` sums
this up.
-/
namespace Labeling.ElementTree

variable {config : ConfigTree} {catalogue : Catalogue} {task : Option Json} {object : String}
  {element : Element}

/-! ## Controls in document order -/

/-- The elements of a tree, of which only those that make results have been bound. -/
theorem elements_eq (config : ConfigTree) (catalogue : Catalogue) (task : Option Json) :
    (ofConfig config catalogue task).elements =
      ((elementsFrom config catalogue 0 config.nodes).map (bound config
        (elementsFrom config catalogue 0 config.nodes)
        (nameIndex (elementsFrom config catalogue 0 config.nodes))
        (singleObject (elementsFrom config catalogue 0 config.nodes)))).map (resolved task) :=
  rfl

/-- The controls of an object are the elements that are bound to it, in document order, each as
often as it names the object. -/
theorem controlsFor_ofConfig
    (nodup : ((ofConfig config catalogue task).elements.map Element.name).Nodup)
    (object : String) :
    (ofConfig config catalogue task).controlsFor object =
      (ofConfig config catalogue task).elements.flatMap fun element =>
        List.replicate (element.toNames.count object) element := by
  -- The index is built before values are resolved, which changes neither names nor targets.
  have index : (ofConfig config catalogue task).toNames =
      controlIndex (ofConfig config catalogue task).elements := by
    rw [elements_eq, controlIndex, List.flatMap_map]
    rfl
  rw [controlsFor, index, getD_controlIndex, List.filterMap_flatMap]
  refine List.flatMap_congr fun element member => ?_
  rw [List.filterMap_replicate_of_some (get?_of_mem nodup member)]

/-- The first element, in document order, that is bound to an object and makes results of a type. -/
def firstControl? (tree : ElementTree) (object resultType : String) : Option Element :=
  tree.elements.find? fun element =>
    element.targets object && element.resultType == some resultType

/-- A first control is an element that is bound to the object and makes results of the type. -/
theorem of_firstControl? {tree : ElementTree} {resultType : String} {control : Element}
    (first : tree.firstControl? object resultType = some control) :
    control ∈ tree.elements ∧ control.targets object = true ∧
      control.resultType = some resultType := by
  have holds := List.find?_some first
  rw [Bool.and_eq_true, beq_iff_eq] at holds
  exact ⟨List.mem_of_find?_eq_some first, holds⟩

/-- The control that is found for an object and a type is the first one. -/
theorem findControl?_ofConfig
    (nodup : ((ofConfig config catalogue task).elements.map Element.name).Nodup)
    (object resultType : String) :
    (ofConfig config catalogue task).findControl? object resultType =
      (ofConfig config catalogue task).firstControl? object resultType := by
  rw [findControl?, controlsFor_ofConfig nodup, firstControl?]
  induction (ofConfig config catalogue task).elements with
  | nil => rfl
  | cons element rest hypothesis =>
    rw [List.flatMap_cons, List.find?_append, hypothesis, List.find?_replicate, List.find?_cons]
    cases bound : element.targets object with
    | false =>
      have absent : object ∉ element.toNames := by simpa [Element.targets] using bound
      simp [List.count_eq_zero.mpr absent]
    | true =>
      have listed : object ∈ element.toNames := by simpa [Element.targets] using bound
      have several : element.toNames.count object ≠ 0 := by
        simpa [List.count_eq_zero] using listed
      cases element.resultType == some resultType <;> simp [several]

/-! ## What controls are bound to -/

/-- What is bound to an object makes results, and the object is one of its targets. -/
theorem exists_of_targets (member : element ∈ (ofConfig config catalogue task).elements)
    (targets : element.targets object = true) : ∃ plain : Element,
      element.isControl = plain.isControl ∧ plain.makesResults = true ∧
      object ∈ targetsOf config (elementsFrom config catalogue 0 config.nodes)
        (nameIndex (elementsFrom config catalogue 0 config.nodes))
        (singleObject (elementsFrom config catalogue 0 config.nodes)) plain := by
  rw [elements_eq] at member
  obtain ⟨_, linked, rfl⟩ := List.mem_map.mp member
  obtain ⟨plain, inside, rfl⟩ := List.mem_map.mp linked
  rw [Element.targets, List.contains_iff_mem, resolved, bound] at targets
  rw [bound]
  split at targets
  · rename_i makes
    rw [if_pos makes]
    exact ⟨plain, rfl, makes, targets⟩
  · obtain ⟨node, -, spec, id, -, rfl⟩ := exists_node_of_mem_elementsFrom inside
    exact absurd targets List.not_mem_nil

/-- What is bound to an object is a control. -/
theorem isControl_of_targets (member : element ∈ (ofConfig config catalogue task).elements)
    (targets : element.targets object = true) : element.isControl = true := by
  obtain ⟨plain, same, makes, -⟩ := exists_of_targets member targets
  rw [same]
  exact (Bool.and_eq_true_iff.mp makes).1

/-- The object of a control is the name of an element. -/
theorem contains_of_targets (member : element ∈ (ofConfig config catalogue task).elements)
    (targets : element.targets object = true) :
    (ofConfig config catalogue task).contains object = true := by
  obtain ⟨plain, -, -, target⟩ := exists_of_targets member targets
  have names : (ofConfig config catalogue task).names =
      nameIndex (elementsFrom config catalogue 0 config.nodes) := rfl
  rw [contains, names, Entries.has]
  dsimp only [targetsOf] at target
  split at target
  · -- The only object is an element of its name.
    unfold singleObject at target
    split at target
    · rename_i only single
      rw [Option.toList_some, List.mem_singleton] at target
      have listed : only ∈ (elementsFrom config catalogue 0 config.nodes).filter (·.isObject) := by
        rw [single]
        exact List.mem_singleton.mpr rfl
      rw [target, get?_nameIndex, Option.isSome_map, List.find?_isSome]
      exact ⟨only, (List.mem_filter.mp listed).1, beq_self_eq_true _⟩
    · exact absurd target List.not_mem_nil
  · -- A declared target is looked up by its name.
    have found := (List.mem_filter.mp target).2
    rw [lookup] at found
    cases there : (nameIndex (elementsFrom config catalogue 0 config.nodes)).get? object with
    | none => simp [there] at found
    | some place => rfl

/-- A tree in which names and elements stand for each other, and bindings are those of controls. -/
structure Consistent (tree : ElementTree) : Prop where
  /-- A name stands for an element of that name. -/
  named : ∀ {name element}, tree.get? name = some element →
    element ∈ tree.elements ∧ element.name = name
  /-- The name of an element stands for it. -/
  stands : ∀ {element}, element ∈ tree.elements → tree.get? element.name = some element
  /-- A name is known if it stands for an element. -/
  contains : ∀ name, tree.contains name = (tree.get? name).isSome
  /-- The control that is found for an object and a type is the first one. -/
  first : ∀ object resultType,
    tree.findControl? object resultType = tree.firstControl? object resultType
  /-- What is bound to an object is a control, and the object is known. -/
  bound : ∀ {element object}, element ∈ tree.elements → element.targets object = true →
    element.isControl = true ∧ tree.contains object = true

/-- A tree of distinct names is consistent. -/
theorem consistent_ofConfig
    (nodup : ((ofConfig config catalogue task).elements.map Element.name).Nodup) :
    (ofConfig config catalogue task).Consistent where
  named found := ⟨mem_of_get? found, name_of_get? found⟩
  stands := get?_of_mem nodup
  contains := contains_ofConfig config catalogue task
  first := findControl?_ofConfig nodup
  bound member targets :=
    ⟨isControl_of_targets member targets, contains_of_targets member targets⟩

end Labeling.ElementTree
