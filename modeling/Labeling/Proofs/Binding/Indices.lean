import Labeling.Proofs.Binding.Controls
import Labeling.Proofs.Config.Targets

/-!
# The indices of a bound tree

A bound tree is looked up by the names of its elements and by the objects of its controls, through
two indices that are built from names. In a tree that was checked without an issue of repeated names
both say what the elements themselves say (`Indexed`): a name stands for the one element that has
it, the controls of an object are those that target it, each as often as it lists the object, and
what they target are names of objects.
-/
namespace Labeling.ElementTree

variable {config : ConfigTree} {catalogue : Catalogue} {task : Option Json}

/-- The objects that the control of a node is to be bound to: those among the names that it lists,
and if it lists none the only object. -/
def objectsListed (tree : ElementTree) (node : ConfigNode) : List String :=
  if node.toNames.isEmpty then
    match tree.objects with
    | [only] => [only.name]
    | _ => []
  else node.toNames.filter fun name => (tree.get? name).any (·.isObject)

/-- An element that targets an object and makes results of a type. -/
def Serves (control : Element) (object resultType : String) : Prop :=
  control.isControl = true ∧ control.targets object = true ∧ control.resultType = some resultType

/-- A tree whose indices say what its elements say. -/
structure Indexed (tree : ElementTree) : Prop where
  /-- The elements stand in the order of their nodes in the document. -/
  ordered : tree.elements.Pairwise fun first second => first.node < second.node
  /-- A name stands for the element that has it. -/
  named : ∀ name element,
    tree.get? name = some element ↔ element ∈ tree.elements ∧ element.name = name
  /-- What has a target is a control that makes results. -/
  makesResults : ∀ element ∈ tree.elements, element.toNames ≠ [] → element.makesResults = true
  /-- A control that makes results has the targets that its node lists. -/
  listed : ∀ control ∈ tree.elements, control.makesResults = true →
    ∃ node, tree.config.get? control.node = some node ∧
      control.toNames = tree.objectsListed node
  /-- Every target is the name of an object. -/
  objects : ∀ control ∈ tree.elements, ∀ target ∈ control.toNames,
    ∃ object ∈ tree.objects, object.name = target
  /-- The controls of an object are the controls that make results and target it, in the order of
  the elements, each as often as it has the object as a target. -/
  controls : ∀ object, tree.controlsFor object =
    (tree.elements.filter (·.makesResults)).flatMap fun control =>
      List.replicate (control.toNames.count object) control
  /-- The control that is found for an object and a type is the first one that serves them. -/
  found : ∀ object resultType control, tree.findControl? object resultType = some control ↔
    Serves control object resultType ∧ ∃ before after, tree.elements = before ++ control :: after ∧
      ∀ other ∈ before, ¬ Serves other object resultType
  /-- None is found just if none serves them. -/
  missing : ∀ object resultType, tree.findControl? object resultType = none ↔
    ∀ element ∈ tree.elements, ¬ Serves element object resultType

/-- The elements of nodes in document order are in the order of their nodes. -/
theorem pairwise_node_elementsFrom {nodes : List ConfigNode}
    (order : nodes.Pairwise fun first second => first.id < second.id) (start : Nat) :
    (elementsFrom config catalogue start nodes).Pairwise fun first second =>
      first.node < second.node := by
  induction nodes generalizing start with
  | nil => exact List.Pairwise.nil
  | cons node rest hypothesis =>
    obtain ⟨below, restOrder⟩ := List.pairwise_cons.mp order
    rw [elementsFrom]
    split
    · exact hypothesis restOrder start
    · refine List.pairwise_cons.mpr ⟨fun element member => ?_, hypothesis restOrder (start + 1)⟩
      obtain ⟨other, inside, spec, id, -, rfl⟩ := exists_node_of_mem_elementsFrom member
      exact below other inside

/-- The elements of a tree are in the order of their nodes. -/
theorem pairwise_node_elements (numbered : ∀ id node, config.get? id = some node → node.id = id) :
    (ofConfig config catalogue task).elements.Pairwise fun first second =>
      first.node < second.node := by
  have order : config.nodes.Pairwise fun first second => first.id < second.id := by
    rw [List.pairwise_iff_getElem]
    intro first second firstInside secondInside less
    rw [numbered first _ (List.getElem?_eq_getElem firstInside),
      numbered second _ (List.getElem?_eq_getElem secondInside)]
    exact less
  obtain ⟨change, elements, unchanged⟩ := elements_ofConfig config catalogue task
  have sameNode (element : Element) : (change element).node = element.node := by
    obtain ⟨_, _, changed⟩ := unchanged element
    rw [changed]
  rw [elements, List.pairwise_map]
  simp only [sameNode]
  exact pairwise_node_elementsFrom order 0

/-- A name is that of an object in a tree just if it is among the elements of its nodes. -/
theorem any_isObject_get? (config : ConfigTree) (catalogue : Catalogue) (task : Option Json)
    (name : String) :
    ((ofConfig config catalogue task).get? name).any (·.isObject) =
      (((elementsFrom config catalogue 0 config.nodes).find? (·.name == name)).map
        (·.isObject)).getD false := by
  obtain ⟨change, elements, unchanged⟩ := elements_ofConfig config catalogue task
  have names : (ofConfig config catalogue task).names =
      nameIndex (elementsFrom config catalogue 0 config.nodes) := rfl
  rw [get?, names, elements, lookup_map_nameIndex]
  cases (elementsFrom config catalogue 0 config.nodes).find? (·.name == name) with
  | none => rfl
  | some element =>
    obtain ⟨_, _, changed⟩ := unchanged element
    rw [Option.map_some, Option.any_some, changed]
    rfl

/-- The name of the only object of a tree is that of the only object among its unbound elements. -/
theorem toList_singleObject (config : ConfigTree) (catalogue : Catalogue) (task : Option Json) :
    (singleObject (elementsFrom config catalogue 0 config.nodes)).toList =
      match (ofConfig config catalogue task).objects with
      | [only] => [only.name]
      | _ => [] := by
  obtain ⟨change, objects, sameName⟩ := objects_ofConfig config catalogue task
  rw [objects, singleObject]
  cases (elementsFrom config catalogue 0 config.nodes).filter (·.isObject) with
  | nil => rfl
  | cons only others =>
    cases others with
    | nil => simp [sameName]
    | cons other others => rfl

/-- A control that makes results is bound to the objects that its node lists. -/
theorem toNames_eq_objectsListed
    (numbered : ∀ id node, config.get? id = some node → node.id = id) {control : Element}
    (member : control ∈ (ofConfig config catalogue task).elements)
    (makes : control.makesResults = true) :
    ∃ node, config.get? control.node = some node ∧
      control.toNames = (ofConfig config catalogue task).objectsListed node := by
  obtain ⟨node, spec, found, -, -, -, toNames⟩ := exists_node_of_makesResults numbered member makes
  refine ⟨node, found, ?_⟩
  rw [toNames, objectsListed, toList_singleObject config catalogue task]
  simp only [any_isObject_get?]

/-- What has a target makes results. -/
theorem makesResults_of_mem_toNames {control : Element} {target : String}
    (member : control ∈ (ofConfig config catalogue task).elements)
    (listed : target ∈ control.toNames) : control.makesResults = true := by
  rw [elements_eq] at member
  obtain ⟨_, linked, rfl⟩ := List.mem_map.mp member
  obtain ⟨plain, inside, rfl⟩ := List.mem_map.mp linked
  unfold bound at listed ⊢
  split at listed
  · rename_i makes
    rw [if_pos makes]
    exact makes
  · obtain ⟨node, -, spec, id, -, rfl⟩ := exists_node_of_mem_elementsFrom inside
    exact absurd listed List.not_mem_nil

/-- Every object that a node can be bound to is the name of one. -/
theorem exists_of_mem_objectsListed {node : ConfigNode} {target : String}
    (listed : target ∈ (ofConfig config catalogue task).objectsListed node) :
    ∃ object ∈ (ofConfig config catalogue task).objects, object.name = target := by
  unfold objectsListed at listed
  split at listed
  · split at listed
    · rename_i only single
      rw [List.mem_singleton] at listed
      exact ⟨only, by rw [single]; exact List.mem_singleton.mpr rfl, listed.symm⟩
    · contradiction
  · obtain ⟨-, isObject⟩ := List.mem_filter.mp listed
    cases found : (ofConfig config catalogue task).get? target with
    | none => simp [found] at isObject
    | some object =>
      rw [found, Option.any_some] at isObject
      exact ⟨object, List.mem_filter.mpr ⟨mem_of_get? found, isObject⟩, name_of_get? found⟩

/-- An element of a tree passes the test for an object and a type of results just if it serves
them. -/
theorem serves_iff {element : Element} {object resultType : String}
    (member : element ∈ (ofConfig config catalogue task).elements) :
    (element.targets object && element.resultType == some resultType) = true ↔
      Serves element object resultType := by
  rw [Bool.and_eq_true, beq_iff_eq, Serves]
  constructor
  · rintro ⟨targets, makes⟩
    exact ⟨isControl_of_targets member targets, targets, makes⟩
  · rintro ⟨-, targets, makes⟩
    exact ⟨targets, makes⟩

/-- What has nothing to add can be left out. -/
theorem flatMap_filter {α β : Type} {items : List α} {test : α → Bool} {parts : α → List β}
    (none : ∀ item ∈ items, test item = false → parts item = []) :
    items.flatMap parts = (items.filter test).flatMap parts := by
  induction items with
  | nil => rfl
  | cons item rest hypothesis =>
    have behind := hypothesis fun other member => none other (List.mem_cons_of_mem _ member)
    rw [List.flatMap_cons, List.filter_cons, behind]
    split
    · rw [List.flatMap_cons]
    · rename_i left
      rw [none item List.mem_cons_self (by simpa using left), List.nil_append]

/-- What is found by a test is the first item that has the property tested. -/
theorem find?_eq_some_iff_first {α : Type} {items : List α} {test : α → Bool} {holds : α → Prop}
    (tests : ∀ item ∈ items, test item = true ↔ holds item) {found : α} :
    items.find? test = some found ↔ holds found ∧ ∃ before after,
      items = before ++ found :: after ∧ ∀ other ∈ before, ¬ holds other := by
  have front {before after : List α} (split : items = before ++ found :: after) :
      (∀ other ∈ before, (!test other) = true) ↔ ∀ other ∈ before, ¬ holds other := by
    refine forall₂_congr fun other inside => ?_
    rw [Bool.not_eq_true', ← Bool.not_eq_true, tests other (by simp [split, inside])]
  rw [List.find?_eq_some_iff_append]
  constructor
  · rintro ⟨passes, before, after, split, none⟩
    exact ⟨(tests found (by simp [split])).mp passes, before, after, split, (front split).mp none⟩
  · rintro ⟨its, before, after, split, none⟩
    exact ⟨(tests found (by simp [split])).mpr its, before, after, split, (front split).mpr none⟩

/-- The indices of a tree of distinct names say what its elements say. -/
theorem indexed_ofConfig (numbered : ∀ id node, config.get? id = some node → node.id = id)
    (nodup : ((ofConfig config catalogue task).elements.map Element.name).Nodup) :
    (ofConfig config catalogue task).Indexed where
  ordered := pairwise_node_elements numbered
  named name element := by
    constructor
    · intro found
      exact ⟨mem_of_get? found, name_of_get? found⟩
    · rintro ⟨member, rfl⟩
      exact get?_of_mem nodup member
  makesResults element member some := by
    obtain ⟨target, listed⟩ := List.exists_mem_of_ne_nil _ some
    exact makesResults_of_mem_toNames member listed
  listed control member makes := toNames_eq_objectsListed numbered member makes
  objects control member target listed := by
    obtain ⟨node, -, toNames⟩ :=
      toNames_eq_objectsListed numbered member (makesResults_of_mem_toNames member listed)
    exact exists_of_mem_objectsListed (toNames ▸ listed)
  controls object := by
    rw [controlsFor_ofConfig nodup, flatMap_filter]
    intro element member makesNone
    have absent : object ∉ element.toNames := by
      intro listed
      rw [makesResults_of_mem_toNames member listed] at makesNone
      contradiction
    rw [List.count_eq_zero.mpr absent, List.replicate_zero]
  found object resultType control := by
    rw [findControl?_ofConfig nodup, firstControl?]
    exact find?_eq_some_iff_first fun element => serves_iff
  missing object resultType := by
    rw [findControl?_ofConfig nodup, firstControl?, List.find?_eq_none]
    exact forall₂_congr fun element member => not_congr (serves_iff member)

/-- Every document whose tree has no issue of repeated names has a tree whose indices say what its
elements say. -/
theorem indexed_ofDocument {context : ExpansionContext} {document : Markup.Element}
    (distinct : (ofDocument context document).report.has .duplicateName = false) :
    (ofDocument context document).Indexed := by
  have order : (ConfigTree.ofDocument context document).PreOrder :=
    ConfigTree.ofBlock_preOrder _ _
  exact indexed_ofConfig order.numbered
    (nodup_names_elements (nodup_names_of_report distinct) context.task)

/-- Two texts with an unknown tag between them, and a choice that lists the first text twice. -/
def repeatedTarget : String :=
  "<View><Text name=\"first\" value=\"$first\"/><Fancy/>" ++
  "<Text name=\"second\" value=\"$second\"/>" ++
  "<Choices name=\"mood\" toName=\"first, second,first, none\"/></View>"

/-- A control that lists an object twice is twice among the controls of it. -/
theorem repeatedTarget_indexed :
    ∃ tree, compile? ⟨.standard, none, defaultIndexFlag⟩ repeatedTarget = some tree ∧
      tree.report.has .duplicateName = false ∧
      (tree.controlsFor "first").map Element.name = ["mood", "mood"] ∧ tree.Indexed := by
  have evaluated :
      (compile? ⟨.standard, none, defaultIndexFlag⟩ repeatedTarget).map (fun tree =>
        (tree.report.has .duplicateName, (tree.controlsFor "first").map Element.name)) =
        some (false, ["mood", "mood"]) := by
    decide +kernel
  obtain ⟨tree, compiled, same⟩ := Option.map_eq_some_iff.mp evaluated
  obtain ⟨distinct, controls⟩ := Prod.mk.inj same
  obtain ⟨document, -, rfl⟩ := exists_document_of_compile? compiled
  exact ⟨_, compiled, distinct, controls, indexed_ofDocument distinct⟩

end Labeling.ElementTree
