import Labeling.Proofs.Catalogue
import Labeling.Proofs.Config.PreOrder

/-!
# Checked controls are bound

A configuration is checked by its nodes and bound by its elements, each time with its own idea of
what a control is bound to: checking asks of every declared name whether it is that of an element
the control works with, and counts the objects where no name is declared; binding looks every name
up among the elements and takes the only object where none is left. In a configuration of standard
tags that was checked without an error the two agree (`isBound_iff`), except where a control
declares its objects and lists none: such a declaration is neither missing nor wrong, and yet binds
nothing unless there is exactly one object (`blankTarget_unbound`).
-/
namespace Labeling

/-! ## What a check without errors says -/

/-- A report is fine if none of its issues is an error. -/
theorem Report.severity_ne_error {report : Report} (ok : report.isOk = true) :
    ∀ issue ∈ report, issue.severity ≠ .error := by
  intro issue member
  rw [isOk, beq_iff_eq, errorCount, List.countP_eq_zero] at ok
  simpa using ok issue member

namespace Validation

/-- A node that was checked without an error. -/
structure Accepted (tree : ConfigTree) (catalogue : Catalogue) (node : ConfigNode)
    (spec : TagSpec) : Prop where
  /-- Its tag is known. -/
  known : catalogue.get? node.type = some spec
  /-- No attribute is missing that it needs. -/
  complete : ∀ name ∈ spec.required, isMissing (objectCount tree catalogue) node name = false
  /-- Each object it declares is the name of an element that it works with. -/
  targets : spec.binds = true → ∀ target ∈ node.toNames, ∃ found,
    tree.findByName? target = some found ∧ found.type ∈ spec.accepts

/-- No needed attribute is missing if none is reported. -/
theorem isMissing_eq_false {objects : Nat} {node : ConfigNode} {spec : TagSpec}
    (harmless : ∀ issue ∈ missingAttributes objects node spec, issue.severity ≠ .error)
    (name : String) (needed : name ∈ spec.required) : isMissing objects node name = false := by
  by_contra missing
  rw [Bool.not_eq_false] at missing
  have reported := List.mem_map_of_mem
    (f := fun name => Issue.error .required
      ("Attribute '" ++ name ++ "' is required for <" ++ node.tagName ++ ">")
      (fieldContext node name))
    (List.mem_filter.mpr ⟨needed, missing⟩)
  exact harmless _ reported rfl

/-- What is reported of a declared object is an error. -/
theorem severity_of_targetIssue {tree : ConfigTree} {node : ConfigNode} {spec : TagSpec}
    {target : String} {issue : Issue} (raised : targetIssue tree node spec target = some issue) :
    issue.severity = .error := by
  unfold targetIssue at raised
  split at raised
  · rw [← Option.some.inj raised, Issue.error]
  · split at raised
    · contradiction
    · rw [← Option.some.inj raised, Issue.error]

/-- A declared object is the name of an element that the control works with if none is reported. -/
theorem exists_of_targetIssues {tree : ConfigTree} {node : ConfigNode} {spec : TagSpec}
    (harmless : ∀ issue ∈ targetIssues tree node spec, issue.severity ≠ .error)
    (binds : spec.binds = true) (target : String) (listed : target ∈ node.toNames) :
    ∃ found, tree.findByName? target = some found ∧ found.type ∈ spec.accepts := by
  have fine : targetIssue tree node spec target = none := by
    by_contra wrong
    obtain ⟨issue, raised⟩ := Option.ne_none_iff_exists'.mp wrong
    rw [targetIssues, if_pos binds] at harmless
    exact harmless issue (List.mem_filterMap.mpr ⟨target, listed, raised⟩)
      (severity_of_targetIssue raised)
  unfold targetIssue at fine
  split at fine
  · contradiction
  · rename_i found named
    by_cases accepted : spec.accepts.contains found.type = true
    · exact ⟨found, named, List.contains_iff_mem.mp accepted⟩
    · rw [if_neg accepted] at fine
      contradiction

/-- Every node was checked without an error if the report has none. -/
theorem accepted_of_isOk {tree : ConfigTree} {catalogue : Catalogue}
    (ok : (check tree catalogue).isOk = true) {node : ConfigNode} (member : node ∈ tree.nodes) :
    ∃ spec, Accepted tree catalogue node spec := by
  have harmless : ∀ issue ∈ nodeIssues tree catalogue (objectCount tree catalogue) node,
      issue.severity ≠ .error := fun issue inside =>
    Report.severity_ne_error ok issue
      (List.mem_append_right _ (List.mem_flatMap.mpr ⟨node, member, inside⟩))
  unfold nodeIssues at harmless
  split at harmless
  · have unknown := harmless _ List.mem_cons_self
    exact absurd rfl unknown
  · rename_i spec known
    simp only [List.mem_append] at harmless
    have complete := isMissing_eq_false fun issue inside =>
      harmless issue (Or.inl (Or.inl (Or.inl (Or.inl inside))))
    have targets := exists_of_targetIssues fun issue inside =>
      harmless issue (Or.inl (Or.inl (Or.inl (Or.inr inside))))
    exact ⟨spec, known, complete, targets⟩

end Validation

/-! ## Standard controls -/

/-- What the rules of a standard control that makes results say about its objects. -/
structure TagSpec.NeedsObject (spec : TagSpec) : Prop where
  /-- It is bound to objects. -/
  binds : spec.binds = true
  /-- It needs the name of an object. -/
  required : "toname" ∈ spec.required
  /-- What it works with are the standard objects. -/
  accepts : ∀ type ∈ spec.accepts, type ∈ Catalogue.allObjects

instance (spec : TagSpec) : Decidable spec.NeedsObject :=
  decidable_of_iff
    (spec.binds = true ∧ "toname" ∈ spec.required ∧
      ∀ type ∈ spec.accepts, type ∈ Catalogue.allObjects)
    ⟨fun ⟨binds, required, accepts⟩ => ⟨binds, required, accepts⟩,
    fun ⟨binds, required, accepts⟩ => ⟨binds, required, accepts⟩⟩

namespace Catalogue

/-- The standard controls that make results need an object. -/
theorem needsObject_of_get?_standard {tag : String} {spec : TagSpec}
    (found : standard.get? tag = some spec) (makes : spec.resultType.isSome = true) :
    spec.NeedsObject := by
  have every : ∀ spec ∈ objectTags ++ regionTags ++ classificationTags ++ relationTags
      ++ optionTags ++ layoutTags, spec.resultType.isSome = true → spec.NeedsObject := by
    decide
  exact every spec (mem_of_get?_ofList found) makes

/-- The standard objects have tags of objects. -/
theorem object_of_mem_allObjects {type : String} (member : type ∈ allObjects) :
    ∃ spec ∈ standard.get? type, spec.kind = .object := by
  have every : ∀ type ∈ allObjects, ∃ spec ∈ standard.get? type, spec.kind = .object := by
    decide +kernel
  exact every type member

end Catalogue

/-- A control that declares its objects and lists none: its declaration is only blanks and
commas. -/
def ConfigNode.ListsNone (node : ConfigNode) : Prop :=
  node.toNameSynthesized = false ∧ ∃ text, node.attr? "toname" = some text ∧ listedNames text = []

/-- A node with a declaration lists no object just if the declaration lists none. -/
theorem ConfigNode.listsNone_iff {node : ConfigNode}
    (target : (node.attr? "toname").isSome = true) :
    node.ListsNone ↔ node.toNameSynthesized = false ∧ node.toNames = [] := by
  obtain ⟨text, found⟩ := Option.isSome_iff_exists.mp target
  refine and_congr_right fun declared => ?_
  rw [toNames, declared, if_neg (by decide), found, Option.map_some, Option.getD_some]
  simp

/-- A completed node of a tag that binds has a target. -/
theorem Naming.isSome_toname_completed {catalogue : Catalogue} {nodes : List ConfigNode}
    {node : ConfigNode} (member : node ∈ completed catalogue nodes) {spec : TagSpec}
    (known : catalogue.get? node.type = some spec) (binds : spec.binds = true) :
    (node.attr? "toname").isSome = true := by
  obtain ⟨place, found⟩ := List.getElem?_of_mem member
  obtain ⟨taken, same⟩ := getElem?_complete catalogue (declared nodes) nodes place
  rw [completed, same, Option.map_eq_some_iff] at found
  obtain ⟨raw, -, rfl⟩ := found
  have type : (withTarget catalogue (withName taken raw)).type = (withName taken raw).type :=
    (completes_withTarget (completes_withName taken raw)).type.trans
      (completes_withName taken raw).type.symm
  exact isSome_toname_withTarget (type ▸ known) binds

namespace ElementTree

variable {config : ConfigTree} {catalogue : Catalogue} {task : Option Json}

/-! ## Objects of a bound tree -/

/-- As many elements are objects as nodes have the tag of one. -/
theorem countP_elementsFrom (config : ConfigTree) (catalogue : Catalogue) (start : Nat)
    (nodes : List ConfigNode) :
    (elementsFrom config catalogue start nodes).countP (·.isObject) =
      nodes.countP fun node => ((catalogue.get? node.type).map (·.kind)) = some .object := by
  induction nodes generalizing start with
  | nil => rfl
  | cons node rest hypothesis =>
    rw [elementsFrom, List.countP_cons]
    cases known : catalogue.get? node.type with
    | none => simp [hypothesis]
    | some spec =>
      rw [List.countP_cons, hypothesis (start + 1), Option.map_some]
      by_cases object : spec.kind = .object
      · simp [elementOf, Element.isObject, object]
      · simp [elementOf, Element.isObject, object]

/-- The first element of a name is that of the first node of that name, if all tags are known. -/
theorem find?_elementsFrom (config : ConfigTree) {nodes : List ConfigNode} {name : String}
    {node : ConfigNode} {spec : TagSpec}
    (known : ∀ node ∈ nodes, (catalogue.get? node.type).isSome = true)
    (found : nodes.find? (·.name == name) = some node)
    (its : catalogue.get? node.type = some spec) (start : Nat) :
    ∃ id, (elementsFrom config catalogue start nodes).find? (·.name == name) =
      some (elementOf config catalogue node spec id) := by
  induction nodes generalizing start with
  | nil => contradiction
  | cons first rest hypothesis =>
    obtain ⟨rules, listed⟩ := Option.isSome_iff_exists.mp (known first List.mem_cons_self)
    have named : (elementOf config catalogue first rules start).name = first.name := rfl
    rw [elementsFrom, listed]
    simp only [List.find?_cons, named]
    rw [List.find?_cons] at found
    cases same : first.name == name with
    | true =>
      rw [same] at found
      obtain rfl := Option.some.inj found
      obtain rfl := Option.some.inj (listed.symm.trans its)
      exact ⟨start, rfl⟩
    | false =>
      rw [same] at found
      exact hypothesis (fun node member => known node (List.mem_cons_of_mem _ member)) found _

/-- The name of the only object is there just if there is exactly one. -/
theorem singleObject_eq (elements : List Element) :
    (∃ only, elements.filter (·.isObject) = [only] ∧ singleObject elements = some only.name) ∨
    (elements.countP (·.isObject) ≠ 1 ∧ singleObject elements = none) := by
  unfold singleObject
  split
  · rename_i only same
    exact Or.inl ⟨only, same, rfl⟩
  · rename_i several
    refine Or.inr ⟨fun one => ?_, rfl⟩
    rw [List.countP_eq_length_filter] at one
    obtain ⟨only, same⟩ := List.length_eq_one_iff.mp one
    exact several only same

/-- The objects of a tree are those of its elements. -/
theorem objects_ofConfig (config : ConfigTree) (catalogue : Catalogue) (task : Option Json) :
    ∃ change : Element → Element,
      (ofConfig config catalogue task).objects =
        ((elementsFrom config catalogue 0 config.nodes).filter (·.isObject)).map change ∧
      ∀ element, (change element).name = element.name := by
  obtain ⟨change, elements, unchanged⟩ := elements_ofConfig config catalogue task
  refine ⟨change, ?_, fun element => ?_⟩
  · rw [objects, elements, List.filter_map]
    refine congrArg (List.map change) (List.filter_congr fun element _ => ?_)
    obtain ⟨_, _, changed⟩ := unchanged element
    rw [Function.comp_apply, changed]
    rfl
  · obtain ⟨_, _, changed⟩ := unchanged element
    rw [changed]

/-- A tree has as many objects as its check counts. -/
theorem length_objects (config : ConfigTree) (catalogue : Catalogue) (task : Option Json) :
    (ofConfig config catalogue task).objects.length = Validation.objectCount config catalogue := by
  obtain ⟨change, objects, -⟩ := objects_ofConfig config catalogue task
  rw [objects, List.length_map, ← List.countP_eq_length_filter, countP_elementsFrom]
  rfl

/-- The names are distinct if the report has no error. -/
theorem nodup_names_of_isOk (ok : (Validation.check config catalogue).isOk = true) :
    (config.nodes.map ConfigNode.name).Nodup := by
  have none : Validation.repeatedNames [] config.nodes = [] := by
    rw [List.eq_nil_iff_forall_not_mem]
    intro issue member
    have harmless := Report.severity_ne_error ok issue (List.mem_append_left _ member)
    exact harmless (error_of_mem_repeatedNames issue member).1
  exact (nodup_of_repeatedNames none).1

/-- An object of a tree of distinct names is what its name stands for. -/
theorem get?_of_mem_objects (nodup : (config.nodes.map ConfigNode.name).Nodup)
    {object : Element} (member : object ∈ (ofConfig config catalogue task).objects) :
    (ofConfig config catalogue task).get? object.name = some object :=
  get?_of_mem (nodup_names_elements nodup task) (List.mem_filter.mp member).1

/-! ## Controls -/

/-- A control that makes results comes from a node; it is bound to those of the objects that the
node declares that are there, or to the only object. -/
theorem exists_node_of_makesResults
    (numbered : ∀ id node, config.get? id = some node → node.id = id) {control : Element}
    (member : control ∈ (ofConfig config catalogue task).elements)
    (makes : control.makesResults = true) :
    ∃ node spec, config.get? control.node = some node ∧ node ∈ config.nodes ∧
      catalogue.get? node.type = some spec ∧ spec.resultType.isSome = true ∧
      control.toNames =
        if node.toNames.isEmpty then
          (singleObject (elementsFrom config catalogue 0 config.nodes)).toList
        else node.toNames.filter fun target =>
          (((elementsFrom config catalogue 0 config.nodes).find? (·.name == target)).map
            (·.isObject)).getD false := by
  have elements : (ofConfig config catalogue task).elements =
      ((elementsFrom config catalogue 0 config.nodes).map (bound config
        (elementsFrom config catalogue 0 config.nodes)
        (nameIndex (elementsFrom config catalogue 0 config.nodes))
        (singleObject (elementsFrom config catalogue 0 config.nodes)))).map (resolved task) := rfl
  rw [elements] at member
  obtain ⟨_, linked, rfl⟩ := List.mem_map.mp member
  obtain ⟨plain, inside, rfl⟩ := List.mem_map.mp linked
  have plainMakes : plain.makesResults = true := by
    unfold bound at makes
    split at makes
    · assumption
    · exact makes
  obtain ⟨node, listed, spec, start, known, rfl⟩ := exists_node_of_mem_elementsFrom inside
  obtain ⟨place, placed⟩ := List.getElem?_of_mem listed
  have found : config.get? node.id = some node := by
    rw [numbered place node placed]
    exact placed
  have made : spec.resultType.isSome = true := (Bool.and_eq_true_iff.mp plainMakes).2
  have lookups (target : String) := lookup_map_nameIndex config catalogue config.nodes id target
  simp only [List.map_id, Option.map_id, id_eq] at lookups
  rw [bound, if_pos plainMakes]
  refine ⟨node, spec, found, listed, known, made, ?_⟩
  simp only [resolved, targetsOf, elementOf, found, Option.map_some, Option.getD_some, lookups]

/-- A control bound as its declaration says: to some objects, to exactly those that it declares if
it lists any, and else to the only object. -/
structure IsBound (tree : ElementTree) (node : ConfigNode) (control : Element) : Prop where
  /-- It is bound to something. -/
  nonempty : control.toNames ≠ []
  /-- What it is bound to are objects. -/
  objects : ∀ target ∈ control.toNames, ∃ object,
    tree.get? target = some object ∧ object.isObject = true
  /-- It is bound to the objects that it lists. -/
  declared : node.toNames ≠ [] → control.toNames = node.toNames
  /-- If it lists none, it is bound to the only object. -/
  only : node.toNames = [] → ∃ object, tree.objects = [object] ∧ control.toNames = [object.name]

/-- A name without an error is that of an object of the bound tree. -/
theorem isObject_of_accepted (ok : (Validation.check config .standard).isOk = true)
    {node : ConfigNode} {spec : TagSpec}
    (accepted : Validation.Accepted config .standard node spec) (needs : spec.NeedsObject)
    {target : String} (listed : target ∈ node.toNames) :
    ∃ object,
      (elementsFrom config .standard 0 config.nodes).find? (·.name == target) = some object ∧
      object.isObject = true := by
  obtain ⟨found, named, type⟩ := accepted.targets needs.binds target listed
  obtain ⟨rules, known, object⟩ :=
    Catalogue.object_of_mem_allObjects (needs.accepts found.type type)
  have every : ∀ node ∈ config.nodes, (Catalogue.standard.get? node.type).isSome = true := by
    intro node member
    obtain ⟨spec, accepted⟩ := Validation.accepted_of_isOk ok member
    rw [accepted.known, Option.isSome_some]
  obtain ⟨id, first⟩ := find?_elementsFrom config every named known 0
  exact ⟨_, first, decide_eq_true object⟩

/-- What the elements of some nodes are found under, the bound tree finds too. -/
theorem get?_of_find? {target : String} {object : Element}
    (found : (elementsFrom config catalogue 0 config.nodes).find? (·.name == target) = some object)
    (isObject : object.isObject = true) :
    ∃ shown, (ofConfig config catalogue task).get? target = some shown ∧ shown.isObject = true := by
  obtain ⟨change, elements, unchanged⟩ := elements_ofConfig config catalogue task
  have names : (ofConfig config catalogue task).names =
      nameIndex (elementsFrom config catalogue 0 config.nodes) := rfl
  obtain ⟨_, _, changed⟩ := unchanged object
  refine ⟨change object, ?_, ?_⟩
  · rw [get?, names, elements, lookup_map_nameIndex, found, Option.map_some]
  · rw [changed]
    exact isObject

/-- A control that lists its objects is bound to them, because each name is that of an object. -/
theorem isBound_of_listed (task : Option Json)
    (ok : (Validation.check config .standard).isOk = true) {node : ConfigNode} {spec : TagSpec}
    (accepted : Validation.Accepted config .standard node spec) (needs : spec.NeedsObject)
    (some : node.toNames ≠ []) {control : Element}
    (toNames : control.toNames = node.toNames.filter fun target =>
      (((elementsFrom config .standard 0 config.nodes).find? (·.name == target)).map
        (·.isObject)).getD false) :
    (ofConfig config .standard task).IsBound node control := by
  have kept : control.toNames = node.toNames := by
    rw [toNames, List.filter_eq_self]
    intro target listed
    obtain ⟨object, first, isObject⟩ := isObject_of_accepted ok accepted needs listed
    rw [first, Option.map_some, Option.getD_some, isObject]
  refine ⟨kept ▸ some, fun target inside => ?_, fun _ => kept, fun none => absurd none some⟩
  rw [kept] at inside
  obtain ⟨object, first, isObject⟩ := isObject_of_accepted ok accepted needs inside
  exact get?_of_find? first isObject

/-- A control that lists no object is bound to the only one. -/
theorem isBound_of_only (task : Option Json)
    (nodup : (config.nodes.map ConfigNode.name).Nodup) {node : ConfigNode}
    (none : node.toNames = []) {only control : Element}
    (single : (elementsFrom config catalogue 0 config.nodes).filter (·.isObject) = [only])
    (toNames : control.toNames = [only.name]) :
    (ofConfig config catalogue task).objects.length = 1 ∧
      (ofConfig config catalogue task).IsBound node control := by
  obtain ⟨change, objects, sameName⟩ := objects_ofConfig config catalogue task
  rw [single, List.map_singleton] at objects
  rw [← sameName only] at toNames
  have inside : change only ∈ (ofConfig config catalogue task).objects := by simp [objects]
  refine ⟨by simp [objects], by simp [toNames], fun target listed => ?_,
    fun some => absurd none some, fun _ => ⟨change only, objects, toNames⟩⟩
  rw [toNames, List.mem_singleton] at listed
  rw [listed]
  exact ⟨_, get?_of_mem_objects nodup inside, (List.mem_filter.mp inside).2⟩

/-- A control that is checked without an error declares its objects unless there is exactly one. -/
theorem toNameSynthesized_eq_false {node : ConfigNode} {spec : TagSpec}
    (accepted : Validation.Accepted config catalogue node spec) (needs : spec.NeedsObject)
    (several : Validation.objectCount config catalogue ≠ 1) : node.toNameSynthesized = false := by
  have complete := accepted.complete "toname" needs.required
  rw [Validation.isMissing, if_neg (by decide), if_pos rfl] at complete
  simpa [several] using complete

/-- A control of a configuration without errors is bound as its declaration says, unless it
declares its objects and lists none where there is not exactly one. -/
theorem isBound_iff_of_isOk (numbered : ∀ id node, config.get? id = some node → node.id = id)
    (ok : (ofConfig config .standard task).report.isOk = true) {control : Element}
    (member : control ∈ (ofConfig config .standard task).elements)
    (makes : control.makesResults = true) :
    ∃ node, config.get? control.node = some node ∧ node ∈ config.nodes ∧
      (∃ spec : TagSpec, Catalogue.standard.get? node.type = some spec ∧ spec.binds = true) ∧
      ((ofConfig config .standard task).IsBound node control ↔
        ¬ (node.toNameSynthesized = false ∧ node.toNames = [] ∧
          (ofConfig config .standard task).objects.length ≠ 1)) := by
  obtain ⟨node, spec, found, listed, known, made, toNames⟩ :=
    exists_node_of_makesResults numbered member makes
  have needs := Catalogue.needsObject_of_get?_standard known made
  obtain ⟨rules, accepted⟩ := Validation.accepted_of_isOk ok listed
  obtain rfl : rules = spec := Option.some.inj (accepted.known.symm.trans known)
  refine ⟨node, found, listed, ⟨rules, known, needs.binds⟩, ?_⟩
  by_cases none : node.toNames = []
  · rw [none, List.isEmpty_nil, if_pos rfl] at toNames
    rcases singleObject_eq (elementsFrom config .standard 0 config.nodes) with
      ⟨only, filtered, single⟩ | ⟨several, single⟩
    · rw [single, Option.toList_some] at toNames
      obtain ⟨length, bound⟩ :=
        isBound_of_only task (nodup_names_of_isOk ok) none filtered toNames
      simp [bound, length]
    · -- There is none or several: the control is bound to nothing, so its objects were declared.
      rw [single, Option.toList_none] at toNames
      have unbound : ¬ (ofConfig config .standard task).IsBound node control :=
        fun bound => bound.nonempty toNames
      have count : Validation.objectCount config .standard ≠ 1 := by
        rwa [countP_elementsFrom] at several
      have declared := toNameSynthesized_eq_false accepted needs count
      simp [unbound, declared, none, length_objects, count]
  · rw [if_neg (by simpa using none)] at toNames
    have bound := isBound_of_listed task ok accepted needs none toNames
    simp [bound, none]

/-- In a configuration of standard tags without errors, a control that makes results is bound to at
least one object, to those that it declares or else to the only one, just if it does not declare
its objects without listing one where there is not exactly one. -/
theorem isBound_iff {task : Option Json} {indexFlag : String} {document : Markup.Element}
    {tree : ElementTree} (made : tree = ofDocument ⟨.standard, task, indexFlag⟩ document)
    (ok : tree.report.isOk = true) {control : Element} (member : control ∈ tree.elements)
    (makes : control.makesResults = true) :
    ∃ node, tree.config.get? control.node = some node ∧
      (tree.IsBound node control ↔ ¬ (node.ListsNone ∧ tree.objects.length ≠ 1)) := by
  have order : (ConfigTree.ofDocument ⟨.standard, task, indexFlag⟩ document).PreOrder :=
    ConfigTree.ofBlock_preOrder _ _
  rw [ofDocument] at made
  subst made
  obtain ⟨node, found, listed, ⟨spec, known, binds⟩, bound⟩ :=
    isBound_iff_of_isOk order.numbered ok member makes
  have target := Naming.isSome_toname_completed listed known binds
  refine ⟨node, found, bound.trans (not_congr ?_)⟩
  rw [node.listsNone_iff target, and_assoc]

/-- Two texts and a choice for both. -/
def pairedTargets : String :=
  "<View><Text name=\"first\" value=\"$first\"/><Text name=\"second\" value=\"$second\"/>" ++
  "<Choices name=\"mood\" toName=\"first, second\"/></View>"

/-- A control that lists two objects is bound to both. -/
theorem pairedTargets_bound :
    ∃ tree control, compile? ⟨.standard, none, defaultIndexFlag⟩ pairedTargets = some tree ∧
      tree.report.isOk = true ∧ control ∈ tree.elements ∧ control.makesResults = true ∧
      control.toNames = ["first", "second"] ∧
      ∃ node, tree.config.get? control.node = some node ∧
        (tree.IsBound node control ↔ ¬ (node.ListsNone ∧ tree.objects.length ≠ 1)) := by
  have evaluated :
      (compile? ⟨.standard, none, defaultIndexFlag⟩ pairedTargets).map (fun tree =>
        (tree.report.isOk, tree.elements[3]?.map fun control =>
          (control.makesResults, control.toNames))) =
        some (true, some (true, ["first", "second"])) := by
    decide +kernel
  obtain ⟨tree, compiled, same⟩ := Option.map_eq_some_iff.mp evaluated
  obtain ⟨ok, there⟩ := Prod.mk.inj same
  obtain ⟨control, placed, shown⟩ := Option.map_eq_some_iff.mp there
  obtain ⟨makes, toNames⟩ := Prod.mk.inj shown
  obtain ⟨document, -, made⟩ := exists_document_of_compile? compiled
  have member := List.mem_of_getElem? placed
  exact ⟨tree, control, compiled, ok, member, makes, toNames, isBound_iff made ok member makes⟩

/-- Two texts and labels whose declaration lists neither. -/
def blankTarget : String :=
  "<View><Text name=\"first\" value=\"$first\"/><Text name=\"second\" value=\"$second\"/>" ++
  "<Labels name=\"label\" toName=\"\"><Label value=\"X\"/></Labels></View>"

/-- A control that declares its objects and lists none has no error, and it is bound to nothing. -/
theorem blankTarget_unbound :
    ∃ tree control, compile? ⟨.standard, none, defaultIndexFlag⟩ blankTarget = some tree ∧
      tree.report.isOk = true ∧ control ∈ tree.elements ∧ control.makesResults = true ∧
      control.toNames = [] := by
  have evaluated :
      (compile? ⟨.standard, none, defaultIndexFlag⟩ blankTarget).map (fun tree =>
        (tree.report.isOk, tree.elements[3]?.map fun control =>
          (control.makesResults, control.toNames))) = some (true, some (true, [])) := by
    decide +kernel
  obtain ⟨tree, compiled, same⟩ := Option.map_eq_some_iff.mp evaluated
  obtain ⟨ok, there⟩ := Prod.mk.inj same
  obtain ⟨control, placed, shown⟩ := Option.map_eq_some_iff.mp there
  obtain ⟨makes, toNames⟩ := Prod.mk.inj shown
  exact ⟨tree, control, compiled, ok, List.mem_of_getElem? placed, makes, toNames⟩

end ElementTree
end Labeling
