import Labeling.Proofs.Binding.Options
import Labeling.Proofs.Config.Targets

/-!
# Options that are listed twice

A check warns about a control that lists a value twice, and means the options that stand directly
inside the control and declare their values as attributes. The control offers more than these: its
options also stand in layout and write their values inside. What a control lists it offers
(`offersTwice_of_listsTwice`), so a warning is right unless it is about another control of the same
tag and name; it is missing where only the other options repeat a value (`warns_iff_options_iff`).
-/
namespace Labeling

/-! ## Warnings of a check -/

namespace Validation

variable {config : ConfigTree} {catalogue : Catalogue} {node : ConfigNode} {issue : Issue}

/-- A warning on a value is one of repeated values, at the control. -/
theorem of_mem_repeatedValues {seen values : List String}
    (member : issue ∈ repeatedValues node seen values) :
    issue.code = .duplicateLabel ∧ issue.context = elementContext node := by
  induction values generalizing seen with
  | nil => contradiction
  | cons value rest hypothesis =>
    rw [repeatedValues] at member
    split at member
    · rcases List.mem_cons.mp member with new | later
      · rw [new]
        exact ⟨rfl, rfl⟩
      · exact hypothesis later
    · exact hypothesis member

/-- No value is warned about if the values are different and none was seen before. -/
theorem repeatedValues_eq_nil_iff {seen values : List String} :
    repeatedValues node seen values = [] ↔ values.Nodup ∧ ∀ value ∈ values, value ∉ seen := by
  induction values generalizing seen with
  | nil => simp [repeatedValues]
  | cons value rest hypothesis =>
    rw [repeatedValues]
    split
    · rename_i known
      rw [List.contains_iff_mem] at known
      simp [known]
    · rename_i new
      rw [List.contains_iff_mem] at new
      rw [hypothesis, List.nodup_cons, List.forall_mem_cons]
      constructor
      · rintro ⟨nodup, apart⟩
        refine ⟨⟨fun again => apart value again List.mem_cons_self, nodup⟩, new, ?_⟩
        exact fun other inside known => apart other inside (List.mem_cons_of_mem _ known)
      · rintro ⟨⟨once, nodup⟩, -, apart⟩
        refine ⟨nodup, fun other inside known => ?_⟩
        rcases List.mem_cons.mp known with same | known
        · exact once (same ▸ inside)
        · exact apart other inside known

/-- What is reported of a declared object is no repeated value. -/
theorem code_of_mem_targetIssues {spec : TagSpec} (member : issue ∈ targetIssues config node spec) :
    issue.code ≠ .duplicateLabel := by
  unfold targetIssues at member
  split at member
  · obtain ⟨target, -, raised⟩ := List.mem_filterMap.mp member
    unfold targetIssue at raised
    split at raised
    · rw [← Option.some.inj raised]
      exact IssueCode.noConfusion
    · split at raised
      · contradiction
      · rw [← Option.some.inj raised]
        exact IssueCode.noConfusion
  · contradiction

/-- What is reported of a repeater is no repeated value. -/
theorem code_of_mem_repeaterIssues (member : issue ∈ repeaterIssues node) :
    issue.code ≠ .duplicateLabel := by
  unfold repeaterIssues at member
  split at member
  · rw [List.mem_singleton.mp member]
    exact IssueCode.noConfusion
  · contradiction

/-- What is reported of the type of an attribute is no repeated value. -/
theorem code_of_typeIssue {rule : AttributeRule} (raised : typeIssue node rule = some issue) :
    issue.code ≠ .duplicateLabel := by
  unfold typeIssue at raised
  split at raised
  · contradiction
  · split at raised
    · contradiction
    · rw [← Option.some.inj raised]
      exact IssueCode.noConfusion

/-- An issue of a node that is one of repeated values is a warning on the values of a control. -/
theorem mem_valueIssues_of_mem_nodeIssues {objects : Nat}
    (member : issue ∈ nodeIssues config catalogue objects node)
    (code : issue.code = .duplicateLabel) :
    ∃ spec, catalogue.get? node.type = some spec ∧ issue ∈ valueIssues config node spec := by
  unfold nodeIssues at member
  split at member
  · rw [List.mem_singleton.mp member] at code
    contradiction
  · rename_i spec known
    simp only [List.mem_append] at member
    rcases member with (((missing | target) | value) | repeater) | type
    · obtain ⟨name, -, rfl⟩ := List.mem_map.mp missing
      contradiction
    · exact absurd code (code_of_mem_targetIssues target)
    · exact ⟨spec, known, value⟩
    · exact absurd code (code_of_mem_repeaterIssues repeater)
    · obtain ⟨rule, -, raised⟩ := List.mem_filterMap.mp type
      exact absurd code (code_of_typeIssue raised)

/-- The warnings on repeated values in a report are those on the values of the controls. -/
theorem mem_check_and_duplicateLabel_iff :
    issue ∈ check config catalogue ∧ issue.code = .duplicateLabel ↔
      ∃ node ∈ config.nodes, ∃ spec, catalogue.get? node.type = some spec ∧
        spec.kind = .control ∧ issue ∈ repeatedValues node [] (listedValues config node) := by
  constructor
  · rintro ⟨member, code⟩
    rcases List.mem_append.mp member with repeated | inside
    · rw [(ElementTree.error_of_mem_repeatedNames issue repeated).2] at code
      contradiction
    · obtain ⟨node, listed, raised⟩ := List.mem_flatMap.mp inside
      obtain ⟨spec, known, value⟩ := mem_valueIssues_of_mem_nodeIssues raised code
      unfold valueIssues at value
      split at value
      · rename_i control
        exact ⟨node, listed, spec, known, control, value⟩
      · contradiction
  · rintro ⟨node, listed, spec, known, control, value⟩
    refine ⟨List.mem_append_right _ (List.mem_flatMap.mpr ⟨node, listed, ?_⟩),
      (of_mem_repeatedValues value).1⟩
    simp only [nodeIssues, known, valueIssues, if_pos control, List.mem_append]
    exact Or.inl (Or.inl (Or.inr value))

end Validation

/-! ## What a control lists -/

/-- The value that a node lists directly inside a control: the attribute of a label, of a choice or
of a relation. -/
def ConfigNode.listedValue? (node : ConfigNode) : Option String :=
  if ["label", "choice", "relation"].contains node.type then node.attr? "value" else none

namespace ConfigTree

variable {tree : ConfigTree}

/-- Whether two nodes directly inside a node list one value. -/
def ListsTwice (tree : ConfigTree) (id : Nat) : Prop :=
  ∃ first ∈ tree.children id, ∃ second ∈ tree.children id,
    ShareValue ConfigNode.listedValue? first second

instance (tree : ConfigTree) (id : Nat) : Decidable (tree.ListsTwice id) :=
  inferInstanceAs (Decidable (∃ first ∈ tree.children id, ∃ second ∈ tree.children id,
    ShareValue ConfigNode.listedValue? first second))

/-- The values that a node lists are different just if it lists none twice. -/
theorem nodup_listedValues_iff (order : tree.PreOrder) (node : ConfigNode) :
    (Validation.listedValues tree node).Nodup ↔ ¬ tree.ListsTwice node.id :=
  nodup_filterMap_iff (nodup_of_increasing (pairwise_children order node.id))
    ConfigNode.listedValue?

/-- A node is warned about if it lists a value twice. -/
theorem repeatedValues_ne_nil_iff (order : tree.PreOrder) (node : ConfigNode) :
    Validation.repeatedValues node [] (Validation.listedValues tree node) ≠ [] ↔
      tree.ListsTwice node.id := by
  have once : Validation.repeatedValues node [] (Validation.listedValues tree node) = [] ↔
      (Validation.listedValues tree node).Nodup :=
    Validation.repeatedValues_eq_nil_iff.trans (and_iff_left fun _ _ => List.not_mem_nil)
  rw [Ne, once, nodup_listedValues_iff order, not_not]

/-- A value that a standard option lists is one that it offers. -/
theorem of_listedValue? {node : ConfigNode} {value : String}
    (listed : node.listedValue? = some value) :
    node.IsOption .standard ∧ node.valueText? = some value := by
  unfold ConfigNode.listedValue? at listed
  split at listed
  · rename_i type
    have every : ∀ type ∈ ["label", "choice", "relation"],
        ((Catalogue.standard.get? type).map (·.kind)) = some .child := by
      decide +kernel
    refine ⟨every node.type (List.contains_iff_mem.mp type), ?_⟩
    rw [ConfigNode.valueText?, listed]
    rfl
  · contradiction

/-- What a node lists twice it offers twice. -/
theorem offersTwice_of_listsTwice {id : Nat} (lists : tree.ListsTwice id) :
    tree.OffersTwice .standard id := by
  obtain ⟨first, firstInside, second, secondInside, different, value, one, other⟩ := lists
  obtain ⟨firstOption, firstValue⟩ := of_listedValue? one
  obtain ⟨secondOption, secondValue⟩ := of_listedValue? other
  exact ⟨first, second, .option firstInside firstOption, .option secondInside secondOption,
    different, value, firstValue, secondValue⟩

end ConfigTree

namespace ElementTree

variable {config : ConfigTree} {catalogue : Catalogue} {task : Option Json}

/-! ## Controls and their nodes -/

/-- An element with what it has from its node and the rules of its tag. -/
structure MadeOf (config : ConfigTree) (catalogue : Catalogue) (node : ConfigNode) (spec : TagSpec)
    (element : Element) : Prop where
  /-- It names its node. -/
  place : element.node = node.id
  /-- It has the tag of the node. -/
  tag : element.tag = node.tagName
  /-- It has the name of the node. -/
  name : element.name = node.name
  /-- It has the role of the tag. -/
  kind : element.kind = spec.kind
  /-- A control has the options of the node. -/
  options : spec.kind = .control →
    element.options = ElementTree.options config catalogue config.nodes.length node.id

/-- Binding leaves what an element has from its node. -/
theorem madeOf_change {change : Element → Element} {node : ConfigNode} {spec : TagSpec} {id : Nat}
    (unchanged : ∀ element, ∃ toNames resolvedValue,
      change element = { element with toNames := toNames, resolvedValue := resolvedValue }) :
    MadeOf config catalogue node spec (change (elementOf config catalogue node spec id)) := by
  obtain ⟨_, _, changed⟩ := unchanged (elementOf config catalogue node spec id)
  rw [changed]
  exact ⟨rfl, rfl, rfl, rfl, fun control => if_pos control⟩

/-- An element of a tree is made of a node of a known tag. -/
theorem exists_madeOf {element : Element}
    (member : element ∈ (ofConfig config catalogue task).elements) :
    ∃ node ∈ config.nodes, ∃ spec, catalogue.get? node.type = some spec ∧
      MadeOf config catalogue node spec element := by
  obtain ⟨change, elements, unchanged⟩ := elements_ofConfig config catalogue task
  rw [elements] at member
  obtain ⟨plain, inside, rfl⟩ := List.mem_map.mp member
  obtain ⟨node, listed, spec, id, known, rfl⟩ := exists_node_of_mem_elementsFrom inside
  exact ⟨node, listed, spec, known, madeOf_change unchanged⟩

/-- A node of a known tag has an element. -/
theorem exists_mem_elementsFrom {nodes : List ConfigNode} {node : ConfigNode} {spec : TagSpec}
    (listed : node ∈ nodes) (known : catalogue.get? node.type = some spec) (start : Nat) :
    ∃ id, elementOf config catalogue node spec id ∈ elementsFrom config catalogue start nodes := by
  induction nodes generalizing start with
  | nil => contradiction
  | cons first rest hypothesis =>
    rw [elementsFrom]
    rcases List.mem_cons.mp listed with rfl | later
    · rw [known]
      exact ⟨start, List.mem_cons_self⟩
    · split
      · exact hypothesis later start
      · obtain ⟨id, member⟩ := hypothesis later (start + 1)
        exact ⟨id, List.mem_cons_of_mem _ member⟩

/-- A node of a known tag is what an element of the tree is made of. -/
theorem exists_element {node : ConfigNode} {spec : TagSpec} (listed : node ∈ config.nodes)
    (known : catalogue.get? node.type = some spec) :
    ∃ element ∈ (ofConfig config catalogue task).elements,
      MadeOf config catalogue node spec element := by
  obtain ⟨change, elements, unchanged⟩ := elements_ofConfig config catalogue task
  obtain ⟨id, member⟩ := exists_mem_elementsFrom listed known 0
  exact ⟨_, elements ▸ List.mem_map_of_mem member, madeOf_change unchanged⟩

/-! ## Controls that are warned about -/

/-- Whether the report warns about repeated values at the place of a control. -/
def Warns (tree : ElementTree) (control : Element) : Prop :=
  ∃ issue ∈ tree.report, issue.code = .duplicateLabel ∧
    issue.context = .element control.tag control.name

instance (tree : ElementTree) (control : Element) : Decidable (tree.Warns control) :=
  inferInstanceAs (Decidable (∃ issue ∈ tree.report, issue.code = .duplicateLabel ∧
    issue.context = .element control.tag control.name))

/-- The controls that a report does not tell apart from a control: those of its tag and name. -/
def namesakes (tree : ElementTree) (control : Element) : List Element :=
  tree.controls.filter fun other => other.tag = control.tag ∧ other.name = control.name

/-- The report warns about a control if it or a namesake lists a value twice. -/
theorem warns_iff (order : config.PreOrder) (control : Element) :
    (ofConfig config catalogue task).Warns control ↔
      ∃ namesake ∈ (ofConfig config catalogue task).namesakes control,
        config.ListsTwice namesake.node := by
  constructor
  · rintro ⟨issue, member, code, context⟩
    obtain ⟨node, listed, spec, known, isControl, raised⟩ :=
      Validation.mem_check_and_duplicateLabel_iff.mp ⟨member, code⟩
    obtain ⟨element, inside, made⟩ :
        ∃ element ∈ (ofConfig config catalogue task).elements,
          MadeOf config catalogue node spec element := exists_element listed known
    rw [(Validation.of_mem_repeatedValues raised).2] at context
    obtain ⟨tag, name⟩ := IssueContext.element.inj context
    refine ⟨element, List.mem_filter.mpr ⟨List.mem_filter.mpr ⟨inside, ?_⟩, ?_⟩, ?_⟩
    · rw [Element.isControl, made.kind, isControl, decide_eq_true_eq]
    · rw [made.tag, made.name, decide_eq_true_eq]
      exact ⟨tag, name⟩
    · rw [made.place]
      exact (ConfigTree.repeatedValues_ne_nil_iff order node).mp (List.ne_nil_of_mem raised)
  · rintro ⟨namesake, member, twice⟩
    obtain ⟨controls, same⟩ := List.mem_filter.mp member
    obtain ⟨inside, isControl⟩ := List.mem_filter.mp controls
    obtain ⟨node, listed, spec, known, made⟩ := exists_madeOf inside
    rw [decide_eq_true_eq, made.tag, made.name] at same
    rw [Element.isControl, decide_eq_true_eq, made.kind] at isControl
    rw [made.place] at twice
    obtain ⟨issue, raised⟩ := List.exists_mem_of_ne_nil _
      ((ConfigTree.repeatedValues_ne_nil_iff order node).mpr twice)
    obtain ⟨code, context⟩ := Validation.of_mem_repeatedValues raised
    refine ⟨issue, ?_, code, ?_⟩
    · exact (Validation.mem_check_and_duplicateLabel_iff.mpr
        ⟨node, listed, spec, known, isControl, raised⟩).1
    · rw [context, Validation.elementContext, same.1, same.2]

/-- The options of a control have different values just if its node offers none twice. -/
theorem nodup_values_control_iff (order : config.PreOrder) {control : Element}
    (member : control ∈ (ofConfig config catalogue task).controls) :
    (control.options.map LabelOption.value).Nodup ↔
      ¬ config.OffersTwice catalogue control.node := by
  obtain ⟨inside, isControl⟩ := List.mem_filter.mp member
  obtain ⟨node, -, spec, -, made⟩ := exists_madeOf inside
  rw [Element.isControl, decide_eq_true_eq, made.kind] at isControl
  rw [made.options isControl, made.place]
  exact nodup_values_options_iff order catalogue node.id

/-- With the standard tags, the report warns about a control just if two of its options have one
value, exactly where two options of one value mean that a value is listed twice by the control or a
namesake, and where no namesake lists a value twice unless the control has such options too. -/
theorem warns_iff_options_iff {task : Option Json} {indexFlag : String} {document : Markup.Element}
    {tree : ElementTree} {control : Element}
    (made : tree = ofDocument ⟨.standard, task, indexFlag⟩ document)
    (member : control ∈ tree.controls) :
    (tree.Warns control ↔ ¬ (control.options.map LabelOption.value).Nodup) ↔
      (tree.config.OffersTwice .standard control.node →
        ∃ namesake ∈ tree.namesakes control, tree.config.ListsTwice namesake.node) ∧
      ∀ namesake ∈ tree.namesakes control, namesake ≠ control →
        tree.config.ListsTwice namesake.node → tree.config.OffersTwice .standard control.node := by
  have order : (ConfigTree.ofDocument ⟨.standard, task, indexFlag⟩ document).PreOrder :=
    ConfigTree.ofBlock_preOrder _ _
  rw [ofDocument] at made
  subst made
  rw [warns_iff order, nodup_values_control_iff order member, not_not]
  constructor
  · rintro ⟨right, missing⟩
    exact ⟨missing, fun namesake same _ twice => right ⟨namesake, same, twice⟩⟩
  · rintro ⟨missing, others⟩
    refine ⟨?_, missing⟩
    rintro ⟨namesake, same, twice⟩
    by_cases itself : namesake = control
    · exact ConfigTree.offersTwice_of_listsTwice (itself ▸ twice)
    · exact others namesake same itself twice

/-- A choice of moods with the options written so. -/
def moodChoice (options : String) : String :=
  "<View><Text name=\"text\" value=\"$text\"/><Choices name=\"mood\" toName=\"text\">" ++
    options ++ "</Choices></View>"

/-- Options that list one value as attributes. -/
def listedMoods : String := moodChoice "<Choice value=\"good\"/><Choice value=\"good\"/>"

/-- Options that write one value inside. -/
def writtenMoods : String := moodChoice "<Choice>good</Choice><Choice>good</Choice>"

/-- Options that share a value as attributes are warned about. -/
theorem listedMoods_warned :
    ∃ tree control, compile? ⟨.standard, none, defaultIndexFlag⟩ listedMoods = some tree ∧
      control ∈ tree.controls ∧ tree.Warns control ∧
      ¬ (control.options.map LabelOption.value).Nodup := by
  have evaluated :
      (compile? ⟨.standard, none, defaultIndexFlag⟩ listedMoods).map (fun tree =>
        tree.controls.map fun control =>
          (control.options.map LabelOption.value,
            decide (tree.config.ListsTwice control.node))) =
        some [(["good", "good"], true)] := by
    decide +kernel
  obtain ⟨tree, compiled, same⟩ := Option.map_eq_some_iff.mp evaluated
  obtain ⟨control, controls, found⟩ := List.map_eq_singleton_iff.mp same
  obtain ⟨values, marked⟩ := Prod.mk.inj found
  have member : control ∈ tree.controls := controls ▸ List.mem_singleton.mpr rfl
  have itself : control ∈ tree.namesakes control :=
    List.mem_filter.mpr ⟨member, decide_eq_true ⟨rfl, rfl⟩⟩
  have lists : tree.config.ListsTwice control.node := of_decide_eq_true marked
  have twice : ¬ (control.options.map LabelOption.value).Nodup := by
    rw [values]
    decide
  obtain ⟨document, -, made⟩ := exists_document_of_compile? compiled
  have right := (warns_iff_options_iff made member).mpr
    ⟨fun _ => ⟨control, itself, lists⟩,
      fun _ _ _ _ => ConfigTree.offersTwice_of_listsTwice lists⟩
  exact ⟨tree, control, compiled, member, right.mpr twice, twice⟩

/-- Options that share a value and write it inside are not warned about. -/
theorem writtenMoods_missed :
    ∃ tree control, compile? ⟨.standard, none, defaultIndexFlag⟩ writtenMoods = some tree ∧
      control ∈ tree.controls ∧ control.options.map LabelOption.value = ["good", "good"] ∧
      tree.report = [] ∧
      ¬ (tree.Warns control ↔ ¬ (control.options.map LabelOption.value).Nodup) := by
  have evaluated :
      (compile? ⟨.standard, none, defaultIndexFlag⟩ writtenMoods).map (fun tree =>
        (tree.controls.map (·.options.map LabelOption.value), tree.report)) =
        some ([["good", "good"]], []) := by
    decide +kernel
  obtain ⟨tree, compiled, same⟩ := Option.map_eq_some_iff.mp evaluated
  obtain ⟨options, clean⟩ := Prod.mk.inj same
  obtain ⟨control, controls, values⟩ := List.map_eq_singleton_iff.mp options
  have silent : ¬ tree.Warns control := by
    rintro ⟨issue, member, -⟩
    rw [clean] at member
    exact List.not_mem_nil member
  have twice : ¬ (control.options.map LabelOption.value).Nodup := by
    rw [values]
    decide
  exact ⟨tree, control, compiled, controls ▸ List.mem_singleton.mpr rfl, values, clean,
    fun right => silent (right.mpr twice)⟩

end ElementTree
end Labeling
