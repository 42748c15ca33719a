import Labeling.Binding
import Labeling.Proofs.Entries
import Mathlib.Data.List.Nodup

/-!
# What names stand for

A bound tree is indexed by names and places. The index says no more than the list of elements: a
name stands for the first element of that name (`get?_ofConfig`), and an element has the role, the
result type and the payload key that the rules of its tag give (`exists_spec_of_mem`). Where no
two elements have one name, a control that is found for an object is bound to it
(`targets_of_findControl?`).
-/
namespace Labeling.ElementTree

variable {config : ConfigTree} {catalogue : Catalogue} {task : Option Json} {name : String}

/-- The elements of nodes are numbered in order. -/
theorem id_of_getElem?_elementsFrom {nodes : List ConfigNode} {start place : Nat}
    {element : Element}
    (found : (elementsFrom config catalogue start nodes)[place]? = some element) :
    element.id = start + place := by
  induction nodes generalizing start place with
  | nil => simp [elementsFrom] at found
  | cons node rest hypothesis =>
    rw [elementsFrom] at found
    split at found
    · exact hypothesis found
    · cases place with
      | zero =>
        simp only [List.getElem?_cons_zero, Option.some.injEq] at found
        rw [← found, elementOf, Nat.add_zero]
      | succ place =>
        have numbered := hypothesis (List.getElem?_cons_succ ▸ found)
        omega

/-- The rules of the tag of an element. -/
def Follows (config : ConfigTree) (catalogue : Catalogue) (element : Element)
    (spec : TagSpec) : Prop :=
  ∃ node ∈ config.nodes, catalogue.get? node.type = some spec ∧ element.type = node.type ∧
    element.kind = spec.kind ∧ element.resultType = spec.resultType ∧
    element.payloadKey = spec.payloadKey ∧ element.classification = spec.classification

/-- An element of some nodes is that of a node of a known tag. -/
theorem exists_node_of_mem_elementsFrom {nodes : List ConfigNode} {start : Nat}
    {element : Element} (member : element ∈ elementsFrom config catalogue start nodes) :
    ∃ node ∈ nodes, ∃ spec id, catalogue.get? node.type = some spec ∧
      element = elementOf config catalogue node spec id := by
  induction nodes generalizing start with
  | nil => simp [elementsFrom] at member
  | cons node rest hypothesis =>
    have later {start : Nat} (found : element ∈ elementsFrom config catalogue start rest) :
        ∃ other ∈ node :: rest, ∃ spec id, catalogue.get? other.type = some spec ∧
          element = elementOf config catalogue other spec id := by
      obtain ⟨other, inside, made⟩ := hypothesis found
      exact ⟨other, List.mem_cons_of_mem _ inside, made⟩
    rw [elementsFrom] at member
    split at member
    · exact later member
    · rename_i spec known
      rcases List.mem_cons.mp member with made | found
      · exact ⟨node, List.mem_cons_self, spec, start, known, made⟩
      · exact later found

/-- An element of some nodes follows the rules of its tag. -/
theorem exists_spec_of_mem_elementsFrom {nodes : List ConfigNode} {start : Nat}
    {element : Element} (inside : ∀ node ∈ nodes, node ∈ config.nodes)
    (member : element ∈ elementsFrom config catalogue start nodes) :
    ∃ spec, Follows config catalogue element spec := by
  obtain ⟨node, listed, spec, id, known, made⟩ := exists_node_of_mem_elementsFrom member
  subst made
  exact ⟨spec, node, inside node listed, known, rfl, rfl, rfl, rfl, rfl⟩

/-- The index of names has the place of the first element of each name. -/
theorem get?_nameIndex (elements : List Element) (name : String) :
    (nameIndex elements).get? name = (elements.find? (·.name == name)).map (·.id) := by
  have from_any (names : Entries String Nat) :
      (elements.foldl (fun names element =>
        if names.has element.name then names else names.put element.name element.id)
          names).get? name =
        (names.get? name).or ((elements.find? (·.name == name)).map (·.id)) := by
    induction elements generalizing names with
    | nil => simp
    | cons element rest hypothesis =>
      rw [List.foldl_cons, hypothesis, List.find?_cons]
      by_cases same : element.name = name
      · subst same
        simp only [beq_self_eq_true, Option.map_some]
        cases found : names.get? element.name with
        | none => simp [Entries.has, found, Entries.get?_put]
        | some place => simp [Entries.has, found]
      · have different : (element.name == name) = false := beq_false_of_ne same
        rw [different]
        split
        · rfl
        · rw [Entries.get?_put, if_neg (Ne.symm same)]
  rw [nameIndex, from_any, Entries.get?_nil, Option.none_or]

/-- Binding and resolving change neither the name of an element nor what its tag gives it. -/
theorem resolved_bound_eq (elements : List Element) (names : Entries String Nat)
    (single : Option String) (element : Element) :
    ∃ toNames resolvedValue, resolved task (bound config elements names single element) =
      { element with toNames := toNames, resolvedValue := resolvedValue } := by
  rw [bound]
  split
  · exact ⟨_, _, rfl⟩
  · exact ⟨_, _, rfl⟩

/-- The elements of a tree are those of its nodes, bound and resolved. -/
theorem elements_ofConfig (config : ConfigTree) (catalogue : Catalogue) (task : Option Json) :
    ∃ change : Element → Element,
      (ofConfig config catalogue task).elements =
        (elementsFrom config catalogue 0 config.nodes).map change ∧
      ∀ element, ∃ toNames resolvedValue,
        change element = { element with toNames := toNames, resolvedValue := resolvedValue } :=
  ⟨_, List.map_map, fun element => resolved_bound_eq _ _ _ element⟩

/-- Looking a name up by its place finds the first element of that name, also among elements that
were changed since. -/
theorem lookup_map_nameIndex (config : ConfigTree) (catalogue : Catalogue)
    (nodes : List ConfigNode) (change : Element → Element) (name : String) :
    lookup ((elementsFrom config catalogue 0 nodes).map change)
        (nameIndex (elementsFrom config catalogue 0 nodes)) name =
      ((elementsFrom config catalogue 0 nodes).find? (·.name == name)).map change := by
  rw [lookup, get?_nameIndex]
  cases found : (elementsFrom config catalogue 0 nodes).find? (·.name == name) with
  | none => rfl
  | some element =>
    obtain ⟨place, placed⟩ := List.getElem?_of_mem (List.mem_of_find?_eq_some found)
    have numbered : element.id = place := by
      rw [id_of_getElem?_elementsFrom placed, Nat.zero_add]
    rw [Option.map_some, Option.bind_some, numbered, List.getElem?_map, placed, Option.map_some]

/-- The tree that a text compiles to is that of the document it writes. -/
theorem exists_document_of_compile? {context : ExpansionContext} {text : String}
    {tree : ElementTree} (compiled : compile? context text = some tree) :
    ∃ document, Markup.read? text = some document ∧ tree = ofDocument context document := by
  obtain ⟨config, read, rfl⟩ := Option.map_eq_some_iff.mp compiled
  obtain ⟨document, written, rfl⟩ := Option.map_eq_some_iff.mp read
  exact ⟨document, written, rfl⟩

/-- A name stands for the first element of that name. -/
theorem get?_ofConfig (config : ConfigTree) (catalogue : Catalogue) (task : Option Json)
    (name : String) :
    (ofConfig config catalogue task).get? name =
      (ofConfig config catalogue task).elements.find? (·.name == name) := by
  obtain ⟨change, elements, unchanged⟩ := elements_ofConfig config catalogue task
  have names : (ofConfig config catalogue task).names =
      nameIndex (elementsFrom config catalogue 0 config.nodes) := rfl
  have sameName (element : Element) : (change element).name = element.name := by
    obtain ⟨_, _, changed⟩ := unchanged element
    rw [changed]
  rw [get?, names, elements, lookup_map_nameIndex, List.find?_map]
  simp only [Function.comp_def, sameName]

/-- Some element has a name if the name stands for one. -/
theorem contains_ofConfig (config : ConfigTree) (catalogue : Catalogue) (task : Option Json)
    (name : String) :
    (ofConfig config catalogue task).contains name =
      ((ofConfig config catalogue task).get? name).isSome := by
  obtain ⟨change, elements, unchanged⟩ := elements_ofConfig config catalogue task
  have names : (ofConfig config catalogue task).names =
      nameIndex (elementsFrom config catalogue 0 config.nodes) := rfl
  have sameName (element : Element) : (change element).name = element.name := by
    obtain ⟨_, _, changed⟩ := unchanged element
    rw [changed]
  rw [contains, Entries.has, names, get?_nameIndex, get?_ofConfig, elements, List.find?_map]
  simp only [Function.comp_def, sameName, Option.isSome_map]

/-- An element has the name that stands for it. -/
theorem name_of_get? {element : Element}
    (found : (ofConfig config catalogue task).get? name = some element) : element.name = name := by
  rw [get?_ofConfig] at found
  have named := List.find?_some found
  exact beq_iff_eq.mp named

/-- The element of a name is one of the tree. -/
theorem mem_of_get? {element : Element}
    (found : (ofConfig config catalogue task).get? name = some element) :
    element ∈ (ofConfig config catalogue task).elements := by
  rw [get?_ofConfig] at found
  exact List.mem_of_find?_eq_some found

/-- In a tree of distinct names, the name of an element stands for it. -/
theorem get?_of_mem {element : Element}
    (nodup : ((ofConfig config catalogue task).elements.map Element.name).Nodup)
    (member : element ∈ (ofConfig config catalogue task).elements) :
    (ofConfig config catalogue task).get? element.name = some element := by
  rw [get?_ofConfig]
  cases found : (ofConfig config catalogue task).elements.find? (·.name == element.name) with
  | none =>
    have other := List.find?_eq_none.mp found element member
    exact absurd (beq_self_eq_true element.name) other
  | some first =>
    have named := List.find?_some found
    have same : first.name = element.name := beq_iff_eq.mp named
    rw [List.inj_on_of_nodup_map nodup (List.mem_of_find?_eq_some found) member same]

/-- An element of a tree follows the rules of its tag. -/
theorem exists_spec_of_mem {element : Element}
    (member : element ∈ (ofConfig config catalogue task).elements) :
    ∃ spec, Follows config catalogue element spec := by
  obtain ⟨change, elements, unchanged⟩ := elements_ofConfig config catalogue task
  rw [elements] at member
  obtain ⟨plain, inside, same⟩ := List.mem_map.mp member
  obtain ⟨_, _, changed⟩ := unchanged plain
  subst same
  rw [changed]
  obtain ⟨spec, follows⟩ := exists_spec_of_mem_elementsFrom (fun _ found => found) inside
  exact ⟨spec, follows⟩

/-! ## Controls of objects -/

/-- A configuration without an issue of repeated names repeats none. -/
theorem nodup_of_repeatedNames {earlier nodes : List ConfigNode}
    (none : Validation.repeatedNames earlier nodes = []) :
    (nodes.map ConfigNode.name).Nodup ∧ ∀ first ∈ earlier, ∀ node ∈ nodes,
      first.name ≠ node.name := by
  induction nodes generalizing earlier with
  | nil => simp
  | cons node rest hypothesis =>
    rw [Validation.repeatedNames] at none
    split at none
    · contradiction
    · rename_i fresh
      obtain ⟨nodup, apart⟩ := hypothesis none
      rw [List.find?_eq_none] at fresh
      refine ⟨List.nodup_cons.mpr ⟨?_, nodup⟩, ?_⟩
      · intro repeated
        obtain ⟨other, inside, same⟩ := List.mem_map.mp repeated
        exact apart node (by simp) other inside same.symm
      · intro first member other inside
        rcases List.mem_cons.mp inside with head | later
        · rw [head]
          exact fun same => fresh first member (beq_iff_eq.mpr same)
        · exact apart first (List.mem_append_left _ member) other later

/-- Each issue of repeated names is an error of their code. -/
theorem error_of_mem_repeatedNames {earlier nodes : List ConfigNode} :
    ∀ issue ∈ Validation.repeatedNames earlier nodes,
      issue.severity = .error ∧ issue.code = .duplicateName := by
  induction nodes generalizing earlier with
  | nil => simp [Validation.repeatedNames]
  | cons node rest hypothesis =>
    intro issue member
    rw [Validation.repeatedNames] at member
    split at member
    · rcases List.mem_cons.mp member with new | old
      · rw [new]
        exact ⟨rfl, rfl⟩
      · exact hypothesis issue old
    · exact hypothesis issue member

/-- The nodes have distinct names if the report has no issue of repeated names. -/
theorem nodup_names_of_report
    (distinct : (Validation.check config catalogue).has .duplicateName = false) :
    (config.nodes.map ConfigNode.name).Nodup := by
  have none : Validation.repeatedNames [] config.nodes = [] := by
    rw [List.eq_nil_iff_forall_not_mem]
    intro issue member
    rw [Report.has, List.any_eq_false] at distinct
    have other := distinct issue (List.mem_append_left _ member)
    rw [(error_of_mem_repeatedNames issue member).2] at other
    exact other (decide_eq_true rfl)
  exact (nodup_of_repeatedNames none).1

/-- The elements have the names of nodes, in order. -/
theorem names_elementsFrom_sublist (config : ConfigTree) (catalogue : Catalogue) (start : Nat)
    (nodes : List ConfigNode) :
    ((elementsFrom config catalogue start nodes).map Element.name).Sublist
      (nodes.map ConfigNode.name) := by
  induction nodes generalizing start with
  | nil => exact List.Sublist.slnil
  | cons node rest hypothesis =>
    rw [elementsFrom]
    split
    · exact (hypothesis start).cons _
    · exact (hypothesis (start + 1)).cons_cons node.name

/-- Where nodes have distinct names, so have elements. -/
theorem nodup_names_elements (nodup : (config.nodes.map ConfigNode.name).Nodup)
    (task : Option Json) : ((ofConfig config catalogue task).elements.map Element.name).Nodup := by
  obtain ⟨change, elements, unchanged⟩ := elements_ofConfig config catalogue task
  have names : (ofConfig config catalogue task).elements.map Element.name =
      (elementsFrom config catalogue 0 config.nodes).map Element.name := by
    rw [elements, List.map_map]
    refine List.map_congr_left fun element _ => ?_
    obtain ⟨_, _, changed⟩ := unchanged element
    rw [Function.comp_apply, changed]
  rw [names]
  exact nodup.sublist (names_elementsFrom_sublist config catalogue 0 config.nodes)

/-- Where the report has no issue of repeated names, elements of one name are the same. -/
theorem eq_of_name_eq
    (distinct : (ofConfig config catalogue task).report.has .duplicateName = false)
    {first second : Element} (firstMember : first ∈ (ofConfig config catalogue task).elements)
    (secondMember : second ∈ (ofConfig config catalogue task).elements)
    (same : first.name = second.name) : first = second :=
  List.inj_on_of_nodup_map (nodup_names_elements (nodup_names_of_report distinct) task) firstMember
    secondMember same

/-- The index lists the name of an element under an object as often as the element is bound to the
object. -/
theorem getD_controlIndex (elements : List Element) (object : String) :
    (controlIndex elements).getD object [] =
      elements.flatMap fun element =>
        List.replicate (element.toNames.count object) element.name := by
  have from_any (links : List (String × String)) (index : Entries String (List String)) :
      (links.foldl (fun index link =>
        index.put link.1 (index.getD link.1 [] ++ [link.2])) index).getD object [] =
        index.getD object [] ++ (links.filter (·.1 = object)).map (·.2) := by
    induction links generalizing index with
    | nil => simp
    | cons link rest hypothesis =>
      rw [List.foldl_cons, hypothesis, Entries.getD, Entries.get?_put]
      by_cases same : link.1 = object
      · simp [same]
      · simp [same, Ne.symm same, Entries.getD]
  rw [controlIndex, from_any, List.filter_flatMap, List.map_flatMap]
  simp [Entries.getD, Entries.get?, List.filter_map, Function.comp_def, List.filter_eq]

/-- The index of controls lists under an object the names of elements bound to it. -/
theorem exists_of_mem_controlIndex {elements : List Element} {object : String}
    (listed : name ∈ (controlIndex elements).getD object []) :
    ∃ element ∈ elements, element.name = name ∧ object ∈ element.toNames := by
  rw [getD_controlIndex] at listed
  obtain ⟨element, member, inside⟩ := List.mem_flatMap.mp listed
  obtain ⟨several, same⟩ := List.mem_replicate.mp inside
  exact ⟨element, member, same.symm, List.count_pos_iff.mp (Nat.pos_of_ne_zero several)⟩

/-- A control that is found for an object and a type is the one that its name stands for, makes
results of the type and is bound to the object. -/
theorem targets_of_findControl?
    (distinct : (ofConfig config catalogue task).report.has .duplicateName = false)
    {object resultType : String} {control : Element}
    (found : (ofConfig config catalogue task).findControl? object resultType = some control) :
    (ofConfig config catalogue task).get? control.name = some control ∧
      control.resultType = some resultType ∧ control.targets object = true := by
  have made := List.find?_some found
  obtain ⟨name, listed, named⟩ := List.mem_filterMap.mp (List.mem_of_find?_eq_some found)
  have sameName := name_of_get? named
  refine ⟨sameName ▸ named, beq_iff_eq.mp made, ?_⟩
  obtain ⟨element, member, elementName, bound⟩ := exists_of_mem_controlIndex listed
  have inside : resolved task element ∈ (ofConfig config catalogue task).elements :=
    List.mem_map_of_mem member
  have same : resolved task element = control :=
    eq_of_name_eq distinct inside (mem_of_get? named) (elementName.trans sameName.symm)
  rw [Element.targets, List.contains_iff_mem, ← same]
  exact bound

end Labeling.ElementTree
