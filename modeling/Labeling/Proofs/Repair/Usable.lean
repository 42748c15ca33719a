import Labeling.Proofs.Binding.Controls
import Labeling.Proofs.Repair.Idempotence

/-!
# Labels results after repair

Where no two elements have one name, a labels result that repair keeps can be used: its control is
bound to its object and makes results of its type. Which control this is follows from the stored
item alone (`Places`): the item goes to the labels control that it can use, or if there is none to
the first of its type on the object, or else to the first that labels any region (`GoesTo`). If no
labels are shown there, the item goes on as bare geometry to the first control of that type. Labels
results that have no such control are dropped, and so are other results at unknown names; all the
other items stay, in their order (`items_usable`).
-/
namespace Labeling.Repair

variable {tree : ElementTree} {item fixed : WireResult} {control : Element}

/-- The first steps keep both names of an item. -/
theorem names_prepared (item : WireResult) :
    (prepared item).fromName = item.fromName ∧ (prepared item).toName = item.toName := by
  obtain ⟨metadata, moved⟩ := moveNormalization_eq (renameLegacy item)
  rw [prepared, moved, renameLegacy]
  dsimp only
  split
  · exact ⟨rfl, rfl⟩
  · exact ⟨rfl, rfl⟩

/-! ## Where labels go -/

/-- A labels item can use a control: it is what the item's name stands for, a labels control, and
bound to the item's object. -/
def CanUse (tree : ElementTree) (item : WireResult) (control : Element) : Prop :=
  tree.get? item.fromName = some control ∧ control.isLabels = true ∧
    control.targets item.toName = true

/-- The labels control that a labels item goes to. -/
inductive GoesTo (tree : ElementTree) (item : WireResult) (control : Element) : Prop
  /-- The one that it can use. -/
  | own (usable : CanUse tree item control)
  /-- If it can use none, the first one of its type on its object. -/
  | sameType (unusable : ∀ other, ¬ CanUse tree item other)
      (first : tree.firstControl? item.toName item.resultType = some control)
  /-- If it can use none and there is none of its type, the first one that labels any region. -/
  | generic (unusable : ∀ other, ¬ CanUse tree item other)
      (absent : tree.firstControl? item.toName item.resultType = none)
      (first : tree.firstControl? item.toName genericType = some control)

/-- Labels are shown at a control that allows regions without labels, or if there are some: under
the type of the item, or else under that of the control. -/
def ShowsAt (item : WireResult) (control : Element) : Prop :=
  control.allowEmpty = true ∨ ∃ type, control.resultType = some type ∧
    isEmptyPayload ((item.value.get? item.resultType).or (item.value.get? type)) = false

/-- The control that a labels item is kept at. -/
inductive Places (tree : ElementTree) (item : WireResult) (control : Element) : Prop
  /-- The labels control that it goes to, where its labels are shown. -/
  | labels (goes : GoesTo tree item control) (shown : ShowsAt item control)
  /-- If its labels are shown at none, the first control of its bare geometry on its object. -/
  | geometry (hidden : ∀ other, GoesTo tree item other → ¬ ShowsAt item other) (type : String)
      (stripped : geometryType item.resultType = some type)
      (first : tree.firstControl? item.toName type = some control)

/-- The labels control that is tried for a labels item. -/
def goal? (tree : ElementTree) (item : WireResult) : Option Element :=
  (labelsControl? tree item).or <|
    (tree.findControl? item.toName item.resultType).or (tree.findControl? item.toName genericType)

/-- The control that is tried is the one that the item goes to. -/
theorem goal?_eq_some (consistent : tree.Consistent) :
    goal? tree item = some control ↔ GoesTo tree item control := by
  rw [goal?, consistent.first, consistent.first]
  cases own : labelsControl? tree item with
  | some other =>
    have usable : CanUse tree item other := labelsControl?_eq_some.mp own
    rw [Option.some_or, Option.some.injEq]
    constructor
    · rintro rfl
      exact .own usable
    · rintro (again | ⟨unusable, -⟩ | ⟨unusable, -⟩)
      · exact Option.some.inj (usable.1.symm.trans again.1)
      · exact absurd usable (unusable other)
      · exact absurd usable (unusable other)
  | none =>
    have unusable (other : Element) : ¬ CanUse tree item other := fun usable => by
      have found := labelsControl?_eq_some.mpr usable
      rw [own] at found
      contradiction
    rw [Option.none_or, Option.or_eq_some_iff]
    constructor
    · rintro (first | ⟨absent, first⟩)
      · exact .sameType unusable first
      · exact .generic unusable absent first
    · rintro (usable | ⟨-, first⟩ | ⟨-, absent, first⟩)
      · exact absurd usable (unusable control)
      · exact Or.inl first
      · exact Or.inr ⟨absent, first⟩

/-- The control that a labels item goes to stands for its own name, makes results of a labels type,
and is bound to the object. -/
theorem goal_cases (consistent : tree.Consistent) (labels : isLabelsType item.resultType = true)
    (goal : goal? tree item = some control) :
    tree.get? control.name = some control ∧ control.isLabels = true ∧
      control.targets item.toName = true := by
  cases (goal?_eq_some consistent).mp goal with
  | own usable =>
    obtain ⟨stands, isLabels, targets⟩ := usable
    rw [(consistent.named stands).2]
    exact ⟨stands, isLabels, targets⟩
  | sameType _ first =>
    obtain ⟨member, targets, makes⟩ := ElementTree.of_firstControl? first
    refine ⟨consistent.stands member, ?_, targets⟩
    rw [Element.isLabels, (consistent.bound member targets).1, makes]
    exact labels
  | generic _ _ first =>
    obtain ⟨member, targets, makes⟩ := ElementTree.of_firstControl? first
    refine ⟨consistent.stands member, ?_, targets⟩
    rw [Element.isLabels, (consistent.bound member targets).1, makes]
    decide

/-! ## What becomes of labels items -/

/-- Under its new type a retyped item has the labels it had under its type before, or else what it
had under the new type. -/
theorem get?_retype_self (item : WireResult) (newType : String) :
    (retype item newType).value.get? newType =
      (item.value.get? item.resultType).or (item.value.get? newType) := by
  rw [retype]
  split
  · rename_i same
    rw [same, Option.or_self]
  · cases found : item.value.get? item.resultType with
    | none => rw [Option.none_or]
    | some labels => rw [Option.some_or, Entries.get?_put_self]

/-- Where a labels item goes to, it has the type of the results there, and its labels under it. -/
structure ArrivesAt (tree : ElementTree) (item : WireResult) (control : Element) : Prop where
  /-- The control is a labels control for the item that has arrived. -/
  found : labelsControl? tree (atControl tree item) = some control
  /-- It makes results of the type that the item now has. -/
  makes : control.resultType = some (atControl tree item).resultType
  /-- The object is the same. -/
  toName : (atControl tree item).toName = item.toName
  /-- The labels are those of the type before, if there were some. -/
  payload : (atControl tree item).value.get? (atControl tree item).resultType =
    (item.value.get? item.resultType).or (item.value.get? (atControl tree item).resultType)

/-- A labels item arrives at the control that it goes to. -/
theorem arrivesAt_of_goal (consistent : tree.Consistent)
    (labels : isLabelsType item.resultType = true) (goal : goal? tree item = some control) :
    ArrivesAt tree item control := by
  obtain ⟨stands, isLabels, targets⟩ := goal_cases consistent labels goal
  obtain ⟨type, makes, -⟩ := resultType_of_isLabels isLabels
  have moved : atControl tree item = retype { item with fromName := control.name } type := by
    rw [goal?] at goal
    rw [atControl]
    cases own : labelsControl? tree item with
    | some other =>
      rw [own, Option.some_or, Option.some.injEq] at goal
      have named := (consistent.named (labelsControl?_eq_some.mp own).1).2
      rw [goal] at named
      dsimp only
      rw [goal, makes, Option.getD_some, named]
    | none =>
      rw [own, Option.none_or] at goal
      dsimp only
      rw [Option.orElse_eq_orElse, Option.orElse_eq_or, goal]
      dsimp only
      rw [makes, Option.getD_some]
  obtain ⟨resultType, fromName, toName, -⟩ :=
    retype_keeps { item with fromName := control.name } type
  have payload := get?_retype_self { item with fromName := control.name } type
  rw [← moved] at resultType fromName toName payload
  refine ⟨?_, by rw [resultType, makes], toName, by rw [resultType, payload]⟩
  rw [labelsControl?_eq_some, fromName, toName]
  exact ⟨stands, isLabels, targets⟩

/-- A labels item that no control is known for stays where it is. -/
theorem atControl_of_no_goal (absent : goal? tree item = none) :
    atControl tree item = item ∧ labelsControl? tree item = none := by
  rw [goal?, Option.or_eq_none_iff] at absent
  obtain ⟨own, fallback⟩ := absent
  rw [atControl, own, Option.orElse_eq_orElse, Option.orElse_eq_or, fallback]
  exact ⟨rfl, rfl⟩

/-- The test of repair at the control where an item arrives is whether its labels are shown. -/
theorem ArrivesAt.shows_iff (arrives : ArrivesAt tree item control) :
    (!isEmptyPayload ((atControl tree item).value.get? (atControl tree item).resultType) ||
        control.allowEmpty) = true ↔ ShowsAt item control := by
  rw [Bool.or_eq_true, Bool.not_eq_true', arrives.payload]
  constructor
  · rintro (full | allows)
    · exact Or.inr ⟨_, arrives.makes, full⟩
    · exact Or.inl allows
  · rintro (allows | ⟨type, makes, full⟩)
    · exact Or.inr allows
    · rw [arrives.makes, Option.some.injEq] at makes
      exact Or.inl (makes ▸ full)

/-- A labels item is kept at the control that it goes to, if its labels are shown there. -/
theorem fixLabels?_of_shown (arrives : ArrivesAt tree item control)
    (shown : ShowsAt item control) : fixLabels? tree item = some (atControl tree item) := by
  rw [fixLabels?, arrives.found]
  exact if_pos (arrives.shows_iff.mpr shown)

/-- A labels item whose labels are shown nowhere goes on as bare geometry on its object. -/
theorem fixLabels?_of_hidden (consistent : tree.Consistent)
    (labels : isLabelsType item.resultType = true)
    (hidden : ∀ control, goal? tree item = some control → ¬ ShowsAt item control) :
    ∃ bare : WireResult, bare.toName = item.toName ∧
      fixLabels? tree item = demote? tree item.resultType bare := by
  refine ⟨{ atControl tree item with
    value := (atControl tree item).value.erase (atControl tree item).resultType }, ?_⟩
  cases goal : goal? tree item with
  | none =>
    obtain ⟨stays, none⟩ := atControl_of_no_goal goal
    rw [fixLabels?, stays, none]
    exact ⟨rfl, rfl⟩
  | some control =>
    have arrives := arrivesAt_of_goal consistent labels goal
    refine ⟨arrives.toName, ?_⟩
    rw [fixLabels?, arrives.found]
    exact if_neg fun shows => hidden control goal (arrives.shows_iff.mp shows)

/-! ## What is kept -/

/-- A labels item that is kept is at the control of its place, under the type of its results. -/
structure IsPlaced (tree : ElementTree) (item fixed : WireResult) (control : Element) : Prop where
  /-- The control is the one that the item is kept at. -/
  places : Places tree item control
  /-- Its name stands for it. -/
  stands : tree.get? fixed.fromName = some control
  /-- It is a control. -/
  isControl : control.isControl = true
  /-- It is bound to the object. -/
  targets : control.targets fixed.toName = true
  /-- It makes results of the type. -/
  makes : control.resultType = some fixed.resultType

/-- Bare geometry goes to the first control of it. -/
theorem demote?_eq_some (consistent : tree.Consistent) {type : String} {bare : WireResult} :
    demote? tree type bare = some fixed ↔
      ∃ geometry control, geometryType type = some geometry ∧
        tree.firstControl? bare.toName geometry = some control ∧
        { bare with fromName := control.name, resultType := geometry } = fixed := by
  simp only [demote?, consistent.first, Option.bind_eq_bind, Option.bind_eq_some_iff,
    Option.some.injEq, exists_and_left]

/-- A labels item that is kept keeps its object and is placed. -/
theorem isPlaced_of_fixLabels? (consistent : tree.Consistent)
    (labels : isLabelsType item.resultType = true) (kept : fixLabels? tree item = some fixed) :
    fixed.toName = item.toName ∧ ∃ control, IsPlaced tree item fixed control := by
  by_cases shown : ∃ control, goal? tree item = some control ∧ ShowsAt item control
  · obtain ⟨control, goal, shows⟩ := shown
    have arrives := arrivesAt_of_goal consistent labels goal
    rw [fixLabels?_of_shown arrives shows, Option.some.injEq] at kept
    subst kept
    obtain ⟨stands, isLabels, targets⟩ := labelsControl?_eq_some.mp arrives.found
    exact ⟨arrives.toName, control, .labels ((goal?_eq_some consistent).mp goal) shows, stands,
      (Bool.and_eq_true_iff.mp isLabels).1, targets, arrives.makes⟩
  · have hidden (control : Element) (goal : goal? tree item = some control) :
        ¬ ShowsAt item control := fun shows => shown ⟨control, goal, shows⟩
    obtain ⟨bare, toName, demoted⟩ := fixLabels?_of_hidden consistent labels hidden
    rw [demoted, demote?_eq_some consistent, toName] at kept
    obtain ⟨type, control, stripped, first, rfl⟩ := kept
    obtain ⟨member, targets, makes⟩ := ElementTree.of_firstControl? first
    refine ⟨rfl, control, .geometry ?_ type stripped first, consistent.stands member,
      (consistent.bound member targets).1, targets, makes⟩
    exact fun other goes => hidden other ((goal?_eq_some consistent).mpr goes)

/-- A labels item that has a place is kept. -/
theorem exists_fixLabels?_of_places (consistent : tree.Consistent)
    (labels : isLabelsType item.resultType = true) (places : Places tree item control) :
    ∃ fixed, fixLabels? tree item = some fixed := by
  cases places with
  | labels goes shown =>
    have goal := (goal?_eq_some consistent).mpr goes
    exact ⟨_, fixLabels?_of_shown (arrivesAt_of_goal consistent labels goal) shown⟩
  | geometry hidden type stripped first =>
    have nowhere (other : Element) (goal : goal? tree item = some other) :
        ¬ ShowsAt item other := hidden other ((goal?_eq_some consistent).mp goal)
    obtain ⟨bare, toName, demoted⟩ := fixLabels?_of_hidden consistent labels nowhere
    rw [← toName] at first
    rw [demoted]
    exact ⟨_, (demote?_eq_some consistent).mpr ⟨type, control, stripped, first, rfl⟩⟩

/-- Repair leaves a result usable: both names are known and the object is the same. A labels result
is placed, and any other one has passed the first steps only. -/
structure IsUsable (tree : ElementTree) (item fixed : WireResult) : Prop where
  /-- The object is the same. -/
  toName : fixed.toName = item.toName
  /-- The name of the control is known. -/
  knownFrom : tree.contains fixed.fromName = true
  /-- The name of the object is known. -/
  knownTo : tree.contains fixed.toName = true
  /-- A labels result is placed. -/
  labels : isLabelsType (prepared item).resultType = true →
    ∃ control, IsPlaced tree (prepared item) fixed control
  /-- Any other result has passed the first steps only. -/
  others : isLabelsType (prepared item).resultType = false → fixed = prepared item

/-- An item that repair keeps: a relation, a labels result that has a place, or any other result
whose names are known. -/
def IsKept (tree : ElementTree) : WireItem → Prop
  | .relation _ => True
  | .result item =>
    if isLabelsType (prepared item).resultType then ∃ control, Places tree (prepared item) control
    else tree.contains item.fromName = true ∧ tree.contains item.toName = true

/-- What repair makes of an item that it keeps. -/
inductive KeptAs (tree : ElementTree) : WireItem → WireItem → Prop
  /-- A relation stays as it is. -/
  | relation (item : WireRelation) : KeptAs tree (.relation item) (.relation item)
  /-- A result becomes a usable one. -/
  | result {item fixed : WireResult} (usable : IsUsable tree item fixed) :
    KeptAs tree (.result item) (.result fixed)

/-- A result that is kept is usable. -/
theorem isUsable_of_result? (consistent : tree.Consistent)
    (kept : result? tree item = some fixed) : IsUsable tree item fixed := by
  obtain ⟨cases, known⟩ := result?_cases kept
  rw [Bool.and_eq_true] at known
  rcases cases with ⟨other, unchanged⟩ | ⟨labels, found⟩
  · refine ⟨?_, known.1, known.2, fun labels => ?_, fun _ => unchanged⟩
    · rw [unchanged]
      exact (names_prepared item).2
    · rw [other] at labels
      contradiction
  · obtain ⟨toName, placed⟩ := isPlaced_of_fixLabels? consistent labels found
    refine ⟨toName.trans (names_prepared item).2, known.1, known.2, fun _ => placed, ?_⟩
    intro other
    rw [labels] at other
    contradiction

/-- The names of a placed item are known. -/
theorem known_of_isPlaced (consistent : tree.Consistent)
    (placed : IsPlaced tree item fixed control) :
    tree.contains fixed.fromName = true ∧ tree.contains fixed.toName = true := by
  obtain ⟨member, -⟩ := consistent.named placed.stands
  rw [consistent.contains fixed.fromName, placed.stands]
  exact ⟨rfl, (consistent.bound member placed.targets).2⟩

/-- Repair keeps just the items that have a place, or that need none. -/
theorem isSome_item?_iff (consistent : tree.Consistent) (item : WireItem) :
    (item? tree item).isSome = true ↔ IsKept tree item := by
  cases item with
  | relation item => exact ⟨fun _ => trivial, fun _ => rfl⟩
  | result item =>
    rw [item?, Option.isSome_map, IsKept, Option.isSome_iff_exists]
    constructor
    · rintro ⟨fixed, kept⟩
      have usable := isUsable_of_result? consistent kept
      split
      · rename_i labels
        obtain ⟨control, placed⟩ := usable.labels labels
        exact ⟨control, placed.places⟩
      · rename_i other
        have unchanged := usable.others (Bool.eq_false_iff.mpr other)
        obtain ⟨fromName, toName⟩ := names_prepared item
        rw [← fromName, ← toName, ← unchanged]
        exact ⟨usable.knownFrom, usable.knownTo⟩
    · intro keeps
      rw [result?_eq]
      split at keeps
      · rename_i labels
        obtain ⟨control, places⟩ := keeps
        obtain ⟨fixed, found⟩ := exists_fixLabels?_of_places consistent labels places
        obtain ⟨-, last, placed⟩ := isPlaced_of_fixLabels? consistent labels found
        have known := Bool.and_eq_true_iff.mpr (known_of_isPlaced consistent placed)
        rw [if_pos labels, found]
        exact ⟨fixed, known?_eq_some.mpr ⟨known, rfl⟩⟩
      · rename_i other
        obtain ⟨fromName, toName⟩ := names_prepared item
        rw [← fromName, ← toName] at keeps
        rw [if_neg other]
        exact ⟨prepared item, known?_eq_some.mpr ⟨Bool.and_eq_true_iff.mpr keeps, rfl⟩⟩

/-- A partial map takes the members that it is defined on, in their order, each to what it is made
into. -/
theorem forall₂_filterMap {α β : Type} {change : α → Option β} {relation : α → β → Prop}
    (made : ∀ value changed, change value = some changed → relation value changed)
    (values : List α) :
    List.Forall₂ relation (values.filter fun value => (change value).isSome)
      (values.filterMap change) := by
  induction values with
  | nil => exact .nil
  | cons value rest hypothesis =>
    cases found : change value with
    | none =>
      rw [List.filterMap_cons_none found, List.filter_cons_of_neg (by simp [found])]
      exact hypothesis
    | some changed =>
      rw [List.filterMap_cons_some found, List.filter_cons_of_pos (by simp [found])]
      exact .cons (made value changed found) hypothesis

/-- Repair leaves labels results usable. Of a list of items it keeps the relations, the labels
results that have a place, and the other results whose names are known, all in their order.
Relations stay as they are, and a labels result is then at the control of its place. -/
theorem items_usable {config : ConfigTree} {catalogue : Catalogue} {task : Option Json}
    (distinct : ((ElementTree.ofConfig config catalogue task).elements.map Element.name).Nodup)
    (contents : List WireItem) :
    let tree := ElementTree.ofConfig config catalogue task
    ∃ keeps : WireItem → Bool, (∀ item, keeps item = true ↔ IsKept tree item) ∧
      List.Forall₂ (KeptAs tree) (contents.filter keeps) (items tree contents) := by
  intro tree
  have consistent : tree.Consistent := ElementTree.consistent_ofConfig distinct
  refine ⟨fun item => (item? tree item).isSome, isSome_item?_iff consistent, ?_⟩
  refine forall₂_filterMap (fun item fixed made => ?_) contents
  cases item with
  | relation item =>
    cases made
    exact .relation item
  | result item =>
    obtain ⟨result, kept, rfl⟩ := Option.map_eq_some_iff.mp made
    exact .result (isUsable_of_result? consistent kept)

/-- A photo with a control for boxes, and controls that label boxes and any region. -/
def photoConfig : ConfigTree where
  nodes := Block.nodesAll none 0 [
    .mk { tagName := "Image", attributes := [("name", "photo"), ("value", "$photo")] } [],
    .mk { tagName := "Rectangle", attributes := [("name", "box"), ("toname", "photo")] } [],
    .mk { tagName := "RectangleLabels", attributes := [("name", "car"), ("toname", "photo")] } [],
    .mk { tagName := "Labels", attributes := [("name", "label"), ("toname", "photo")] } []]

/-- Boxes and an ellipse of controls that are gone, a box at the control of any region, a box
without labels, a relation, and a box on an object that is gone. -/
def photoItems : List WireItem := [
  .result { id := some "a", fromName := "cars", toName := "photo", resultType := "rectanglelabels",
            value := [("rectanglelabels", .array [.string "Car"])] },
  .result { id := some "b", fromName := "faces", toName := "photo", resultType := "ellipselabels",
            value := [("ellipselabels", .array [.string "Face"])] },
  .result { id := some "c", fromName := "label", toName := "photo",
            resultType := "rectanglelabels",
            value := [("rectanglelabels", .array [.string "Car"])] },
  .result { id := some "d", fromName := "car", toName := "photo", resultType := "rectanglelabels" },
  .relation { fromId := "a", toId := "b" },
  .result { id := some "e", fromName := "car", toName := "page", resultType := "rectanglelabels",
            value := [("rectanglelabels", .array [.string "Car"])] }]

set_option maxRecDepth 10000 in
/-- Results on a photo go to the control of their type, to the one of any region, or to the one of
bare boxes. -/
theorem photoItems_usable :
    let tree := ElementTree.ofConfig photoConfig .standard none
    (tree.elements.map Element.name).Nodup ∧
      (WireItem.results (items tree photoItems)).map (fun item =>
          (item.id, item.fromName, item.resultType)) =
        [(some "a", "car", "rectanglelabels"), (some "b", "label", "labels"),
          (some "c", "label", "labels"), (some "d", "box", "rectangle")] ∧
      (WireItem.relations (items tree photoItems)).length = 1 ∧
      ∃ keeps : WireItem → Bool, (∀ item, keeps item = true ↔ IsKept tree item) ∧
        List.Forall₂ (KeptAs tree) (photoItems.filter keeps) (items tree photoItems) := by
  intro tree
  have distinct : (tree.elements.map Element.name).Nodup := by decide +kernel
  exact ⟨distinct, by decide +kernel, by decide +kernel, items_usable distinct photoItems⟩

end Labeling.Repair
