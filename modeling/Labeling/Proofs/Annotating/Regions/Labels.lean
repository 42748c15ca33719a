import Labeling.Proofs.Annotating.Regions.Placing
import Mathlib

/-!
# Areas by label

The groups of a view hold every area once under each of its labels, and under no label if it has
none (`isGrouped_labelGroups`). They are made area by area, with an index that leads from a label to
its group; what they hold on the way is told by the labels that were asked for and the areas that
were put under them (`Collects`). Declared labels come in the order of their first declaration. The
others follow in the order in which areas show them; of the labels that one area shows first, the
order is that of the alphabet and not the one in which they were chosen (`riverLake_turned`).
-/
namespace Labeling.RegionView

variable {view : RegionView} {area : Area} {label left right : String}

/-! ## First occurrences -/

/-- The texts of a list, each where it first stands. -/
def distinct (texts : List String) : List String :=
  texts.foldl (fun before text => if text ∈ before then before else before ++ [text]) []

/-- One more text is left out if it stands before. -/
theorem distinct_append_singleton (texts : List String) (text : String) :
    distinct (texts ++ [text]) =
      if text ∈ distinct texts then distinct texts else distinct texts ++ [text] := by
  rw [distinct, List.foldl_append]
  rfl

/-- No text is lost. -/
theorem mem_distinct {texts : List String} {text : String} :
    text ∈ distinct texts ↔ text ∈ texts := by
  induction texts using List.reverseRecOn with
  | nil => rfl
  | append_singleton texts last hypothesis =>
    rw [distinct_append_singleton, List.mem_append, List.mem_singleton, ← hypothesis]
    split
    · rename_i there
      constructor
      · exact Or.inl
      · rintro (before | rfl)
        · exact before
        · exact there
    · rw [List.mem_append, List.mem_singleton]

/-- The texts are in the order in which they first stand. -/
theorem pairwise_distinct (texts : List String) :
    (distinct texts).Pairwise fun left right => texts.idxOf left < texts.idxOf right := by
  induction texts using List.reverseRecOn with
  | nil => exact List.Pairwise.nil
  | append_singleton texts last hypothesis =>
    have same {text : String} (member : text ∈ distinct texts) :
        (texts ++ [last]).idxOf text = texts.idxOf text :=
      List.idxOf_append_of_mem (mem_distinct.mp member)
    have before : (distinct texts).Pairwise fun left right =>
        (texts ++ [last]).idxOf left < (texts ++ [last]).idxOf right := by
      refine hypothesis.imp_of_mem fun leftMember rightMember less => ?_
      rwa [same leftMember, same rightMember]
    rw [distinct_append_singleton]
    split
    · exact before
    · rename_i new
      refine List.pairwise_append.mpr ⟨before, List.pairwise_singleton _ _, ?_⟩
      intro text member other equal
      rw [List.mem_singleton.mp equal, same member,
        List.idxOf_append_of_notMem (mt mem_distinct.mpr new), List.idxOf_cons_self]
      have there := List.idxOf_lt_length_iff.mpr (mem_distinct.mp member)
      omega

/-- No text stands twice. -/
theorem nodup_distinct (texts : List String) : (distinct texts).Nodup := by
  refine (pairwise_distinct texts).imp fun less same => ?_
  rw [same] at less
  exact Nat.lt_irrefl _ less

/-! ## Groups that are being made -/

/-- The areas that stand beside a label. -/
def under (pairs : List (String × Area)) (label : String) : List Area :=
  (pairs.filter (·.1 = label)).map Prod.snd

/-- Beside one label there is one more area. -/
theorem under_append_singleton (pairs : List (String × Area)) (label other : String)
    (area : Area) : under (pairs ++ [(label, area)]) other =
      if other = label then under pairs other ++ [area] else under pairs other := by
  by_cases same : other = label
  · simp [under, same]
  · simp [under, same, Ne.symm same]

/-- Where a text stands once, a change at its place is a change at the text. -/
theorem modify_idxOf {α : Type} {texts : List String} {text : String} (nodup : texts.Nodup)
    (member : text ∈ texts) (make : String → α) (change : α → α) :
    (texts.map make).modify (texts.idxOf text) change =
      texts.map fun other => if other = text then change (make other) else make other := by
  refine List.ext_getElem (by simp) fun place listed inside => ?_
  have there : place < texts.length := by rwa [List.length_map] at inside
  have here : texts.idxOf text = place ↔ texts[place] = text := by
    constructor
    · rintro rfl
      exact List.getElem_idxOf _
    · rintro rfl
      exact nodup.idxOf_getElem place there
  simp only [List.getElem_modify, List.getElem_map, here]

/-- What groups that are being made hold, once they were asked for labels, and some areas were put
under them. -/
structure Collects (grouping : Grouping) (asked : List String) (pairs : List (String × Area))
    (bare : List Area) : Prop where
  /-- There is a group of each label, in the order in which they were asked for. -/
  groups : grouping.groups = (distinct asked).map fun label => ⟨some label, under pairs label⟩
  /-- The index leads to the group of a label. -/
  index : ∀ label, grouping.index.get? label =
    if label ∈ distinct asked then some ((distinct asked).idxOf label) else none
  /-- The areas were put under labels that were asked for. -/
  asked : ∀ pair ∈ pairs, pair.1 ∈ asked
  /-- Other areas have no label. -/
  unlabeled : grouping.unlabeled = bare

namespace Collects

variable {grouping : Grouping} {asked : List String} {pairs : List (String × Area)}
variable {bare : List Area}

/-- Nothing was put under a label that was not asked for. -/
theorem under_eq_nil (collects : Collects grouping asked pairs bare)
    (new : label ∉ distinct asked) : under pairs label = [] := by
  rw [under, List.map_eq_nil_iff, List.filter_eq_nil_iff]
  intro pair member same
  refine new (mem_distinct.mpr ?_)
  rw [← of_decide_eq_true same]
  exact collects.asked pair member

/-- One more label is asked for, and its group is found. -/
theorem slot (collects : Collects grouping asked pairs bare) (label : String) :
    Collects (grouping.slot label).1 (asked ++ [label]) pairs bare ∧
      (grouping.slot label).2 = (distinct (asked ++ [label])).idxOf label := by
  have stillAsked (pair : String × Area) (member : pair ∈ pairs) : pair.1 ∈ asked ++ [label] :=
    List.mem_append_left _ (collects.asked pair member)
  have found := collects.index label
  rw [Grouping.slot]
  by_cases there : label ∈ distinct asked
  · rw [if_pos there] at found
    have same : distinct (asked ++ [label]) = distinct asked := by
      rw [distinct_append_singleton, if_pos there]
    rw [found]
    refine ⟨⟨?_, ?_, stillAsked, collects.unlabeled⟩, ?_⟩
    · rw [same]
      exact collects.groups
    · rw [same]
      exact collects.index
    · rw [same]
  · rw [if_neg there] at found
    have more : distinct (asked ++ [label]) = distinct asked ++ [label] := by
      rw [distinct_append_singleton, if_neg there]
    have place : grouping.groups.length = (distinct (asked ++ [label])).idxOf label := by
      rw [more, List.idxOf_append_of_notMem there, List.idxOf_cons_self, collects.groups,
        List.length_map, Nat.add_zero]
    rw [found]
    refine ⟨⟨?_, fun other => ?_, stillAsked, collects.unlabeled⟩, place⟩
    · rw [more, List.map_append, List.map_singleton, collects.under_eq_nil there, collects.groups]
    · dsimp only
      rw [Entries.get?_put]
      by_cases same : other = label
      · subst same
        rw [if_pos rfl, if_pos (by rw [more]; simp), place]
      · rw [if_neg same, collects.index, more]
        by_cases listed : other ∈ distinct asked
        · rw [if_pos listed, if_pos (List.mem_append_left _ listed),
            List.idxOf_append_of_mem listed]
        · rw [if_neg listed, if_neg (by simp [listed, same])]

/-- One more area is put under a label. -/
theorem addUnder (collects : Collects grouping asked pairs bare) (area : Area) (label : String) :
    Collects (grouping.addUnder area label) (asked ++ [label]) (pairs ++ [(label, area)]) bare := by
  obtain ⟨found, place⟩ := collects.slot label
  have listed : label ∈ distinct (asked ++ [label]) :=
    mem_distinct.mpr (List.mem_append_right _ (List.mem_singleton_self label))
  refine ⟨?_, found.index, ?_, found.unlabeled⟩
  · show (grouping.slot label).1.groups.modify (grouping.slot label).2 _ = _
    rw [place, found.groups, modify_idxOf (nodup_distinct _) listed]
    refine List.map_congr_left fun other _ => ?_
    rw [under_append_singleton]
    split
    · rfl
    · rfl
  · intro pair member
    rcases List.mem_append.mp member with before | last
    · exact found.asked pair before
    · rw [List.mem_singleton.mp last]
      exact List.mem_append_right _ (List.mem_singleton_self label)

/-- Labels are asked for in a row. -/
theorem declared (labels : List String) : Collects (.declared labels) labels [] [] := by
  induction labels using List.reverseRecOn with
  | nil => exact ⟨rfl, fun _ => rfl, List.forall_mem_nil _, rfl⟩
  | append_singleton labels label hypothesis =>
    have step : Grouping.declared (labels ++ [label]) =
        ((Grouping.declared labels).slot label).1 := by
      rw [Grouping.declared, List.foldl_append]
      rfl
    rw [step]
    exact (hypothesis.slot label).1

/-- An area is put under each of its labels, or beside them. -/
theorem add (collects : Collects grouping asked pairs bare) (area : Area) (labels : List String) :
    Collects (grouping.add area labels) (asked ++ labels) (pairs ++ labels.map (·, area))
      (bare ++ [area].filter fun _ => labels.isEmpty) := by
  cases labels with
  | nil =>
    simp only [List.append_nil, List.map_nil]
    exact ⟨collects.groups, collects.index, collects.asked,
      congrArg (· ++ [area]) collects.unlabeled⟩
  | cons first rest =>
    have each (labels : List String) {grouping : Grouping} {asked : List String}
        {pairs : List (String × Area)} (collects : Collects grouping asked pairs bare) :
        Collects (labels.foldl (fun grouping label => grouping.addUnder area label) grouping)
          (asked ++ labels) (pairs ++ labels.map (·, area)) bare := by
      induction labels generalizing grouping asked pairs with
      | nil => simpa using collects
      | cons label rest hypothesis =>
        have step := hypothesis (collects.addUnder area label)
        rwa [List.append_assoc, List.append_assoc] at step
    have none : [area].filter (fun _ => (first :: rest).isEmpty) = [] := rfl
    rw [none, List.append_nil]
    exact each (first :: rest) collects

/-- Areas are put under their labels one after the other. -/
theorem addAll (collects : Collects grouping asked pairs bare) (areas : List Area)
    (labels : Area → List String) :
    Collects (areas.foldl (fun grouping area => grouping.add area (labels area)) grouping)
      (asked ++ areas.flatMap labels)
      (pairs ++ areas.flatMap fun area => (labels area).map (·, area))
      (bare ++ areas.filter fun area => (labels area).isEmpty) := by
  induction areas generalizing grouping asked pairs bare with
  | nil => simpa using collects
  | cons area rest hypothesis =>
    have step := hypothesis (collects.add area (labels area))
    rw [List.append_assoc, List.append_assoc, List.append_assoc] at step
    have first : (area :: rest).filter (fun area => (labels area).isEmpty) =
        ([area].filter fun _ => (labels area).isEmpty) ++
          rest.filter fun area => (labels area).isEmpty := List.filter_append [area] rest
    rw [first]
    exact step

end Collects

/-! ## Labels of areas -/

/-- The labels that were chosen for an area, by any of its labels controls. -/
def chosen (view : RegionView) (area : Area) : List String :=
  (area.selectedLabels view.tree).map Prod.snd

/-- The labels of an area are those that were chosen for it. -/
theorem mem_labelsOf : label ∈ view.labelsOf area ↔ label ∈ view.chosen area := by
  rw [labelsOf, Entries.mem_keys_ofList, chosen, Entries.keys, List.map_map]
  rfl

/-- An area has no label if none was chosen for it. -/
theorem labelsOf_eq_nil_iff : view.labelsOf area = [] ↔ view.chosen area = [] := by
  simp only [List.eq_nil_iff_forall_not_mem, mem_labelsOf]

/-- The labels of an area are in alphabetical order. -/
theorem sorted_labelsOf (view : RegionView) (area : Area) :
    (view.labelsOf area).Pairwise (· < ·) := by
  rw [labelsOf, Entries.keys, List.pairwise_map]
  exact Entries.sorted_ofList _

/-! ## Order of labels -/

/-- The place of the first area of a label, in display order. -/
def firstPlace (view : RegionView) (label : String) : Nat :=
  view.sorted.findIdx fun area => label ∈ view.chosen area

/-- Which label comes before which among the groups; the areas without a label come under none. -/
inductive ComesBefore (view : RegionView) : Option String → Option String → Prop
  /-- A declared label comes before those that are declared later or not at all. -/
  | declared {left right : String}
    (earlier : (declaredLabels view.tree).idxOf left < (declaredLabels view.tree).idxOf right) :
    ComesBefore view (some left) (some right)
  /-- Of two other labels, the one that is first shown by an earlier area comes first. -/
  | shown {left right : String} (leftOther : left ∉ declaredLabels view.tree)
    (rightOther : right ∉ declaredLabels view.tree)
    (earlier : view.firstPlace left < view.firstPlace right) :
    ComesBefore view (some left) (some right)
  /-- Labels that one area shows first are in alphabetical order. -/
  | together {left right : String} (leftOther : left ∉ declaredLabels view.tree)
    (rightOther : right ∉ declaredLabels view.tree)
    (same : view.firstPlace left = view.firstPlace right) (less : left < right) :
    ComesBefore view (some left) (some right)
  /-- Areas without a label come last. -/
  | unlabeled {left : String} : ComesBefore view (some left) none

/-- In a sorted list what stands before is less. -/
theorem lt_of_idxOf_lt {texts : List String} (sorted : texts.Pairwise (· < ·))
    (member : right ∈ texts) (before : texts.idxOf left < texts.idxOf right) : left < right := by
  have there := List.idxOf_lt_length_iff.mpr member
  have less := List.pairwise_iff_getElem.mp sorted _ _ (before.trans there) there before
  rwa [List.getElem_idxOf, List.getElem_idxOf] at less

/-- Of two labels that are shown by areas the one that is shown first stands first, and if one area
is the first to show both, it is the lesser one. -/
theorem firstPlace_of_idxOf_lt {areas : List Area}
    (before : (areas.flatMap view.labelsOf).idxOf left <
      (areas.flatMap view.labelsOf).idxOf right) :
    let place (label : String) := areas.findIdx fun area => label ∈ view.chosen area
    place left < place right ∨ place left = place right ∧ left < right := by
  induction areas with
  | nil => exact absurd before (Nat.lt_irrefl 0)
  | cons area rest hypothesis =>
    simp only [List.flatMap_cons, List.findIdx_cons, ← mem_labelsOf] at before hypothesis ⊢
    by_cases leftHere : left ∈ view.labelsOf area
    · rw [List.idxOf_append_of_mem leftHere] at before
      by_cases rightHere : right ∈ view.labelsOf area
      · rw [List.idxOf_append_of_mem rightHere] at before
        have less := lt_of_idxOf_lt (sorted_labelsOf view area) rightHere before
        simp [leftHere, rightHere, less]
      · simp [leftHere, rightHere]
    · have rightLater : right ∉ view.labelsOf area := by
        intro rightHere
        have there := List.idxOf_lt_length_iff.mpr rightHere
        rw [List.idxOf_append_of_mem rightHere, List.idxOf_append_of_notMem leftHere] at before
        omega
      rw [List.idxOf_append_of_notMem leftHere, List.idxOf_append_of_notMem rightLater] at before
      simpa [leftHere, rightLater] using hypothesis (by omega)

/-- Of two labels that stand in this order among the declared ones and then those of the areas, the
first one comes before the other. -/
theorem comesBefore_of_idxOf_lt
    (before : (declaredLabels view.tree ++ view.sorted.flatMap view.labelsOf).idxOf left <
      (declaredLabels view.tree ++ view.sorted.flatMap view.labelsOf).idxOf right) :
    view.ComesBefore (some left) (some right) := by
  by_cases leftDeclared : left ∈ declaredLabels view.tree
  · rw [List.idxOf_append_of_mem leftDeclared] at before
    refine .declared ?_
    by_cases rightDeclared : right ∈ declaredLabels view.tree
    · rwa [List.idxOf_append_of_mem rightDeclared] at before
    · rw [List.idxOf_eq_length_iff.mpr rightDeclared]
      exact List.idxOf_lt_length_iff.mpr leftDeclared
  · have rightOther : right ∉ declaredLabels view.tree := by
      intro rightDeclared
      have there := List.idxOf_lt_length_iff.mpr rightDeclared
      rw [List.idxOf_append_of_mem rightDeclared, List.idxOf_append_of_notMem leftDeclared]
        at before
      omega
    rw [List.idxOf_append_of_notMem leftDeclared, List.idxOf_append_of_notMem rightOther] at before
    rcases firstPlace_of_idxOf_lt (Nat.add_lt_add_iff_left.mp before) with earlier | ⟨same, less⟩
    · exact .shown leftDeclared rightOther earlier
    · exact .together leftDeclared rightOther same less

/-! ## Groups -/

/-- The areas in the groups of a label. -/
def regionsUnder (groups : List LabelGroup) (label : Option String) : List Area :=
  (groups.filter (·.label = label)).flatMap LabelGroup.regions

/-- How often an area is in the groups of a label. -/
def countUnder (groups : List LabelGroup) (label : Option String) (area : Area) : Nat :=
  (regionsUnder groups label).countP (·.id = area.id)

/-- Groups of all areas by label. -/
structure IsGrouped (view : RegionView) (groups : List LabelGroup) : Prop where
  /-- No two groups have one label. -/
  distinct : (groups.map LabelGroup.label).Nodup
  /-- No group is empty. -/
  nonempty : ∀ group ∈ groups, group.regions ≠ []
  /-- The areas of a group are in display order. -/
  shown : ∀ group ∈ groups, group.regions.Sublist view.sorted
  /-- An area is once in the group of each label that was chosen for it, and in no other one. -/
  labeled : ∀ area ∈ view.areas.values, ∀ label,
    countUnder groups (some label) area = if label ∈ view.chosen area then 1 else 0
  /-- An area is once in the group without label if none was chosen for it, and else not. -/
  unlabeled : ∀ area ∈ view.areas.values,
    countUnder groups none area = if view.chosen area = [] then 1 else 0
  /-- The groups are in the order of their labels. -/
  order : (groups.map LabelGroup.label).Pairwise view.ComesBefore

/-- Leaving out empty groups leaves out no area. -/
theorem regionsUnder_filter_nonempty (groups : List LabelGroup) (label : Option String) :
    regionsUnder (groups.filter fun group => !group.regions.isEmpty) label =
      regionsUnder groups label := by
  rw [regionsUnder, regionsUnder, List.filter_comm]
  induction groups.filter (·.label = label) with
  | nil => rfl
  | cons group rest hypothesis =>
    by_cases empty : group.regions = []
    · simp [empty, hypothesis]
    · simp [empty, hypothesis]

/-- The labels that groups are made for: the declared ones and those of areas. -/
def groupLabels (view : RegionView) : List String :=
  distinct (declaredLabels view.tree ++ view.sorted.flatMap view.labelsOf)

/-- The group of a label. -/
def labeledGroup (view : RegionView) (label : String) : LabelGroup :=
  ⟨some label, view.sorted.filter fun area => (view.labelsOf area).contains label⟩

/-- The group of the areas without a label. -/
def unlabeledGroup (view : RegionView) : LabelGroup :=
  ⟨none, view.sorted.filter fun area => (view.labelsOf area).isEmpty⟩

/-- Beside a label are the areas that have it. -/
theorem under_labelsOf (view : RegionView) (areas : List Area) (label : String) :
    under (areas.flatMap fun area => (view.labelsOf area).map (·, area)) label =
      areas.filter fun area => (view.labelsOf area).contains label := by
  induction areas with
  | nil => rfl
  | cons area rest hypothesis =>
    have nodup : (view.labelsOf area).Nodup :=
      (view.sorted_labelsOf area).imp fun less => ne_of_lt less
    have once : under ((view.labelsOf area).map (·, area)) label =
        [area].filter fun area => (view.labelsOf area).contains label := by
      have kept : (view.labelsOf area).filter (· = label) =
          if label ∈ view.labelsOf area then [label] else [] := by
        rw [List.filter_eq, nodup.count]
        split <;> rfl
      rw [under, List.filter_map, List.map_map]
      show ((view.labelsOf area).filter (· = label)).map (fun _ => area) = _
      rw [kept]
      by_cases member : label ∈ view.labelsOf area
      · simp [member]
      · simp [member]
    rw [List.flatMap_cons, under, List.filter_append, List.map_append, ← under, ← under, once,
      hypothesis, ← List.filter_append]
    rfl

/-- The groups are those that are not empty. -/
theorem labelGroups_eq (view : RegionView) :
    view.labelGroups = (view.groupLabels.map view.labeledGroup ++ [view.unlabeledGroup]).filter
      fun group => !group.regions.isEmpty := by
  have collects := (Collects.declared (declaredLabels view.tree)).addAll view.sorted view.labelsOf
  have groups := collects.groups
  have unlabeled : _ = view.unlabeledGroup.regions := collects.unlabeled
  simp only [List.nil_append, under_labelsOf] at groups
  rw [labelGroups, groups, unlabeled, List.filter_append]
  cases none : view.unlabeledGroup.regions.isEmpty with
  | true =>
    rw [if_pos rfl, List.filter_singleton, none]
    exact (List.append_nil _).symm
  | false =>
    rw [if_neg Bool.false_ne_true, List.filter_singleton, none]
    rfl

/-- The labels of groups are among those that groups are made for, in the same order. -/
theorem labels_sublist (view : RegionView) :
    (view.labelGroups.map LabelGroup.label).Sublist (view.groupLabels.map some ++ [none]) := by
  have every : (view.groupLabels.map view.labeledGroup ++ [view.unlabeledGroup]).map
      LabelGroup.label = view.groupLabels.map some ++ [none] := by
    rw [List.map_append, List.map_map]
    rfl
  rw [labelGroups_eq, ← every]
  exact List.filter_sublist.map LabelGroup.label

/-- The labels that groups are made for come in their order. -/
theorem pairwise_groupLabels (view : RegionView) :
    (view.groupLabels.map some ++ [none]).Pairwise view.ComesBefore := by
  refine List.pairwise_append.mpr ⟨?_, List.pairwise_singleton _ _, ?_⟩
  · rw [List.pairwise_map]
    exact (pairwise_distinct _).imp comesBefore_of_idxOf_lt
  · intro label member other last
    obtain ⟨text, -, rfl⟩ := List.mem_map.mp member
    rw [List.mem_singleton.mp last]
    exact .unlabeled

/-- No label has two groups. -/
theorem nodup_groupLabels (view : RegionView) : view.groupLabels.Nodup := nodup_distinct _

/-- Under a label are the areas that have it, in display order. -/
theorem regionsUnder_some (view : RegionView) (label : String) :
    regionsUnder view.labelGroups (some label) =
      view.sorted.filter fun area => label ∈ view.chosen area := by
  have once : view.groupLabels.filter (fun other => some other = some label) =
      if label ∈ view.groupLabels then [label] else [] := by
    simp only [Option.some.injEq, List.filter_eq, view.nodup_groupLabels.count]
    split <;> rfl
  have listed : regionsUnder view.labelGroups (some label) =
      (if label ∈ view.groupLabels then [label] else []).flatMap fun other =>
        (view.labeledGroup other).regions := by
    rw [labelGroups_eq, regionsUnder_filter_nonempty, ← once]
    simp [regionsUnder, List.filter_map, List.flatMap_map, labeledGroup, unlabeledGroup,
      Function.comp_def]
  rw [listed]
  split
  · simp [labeledGroup, ← mem_labelsOf]
  · rename_i absent
    symm
    rw [List.flatMap_nil, List.filter_eq_nil_iff]
    intro area member chosen
    refine absent (mem_distinct.mpr (List.mem_append_right _ (List.mem_flatMap.mpr
      ⟨area, member, mem_labelsOf.mpr (of_decide_eq_true chosen)⟩)))

/-- Under no label are the areas that have none, in display order. -/
theorem regionsUnder_none (view : RegionView) :
    regionsUnder view.labelGroups none = view.sorted.filter fun area => view.chosen area = [] := by
  have bare : regionsUnder view.labelGroups none = view.unlabeledGroup.regions := by
    rw [labelGroups_eq, regionsUnder_filter_nonempty]
    simp [regionsUnder, List.filter_map, labeledGroup, unlabeledGroup, Function.comp_def]
  rw [bare]
  refine List.filter_congr fun area _ => ?_
  rw [Bool.eq_iff_iff, List.isEmpty_iff, labelsOf_eq_nil_iff, decide_eq_true_eq]

/-- Of the shown areas that meet a condition one is the given area, if that meets it. -/
theorem countP_filter_sorted (byId : view.areas.ById) (member : area ∈ view.areas.values)
    (condition : Area → Bool) :
    (view.sorted.filter condition).countP (·.id = area.id) = if condition area then 1 else 0 := by
  have same (other : Area) (listed : other ∈ view.sorted) :
      (decide (other.id = area.id) && condition other) =
        (decide (other.id = area.id) && condition area) := by
    by_cases equal : other.id = area.id
    · rw [byId.eq_of_id_eq (mem_sorted.mp listed) member equal]
    · simp [equal]
  have once : view.sorted.countP (·.id = area.id) = 1 := by
    have ids : (view.sorted.map Area.id).Nodup :=
      (view.sorted_perm.map Area.id).nodup_iff.mpr byId.nodup_ids
    have listed := List.mem_map_of_mem (f := Area.id) (mem_sorted.mpr member)
    have counted := List.count_eq_one_of_mem ids listed
    rwa [List.count_eq_countP, List.countP_map] at counted
  rw [List.countP_filter, List.countP_congr fun other listed => by rw [same other listed]]
  cases condition area with
  | false => simp
  | true => simpa using once

/-- The areas by label are all there, each under its labels, and the groups are in their order. -/
theorem isGrouped_labelGroups (view : RegionView) (byId : view.areas.ById) :
    view.IsGrouped view.labelGroups := by
  refine ⟨?_, ?_, ?_, ?_, ?_, view.pairwise_groupLabels.sublist view.labels_sublist⟩
  · have whole : (view.groupLabels.map some ++ [none]).Nodup := by
      simpa [List.nodup_append] using view.nodup_groupLabels.map (Option.some_injective String)
    exact whole.sublist view.labels_sublist
  · intro group member
    rw [labelGroups_eq] at member
    simpa using (List.mem_filter.mp member).2
  · intro group member
    rw [labelGroups_eq] at member
    rcases List.mem_append.mp (List.mem_filter.mp member).1 with labeled | last
    · obtain ⟨label, -, rfl⟩ := List.mem_map.mp labeled
      exact List.filter_sublist
    · rw [List.mem_singleton.mp last]
      exact List.filter_sublist
  · intro area member label
    rw [countUnder, regionsUnder_some, countP_filter_sorted byId member]
    simp
  · intro area member
    rw [countUnder, regionsUnder_none, countP_filter_sorted byId member]
    simp

/-! ## Labels of places -/

/-- A text with two controls that label it; both declare the label of a city. -/
def placeConfig : ConfigTree where
  nodes := Block.nodesAll none 0 [
    .mk { tagName := "Text", attributes := [("name", "text"), ("value", "$text")] } [],
    .mk { tagName := "Labels", attributes := [("name", "place"), ("toname", "text")] } [
      .mk { tagName := "Label", attributes := [("value", "City")] } [],
      .mk { tagName := "Label", attributes := [("value", "Country")] } []],
    .mk { tagName := "Labels", attributes := [("name", "goal"), ("toname", "text")] } [
      .mk { tagName := "Label", attributes := [("value", "Harbour")] } [],
      .mk { tagName := "Label", attributes := [("value", "City")] } []]]

/-- A span with labels of some controls. -/
def labeledSpan (raw : String) (labels : List (String × List String)) (seq : Nat) : Area where
  id := ⟨raw, "1"⟩
  object := "text"
  shape := {}
  results := labels.map fun entry =>
    { fromName := entry.1, toName := "text", resultType := "labels",
      value := [("labels", .array (entry.2.map Json.string))] }
  seq := seq

/-- The first span, with labels that are not declared. -/
def riverSpan : Area := labeledSpan "b" [("place", ["River", "Lake", "Lake"])] 0

/-- The second span, with labels of both controls. -/
def countrySpan : Area :=
  labeledSpan "a" [("place", ["Country"]), ("goal", ["Harbour", "River"])] 1

/-- The third span, without a label. -/
def bareSpan : Area := labeledSpan "c" [("goal", [])] 2

/-- The last span, with one label of both controls. -/
def citySpan : Area := labeledSpan "d" [("place", ["City"]), ("goal", ["City", "Bay"])] 3

/-- The spans by their ids. -/
def placeSpans : Areas :=
  [countrySpan, riverSpan, bareSpan, citySpan].map fun span => (span.id, span)

/-- The spans are shown in the order of creation. -/
def placeView : RegionView where
  areas := placeSpans
  tree := ElementTree.ofConfig placeConfig .standard none

/-- The order in which the spans are shown. -/
theorem sorted_placeView :
    placeView.sorted = [riverSpan, countrySpan, bareSpan, citySpan] := by
  have created : placeSpans.bySeq = [riverSpan, countrySpan, bareSpan, citySpan] := by
    cbv
  exact created

/-- The groups of the spans. -/
theorem summary_placeView :
    placeView.labelGroups.map (fun group => (group.label, group.regions.map (·.id.raw))) =
      [(some "City", ["d"]), (some "Country", ["a"]), (some "Harbour", ["a"]),
        (some "Lake", ["b"]), (some "River", ["b", "a"]), (some "Bay", ["d"]), (none, ["c"])] := by
  have labeled : placeView.labeledGroup = fun label => ⟨some label,
      [riverSpan, countrySpan, bareSpan, citySpan].filter fun area =>
        (placeView.labelsOf area).contains label⟩ := by
    funext label
    rw [labeledGroup, sorted_placeView]
  rw [labelGroups_eq, groupLabels, unlabeledGroup, labeled, sorted_placeView]
  decide +kernel

/-- The groups of the spans are their groups by label. -/
theorem placeView_isGrouped :
    placeView.areas.ById ∧ placeView.IsGrouped placeView.labelGroups ∧
      placeView.labelGroups.map (fun group => (group.label, group.regions.map (·.id.raw))) =
        [(some "City", ["d"]), (some "Country", ["a"]), (some "Harbour", ["a"]),
          (some "Lake", ["b"]), (some "River", ["b", "a"]), (some "Bay", ["d"]),
          (none, ["c"])] := by
  have byId : placeView.areas.ById := ⟨by decide, by decide⟩
  exact ⟨byId, isGrouped_labelGroups placeView byId, summary_placeView⟩

/-- Labels that are not declared are not always in the order in which the areas show them: those
that one area shows first are turned round if they were not chosen in alphabetical order. -/
theorem riverLake_turned :
    ¬ ∀ view : RegionView, view.areas.ById →
      (view.labelGroups.filterMap LabelGroup.label).Pairwise fun left right =>
        left ∉ declaredLabels view.tree → right ∉ declaredLabels view.tree →
          (view.sorted.flatMap view.chosen).idxOf left <
            (view.sorted.flatMap view.chosen).idxOf right := by
  intro ordered
  have pairs := ordered placeView ⟨by decide, by decide⟩
  have labels : placeView.labelGroups.filterMap LabelGroup.label =
      ["City", "Country", "Harbour", "Lake", "River", "Bay"] := by
    have named := congrArg (List.filterMap Prod.fst) summary_placeView
    rw [List.filterMap_map] at named
    exact named
  have declared : declaredLabels placeView.tree = ["City", "Country", "Harbour", "City"] := by
    decide +kernel
  have shown : placeView.sorted.flatMap placeView.chosen =
      ["River", "Lake", "Lake", "Country", "Harbour", "River", "City", "City", "Bay"] := by
    rw [sorted_placeView]
    decide +kernel
  rw [labels, declared, shown] at pairs
  exact absurd pairs (by decide)

end Labeling.RegionView
