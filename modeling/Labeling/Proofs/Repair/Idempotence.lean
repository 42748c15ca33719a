import Labeling.Config.Numbering
import Labeling.Proofs.Repair

/-!
# Repairing twice

Repair gives back an item that it has kept just when the item, if it carries labels, shows them at
a labels control of its own type that is bound to its object (`result?_of_steady`,
`steady_of_result?`). Every tree is considered, also one with repeated names or with tags of its
own. An item may be kept without showing labels in one way only: its labels are dropped, and what is
left as the type of its bare geometry is again a type of labels. Apart from this, and from controls
that make results of the former type, repairing twice is repairing once (`items_idempotent_iff`).
-/
namespace Labeling.Repair

variable {tree : ElementTree} {item fixed : WireResult}

/-! ## Lists of kept items -/

/-- A partial map gives a list back just when it gives back every member. -/
theorem filterMap_eq_self_iff {α : Type} {change : α → Option α} {values : List α} :
    values.filterMap change = values ↔ ∀ value ∈ values, change value = some value := by
  induction values with
  | nil => simp
  | cons value rest hypothesis =>
    rw [List.forall_mem_cons, ← hypothesis]
    cases found : change value with
    | none =>
      have shorter := List.length_filterMap_le change rest
      rw [List.filterMap_cons_none found]
      constructor
      · intro same
        rw [same, List.length_cons] at shorter
        omega
      · rintro ⟨absurd, -⟩
        contradiction
    | some changed =>
      rw [List.filterMap_cons_some found, List.cons.injEq, Option.some.injEq]

/-! ## The steps of repair in any tree -/

/-- A retyped item is of the new type and keeps its names and its further data. -/
theorem retype_keeps (item : WireResult) (newType : String) :
    (retype item newType).resultType = newType ∧
      (retype item newType).fromName = item.fromName ∧
      (retype item newType).toName = item.toName ∧
      (retype item newType).extra = item.extra := by
  rw [retype]
  split
  · rename_i same
    exact ⟨same, rfl, rfl, rfl⟩
  · split
    · exact ⟨rfl, rfl, rfl, rfl⟩
    · exact ⟨rfl, rfl, rfl, rfl⟩

/-- Retyping keeps a value parsed. -/
theorem parsed_retype (parsed : item.Parsed) (newType : String) :
    (retype item newType).Parsed := by
  rw [retype]
  split
  · exact parsed
  · split
    · exact parsed
    · rename_i labels found
      exact parsed_put (parsed_erase parsed item.resultType) newType
        (parsed_of_get? parsed found)

section Named

variable (named : ∀ name element, tree.get? name = some element → element.name = name)
include named

/-- A control that is found for an object is what its name stands for, and makes results of the
type, even where names are repeated. -/
theorem get?_of_findControl? {object type : String} {control : Element}
    (found : tree.findControl? object type = some control) :
    tree.get? control.name = some control ∧ control.resultType = some type := by
  have makes := List.find?_some found
  obtain ⟨name, -, stands⟩ := List.mem_filterMap.mp (List.mem_of_find?_eq_some found)
  rw [named name control stands]
  exact ⟨stands, beq_iff_eq.mp makes⟩

/-- Labels items stay at their names, where no labels control is known for them, or they go to a
control and are of the type of its results. -/
theorem atControl_cases (item : WireResult) :
    (labelsControl? tree item = none ∧ atControl tree item = item) ∨
      ∃ fromName control type, tree.get? fromName = some control ∧
        control.resultType = some type ∧
        atControl tree item = retype { item with fromName := fromName } type := by
  rw [atControl]
  split
  · rename_i control found
    obtain ⟨stands, labels, -⟩ := labelsControl?_eq_some.mp found
    obtain ⟨type, makes, -⟩ := resultType_of_isLabels labels
    rw [makes, Option.getD_some]
    exact Or.inr ⟨item.fromName, control, type, stands, makes, rfl⟩
  · rename_i none
    dsimp only
    split
    · exact Or.inl ⟨none, rfl⟩
    · rename_i control fallback
      have found : ∃ type, tree.findControl? item.toName type = some control := by
        rw [Option.orElse_eq_orElse, Option.orElse_eq_or, Option.or_eq_some_iff] at fallback
        rcases fallback with first | ⟨-, second⟩
        · exact ⟨_, first⟩
        · exact ⟨_, second⟩
      obtain ⟨type, found⟩ := found
      obtain ⟨stands, makes⟩ := get?_of_findControl? named found
      rw [makes, Option.getD_some]
      exact Or.inr ⟨control.name, control, type, stands, makes, rfl⟩

/-- A labels item that shows its labels at a labels control of its type, bound to its object. A
control that allows regions without labels shows them always. -/
def Shown (tree : ElementTree) (item : WireResult) : Prop :=
  ∃ control, labelsControl? tree item = some control ∧
    control.resultType = some item.resultType ∧
    (isEmptyPayload (item.value.get? item.resultType) = false ∨ control.allowEmpty = true)

/-- Where a labels item goes to, a labels control there makes results of its type. -/
theorem resultType_of_atControl {control : Element}
    (found : labelsControl? tree (atControl tree item) = some control) :
    control.resultType = some (atControl tree item).resultType := by
  rcases atControl_cases named item with
    ⟨none, same⟩ | ⟨fromName, other, type, stands, makes, moved⟩
  · rw [same, none] at found
    contradiction
  · obtain ⟨resultType, sameName, -, -⟩ := retype_keeps { item with fromName := fromName } type
    rw [moved] at found ⊢
    obtain ⟨alsoStands, -, -⟩ := labelsControl?_eq_some.mp found
    rw [sameName] at alsoStands
    have same : some control = some other := alsoStands.symm.trans stands
    rw [Option.some.inj same, makes, resultType]

/-- A labels item is kept where it goes to and shows its labels there, or as bare geometry without
them. -/
theorem fixLabels?_cases (kept : fixLabels? tree item = some fixed) :
    (fixed = atControl tree item ∧ Shown tree fixed) ∨
      ∃ geometry control, geometryType item.resultType = some geometry ∧
        tree.findControl? (atControl tree item).toName geometry = some control ∧
        fixed = { atControl tree item with
          value := (atControl tree item).value.erase (atControl tree item).resultType
          fromName := control.name
          resultType := geometry } := by
  have demoted (goes : demote? tree item.resultType { atControl tree item with
      value := (atControl tree item).value.erase (atControl tree item).resultType } = some fixed) :
      ∃ geometry control, geometryType item.resultType = some geometry ∧
        tree.findControl? (atControl tree item).toName geometry = some control ∧
        fixed = { atControl tree item with
          value := (atControl tree item).value.erase (atControl tree item).resultType
          fromName := control.name
          resultType := geometry } := by
    rw [demote?] at goes
    obtain ⟨geometry, stripped, goes⟩ := Option.bind_eq_some_iff.mp goes
    obtain ⟨control, found, made⟩ := Option.bind_eq_some_iff.mp goes
    exact ⟨geometry, control, stripped, found, (Option.some.inj made).symm⟩
  rw [fixLabels?] at kept
  cases found : labelsControl? tree (atControl tree item) with
  | none =>
    rw [found] at kept
    exact Or.inr (demoted kept)
  | some control =>
    rw [found] at kept
    dsimp only at kept
    split at kept
    · rename_i shows
      rw [Bool.or_eq_true, Bool.not_eq_true'] at shows
      rw [← Option.some.inj kept]
      exact Or.inl ⟨rfl, control, found, resultType_of_atControl named found, shows⟩
    · exact Or.inr (demoted kept)

/-! ## What repair leaves -/

/-- An item that the first steps of repair have passed: nothing is recorded under the former type,
unless that is the type of the item, and no normalised text is left. -/
structure Tidied (item : WireResult) : Prop where
  /-- The value is parsed. -/
  parsed : item.Parsed
  /-- No normalised text is left. -/
  extra : item.extra.get? "normalization" = none
  /-- Nothing is recorded under the former type. -/
  value : item.resultType ≠ legacyType → item.value.get? legacyType = none

/-- Where an item goes to, it stays tidied. -/
theorem Tidied.atControl (tidied : Tidied item) (present : item.resultType ≠ legacyType) :
    Tidied (atControl tree item) := by
  rcases atControl_cases named item with ⟨-, same⟩ | ⟨fromName, control, type, -, -, moved⟩
  · rw [same]
    exact tidied
  · obtain ⟨resultType, -, -, extra⟩ := retype_keeps { item with fromName := fromName } type
    have renamed : WireResult.Parsed { item with fromName := fromName } := tidied.parsed
    rw [moved]
    refine ⟨parsed_retype renamed type, ?_, fun different => ?_⟩
    · rw [extra]
      exact tidied.extra
    · rw [resultType] at different
      have current : IsCurrent { item with fromName := fromName }.value :=
        ⟨tidied.parsed, tidied.value present⟩
      obtain ⟨value, retyped, valueCurrent⟩ := retype_eq current different
      rw [retyped]
      exact valueCurrent.absent

/-- A labels item that is kept stays tidied. -/
theorem Tidied.fixLabels? (tidied : Tidied item) (present : item.resultType ≠ legacyType)
    (kept : fixLabels? tree item = some fixed) : Tidied fixed := by
  have moved : Tidied (Repair.atControl tree item) := tidied.atControl named present
  rcases fixLabels?_cases named kept with ⟨same, -⟩ | ⟨geometry, control, -, -, same⟩
  · rw [same]
    exact moved
  · rw [same]
    refine ⟨parsed_erase moved.parsed _, moved.extra, fun _ => ?_⟩
    rw [Entries.get?_erase]
    split
    · rfl
    · rename_i different
      exact moved.value fun former => different former.symm

end Named

/-- Behind the first steps of repair an item is tidied and of a present type. -/
theorem tidied_prepared (parsed : item.Parsed) :
    Tidied (prepared item) ∧
      (prepared item).resultType ≠ legacyType := by
  obtain ⟨resultType, value, renamed, present, current⟩ := renameLegacy_eq parsed
  obtain ⟨metadata, moved⟩ := moveNormalization_eq (renameLegacy item)
  rw [prepared, moved, renamed]
  exact ⟨⟨current.parsed, Entries.get?_erase_self "normalization" item.extra,
    fun _ => current.absent⟩, present⟩

/-- Behind the first steps of repair an item of the former type is of the present one. -/
theorem resultType_prepared (item : WireResult) :
    (prepared item).resultType =
      if item.resultType = legacyType then hypertextType else item.resultType := by
  obtain ⟨metadata, moved⟩ := moveNormalization_eq (renameLegacy item)
  rw [prepared, moved, renameLegacy]
  dsimp only
  split
  · rfl
  · rfl

/-- A kept item is the one that the first steps leave, or one that a labels item has become, and
its names are known. -/
theorem result?_cases (kept : result? tree item = some fixed) :
    ((isLabelsType (prepared item).resultType = false ∧
        fixed = prepared item) ∨
      (isLabelsType (prepared item).resultType = true ∧
        fixLabels? tree (prepared item) = some fixed)) ∧
      (tree.contains fixed.fromName && tree.contains fixed.toName) = true := by
  rw [result?_eq] at kept
  split at kept
  · rename_i labels
    obtain ⟨last, found, kept⟩ := Option.bind_eq_some_iff.mp kept
    obtain ⟨known, same⟩ := known?_eq_some.mp kept
    subst same
    exact ⟨Or.inr ⟨labels, found⟩, known⟩
  · rename_i other
    obtain ⟨known, same⟩ := known?_eq_some.mp kept
    subst same
    exact ⟨Or.inl ⟨Bool.eq_false_iff.mpr other, rfl⟩, known⟩

/-! ## What is kept a second time -/

/-- A labels item that repair has nothing to change in: it shows its labels, and if it is of the
former type nothing is recorded under the present one. -/
def Steady (tree : ElementTree) (item : WireResult) : Prop :=
  isLabelsType item.resultType = true →
    Shown tree item ∧
      (item.resultType = legacyType → item.value.get? hypertextType = none)

/-- Bare geometry is of another type than the labels. -/
theorem geometryType_ne (type : String) : geometryType type ≠ some type := by
  intro same
  rw [geometryType, Option.ite_none_right_eq_some, Bool.and_eq_true, isLabelsType] at same
  obtain ⟨⟨suffix, -⟩, stripped⟩ := same
  have long : "labels".toList.length ≤ type.toList.length :=
    (List.isSuffixOf_iff_suffix.mp suffix).length_le
  have cut := congrArg (fun text : String => text.toList.length) (Option.some.inj stripped)
  have six : "labels".toList.length = 6 := by decide
  simp only [String.toList_ofList, List.length_take, String.length_toList] at cut long six
  omega

/-- The first steps leave a tidied item of a present type as it is. -/
theorem Tidied.prepared_eq (tidied : Tidied item) (present : item.resultType ≠ legacyType) :
    prepared item = item :=
  prepared_eq_self present (tidied.value present) tidied.extra

/-- The first steps give a tidied item of the former type the present one. Back at the former type
it is as it was, if nothing was recorded under the present one. -/
theorem Tidied.prepared_former (tidied : Tidied item) (former : item.resultType = legacyType) :
    ∃ value, prepared item =
        { item with resultType := hypertextType, value := value } ∧
      (item.value.get? hypertextType = none →
        retype { item with resultType := hypertextType, value := value } legacyType = item) := by
  have other : hypertextType ≠ legacyType := by decide
  rw [prepared, renameLegacy, if_pos former]
  cases found : item.value.get? legacyType with
  | none =>
    refine ⟨item.value, moveNormalization_eq_self tidied.extra, fun absent => ?_⟩
    rw [retype, if_neg other]
    dsimp only
    rw [absent, ← former]
  | some labels =>
    refine ⟨_, moveNormalization_eq_self tidied.extra, fun absent => ?_⟩
    have rest : Entries.get? hypertextType (item.value.erase legacyType) = none := by
      rw [Entries.get?_erase_of_ne other]
      exact absent
    have fresh : Entries.has hypertextType (item.value.erase legacyType) = false := by
      rw [Entries.has, rest]
      rfl
    have sorted := sorted_of_parsed tidied.parsed
    have back : Entries.put legacyType labels (Entries.erase hypertextType
        (Entries.put hypertextType labels (item.value.erase legacyType))) = item.value := by
      refine Entries.ext_of_sorted (Entries.sorted_put _ _ (Entries.sorted_erase _
        (Entries.sorted_put _ _ (Entries.sorted_erase _ sorted)))) sorted fun key => ?_
      rw [Entries.get?_put, Entries.get?_erase, Entries.get?_put, Entries.get?_erase]
      by_cases sameFormer : key = legacyType
      · rw [if_pos sameFormer, sameFormer, found]
      · by_cases samePresent : key = hypertextType
        · rw [if_neg sameFormer, if_pos samePresent, samePresent, absent]
        · rw [if_neg sameFormer, if_neg samePresent, if_neg samePresent, if_neg sameFormer]
    rw [fresh, if_neg Bool.false_ne_true, retype, if_neg other]
    dsimp only
    rw [Entries.get?_put_self]
    dsimp only
    rw [back, ← former]

/-- Retyping to another type leaves nothing under the type before. -/
theorem get?_retype {newType : String} (different : item.resultType ≠ newType) :
    (retype item newType).value.get? item.resultType = none := by
  rw [retype, if_neg different]
  split
  · assumption
  · dsimp only
    rw [Entries.get?_put, if_neg different, Entries.get?_erase_self]

/-- A steady item at known names is repaired to itself. -/
theorem result?_of_steady (tidied : Tidied item)
    (known : (tree.contains item.fromName && tree.contains item.toName) = true)
    (steady : Steady tree item) : result? tree item = some item := by
  rw [Bool.and_eq_true] at known
  by_cases former : item.resultType = legacyType
  · have labels : isLabelsType item.resultType = true := by
      rw [former]
      decide
    obtain ⟨⟨control, found, makes, shows⟩, absent⟩ := steady labels
    obtain ⟨value, prepared, back⟩ := tidied.prepared_former former
    -- The item goes to the present type and, at its control, back to the former one.
    have atOwn : atControl tree { item with resultType := hypertextType, value := value } =
        item := by
      have foundAgain : labelsControl? tree
          { item with resultType := hypertextType, value := value } = some control := found
      rw [atControl, foundAgain]
      dsimp only
      rw [makes, Option.getD_some, former]
      exact back (absent former)
    have keeps : (!isEmptyPayload (item.value.get? item.resultType) || control.allowEmpty) =
        true := by
      rwa [Bool.or_eq_true, Bool.not_eq_true']
    have fixed : fixLabels? tree { item with resultType := hypertextType, value := value } =
        some item := by
      rw [fixLabels?, atOwn, found]
      exact if_pos keeps
    have hypertext : isLabelsType hypertextType = true := by decide
    rw [result?_eq, prepared]
    dsimp only
    rw [if_pos hypertext, fixed]
    exact known?_eq_some.mpr ⟨Bool.and_eq_true_iff.mpr known, rfl⟩
  · have repaired : Repaired tree item := by
      refine ⟨former, tidied.value former, tidied.extra, fun labels => ?_⟩
      obtain ⟨control, found, makes, -⟩ := (steady labels).1
      exact ⟨control, found, makes⟩
    refine result?_of_repaired repaired known.1 known.2 fun control found labels _ => ?_
    obtain ⟨other, otherFound, -, shows⟩ := (steady labels).1
    rw [found, Option.some.injEq] at otherFound
    exact otherFound ▸ shows.symm

/-- A tidied item that is repaired to itself is steady. -/
theorem steady_of_result? (named : ∀ name element, tree.get? name = some element →
    element.name = name) (tidied : Tidied item) (same : result? tree item = some item) :
    Steady tree item := by
  intro labels
  rcases (result?_cases same).1 with ⟨other, unchanged⟩ | ⟨-, fixed⟩
  · rw [← unchanged, labels] at other
    contradiction
  by_cases former : item.resultType = legacyType
  · obtain ⟨value, prepared, -⟩ := tidied.prepared_former former
    rw [prepared] at fixed
    rcases fixLabels?_cases named fixed with ⟨moved, shown⟩ | ⟨geometry, control, stripped, -, made⟩
    · refine ⟨shown, fun _ => ?_⟩
      rcases atControl_cases named { item with resultType := hypertextType, value := value } with
        ⟨-, stays⟩ | ⟨fromName, control, type, -, -, goes⟩
      · have present : item.resultType = hypertextType :=
          congrArg WireResult.resultType (moved.trans stays)
        rw [former] at present
        exact absurd present (by decide)
      · have whole := moved.trans goes
        have sameType : item.resultType = type := by
          rw [whole]
          exact (retype_keeps _ type).1
        have different : WireResult.resultType
            { item with resultType := hypertextType, value := value, fromName := fromName } ≠
              type := by
          rw [← sameType, former]
          exact (by decide : hypertextType ≠ legacyType)
        rw [whole]
        exact get?_retype different
    · have bare : item.resultType = geometry := congrArg WireResult.resultType made
      dsimp only at stripped
      rw [← bare, former] at stripped
      exact absurd stripped (by decide)
  · rw [tidied.prepared_eq former] at fixed
    rcases fixLabels?_cases named fixed with ⟨-, shown⟩ | ⟨geometry, control, stripped, -, made⟩
    · exact ⟨shown, fun same => absurd same former⟩
    · have bare : item.resultType = geometry := congrArg WireResult.resultType made
      rw [← bare] at stripped
      exact absurd stripped (geometryType_ne _)

/-- What is kept is steady if no element makes results of the former type and the geometry of the
item's type carries no labels. -/
theorem steady_of_plain (named : ∀ name element, tree.get? name = some element →
    element.name = name)
    (noFormer : ∀ name element, tree.get? name = some element →
      element.resultType ≠ some legacyType)
    (plain : ∀ geometry, geometryType item.resultType = some geometry →
      isLabelsType geometry = false)
    (kept : result? tree item = some fixed) : Steady tree fixed := by
  intro labels
  rcases (result?_cases kept).1 with ⟨other, unchanged⟩ | ⟨-, fixedLabels⟩
  · rw [← unchanged, labels] at other
    contradiction
  rcases fixLabels?_cases named fixedLabels with ⟨-, shown⟩ | ⟨geometry, _, stripped, -, made⟩
  · refine ⟨shown, fun former => ?_⟩
    obtain ⟨control, found, makes, -⟩ := shown
    rw [former] at makes
    exact absurd makes (noFormer _ _ (labelsControl?_eq_some.mp found).1)
  · have bare : fixed.resultType = geometry := congrArg WireResult.resultType made
    rw [resultType_prepared] at stripped
    rw [bare] at labels
    split at stripped
    · have hypertext : geometryType hypertextType = some "hypertext" := by decide
      rw [hypertext, Option.some.injEq] at stripped
      rw [← stripped] at labels
      exact absurd labels (by decide)
    · rw [plain geometry stripped] at labels
      contradiction

/-! ## Repairing twice -/

/-- A kept result item is one that a given result item is repaired to. -/
theorem exists_of_mem_items {contents : List WireItem}
    (member : .result fixed ∈ items tree contents) :
    ∃ item, .result item ∈ contents ∧ result? tree item = some fixed := by
  obtain ⟨item, inside, made⟩ := List.mem_filterMap.mp member
  cases item with
  | result item =>
    obtain ⟨other, found, same⟩ := Option.map_eq_some_iff.mp made
    cases same
    exact ⟨item, inside, found⟩
  | relation item => cases made

/-- A kept item is tidied. -/
theorem tidied_of_result? (named : ∀ name element, tree.get? name = some element →
    element.name = name) (parsed : item.Parsed) (kept : result? tree item = some fixed) :
    Tidied fixed := by
  obtain ⟨prepared, present⟩ := tidied_prepared parsed
  rcases (result?_cases kept).1 with ⟨-, unchanged⟩ | ⟨-, fixedLabels⟩
  · rw [unchanged]
    exact prepared
  · exact prepared.fixLabels? named present fixedLabels

/-- Repairing twice is repairing once just when every kept labels item is steady. This is so in
every tree without a control of the former type, unless an item is of a type that is one of labels
twice over. -/
theorem items_idempotent_iff (config : ConfigTree) (catalogue : Catalogue) (task : Option Json)
    {contents : List WireItem} (parsed : ∀ item, .result item ∈ contents → item.Parsed) :
    let tree := ElementTree.ofConfig config catalogue task
    (items tree (items tree contents) = items tree contents ↔
        ∀ item, .result item ∈ items tree contents → Steady tree item) ∧
      ((∀ name element, tree.get? name = some element →
            element.resultType ≠ some legacyType) →
        (∀ item, .result item ∈ contents → ∀ geometry,
            geometryType item.resultType = some geometry → isLabelsType geometry = false) →
        items tree (items tree contents) = items tree contents) := by
  intro tree
  have named : ∀ name element, tree.get? name = some element → element.name = name :=
    fun name element found => ElementTree.name_of_get? found
  have again : items tree (items tree contents) = items tree contents ↔
      ∀ item, .result item ∈ items tree contents → Steady tree item := by
    rw [items, filterMap_eq_self_iff]
    constructor
    · intro same fixed member
      obtain ⟨item, inside, kept⟩ := exists_of_mem_items member
      obtain ⟨other, found, equal⟩ := Option.map_eq_some_iff.mp (same _ member)
      cases equal
      exact steady_of_result? named (tidied_of_result? named (parsed item inside) kept) found
    · intro steady kept member
      cases kept with
      | relation relation => rfl
      | result fixed =>
        obtain ⟨item, inside, kept⟩ := exists_of_mem_items member
        have stays := result?_of_steady (tidied_of_result? named (parsed item inside) kept)
          (result?_cases kept).2 (steady fixed member)
        exact congrArg (Option.map WireItem.result) stays
  refine ⟨again, fun noFormer plain => again.mpr fun fixed member => ?_⟩
  obtain ⟨item, inside, kept⟩ := exists_of_mem_items member
  exact steady_of_plain named noFormer (plain item inside) kept

/-- A page with controls that label its text and any region. -/
def pageConfig : ConfigTree where
  nodes := Block.nodesAll none 0 [
    .mk { tagName := "HyperText", attributes := [("name", "page"), ("value", "$page")] } [],
    .mk { tagName := "HyperTextLabels",
          attributes := [("name", "entity"), ("toname", "page")] } [],
    .mk { tagName := "Labels", attributes := [("name", "label"), ("toname", "page")] } []]

/-- A region of the former type with its normalised text, one of a control that is gone, one of an
object that is gone, and a relation. -/
def formerItems : List WireItem := [
  .result { id := some "a", fromName := "entity", toName := "page", resultType := "htmllabels",
            value := [("htmllabels", .array [.string "City"])],
            extra := [("normalization", .string "Oslo")] },
  .result { id := some "b", fromName := "places", toName := "page",
            resultType := "hypertextlabels",
            value := [("hypertextlabels", .array [.string "City"])] },
  .result { id := some "c", fromName := "entity", toName := "text",
            resultType := "hypertextlabels" },
  .relation { fromId := "a", toId := "b" }]

set_option maxRecDepth 10000 in
/-- Items of the former type are repaired once and for all. -/
theorem formerItems_repaired :
    let tree := ElementTree.ofConfig pageConfig .standard none
    (∀ item, .result item ∈ formerItems → item.Parsed) ∧
      (∀ name element, tree.get? name = some element →
        element.resultType ≠ some legacyType) ∧
      (∀ item, .result item ∈ formerItems → ∀ geometry,
        geometryType item.resultType = some geometry → isLabelsType geometry = false) ∧
      (WireItem.results (items tree formerItems)).map (fun item =>
          (item.fromName, item.resultType, item.metadata.isSome)) =
        [("entity", "hypertextlabels", true), ("entity", "hypertextlabels", false)] ∧
      items tree (items tree formerItems) = items tree formerItems := by
  intro tree
  have distinct : tree.report.has .duplicateName = false := by decide +kernel
  have city : Json.Parsed (.array [.string "City"]) :=
    .array (List.forall_mem_singleton.mpr (.string "City"))
  have parsed (item : WireResult) (member : .result item ∈ formerItems) : item.Parsed := by
    simp only [formerItems, List.mem_cons, WireItem.result.injEq, reduceCtorEq, List.not_mem_nil,
      or_false] at member
    rcases member with rfl | rfl | rfl
    · exact .object (List.pairwise_singleton _ _) (List.forall_mem_singleton.mpr city)
    · exact .object (List.pairwise_singleton _ _) (List.forall_mem_singleton.mpr city)
    · exact .object .nil (List.forall_mem_nil _)
  have plain (item : WireResult) (member : .result item ∈ formerItems) (geometry : String)
      (stripped : geometryType item.resultType = some geometry) :
      isLabelsType geometry = false := by
    have inside : item ∈ WireItem.results formerItems := List.mem_filterMap.mpr ⟨_, member, rfl⟩
    have each : ∀ item ∈ WireItem.results formerItems,
        ∀ geometry ∈ geometryType item.resultType, isLabelsType geometry = false := by decide
    exact each item inside geometry stripped
  have noFormer := (ElementTree.regular_ofConfig distinct).resultType
  have again := (items_idempotent_iff pageConfig .standard none parsed).2 noFormer plain
  exact ⟨parsed, noFormer, plain, by decide +kernel, again⟩

/-- A result without labels, of a type that is one of labels twice over. -/
def twiceLabelsItem : WireResult :=
  { id := some "a", fromName := "label", toName := "page", resultType := "labelslabels" }

set_option maxRecDepth 10000 in
/-- Repairing twice is not always repairing once: as bare geometry the result is again one of
labels, and it shows none. -/
theorem twiceLabelsItem_dropped_later :
    ¬ ∀ (config : ConfigTree) (catalogue : Catalogue) (task : Option Json)
        (contents : List WireItem),
      (∀ item, .result item ∈ contents → item.Parsed) →
        let tree := ElementTree.ofConfig config catalogue task
        items tree (items tree contents) = items tree contents := by
  intro idempotent
  have parsed (item : WireResult) (member : .result item ∈ [WireItem.result twiceLabelsItem]) :
      item.Parsed := by
    rw [List.mem_singleton, WireItem.result.injEq] at member
    rw [member]
    exact .object .nil (List.forall_mem_nil _)
  have same := idempotent pageConfig .standard none [.result twiceLabelsItem] parsed
  exact absurd (congrArg List.length same) (by decide +kernel)

end Labeling.Repair
