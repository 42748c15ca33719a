import Labeling.Proofs.Annotating.Outcomes
import Labeling.Proofs.Areas
import Labeling.Proofs.Binding
import Labeling.Proofs.History.Holding

/-!
# Annotations are well formed

Every operation keeps the areas, the suggestions and the areas of the states that the history may
hand out well formed, selects only areas that there are, and takes no place in the order of
creation back: `perform_wellFormed`, and for runs `run_wellFormed`. Ids that are made up need not
be new for that; an area created or accepted under the id of another one takes its place.
-/
namespace Labeling

namespace AnnotationState

/-- A change of one result leaves as many results. -/
theorem length_changeFirst (test : AreaResult → Bool) (change : AreaResult → AreaResult)
    (results : List AreaResult) : (changeFirst test change results).length = results.length := by
  induction results with
  | nil => rfl
  | cons result rest hypothesis =>
    rw [changeFirst]
    split
    · rfl
    · rw [List.length_cons, hypothesis, List.length_cons]

/-- A result after a change of one result was there before, or is a changed one. -/
theorem exists_of_mem_changeFirst {test : AreaResult → Bool} {change : AreaResult → AreaResult}
    {results : List AreaResult} {result : AreaResult}
    (member : result ∈ changeFirst test change results) :
    ∃ former ∈ results, result = former ∨ result = change former := by
  induction results with
  | nil => contradiction
  | cons first rest hypothesis =>
    rw [changeFirst] at member
    split at member
    · rcases List.mem_cons.mp member with changed | old
      · exact ⟨first, List.mem_cons_self, Or.inr changed⟩
      · exact ⟨result, List.mem_cons_of_mem _ old, Or.inl rfl⟩
    · rcases List.mem_cons.mp member with same | later
      · exact ⟨first, List.mem_cons_self, Or.inl same⟩
      · obtain ⟨former, inside, found⟩ := hypothesis later
        exact ⟨former, List.mem_cons_of_mem _ inside, found⟩

end AnnotationState

namespace Area.WellFormed

variable {tree : ElementTree} {owner : String} {area : Area}

/-- A change of an area that leaves its id, its object and its results alone may be made. -/
theorem of_eq (wellFormed : area.WellFormed tree owner) {changed : Area}
    (id : changed.id = area.id) (object : changed.object = area.object)
    (results : changed.results = area.results) : changed.WellFormed tree owner := by
  obtain ⟨ownerFits, nonempty, isObject, toName, fromName⟩ := wellFormed
  rw [← id] at ownerFits
  rw [← object] at isObject
  rw [← results] at nonempty toName fromName
  exact ⟨ownerFits, nonempty, isObject, toName, fromName⟩

/-- An area with one more result of a control on an object is well formed. -/
theorem append (wellFormed : area.WellFormed tree owner) {result : AreaResult}
    (toName : tree.IsObject result.toName) (fromName : tree.IsControl result.fromName) :
    { area with results := area.results ++ [result] }.WellFormed tree owner where
  owner := wellFormed.owner
  nonempty := by simp
  object := wellFormed.object
  toName other member := by
    rcases List.mem_append.mp member with old | new
    · exact wellFormed.toName other old
    · rw [List.mem_singleton.mp new]
      exact toName
  fromName other member := by
    rcases List.mem_append.mp member with old | new
    · exact wellFormed.fromName other old
    · rw [List.mem_singleton.mp new]
      exact fromName

/-- Another value of a result leaves an area well formed. -/
theorem setValue (wellFormed : area.WellFormed tree owner) (control : String) (value : Value) :
    (AnnotationState.setValue control value area).WellFormed tree owner := by
  have names (result : AreaResult)
      (member : result ∈ (AnnotationState.setValue control value area).results) :
      ∃ former ∈ area.results, result.toName = former.toName ∧
        result.fromName = former.fromName := by
    obtain ⟨former, inside, same | changed⟩ := AnnotationState.exists_of_mem_changeFirst member
    · exact ⟨former, inside, by rw [same], by rw [same]⟩
    · exact ⟨former, inside, by rw [changed], by rw [changed]⟩
  refine ⟨wellFormed.owner, ?_, wellFormed.object, ?_, ?_⟩
  · intro empty
    have length := congrArg List.length empty
    rw [AnnotationState.setValue, AnnotationState.length_changeFirst] at length
    exact wellFormed.nonempty (List.length_eq_zero_iff.mp length)
  · intro result member
    obtain ⟨former, inside, toName, -⟩ := names result member
    rw [toName]
    exact wellFormed.toName former inside
  · intro result member
    obtain ⟨former, inside, -, fromName⟩ := names result member
    rw [fromName]
    exact wellFormed.fromName former inside

/-- A recorded value leaves an area well formed. -/
theorem recordedResult (wellFormed : area.WellFormed tree owner) {element : Element}
    {control : String} {value : Value}
    (found : tree.get? control = some element ∧ element.makesResults = true) :
    (AnnotationState.recordedResult element control value area).WellFormed tree owner := by
  rw [AnnotationState.recordedResult]
  split
  · exact wellFormed.setValue control value
  · exact wellFormed.append wellFormed.object
      ⟨element, found.1, (Bool.and_eq_true_iff.mp found.2).1⟩

/-- A created area is well formed. -/
theorem createdArea {control object : Element} {shape : Shape} {value : Value}
    {names : String × String} {id : AreaId} {seq : Nat}
    (controlFound : tree.get? names.1 = some control ∧ control.makesResults = true)
    (objectFound : tree.get? names.2 = some object ∧ object.isObject = true)
    (named : tree.get? object.name = some object) (ownerFits : id.owner = owner) :
    (AnnotationState.createdArea control object shape value names id seq).WellFormed
      tree owner where
  owner := ownerFits
  nonempty := by simp [AnnotationState.createdArea]
  object := ⟨object, named, objectFound.2⟩
  toName result member := by
    rw [List.mem_singleton.mp member]
    exact ⟨object, objectFound⟩
  fromName result member := by
    rw [List.mem_singleton.mp member]
    exact ⟨control, controlFound.1, (Bool.and_eq_true_iff.mp controlFound.2).1⟩

end Area.WellFormed

namespace AnnotationState

variable {state next : AnnotationState}

/-- Every element of the configuration has the name that stands for it. -/
def IsNamed (tree : ElementTree) : Prop :=
  ∀ name element, tree.get? name = some element → element.name = name

/-- What holds of the present areas of an annotation. -/
structure Sound (state : AnnotationState) : Prop where
  /-- The elements of the configuration have their names. -/
  named : IsNamed state.tree
  /-- The areas are well formed. -/
  areas : state.areas.WellFormed state.tree state.id state.nextSeq
  /-- The suggestions are well formed. -/
  suggestions : state.suggestions.WellFormed state.tree state.id state.nextSeq
  /-- Every selected id is one of an area. -/
  selection : ∀ id ∈ state.selection, state.areas.has id = true

/-- From a sound annotation to a sound one whose next place is no lower. -/
def Advances (state next : AnnotationState) : Prop :=
  state.Sound → next.Sound ∧ state.nextSeq ≤ next.nextSeq

/-- What advances twice advances. -/
theorem Advances.trans {last : AnnotationState} (first : state.Advances next)
    (second : next.Advances last) : state.Advances last := by
  intro sound
  obtain ⟨middle, grows⟩ := first sound
  obtain ⟨ended, growsOn⟩ := second middle
  exact ⟨ended, Nat.le_trans grows growsOn⟩

/-- Steps that advance do so together. -/
theorem advances_foldl {α : Type} (step : AnnotationState → α → AnnotationState)
    (values : List α)
    (advances : ∀ (state : AnnotationState), ∀ value ∈ values, state.Advances (step state value))
    (state : AnnotationState) : state.Advances (values.foldl step state) := by
  induction values generalizing state with
  | nil => exact fun sound => ⟨sound, Nat.le_refl _⟩
  | cons value rest hypothesis =>
    exact (advances state value List.mem_cons_self).trans
      (hypothesis (fun state other member =>
        advances state other (List.mem_cons_of_mem _ member)) _)

/-- An annotation advances to one with the same areas, suggestions and selection. -/
theorem advances_of_eq (tree : next.tree = state.tree) (id : next.id = state.id)
    (areas : next.areas = state.areas) (suggestions : next.suggestions = state.suggestions)
    (selection : next.selection = state.selection) (nextSeq : next.nextSeq = state.nextSeq) :
    state.Advances next := by
  intro sound
  obtain ⟨named, areasFit, suggestionsFit, selected⟩ := sound
  rw [← tree] at named
  rw [← tree, ← id, ← nextSeq, ← areas] at areasFit
  rw [← tree, ← id, ← nextSeq, ← suggestions] at suggestionsFit
  rw [← selection, ← areas] at selected
  exact ⟨⟨named, areasFit, suggestionsFit, selected⟩, Nat.le_of_eq nextSeq.symm⟩

/-- Recording advances. -/
theorem advances_recorded (state : AnnotationState) : state.Advances state.recorded := by
  obtain ⟨_, _, _, made⟩ := recorded_eq state
  rw [made]
  exact advances_of_eq rfl rfl rfl rfl rfl rfl

/-- Ending a batch advances. -/
theorem advances_committed (state : AnnotationState) : state.Advances state.committed := by
  obtain ⟨_, _, _, made⟩ := committed_eq state
  rw [made]
  exact advances_of_eq rfl rfl rfl rfl rfl rfl

/-- Removing superseded classifications advances. -/
theorem advances_cleaned (state : AnnotationState) : state.Advances state.cleaned.1 := by
  intro sound
  rw [cleaned]
  split
  · exact ⟨sound, Nat.le_refl _⟩
  · refine ⟨⟨sound.named, sound.areas.filter _, sound.suggestions, ?_⟩, Nat.le_refl _⟩
    intro id member
    obtain ⟨selected, kept⟩ := List.mem_filter.mp member
    have present := sound.selection id selected
    show Entries.has id (List.filter _ state.areas) = true
    rw [Entries.has, Entries.get?_filter (fun id => !List.contains _ id), if_pos kept]
    exact present

/-- A change that keeps the id, the place and the well-formedness of an area advances. -/
theorem advances_changeArea (state : AnnotationState) (id : AreaId) {change : Area → Area}
    (sameId : ∀ area, (change area).id = area.id)
    (sameSeq : ∀ area, (change area).seq = area.seq)
    (keeps : ∀ area : Area, area.WellFormed state.tree state.id →
      (change area).WellFormed state.tree state.id) :
    state.Advances (state.changeArea id change) := by
  intro sound
  refine ⟨⟨sound.named, sound.areas.update id sameId sameSeq keeps, sound.suggestions, ?_⟩,
    Nat.le_refl _⟩
  intro selected member
  have present := sound.selection selected member
  rw [Entries.has_iff_mem_keys] at present ⊢
  rw [changeArea, Entries.keys_update]
  exact present

/-- Clearing an annotation advances. -/
theorem advances_cleared (state : AnnotationState) : state.Advances state.cleared := by
  intro sound
  rw [cleared]
  dsimp only
  split
  · rename_i empty
    refine ⟨⟨sound.named, .nil, sound.suggestions, ?_⟩, Nat.le_refl _⟩
    intro id member
    rw [List.isEmpty_iff.mp empty] at member
    contradiction
  · exact ⟨⟨sound.named, .nil, sound.suggestions, List.forall_mem_nil _⟩,
      Nat.le_refl _⟩

/-- An area of an item is well formed. -/
theorem wellFormed_areaOfItem {tree : ElementTree} {owner : String} {control object : Element}
    {item : WireResult} {geometry payload : Value} {options : LoadOptions} {id : AreaId}
    {seq : Nat} (objectFound : tree.get? item.toName = some object ∧ object.isObject = true)
    (controlFound : tree.get? item.fromName = some control ∧ control.isControl = true)
    (named : IsNamed tree) (ownerFits : id.owner = owner) :
    (areaOfItem control object item geometry (AreaResult.ofWire item payload) options id
      seq).WellFormed tree owner where
  owner := ownerFits
  nonempty := List.cons_ne_nil _ _
  object := by
    rw [← named item.toName object objectFound.1] at objectFound
    exact ⟨object, objectFound⟩
  toName result member := by
    rw [List.mem_singleton.mp member]
    exact ⟨object, objectFound⟩
  fromName result member := by
    rw [List.mem_singleton.mp member]
    exact ⟨control, controlFound⟩

/-- An area with one more item is well formed. -/
theorem wellFormed_mergeItem {tree : ElementTree} {owner objectType : String}
    {item : WireResult} {geometry : Value} {result : AreaResult} {area : Area}
    (fits : area.WellFormed tree owner) (toName : tree.IsObject result.toName)
    (fromName : tree.IsControl result.fromName) :
    (mergeItem objectType item geometry result area).WellFormed tree owner :=
  (fits.append toName fromName).of_eq rfl rfl rfl

/-- Adding an item under an id of the annotation leaves areas well formed. -/
theorem wellFormed_addItem {tree : ElementTree} {owner : String} {bound : Nat} {areas : Areas}
    {control object : Element} {item : WireResult} {options : LoadOptions} {id : AreaId}
    (wellFormed : areas.WellFormed tree owner bound)
    (objectFound : tree.get? item.toName = some object ∧ object.isObject = true)
    (controlFound : tree.get? item.fromName = some control ∧ control.isControl = true)
    (named : IsNamed tree) (ownerFits : id.owner = owner) :
    (addItem areas control object item options id bound).WellFormed tree owner (bound + 1) := by
  rw [addItem]
  dsimp only
  split
  · refine Areas.WellFormed.mono ?_ (Nat.le_succ bound)
    apply wellFormed.update id
    · exact fun _ => rfl
    · exact fun _ => rfl
    · intro area fits
      exact wellFormed_mergeItem fits ⟨object, objectFound⟩ ⟨control, controlFound⟩
  · exact wellFormed.put (wellFormed_areaOfItem objectFound controlFound named ownerFits) rfl

/-- Adding an item keeps the ids of areas. -/
theorem has_addItem {areas : Areas} {control object : Element} {item : WireResult}
    {options : LoadOptions} {id other : AreaId} {seq : Nat}
    (present : areas.has other = true) :
    (addItem areas control object item options id seq).has other = true := by
  rw [addItem]
  dsimp only
  split
  · rw [Entries.has_iff_mem_keys] at present ⊢
    rw [Entries.keys_update]
    exact present
  · rw [Entries.has, Entries.get?_put]
    split
    · rfl
    · exact present

/-- The id of an item is one of the annotation. -/
theorem owner_itemId (state : AnnotationState) (item : WireResult) :
    (state.itemId item).2.owner = state.id := by
  rw [itemId]
  split
  · rfl
  · rfl

/-- Applying an item advances. -/
theorem advances_applyResult {options : LoadOptions} {item : WireResult}
    (applied : applyResult options state item = .ok next) : state.Advances next := by
  intro sound
  have continues := continues_applyResult applied
  obtain ⟨object, control, objectFound, controlFound, made⟩ := applyResult_eq_ok applied
  have added {areas : Areas} (wellFormed : areas.WellFormed state.tree state.id state.nextSeq) :
      (addItem areas control object item options (state.itemId item).2 state.nextSeq).WellFormed
        state.tree state.id (state.nextSeq + 1) :=
    wellFormed_addItem wellFormed objectFound controlFound sound.named (owner_itemId state item)
  have selection : next.selection = state.selection := by
    rw [made, itemId]
    split
    · rfl
    · rfl
  have grows : next.nextSeq = state.nextSeq + 1 := by rw [made]
  have areas := congrArg AnnotationState.areas made
  have suggestions := congrArg AnnotationState.suggestions made
  dsimp only at areas suggestions
  refine ⟨⟨continues.tree ▸ sound.named, ?_, ?_, ?_⟩, by omega⟩
  · rw [areas, continues.tree, continues.id, grows]
    split
    · exact sound.areas.mono (Nat.le_succ _)
    · exact added sound.areas
  · rw [suggestions, continues.tree, continues.id, grows]
    split
    · exact added sound.suggestions
    · exact sound.suggestions.mono (Nat.le_succ _)
  · intro id member
    rw [selection] at member
    rw [areas]
    split
    · exact sound.selection id member
    · exact has_addItem (sound.selection id member)

/-- Applying items advances, also where one fails. -/
theorem advances_applyResults (options : LoadOptions) (items : List WireResult)
    (state : AnnotationState) : state.Advances (applyResults options state items).1 := by
  induction items generalizing state with
  | nil => exact fun sound => ⟨sound, Nat.le_refl _⟩
  | cons item rest hypothesis =>
    rw [applyResults]
    split
    · rename_i applied
      exact (advances_applyResult applied).trans (hypothesis _)
    · exact fun sound => ⟨sound, Nat.le_refl _⟩

/-- Applying repaired items and relations advances. -/
theorem advances_applyItems (options : LoadOptions) (state : AnnotationState)
    (items : List WireItem) : state.Advances (applyItems options state items).1 := by
  have results := advances_applyResults options
    (WireItem.results (Repair.items state.tree items)) state
  rw [applyItems]
  dsimp only
  split
  · rename_i applied
    rw [applied] at results
    exact results
  · rename_i applied
    rw [applied] at results
    split
    · exact results.trans (advances_of_eq rfl rfl rfl rfl rfl rfl)
    · exact results.trans (advances_of_eq rfl rfl rfl rfl rfl rfl)

/-- The end of a load advances. -/
theorem advances_finishLoad (result : AnnotationState × Option Failure) :
    result.1.Advances (finishLoad result).1 := by
  obtain ⟨state, failure⟩ := result
  cases failure with
  | none => exact advances_committed state
  | some failure =>
    have noted (issues : Report) : state.Advances { state with issues := issues } :=
      advances_of_eq rfl rfl rfl rfl rfl rfl
    exact (noted _).trans (advances_committed _)

/-- A load of items advances. -/
theorem advances_loadItems (state : AnnotationState) (items : List WireItem)
    (options : LoadOptions) : state.Advances (state.loadItems items options).1 := by
  have begun : state.Advances state.frozen := advances_of_eq rfl rfl rfl rfl rfl rfl
  exact (begun.trans (advances_applyItems options state.frozen items)).trans
    (advances_finishLoad _)

/-- A load of a payload advances, also where the payload cannot be read. -/
theorem advances_load (state : AnnotationState) (payload : Json) (options : LoadOptions) :
    state.Advances (state.load payload options).1 := by
  have begun : state.Advances state.frozen := advances_of_eq rfl rfl rfl rfl rfl rfl
  rw [load]
  split
  · exact advances_loadItems state _ options
  · exact begun.trans (advances_finishLoad (state.frozen, _))

/-- Switching between draft and result advances. -/
theorem advances_toggleDraft (state : AnnotationState) : state.Advances state.toggleDraft.1 := by
  rw [toggleDraft]
  split
  · exact fun sound => ⟨sound, Nat.le_refl _⟩
  · let switched := { state with draftSelected := !state.draftSelected }
    let stored :=
      if switched.draftSelected then switched.versions.draft else switched.versions.result
    have turned : state.Advances switched := advances_of_eq rfl rfl rfl rfl rfl rfl
    have loaded := advances_load switched.cleared (.array (stored.getD [])) {}
    have begun (made : AnnotationState) : made.Advances made.resetHistory :=
      advances_of_eq rfl rfl rfl rfl rfl rfl
    exact ((turned.trans (advances_cleared switched)).trans loaded).trans (begun _)

/-- An area that is created advances an annotation. -/
theorem advances_create {shape : Shape} {value : Value} {control object : String} {id : AreaId}
    (created : state.create shape value control object = .ok (next, id)) :
    state.Advances next := by
  intro sound
  obtain ⟨controlElement, objectElement, changed, made, controlFound, objectFound, owner,
    continues, areas, nextSeq, suggestions, -, selection⟩ := create_eq_ok created
  have ended := (advances_cleaned changed).trans (advances_recorded _)
  rw [← made] at ended
  have named : state.tree.get? objectElement.name = some objectElement := by
    rw [sound.named object objectElement objectFound.1]
    exact objectFound.1
  have fits : (createdArea controlElement objectElement shape value (control, object) id
      state.nextSeq).WellFormed state.tree state.id :=
    Area.WellFormed.createdArea controlFound objectFound named owner
  have changedSound : changed.Sound := by
    refine ⟨continues.tree ▸ sound.named, ?_, ?_, ?_⟩
    · rw [areas, continues.tree, continues.id, nextSeq]
      exact sound.areas.put fits rfl
    · rw [suggestions, continues.tree, continues.id, nextSeq]
      exact sound.suggestions.mono (Nat.le_succ _)
    · intro selected member
      rw [areas, Entries.has, Entries.get?_put]
      split
      · rfl
      · rename_i different
        rcases selection with same | only
        · exact sound.selection selected (same ▸ member)
        · exact absurd (List.mem_singleton.mp (only ▸ member)) different
  obtain ⟨nextSound, grows⟩ := ended changedSound
  exact ⟨nextSound, by omega⟩

/-- An area that is deleted advances an annotation. -/
theorem advances_delete {id : AreaId} {area : Area}
    (deleted : state.delete id = .ok (next, area)) : state.Advances next := by
  intro sound
  obtain ⟨changed, made, continues, areas, nextSeq, suggestions, -, selection⟩ :=
    delete_eq_ok deleted
  have changedSound : changed.Sound := by
    refine ⟨continues.tree ▸ sound.named, ?_, ?_, ?_⟩
    · rw [areas, continues.tree, continues.id, nextSeq]
      exact sound.areas.filter _
    · rw [suggestions, continues.tree, continues.id, nextSeq]
      exact sound.suggestions
    · intro selected member
      rw [selection] at member
      obtain ⟨old, different⟩ := List.mem_filter.mp member
      rw [areas, Entries.has, Entries.get?_erase, if_neg (of_decide_eq_true different)]
      exact sound.selection selected old
  obtain ⟨nextSound, grows⟩ := advances_recorded changed changedSound
  rw [made]
  exact ⟨nextSound, nextSeq ▸ grows⟩

/-- Accepting a suggestion puts it among the areas, under its own id or a new one of the
annotation, with the next place. -/
theorem acceptArea_eq (state : AnnotationState) (area : Area) :
    ∃ id session, (id = area.id ∨ id.owner = state.id) ∧ (state.acceptArea area).1 = { state with
      session := session
      nextSeq := state.nextSeq + 1
      areas := state.areas.put id
        { area with id := id, fromSuggestion := true, hidden := false, seq := state.nextSeq }
      suggestedRelations := state.suggestedRelations.retarget area.id id } := by
  rw [acceptArea]
  dsimp only
  split
  · exact ⟨_, _, Or.inr rfl, rfl⟩
  · exact ⟨_, _, Or.inl rfl, rfl⟩

/-- Accepting a well-formed suggestion advances. -/
theorem advances_acceptArea {area : Area} (fits : area.WellFormed state.tree state.id) :
    state.Advances (state.acceptArea area).1 := by
  intro sound
  obtain ⟨id, session, named, made⟩ := acceptArea_eq state area
  have owner : id.owner = state.id := by
    rcases named with same | owner
    · rw [same]
      exact fits.owner
    · exact owner
  have accepted : Area.WellFormed state.tree state.id { area with
      id := id, fromSuggestion := true, hidden := false, seq := state.nextSeq } :=
    { fits with owner := owner }
  rw [made]
  refine ⟨⟨sound.named, sound.areas.put accepted rfl, sound.suggestions.mono (Nat.le_succ _), ?_⟩,
    Nat.le_succ _⟩
  intro selected member
  show Entries.has selected (Entries.put id _ state.areas) = true
  rw [Entries.has, Entries.get?_put]
  split
  · rfl
  · exact sound.selection selected member

/-- Accepting several well-formed suggestions advances. -/
theorem advances_foldl_acceptArea (areas : List Area) (state : AnnotationState)
    (fits : ∀ area ∈ areas, area.WellFormed state.tree state.id) :
    state.Advances (areas.foldl (fun state area => (state.acceptArea area).1) state) := by
  induction areas generalizing state with
  | nil => exact fun sound => ⟨sound, Nat.le_refl _⟩
  | cons area rest hypothesis =>
    have continues := continues_acceptArea state area
    refine (advances_acceptArea (fits area List.mem_cons_self)).trans (hypothesis _ ?_)
    intro other member
    rw [continues.tree, continues.id]
    exact fits other (List.mem_cons_of_mem _ member)

/-- Promoting relations advances. -/
theorem advances_promoteRelations (state : AnnotationState) :
    state.Advances state.promoteRelations := advances_of_eq rfl rfl rfl rfl rfl rfl

/-- Some of the suggestions advance an annotation. -/
theorem advances_filter_suggestions (state : AnnotationState) (test : AreaId × Area → Bool) :
    state.Advances { state with suggestions := state.suggestions.filter test } :=
  fun sound => ⟨⟨sound.named, sound.areas, sound.suggestions.filter test, sound.selection⟩,
    Nat.le_refl _⟩

/-- A suggestion that is accepted advances an annotation. -/
theorem advances_accept {id accepted : AreaId} (done : state.accept id = .ok (next, accepted)) :
    state.Advances next := by
  intro sound
  obtain ⟨area, found, made⟩ := accept_eq_ok done
  have fits : area.WellFormed state.tree state.id :=
    sound.suggestions.each (id, area) (Entries.mem_of_get? found)
  have taken : state.Advances { state with suggestions := state.suggestions.erase id } :=
    advances_filter_suggestions state _
  have advances := (((taken.trans (advances_acceptArea fits)).trans
    (advances_promoteRelations _)).trans (advances_cleaned _)).trans (advances_recorded _)
  rw [made]
  exact advances sound

/-- Accepting every suggestion advances. -/
theorem advances_acceptAll (state : AnnotationState) : state.Advances state.acceptAll.1 := by
  intro sound
  have fits (area : Area) (member : area ∈ state.suggestions.bySeq) :
      area.WellFormed state.tree state.id := sound.suggestions.each_bySeq member
  have taken : state.Advances { state with suggestions := [] }.frozen :=
    fun sound => ⟨⟨sound.named, sound.areas, .nil, sound.selection⟩, Nat.le_refl _⟩
  have accepted := advances_foldl_acceptArea state.suggestions.bySeq
    { state with suggestions := [] }.frozen fits
  exact ((((taken.trans accepted).trans (advances_promoteRelations _)).trans
    (advances_cleaned _)).trans (advances_committed _)) sound

/-- A suggestion that is rejected advances an annotation. -/
theorem advances_reject {id : AreaId} {area : Area} (done : state.reject id = .ok (next, area)) :
    state.Advances next := by
  rw [reject_eq_ok done]
  exact (advances_filter_suggestions state _).trans (advances_of_eq rfl rfl rfl rfl rfl rfl)

/-- Another selection of areas advances an annotation. -/
theorem advances_select (state : AnnotationState) {selection : List AreaId}
    (present : state.Sound → ∀ id ∈ selection, state.areas.has id = true) :
    state.Advances { state with selection := selection }.selectionTold :=
  fun sound => ⟨⟨sound.named, sound.areas, sound.suggestions, present sound⟩, Nat.le_refl _⟩

/-- Ids with one more id are the former ones and that id. -/
theorem mem_insertId {id other : AreaId} {ids : List AreaId} (member : other ∈ insertId id ids) :
    other = id ∨ other ∈ ids := by
  induction ids with
  | nil => exact Or.inl (List.mem_singleton.mp member)
  | cons first rest hypothesis =>
    rw [insertId] at member
    split at member
    · exact Or.inr member
    · split at member
      · exact List.mem_cons.mp member
      · rcases List.mem_cons.mp member with same | later
        · exact Or.inr (same ▸ List.mem_cons_self)
        · exact (hypothesis later).imp_right (List.mem_cons_of_mem _)

/-- Toggling an area advances. -/
theorem advances_toggle {id : AreaId} {value : Bool}
    (toggled : state.toggle id = .ok (next, value)) : state.Advances next := by
  obtain ⟨selection, source, made⟩ := toggle_eq_ok toggled
  rw [made]
  apply advances_select
  intro sound other member
  rcases source with fewer | ⟨present, more⟩
  · rw [fewer] at member
    exact sound.selection other (List.mem_filter.mp member).1
  · rw [more] at member
    rcases mem_insertId member with same | old
    · exact same ▸ present
    · exact sound.selection other old

/-- Changed relations advance an annotation. -/
theorem advances_withRelations {α : Type} (state : AnnotationState) (result : Relations × α)
    (hasChanged : α → Bool) : state.Advances (state.withRelations result hasChanged).1 := by
  have related (relations : Relations) : state.Advances { state with relations := relations } :=
    advances_of_eq rfl rfl rfl rfl rfl rfl
  rw [withRelations]
  split
  · exact (related result.1).trans (advances_recorded _)
  · exact fun sound => ⟨sound, Nat.le_refl _⟩

/-- An autosave advances. -/
theorem advances_autosave (state : AnnotationState) (now : Nat) :
    state.Advances (state.autosave now).1 := by
  rw [autosave]
  split
  · exact fun sound => ⟨sound, Nat.le_refl _⟩
  · split
    · exact fun sound => ⟨sound, Nat.le_refl _⟩
    · dsimp only
      split
      · exact advances_of_eq rfl rfl rfl rfl rfl rfl
      · exact advances_of_eq rfl rfl rfl rfl rfl rfl

/-- Restoring well-formed areas advances. -/
theorem advances_restore {snapshot : Snapshot}
    (fits : snapshot.areas.WellFormed state.tree state.id state.nextSeq) :
    state.Advances (state.restore snapshot) := by
  intro sound
  have selected (id : AreaId) (member : id ∈ state.selection.filter (snapshot.areas.has ·)) :
      snapshot.areas.has id = true := (List.mem_filter.mp member).2
  rw [restore]
  split
  · exact advances_recorded _ ⟨sound.named, fits, sound.suggestions, selected⟩
  · exact advances_recorded _ ⟨sound.named, fits, sound.suggestions, selected⟩

/-- The history holds nothing but what it held before an operation and what the operation made. -/
theorem Outcome.holds (outcome : state.Outcome next) {held : Snapshot}
    (holds : next.history.Holds held) : state.history.Holds held ∨ held = next.snapshot := by
  induction outcome with
  | quiet continues => exact Or.inl (continues.history ▸ holds)
  | recorded continues => exact continues.history ▸ holds.of_record
  | @committed changed continues =>
    have before : changed.history.Holds held ∨ held = changed.committed.snapshot :=
      holds.of_unfreeze
    rw [continues.history] at before
    exact before
  | @travelled result snapshot moved handed =>
    obtain ⟨told, made, continues, -⟩ := restore_eq { state with history := result.1 } snapshot
    rw [made] at holds ⊢
    have before : told.history.Holds held ∨ held = told.recorded.snapshot := holds.of_record
    rw [continues.history] at before
    refine before.imp_left fun old => ?_
    rcases moved with undone | redone | begun
    · exact History.holds_undo.1 (undone ▸ old)
    · exact History.holds_redo.1 (redone ▸ old)
    · exact History.holds_reset.1 (begun ▸ old)
  | restarted _ hypothesis => exact Or.inr holds.of_attach

/-- What holds of an annotation between two operations. -/
structure WellFormed (state : AnnotationState) : Prop where
  /-- The present areas are well formed. -/
  sound : state.Sound
  /-- The areas of every state that the history may hand out are well formed. -/
  holds : ∀ held, state.history.Holds held →
    held.areas.WellFormed state.tree state.id state.nextSeq

/-- Restoring what the history hands out advances. -/
theorem WellFormed.travel (wellFormed : state.WellFormed)
    {result : History Snapshot × Option Snapshot}
    (handed : ∀ held, result.2 = some held → state.history.Holds held) :
    (state.travel result).1.Sound ∧ state.nextSeq ≤ (state.travel result).1.nextSeq := by
  rw [AnnotationState.travel]
  split
  · rename_i snapshot found
    have fits := wellFormed.holds snapshot (handed snapshot found)
    have moved : state.Advances { state with history := result.1 } :=
      advances_of_eq rfl rfl rfl rfl rfl rfl
    exact (moved.trans (advances_restore fits)) wellFormed.sound
  · exact ⟨wellFormed.sound, Nat.le_refl _⟩

/-- An operation that may fail advances if it does so where it succeeds. -/
theorem advances_attempt {α : Type} {result : Except Failure (AnnotationState × α)}
    {answer : α → Answer}
    (advances : ∀ next value, result = .ok (next, value) → state.Advances next) :
    state.Advances (state.attempt result answer).1 := by
  cases result with
  | ok success => exact advances _ _ rfl
  | error failure => exact fun sound => ⟨sound, Nat.le_refl _⟩

/-- The same for operations without a value. -/
theorem advances_attemptDone {result : Except Failure AnnotationState}
    (advances : ∀ next, result = .ok next → state.Advances next) :
    state.Advances (state.attemptDone result).1 := by
  cases result with
  | ok success => exact advances _ rfl
  | error failure => exact fun sound => ⟨sound, Nat.le_refl _⟩

/-- A change of an area that leaves its id, place, object and results alone advances. -/
theorem advances_changeLive {id : AreaId} {change : Area → Area}
    (changed : state.changeLive id change = .ok next)
    (unchanged : ∀ area, (change area).id = area.id ∧ (change area).seq = area.seq ∧
      (change area).object = area.object ∧ (change area).results = area.results) :
    state.Advances next := by
  rw [changeLive_eq_ok changed]
  refine (advances_changeArea state id (fun area => (unchanged area).1)
    (fun area => (unchanged area).2.1) fun area fits => ?_).trans (advances_recorded _)
  obtain ⟨sameId, -, object, results⟩ := unchanged area
  exact fits.of_eq sameId object results

/-- Every operation on a well-formed annotation leaves its areas, suggestions and selection sound,
and takes no place back. -/
theorem WellFormed.perform_sound (wellFormed : state.WellFormed) (operation : Operation) :
    (state.perform operation).1.Sound ∧ state.nextSeq ≤ (state.perform operation).1.nextSeq := by
  have same : state.Advances state := fun sound => ⟨sound, Nat.le_refl _⟩
  -- Only the journeys need more than sound present areas: they restore what the history holds.
  suffices advances : operation ≠ .undo ∧ operation ≠ .redo ∧ operation ≠ .reset →
      state.Advances (state.perform operation).1 by
    cases operation with
    | undo => exact wellFormed.travel fun held => History.holds_undo.2
    | redo => exact wellFormed.travel fun held => History.holds_redo.2
    | reset => exact wellFormed.travel fun held => History.holds_reset.2
    | _ => exact advances (by simp) wellFormed.sound
  intro staying
  cases operation with
  | create shape value control object =>
    exact advances_attempt fun next id created => advances_create created
  | addResult area control value =>
    refine advances_attemptDone fun next added => ?_
    obtain ⟨element, found, made⟩ := addResult_eq_ok added
    rw [made]
    refine (advances_changeArea state area ?_ ?_ ?_).trans (advances_recorded _)
    · intro area
      rw [recordedResult]
      split
      · rfl
      · rfl
    · intro area
      rw [recordedResult]
      split
      · rfl
      · rfl
    · exact fun area fits => fits.recordedResult found
  | updateValue area control value =>
    refine advances_attemptDone fun next updated => ?_
    rw [updateValue_eq_ok updated]
    refine (advances_changeArea state area ?_ ?_ ?_).trans (advances_recorded _)
    · exact fun _ => rfl
    · exact fun _ => rfl
    · exact fun area fits => fits.setValue control value
  | updateShape area shape =>
    exact advances_attemptDone fun next changed =>
      advances_changeLive changed fun _ => ⟨rfl, rfl, rfl, rfl⟩
  | setParent area parent =>
    exact advances_attemptDone fun next changed =>
      advances_changeLive changed fun _ => ⟨rfl, rfl, rfl, rfl⟩
  | setReadonly area value =>
    exact advances_attemptDone fun next changed =>
      advances_changeLive changed fun _ => ⟨rfl, rfl, rfl, rfl⟩
  | setHidden area value =>
    exact advances_attemptDone fun next changed =>
      advances_changeLive changed fun _ => ⟨rfl, rfl, rfl, rfl⟩
  | delete area => exact advances_attempt fun next removed deleted => advances_delete deleted
  | deleteAll =>
    exact ((advances_cleared state).trans (advances_foldl (fun state id => state.fire (.deleted id))
      state.areas.keys (fun _ _ _ => advances_of_eq rfl rfl rfl rfl rfl rfl) _)).trans
        (advances_recorded _)
  | clean => exact advances_cleaned state
  | load payload options => exact advances_load state payload options
  | loadItems items options => exact advances_loadItems state items options
  | accept area => exact advances_attempt fun next id accepted => advances_accept accepted
  | reject area => exact advances_attempt fun next removed rejected => advances_reject rejected
  | acceptAll => exact advances_acceptAll state
  | addVersions versions => exact advances_of_eq rfl rfl rfl rfl rfl rfl
  | toggleDraft => exact advances_toggleDraft state
  | autosave now => exact advances_autosave state now
  | refuseDrafts value => exact advances_of_eq rfl rfl rfl rfl rfl rfl
  | select area =>
    refine advances_attemptDone fun next selected => ?_
    obtain ⟨present, made⟩ := select_eq_ok selected
    rw [made]
    exact advances_select state fun _ id member => List.mem_singleton.mp member ▸ present
  | toggle area => exact advances_attempt fun next value toggled => advances_toggle toggled
  | unselectAll =>
    rw [perform, unselectAll]
    split
    · exact same
    · exact advances_select state fun _ => List.forall_mem_nil _
  | setGroundTruth value => exact advances_of_eq rfl rfl rfl rfl rfl rfl
  | setEditable value => exact advances_of_eq rfl rfl rfl rfl rfl rfl
  | setKey key => exact advances_of_eq rfl rfl rfl rfl rfl rfl
  | relate source target =>
    refine advances_attempt fun next value related => ?_
    have advances := advances_withRelations state
      (state.relations.insert { first := source, second := target }) (· == true)
    rwa [← relate_eq_ok related] at advances
  | unrelate place => exact advances_withRelations state (state.relations.delete place) _
  | rotateRelation place => exact advances_withRelations state (state.relations.rotate place) _
  | labelRelation place labels =>
    exact advances_withRelations state
      (state.relations.setLabels place (declaredLabels state.tree labels)) _
  | unrelateArea area => exact advances_withRelations state (state.relations.deleteArea area) _
  | undo => exact absurd rfl staying.1
  | redo => exact absurd rfl staying.2.1
  | reset => exact absurd rfl staying.2.2
  | resetHistory => exact advances_of_eq rfl rfl rfl rfl rfl rfl

/-- No operation changes the configuration or the id. -/
theorem Outcome.stays (outcome : state.Outcome next) :
    next.tree = state.tree ∧ next.id = state.id := by
  induction outcome with
  | quiet continues => exact ⟨continues.tree, continues.id⟩
  | @recorded changed continues =>
    obtain ⟨_, _, _, made⟩ := recorded_eq changed
    rw [made]
    exact ⟨continues.tree, continues.id⟩
  | @committed changed continues =>
    obtain ⟨_, _, _, made⟩ := committed_eq changed
    rw [made]
    exact ⟨continues.tree, continues.id⟩
  | @travelled result snapshot =>
    obtain ⟨told, made, continues, -⟩ := restore_eq { state with history := result.1 } snapshot
    obtain ⟨_, _, _, recorded⟩ := recorded_eq told
    rw [made, recorded]
    exact ⟨continues.tree, continues.id⟩
  | restarted _ hypothesis => exact hypothesis

/-- A sound annotation whose history holds well-formed areas stays well formed through an
outcome. -/
theorem WellFormed.outcome (wellFormed : state.WellFormed) (outcome : state.Outcome next)
    (sound : next.Sound) (grows : state.nextSeq ≤ next.nextSeq) : next.WellFormed := by
  refine ⟨sound, fun held holds => ?_⟩
  rcases outcome.holds holds with old | made
  · rw [outcome.stays.1, outcome.stays.2]
    exact (wellFormed.holds held old).mono grows
  · rw [made]
    exact sound.areas

/-- Every operation keeps an annotation well formed. -/
theorem perform_wellFormed (wellFormed : state.WellFormed) (operation : Operation) :
    (state.perform operation).1.WellFormed := by
  obtain ⟨sound, grows⟩ := wellFormed.perform_sound operation
  cases operation with
  | clean =>
    have continues := continues_cleaned state
    refine ⟨sound, fun held holds => ?_⟩
    show held.areas.WellFormed state.cleaned.1.tree state.cleaned.1.id state.cleaned.1.nextSeq
    rw [continues.tree, continues.id]
    exact (wellFormed.holds held (continues.history ▸ holds)).mono grows
  | _ => exact wellFormed.outcome (perform_outcome state (by simp)) sound grows

/-- A new annotation of a bound tree is well formed. -/
theorem wellFormed_start (id : String) (kind : AnnotationKind) (config : ConfigTree)
    (catalogue : Catalogue) (task : Option Json) (settings : Settings) (session : Session) :
    (start id kind (.ofConfig config catalogue task) settings session).WellFormed := by
  refine ⟨⟨fun name element found => ElementTree.name_of_get? found, .nil, .nil,
    List.forall_mem_nil _⟩, fun held holds => ?_⟩
  rw [History.Holds.of_attach holds]
  exact .nil

/-- A run of operations keeps an annotation well formed. -/
theorem WellFormed.run {state : AnnotationState} (wellFormed : state.WellFormed)
    (operations : List Operation) : (state.run operations).WellFormed :=
  run_keeps (fun _ before => perform_wellFormed before) wellFormed operations

/-- Whatever operations are carried out on an annotation of a bound tree, its areas, its
suggestions and its selection are well formed, and so are the areas of every state that its history
may hand out. -/
theorem run_wellFormed (id : String) (kind : AnnotationKind) (config : ConfigTree)
    (catalogue : Catalogue) (task : Option Json) (settings : Settings) (session : Session)
    (operations : List Operation) :
    ((start id kind (.ofConfig config catalogue task) settings session).run
      operations).WellFormed :=
  (wellFormed_start id kind config catalogue task settings session).run operations

end AnnotationState

end Labeling
