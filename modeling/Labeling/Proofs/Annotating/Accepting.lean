import Labeling.Proofs.Annotating.Superseding
import Labeling.Proofs.Relations

/-!
# What accepting a suggestion does

Accepting a suggestion moves it from the suggestions to the areas, under its own id or a made-up
one; its suggested relations follow it, and those with two accepted ends become relations
(`Accepted`, `accepted_perform`). Relations are looked at pair by pair: the relations that join two
areas, with those that are suggested for them added, are the same before and after suggested
relations become relations (`owed_promoteRelations`).
-/
namespace Labeling

namespace Relation

variable {relation other : Relation} {left right : AreaId}

/-- A relation joins two areas just if they are its ends in one order or the other. -/
theorem connects_iff : relation.connects left right = true ↔
    relation.first = left ∧ relation.second = right ∨
      relation.first = right ∧ relation.second = left := by
  rw [connects, Bool.or_eq_true, Bool.and_eq_true, Bool.and_eq_true, decide_eq_true_eq,
    decide_eq_true_eq, decide_eq_true_eq, decide_eq_true_eq]

/-- A relation joins its ends. -/
theorem connects_ends (relation : Relation) :
    relation.connects relation.first relation.second = true :=
  connects_iff.mpr (Or.inl ⟨rfl, rfl⟩)

/-- Another relation joins the ends of one just if it joins the areas that the one joins. -/
theorem connects_of_connects (joins : relation.connects left right = true) :
    other.connects relation.first relation.second = other.connects left right := by
  rw [Bool.eq_iff_iff, connects_iff, connects_iff]
  rcases connects_iff.mp joins with ⟨first, second⟩ | ⟨first, second⟩
  · rw [first, second]
  · rw [first, second, or_comm]

/-- Nothing moves to where it is. -/
theorem retarget_self (id : AreaId) (relation : Relation) :
    relation.retarget id id = relation := by
  have stays (area : AreaId) : (if area = id then id else area) = area := by
    split
    · rename_i same
      exact same.symm
    · rfl
  rw [retarget]
  dsimp only
  rw [stays, stays]

end Relation

namespace Relations

variable {relations : Relations} {left right : AreaId}

/-- The relations that join two areas. -/
def between (relations : Relations) (left right : AreaId) : Relations :=
  relations.filter (·.connects left right)

/-- The relations with others added in order, where they may be added. -/
def addAll (relations additions : Relations) : Relations :=
  additions.foldl (fun relations relation => (relations.insert relation).1) relations

/-- A relation is one of those that join some areas if it is there and joins them. -/
theorem mem_between {relation : Relation} : relation ∈ relations.between left right ↔
    relation ∈ relations ∧ relation.connects left right = true := List.mem_filter

/-- Nothing joins two areas just if no relation does. -/
theorem between_eq_nil_iff : relations.between left right = [] ↔
    ∀ relation ∈ relations, relation.connects left right = false := by
  rw [between, List.filter_eq_nil_iff]
  simp only [Bool.not_eq_true]

/-- The relations that join two areas, part by part. -/
theorem between_append (relations others : Relations) (left right : AreaId) :
    between (relations ++ others) left right =
      relations.between left right ++ others.between left right := List.filter_append _ _

/-- The first relation joins two areas or does not. -/
theorem between_cons (relation : Relation) (rest : Relations) (left right : AreaId) :
    between (relation :: rest) left right =
      if relation.connects left right then relation :: rest.between left right
      else rest.between left right := List.filter_cons

/-- A relation is added to those that join its ends. -/
theorem between_insert (relations : Relations) (relation : Relation) (left right : AreaId) :
    (relations.insert relation).1.between left right =
      if relation.connects left right then ((relations.between left right).insert relation).1
      else relations.between left right := by
  by_cases joins : relation.connects left right = true
  · -- Whether it may be added depends on the relations that join its ends alone.
    have same : admits (relations.between left right) relation = relations.admits relation := by
      rw [admits, admits, between, List.any_filter]
      refine congrArg (fun joined => _ && !joined) (congrArg (List.any relations) ?_)
      funext other
      rw [Relation.connects_of_connects joins, Bool.and_self]
    rw [if_pos joins, Relations.insert, Relations.insert, same]
    split
    · rw [between_append, between_cons, if_pos joins]
      rfl
    · rfl
  · rw [if_neg joins, Relations.insert]
    split
    · rw [between_append, between_cons, if_neg joins]
      exact List.append_nil _
    · rfl

/-- Of the added relations those that join two areas are added to those that join them. -/
theorem between_addAll (relations additions : Relations) (left right : AreaId) :
    (relations.addAll additions).between left right =
      (relations.between left right).addAll (additions.between left right) := by
  induction additions generalizing relations with
  | nil => rfl
  | cons relation rest hypothesis =>
    have step : (relations.addAll (relation :: rest)).between left right =
        ((relations.insert relation).1.between left right).addAll (between rest left right) :=
      hypothesis _
    rw [step, between_insert]
    by_cases joins : relation.connects left right = true
    · rw [if_pos joins, between_cons, if_pos joins]
      rfl
    · rw [if_neg joins, between_cons, if_neg joins]

/-- What is there stays as a relation is added. -/
theorem mem_insert {relation : Relation} (member : relation ∈ relations) (addition : Relation) :
    relation ∈ (relations.insert addition).1 := by
  rw [Relations.insert]
  split
  · exact List.mem_append_left _ member
  · exact member

/-- What is there stays as relations are added. -/
theorem mem_addAll {relation : Relation} (member : relation ∈ relations) (additions : Relations) :
    relation ∈ relations.addAll additions := by
  induction additions generalizing relations with
  | nil => exact member
  | cons addition rest hypothesis => exact hypothesis (mem_insert member addition)

/-- Of the relations that satisfy the test, none joins areas that no such relation joins. -/
theorem between_filter_of_not {test : Relation → Bool}
    (fails : ∀ relation, relation.connects left right = true → test relation = false) :
    Relations.between (relations.filter test) left right = [] := by
  rw [between_eq_nil_iff]
  intro relation member
  rw [← Bool.not_eq_true]
  intro joins
  exact Bool.false_ne_true ((fails relation joins).symm.trans (List.mem_filter.mp member).2)

/-- If every relation that joins two areas satisfies the test, they all stay. -/
theorem between_filter_of_forall {test : Relation → Bool}
    (holds : ∀ relation, relation.connects left right = true → test relation = true) :
    Relations.between (relations.filter test) left right = relations.between left right := by
  rw [between, between, List.filter_filter]
  refine List.filter_congr fun relation _ => ?_
  cases joins : relation.connects left right with
  | false => rfl
  | true => exact holds relation joins

/-- Nothing moves to where it is. -/
theorem retarget_self (relations : Relations) (id : AreaId) :
    relations.retarget id id = relations :=
  (List.map_congr_left fun relation _ => relation.retarget_self id).trans (List.map_id _)

end Relations

namespace AnnotationState

variable {state next : AnnotationState}

/-! ## Suggested relations that become relations -/

/-- Whether an area is there and none is suggested under its id. -/
def isAccepted (areas suggestions : Areas) (id : AreaId) : Bool :=
  areas.has id && !suggestions.has id

/-- Whether both ends of a relation are accepted. -/
def isReady (areas suggestions : Areas) (relation : Relation) : Bool :=
  isAccepted areas suggestions relation.first && isAccepted areas suggestions relation.second

/-- A relation between two areas is ready just if both are accepted. -/
theorem isReady_of_connects {areas suggestions : Areas} {relation : Relation}
    {left right : AreaId} (joins : relation.connects left right = true) :
    isReady areas suggestions relation =
      (isAccepted areas suggestions left && isAccepted areas suggestions right) := by
  rw [isReady]
  rcases Relation.connects_iff.mp joins with ⟨first, second⟩ | ⟨first, second⟩
  · rw [first, second]
  · rw [first, second, Bool.and_comm]

/-- The ready relations are added to the relations, and the others wait. -/
theorem promoteRelations_eq (state : AnnotationState) :
    state.promoteRelations = { state with
      suggestedRelations :=
        state.suggestedRelations.filter fun relation =>
          !isReady state.areas state.suggestions relation
      relations :=
        state.relations.addAll
          (state.suggestedRelations.filter (isReady state.areas state.suggestions)) } := by
  rw [promoteRelations, Relations.extract, List.partition_eq_filter_filter]
  rfl

/-- No suggested relation has two accepted ends. -/
def Promoted (state : AnnotationState) : Prop :=
  ∀ relation ∈ state.suggestedRelations, isReady state.areas state.suggestions relation = false

/-- After the ready relations became relations no suggested one is ready. -/
theorem promoted_promoteRelations (state : AnnotationState) : state.promoteRelations.Promoted := by
  rw [promoteRelations_eq]
  intro relation member
  obtain ⟨-, waits⟩ := List.mem_filter.mp member
  exact (Bool.not_eq_true' _).mp waits

/-- With fewer areas no suggested relation becomes ready. -/
theorem isReady_of_fewer {areas fewer suggestions : Areas} {relation : Relation}
    (present : ∀ id, fewer.has id = true → areas.has id = true)
    (waits : isReady areas suggestions relation = false) :
    isReady fewer suggestions relation = false := by
  have accepted {id : AreaId} (kept : isAccepted fewer suggestions id = true) :
      isAccepted areas suggestions id = true := by
    obtain ⟨live, free⟩ := Bool.and_eq_true_iff.mp kept
    exact Bool.and_eq_true_iff.mpr ⟨present id live, free⟩
  rw [← Bool.not_eq_true] at waits ⊢
  intro ready
  obtain ⟨first, second⟩ := Bool.and_eq_true_iff.mp ready
  exact waits (Bool.and_eq_true_iff.mpr ⟨accepted first, accepted second⟩)

/-- Between accepted areas no relation waits. -/
theorem Promoted.between_eq_nil (promoted : state.Promoted) {left right : AreaId}
    (leftAccepted : isAccepted state.areas state.suggestions left = true)
    (rightAccepted : isAccepted state.areas state.suggestions right = true) :
    state.suggestedRelations.between left right = [] := by
  rw [Relations.between_eq_nil_iff]
  intro relation member
  rw [← Bool.not_eq_true]
  intro joins
  have waits := promoted relation member
  rw [isReady_of_connects joins, leftAccepted, rightAccepted] at waits
  contradiction

/-- The relations between two areas with those that are suggested for them. -/
def owed (state : AnnotationState) (left right : AreaId) : Relations :=
  (state.relations.between left right).addAll (state.suggestedRelations.between left right)

/-- As suggested relations become relations nothing is lost and nothing is added. -/
theorem owed_promoteRelations (state : AnnotationState) (left right : AreaId) :
    state.promoteRelations.owed left right = state.owed left right := by
  rw [promoteRelations_eq, owed, owed]
  dsimp only
  rw [Relations.between_addAll]
  cases ready : isAccepted state.areas state.suggestions left &&
      isAccepted state.areas state.suggestions right with
  | true =>
    rw [Relations.between_filter_of_forall fun relation joins => by
        rw [isReady_of_connects joins, ready],
      Relations.between_filter_of_not fun relation joins => by
        rw [isReady_of_connects joins, ready]
        rfl]
    rfl
  | false =>
    rw [Relations.between_filter_of_not fun relation joins => by
        rw [isReady_of_connects joins, ready],
      Relations.between_filter_of_forall fun relation joins => by
        rw [isReady_of_connects joins, ready]
        rfl]
    rfl

/-! ## One suggestion -/

/-- The area that a suggestion becomes. -/
def admitted (area : Area) (id : AreaId) (seq : Nat) : Area :=
  { area with id := id, fromSuggestion := true, hidden := false, seq := seq }

/-- The id under which a suggestion is accepted: its own, or a made-up one if there is an area
under it. -/
def acceptedId (state : AnnotationState) (id : AreaId) : AreaId :=
  if state.areas.has id then
    state.areaId (state.session.supply.name (state.session.generated + 1))
  else id

/-- What accepting a suggestion under an id makes of an annotation. -/
structure Accepted (state : AnnotationState) (area : Area) (made : AreaId)
    (next : AnnotationState) : Prop where
  /-- The id of the annotation stays. -/
  id : next.id = state.id
  /-- The configuration stays. -/
  tree : next.tree = state.tree
  /-- A place in the order of creation is taken. -/
  nextSeq : next.nextSeq = state.nextSeq + 1
  /-- An id is made up if the suggestion does not keep its own. -/
  generated : next.session.generated =
    if state.areas.has area.id then state.session.generated + 1 else state.session.generated
  /-- The suggestion is one no longer. -/
  suggestions : next.suggestions = state.suggestions.erase area.id
  /-- It is an area, and the classifications that it supersedes are gone. -/
  areas : next.areas = unsuperseded (state.areas.put made (admitted area made state.nextSeq))
  /-- Its relations follow it and wait if they are not ready. -/
  suggestedRelations : next.suggestedRelations =
    (state.suggestedRelations.retarget area.id made).filter fun relation =>
      !isReady (state.areas.put made (admitted area made state.nextSeq))
        (state.suggestions.erase area.id) relation
  /-- The ready ones become relations. -/
  relations : next.relations = state.relations.addAll
    ((state.suggestedRelations.retarget area.id made).filter
      (isReady (state.areas.put made (admitted area made state.nextSeq))
        (state.suggestions.erase area.id)))
  /-- The values of the controls are up to date. -/
  controlValues : next.controlValues = controlValuesOf next.tree next.areas

/-- Accepting a suggestion puts it among the areas under its accepted id. -/
theorem acceptArea_eq_acceptedId (state : AnnotationState) (area : Area) :
    (state.acceptArea area).2 = state.acceptedId area.id ∧
      (state.acceptArea area).1 = { state with
        session := { state.session with
          generated := if state.areas.has area.id then state.session.generated + 1
            else state.session.generated }
        nextSeq := state.nextSeq + 1
        areas := state.areas.put (state.acceptedId area.id)
          (admitted area (state.acceptedId area.id) state.nextSeq)
        suggestedRelations :=
          state.suggestedRelations.retarget area.id (state.acceptedId area.id) } := by
  rw [acceptArea, acceptedId]
  dsimp only
  split
  · exact ⟨rfl, rfl⟩
  · exact ⟨rfl, rfl⟩

/-- The accepted id of a suggestion is one of the annotation. -/
theorem owner_acceptedId {id : AreaId} (owner : id.owner = state.id) :
    (state.acceptedId id).owner = state.id := by
  rw [acceptedId]
  split
  · rfl
  · exact owner

/-- A well-formed suggestion becomes a well-formed area. -/
theorem wellFormed_admitted {tree : ElementTree} {owner : String} {area : Area} {id : AreaId}
    {seq : Nat} (fits : area.WellFormed tree owner) (named : id.owner = owner) :
    (admitted area id seq).WellFormed tree owner :=
  { fits with owner := named }

/-- With a suggestion among them the areas are well formed. -/
theorem wellFormed_put_admitted (sound : state.Sound) {id : AreaId} {area : Area}
    (found : state.suggestions.get? id = some area) :
    Areas.WellFormed state.tree state.id (state.nextSeq + 1)
      (state.areas.put (state.acceptedId id)
        (admitted area (state.acceptedId id) state.nextSeq)) := by
  have named : area.id = id := sound.suggestions.keys _ (Entries.mem_of_get? found)
  have fits : area.WellFormed state.tree state.id :=
    sound.suggestions.each _ (Entries.mem_of_get? found)
  have owner : (state.acceptedId id).owner = state.id := owner_acceptedId (named ▸ fits.owner)
  exact sound.areas.put (wellFormed_admitted fits owner) rfl

/-- Without a suggestion there is nothing to accept. -/
theorem perform_accept_of_none {id : AreaId} (absent : state.suggestions.get? id = none) :
    (state.perform (.accept id)).1 = state := by
  rw [perform, accept, pendingArea, absent]
  rfl

/-- A suggestion that is there is accepted under its accepted id. -/
theorem accepted_perform (sound : state.Sound) {id : AreaId} {area : Area}
    (found : state.suggestions.get? id = some area) :
    area.id = id ∧ (state.perform (.accept id)).2 = .area (state.acceptedId id) ∧
      state.Accepted area (state.acceptedId id) (state.perform (.accept id)).1 := by
  have named : area.id = id := sound.suggestions.keys _ (Entries.mem_of_get? found)
  let taken := { state with suggestions := state.suggestions.erase id }
  have performed : state.perform (.accept id) =
      ((taken.acceptArea area).1.promoteRelations.cleaned.1.recorded,
        .area (taken.acceptArea area).2) := by
    have pending : state.pendingArea id = .ok area := pendingArea_eq_ok.mpr found
    rw [perform, accept, pending]
    rfl
  obtain ⟨answer, moved⟩ := acceptArea_eq_acceptedId taken area
  have stays := (continues_acceptArea taken area).trans (continues_promoteRelations _)
  have wellFormed : (taken.acceptArea area).1.promoteRelations.areas.WellFormed
      (taken.acceptArea area).1.promoteRelations.tree
      (taken.acceptArea area).1.promoteRelations.id (state.nextSeq + 1) := by
    rw [stays.tree, stays.id, promoteRelations_eq, moved]
    exact named ▸ wellFormed_put_admitted sound found
  obtain ⟨selection, controlValues, cleans⟩ :=
    cleaned_eq (taken.acceptArea area).1.promoteRelations
  rw [areas_cleaned wellFormed] at cleans
  subst named
  rw [performed, answer, cleans, moved, promoteRelations_eq]
  exact ⟨rfl, rfl, rfl, rfl, rfl, rfl, rfl, rfl, rfl, rfl, rfl⟩

/-- The annotation with a suggestion among the areas and its relations moved there. -/
def admitting (state : AnnotationState) (area : Area) (made : AreaId) : AnnotationState :=
  { state with
    areas := state.areas.put made (admitted area made state.nextSeq)
    suggestions := state.suggestions.erase area.id
    suggestedRelations := state.suggestedRelations.retarget area.id made }

/-- Accepting a suggestion leaves no relation waiting for accepted areas. -/
theorem Accepted.promoted {area : Area} {made : AreaId} (accepted : state.Accepted area made next) :
    next.Promoted := by
  intro relation member
  rw [accepted.suggestedRelations] at member
  rw [accepted.areas, accepted.suggestions]
  exact isReady_of_fewer (fun _ => has_of_has_unsuperseded)
    ((Bool.not_eq_true' _).mp (List.mem_filter.mp member).2)

/-- Accepting a suggestion owes the same relations as before, those of the suggestion at its new
place. -/
theorem Accepted.owed {area : Area} {made : AreaId} (accepted : state.Accepted area made next)
    (left right : AreaId) : next.owed left right = (state.relations.between left right).addAll
      ((state.suggestedRelations.retarget area.id made).between left right) := by
  have moved := owed_promoteRelations (state.admitting area made) left right
  rw [promoteRelations_eq] at moved
  rw [AnnotationState.owed, accepted.relations, accepted.suggestedRelations]
  exact moved

/-! ## Every suggestion -/

/-- The annotation with suggestions among the areas, one after the other. -/
def acceptAreas (state : AnnotationState) (pending : List Area) : AnnotationState :=
  pending.foldl (fun state area => (state.acceptArea area).1) state

/-- The annotation with every suggestion among the areas, before relations are made and superseded
classifications removed. -/
def allAccepted (state : AnnotationState) : AnnotationState :=
  { state with suggestions := [] }.frozen.acceptAreas state.suggestions.bySeq

/-- The first suggestion becomes an area, and then the others do. -/
theorem acceptAreas_cons (state : AnnotationState) (area : Area) (rest : List Area) :
    state.acceptAreas (area :: rest) = (state.acceptArea area).1.acceptAreas rest := rfl

/-- What else waits is left as suggestions become areas. -/
theorem suggestions_acceptAreas (pending : List Area) (state : AnnotationState) :
    (state.acceptAreas pending).suggestions = state.suggestions := by
  induction pending generalizing state with
  | nil => rfl
  | cons area rest hypothesis =>
    obtain ⟨-, moved⟩ := acceptArea_eq_acceptedId state area
    have step : (state.acceptArea area).1.suggestions = state.suggestions := by rw [moved]
    exact (hypothesis _).trans step

/-- The annotation goes on as suggestions become areas. -/
theorem continues_acceptAreas (pending : List Area) (state : AnnotationState) :
    state.Continues (state.acceptAreas pending) :=
  continues_foldl _ continues_acceptArea pending state

/-- With every suggestion among the areas the annotation is sound. -/
theorem sound_allAccepted (sound : state.Sound) : state.allAccepted.Sound := by
  have begun : Sound { state with suggestions := [] }.frozen :=
    ⟨sound.named, sound.areas, .nil, sound.selection⟩
  refine (advances_foldl_acceptArea state.suggestions.bySeq _ (fun area member => ?_) begun).1
  exact sound.suggestions.each_bySeq member

/-- Accepting every suggestion puts them all among the areas, makes the ready relations and removes
superseded classifications. -/
theorem perform_acceptAll (state : AnnotationState) : ∃ selection controlValues,
    (state.perform .acceptAll).1 = { state.allAccepted.promoteRelations with
      areas := state.allAccepted.promoteRelations.cleaned.1.areas
      selection := selection
      controlValues := controlValues }.committed := by
  obtain ⟨selection, controlValues, cleans⟩ := cleaned_eq state.allAccepted.promoteRelations
  refine ⟨selection, controlValues, ?_⟩
  have performed : (state.perform .acceptAll).1 =
      state.allAccepted.promoteRelations.cleaned.1.committed := rfl
  rw [performed, cleans]

end AnnotationState
end Labeling
