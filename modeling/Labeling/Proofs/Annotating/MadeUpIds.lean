import Labeling.Proofs.Annotating.Waiting

/-!
# Made-up ids

Made-up ids come from the supply of the session, one after the other (`madeUpIds`). In a run whose
made-up ids are all new when they are made up, the suggested relations join different areas, and no
two of them the same ones (`Waits.perform`): a suggestion that is accepted takes its relations to an
id that no relation has.
-/
namespace Labeling

namespace Relation

variable {relation : Relation} {source target id : AreaId}

/-- An area is one of the ends of a relation it touches. -/
theorem touches_iff : relation.touches id = true ↔ relation.first = id ∨ relation.second = id := by
  rw [touches, Bool.or_eq_true, decide_eq_true_eq, decide_eq_true_eq]

/-- An end of a moved relation is the place that it moved to, or an end of the relation. -/
theorem touches_of_touches_retarget
    (touches : (relation.retarget source target).touches id = true) :
    id = target ∨ relation.touches id = true := by
  have moved {area : AreaId} (same : (if area = source then target else area) = id) :
      id = target ∨ area = id := by
    split at same
    · exact Or.inl same.symm
    · exact Or.inr same
  rcases touches_iff.mp touches with first | second
  · exact (moved first).imp_right fun same => touches_iff.mpr (Or.inl same)
  · exact (moved second).imp_right fun same => touches_iff.mpr (Or.inr same)

/-- A relation stays where it is as another area moves. -/
theorem retarget_of_not_touches (apart : relation.touches source = false) (target : AreaId) :
    relation.retarget source target = relation := by
  rw [← Bool.not_eq_true, touches_iff, not_or] at apart
  have first : (if relation.first = source then target else relation.first) = relation.first :=
    if_neg apart.1
  have second : (if relation.second = source then target else relation.second) = relation.second :=
    if_neg apart.2
  rw [retarget]
  dsimp only
  rw [first, second]

end Relation

namespace Relations

variable {owner : String} {relations : Relations} {source target : AreaId}

/-- Joined relations stay joined as an area moves to a place that no relation has. -/
theorem Joined.retarget (joined : relations.Joined owner)
    (new : ∀ relation ∈ relations, relation.touches target = false)
    (targetOwner : target.owner = owner) : (relations.retarget source target).Joined owner := by
  let move (area : AreaId) : AreaId := if area = source then target else area
  have move_owner {area : AreaId} (fits : area.owner = owner) : (move area).owner = owner := by
    show (if area = source then target else area).owner = owner
    split
    · exact targetOwner
    · exact fits
  have move_eq_iff {left right : AreaId} (leftApart : left ≠ target) (rightApart : right ≠ target) :
      move left = move right ↔ left = right := by
    constructor
    · intro same
      change (if left = source then target else left) =
        (if right = source then target else right) at same
      split at same
      · rename_i leftMoves
        split at same
        · rename_i rightMoves
          exact leftMoves.trans rightMoves.symm
        · exact absurd same.symm rightApart
      · split at same
        · exact absurd same leftApart
        · exact same
    · exact congrArg move
  have ends {relation : Relation} (member : relation ∈ relations) :
      relation.first ≠ target ∧ relation.second ≠ target := by
    have apart := new relation member
    rw [← Bool.not_eq_true, Relation.touches_iff, not_or] at apart
    exact apart
  refine ⟨fun moved member => ?_, fun moved member => ?_, List.pairwise_map.mpr ?_⟩
  · obtain ⟨relation, inside, same⟩ := List.mem_map.mp member
    rw [← same]
    exact ⟨move_owner (joined.owner relation inside).1, move_owner (joined.owner relation inside).2⟩
  · obtain ⟨relation, inside, same⟩ := List.mem_map.mp member
    rw [← same]
    exact fun equal =>
      joined.apart relation inside ((move_eq_iff (ends inside).1 (ends inside).2).mp equal)
  · refine joined.distinct.imp_of_mem fun {earlier later} earlierInside laterInside apart => ?_
    obtain ⟨first, second⟩ := ends earlierInside
    obtain ⟨laterFirst, laterSecond⟩ := ends laterInside
    show Relation.connects ⟨move earlier.first, move earlier.second, _, _⟩
      (move later.first) (move later.second) = false
    rw [← apart, Relation.connects, Relation.connects]
    simp only [move_eq_iff first laterFirst, move_eq_iff second laterSecond,
      move_eq_iff first laterSecond, move_eq_iff second laterFirst]

/-- Of joined relations only one joins two areas. -/
theorem Joined.between_eq (joined : relations.Joined owner) {relation : Relation}
    (member : relation ∈ relations) :
    relations.between relation.first relation.second = [relation] := by
  obtain ⟨before, after, whole⟩ := List.append_of_mem member
  have distinct := joined.distinct
  rw [whole, List.pairwise_append] at distinct
  obtain ⟨-, later, apart⟩ := distinct
  have none : Relations.between before relation.first relation.second = [] :=
    between_eq_nil_iff.mpr fun other inside => apart other inside relation List.mem_cons_self
  have rest : Relations.between after relation.first relation.second = [] := by
    refine between_eq_nil_iff.mpr fun other inside => ?_
    have differs := (List.pairwise_cons.mp later).1 other inside
    rw [← Bool.not_eq_true] at differs ⊢
    intro joins
    rw [Relation.connects_of_connects joins] at differs
    exact differs relation.connects_ends
  rw [whole, between_append, between_cons, if_pos relation.connects_ends, none, rest]
  rfl

end Relations

namespace AnnotationState

variable {state next : AnnotationState}

/-! ## New ids -/

/-- Whether an id stands for an area or a suggestion, or is an end of a relation. -/
def mentions (state : AnnotationState) (id : AreaId) : Bool :=
  state.areas.has id || state.suggestions.has id ||
    (state.relations ++ state.suggestedRelations).any (·.touches id)

/-- The ids that an operation makes up. -/
def madeUpIds (state : AnnotationState) (operation : Operation) : List AreaId :=
  let before := state.session.generated
  let count := (state.perform operation).1.session.generated - before
  (List.range count).map fun place =>
    state.areaId (state.session.supply.name (before + place + 1))

/-- Whether the ids that a run makes up are new when they are made up. -/
def isFresh (state : AnnotationState) : List Operation → Bool
  | [] => true
  | operation :: rest =>
    (state.madeUpIds operation).all (!state.mentions ·) &&
      isFresh (state.perform operation).1 rest

/-- A run is fresh just if its parts are. -/
theorem isFresh_append (state : AnnotationState) (first second : List Operation) :
    state.isFresh (first ++ second) =
      (state.isFresh first && (state.run first).isFresh second) := by
  induction first generalizing state with
  | nil => rfl
  | cons operation rest hypothesis =>
    rw [List.cons_append, isFresh, isFresh, hypothesis, Bool.and_assoc]
    rfl

/-- What every operation of a fresh run keeps, the run keeps. -/
theorem run_keeps_of_isFresh {holds : AnnotationState → Prop} {operations : List Operation}
    (fresh : state.isFresh operations = true)
    (keeps : ∀ state, holds state → ∀ operation ∈ operations,
      (∀ id ∈ state.madeUpIds operation, state.mentions id = false) →
        holds (state.perform operation).1)
    (before : holds state) : holds (state.run operations) := by
  induction operations generalizing state with
  | nil => exact before
  | cons operation rest hypothesis =>
    rw [isFresh, Bool.and_eq_true, List.all_eq_true] at fresh
    have new (id : AreaId) (member : id ∈ state.madeUpIds operation) :
        state.mentions id = false := (Bool.not_eq_true' _).mp (fresh.1 id member)
    exact hypothesis fresh.2
      (fun state holding other member => keeps state holding other (List.mem_cons_of_mem _ member))
      (keeps state before operation List.mem_cons_self new)

/-- An operation makes up the ids that follow. -/
theorem mem_madeUpIds {operation : Operation} {place : Nat}
    (later : state.session.generated < place)
    (earlier : place ≤ (state.perform operation).1.session.generated) :
    state.areaId (state.session.supply.name place) ∈ state.madeUpIds operation := by
  rw [madeUpIds]
  refine List.mem_map.mpr ⟨place - state.session.generated - 1, List.mem_range.mpr ?_, ?_⟩
  · omega
  · have same : state.session.generated + (place - state.session.generated - 1) + 1 = place := by
      omega
    rw [same]

/-- An id that is mentioned nowhere is no area, no suggestion and no end of a relation. -/
theorem mentions_eq_false_iff {id : AreaId} : state.mentions id = false ↔
    state.areas.has id = false ∧ state.suggestions.has id = false ∧
      ∀ relation ∈ state.relations ++ state.suggestedRelations, relation.touches id = false := by
  rw [mentions, Bool.or_eq_false_iff, Bool.or_eq_false_iff, List.any_eq_false, and_assoc]
  simp only [Bool.not_eq_true]

/-- A suggestion is accepted under its own id or, if that is taken, under one that is new. -/
theorem acceptedId_new (sound : state.Sound) {id : AreaId} {area : Area}
    (found : state.suggestions.get? id = some area)
    (new : ∀ made ∈ state.madeUpIds (.accept id), state.mentions made = false) :
    state.acceptedId id = id ∧ state.areas.has id = false ∨
      state.mentions (state.acceptedId id) = false := by
  obtain ⟨named, -, accepted⟩ := accepted_perform sound found
  have generated := accepted.generated
  rw [acceptedId]
  split
  · rename_i taken
    rw [named, if_pos taken] at generated
    exact Or.inr (new _ (mem_madeUpIds (Nat.lt_succ_self _) (Nat.le_of_eq generated.symm)))
  · rename_i free
    exact Or.inl ⟨rfl, Bool.eq_false_iff.mpr free⟩

/-! ## Suggested relations join different areas -/

/-- A relation of several follows where an area moves. -/
theorem touches_of_mem_retarget {relations : Relations} {source target id : AreaId}
    {relation : Relation} (member : relation ∈ relations.retarget source target)
    (touches : relation.touches id = true) :
    id = target ∨ ∃ former ∈ relations, former.touches id = true := by
  obtain ⟨former, inside, same⟩ := List.mem_map.mp member
  rw [← same] at touches
  exact (Relation.touches_of_touches_retarget touches).imp_right fun old => ⟨former, inside, old⟩

/-- Accepting suggestions one after the other makes up ids in order. -/
theorem generated_acceptAreas (pending : List Area) (state : AnnotationState) :
    state.session.generated ≤ (state.acceptAreas pending).session.generated := by
  induction pending generalizing state with
  | nil => exact Nat.le_refl _
  | cons area rest hypothesis =>
    obtain ⟨-, moved⟩ := acceptArea_eq_acceptedId state area
    have step : state.session.generated ≤ (state.acceptArea area).1.session.generated := by
      rw [moved]
      dsimp only
      split
      · exact Nat.le_succ _
      · exact Nat.le_refl _
    exact Nat.le_trans step (hypothesis _)

/-- Suggested relations stay joined as suggestions are accepted one after the other, if no suggested
relation has an id that is made up. -/
theorem joined_acceptAreas {pending : List Area}
    (joined : state.suggestedRelations.Joined state.id)
    (new : ∀ place, state.session.generated < place →
      place ≤ (state.acceptAreas pending).session.generated →
      ∀ relation ∈ state.suggestedRelations,
        relation.touches (state.areaId (state.session.supply.name place)) = false) :
    (state.acceptAreas pending).suggestedRelations.Joined state.id := by
  induction pending generalizing state with
  | nil => exact joined
  | cons area rest hypothesis =>
    let next := (state.acceptArea area).1
    obtain ⟨-, moved⟩ := acceptArea_eq_acceptedId state area
    have bound := generated_acceptAreas rest next
    have count : next.session.generated =
        if state.areas.has area.id then state.session.generated + 1
        else state.session.generated :=
      congrArg (fun made : AnnotationState => made.session.generated) moved
    have supply : next.session.supply = state.session.supply := by
      show (state.acceptArea area).1.session.supply = _
      rw [moved]
    have sameId : next.id = state.id := (continues_acceptArea state area).id
    have relations : next.suggestedRelations =
        state.suggestedRelations.retarget area.id (state.acceptedId area.id) :=
      congrArg AnnotationState.suggestedRelations moved
    show (next.acceptAreas rest).suggestedRelations.Joined state.id
    rw [← sameId]
    refine hypothesis ?_ ?_
    · rw [relations, sameId]
      by_cases taken : state.areas.has area.id = true
      · rw [acceptedId, if_pos taken]
        rw [if_pos taken] at count
        exact joined.retarget (new _ (Nat.lt_succ_self _) (count ▸ bound)) rfl
      · rw [acceptedId, if_neg taken, Relations.retarget_self]
        exact joined
    · intro place later earlier relation member
      rw [areaId, sameId, supply, ← Bool.not_eq_true]
      intro touches
      rw [relations] at member
      by_cases taken : state.areas.has area.id = true
      · rw [if_pos taken] at count
        rw [acceptedId, if_pos taken] at member
        rcases touches_of_mem_retarget member touches with same | ⟨former, inside, old⟩
        · have places := state.session.supply.injective (AreaId.mk.inj same).1
          omega
        · exact Bool.false_ne_true
            ((new place (by omega) earlier former inside).symm.trans old)
      · rw [if_neg taken] at count
        rw [acceptedId, if_neg taken, Relations.retarget_self] at member
        exact Bool.false_ne_true ((new place (by omega) earlier relation member).symm.trans touches)

/-- The invariant that a fresh run keeps. -/
structure Waits (state : AnnotationState) : Prop where
  /-- The annotation is well formed. -/
  wellFormed : state.WellFormed
  /-- The suggested relations join different areas, and no two of them the same ones. -/
  joined : state.suggestedRelations.Joined state.id

/-- The suggested relations stay in order as they follow a suggestion that is accepted. -/
theorem Waits.joined_retarget (waits : state.Waits) {id : AreaId} {area : Area}
    (found : state.suggestions.get? id = some area)
    (new : ∀ made ∈ state.madeUpIds (.accept id), state.mentions made = false) :
    (state.suggestedRelations.retarget id (state.acceptedId id)).Joined state.id := by
  have sound := waits.wellFormed.sound
  rcases acceptedId_new sound found new with ⟨own, -⟩ | fresh
  · rw [own, Relations.retarget_self]
    exact waits.joined
  · obtain ⟨-, -, untouched⟩ := mentions_eq_false_iff.mp fresh
    have named : area.id = id := sound.suggestions.keys _ (Entries.mem_of_get? found)
    have owner : id.owner = state.id :=
      named ▸ (sound.suggestions.each _ (Entries.mem_of_get? found)).owner
    exact waits.joined.retarget
      (fun relation member => untouched relation (List.mem_append_right _ member))
      (owner_acceptedId owner)

/-- The id of the annotation stays as all suggestions become areas. -/
theorem id_allAccepted (state : AnnotationState) : state.allAccepted.id = state.id := by
  let begun : AnnotationState := { state with suggestions := [] }.frozen
  exact (continues_acceptAreas state.suggestions.bySeq begun).id

/-- The suggested relations stay in order as they follow all suggestions. -/
theorem Waits.joined_allAccepted (waits : state.Waits)
    (new : ∀ id ∈ state.madeUpIds .acceptAll, state.mentions id = false) :
    state.allAccepted.suggestedRelations.Joined state.id := by
  obtain ⟨selection, controlValues, performed⟩ := perform_acceptAll state
  rw [promoteRelations_eq] at performed
  have generated : (state.perform .acceptAll).1.session.generated =
      state.allAccepted.session.generated := by rw [performed]; rfl
  let begun : AnnotationState := { state with suggestions := [] }.frozen
  have joined : begun.suggestedRelations.Joined begun.id := waits.joined
  refine joined_acceptAreas joined ?_
  intro place later earlier relation member
  have fresh := new _ (mem_madeUpIds later (generated ▸ earlier))
  obtain ⟨-, -, apart⟩ := mentions_eq_false_iff.mp fresh
  exact apart relation (List.mem_append_right _ member)

/-- Every operation that makes up new ids only keeps what waits. -/
theorem Waits.perform (waits : state.Waits) {operation : Operation}
    (new : ∀ id ∈ state.madeUpIds operation, state.mentions id = false) :
    (state.perform operation).1.Waits := by
  refine ⟨perform_wellFormed waits.wellFormed operation, ?_⟩
  have sound := waits.wellFormed.sound
  have gathered (gathers : state.Gathers (state.perform operation).1) :
      (state.perform operation).1.suggestedRelations.Joined (state.perform operation).1.id := by
    obtain ⟨items, added⟩ := gathers.relations
    rw [added, gathers.id]
    exact joined_addRelations waits.joined items
  cases decides : operation.decides with
  | false => exact gathered (gathers_perform state decides)
  | true =>
    cases operation with
    | accept id =>
      cases found : state.suggestions.get? id with
      | none =>
        rw [perform_accept_of_none found]
        exact waits.joined
      | some area =>
        obtain ⟨named, -, accepted⟩ := accepted_perform sound found
        rw [accepted.suggestedRelations, accepted.id, named]
        exact (waits.joined_retarget found new).filter _
    | reject id =>
      show (state.attempt (state.reject id) .removed).1.suggestedRelations.Joined
        (state.attempt (state.reject id) .removed).1.id
      cases rejected : state.reject id with
      | error failure => exact waits.joined
      | ok result =>
        obtain ⟨next, area⟩ := result
        show next.suggestedRelations.Joined next.id
        rw [reject_eq_ok rejected]
        exact waits.joined.filter _
    | acceptAll =>
      obtain ⟨selection, controlValues, performed⟩ := perform_acceptAll state
      rw [promoteRelations_eq] at performed
      rw [performed]
      show Relations.Joined state.allAccepted.id (state.allAccepted.suggestedRelations.filter _)
      rw [id_allAccepted]
      exact (waits.joined_allAccepted new).filter _
    | _ => contradiction

/-- What waits in an annotation that begins is nothing. -/
theorem waits_start (id : String) (kind : AnnotationKind) (config : ConfigTree)
    (catalogue : Catalogue) (task : Option Json) (settings : Settings) (session : Session) :
    (start id kind (.ofConfig config catalogue task) settings session).Waits :=
  ⟨wellFormed_start id kind config catalogue task settings session, .nil _⟩

/-- A fresh run keeps what waits. -/
theorem Waits.run (waits : state.Waits) {operations : List Operation}
    (fresh : state.isFresh operations = true) : (state.run operations).Waits :=
  run_keeps_of_isFresh fresh (fun _ before _ _ new => before.perform new) waits

end AnnotationState
end Labeling
