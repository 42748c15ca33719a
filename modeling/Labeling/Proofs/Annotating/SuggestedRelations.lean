import Labeling.Proofs.Annotating.MadeUpIds
import Labeling.Proofs.Annotating.RelationEnds

/-!
# Suggested relations follow their areas

A relation suggested between two regions waits until both are accepted. Then it joins the ids under
which they were accepted, whichever of them came first, whatever else was accepted before, between
and after, and whether or not their own ids were taken (`run_suggested_relation`). Both regions wait
first (`WaitsFor`), then one of them for the id of the other one, and then none does (`Linked`);
what is accepted besides changes nothing about that.
-/
namespace Labeling

namespace Relations

variable {relations : Relations}

/-- A relation that may be added to no relations at all is the only one then. -/
theorem addAll_nil_singleton {relation : Relation} (apart : relation.first ≠ relation.second) :
    addAll [] [relation] = [relation] := by
  have admitted : admits [] relation = true := Bool.and_eq_true_iff.mpr ⟨decide_eq_true apart, rfl⟩
  show (Relations.insert [] relation).1 = [relation]
  rw [Relations.insert, if_pos admitted]
  rfl

/-- The relations that join the ends of a relation are those that join what it joins. -/
theorem between_of_connects {relation : Relation} {left right : AreaId}
    (joins : relation.connects left right = true) (relations : Relations) :
    relations.between relation.first relation.second = relations.between left right :=
  List.filter_congr fun _ _ => Relation.connects_of_connects joins

end Relations

namespace Relation

variable {relation : Relation} {left right : AreaId}

/-- A relation joins its areas in either order. -/
theorem connects_comm (relation : Relation) (left right : AreaId) :
    relation.connects left right = relation.connects right left := by
  rw [Bool.eq_iff_iff, connects_iff, connects_iff, or_comm]

/-- A relation touches the areas that it joins and no others. -/
theorem touches_of_connects (joins : relation.connects left right = true) (id : AreaId) :
    relation.touches id = true ↔ id = left ∨ id = right := by
  rw [touches_iff]
  rcases connects_iff.mp joins with ⟨first, second⟩ | ⟨first, second⟩
  · rw [first, second, eq_comm, eq_comm (b := id)]
  · rw [first, second, eq_comm, eq_comm (b := id), or_comm]

/-- A moved relation joins the place that it moved to and what it joined besides. -/
theorem connects_retarget {target : AreaId} (joins : relation.connects left right = true)
    (different : right ≠ left) : (relation.retarget left target).connects target right = true := by
  rw [connects_iff, retarget]
  rcases connects_iff.mp joins with ⟨first, second⟩ | ⟨first, second⟩
  · exact Or.inl ⟨if_pos first, (if_neg (second ▸ different)).trans second⟩
  · exact Or.inr ⟨(if_neg (first ▸ different)).trans first, if_pos second⟩

end Relation

namespace AnnotationState

variable {state next origin : AnnotationState} {id other made : AreaId} {area : Area}

/-! ## One acceptance -/

/-- A region is suggested under an id. -/
def SuggestsRegion (state : AnnotationState) (id : AreaId) : Prop :=
  ∃ area, state.suggestions.get? id = some area ∧ area.classification = false

instance (state : AnnotationState) (id : AreaId) : Decidable (state.SuggestsRegion id) :=
  decidable_of_iff ((state.suggestions.get? id).any (!·.classification) = true) <| by
    simp only [Option.any_eq_true, Bool.not_eq_true', SuggestsRegion]

/-- There is a region under an id, and nothing is suggested under it. -/
def HasRegion (state : AnnotationState) (id : AreaId) : Prop :=
  (∃ area, state.areas.get? id = some area ∧ area.classification = false) ∧
    state.suggestions.has id = false

/-- There is an area where a region is suggested or not. -/
theorem SuggestsRegion.has (suggests : state.SuggestsRegion id) :
    state.suggestions.has id = true := by
  obtain ⟨area, found, -⟩ := suggests
  exact (Entries.has_eq_true_iff _ _).mpr ⟨area, found⟩

/-- Where a region is, there is an area. -/
theorem HasRegion.has (region : state.HasRegion id) : state.areas.has id = true := by
  obtain ⟨⟨area, found, -⟩, -⟩ := region
  exact (Entries.has_eq_true_iff _ _).mpr ⟨area, found⟩

/-- A region that is there is accepted. -/
theorem HasRegion.isAccepted (region : state.HasRegion id) :
    isAccepted state.areas state.suggestions id = true := by
  rw [AnnotationState.isAccepted, region.has, region.2]
  rfl

/-- A suggestion waits as another one is accepted. -/
theorem SuggestsRegion.accepted (suggests : state.SuggestsRegion other)
    (different : other ≠ area.id) (accepted : state.Accepted area made next) :
    next.SuggestsRegion other := by
  obtain ⟨region, found, isRegion⟩ := suggests
  refine ⟨region, ?_, isRegion⟩
  rw [accepted.suggestions, Entries.get?_erase, if_neg different]
  exact found

/-- No relation is made for an area that is still suggested. -/
theorem Accepted.relations_between (accepted : state.Accepted area made next)
    (suggests : state.SuggestsRegion other) (different : other ≠ area.id) (any : AreaId) :
    next.relations.between any other = state.relations.between any other := by
  have waiting : (state.suggestions.erase area.id).has other = true := by
    rw [Entries.has, Entries.get?_erase, if_neg different]
    exact suggests.has
  rw [accepted.relations, Relations.between_addAll]
  rw [Relations.between_filter_of_not fun relation joins => by
    rw [isReady_of_connects joins, AnnotationState.isAccepted, AnnotationState.isAccepted, waiting]
    simp]
  rfl

/-- A relation that has an end that is still suggested goes on waiting at its new place. -/
theorem Accepted.retarget_mem (accepted : state.Accepted area made next) {relation : Relation}
    (member : relation ∈ state.suggestedRelations) (suggests : state.SuggestsRegion other)
    (different : other ≠ area.id) {any : AreaId}
    (joins : (relation.retarget area.id made).connects any other = true) :
    relation.retarget area.id made ∈ next.suggestedRelations := by
  have waiting : (state.suggestions.erase area.id).has other = true := by
    rw [Entries.has, Entries.get?_erase, if_neg different]
    exact suggests.has
  rw [accepted.suggestedRelations]
  refine List.mem_filter.mpr ⟨List.mem_map.mpr ⟨relation, member, rfl⟩, ?_⟩
  rw [isReady_of_connects joins, AnnotationState.isAccepted, AnnotationState.isAccepted, waiting]
  simp

/-- An area stays under its id as a suggestion is accepted under a new one. -/
theorem accepted_ne (sound : state.Sound) (found : state.suggestions.get? id = some area)
    (new : ∀ made ∈ state.madeUpIds (.accept id), state.mentions made = false)
    (present : state.areas.has other = true) : other ≠ state.acceptedId id := by
  intro same
  rcases acceptedId_new sound found new with ⟨own, free⟩ | fresh
  · rw [same, own, free] at present
    contradiction
  · rw [same, (mentions_eq_false_iff.mp fresh).1] at present
    contradiction

/-- A region stays as a suggestion is accepted. -/
theorem HasRegion.accepted (sound : state.Sound) (found : state.suggestions.get? id = some area)
    (new : ∀ made ∈ state.madeUpIds (.accept id), state.mentions made = false)
    (region : state.HasRegion other) : (state.perform (.accept id)).1.HasRegion other := by
  obtain ⟨named, -, accepted⟩ := accepted_perform sound found
  have different := accepted_ne sound found new region.has
  have wellFormed := wellFormed_put_admitted sound found
  obtain ⟨⟨former, stored, isRegion⟩, free⟩ := region
  refine ⟨⟨former, ?_, isRegion⟩, ?_⟩
  · rw [accepted.areas]
    refine get?_unsuperseded wellFormed ?_ isRegion
    exact (Entries.get?_put_of_ne _ different _).trans stored
  · rw [accepted.suggestions, Entries.has, Entries.get?_erase]
    split
    · rfl
    · exact free

/-- A suggested region is a region once it is accepted. -/
theorem hasRegion_acceptedId (sound : state.Sound) (suggests : state.SuggestsRegion id)
    (new : ∀ made ∈ state.madeUpIds (.accept id), state.mentions made = false) :
    (state.perform (.accept id)).1.HasRegion (state.acceptedId id) := by
  obtain ⟨area, found, isRegion⟩ := suggests
  obtain ⟨named, -, accepted⟩ := accepted_perform sound found
  refine ⟨⟨admitted area (state.acceptedId id) state.nextSeq, ?_, isRegion⟩, ?_⟩
  · rw [accepted.areas]
    exact get?_unsuperseded (wellFormed_put_admitted sound found) (Entries.get?_put_self _ _ _)
      isRegion
  · rw [accepted.suggestions, named, Entries.has, Entries.get?_erase]
    split
    · rfl
    · rename_i different
      rcases acceptedId_new sound found new with ⟨own, -⟩ | fresh
      · exact absurd own different
      · exact (mentions_eq_false_iff.mp fresh).2.1

/-! ## Two regions -/

/-- A relation waits for the second of the areas that it joins. -/
structure WaitsFor (origin : AnnotationState) (relation : Relation) (first second : AreaId)
    (state : AnnotationState) : Prop where
  /-- What waits is in order. -/
  waits : state.Waits
  /-- The relation is suggested. -/
  member : relation ∈ state.suggestedRelations
  /-- It joins both areas. -/
  joins : relation.connects first second = true
  /-- The second one is a suggested region. -/
  suggests : state.SuggestsRegion second
  /-- No relation was made for it. -/
  stays : ∀ other, state.relations.between other second = origin.relations.between other second

/-- Two regions are there, no relation is lost, and none waits for the regions. -/
structure Linked (origin : AnnotationState) (first second : AreaId)
    (state : AnnotationState) : Prop where
  /-- What waits is in order. -/
  waits : state.Waits
  /-- The first region is there. -/
  firstRegion : state.HasRegion first
  /-- So is the second one. -/
  secondRegion : state.HasRegion second
  /-- No relation waits for them. -/
  settled : state.suggestedRelations.between first second = []
  /-- No relation is lost. -/
  keeps : ∀ relation ∈ origin.relations, relation ∈ state.relations

variable {relation : Relation} {first second : AreaId}

/-- A relation waits as a suggestion is accepted that it does not join. -/
theorem WaitsFor.perform (waiting : WaitsFor origin relation first second state)
    (notFirst : state.suggestions.has id = true → id ≠ first) (notSecond : id ≠ second)
    (new : ∀ made ∈ state.madeUpIds (.accept id), state.mentions made = false) :
    WaitsFor origin relation first second (state.perform (.accept id)).1 := by
  have waits := waiting.waits.perform new
  cases found : state.suggestions.get? id with
  | none =>
    rw [perform_accept_of_none found]
    exact waiting
  | some area =>
    obtain ⟨named, -, accepted⟩ := accepted_perform waiting.waits.wellFormed.sound found
    subst named
    have apart : relation.touches area.id = false := by
      rw [← Bool.not_eq_true, Relation.touches_of_connects waiting.joins, not_or]
      exact ⟨notFirst ((Entries.has_eq_true_iff _ _).mpr ⟨area, found⟩), notSecond⟩
    have stays := Relation.retarget_of_not_touches apart (state.acceptedId area.id)
    have member := accepted.retarget_mem waiting.member waiting.suggests notSecond.symm
      (stays.symm ▸ waiting.joins)
    rw [stays] at member
    exact ⟨waits, member, waiting.joins, waiting.suggests.accepted notSecond.symm accepted,
      fun other => (accepted.relations_between waiting.suggests notSecond.symm other).trans
        (waiting.stays other)⟩

/-- A suggested region waits, and so does a relation to it, as another suggestion is accepted. -/
theorem WaitsFor.perform_before (waiting : WaitsFor origin relation first second state)
    (suggests : state.SuggestsRegion first) (notFirst : id ≠ first) (notSecond : id ≠ second)
    (new : ∀ made ∈ state.madeUpIds (.accept id), state.mentions made = false) :
    WaitsFor origin relation first second (state.perform (.accept id)).1 ∧
      (state.perform (.accept id)).1.SuggestsRegion first := by
  refine ⟨waiting.perform (fun _ => notFirst) notSecond new, ?_⟩
  cases found : state.suggestions.get? id with
  | none =>
    rw [perform_accept_of_none found]
    exact suggests
  | some area =>
    obtain ⟨named, -, accepted⟩ := accepted_perform waiting.waits.wellFormed.sound found
    exact suggests.accepted (named ▸ notFirst.symm) accepted

/-- A region stays as a suggestion is accepted or not. -/
theorem HasRegion.perform (region : state.HasRegion other) (sound : state.Sound)
    (new : ∀ made ∈ state.madeUpIds (.accept id), state.mentions made = false) :
    (state.perform (.accept id)).1.HasRegion other := by
  cases found : state.suggestions.get? id with
  | none =>
    rw [perform_accept_of_none found]
    exact region
  | some area => exact region.accepted sound found new

/-- A region stays, and a relation from it waits, as another suggestion is accepted. -/
theorem WaitsFor.perform_between (waiting : WaitsFor origin relation first second state)
    (region : state.HasRegion first) (notSecond : id ≠ second)
    (new : ∀ made ∈ state.madeUpIds (.accept id), state.mentions made = false) :
    WaitsFor origin relation first second (state.perform (.accept id)).1 ∧
      (state.perform (.accept id)).1.HasRegion first := by
  refine ⟨waiting.perform ?_ notSecond new, region.perform waiting.waits.wellFormed.sound new⟩
  -- Nothing is suggested under the id of the region.
  intro suggested same
  rw [same, region.2] at suggested
  contradiction

/-- Linked regions stay linked as a suggestion is accepted. -/
theorem Linked.perform (linked : Linked origin first second state)
    (new : ∀ made ∈ state.madeUpIds (.accept id), state.mentions made = false) :
    Linked origin first second (state.perform (.accept id)).1 := by
  have sound := linked.waits.wellFormed.sound
  have firstStays := linked.firstRegion.perform sound new
  have secondStays := linked.secondRegion.perform sound new
  refine ⟨linked.waits.perform new, firstStays, secondStays, ?_, fun relation member => ?_⟩
  · cases found : state.suggestions.get? id with
    | none =>
      rw [perform_accept_of_none found]
      exact linked.settled
    | some area =>
      obtain ⟨-, -, accepted⟩ := accepted_perform sound found
      exact accepted.promoted.between_eq_nil firstStays.isAccepted secondStays.isAccepted
  · cases found : state.suggestions.get? id with
    | none =>
      rw [perform_accept_of_none found]
      exact linked.keeps relation member
    | some area =>
      obtain ⟨-, -, accepted⟩ := accepted_perform sound found
      rw [accepted.relations]
      exact Relations.mem_addAll (linked.keeps relation member) _

/-- The areas that a suggested relation joins are different. -/
theorem WaitsFor.apart (waiting : WaitsFor origin relation first second state) :
    second ≠ first := by
  have apart := waiting.waits.joined.apart relation waiting.member
  intro same
  rcases Relation.connects_iff.mp waiting.joins with ⟨left, right⟩ | ⟨left, right⟩
  · exact apart (left.trans (same.symm.trans right.symm))
  · exact apart (left.trans (same.trans right.symm))

/-- The first of two suggested regions is accepted, and the relation follows it. -/
theorem WaitsFor.perform_first (waiting : WaitsFor origin relation first second state)
    (suggests : state.SuggestsRegion first)
    (new : ∀ made ∈ state.madeUpIds (.accept first), state.mentions made = false) :
    (state.perform (.accept first)).2 = .area (state.acceptedId first) ∧
      WaitsFor origin (relation.retarget first (state.acceptedId first))
        (state.acceptedId first) second (state.perform (.accept first)).1 ∧
      (state.perform (.accept first)).1.HasRegion (state.acceptedId first) := by
  have sound := waiting.waits.wellFormed.sound
  have region := hasRegion_acceptedId sound suggests new
  obtain ⟨area, found, -⟩ := suggests
  obtain ⟨named, answer, accepted⟩ := accepted_perform sound found
  subst named
  have apart := waiting.apart
  have joins : (relation.retarget area.id (state.acceptedId area.id)).connects
      (state.acceptedId area.id) second = true := Relation.connects_retarget waiting.joins apart
  exact ⟨answer, ⟨waiting.waits.perform new,
    accepted.retarget_mem waiting.member waiting.suggests apart joins, joins,
    waiting.suggests.accepted apart accepted, fun other =>
      (accepted.relations_between waiting.suggests apart other).trans (waiting.stays other)⟩,
    region⟩

/-- The relation joins the first area to whatever the second one is accepted as. -/
theorem WaitsFor.joins_retarget (waiting : WaitsFor origin relation first second state)
    (made : AreaId) : (relation.retarget second made).connects first made = true := by
  have backwards : relation.connects second first = true :=
    (relation.connects_comm _ _).trans waiting.joins
  exact (Relation.connects_comm _ _ _).trans
    (Relation.connects_retarget backwards waiting.apart.symm)

/-- No relation is there between the first area and the one that the second one is accepted as, if
there was none from the beginning. -/
theorem WaitsFor.between_eq_nil (waiting : WaitsFor origin relation first second state)
    (new : ∀ made ∈ state.madeUpIds (.accept second), state.mentions made = false)
    (none : origin.relations.between first (state.acceptedId second) = []) :
    state.relations.between first (state.acceptedId second) = [] := by
  obtain ⟨area, found, -⟩ := waiting.suggests
  rcases acceptedId_new waiting.waits.wellFormed.sound found new with ⟨own, -⟩ | fresh
  · rw [own] at none ⊢
    exact (waiting.stays first).trans none
  · obtain ⟨-, -, untouched⟩ := mentions_eq_false_iff.mp fresh
    refine Relations.between_eq_nil_iff.mpr fun other member => Bool.eq_false_iff.mpr ?_
    intro connects
    have touches := (Relation.touches_of_connects connects _).mpr (Or.inr rfl)
    rw [untouched other (List.mem_append_left _ member)] at touches
    contradiction

/-- As the second of two regions is accepted, the relation is added between them, and none waits for
them any more. -/
theorem WaitsFor.relations_between (waiting : WaitsFor origin relation first second state)
    (region : state.HasRegion first)
    (new : ∀ made ∈ state.madeUpIds (.accept second), state.mentions made = false) :
    let made := state.acceptedId second
    let next := (state.perform (.accept second)).1
    next.suggestedRelations.between first made = [] ∧
      next.relations.between first made =
        (state.relations.between first made).addAll [relation.retarget second made] := by
  intro made next
  have sound := waiting.waits.wellFormed.sound
  have firstRegion : next.HasRegion first := region.perform sound new
  have secondRegion : next.HasRegion made := hasRegion_acceptedId sound waiting.suggests new
  obtain ⟨area, found, -⟩ := waiting.suggests
  obtain ⟨named, -, accepted⟩ := accepted_perform sound found
  have settled : next.suggestedRelations.between first made = [] :=
    accepted.promoted.between_eq_nil firstRegion.isAccepted secondRegion.isAccepted
  refine ⟨settled, ?_⟩
  -- Of the suggested relations only this one joins the two, so that it is the only one added.
  have joined := waiting.waits.joined_retarget found new
  have moved : relation.retarget second made ∈ state.suggestedRelations.retarget second made :=
    List.mem_map.mpr ⟨relation, waiting.member, rfl⟩
  have owed := accepted.owed first made
  rw [AnnotationState.owed, settled, named, ← Relations.between_of_connects
    (waiting.joins_retarget made) (state.suggestedRelations.retarget _ _),
    joined.between_eq moved] at owed
  exact owed

/-- The second of two regions is accepted, and the relation is made, unless the regions are related
already. -/
theorem WaitsFor.perform_second (waiting : WaitsFor origin relation first second state)
    (region : state.HasRegion first)
    (new : ∀ made ∈ state.madeUpIds (.accept second), state.mentions made = false) :
    let made := state.acceptedId second
    let next := (state.perform (.accept second)).1
    (state.perform (.accept second)).2 = .area made ∧ next.Waits ∧ next.HasRegion first ∧
      next.HasRegion made ∧ next.suggestedRelations.between first made = [] ∧
      (∃ joining ∈ next.relations, joining.connects first made = true) ∧
      (relation.retarget second made).connects first made = true ∧
      (origin.relations.between first made = [] →
        relation.retarget second made ∈ next.relations) := by
  intro made next
  have sound := waiting.waits.wellFormed.sound
  have firstRegion : next.HasRegion first := region.perform sound new
  have secondRegion : next.HasRegion made := hasRegion_acceptedId sound waiting.suggests new
  obtain ⟨settled, added⟩ := waiting.relations_between region new
  obtain ⟨area, found, -⟩ := waiting.suggests
  obtain ⟨-, answer, -⟩ := accepted_perform sound found
  have alone (none : state.relations.between first made = []) :
      relation.retarget second made ∈ next.relations.between first made := by
    have moved : relation.retarget second made ∈ state.suggestedRelations.retarget second made :=
      List.mem_map.mpr ⟨relation, waiting.member, rfl⟩
    have apart := (waiting.waits.joined_retarget found new).apart _ moved
    rw [added, none, Relations.addAll_nil_singleton apart]
    exact List.mem_singleton_self _
  refine ⟨answer, waiting.waits.perform new, firstRegion, secondRegion, settled, ?_,
    waiting.joins_retarget made, fun none =>
      (Relations.mem_between.mp (alone (waiting.between_eq_nil new none))).1⟩
  by_cases none : state.relations.between first made = []
  · exact ⟨_, Relations.mem_between.mp (alone none)⟩
  · obtain ⟨joining, member⟩ := List.exists_mem_of_ne_nil _ none
    refine ⟨joining, Relations.mem_between.mp ?_⟩
    rw [added]
    exact Relations.mem_addAll member _

/-! ## Runs of acceptances -/

/-- The acceptances of suggestions. -/
def accepts (ids : List AreaId) : List Operation := ids.map .accept

/-- What every acceptance of a fresh run keeps, the run keeps. -/
theorem run_accepts_keeps {holds : AnnotationState → Prop} {ids : List AreaId}
    (fresh : state.isFresh (accepts ids) = true)
    (keeps : ∀ state, holds state → ∀ id ∈ ids,
      (∀ made ∈ state.madeUpIds (.accept id), state.mentions made = false) →
        holds (state.perform (.accept id)).1)
    (before : holds state) : holds (state.run (accepts ids)) := by
  refine run_keeps_of_isFresh fresh (fun state holding operation member new => ?_) before
  obtain ⟨id, inside, same⟩ := List.mem_map.mp member
  subst same
  exact keeps state holding id inside new

/-- Some of the first acceptances of a fresh run are fresh. -/
theorem isFresh_leading {part ids : List AreaId} (leads : part <+: ids)
    (fresh : state.isFresh (accepts ids) = true) : state.isFresh (accepts part) = true := by
  obtain ⟨rest, whole⟩ := leads
  rw [← whole, accepts, List.map_append, isFresh_append, Bool.and_eq_true] at fresh
  exact fresh.1

/-- Both regions of a relation wait on as other suggestions are accepted. -/
theorem WaitsFor.run_before (waiting : WaitsFor origin relation first second state)
    (suggests : state.SuggestsRegion first) {ids : List AreaId} (firstLater : first ∉ ids)
    (secondLater : second ∉ ids) (fresh : state.isFresh (accepts ids) = true) :
    WaitsFor origin relation first second (state.run (accepts ids)) ∧
      (state.run (accepts ids)).SuggestsRegion first := by
  have each (present : AnnotationState)
      (both : WaitsFor origin relation first second present ∧ present.SuggestsRegion first)
      (id : AreaId) (inside : id ∈ ids)
      (new : ∀ made ∈ present.madeUpIds (.accept id), present.mentions made = false) :
      WaitsFor origin relation first second (present.perform (.accept id)).1 ∧
        (present.perform (.accept id)).1.SuggestsRegion first :=
    both.1.perform_before both.2 (fun same => firstLater (same ▸ inside))
      (fun same => secondLater (same ▸ inside)) new
  exact run_accepts_keeps fresh each ⟨waiting, suggests⟩

/-- The second region of a relation waits on beside the first one, which is there. -/
theorem WaitsFor.run_between (waiting : WaitsFor origin relation first second state)
    (region : state.HasRegion first) {ids : List AreaId} (later : second ∉ ids)
    (fresh : state.isFresh (accepts ids) = true) :
    WaitsFor origin relation first second (state.run (accepts ids)) ∧
      (state.run (accepts ids)).HasRegion first := by
  have each (present : AnnotationState)
      (one : WaitsFor origin relation first second present ∧ present.HasRegion first)
      (id : AreaId) (inside : id ∈ ids)
      (new : ∀ made ∈ present.madeUpIds (.accept id), present.mentions made = false) :
      WaitsFor origin relation first second (present.perform (.accept id)).1 ∧
        (present.perform (.accept id)).1.HasRegion first :=
    one.1.perform_between one.2 (fun same => later (same ▸ inside)) new
  exact run_accepts_keeps fresh each ⟨waiting, region⟩

/-- Linked regions stay linked as suggestions are accepted. -/
theorem Linked.run (linked : Linked origin first second state) {ids : List AreaId}
    (fresh : state.isFresh (accepts ids) = true) :
    Linked origin first second (state.run (accepts ids)) :=
  run_accepts_keeps fresh (fun _ still _ _ new => still.perform new) linked

/-- A relation from before between regions that are linked now is visible. -/
theorem Linked.visible (linked : Linked origin first second state) {relation : Relation}
    (inside : relation ∈ origin.relations) (connects : relation.connects first second = true) :
    relation ∈ state.visibleRelations := by
  refine List.mem_filter.mpr ⟨linked.keeps relation inside, Bool.and_eq_true_iff.mpr ?_⟩
  rcases Relation.connects_iff.mp connects with ⟨left, right⟩ | ⟨left, right⟩
  · rw [left, right]
    exact ⟨linked.firstRegion.has, linked.secondRegion.has⟩
  · rw [left, right]
    exact ⟨linked.secondRegion.has, linked.firstRegion.has⟩

/-- Whatever operations were carried out on an annotation of a bound tree, a relation suggested
between two regions waits until both are accepted, and no relation is made for the second one before
that; then it joins the ids under which they were accepted, with the same ends, direction and
labels unless these were related already, and waits no longer. Other suggestions may be accepted
before, between and after, and ids may be taken; made-up ids are taken to be new. -/
theorem run_suggested_relation (id : String) (kind : AnnotationKind) (config : ConfigTree)
    (catalogue : Catalogue) (task : Option Json) (settings : Settings) (session : Session)
    (operations : List Operation) {before between after : List AreaId} {first second : AreaId}
    {relation : Relation} :
    let begun := start id kind (.ofConfig config catalogue task) settings session
    let state := begun.run operations
    let ready := state.run (accepts before)
    let moved := (ready.perform (.accept first)).1
    let waiting := moved.run (accepts between)
    let linked := (waiting.perform (.accept second)).1
    let ended := linked.run (accepts after)
    begun.isFresh (operations ++ (accepts before ++
        .accept first :: (accepts between ++ .accept second :: accepts after))) = true →
      relation ∈ state.suggestedRelations → relation.connects first second = true →
      state.SuggestsRegion first → state.SuggestsRegion second →
      first ∉ before → second ∉ before → second ∉ between →
      ∃ firstMade secondMade,
        (ready.perform (.accept first)).2 = .area firstMade ∧
        (waiting.perform (.accept second)).2 = .area secondMade ∧
        (∀ part, part <+: before → relation ∈ (state.run (accepts part)).suggestedRelations ∧
          ∀ other, (state.run (accepts part)).relations.between other second =
            state.relations.between other second) ∧
        (∀ part, part <+: between →
          relation.retarget first firstMade ∈ (moved.run (accepts part)).suggestedRelations ∧
          ∀ other, (moved.run (accepts part)).relations.between other second =
            state.relations.between other second) ∧
        (∃ joining ∈ ended.visibleRelations, joining.connects firstMade secondMade = true) ∧
        (state.relations.between firstMade secondMade = [] →
          (relation.retarget first firstMade).retarget second secondMade ∈
            ended.visibleRelations) ∧
        ended.suggestedRelations.between firstMade secondMade = [] := by
  intro begun state ready moved waiting linked ended fresh member joins firstSuggested
    secondSuggested firstLater secondLater secondLast
  rw [isFresh_append, Bool.and_eq_true, isFresh_append, Bool.and_eq_true, isFresh, Bool.and_eq_true,
    isFresh_append, Bool.and_eq_true, isFresh, Bool.and_eq_true] at fresh
  obtain ⟨freshState, freshBefore, freshFirst, freshBetween, freshSecond, freshAfter⟩ := fresh
  have new {state : AnnotationState} {operation : Operation}
      (fresh : (state.madeUpIds operation).all (!state.mentions ·) = true) (id : AreaId)
      (member : id ∈ state.madeUpIds operation) : state.mentions id = false :=
    (Bool.not_eq_true' _).mp (List.all_eq_true.mp fresh id member)
  have waits : state.Waits :=
    (waits_start id kind config catalogue task settings session).run freshState
  have starts : WaitsFor state relation first second state :=
    ⟨waits, member, joins, secondSuggested, fun _ => rfl⟩
  -- Before the first acceptance both regions are suggested.
  have bothWait (part : List AreaId) (leads : part <+: before) :=
    starts.run_before firstSuggested (fun inside => firstLater (leads.subset inside))
      (fun inside => secondLater (leads.subset inside)) (isFresh_leading leads freshBefore)
  obtain ⟨readyWaits, readySuggests⟩ := bothWait before List.prefix_rfl
  obtain ⟨firstAnswer, movedWaits, movedRegion⟩ :=
    readyWaits.perform_first readySuggests (new freshFirst)
  -- Between the acceptances only the second one is.
  have oneWaits (part : List AreaId) (leads : part <+: between) :=
    movedWaits.run_between movedRegion (fun inside => secondLast (leads.subset inside))
      (isFresh_leading leads freshBetween)
  obtain ⟨secondWaits, firstRegion⟩ := oneWaits between List.prefix_rfl
  obtain ⟨secondAnswer, linkedWaits, linkedFirst, linkedSecond, settled, related, linkedJoins,
      made⟩ :=
    secondWaits.perform_second firstRegion (new freshSecond)
  -- After the acceptances none is.
  have links : Linked linked (ready.acceptedId first) (waiting.acceptedId second) linked :=
    ⟨linkedWaits, linkedFirst, linkedSecond, settled, fun _ inside => inside⟩
  have stays : Linked linked (ready.acceptedId first) (waiting.acceptedId second) ended :=
    links.run freshAfter
  refine ⟨ready.acceptedId first, waiting.acceptedId second, firstAnswer, secondAnswer, ?_, ?_, ?_,
    ?_, stays.settled⟩
  · exact fun part leads => ⟨(bothWait part leads).1.member, (bothWait part leads).1.stays⟩
  · exact fun part leads => ⟨(oneWaits part leads).1.member, (oneWaits part leads).1.stays⟩
  · obtain ⟨joining, inside, connects⟩ := related
    exact ⟨joining, stays.visible inside connects, connects⟩
  · exact fun none => stays.visible (made none) linkedJoins

/-- A labelled span of an id. -/
def spanItem (raw : String) : WireItem :=
  .result { id := some raw, fromName := "label", toName := "text", resultType := "labels",
            value := [("end", .integer 5), ("labels", .array [.string "A"]),
              ("start", .integer 0)] }

/-- Three suggested spans, of which the first and the second are related, beside two of the same
ids that are there. -/
def spansBesideSpans : List Operation := [
  .loadItems [spanItem "p", spanItem "q"] {},
  .loadItems [spanItem "p", spanItem "q", spanItem "r", .relation { fromId := "p", toId := "q" }]
    { suggestions := true }]

set_option maxRecDepth 10000 in
/-- The ids of two suggested spans are taken, and another suggestion is accepted between them; they
are related all the same. -/
theorem takenSpans_related :
    let begun := start "1" .manual (.ofConfig moodConfig .standard none) {} {}
    let state := begun.run spansBesideSpans
    let ready := state.run (accepts [])
    let moved := (ready.perform (.accept ⟨"p", "1"⟩)).1
    let waiting := moved.run (accepts [⟨"r", "1"⟩])
    let linked := (waiting.perform (.accept ⟨"q", "1"⟩)).1
    let ended := linked.run (accepts [])
    state.areas.has ⟨"p", "1"⟩ = true ∧ state.areas.has ⟨"q", "1"⟩ = true ∧
      begun.isFresh (spansBesideSpans ++ (accepts [] ++ .accept ⟨"p", "1"⟩ ::
        (accepts [⟨"r", "1"⟩] ++ .accept ⟨"q", "1"⟩ :: accepts []))) = true ∧
      ⟨⟨"p", "1"⟩, ⟨"q", "1"⟩, .right, none⟩ ∈ state.suggestedRelations ∧
      state.SuggestsRegion ⟨"p", "1"⟩ ∧ state.SuggestsRegion ⟨"q", "1"⟩ ∧
      ∃ firstMade secondMade,
        (ready.perform (.accept ⟨"p", "1"⟩)).2 = .area firstMade ∧
        (waiting.perform (.accept ⟨"q", "1"⟩)).2 = .area secondMade ∧
        ∃ joining ∈ ended.visibleRelations, joining.connects firstMade secondMade = true := by
  intro begun state ready moved waiting linked ended
  obtain ⟨firstTaken, secondTaken, fresh, member, firstSuggested, secondSuggested⟩ :
      state.areas.has ⟨"p", "1"⟩ = true ∧ state.areas.has ⟨"q", "1"⟩ = true ∧
      begun.isFresh (spansBesideSpans ++ (accepts [] ++ .accept ⟨"p", "1"⟩ ::
        (accepts [⟨"r", "1"⟩] ++ .accept ⟨"q", "1"⟩ :: accepts []))) = true ∧
      ⟨⟨"p", "1"⟩, ⟨"q", "1"⟩, .right, none⟩ ∈ state.suggestedRelations ∧
      state.SuggestsRegion ⟨"p", "1"⟩ ∧ state.SuggestsRegion ⟨"q", "1"⟩ := by decide +kernel
  obtain ⟨firstMade, secondMade, first, second, -, -, related, -⟩ :=
    run_suggested_relation "1" .manual moodConfig .standard none {} {} spansBesideSpans fresh member
      (by decide) firstSuggested secondSuggested List.not_mem_nil List.not_mem_nil (by decide)
  exact ⟨firstTaken, secondTaken, fresh, member, firstSuggested, secondSuggested, firstMade,
    secondMade, first, second, related⟩

end AnnotationState
end Labeling
