import Labeling.Proofs.Annotating.Accepting
import Labeling.Proofs.Annotating.RelationEnds

/-!
# Accepting every suggestion

Accepting every suggestion at once removes superseded classifications and makes relations once, at
the end; accepting one suggestion after the other does so each time. Where no suggestion has the id
of an area both ways have the same description (`AcceptedAll`), which tells everything that shows:
the areas, the values of the controls, and the visible relations (`acceptAll_agrees`).
-/
namespace Labeling.AnnotationState

variable {state next ended : AnnotationState}

/-- The areas with suggestions that become areas under their own ids, one after the other. -/
def admitAll (areas : Areas) (seq : Nat) : List Area → Areas
  | [] => areas
  | area :: rest => admitAll (areas.put area.id (admitted area area.id seq)) (seq + 1) rest

/-- Well-formed suggestions of different ids under which there is no area. -/
structure Newcomers (tree : ElementTree) (owner : String) (areas : Areas)
    (pending : List Area) : Prop where
  /-- The suggestions are well formed. -/
  each : ∀ area ∈ pending, area.WellFormed tree owner
  /-- There is no area under their ids. -/
  free : ∀ area ∈ pending, areas.has area.id = false
  /-- Their ids are different. -/
  distinct : pending.Pairwise fun first second => first.id ≠ second.id

section Areas

variable {tree : ElementTree} {owner : String} {bound : Nat} {areas fewer : Areas} {area : Area}
  {rest : List Area}

/-- Suggestions that are new to some areas are new to fewer ones. -/
theorem Newcomers.mono {pending : List Area} (new : Newcomers tree owner areas pending)
    (present : ∀ id, fewer.has id = true → areas.has id = true) :
    Newcomers tree owner fewer pending where
  each := new.each
  free area member := by
    have absent := new.free area member
    rw [← Bool.not_eq_true] at absent ⊢
    exact mt (present area.id) absent
  distinct := new.distinct

/-- The other suggestions are new to the areas with the first one among them. -/
theorem Newcomers.tail (new : Newcomers tree owner areas (area :: rest)) (admitted : Area) :
    Newcomers tree owner (areas.put area.id admitted) rest where
  each other member := new.each other (List.mem_cons_of_mem _ member)
  free other member := by
    have different := (List.pairwise_cons.mp new.distinct).1 other member
    rw [Entries.has, Entries.get?_put, if_neg different.symm]
    exact new.free other (List.mem_cons_of_mem _ member)
  distinct := (List.pairwise_cons.mp new.distinct).2

/-- The first suggestion becomes a well-formed area. -/
theorem Newcomers.wellFormed_head (new : Newcomers tree owner areas (area :: rest)) (seq : Nat) :
    (admitted area area.id seq).WellFormed tree owner :=
  wellFormed_admitted (new.each area List.mem_cons_self) (new.each area List.mem_cons_self).owner

/-- Superseded areas may be removed before new suggestions become areas. -/
theorem unsuperseded_admitAll {pending : List Area}
    (wellFormed : areas.WellFormed tree owner bound) (new : Newcomers tree owner areas pending) :
    unsuperseded (admitAll (unsuperseded areas) bound pending) =
      unsuperseded (admitAll areas bound pending) := by
  induction pending generalizing areas bound with
  | nil => exact unsuperseded_unsuperseded wellFormed
  | cons area rest hypothesis =>
    have made := new.wellFormed_head bound
    have fewer := wellFormed_unsuperseded wellFormed
    have newToFewer : Newcomers tree owner (unsuperseded areas) (area :: rest) :=
      new.mono fun _ => has_of_has_unsuperseded
    have first := hypothesis (fewer.put made rfl) (newToFewer.tail _)
    have second := hypothesis (wellFormed.put made rfl) (new.tail _)
    have once := unsuperseded_put wellFormed made rfl (new.free area List.mem_cons_self)
    calc unsuperseded (admitAll (unsuperseded areas) bound (area :: rest))
        = unsuperseded (admitAll (unsuperseded (Entries.put area.id
            (admitted area area.id bound) (unsuperseded areas))) (bound + 1) rest) := first.symm
      _ = unsuperseded (admitAll (unsuperseded (Entries.put area.id
            (admitted area area.id bound) areas)) (bound + 1) rest) :=
          congrArg (fun areas => unsuperseded (admitAll areas (bound + 1) rest)) once
      _ = unsuperseded (admitAll areas bound (area :: rest)) := second

/-- New suggestions that become areas leave the areas well formed. -/
theorem wellFormed_admitAll {pending : List Area}
    (wellFormed : areas.WellFormed tree owner bound) (new : Newcomers tree owner areas pending) :
    (admitAll areas bound pending).WellFormed tree owner (bound + pending.length) := by
  induction pending generalizing areas bound with
  | nil => exact wellFormed
  | cons area rest hypothesis =>
    have placed : bound + (area :: rest).length = bound + 1 + rest.length := by
      rw [List.length_cons]
      omega
    rw [placed]
    exact hypothesis (wellFormed.put (new.wellFormed_head bound) rfl) (new.tail _)

end Areas

/-- What accepting all pending suggestions makes of an annotation. -/
structure AcceptedAll (state : AnnotationState) (pending : List Area)
    (ended : AnnotationState) : Prop where
  /-- The configuration stays. -/
  tree : ended.tree = state.tree
  /-- Every suggestion takes a place in the order of creation. -/
  nextSeq : ended.nextSeq = state.nextSeq + pending.length
  /-- No suggestion is left. -/
  suggestions : ended.suggestions = []
  /-- The suggestions are areas, and the classifications that are superseded in the end are gone. -/
  areas : ended.areas = unsuperseded (admitAll state.areas state.nextSeq pending)
  /-- The values of the controls are up to date. -/
  controlValues : ended.controlValues = controlValuesOf ended.tree ended.areas
  /-- No relation waits for accepted areas. -/
  promoted : ended.Promoted
  /-- The relations between two areas with the suggested ones are what they were. -/
  owed : ∀ left right, ended.owed left right = state.owed left right

/-- A relation is visible in the end just if its ends are there and it was owed to them. -/
theorem AcceptedAll.mem_visibleRelations {pending : List Area}
    (accepted : state.AcceptedAll pending ended) {relation : Relation} :
    relation ∈ ended.visibleRelations ↔
      relation.isVisible (ended.areas.has ·) = true ∧
        relation ∈ state.owed relation.first relation.second := by
  rw [visibleRelations, Relations.visible, List.mem_filter, and_comm]
  refine and_congr_right fun visible => ?_
  obtain ⟨first, second⟩ := Bool.and_eq_true_iff.mp visible
  have present {id : AreaId} (live : ended.areas.has id = true) :
      isAccepted ended.areas ended.suggestions id = true := by
    rw [isAccepted, live, accepted.suggestions]
    rfl
  have settled := accepted.promoted.between_eq_nil (present first) (present second)
  rw [← accepted.owed, AnnotationState.owed, settled]
  exact ⟨fun member => Relations.mem_between.mpr ⟨member, relation.connects_ends⟩,
    fun member => (Relations.mem_between.mp member).1⟩

/-! ## One after the other -/

/-- The suggestions that wait are some new ones. -/
structure Awaits (state : AnnotationState) (pending : List Area) : Prop where
  /-- Each of them waits. -/
  found : ∀ area ∈ pending, state.suggestions.get? area.id = some area
  /-- No other one does. -/
  only : ∀ id, state.suggestions.has id = true → ∃ area ∈ pending, area.id = id
  /-- They are new to the areas. -/
  new : Newcomers state.tree state.id state.areas pending

/-- After the first suggestion is accepted under its own id the others wait. -/
theorem Awaits.tail {area : Area} {rest : List Area} (awaits : state.Awaits (area :: rest))
    (accepted : state.Accepted area area.id next) : next.Awaits rest where
  found other member := by
    have different := (List.pairwise_cons.mp awaits.new.distinct).1 other member
    rw [accepted.suggestions, Entries.get?_erase, if_neg different.symm]
    exact awaits.found other (List.mem_cons_of_mem _ member)
  only id present := by
    rw [accepted.suggestions, Entries.has, Entries.get?_erase] at present
    split at present
    · contradiction
    · rename_i different
      obtain ⟨other, member, same⟩ := awaits.only id present
      rcases List.mem_cons.mp member with first | later
      · rw [first] at same
        exact absurd same.symm different
      · exact ⟨other, later, same⟩
  new := by
    rw [accepted.tree, accepted.id, accepted.areas]
    exact (awaits.new.tail _).mono fun _ => has_of_has_unsuperseded

/-- The first of the suggestions that wait is accepted under its own id. -/
theorem Awaits.accepted {area : Area} {rest : List Area} (sound : state.Sound)
    (awaits : state.Awaits (area :: rest)) :
    state.Accepted area area.id (state.perform (.accept area.id)).1 := by
  obtain ⟨-, -, accepted⟩ := accepted_perform sound (awaits.found area List.mem_cons_self)
  have free := awaits.new.free area List.mem_cons_self
  rw [acceptedId, if_neg (Bool.eq_false_iff.mp free)] at accepted
  exact accepted

/-- Accepting the suggestions that wait one after the other accepts them all. -/
theorem acceptedAll_each {pending : List Area} (nonempty : pending ≠ [])
    (wellFormed : state.WellFormed) (awaits : state.Awaits pending) :
    state.AcceptedAll pending (state.run (pending.map fun area => .accept area.id)) := by
  induction pending generalizing state with
  | nil => contradiction
  | cons area rest hypothesis =>
    let next := (state.perform (.accept area.id)).1
    have accepted : state.Accepted area area.id next := awaits.accepted wellFormed.sound
    have waiting : next.Awaits rest := awaits.tail accepted
    have owed (left right : AreaId) : next.owed left right = state.owed left right := by
      rw [accepted.owed, Relations.retarget_self, AnnotationState.owed]
    have placed : (area :: rest).length = rest.length + 1 := rfl
    show state.AcceptedAll (area :: rest) (next.run (rest.map fun area => .accept area.id))
    by_cases last : rest = []
    · subst last
      have empty : next.suggestions = [] := by
        refine List.eq_nil_iff_forall_not_mem.mpr fun entry member => ?_
        have present := (Entries.has_iff_mem_keys entry.1 _).mpr (Entries.mem_keys member)
        obtain ⟨other, impossible, -⟩ := waiting.only entry.1 present
        contradiction
      exact ⟨accepted.tree, accepted.nextSeq, empty, accepted.areas, accepted.controlValues,
        accepted.promoted, owed⟩
    · have rested := hypothesis last (perform_wellFormed wellFormed _) waiting
      refine ⟨rested.tree.trans accepted.tree, ?_, rested.suggestions, ?_, rested.controlValues,
        rested.promoted, fun left right => (rested.owed left right).trans (owed left right)⟩
      · rw [rested.nextSeq, accepted.nextSeq]
        omega
      · rw [rested.areas, accepted.areas, accepted.nextSeq]
        exact unsuperseded_admitAll
          (wellFormed.sound.areas.put (awaits.new.wellFormed_head _) rfl) (awaits.new.tail _)

/-! ## At once -/

/-- New suggestions become areas under their own ids. -/
theorem acceptAreas_eq {pending : List Area}
    (new : Newcomers state.tree state.id state.areas pending) :
    state.acceptAreas pending = { state with
      nextSeq := state.nextSeq + pending.length
      areas := admitAll state.areas state.nextSeq pending } := by
  induction pending generalizing state with
  | nil => rfl
  | cons area rest hypothesis =>
    have free := Bool.eq_false_iff.mp (new.free area List.mem_cons_self)
    have step : (state.acceptArea area).1 = { state with
        nextSeq := state.nextSeq + 1
        areas := state.areas.put area.id (admitted area area.id state.nextSeq) } := by
      rw [acceptArea]
      dsimp only
      rw [if_neg free, Relations.retarget_self]
      rfl
    have placed : state.nextSeq + 1 + rest.length = state.nextSeq + (area :: rest).length := by
      rw [List.length_cons]
      omega
    rw [acceptAreas_cons, step, hypothesis (new.tail _), placed]
    rfl

/-- Accepting every suggestion at once accepts those that wait. -/
theorem acceptedAll_acceptAll (sound : state.Sound)
    (new : Newcomers state.tree state.id state.areas state.suggestions.bySeq) :
    state.AcceptedAll state.suggestions.bySeq (state.perform .acceptAll).1 := by
  let pending := state.suggestions.bySeq
  let moved : AnnotationState := { state with
    suggestions := []
    history := state.history.freeze
    nextSeq := state.nextSeq + pending.length
    areas := admitAll state.areas state.nextSeq pending }
  let begun : AnnotationState := { state with suggestions := [] }.frozen
  have fits : Newcomers begun.tree begun.id begun.areas pending := new
  have all : state.allAccepted = moved := acceptAreas_eq fits
  obtain ⟨selection, controlValues, performed⟩ := perform_acceptAll state
  have wellFormed : moved.promoteRelations.areas.WellFormed moved.promoteRelations.tree
      moved.promoteRelations.id (state.nextSeq + pending.length) :=
    wellFormed_admitAll sound.areas new
  rw [performed, all, areas_cleaned wellFormed]
  refine ⟨rfl, rfl, rfl, rfl, rfl, fun relation member => ?_, fun left right => ?_⟩
  · exact isReady_of_fewer (fun _ => has_of_has_unsuperseded)
      (promoted_promoteRelations moved relation member)
  · exact owed_promoteRelations moved left right

/-! ## Both ways agree -/

/-- The suggestions in the order of creation wait, if no area has the id of one. -/
theorem awaits_bySeq (sound : state.Sound)
    (free : ∀ area ∈ state.suggestions.bySeq, state.areas.has area.id = false) :
    state.Awaits state.suggestions.bySeq where
  found _ member := sound.suggestions.get?_of_mem_bySeq member
  only id present := (sound.suggestions.has_iff id).mp present
  new :=
    { each := fun _ member => sound.suggestions.each_bySeq member
      free := free
      distinct := sound.suggestions.pairwise_raw_bySeq.imp fun different same =>
        different (congrArg AreaId.raw same) }

/-- Whatever operations were carried out on an annotation of a bound tree, accepting every
suggestion at once leaves the same areas, values of the controls and visible relations as accepting
one after the other in the order of creation, and no suggestion, if there are some and no area has
the id of one. -/
theorem acceptAll_agrees (id : String) (kind : AnnotationKind) (config : ConfigTree)
    (catalogue : Catalogue) (task : Option Json) (settings : Settings) (session : Session)
    (operations : List Operation) :
    let state :=
      (start id kind (.ofConfig config catalogue task) settings session).run operations
    let pending := state.suggestions.bySeq
    let all := (state.perform .acceptAll).1
    let each := state.run (pending.map fun area => .accept area.id)
    pending ≠ [] → (∀ area ∈ pending, state.areas.has area.id = false) →
      all.areas = each.areas ∧ all.nextSeq = each.nextSeq ∧
        all.controlValues = each.controlValues ∧ all.suggestions = [] ∧ each.suggestions = [] ∧
        ∀ relation, relation ∈ all.visibleRelations ↔ relation ∈ each.visibleRelations := by
  intro state pending all each nonempty free
  have wellFormed : state.WellFormed :=
    (wellFormed_start id kind config catalogue task settings session).run operations
  have awaits := awaits_bySeq wellFormed.sound free
  have atOnce : state.AcceptedAll pending all := acceptedAll_acceptAll wellFormed.sound awaits.new
  have oneByOne : state.AcceptedAll pending each := acceptedAll_each nonempty wellFormed awaits
  have areas : all.areas = each.areas := atOnce.areas.trans oneByOne.areas.symm
  refine ⟨areas, atOnce.nextSeq.trans oneByOne.nextSeq.symm, ?_, atOnce.suggestions,
    oneByOne.suggestions, fun relation => ?_⟩
  · rw [atOnce.controlValues, oneByOne.controlValues, atOnce.tree, oneByOne.tree, areas]
  · rw [atOnce.mem_visibleRelations, oneByOne.mem_visibleRelations, areas]

/-- Two suggested moods of one control and a suggested span, each mood related to the span. -/
def moodsAndSpan : List WireItem := [
  .result { id := some "a", fromName := "mood", toName := "text", resultType := "choices",
            value := [("choices", .array [.string "good"])] },
  .result { id := some "b", fromName := "mood", toName := "text", resultType := "choices",
            value := [("choices", .array [.string "bad"])] },
  .result { id := some "c", fromName := "label", toName := "text", resultType := "labels",
            value := [("end", .integer 5), ("labels", .array [.string "A"]),
              ("start", .integer 0)] },
  .relation { fromId := "a", toId := "c" },
  .relation { fromId := "c", toId := "b" }]

set_option maxRecDepth 10000 in
/-- Of two moods that are accepted at once or one after the other the later one is left, with its
relation to the span. -/
theorem suggestedMoods_agree :
    let state := (start "1" .manual (.ofConfig moodConfig .standard none) {} {}).run
      [.loadItems moodsAndSpan { suggestions := true }]
    let pending := state.suggestions.bySeq
    let all := (state.perform .acceptAll).1
    let each := state.run (pending.map fun area => .accept area.id)
    pending ≠ [] ∧ (∀ area ∈ pending, state.areas.has area.id = false) ∧
      each.areas.keys = [⟨"b", "1"⟩, ⟨"c", "1"⟩] ∧ all.areas = each.areas ∧
      ∀ relation, relation ∈ all.visibleRelations ↔
        relation = ⟨⟨"c", "1"⟩, ⟨"b", "1"⟩, .right, none⟩ := by
  intro state pending all each
  let stored := state.suggestions.values
  let accepted := state.run (stored.map fun area => .accept area.id)
  obtain ⟨ordered, nonempty, free, keys, visible⟩ :
      (stored.Pairwise fun (left right : Area) => decide (left.seq ≤ right.seq) = true) ∧
      stored ≠ [] ∧
      (∀ area ∈ stored, state.areas.has area.id = false) ∧
      accepted.areas.keys = [⟨"b", "1"⟩, ⟨"c", "1"⟩] ∧
      accepted.visibleRelations = [⟨⟨"c", "1"⟩, ⟨"b", "1"⟩, .right, none⟩] := by decide +kernel
  have order : pending = stored := List.mergeSort_of_pairwise ordered
  have same : each = accepted :=
    congrArg (fun areas : List Area => state.run (areas.map fun area => .accept area.id)) order
  rw [← order] at nonempty free
  rw [← same] at keys visible
  obtain ⟨areas, -, -, -, -, relations⟩ := acceptAll_agrees "1" .manual moodConfig .standard none
    {} {} [.loadItems moodsAndSpan { suggestions := true }] nonempty free
  refine ⟨nonempty, free, keys, areas, fun relation => ?_⟩
  rw [relations relation, visible, List.mem_singleton]

end Labeling.AnnotationState
