import Labeling.Annotating.Regions
import Labeling.Proofs.Annotating.SuggestedRelations

/-!
# Suggested nesting

A suggestion may name another one as the area around it, by its raw id. Acceptance leaves that name
alone, also where it gives the other one a new id. So an accepted suggestion is inside the accepted
one that it named just where that one has kept its id (`run_suggested_parent`); where it has not,
the name goes to the area that had the id before (`takenParent_lost`).
-/
namespace Labeling.AnnotationState

variable {state next : AnnotationState}

/-! ## The ids under which suggestions are accepted -/

/-- The ids of suggestions that become areas one after the other, each with the id of its area. -/
def acceptedPairs (state : AnnotationState) : List Area → List (AreaId × AreaId)
  | [] => []
  | area :: rest =>
    let (next, made) := state.acceptArea area
    (area.id, made) :: acceptedPairs next rest

/-- The ids of suggestions that an operation accepts, each with the id of its area. -/
def acceptedBy (state : AnnotationState) : Operation → List (AreaId × AreaId)
  | .accept id =>
    match (state.perform (.accept id)).2 with
    | .area made => [(id, made)]
    | _ => []
  | .acceptAll => acceptedPairs { state with suggestions := [] }.frozen state.suggestions.bySeq
  | _ => []

/-- The ids of suggestions that a run accepts, each with the id of its area. -/
def acceptedIn (state : AnnotationState) : List Operation → List (AreaId × AreaId)
  | [] => []
  | operation :: rest => state.acceptedBy operation ++ acceptedIn (state.perform operation).1 rest

/-- Whether an operation accepts suggestions. -/
def IsAcceptance (operation : Operation) : Prop :=
  operation = .acceptAll ∨ ∃ id, operation = .accept id

/-- A suggestion that is there is accepted under its accepted id. -/
theorem acceptedBy_accept (sound : state.Sound) {id : AreaId} {area : Area}
    (found : state.suggestions.get? id = some area) :
    state.acceptedBy (.accept id) = [(id, state.acceptedId id)] := by
  obtain ⟨-, answer, -⟩ := accepted_perform sound found
  rw [acceptedBy, answer]

/-- Without a suggestion none is accepted. -/
theorem acceptedBy_of_none {id : AreaId} (absent : state.suggestions.get? id = none) :
    state.acceptedBy (.accept id) = [] := by
  have answer : (state.perform (.accept id)).2 = .failure (.unknownArea id.full) := by
    rw [perform, accept, pendingArea, absent]
    rfl
  rw [acceptedBy, answer]

/-- Suggestions that become areas one after the other are all accepted. -/
theorem exists_acceptedPairs {pending : List Area} {area : Area} (member : area ∈ pending) :
    ∃ made, (area.id, made) ∈ state.acceptedPairs pending := by
  induction pending generalizing state with
  | nil => contradiction
  | cons first rest hypothesis =>
    rw [acceptedPairs]
    rcases List.mem_cons.mp member with same | later
    · rw [same]
      exact ⟨_, List.mem_cons_self⟩
    · obtain ⟨made, inside⟩ := @hypothesis (state.acceptArea first).1 later
      exact ⟨made, List.mem_cons_of_mem _ inside⟩

/-- A suggestion that a run of acceptances is about is accepted. -/
theorem exists_acceptedIn {operations : List Operation} (wellFormed : state.WellFormed)
    (acceptances : ∀ operation ∈ operations, IsAcceptance operation) {id : AreaId}
    (present : state.suggestions.has id = true)
    (named : .accept id ∈ operations ∨ .acceptAll ∈ operations) :
    ∃ made, (id, made) ∈ state.acceptedIn operations := by
  induction operations generalizing state with
  | nil => simp at named
  | cons operation rest hypothesis =>
    obtain ⟨area, found⟩ := (Entries.has_eq_true_iff _ _).mp present
    have later (still : (state.perform operation).1.suggestions.has id = true)
        (differs : operation ≠ .accept id ∧ operation ≠ .acceptAll) :
        ∃ made, (id, made) ∈ state.acceptedIn (operation :: rest) := by
      have rested := hypothesis (perform_wellFormed wellFormed operation)
        (fun other member => acceptances other (List.mem_cons_of_mem _ member)) still
        (named.imp (fun one => (List.mem_cons.mp one).resolve_left differs.1.symm)
          fun all => (List.mem_cons.mp all).resolve_left differs.2.symm)
      obtain ⟨made, member⟩ := rested
      exact ⟨made, List.mem_append_right _ member⟩
    rcases acceptances operation List.mem_cons_self with all | ⟨other, one⟩
    · subst all
      have listed : area ∈ state.suggestions.bySeq := Areas.mem_bySeq.mpr
        ⟨id, Entries.mem_of_get? found⟩
      have key : area.id = id := wellFormed.sound.suggestions.keys _ (Entries.mem_of_get? found)
      obtain ⟨made, member⟩ := exists_acceptedPairs listed
      exact ⟨made, List.mem_append_left _ (key ▸ member)⟩
    · subst one
      by_cases same : other = id
      · subst same
        refine ⟨state.acceptedId other, List.mem_append_left _ ?_⟩
        rw [acceptedBy_accept wellFormed.sound found]
        exact List.mem_singleton_self _
      · refine later ?_ ⟨fun equal => same (Operation.accept.inj equal), by simp⟩
        cases accepts : state.suggestions.get? other with
        | none =>
          rw [perform_accept_of_none accepts]
          exact present
        | some suggestion =>
          obtain ⟨key, -, accepted⟩ := accepted_perform wellFormed.sound accepts
          rw [accepted.suggestions, key, Entries.has, Entries.get?_erase, if_neg (Ne.symm same)]
          exact present

/-! ## Accepted areas are what was suggested -/

/-- The areas under the ids of accepted suggestions are what these suggestions became. -/
def Carries (suggestions : Areas) (done : List (AreaId × AreaId)) (areas : Areas) : Prop :=
  ∀ pair ∈ done, ∀ area, areas.get? pair.2 = some area →
    ∃ suggestion seq, suggestions.get? pair.1 = some suggestion ∧
      area = admitted suggestion pair.2 seq

section Areas

variable {suggestions areas : Areas} {done : List (AreaId × AreaId)}

/-- One more suggestion becomes an area under an id of its own. -/
theorem Carries.put (carries : Carries suggestions done areas) {id made : AreaId}
    {suggestion : Area} (found : suggestions.get? id = some suggestion) (seq : Nat)
    (own : made ∉ done.map Prod.snd) :
    Carries suggestions (done ++ [(id, made)])
      (areas.put made (admitted suggestion made seq)) := by
  intro pair member area stored
  rcases List.mem_append.mp member with old | new
  · have different : pair.2 ≠ made := fun same => own (same ▸ List.mem_map_of_mem old)
    rw [Entries.get?_put_of_ne _ different] at stored
    exact carries pair old area stored
  · have same := List.mem_singleton.mp new
    subst same
    rw [Entries.get?_put_self, Option.some.injEq] at stored
    exact ⟨suggestion, seq, found, stored.symm⟩

/-- Superseded areas may be removed. -/
theorem Carries.unsuperseded {tree : ElementTree} {owner : String} {bound : Nat}
    (carries : Carries suggestions done areas) (wellFormed : areas.WellFormed tree owner bound) :
    Carries suggestions done (unsuperseded areas) := by
  intro pair member area stored
  refine carries pair member area ?_
  exact Entries.get?_of_mem wellFormed.sorted
    ((mem_unsuperseded wellFormed).mp (Entries.mem_of_get? stored)).1

/-- Suggestions become areas one after the other under ids of their own. -/
theorem carries_acceptAreas {pending : List Area} (carries : Carries suggestions done state.areas)
    (found : ∀ area ∈ pending, suggestions.get? area.id = some area)
    (own : ((done ++ state.acceptedPairs pending).map Prod.snd).Nodup) :
    Carries suggestions (done ++ state.acceptedPairs pending)
      (state.acceptAreas pending).areas := by
  induction pending generalizing state done with
  | nil =>
    rw [acceptedPairs, List.append_nil]
    exact carries
  | cons area rest hypothesis =>
    obtain ⟨made, moved⟩ := acceptArea_eq_acceptedId state area
    have pairs : done ++ state.acceptedPairs (area :: rest) =
        (done ++ [(area.id, state.acceptedId area.id)]) ++
          (state.acceptArea area).1.acceptedPairs rest := by
      rw [acceptedPairs, ← made, List.append_cons]
    rw [pairs] at own ⊢
    have new : state.acceptedId area.id ∉ done.map Prod.snd := by
      rw [List.map_append, List.map_append, List.append_assoc] at own
      intro member
      exact (List.nodup_append.mp own).2.2 _ member _ List.mem_cons_self rfl
    have next : Carries suggestions (done ++ [(area.id, state.acceptedId area.id)])
        (state.acceptArea area).1.areas := by
      rw [moved]
      exact carries.put (found area List.mem_cons_self) state.nextSeq new
    rw [acceptAreas_cons]
    exact hypothesis next (fun other member => found other (List.mem_cons_of_mem _ member)) own

end Areas

/-- What a run of acceptances has made of the suggestions of an annotation. -/
structure Proceeds (origin : AnnotationState) (done : List (AreaId × AreaId))
    (state : AnnotationState) : Prop where
  /-- The annotation is well formed. -/
  wellFormed : state.WellFormed
  /-- Its id stays. -/
  id : state.id = origin.id
  /-- What is suggested was suggested. -/
  pending : ∀ id area, state.suggestions.get? id = some area →
    origin.suggestions.get? id = some area
  /-- What was accepted is there as it was suggested, or not at all. -/
  carries : Carries origin.suggestions done state.areas

variable {origin : AnnotationState} {done : List (AreaId × AreaId)}

/-- An acceptance goes on with what was suggested, if ids are not given twice. -/
theorem Proceeds.perform (proceeds : Proceeds origin done state) {operation : Operation}
    (acceptance : IsAcceptance operation)
    (own : ((done ++ state.acceptedBy operation).map Prod.snd).Nodup) :
    Proceeds origin (done ++ state.acceptedBy operation) (state.perform operation).1 := by
  have wellFormed := perform_wellFormed proceeds.wellFormed operation
  have sound := proceeds.wellFormed.sound
  rcases acceptance with all | ⟨id, one⟩
  · subst all
    obtain ⟨selection, controlValues, performed⟩ := perform_acceptAll state
    have areas : state.allAccepted.promoteRelations.areas.WellFormed
        state.allAccepted.promoteRelations.tree state.allAccepted.promoteRelations.id
        state.allAccepted.nextSeq := (sound_allAccepted sound).areas
    rw [areas_cleaned areas] at performed
    have carries : Carries origin.suggestions (done ++ state.acceptedBy .acceptAll)
        state.allAccepted.areas := by
      refine carries_acceptAreas proceeds.carries (fun area member => ?_) own
      exact proceeds.pending _ _ (sound.suggestions.get?_of_mem_bySeq member)
    have begun : Continues { state with suggestions := [] }.frozen state.allAccepted :=
      continues_acceptAreas _ _
    refine ⟨wellFormed, ?_, ?_, ?_⟩
    · rw [performed]
      exact begun.id.trans proceeds.id
    · intro id area found
      have none : (state.perform .acceptAll).1.suggestions = [] := by
        rw [performed]
        exact suggestions_acceptAreas _ _
      rw [none] at found
      contradiction
    · rw [performed]
      exact carries.unsuperseded areas
  · subst one
    cases found : state.suggestions.get? id with
    | none =>
      rw [perform_accept_of_none found, acceptedBy_of_none found, List.append_nil]
      exact proceeds
    | some area =>
      obtain ⟨key, -, accepted⟩ := accepted_perform sound found
      rw [acceptedBy_accept sound found] at own ⊢
      have new : state.acceptedId id ∉ done.map Prod.snd := by
        rw [List.map_append] at own
        intro member
        exact (List.nodup_append.mp own).2.2 _ member _ List.mem_cons_self rfl
      refine ⟨wellFormed, accepted.id.trans proceeds.id, fun other pending stored => ?_, ?_⟩
      · rw [accepted.suggestions, Entries.get?_erase] at stored
        split at stored
        · contradiction
        · exact proceeds.pending other pending stored
      · rw [accepted.areas]
        exact (proceeds.carries.put (proceeds.pending id area found) state.nextSeq new).unsuperseded
          (wellFormed_put_admitted sound found)

/-- Acceptances go on with what was suggested, if ids are not given twice. -/
theorem Proceeds.run (proceeds : Proceeds origin done state) {operations : List Operation}
    (acceptances : ∀ operation ∈ operations, IsAcceptance operation)
    (own : ((done ++ state.acceptedIn operations).map Prod.snd).Nodup) :
    Proceeds origin (done ++ state.acceptedIn operations) (state.run operations) := by
  induction operations generalizing state done with
  | nil =>
    rw [acceptedIn, List.append_nil]
    exact proceeds
  | cons operation rest hypothesis =>
    rw [acceptedIn, ← List.append_assoc] at own ⊢
    have first : ((done ++ state.acceptedBy operation).map Prod.snd).Nodup := by
      rw [List.map_append] at own
      exact (List.nodup_append.mp own).1
    exact hypothesis (proceeds.perform (acceptances operation List.mem_cons_self) first)
      (fun other member => acceptances other (List.mem_cons_of_mem _ member)) own

/-! ## The area around an accepted one -/

/-- An area that names the raw id of an area by which no full id is written is inside that area, if
it is there. -/
theorem properParent?_eq_some_iff {areas : Areas} {area : Area} {parent other : AreaId}
    (names : area.parentId = parent.raw) (named : parent.raw ≠ "")
    (owner : area.id.owner = parent.owner)
    (noFull : (AreaId.parse? parent.raw).filter areas.has = none) :
    RegionView.properParent? areas area = some other ↔
      other = parent ∧ areas.has parent = true ∧ parent ≠ area.id := by
  have sibling : area.id.sibling parent.raw = parent := AreaId.eq_of_raw_eq rfl owner
  rw [RegionView.properParent?, RegionView.parentOf?, names, if_neg named, noFull, sibling]
  dsimp only
  rw [Option.filter_eq_some_iff, decide_eq_true_eq]
  split
  · rename_i present
    rw [Option.some.injEq]
    constructor
    · rintro ⟨same, different⟩
      exact ⟨same.symm, present, same ▸ different⟩
    · rintro ⟨same, -, different⟩
      exact ⟨same.symm, same ▸ different⟩
  · rename_i absent
    constructor
    · rintro ⟨impossible, -⟩
      contradiction
    · rintro ⟨-, present, -⟩
      exact absurd present absent

/-- Whatever operations were carried out on an annotation of a bound tree, of two suggestions of
which the one names the other as the area around it both are accepted, in any order, one by one or
at once. Where both areas are still there, the area around the one is the other just if the other
was accepted under its own id. No id is given twice, and the name is not the full id of an area. -/
theorem run_suggested_parent (id : String) (kind : AnnotationKind) (config : ConfigTree)
    (catalogue : Catalogue) (task : Option Json) (settings : Settings) (session : Session)
    (operations acceptances : List Operation) {parent child : AreaId} {suggestion : Area} :
    let state :=
      (start id kind (.ofConfig config catalogue task) settings session).run operations
    let next := state.run acceptances
    let accepted := state.acceptedIn acceptances
    (∀ operation ∈ acceptances, IsAcceptance operation) →
      (∀ id ∈ [parent, child], .accept id ∈ acceptances ∨ .acceptAll ∈ acceptances) →
      parent ≠ child → state.suggestions.has parent = true →
      state.suggestions.get? child = some suggestion → suggestion.parentId = parent.raw →
      (accepted.map Prod.snd).Nodup →
      ∃ parentMade childMade, (parent, parentMade) ∈ accepted ∧ (child, childMade) ∈ accepted ∧
        ∀ area, next.areas.get? childMade = some area → next.areas.has parentMade = true →
          (AreaId.parse? parent.raw).filter next.areas.has = none →
          (RegionView.properParent? next.areas area = some parentMade ↔ parentMade = parent) := by
  intro state next accepted only both different parentThere childThere names own
  have begun := wellFormed_start id kind config catalogue task settings session
  have wellFormed : state.WellFormed := begun.run operations
  have named : state.Named :=
    run_keeps (fun _ before => before.perform)
      (fun _ present => absurd present Bool.false_ne_true) operations
  obtain ⟨parentMade, parentAccepted⟩ :=
    exists_acceptedIn wellFormed only parentThere (both parent (by simp))
  obtain ⟨childMade, childAccepted⟩ := exists_acceptedIn wellFormed only
    ((Entries.has_eq_true_iff _ _).mpr ⟨suggestion, childThere⟩) (both child (by simp))
  refine ⟨parentMade, childMade, parentAccepted, childAccepted, ?_⟩
  intro area stored parentStays noFull
  have proceeds : Proceeds state accepted next := by
    have starts : Proceeds state [] state :=
      ⟨wellFormed, rfl, fun _ _ found => found, fun _ impossible => absurd impossible (by simp)⟩
    exact starts.run only own
  obtain ⟨former, seq, found, same⟩ := proceeds.carries _ childAccepted area stored
  rw [childThere, Option.some.injEq] at found
  subst found
  have madeApart : parentMade ≠ childMade := by
    intro equal
    have pairs := List.inj_on_of_nodup_map own parentAccepted childAccepted equal
    exact different (Prod.mk.inj pairs).1
  have owner : area.id.owner = parent.owner := by
    obtain ⟨there, parentFound⟩ := (Entries.has_eq_true_iff _ _).mp parentThere
    have parentMember := Entries.mem_of_get? parentFound
    have key : there.id = parent := wellFormed.sound.suggestions.keys _ parentMember
    have parentOwner : there.id.owner = state.id :=
      (wellFormed.sound.suggestions.each _ parentMember).owner
    have areaOwner : area.id.owner = next.id :=
      (proceeds.wellFormed.sound.areas.each _ (Entries.mem_of_get? stored)).owner
    rw [areaOwner, ← key, parentOwner]
    exact proceeds.id
  have stillNames : area.parentId = parent.raw := same ▸ names
  have areaId : area.id = childMade := congrArg Area.id same
  rw [properParent?_eq_some_iff stillNames (named parent parentThere) owner noFull, areaId]
  exact ⟨fun inside => inside.1, fun kept => ⟨kept, kept ▸ parentStays, kept ▸ madeApart⟩⟩

/-- A span of an id, and a span inside it. -/
def nestedSpans : List WireItem := [
  spanItem "p",
  .result { id := some "c", fromName := "label", toName := "text", resultType := "labels",
            value := [("end", .integer 3), ("labels", .array [.string "A"]),
              ("start", .integer 1)], parentId := some "p" }]

set_option maxRecDepth 10000 in
/-- Of two suggested spans the one inside is accepted first, and is inside the other one once that
is accepted under its own id. -/
theorem freeParent_kept :
    let state := (start "1" .manual (.ofConfig moodConfig .standard none) {} {}).run
      [.loadItems nestedSpans { suggestions := true }]
    let acceptances := accepts [⟨"c", "1"⟩, ⟨"p", "1"⟩]
    let next := state.run acceptances
    state.acceptedIn acceptances = [(⟨"c", "1"⟩, ⟨"c", "1"⟩), (⟨"p", "1"⟩, ⟨"p", "1"⟩)] ∧
      ∃ area, next.areas.get? ⟨"c", "1"⟩ = some area ∧
        RegionView.properParent? next.areas area = some ⟨"p", "1"⟩ := by
  intro state acceptances next
  obtain ⟨accepted, parentThere, names, areaThere, parentStays, noFull⟩ :
      state.acceptedIn acceptances = [(⟨"c", "1"⟩, ⟨"c", "1"⟩), (⟨"p", "1"⟩, ⟨"p", "1"⟩)] ∧
      state.suggestions.has ⟨"p", "1"⟩ = true ∧
      (state.suggestions.get? ⟨"c", "1"⟩).map (·.parentId) = some "p" ∧
      next.areas.has ⟨"c", "1"⟩ = true ∧ next.areas.has ⟨"p", "1"⟩ = true ∧
      (AreaId.parse? "p").filter next.areas.has = none := by decide +kernel
  obtain ⟨suggestion, childThere, named⟩ := Option.map_eq_some_iff.mp names
  obtain ⟨area, stored⟩ := (Entries.has_eq_true_iff _ _).mp areaThere
  have only (operation : Operation) (member : operation ∈ acceptances) :
      IsAcceptance operation := by
    obtain ⟨id, -, same⟩ := List.mem_map.mp member
    exact Or.inr ⟨id, same.symm⟩
  obtain ⟨parentMade, childMade, parentAccepted, childAccepted, nested⟩ :=
    run_suggested_parent "1" .manual moodConfig .standard none {} {}
      [.loadItems nestedSpans { suggestions := true }] acceptances only
      (fun id member => Or.inl (List.mem_map_of_mem (by simpa [or_comm] using member)))
      (by decide) parentThere childThere named (by rw [accepted]; decide)
  rw [accepted] at parentAccepted childAccepted
  have sameParent : parentMade = ⟨"p", "1"⟩ := by simpa using parentAccepted
  have sameChild : childMade = ⟨"c", "1"⟩ := by simpa using childAccepted
  subst sameParent sameChild
  exact ⟨accepted, area, stored, (nested area stored parentStays noFull).mpr rfl⟩

set_option maxRecDepth 10000 in
/-- Not every accepted suggestion is inside the accepted one that it named: the id of that one may
be taken. -/
theorem takenParent_lost :
    ¬ ∀ (config : ConfigTree) (task : Option Json) (settings : Settings) (id : String)
        (operations : List Operation) (parent child parentMade childMade : AreaId)
        (suggestion area : Area),
      let state := (start id .manual (.ofConfig config .standard task) settings {}).run operations
      let moved := state.perform (.accept parent)
      let next := moved.1.perform (.accept child)
      parent ≠ child → state.suggestions.has parent = true →
        state.suggestions.get? child = some suggestion → suggestion.parentId = parent.raw →
        moved.2 = .area parentMade → next.2 = .area childMade →
        next.1.areas.get? childMade = some area → next.1.areas.has parentMade = true →
        RegionView.properParent? next.1.areas area = some parentMade := by
  intro follows
  let operations : List Operation :=
    [.loadItems [spanItem "p"] {}, .loadItems nestedSpans { suggestions := true }]
  let state := (start "1" .manual (.ofConfig moodConfig .standard none) {} {}).run operations
  let moved := (state.perform (.accept ⟨"p", "1"⟩)).1
  let next := (moved.perform (.accept ⟨"c", "1"⟩)).1
  obtain ⟨parentThere, names, stillThere, areaThere, parentStays, elsewhere⟩ :
      state.suggestions.has ⟨"p", "1"⟩ = true ∧
      (state.suggestions.get? ⟨"c", "1"⟩).map (·.parentId) = some "p" ∧
      moved.suggestions.has ⟨"c", "1"⟩ = true ∧
      next.areas.has (moved.acceptedId ⟨"c", "1"⟩) = true ∧
      next.areas.has (state.acceptedId ⟨"p", "1"⟩) = true ∧
      (next.areas.get? (moved.acceptedId ⟨"c", "1"⟩)).bind (RegionView.properParent? next.areas) ≠
        some (state.acceptedId ⟨"p", "1"⟩) := by decide +kernel
  obtain ⟨suggestion, childThere, named⟩ := Option.map_eq_some_iff.mp names
  obtain ⟨area, stored⟩ := (Entries.has_eq_true_iff _ _).mp areaThere
  obtain ⟨parent, parentFound⟩ := (Entries.has_eq_true_iff _ _).mp parentThere
  obtain ⟨child, childFound⟩ := (Entries.has_eq_true_iff _ _).mp stillThere
  have wellFormed : state.WellFormed :=
    (wellFormed_start "1" .manual moodConfig .standard none {} {}).run operations
  obtain ⟨-, parentAnswer, -⟩ := accepted_perform wellFormed.sound parentFound
  obtain ⟨-, childAnswer, -⟩ :=
    accepted_perform (perform_wellFormed wellFormed _).sound childFound
  have inside := follows moodConfig none {} "1" operations _ _ _ _ suggestion area (by decide)
    parentThere childThere named parentAnswer childAnswer stored parentStays
  rw [stored] at elsewhere
  exact elsewhere inside

end Labeling.AnnotationState
