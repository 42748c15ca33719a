import Labeling.Proofs.Annotating.MadeUpIds
import Labeling.Proofs.Annotating.RelationEnds

/-!
# Accepting a suggestion overwrites nothing

A suggestion that is accepted comes to the live areas under an id that none of them has, as the
newest one. The live regions stay as they are, and of the live classifications and the accepted one
the newest of each control are left (`Areas.Gains`): `run_accept_gains`. The made-up id that a
suggestion takes where its own is taken is assumed to be new.
-/
namespace Labeling

namespace Areas

/-- An entry is the newest classification of its control. -/
structure IsNewest (areas : Areas) (entry : AreaId × Area) : Prop where
  /-- The area is there. -/
  inside : entry ∈ areas
  /-- It classifies the task. -/
  classifies : entry.2.classification = true
  /-- No classification of its control is newer. -/
  newest : ∀ rival ∈ areas, rival.2.classification = true →
    rival.2.control? = entry.2.control? → rival.2.seq ≤ entry.2.seq

/-- Some areas become others as one more comes. -/
structure Gains (before after : Areas) (id : AreaId) (area : Area) : Prop where
  /-- No area had its id. -/
  free : before.has id = false
  /-- It is there. -/
  stored : after.get? id = some area
  /-- Every other area is older. -/
  latest : ∀ entry ∈ after, entry.1 ≠ id → entry.2.seq < area.seq
  /-- The regions are the former ones, and it if it is a region. -/
  regions : ∀ other region, region.classification = false →
    (after.get? other = some region ↔
      before.get? other = some region ∨ (other, region) = (id, area))
  /-- The classifications are the newest ones of their controls among the former areas and it. -/
  classifications : ∀ entry, entry ∈ after ∧ entry.2.classification = true ↔
    IsNewest (before.put id area) entry

end Areas

namespace AnnotationState

section Areas

variable {tree : ElementTree} {owner : String} {bound : Nat} {areas : Areas}

/-- The control of a well-formed area is the one of its first result. -/
theorem exists_control {area : Area} (fits : area.WellFormed tree owner) :
    ∃ control, area.control? = some control := by
  obtain ⟨first, rest, same⟩ := List.exists_cons_of_ne_nil fits.nonempty
  exact ⟨first.fromName, by rw [Area.control?, same]; rfl⟩

/-- The classifications that none supersedes are the newest ones of their controls. -/
theorem isNewest_iff (wellFormed : areas.WellFormed tree owner bound) {entry : AreaId × Area} :
    entry ∈ unsuperseded areas ∧ entry.2.classification = true ↔ areas.IsNewest entry := by
  rw [mem_unsuperseded wellFormed]
  constructor
  · rintro ⟨⟨inside, unchallenged⟩, classifies⟩
    refine ⟨inside, classifies, fun rival member rivalClassifies same => ?_⟩
    refine Nat.le_of_not_lt fun later => unchallenged rival member ?_
    obtain ⟨control, created⟩ := exists_control (wellFormed.each entry inside)
    exact ⟨rivalClassifies, classifies, ⟨control, same.trans created, created⟩, later⟩
  · intro isNewest
    refine ⟨⟨isNewest.inside, fun newer member supersedes => ?_⟩, isNewest.classifies⟩
    obtain ⟨control, newerCreated, created⟩ := supersedes.control
    have bounded :=
      isNewest.newest newer member supersedes.classifies (newerCreated.trans created.symm)
    exact absurd supersedes.later (Nat.not_lt_of_le bounded)

/-- Without the superseded classifications some areas and a new one are what they were and the new
one. -/
theorem gains_unsuperseded (wellFormed : areas.WellFormed tree owner bound) {area : Area}
    (made : area.WellFormed tree owner) (last : area.seq = bound)
    (absent : areas.has area.id = false) :
    areas.Gains (unsuperseded (Entries.put area.id area areas)) area.id area := by
  have more := wellFormed.put made last
  have left := wellFormed_unsuperseded more
  have older {entry : AreaId × Area} (inside : entry ∈ Entries.put area.id area areas)
      (other : entry ≠ (area.id, area)) : entry.2.seq < area.seq := by
    have former := ((mem_put_iff area absent).mp inside).resolve_left other
    rw [last]
    exact wellFormed.below entry former
  have stays : (area.id, area) ∈ unsuperseded (Entries.put area.id area areas) := by
    refine (mem_unsuperseded more).mpr ⟨(mem_put_iff area absent).mpr (Or.inl rfl), ?_⟩
    intro newer member supersedes
    refine absurd supersedes.later (Nat.not_lt_of_le ?_)
    by_cases same : newer = (area.id, area)
    · rw [same]
    · exact Nat.le_of_lt (older member same)
  refine ⟨absent, Entries.get?_of_mem left.sorted stays, ?_, ?_, fun _ => isNewest_iff more⟩
  · intro entry member different
    refine older ((mem_unsuperseded more).mp member).1 fun same => different ?_
    rw [same]
  · intro other region isRegion
    constructor
    · intro found
      have inside := ((mem_unsuperseded more).mp (Entries.mem_of_get? found)).1
      exact ((mem_put_iff area absent).mp inside).symm.imp_left
        (Entries.get?_of_mem wellFormed.sorted)
    · intro source
      have inside : (other, region) ∈ Entries.put area.id area areas :=
        (mem_put_iff area absent).mpr (source.symm.imp_right Entries.mem_of_get?)
      exact get?_unsuperseded more (Entries.get?_of_mem more.sorted inside) isRegion

end Areas

variable {state : AnnotationState} {id : AreaId} {area : Area}

/-- Accepting a suggestion adds it to the areas under its accepted id. -/
theorem gains_accept (sound : state.Sound) (found : state.suggestions.get? id = some area)
    (new : ∀ made ∈ state.madeUpIds (.accept id), state.mentions made = false) :
    state.areas.Gains (state.perform (.accept id)).1.areas (state.acceptedId id)
      (admitted area (state.acceptedId id) state.nextSeq) := by
  obtain ⟨named, -, accepted⟩ := accepted_perform sound found
  have fits : area.WellFormed state.tree state.id :=
    sound.suggestions.each _ (Entries.mem_of_get? found)
  have owner : (state.acceptedId id).owner = state.id := owner_acceptedId (named ▸ fits.owner)
  have absent : state.areas.has (state.acceptedId id) = false := by
    rcases acceptedId_new sound found new with ⟨own, free⟩ | fresh
    · rw [own]
      exact free
    · exact (mentions_eq_false_iff.mp fresh).1
  have gains := gains_unsuperseded sound.areas (wellFormed_admitted fits owner) rfl absent
  rw [accepted.areas]
  exact gains

/-- Whether a run goes on without ever mentioning an id. -/
def neverMentions (state : AnnotationState) (id : AreaId) : List Operation → Bool
  | [] => !state.mentions id
  | operation :: rest => !state.mentions id && neverMentions (state.perform operation).1 id rest

/-- What a run never mentions is not mentioned at its end. -/
theorem mentions_run {operations : List Operation}
    (never : state.neverMentions id operations = true) :
    (state.run operations).mentions id = false := by
  induction operations generalizing state with
  | nil => exact (Bool.not_eq_true' _).mp never
  | cons operation rest hypothesis => exact hypothesis (Bool.and_eq_true_iff.mp never).2

/-- The accepted id of a suggestion whose own id is taken is made up. -/
theorem acceptedId_mem_madeUpIds (sound : state.Sound)
    (found : state.suggestions.get? id = some area) (taken : state.areas.has id = true) :
    state.acceptedId id ∈ state.madeUpIds (.accept id) := by
  obtain ⟨named, -, accepted⟩ := accepted_perform sound found
  have generated := accepted.generated
  rw [named, if_pos taken] at generated
  rw [acceptedId, if_pos taken]
  exact mem_madeUpIds (Nat.lt_succ_self _) (Nat.le_of_eq generated.symm)

/-- Whatever operations were carried out on an annotation of a bound tree, accepting one of its
suggestions removes just that one from the suggestions and adds it to the areas, under its own id
if no area has it and else under one that the annotation never mentioned: marked as a former
suggestion and shown, with its object, parent, geometry, results and whether it may be changed, and
newer than every other area. The other regions stay as they are, and of the classifications the
newest of each control are left. A made-up id is taken to be new. -/
theorem run_accept_gains (id : String) (kind : AnnotationKind) (config : ConfigTree)
    (catalogue : Catalogue) (task : Option Json) (settings : Settings) (session : Session)
    (operations : List Operation) {suggestion : AreaId} {area : Area} :
    let begun := start id kind (.ofConfig config catalogue task) settings session
    let state := begun.run operations
    let next := (state.perform (.accept suggestion)).1
    state.suggestions.get? suggestion = some area →
      (∀ new ∈ state.madeUpIds (.accept suggestion),
        begun.neverMentions new operations = true) →
      ∃ made,
        (state.perform (.accept suggestion)).2 = .area made ∧
        next.suggestions = state.suggestions.erase suggestion ∧
        (state.areas.has suggestion = false → made = suggestion) ∧
        (state.areas.has suggestion = true → begun.neverMentions made operations = true) ∧
        state.areas.Gains next.areas made
          { area with id := made, fromSuggestion := true, hidden := false,
                      seq := state.nextSeq } := by
  intro begun state next found fresh
  have wellFormed : state.WellFormed :=
    (wellFormed_start id kind config catalogue task settings session).run operations
  obtain ⟨named, answer, accepted⟩ := accepted_perform wellFormed.sound found
  refine ⟨state.acceptedId suggestion, answer, named ▸ accepted.suggestions, ?_, ?_, ?_⟩
  · intro free
    exact if_neg (Bool.eq_false_iff.mp free)
  · intro taken
    exact fresh _ (acceptedId_mem_madeUpIds wellFormed.sound found taken)
  · exact gains_accept wellFormed.sound found fun new member => mentions_run (fresh new member)

/-- A mood and a span that are there, and another mood and a span that are suggested, of which the
mood has the id of the one that is there. -/
def moodBesideMood : List Operation := [
  .loadItems (moodItems ["good"]) {},
  .loadItems (moodItems ["bad"]) { suggestions := true }]

set_option maxRecDepth 10000 in
/-- A suggested mood whose id is taken is accepted under a new one and supersedes the other mood;
the spans stay where they are. -/
theorem moodBesideMood_gains :
    let begun := start "1" .manual (.ofConfig moodConfig .standard none) {} {}
    let state := begun.run moodBesideMood
    let next := (state.perform (.accept ⟨"a", "1"⟩)).1
    state.areas.has ⟨"a", "1"⟩ = true ∧ next.suggestions.keys = [⟨"b", "1"⟩] ∧
      next.areas.keys = [⟨"b", "1"⟩, ⟨"~001", "1"⟩] ∧
      ∃ area made, state.suggestions.get? ⟨"a", "1"⟩ = some area ∧
        (state.perform (.accept ⟨"a", "1"⟩)).2 = .area made ∧
        begun.neverMentions made moodBesideMood = true ∧
        state.areas.Gains next.areas made
          { area with id := made, fromSuggestion := true, hidden := false,
                      seq := state.nextSeq } := by
  have gains := @run_accept_gains "1" .manual moodConfig .standard none {} {} moodBesideMood
    ⟨"a", "1"⟩
  have evaluated :
      let begun := start "1" .manual (.ofConfig moodConfig .standard none) {} {}
      let state := begun.run moodBesideMood
      let next := (state.perform (.accept ⟨"a", "1"⟩)).1
      state.areas.has ⟨"a", "1"⟩ = true ∧ next.suggestions.keys = [⟨"b", "1"⟩] ∧
        next.areas.keys = [⟨"b", "1"⟩, ⟨"~001", "1"⟩] ∧
        state.suggestions.has ⟨"a", "1"⟩ = true ∧
        ∀ new ∈ state.madeUpIds (.accept ⟨"a", "1"⟩),
          begun.neverMentions new moodBesideMood = true := by
    rw [ofConfig_moodConfig]
    decide +kernel
  -- What the annotation is made of is not looked at any more.
  generalize start "1" .manual (.ofConfig moodConfig .standard none) {} {} = begun
    at gains evaluated ⊢
  obtain ⟨taken, left, live, pending, fresh⟩ := evaluated
  obtain ⟨area, found⟩ := (Entries.has_eq_true_iff _ _).mp pending
  obtain ⟨made, answer, -, -, new, gained⟩ := gains found fresh
  exact ⟨taken, left, live, area, made, found, answer, new taken, gained⟩

end AnnotationState
end Labeling
