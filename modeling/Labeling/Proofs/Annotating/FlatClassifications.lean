import Labeling.Proofs.Annotating.LoadedAreas
import Labeling.Proofs.Annotating.SingleClassifications

/-!
# Classifications have no geometry

An area that classifies the whole task is meant to have no geometry, so that the removal of
superseded classifications takes away no region. Creating areas and loading items decide by the
geometry whether an area classifies, and every other operation leaves both alone, apart from the one
that replaces the geometry of an area and not what the area is: `run_flat_iff`.
-/
namespace Labeling

/-- An area that classifies the task has no geometry. -/
def Area.IsFlat (area : Area) : Prop := area.classification = true → area.shape.isNone = true

instance (area : Area) : Decidable area.IsFlat := inferInstanceAs (Decidable (_ → _))

namespace AnnotationState

variable {state next : AnnotationState} {operation : Operation}

/-! ## What the removal takes away -/

section Removal

variable {tree : ElementTree} {owner : String} {bound : Nat} {areas : Areas}

/-- An area that is removed classifies the task. -/
theorem classifies_of_lost (wellFormed : areas.WellFormed tree owner bound)
    {entry : AreaId × Area} (inside : entry ∈ areas)
    (lost : (unsuperseded areas).has entry.1 = false) : entry.2.classification = true := by
  by_contra region
  have left := get?_unsuperseded wellFormed (Entries.get?_of_mem wellFormed.sorted inside)
    (Bool.eq_false_iff.mpr region)
  rw [Entries.has, left] at lost
  contradiction

/-- The newest area is not removed. -/
theorem has_unsuperseded_put (wellFormed : areas.WellFormed tree owner bound) {area : Area}
    (made : area.WellFormed tree owner) (last : area.seq = bound) :
    (unsuperseded (Entries.put area.id area areas)).has area.id = true := by
  have stored : (area.id, area) ∈ Entries.put area.id area areas :=
    Entries.mem_of_get? (Entries.get?_put_self _ _ _)
  have left : (area.id, area) ∈ unsuperseded (Entries.put area.id area areas) := by
    refine (mem_unsuperseded (wellFormed.put made last)).mpr
      ⟨stored, fun newer inside supersedes => ?_⟩
    have later := supersedes.later
    rcases Entries.mem_put inside with same | old
    · rw [same] at later
      exact Nat.lt_irrefl _ later
    · have below := wellFormed.below newer old
      dsimp only at later
      omega
  exact (Entries.has_iff_mem_keys _ _).mpr (Entries.mem_keys left)

/-- An area that is removed behind a new one classifies the task. -/
theorem classifies_of_lost_put (wellFormed : areas.WellFormed tree owner bound) {area : Area}
    (made : area.WellFormed tree owner) (last : area.seq = bound) {entry : AreaId × Area}
    (inside : entry ∈ areas)
    (lost : (unsuperseded (Entries.put area.id area areas)).has entry.1 = false) :
    entry.2.classification = true := by
  have different : entry.1 ≠ area.id := fun same => by
    rw [same, has_unsuperseded_put wellFormed made last] at lost
    contradiction
  have stays : entry ∈ Entries.put area.id area areas := by
    apply Entries.mem_of_get?
    rw [Entries.get?_put_of_ne _ different]
    exact Entries.get?_of_mem wellFormed.sorted inside
  exact classifies_of_lost (wellFormed.put made last) stays lost

end Removal

/-- A created area is new, and what it supersedes is removed. -/
theorem areas_of_create (sound : state.Sound) {shape : Shape} {value : Value}
    {control object : String} {id : AreaId}
    (created : state.create shape value control object = .ok (next, id)) :
    ∃ area : Area, area.WellFormed state.tree state.id ∧ area.seq = state.nextSeq ∧
      next.areas = unsuperseded (Entries.put area.id area state.areas) := by
  obtain ⟨controlElement, objectElement, changed, made, controlFound, objectFound, owner,
    continues, areas, -⟩ := create_eq_ok created
  have named : state.tree.get? objectElement.name = some objectElement := by
    rw [sound.named object objectElement objectFound.1]
    exact objectFound.1
  have fits : (createdArea controlElement objectElement shape value (control, object) id
      state.nextSeq).WellFormed state.tree state.id :=
    Area.WellFormed.createdArea controlFound objectFound named owner
  have wellFormed : changed.areas.WellFormed changed.tree changed.id (state.nextSeq + 1) := by
    rw [areas, continues.tree, continues.id]
    exact sound.areas.put fits rfl
  refine ⟨_, fits, rfl, ?_⟩
  rw [made, areas_recorded, areas_cleaned wellFormed, areas]
  rfl

/-- No area with a geometry is taken away where superseded classifications are removed: not by the
removal itself, not behind a created or an accepted area, and not once every suggestion is
accepted. -/
structure SweepsNoRegion (state : AnnotationState) : Prop where
  /-- One area is new at most. -/
  one : ∀ operation : Operation, operation.sweeps = true → operation ≠ .acceptAll →
    ∀ entry ∈ state.areas, (state.perform operation).1.areas.has entry.1 = false →
      entry.2.shape.isNone = true
  /-- Every suggestion is a new area. -/
  all : ∀ entry ∈ state.allAccepted.areas, (state.perform .acceptAll).1.areas.has entry.1 = false →
    entry.2.shape.isNone = true

/-- An area that leaves where superseded classifications are removed classifies the task. -/
theorem classifies_of_swept (sound : state.Sound) (sweeps : operation.sweeps = true)
    (one : operation ≠ .acceptAll) {entry : AreaId × Area} (inside : entry ∈ state.areas)
    (lost : (state.perform operation).1.areas.has entry.1 = false) :
    entry.2.classification = true := by
  -- An operation that fails takes nothing away.
  have stays : state.areas.has entry.1 = true :=
    (Entries.has_iff_mem_keys _ _).mpr (Entries.mem_keys inside)
  cases operation with
  | create shape value control object =>
    cases created : state.create shape value control object with
    | ok success =>
      obtain ⟨area, made, last, areas⟩ := areas_of_create sound created
      rw [perform, created, attempt, areas] at lost
      exact classifies_of_lost_put sound.areas made last inside lost
    | error cause =>
      rw [perform, created, attempt, stays] at lost
      contradiction
  | accept id =>
    cases found : state.suggestions.get? id with
    | some area =>
      obtain ⟨named, -, accepted⟩ := accepted_perform sound found
      have fits : area.WellFormed state.tree state.id :=
        sound.suggestions.each _ (Entries.mem_of_get? found)
      have owner : (state.acceptedId id).owner = state.id := owner_acceptedId (named ▸ fits.owner)
      rw [accepted.areas] at lost
      exact classifies_of_lost_put sound.areas (wellFormed_admitted fits owner) rfl inside lost
    | none =>
      rw [perform_accept_of_none found, stays] at lost
      contradiction
  | acceptAll => contradiction
  | clean =>
    have areas : (state.perform .clean).1.areas = unsuperseded state.areas :=
      areas_cleaned sound.areas
    rw [areas] at lost
    exact classifies_of_lost sound.areas inside lost
  | _ => contradiction

/-! ## Loads -/

/-- An item makes or leaves a classification only where there is no geometry. -/
theorem loadsKeep_isFlat (tree : ElementTree) :
    LoadsKeep tree (fun _ => True) Area.IsFlat where
  begun _ _ _ _ _ _ _ _ := fun classifies => (Bool.and_eq_true_iff.mp classifies).2
  continued _ _ _ _ _ _ _ := fun classifies => (Bool.and_eq_true_iff.mp classifies).2

/-- Everything that is there is flat. -/
def PresentFlat (state : AnnotationState) : Prop :=
  (∀ entry ∈ state.areas, entry.2.IsFlat) ∧ ∀ entry ∈ state.suggestions, entry.2.IsFlat

/-- What an operation loads leaves everything flat. -/
theorem PresentFlat.loading {loading : Loading} (flat : state.PresentFlat)
    (loads : state.loading? operation = some loading) :
    (state.perform operation).1.PresentFlat :=
  forall_presents_iff.mp
    ((loadsKeep_isFlat state.tree).perform loads (fun _ _ => trivial)
      (forall_presents_iff.mpr flat))

/-! ## Runs -/

/-- A new geometry of an area that classifies the task is none. -/
def LeavesFlat (state : AnnotationState) (operation : Operation) : Prop :=
  ∀ id shape, operation = .updateShape id shape → ∀ area, state.areas.get? id = some area →
    area.classification = true → shape.isNone = true

/-- Every area is flat that is there or in a state that the history may hand out. -/
structure FlatThroughout (state : AnnotationState) : Prop where
  /-- The annotation is well formed. -/
  wellFormed : state.WellFormed
  /-- Everything that is there is flat. -/
  present : state.PresentFlat
  /-- So are the areas that the history may hand out. -/
  holds : ∀ held, state.history.Holds held → ∀ entry ∈ held.areas, entry.2.IsFlat

/-- Where everything is flat no area with a geometry is removed. -/
theorem FlatThroughout.sweepsNoRegion (flat : state.FlatThroughout) : state.SweepsNoRegion := by
  have sound := flat.wellFormed.sound
  constructor
  · intro operation sweeps one entry inside lost
    exact flat.present.1 entry inside (classifies_of_swept sound sweeps one inside lost)
  · intro entry inside lost
    have accepted := sound_allAccepted sound
    have wellFormed : state.allAccepted.promoteRelations.areas.WellFormed
        state.allAccepted.promoteRelations.tree state.allAccepted.promoteRelations.id _ :=
      accepted.areas
    obtain ⟨_, _, performed⟩ := perform_acceptAll state
    have areas : (state.perform .acceptAll).1.areas = unsuperseded state.allAccepted.areas := by
      rw [performed]
      exact areas_cleaned wellFormed
    rw [areas] at lost
    have classifies := classifies_of_lost accepted.areas inside lost
    rcases mem_areas_acceptAreas _ inside with old | ⟨suggestion, member, flag, shape, -⟩
    · exact flat.present.1 entry old classifies
    · obtain ⟨id, pending⟩ := Areas.mem_bySeq.mp member
      rw [shape]
      exact flat.present.2 _ pending (flag ▸ classifies)

/-- The new geometry of an area is there behind the operation that replaces it. -/
theorem mem_perform_updateShape {id : AreaId} {area : Area} (shape : Shape)
    (found : state.areas.get? id = some area) :
    (id, { area with shape := shape }) ∈ (state.perform (.updateShape id shape)).1.areas := by
  have performed : (state.perform (.updateShape id shape)).1 =
      (state.changeArea id ({ · with shape := shape })).recorded := by
    rw [perform, updateShape, changeLive, liveArea_eq_ok.mpr found]
    rfl
  rw [performed, areas_recorded]
  apply Entries.mem_of_get?
  rw [changeArea, Entries.get?_update, if_pos rfl, found, Option.map_some]

/-- Areas are flat behind an operation that loads nothing and gives no classification a
geometry. -/
theorem FlatThroughout.reshapes {areas : Areas} (flat : state.FlatThroughout)
    (reshapes : state.Reshapes operation areas) (leaves : state.LeavesFlat operation) :
    ∀ entry ∈ areas, entry.2.IsFlat := by
  cases reshapes with
  | fewer among => exact fun entry inside => flat.present.1 entry (among inside)
  | changed id classification _ _ shape =>
    intro entry inside
    rcases Entries.mem_update inside with old | ⟨former, stored, same⟩
    · exact flat.present.1 entry old
    · rw [same]
      intro classifies
      rw [classification] at classifies
      rcases shape former with kept | replaced
      · exact kept ▸ flat.present.1 _ stored classifies
      · exact leaves id _ replaced former
          (Entries.get?_of_mem flat.wellFormed.sound.areas.sorted stored) classifies
  | @swept middle each =>
    intro entry inside
    rcases each entry (areas_cleaned_subset middle inside) with old | joins
    · exact flat.present.1 entry old
    · cases joins with
      | created _ flat => exact flat
      | accepted pending flag shape =>
        -- An accepted suggestion is flat because the suggestion was.
        intro classifies
        rw [shape]
        exact flat.present.2 _ pending (flag ▸ classifies)
  | handed holds => exact flat.holds _ holds

/-- An operation leaves everything flat just when it gives no classification a geometry. -/
theorem FlatThroughout.perform_iff (flat : state.FlatThroughout) (operation : Operation) :
    (state.perform operation).1.PresentFlat ↔ state.LeavesFlat operation := by
  constructor
  · intro present id shape same area found classifies
    subst same
    exact present.1 _ (mem_perform_updateShape shape found) classifies
  · intro leaves
    cases loads : state.loading? operation with
    | some loading => exact flat.present.loading loads
    | none =>
      obtain ⟨reshapes, suggestions⟩ := reshapes_perform operation loads
      exact ⟨flat.reshapes reshapes leaves,
        fun entry pending => flat.present.2 entry (suggestions pending)⟩

/-- What the history holds stays flat if the areas do. -/
theorem FlatThroughout.perform (flat : state.FlatThroughout) (operation : Operation)
    (present : (state.perform operation).1.PresentFlat) :
    (state.perform operation).1.FlatThroughout := by
  refine ⟨perform_wellFormed flat.wellFormed operation, present, fun held holds => ?_⟩
  rcases holds_perform state operation holds with old | new
  · exact flat.holds held old
  · exact new ▸ present.1

/-- In a run from a new annotation of a bound tree no area and no suggestion that classifies the
task ever has a geometry just when no operation gives a geometry to such an area; and then the
removal of superseded classifications never takes away an area with a geometry. -/
theorem run_flat_iff (id : String) (kind : AnnotationKind) (config : ConfigTree)
    (catalogue : Catalogue) (task : Option Json) (settings : Settings) (session : Session)
    (operations : List Operation) :
    let first := start id kind (.ofConfig config catalogue task) settings session
    (∀ before after, operations = before ++ after →
        (first.run before).PresentFlat ∧ (first.run before).SweepsNoRegion) ↔
      ∀ before operation after, operations = before ++ operation :: after →
        (first.run before).LeavesFlat operation := by
  intro first
  have begun : first.FlatThroughout := by
    refine ⟨wellFormed_start id kind config catalogue task settings session, ⟨?_, ?_⟩,
      fun held holds => ?_⟩
    · exact List.forall_mem_nil _
    · exact List.forall_mem_nil _
    · rw [History.Holds.of_attach holds]
      exact List.forall_mem_nil _
  have good (state : AnnotationState) (flat : state.FlatThroughout) :
      state.PresentFlat ∧ state.SweepsNoRegion := ⟨flat.present, flat.sweepsNoRegion⟩
  have step (state : AnnotationState) (flat : state.FlatThroughout) (operation : Operation) :
      (state.perform operation).1.PresentFlat ∧ (state.perform operation).1.SweepsNoRegion ↔
        state.LeavesFlat operation := by
    rw [← flat.perform_iff operation]
    exact and_iff_left_of_imp fun present => (flat.perform operation present).sweepsNoRegion
  exact run_iff good step (fun _ flat operation kept => flat.perform operation kept.1) begun
    operations

/-- A drawn span of a text. -/
def drawnSpan : Shape where
  geometry := .textSpan (.integer 1) (.integer 4) none none none

set_option maxRecDepth 10000 in
/-- Behind a new geometry of a labelled span the loaded mood is flat. -/
theorem redrawnSpan_flat :
    let first := start "1" .manual (.ofConfig moodConfig .standard none) {} {}
    let operations := [.loadItems (moodItems ["good"]) {}, .updateShape ⟨"b", "1"⟩ drawnSpan]
    (∀ before operation after, operations = before ++ operation :: after →
        (first.run before).LeavesFlat operation) ∧
      ∀ before after, operations = before ++ after →
        (first.run before).PresentFlat ∧ (first.run before).SweepsNoRegion := by
  intro first operations
  have leaves (before : List Operation) (operation : Operation) (after : List Operation)
      (whole : operations = before ++ operation :: after) :
      (first.run before).LeavesFlat operation := by
    intro id shape replaces area found classifies
    rcases before with _ | ⟨earlier, before⟩
    · have load := (List.cons.inj whole).1
      rw [replaces] at load
      contradiction
    · rcases before with _ | ⟨later, before⟩
      · have redraw := (List.cons.inj (List.cons.inj whole).2).1
        have load := (List.cons.inj whole).1
        rw [replaces] at redraw
        cases redraw
        have region : ((first.run [.loadItems (moodItems ["good"]) {}]).areas.get?
            ⟨"b", "1"⟩).map (·.classification) = some false := by decide +kernel
        rw [load] at region
        rw [found, Option.map_some, classifies] at region
        contradiction
      · simp [operations] at whole
  exact ⟨leaves,
    (run_flat_iff "1" .manual moodConfig .standard none {} {} operations).mpr leaves⟩

set_option maxRecDepth 10000 in
/-- Not every classification is flat: a loaded mood may get a geometry, and another mood that is
created then takes the drawn area away. -/
theorem drawnMood_not_flat :
    (¬ ∀ (config : ConfigTree) (task : Option Json) (settings : Settings) (id : String)
        (operations : List Operation),
      ((start id .manual (.ofConfig config .standard task) settings {}).run
        operations).PresentFlat) ∧
    ¬ ∀ (config : ConfigTree) (task : Option Json) (settings : Settings) (id : String)
        (operations : List Operation),
      ((start id .manual (.ofConfig config .standard task) settings {}).run
        operations).SweepsNoRegion := by
  let state := (start "1" .manual (.ofConfig moodConfig .standard none) {} {}).run
    [.loadItems (moodItems ["good"]) {}, .updateShape ⟨"a", "1"⟩ drawnSpan]
  let create := Operation.create {} [("choices", .array [.string "good"])] "mood" "text"
  obtain ⟨drawn, gone⟩ : (¬ ∀ entry ∈ state.areas, entry.2.IsFlat) ∧
      ¬ ∀ entry ∈ state.areas, (state.perform create).1.areas.has entry.1 = false →
        entry.2.shape.isNone = true := by decide +kernel
  constructor
  · exact fun flat => drawn (flat moodConfig none {} "1" _).1
  · intro sweeps
    have none : state.SweepsNoRegion := sweeps moodConfig none {} "1" _
    exact gone (none.one create rfl (by simp [create]))

end AnnotationState
end Labeling
