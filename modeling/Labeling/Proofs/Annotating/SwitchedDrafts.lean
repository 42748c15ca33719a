import Labeling.Proofs.Annotating.Attached
import Labeling.Proofs.Annotating.LoadedAlike

/-!
# Switching between draft and result

Switching drops what an annotation has and loads what is stored, so two annotations with the same
stored versions that show the same one of them are written alike afterwards, whatever they were
before: they are written as a new annotation that has loaded the stored version, but for the ids
that each of them made up. The selection is empty, nothing can be undone or redone, and there is
nothing to save (`run_switched`).
-/
namespace Labeling.AnnotationState

variable {state next other : AnnotationState} {options : LoadOptions}

/-! ## One switch -/

/-- The annotation without its areas that has loaded what is stored for the other version, and
begins its history there. -/
def toggled (state : AnnotationState) : AnnotationState :=
  (state.switched.cleared.load (.array state.switched.stored) {}).1.resetHistory

/-- An annotation is switched just if there is a draft, which is told. -/
theorem perform_toggleDraft (state : AnnotationState) : state.perform .toggleDraft =
    (if state.versions.draft.isSome then state.toggled else state,
      .flag state.versions.draft.isSome) := by
  show answered state.toggleDraft .flag = _
  rw [toggleDraft]
  cases state.versions.draft with
  | none => rfl
  | some draft => rfl

/-- With a draft an annotation is switched. -/
theorem toggled_of_isSome (draft : state.versions.draft.isSome = true) :
    (state.perform .toggleDraft).1 = state.toggled := by
  rw [perform_toggleDraft, if_pos draft]

/-- A cleared annotation selects nothing. -/
theorem selection_cleared (state : AnnotationState) : state.cleared.selection = [] := by
  rw [cleared]
  dsimp only
  split
  · rename_i empty
    exact List.isEmpty_iff.mp empty
  · rfl

/-- Adding items leaves the selection as it is. -/
theorem selection_applyResults (options : LoadOptions) (items : List WireResult)
    (state : AnnotationState) :
    (applyResults options state items).1.selection = state.selection := by
  induction items generalizing state with
  | nil => rfl
  | cons item rest hypothesis =>
    rw [applyResults]
    split
    · rename_i next applied
      obtain ⟨_, _, -, -, made⟩ := applyResult_eq_ok applied
      rw [hypothesis, made, itemId]
      split
      · rfl
      · rfl
    · rfl

/-- A load leaves the selection as it is. -/
theorem selection_load (state : AnnotationState) (payload : Json) (options : LoadOptions) :
    (state.load payload options).1.selection = state.selection := by
  have ended (result : AnnotationState × Option Failure) :
      (finishLoad result).1.selection = result.1.selection := by
    obtain ⟨changed, _ | failure⟩ := result
    · rfl
    · rfl
  rw [load]
  split
  · rename_i items _
    rw [loadItems, ended, applyItems]
    have applied := selection_applyResults options
      (WireItem.results (Repair.items state.frozen.tree items)) state.frozen
    dsimp only
    split
    · rename_i failing
      rw [failing] at applied
      exact applied
    · rename_i adding
      rw [adding] at applied
      split
      · exact applied
      · exact applied
  · exact ended (state.frozen, _)

/-- An annotation that begins anew: nothing is selected, nothing can be undone or redone, and there
is nothing to save. -/
structure BeginsAnew (state : AnnotationState) : Prop where
  /-- Nothing is selected. -/
  selection : state.selection = []
  /-- Nothing can be undone. -/
  undo : state.history.canUndo = false
  /-- Nothing can be redone. -/
  redo : state.history.canRedo = false
  /-- At any time there is nothing to save. -/
  autosave : ∀ now, (state.autosave now).2 = .unchanged

/-- A switched annotation begins anew. -/
theorem beginsAnew_toggled (state : AnnotationState) : state.toggled.BeginsAnew := by
  refine ⟨(selection_load _ _ _).trans (selection_cleared _), rfl, rfl, fun now => ?_⟩
  have saved : state.toggled.savedRevision = state.toggled.revision := rfl
  rw [autosave, if_pos saved]

/-! ## Two annotations -/

/-- An annotation of a configuration behind a run. -/
structure Belongs (tree : ElementTree) (owner : String) (settings : Settings)
    (state : AnnotationState) : Prop where
  /-- The annotation is one of the configuration. -/
  tree : state.tree = tree
  /-- The annotation has the id. -/
  id : state.id = owner
  /-- The annotation has the settings, and its history is one under them. -/
  zips : state.Zips settings
  /-- The annotation is well formed. -/
  wellFormed : state.WellFormed

/-- No operation changes the configuration, the id or the settings. -/
theorem Belongs.perform {tree : ElementTree} {owner : String} {settings : Settings}
    (belongs : Belongs tree owner settings state) (operation : Operation) :
    Belongs tree owner settings (state.perform operation).1 where
  tree := (tree_perform state operation).trans belongs.tree
  id := by
    refine Eq.trans ?_ belongs.id
    by_cases clean : operation = .clean
    · subst clean
      exact (continues_cleaned state).id
    · exact (perform_outcome state clean).stays.2
  zips := belongs.zips.perform operation
  wellFormed := perform_wellFormed belongs.wellFormed operation

/-- A run belongs where it begins. -/
theorem belongs_run (id : String) (kind : AnnotationKind) (config : ConfigTree)
    (catalogue : Catalogue) (task : Option Json) (settings : Settings) (session : Session)
    (operations : List Operation) :
    let tree := ElementTree.ofConfig config catalogue task
    Belongs tree id settings ((start id kind tree settings session).run operations) := by
  intro tree
  exact run_keeps (fun _ before => before.perform) ⟨rfl, rfl, zips_start id kind tree settings
    session, wellFormed_start id kind config catalogue task settings session⟩ operations

/-- Without its areas and relations an annotation is empty. -/
theorem Belongs.isEmpty_cleared {tree : ElementTree} {owner : String} {settings : Settings}
    (belongs : Belongs tree owner settings state) :
    IsEmpty tree owner settings state.switched.cleared := by
  have sound : state.switched.Sound :=
    ⟨belongs.wellFormed.sound.named, belongs.wellFormed.sound.areas,
      belongs.wellFormed.sound.suggestions, belongs.wellFormed.sound.selection⟩
  have continues := continues_cleared state.switched
  have relations : state.switched.cleared.relations = [] := by
    rw [cleared]
    dsimp only
    split
    · rfl
    · rfl
  exact ⟨continues.tree.trans belongs.tree, continues.id.trans belongs.id,
    continues.settings.trans belongs.zips.1, (advances_cleared _ sound).1,
    (present_cleared _).1, relations⟩

/-- A new annotation is empty. -/
theorem isEmpty_start (id : String) (kind : AnnotationKind) (config : ConfigTree)
    (catalogue : Catalogue) (task : Option Json) (settings : Settings) (session : Session) :
    let tree := ElementTree.ofConfig config catalogue task
    IsEmpty tree id settings (start id kind tree settings session) :=
  ⟨rfl, rfl, rfl, (wellFormed_start id kind config catalogue task settings session).sound, rfl, rfl⟩

/-- If an operation makes up the ids of a load, and they are new to the payload, the load makes up
new ones. -/
theorem loadsNew_of_madeUpIds (operation : Operation) {payload : Json}
    (begun : state.session.Ahead 0 other.session)
    (ended : (other.load payload {}).1.session.generated =
      (state.perform operation).1.session.generated)
    (new : ∀ made ∈ state.madeUpIds operation, Payload.names payload made.raw = false) :
    other.LoadsNew payload := by
  intro place later earlier
  rw [begun.generated] at later
  rw [ended] at earlier
  rw [begun.supply]
  exact new _ (mem_madeUpIds later earlier)

/-- Making ready for a switch makes up no ids. -/
theorem ahead_cleared (state : AnnotationState) :
    state.session.Ahead 0 state.switched.cleared.session := by
  rw [cleared]
  dsimp only
  split
  · exact ⟨rfl, rfl⟩
  · exact ⟨rfl, rfl⟩

/-- Whatever was done with two annotations of one configuration, of one id, and with the same stored
versions, of which they show the same one, the switch between draft and result answers the same, and
if there is a draft both annotations begin anew. They are written alike but for made-up ids, and as
a new annotation that has loaded what is stored, nothing where that is absent, as long as the ids
that are made up are new to it. -/
theorem run_switched (id : String) (config : ConfigTree) (catalogue : Catalogue)
    (task : Option Json) (settings : Settings) (firstKind secondKind freshKind : AnnotationKind)
    (firstSession secondSession freshSession : Session)
    (firstOperations secondOperations : List Operation) :
    let tree := ElementTree.ofConfig config catalogue task
    let first := (start id firstKind tree settings firstSession).run firstOperations
    let second := (start id secondKind tree settings secondSession).run secondOperations
    let fresh := start id freshKind tree settings freshSession
    let loading := Operation.load (.array first.switched.stored) {}
    let firstNext := (first.perform .toggleDraft).1
    let secondNext := (second.perform .toggleDraft).1
    let freshNext := (fresh.perform loading).1
    second.versions = first.versions → second.draftSelected = first.draftSelected →
      (second.perform .toggleDraft).2 = (first.perform .toggleDraft).2 ∧
      ((first.perform .toggleDraft).2 = .flag true →
        firstNext.BeginsAnew ∧ secondNext.BeginsAnew ∧
        ((∀ made ∈ first.madeUpIds .toggleDraft ++ second.madeUpIds .toggleDraft ++
            fresh.madeUpIds loading,
            Payload.names (.array first.switched.stored) made.raw = false) →
          WrittenAlike first.session second.session firstNext secondNext ∧
          WrittenAlike fresh.session first.session freshNext firstNext ∧
          WrittenAlike fresh.session second.session freshNext secondNext)) := by
  intro tree first second fresh loading firstNext secondNext freshNext versions shown
  have sameStored : second.switched.stored = first.switched.stored := by
    show (if !second.draftSelected then second.versions.draft
        else second.versions.result).getD [] =
      (if !first.draftSelected then first.versions.draft else first.versions.result).getD []
    rw [versions, shown]
  refine ⟨?_, fun answer => ?_⟩
  · rw [perform_toggleDraft, perform_toggleDraft, versions]
  rw [perform_toggleDraft, Answer.flag.injEq] at answer
  let baseline : Json := .array first.switched.stored
  have firstToggled : firstNext = first.toggled := toggled_of_isSome answer
  have secondToggled : secondNext = second.toggled := toggled_of_isSome (versions ▸ answer)
  have secondLoaded :
      second.toggled = (second.switched.cleared.load baseline {}).1.resetHistory := by
    rw [toggled, sameStored]
  rw [firstToggled, secondToggled]
  refine ⟨beginsAnew_toggled first, beginsAnew_toggled second, fun new => ?_⟩
  have firstEmpty : IsEmpty tree id settings first.switched.cleared :=
    (belongs_run id firstKind config catalogue task settings firstSession
      firstOperations).isEmpty_cleared
  have secondEmpty : IsEmpty tree id settings second.switched.cleared :=
    (belongs_run id secondKind config catalogue task settings secondSession
      secondOperations).isEmpty_cleared
  have freshEmpty : IsEmpty tree id settings fresh :=
    isEmpty_start id freshKind config catalogue task settings freshSession
  have firstNew : first.switched.cleared.LoadsNew baseline :=
    loadsNew_of_madeUpIds .toggleDraft (ahead_cleared first)
      (congrArg (·.session.generated) firstToggled.symm)
      fun made member => new made (List.mem_append_left _ (List.mem_append_left _ member))
  have secondNew : second.switched.cleared.LoadsNew baseline :=
    loadsNew_of_madeUpIds .toggleDraft (ahead_cleared second)
      (congrArg (·.session.generated) (secondToggled.trans secondLoaded).symm)
      fun made member => new made (List.mem_append_left _ (List.mem_append_right _ member))
  have freshNew : fresh.LoadsNew baseline :=
    loadsNew_of_madeUpIds loading ⟨rfl, rfl⟩ rfl
      fun made member => new made (List.mem_append_right _ member)
  have stays : fresh.session.Ahead 0 fresh.session := ⟨rfl, rfl⟩
  rw [secondLoaded]
  exact ⟨(firstEmpty.writtenAlike_load secondEmpty firstNew secondNew).of_ahead
      (ahead_cleared first) (ahead_cleared second),
    (freshEmpty.writtenAlike_load firstEmpty freshNew firstNew).of_ahead stays
      (ahead_cleared first),
    (freshEmpty.writtenAlike_load secondEmpty freshNew secondNew).of_ahead stays
      (ahead_cleared second)⟩

/-- A draft with a mood that has no id. -/
def namelessDraft : Versions where
  draft := some [WireItem.toJson (.result
    { fromName := "mood", toName := "text", resultType := "choices",
      value := [("choices", .array [.string "good"])] })]

set_option maxRecDepth 10000 in
/-- A new annotation and one with two moods, in a session that has made up seven ids, are written
alike as they switch to a draft without an id. -/
theorem namelessDraft_switched :
    let tree := ElementTree.ofConfig moodConfig .standard none
    let first := (start "1" .manual tree {} {}).run [.addVersions namelessDraft]
    let second := (start "1" .manual tree {} { generated := 7 }).run
      [.loadItems moodsOfTwo {}, .addVersions namelessDraft]
    let firstNext := (first.perform .toggleDraft).1
    let secondNext := (second.perform .toggleDraft).1
    second.versions = first.versions ∧ second.draftSelected = first.draftSelected ∧
      (second.perform .toggleDraft).2 = (first.perform .toggleDraft).2 ∧
      firstNext.BeginsAnew ∧ secondNext.BeginsAnew ∧
      WrittenAlike first.session second.session firstNext secondNext ∧
      firstNext.areas.keys = [⟨"~001", "1"⟩] ∧ secondNext.areas.keys = [⟨"~008", "1"⟩] := by
  rw [ofConfig_moodConfig]
  intro tree first second firstNext secondNext
  have versions : second.versions = first.versions := rfl
  have shown : second.draftSelected = first.draftSelected := rfl
  have answer : (first.perform .toggleDraft).2 = .flag true := rfl
  have switched := run_switched "1" moodConfig .standard none {} .manual .manual .manual {}
    { generated := 7 } {} [.addVersions namelessDraft]
    [.loadItems moodsOfTwo {}, .addVersions namelessDraft]
  rw [ofConfig_moodConfig] at switched
  obtain ⟨same, anew⟩ := switched versions shown
  obtain ⟨firstAnew, secondAnew, alike⟩ := anew answer
  have written := alike (by decide +kernel)
  exact ⟨versions, shown, same, firstAnew, secondAnew, written.1, by decide +kernel,
    by decide +kernel⟩

end Labeling.AnnotationState
