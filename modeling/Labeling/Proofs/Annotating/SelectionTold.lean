import Labeling.Proofs.Annotating.Turns

/-!
# Hosts that follow the selection

A host that follows the notifications of an annotation knows what was told last of its selection.
Every operation tells what it changes there, but for one thing: areas that are removed as superseded
leave the selection, and nothing is told. So the host knows the selection throughout a run just when
no operation removes a selected area in that way, and it never misses a selected area:
`run_told_iff`.
-/
namespace Labeling.AnnotationState

variable {state next : AnnotationState} {session : Session}

/-- The notifications since a session. -/
def firedSince (state : AnnotationState) (session : Session) : List Event :=
  state.session.events.drop session.events.length

/-- The selection that was told last since a session, which is empty if none was. -/
def toldSince (state : AnnotationState) (session : Session) : List AreaId :=
  Event.known (state.firedSince session) []

/-- An operation removes no selected area as superseded, unless it tells what is selected then. -/
def KeepsSelected (state : AnnotationState) (operation : Operation) : Prop :=
  operation.sweeps = true →
    ((state.perform operation).1.firedSince state.session).any Event.tellsSelection = false →
      ∀ id ∈ state.selection, (state.perform operation).1.areas.has id = true

instance (state : AnnotationState) (operation : Operation) :
    Decidable (state.KeepsSelected operation) :=
  inferInstanceAs (Decidable (_ = true → _ = false → ∀ id ∈ state.selection, _ = true))

/-- A host follows an annotation from a session on. -/
structure Followed (session : Session) (state : AnnotationState) : Prop where
  /-- The annotation is well formed. -/
  wellFormed : state.WellFormed
  /-- Notifications are only added. -/
  events : session.events <+: state.session.events
  /-- The host knows of every selected area. -/
  among : state.selection ⊆ state.toldSince session

/-- A host that follows an annotation knows what is selected. -/
structure Informed (session : Session) (state : AnnotationState) : Prop where
  /-- The host follows the annotation. -/
  followed : Followed session state
  /-- What it was told last is selected. -/
  told : state.toldSince session = state.selection

/-- Further notifications are those since then. -/
theorem firedSince_eq {fired : List Event}
    (events : next.session.events = state.session.events ++ fired) :
    next.firedSince state.session = fired := by
  rw [firedSince, events, List.drop_left]

/-- What was told last is told by further notifications, or was told before. -/
theorem Followed.toldSince_eq (followed : Followed session state) {fired : List Event}
    (events : next.session.events = state.session.events ++ fired) :
    next.toldSince session = Event.known fired (state.toldSince session) := by
  rw [toldSince, toldSince, firedSince, firedSince, events,
    List.drop_append_of_le_length followed.events.length_le, Event.known_append]

/-- A host that knows more to be selected knows all that is selected behind further
notifications. -/
theorem known_subset (fired : List Event) {fewer more : List AreaId} (among : fewer ⊆ more) :
    Event.known fired fewer ⊆ Event.known fired more := by
  induction fired generalizing fewer more with
  | nil => exact among
  | cons event rest hypothesis =>
    rw [Event.known, Event.known, List.foldl_cons, List.foldl_cons]
    cases event.selection? with
    | none => exact hypothesis among
    | some selected => exact List.Subset.refl _

/-- A host follows an annotation through an operation. -/
theorem Followed.perform (followed : Followed session state) (operation : Operation) :
    Followed session (state.perform operation).1 := by
  obtain ⟨fired, events, selection⟩ :=
    (perform_turn state operation).told followed.wellFormed.sound
  refine ⟨perform_wellFormed followed.wellFormed operation, ?_, ?_⟩
  · rw [events]
    exact followed.events.trans (List.prefix_append _ _)
  · rw [followed.toldSince_eq events, selection]
    split
    · rename_i silent
      have untold : fired.any Event.tellsSelection = false :=
        (Bool.not_eq_true' _).mp (Bool.and_eq_true_iff.mp silent).2
      rw [Event.known_of_untold untold]
      exact List.Subset.trans List.filter_sublist.subset followed.among
    · exact known_subset fired followed.among

/-- A host that knows what is selected still does behind an operation just when this keeps what is
selected. -/
theorem Informed.perform_iff (informed : Informed session state) (operation : Operation) :
    (state.perform operation).1.toldSince session = (state.perform operation).1.selection ↔
      state.KeepsSelected operation := by
  obtain ⟨followed, told⟩ := informed
  obtain ⟨fired, events, selection⟩ :=
    (perform_turn state operation).told followed.wellFormed.sound
  rw [followed.toldSince_eq events, told, selection, KeepsSelected, firedSince_eq events]
  -- Only a removal that tells nothing may take something from the selection unnoticed.
  by_cases silent : operation.sweeps = true ∧ fired.any Event.tellsSelection = false
  · obtain ⟨sweeps, untold⟩ := silent
    simp only [sweeps, untold, Bool.not_false, Bool.and_true, if_true, forall_const]
    rw [Event.known_of_untold untold]
    exact eq_comm.trans List.filter_eq_self
  · refine iff_of_true ?_ fun sweeps untold => absurd ⟨sweeps, untold⟩ silent
    have loud : (operation.sweeps && !fired.any Event.tellsSelection) = false := by
      simpa using silent
    rw [loud]
    rfl

/-- A host that follows a new annotation of a bound tree through a run knows its selection at every
point just when no operation of the run removes a selected area as superseded without telling what
is selected then. At any point it knows of every selected area. -/
theorem run_told_iff (id : String) (kind : AnnotationKind) (config : ConfigTree)
    (catalogue : Catalogue) (task : Option Json) (settings : Settings) (session : Session)
    (operations : List Operation) :
    let first := start id kind (.ofConfig config catalogue task) settings session
    ((∀ before after, operations = before ++ after →
        (first.run before).toldSince session = (first.run before).selection) ↔
      ∀ before operation after, operations = before ++ operation :: after →
        (first.run before).KeepsSelected operation) ∧
    (first.run operations).selection ⊆ (first.run operations).toldSince session := by
  intro first
  have untold : first.toldSince session = first.selection := by
    show Event.known (session.events.drop session.events.length) [] = []
    rw [List.drop_length]
    rfl
  have followed : Followed session first :=
    ⟨wellFormed_start id kind config catalogue task settings session, List.prefix_refl _,
      untold ▸ List.Subset.refl _⟩
  have informed : Informed session first := ⟨followed, untold⟩
  refine ⟨?_, ?_⟩
  · exact run_iff (fun _ before => before.told) (fun _ before => before.perform_iff)
      (fun _ before operation told => ⟨before.followed.perform operation, told⟩) informed operations
  · have after : Followed session (first.run operations) :=
      run_keeps (fun _ before => before.perform) followed operations
    exact after.among

set_option maxRecDepth 10000 in
/-- A labelled span is selected once it is created, and a host knows so also when a mood is chosen
then. -/
theorem createdSpan_told :
    let first := start "1" .manual (.ofConfig moodConfig .standard none)
      { selectAfterCreate := true } {}
    let operations := [
      .create {} [("labels", .array [.string "A"])] "label" "text",
      .create {} [("choices", .array [.string "good"])] "mood" "text"]
    (∀ before operation after, operations = before ++ operation :: after →
        (first.run before).KeepsSelected operation) ∧
      (∀ before after, operations = before ++ after →
        (first.run before).toldSince {} = (first.run before).selection) ∧
      (first.run operations).selection = [⟨"~001", "1"⟩] := by
  rw [ofConfig_moodConfig]
  intro first operations
  obtain ⟨runs, -⟩ := run_told_iff "1" .manual moodConfig .standard none
    { selectAfterCreate := true } {} operations
  rw [ofConfig_moodConfig] at runs
  have keeps (before : List Operation) (operation : Operation) (after : List Operation)
      (whole : operations = before ++ operation :: after) :
      (first.run before).KeepsSelected operation := by
    rcases before with _ | ⟨earlier, before⟩
    · rw [← (List.cons.inj whole).1]
      decide +kernel
    · rcases before with _ | ⟨later, before⟩
      · obtain ⟨same, rest⟩ := List.cons.inj whole
        rw [← same, ← (List.cons.inj rest).1]
        decide +kernel
      · simp [operations] at whole
  exact ⟨keeps, runs.mpr keeps, by decide +kernel⟩

set_option maxRecDepth 10000 in
/-- A host does not always know the selection: a selected mood is removed as another one is chosen,
and nothing is told. -/
theorem selectedMood_untold :
    ¬ ∀ (config : ConfigTree) (task : Option Json) (settings : Settings) (id : String)
        (operations : List Operation),
      let state := (start id .manual (.ofConfig config .standard task) settings {}).run operations
      state.toldSince {} = state.selection := by
  intro told
  have missed := told moodConfig none {} "1" [.loadItems (moodItems ["good"]) {},
    .select ⟨"a", "1"⟩, .create {} [("choices", .array [.string "good"])] "mood" "text"]
  rw [ofConfig_moodConfig] at missed
  exact absurd missed (by decide +kernel)

end Labeling.AnnotationState
