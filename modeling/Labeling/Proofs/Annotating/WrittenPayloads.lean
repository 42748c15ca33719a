import Labeling.Proofs.Annotating.Attached
import Labeling.Proofs.Annotating.LoadedAreas
import Labeling.Proofs.Annotating.Written

/-!
# The payloads of written items

A written item has the geometry of its area and what its result holds in one value. Under the key of
its control stands what the result holds there, and where it holds nothing what the geometry holds:
so the payload of an item is the result's own just when the result holds one or the geometry has no
field of that name (`run_payload_own_iff`). Values are finite maps all along, as operations record
them or as a load splits them off (`HoldsGiven.run`).
-/
namespace Labeling

/-- The results of an area hold given values, or nothing but what their controls record. -/
def Area.IsGiven (tree : ElementTree) (given : Value → Prop) (area : Area) : Prop :=
  ∀ result ∈ area.results, given result.value ∨ result.IsOwn tree

namespace AnnotationState

variable {given : Value → Prop} {state : AnnotationState} {result : AreaResult}

/-! ## What results hold -/

/-- What the results of every known area hold was given, or loaded under the key of its control. -/
def HoldsGiven (given : Value → Prop) (state : AnnotationState) : Prop :=
  ∀ area, state.Knows area → area.IsGiven state.tree given

/-- An item brings no more than its own payload. -/
theorem loadsKeep_isGiven (tree : ElementTree) (given : Value → Prop) :
    LoadsKeep tree (fun _ => True) (Area.IsGiven tree given) where
  begun control object item options id seq found _ := by
    intro result member
    rw [List.mem_singleton.mp member]
    exact Or.inr (isOwn_ofWire found)
  continued control object item area found _ before := by
    intro result member
    rcases List.mem_append.mp member with old | new
    · exact before result old
    · rw [List.mem_singleton.mp new]
      exact Or.inr (isOwn_ofWire found)

/-- Results with their origin hold what was known, or what the operation records. -/
theorem HoldsGiven.of_origin (before : state.HoldsGiven given) {operation : Operation}
    (records : ∀ value ∈ operation.value?, given value) {object : String}
    {results : List AreaResult} (origin : state.Origin operation object results) :
    ∀ result ∈ results, given result.value ∨ result.IsOwn state.tree := by
  cases origin with
  | kept known => exact before _ known
  | created names recorded controlFound objectFound targets =>
    rw [List.forall_mem_singleton]
    exact Or.inl (records _ recorded)
  | appended known recorded found targets =>
    rw [List.forall_mem_append, List.forall_mem_singleton]
    exact ⟨before _ known, Or.inl (records _ recorded)⟩
  | changed known control recorded =>
    intro result member
    obtain ⟨former, inside, same | changed⟩ := exists_of_mem_changeFirst member
    · exact same ▸ before _ known former inside
    · exact Or.inl (changed ▸ records _ recorded)

/-- Behind an operation everything known was given or loaded, if everything known before was. -/
theorem HoldsGiven.perform (before : state.HoldsGiven given) (wellFormed : state.WellFormed)
    (operation : Operation) (records : ∀ value ∈ operation.value?, given value) :
    (state.perform operation).1.HoldsGiven given := by
  have there (area : Area) (present : (state.perform operation).1.Presents area) :
      area.IsGiven state.tree given := by
    cases loads : state.loading? operation with
    | none =>
      have explains := explains_perform wellFormed.sound.areas.sorted loads
      exact before.of_origin records (explains area present)
    | some loading =>
      exact (loadsKeep_isGiven state.tree given).perform loads (fun _ _ => trivial)
        (fun area known => before area (Or.inl known)) area present
  rw [HoldsGiven, tree_perform]
  intro area known
  exact (knows_perform known).elim (there area) (before area)

/-- Behind a run everything known was given or loaded, if everything known before was. -/
theorem HoldsGiven.run (before : state.HoldsGiven given) (wellFormed : state.WellFormed)
    {operations : List Operation}
    (records : ∀ operation ∈ operations, ∀ value ∈ operation.value?, given value) :
    (state.run operations).HoldsGiven given := by
  induction operations generalizing state with
  | nil => exact before
  | cons operation rest hypothesis =>
    have first := records operation List.mem_cons_self
    exact hypothesis (before.perform wellFormed operation first)
      (perform_wellFormed wellFormed operation)
      fun other member => records other (List.mem_cons_of_mem _ member)

/-- A new annotation knows no area. -/
theorem holdsGiven_start (given : Value → Prop) (id : String) (kind : AnnotationKind)
    (tree : ElementTree) (settings : Settings) (session : Session) :
    (start id kind tree settings session).HoldsGiven given := by
  rintro area ((⟨key, inside⟩ | ⟨key, inside⟩) | ⟨held, holds, key, inside⟩)
  · contradiction
  · contradiction
  · rw [History.Holds.of_attach holds] at inside
    contradiction

/-! ## Written payloads -/

/-- A control that classifies or labels and allows no empty results writes only results that hold
something. -/
theorem isSome_payload_of_keepsResult (discards : state.settings.keepEmptyResults = false)
    {control : Element} (found : state.tree.get? result.fromName = some control)
    (asks : (control.classification || control.isLabels) = true)
    (strict : control.allowEmpty = false) (kept : state.keepsResult result = true) :
    (result.payload? (Area.keyOf control result)).isSome = true := by
  rw [keepsResult, discards, if_neg Bool.false_ne_true, found] at kept
  dsimp only at kept
  rw [asks, strict, Bool.not_true, Bool.false_or, Bool.false_or, Bool.not_eq_true'] at kept
  rw [Option.isSome_iff_ne_none]
  intro nothing
  rw [AreaResult.isEmpty, nothing] at kept
  contradiction

/-- What stands first or else second is the first just if there is a first or no second. -/
theorem or_eq_left_iff {α : Type} {first second : Option α} :
    first.or second = first ↔ first.isSome = true ∨ second = none := by
  cases first with
  | none => simp
  | some value => simp

/-- Whatever a run does, every kept result of a live area is written, and its item has under the key
of its control what the result holds there, and where it holds nothing what the geometry holds. So
that is the result's own payload just when the result holds one or the geometry has no such field;
for controls that classify or label it always is, unless empty results are kept or allowed. The
values that are recorded are to be finite maps. -/
theorem run_payload_own_iff (id : String) (kind : AnnotationKind) (config : ConfigTree)
    (catalogue : Catalogue) (task : Option Json) (settings : Settings) (session : Session)
    (operations : List Operation)
    (recorded : ∀ operation ∈ operations, ∀ value ∈ operation.value?, Entries.Sorted value) :
    let state := (start id kind (.ofConfig config catalogue task) settings session).run operations
    ∀ entry ∈ state.areas, ∀ result ∈ state.written entry.2,
      ∃ control, state.tree.get? result.fromName = some control ∧
        let key := Area.keyOf control result
        let geometry := entry.2.shape.toValue
        let item := entry.2.toWire result
        .result item ∈ state.items ∧
          Entries.get? key item.value = (result.payload? key).or (geometry.get? key) ∧
          (Entries.get? key item.value = result.payload? key ↔
            (result.payload? key).isSome = true ∨ geometry.get? key = none) ∧
          (state.settings.keepEmptyResults = false →
            (control.classification || control.isLabels) = true → control.allowEmpty = false →
              Entries.get? key item.value = result.payload? key) := by
  intro state entry inside result member
  have begins := wellFormed_start id kind config catalogue task settings session
  have wellFormed : state.WellFormed := begins.run operations
  have holds : state.HoldsGiven Entries.Sorted := (holdsGiven_start _ _ _ _ _ _).run begins recorded
  obtain ⟨ofArea, kept⟩ := List.mem_filter.mp member
  obtain ⟨control, found, -⟩ := (wellFormed.sound.areas.each entry inside).fromName result ofArea
  -- Each key of a finite map has one entry, so that what the result holds is what is put last.
  have sorted : Entries.Sorted result.value :=
    (holds _ (Or.inl (Or.inl ⟨entry.1, inside⟩)) result ofArea).elim (fun given => given)
      AreaResult.IsOwn.sorted
  have value : Entries.get? (Area.keyOf control result) (entry.2.toWire result).value =
      (result.payload? (Area.keyOf control result)).or
        (entry.2.shape.toValue.get? (Area.keyOf control result)) :=
    Entries.get?_leftUnion sorted _ _
  refine ⟨control, found, result_mem_items_iff.mpr ⟨entry, inside, result, member, rfl⟩, value,
    ?_, fun discards asks strict => ?_⟩
  · rw [value, or_eq_left_iff]
  · rw [value, or_eq_left_iff]
    exact Or.inl (isSome_payload_of_keepsResult discards found asks strict kept)

/-- A text with labels and notes, which may be empty. -/
def noteConfig : ConfigTree where
  nodes := Block.nodesAll none 0 [
    .mk { tagName := "Text", attributes := [("name", "text"), ("value", "$text")] } [],
    .mk { tagName := "Labels", attributes := [("name", "label"), ("toname", "text")] } [],
    .mk { tagName := "TextArea",
          attributes := [("allowempty", "true"), ("name", "note"), ("perregion", "true"),
            ("toname", "text")] } []]

/-- A labelled span with the text that it covers, and an empty note of it. -/
def emptyNote : List WireItem := [
  .result { id := some "a", fromName := "label", toName := "text", resultType := "labels",
            value := [("end", .integer 5), ("labels", .array [.string "A"]), ("start", .integer 0),
              ("text", .string "Alice")] },
  .result { id := some "a", fromName := "note", toName := "text", resultType := "textarea",
            value := [("end", .integer 5), ("start", .integer 0)] }]

set_option maxRecDepth 10000 in
/-- Once something is noted, the note is written and not the text that the span covers. -/
theorem filledNote_own :
    let operations := [.loadItems emptyNote {},
      .updateValue ⟨"a", "1"⟩ "note" [("text", .string "a name")]]
    let state := (start "1" .manual (.ofConfig noteConfig .standard none) {} {}).run operations
    (∀ operation ∈ operations, ∀ value ∈ operation.value?, Entries.Sorted value) ∧
      ∃ entry ∈ state.areas, ∃ result ∈ state.written entry.2,
        result.fromName = "note" ∧ .result (entry.2.toWire result) ∈ state.items ∧
          (entry.2.shape.toValue.get? "text").bind Json.text? = some "Alice" ∧
          (Entries.get? "text" (entry.2.toWire result).value).bind Json.text? = some "a name" := by
  intro operations state
  have recorded (operation : Operation) (member : operation ∈ operations) :
      ∀ value ∈ operation.value?, Entries.Sorted value := by
    simp only [operations, List.mem_cons, List.not_mem_nil, or_false] at member
    intro value records
    rcases member with rfl | rfl
    · exact nomatch records
    · exact Option.some.inj records ▸ List.pairwise_singleton _ _
  have payloads := run_payload_own_iff "1" .manual noteConfig .standard none {} {} operations
    recorded
  obtain ⟨entry, inside, result, member, name, geometry, key, payload⟩ :
      ∃ entry ∈ state.areas, ∃ result ∈ state.written entry.2, result.fromName = "note" ∧
        (entry.2.shape.toValue.get? "text").bind Json.text? = some "Alice" ∧
        (∀ control ∈ state.tree.get? result.fromName, Area.keyOf control result = "text") ∧
        (result.payload? "text").bind Json.text? = some "a name" := by
    decide +kernel
  obtain ⟨control, found, isWritten, -, own, -⟩ := payloads entry inside result member
  rw [key control found] at own
  obtain ⟨note, noted, -⟩ := Option.bind_eq_some_iff.mp payload
  refine ⟨recorded, entry, inside, result, member, name, isWritten, geometry, ?_⟩
  rw [own.mpr (Or.inl (Option.isSome_of_eq_some noted))]
  exact payload

set_option maxRecDepth 10000 in
/-- Not every written payload is the result's own: an empty note is written with the text that the
span covers. -/
theorem emptyNote_not_own :
    ¬ ∀ (config : ConfigTree) (task : Option Json) (settings : Settings) (id : String)
        (operations : List Operation),
      let state := (start id .manual (.ofConfig config .standard task) settings {}).run operations
      (∀ operation ∈ operations, ∀ value ∈ operation.value?, Entries.Sorted value) →
        ∀ entry ∈ state.areas, ∀ result ∈ state.written entry.2,
          ∀ control ∈ state.tree.get? result.fromName,
            Entries.get? (Area.keyOf control result) (entry.2.toWire result).value =
              result.payload? (Area.keyOf control result) := by
  intro owns
  let state := (start "1" .manual (.ofConfig noteConfig .standard none) {} {}).run
    [.loadItems emptyNote {}]
  obtain ⟨entry, inside, result, member, control, found, something, nothing⟩ :
      ∃ entry ∈ state.areas, ∃ result ∈ state.written entry.2,
        ∃ control ∈ state.tree.get? result.fromName,
          (Entries.get? (Area.keyOf control result) (entry.2.toWire result).value).isSome = true ∧
            (result.payload? (Area.keyOf control result)).isSome = false := by
    decide +kernel
  have own := owns noteConfig none {} "1" [.loadItems emptyNote {}]
    (List.forall_mem_singleton.mpr fun value records => nomatch records) entry inside result member
    control found
  rw [own, nothing] at something
  exact Bool.false_ne_true something

end AnnotationState
end Labeling
