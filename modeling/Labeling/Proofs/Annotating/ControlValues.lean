import Labeling.Proofs.Annotating.Attached
import Labeling.Proofs.Annotating.Undoing

/-!
# The values of the controls

A control that classifies the task has a value as long as an area that classifies the task holds
one, in a result of the control and under its key. Between operations the values are those of the
areas (`run_controlValues`). Where several areas hold a value of one control, the area with the
greatest id counts, which need not be the newest one: `run_controlValue_iff`.
-/
namespace Labeling

/-- The values of a control that an area holds under the control's key, in order. -/
def Area.valuesOf (tree : ElementTree) (control : String) (area : Area) : List Json :=
  (area.results.filter (·.fromName = control)).filterMap fun result =>
    result.payload? (result.keyIn tree)

/-- The value of a control that an area holds: that of the last result of the control with one. -/
def Area.valueOf? (tree : ElementTree) (control : String) (area : Area) : Option Json :=
  (area.valuesOf tree control).getLast?

namespace AnnotationState

variable {state next : AnnotationState} {tree : ElementTree}

/-- An area that classifies the task holds a value of a control. -/
structure Holder (state : AnnotationState) (control : String) (entry : AreaId × Area)
    (value : Json) : Prop where
  /-- The area is there. -/
  inside : entry ∈ state.areas
  /-- It classifies the task. -/
  classifies : entry.2.classification = true
  /-- It holds the value. -/
  held : entry.2.valueOf? state.tree control = some value

/-! ## The values are those of the areas -/

/-- The values of the controls are those of the areas. -/
def Synced (state : AnnotationState) : Prop :=
  state.controlValues = controlValuesOf state.tree state.areas

/-- Every outcome of an operation leaves the values of the controls those of the areas. -/
theorem Outcome.synced (outcome : state.Outcome next) (synced : state.Synced) : next.Synced := by
  induction outcome with
  | quiet continues areas _ controlValues =>
    rw [Synced, controlValues, continues.tree, areas]
    exact synced
  | recorded => rfl
  | committed => rfl
  | @travelled result snapshot =>
    obtain ⟨told, made, -, -⟩ := restore_eq { state with history := result.1 } snapshot
    rw [made]
    rfl
  | restarted _ hypothesis => exact hypothesis

/-- Every operation leaves the values of the controls those of the areas, the removal of superseded
classifications among them. -/
theorem Synced.perform (synced : state.Synced) (operation : Operation) :
    (state.perform operation).1.Synced := by
  by_cases clean : operation = .clean
  · subst clean
    show state.cleaned.1.Synced
    rw [cleaned]
    split
    · exact synced
    · rfl
  · exact (perform_outcome state clean).synced synced

/-- Between the operations of any run from a new annotation the values of the controls are those of
the areas. -/
theorem run_controlValues (id : String) (kind : AnnotationKind) (tree : ElementTree)
    (settings : Settings) (session : Session) (operations : List Operation) :
    ((start id kind tree settings session).run operations).Synced := by
  have begun : (start id kind tree settings session).Synced := rfl
  exact run_keeps (fun _ => Synced.perform) begun operations

/-! ## Which area counts -/

/-- The value of a result of a control is what it holds under the control's key. -/
theorem controlValue?_eq {result : AreaResult} (made : tree.IsControl result.fromName) :
    controlValue? tree result =
      (result.payload? (result.keyIn tree)).map fun value => (result.fromName, value) := by
  obtain ⟨control, found, -⟩ := made
  rw [AreaResult.keyIn_eq found, controlValue?, found, Option.bind_eq_bind, Option.bind_some]
  exact Option.map_eq_bind.symm

/-- The values that results give a control are those that they hold under its key. -/
theorem map_filter_controlValues {control : String} {results : List AreaResult}
    (made : ∀ result ∈ results, tree.IsControl result.fromName) :
    ((results.filterMap (controlValue? tree)).filter (·.1 = control)).map (·.2) =
      (results.filter (·.fromName = control)).filterMap fun result =>
        result.payload? (result.keyIn tree) := by
  induction results with
  | nil => rfl
  | cons result rest hypothesis =>
    have later := hypothesis fun other member => made other (List.mem_cons_of_mem _ member)
    rw [List.filterMap_cons, controlValue?_eq (made result List.mem_cons_self), List.filter_cons]
    by_cases same : result.fromName = control
    · rw [if_pos (decide_eq_true same), List.filterMap_cons]
      cases result.payload? (result.keyIn tree) with
      | none => exact later
      | some value => simp [same, later]
    · rw [if_neg (by simpa using same)]
      cases result.payload? (result.keyIn tree) with
      | none => exact later
      | some value => simp [same, later]

/-- The value of a control is the last one among the classifications in the order of their ids. -/
theorem get?_controlValuesOf {owner : String} {bound : Nat} {areas : Areas}
    (wellFormed : areas.WellFormed tree owner bound) (control : String) :
    (controlValuesOf tree areas).get? control =
      (areas.classifications.flatMap (Area.valuesOf tree control)).getLast? := by
  rw [controlValuesOf, Entries.get?_ofList_eq_getLast?, ← List.getLast?_map, List.filter_flatMap,
    List.map_flatMap]
  congr 1
  refine List.flatMap_congr fun area member => ?_
  obtain ⟨id, inside⟩ := Entries.mem_values.mp (List.mem_filter.mp member).1
  exact map_filter_controlValues (wellFormed.each _ inside).fromName

/-- The last of several lists that is not empty has the last member of all. -/
theorem getLast?_flatMap_of_last {α β : Type} (values : α → List β) (before after : List α)
    {last : α} {value : β} (found : (values last).getLast? = some value)
    (empty : ∀ other ∈ after, values other = []) :
    ((before ++ last :: after).flatMap values).getLast? = some value := by
  have none : after.flatMap values = [] := List.flatMap_eq_nil_iff.mpr empty
  rw [List.flatMap_append, List.flatMap_cons, none, List.append_nil, List.getLast?_append, found]
  rfl

/-- The area with the greatest id among those that hold a value of a control counts. -/
theorem get?_controlValues_of_last (wellFormed : state.WellFormed) (synced : state.Synced)
    {control : String} {last : AreaId × Area} {value : Json}
    (holder : state.Holder control last value)
    (greatest : ∀ entry held, state.Holder control entry held → ¬ last.1 < entry.1) :
    state.controlValues.get? control = some value := by
  -- The areas are in the order of their ids, so behind the last one no area holds a value.
  obtain ⟨before, after, whole⟩ := List.append_of_mem holder.inside
  have later : ∀ entry ∈ after, last.1 < entry.1 := by
    have sorted := wellFormed.sound.areas.sorted
    rw [whole] at sorted
    exact (List.pairwise_cons.mp (List.pairwise_append.mp sorted).2.1).1
  have split : state.areas.classifications =
      (before.map (·.2)).filter (·.classification) ++
        last.2 :: (after.map (·.2)).filter (·.classification) := by
    rw [Areas.classifications, Entries.values, whole, List.map_append, List.map_cons,
      List.filter_append, List.filter_cons, if_pos holder.classifies]
  rw [synced, get?_controlValuesOf wellFormed.sound.areas, split]
  refine getLast?_flatMap_of_last _ _ _ holder.held fun area member => ?_
  obtain ⟨stored, classifies⟩ := List.mem_filter.mp member
  obtain ⟨entry, inside, rfl⟩ := List.mem_map.mp stored
  by_contra full
  obtain ⟨held, found⟩ := Option.isSome_iff_exists.mp (List.getLast?_isSome.mpr full)
  have other : state.Holder control entry held :=
    ⟨whole ▸ List.mem_append_right _ (List.mem_cons_of_mem _ inside), classifies, found⟩
  exact greatest entry held other (later entry inside)

/-- A control has no value just when no area that classifies the task holds one. -/
theorem get?_controlValues_eq_none_iff (wellFormed : state.WellFormed) (synced : state.Synced)
    (control : String) : state.controlValues.get? control = none ↔
      ∀ entry value, ¬ state.Holder control entry value := by
  rw [synced, get?_controlValuesOf wellFormed.sound.areas, List.getLast?_eq_none_iff,
    List.flatMap_eq_nil_iff]
  constructor
  · rintro empty entry value ⟨inside, classifies, held⟩
    have member : entry.2 ∈ state.areas.classifications :=
      List.mem_filter.mpr ⟨Entries.mem_values.mpr ⟨entry.1, inside⟩, classifies⟩
    rw [Area.valueOf?, empty _ member] at held
    contradiction
  · intro none area member
    obtain ⟨stored, classifies⟩ := List.mem_filter.mp member
    obtain ⟨id, inside⟩ := Entries.mem_values.mp stored
    by_contra full
    obtain ⟨held, found⟩ := Option.isSome_iff_exists.mp (List.getLast?_isSome.mpr full)
    exact none (id, area) held ⟨inside, classifies, found⟩

/-- Of the areas that hold a value of a control one has the greatest id. -/
theorem Holder.exists_last {control : String} {entry : AreaId × Area} {value : Json}
    (holder : state.Holder control entry value) (wellFormed : state.WellFormed) :
    ∃ last lastValue, state.Holder control last lastValue ∧
      ∀ entry held, state.Holder control entry held → ¬ last.1 < entry.1 := by
  obtain ⟨last, -, ⟨lastValue, held⟩, greatest⟩ :=
    Entries.exists_last_of_sorted wellFormed.sound.areas.sorted
      (fun entry => ∃ value, state.Holder control entry value) holder.inside ⟨value, holder⟩
  exact ⟨last, lastValue, held, fun entry other holds =>
    greatest entry holds.inside ⟨other, holds⟩⟩

/-- In a run from a new annotation of a bound tree a control has no value just when no area that
classifies the task holds one. If there are such areas, the one with the greatest id gives the
value, and the newest one gives it just when that one holds the same. -/
theorem run_controlValue_iff (id : String) (kind : AnnotationKind) (config : ConfigTree)
    (catalogue : Catalogue) (task : Option Json) (settings : Settings) (session : Session)
    (operations : List Operation) (control : String) :
    let state := (start id kind (.ofConfig config catalogue task) settings session).run operations
    (state.controlValues.get? control = none ↔
      ∀ entry value, ¬ state.Holder control entry value) ∧
    (∀ entry value, state.Holder control entry value →
      ∃ last lastValue, state.Holder control last lastValue ∧
        (∀ entry held, state.Holder control entry held → ¬ last.1 < entry.1) ∧
        state.controlValues.get? control = some lastValue) ∧
    ∀ newest value last lastValue, state.Holder control newest value →
      (∀ entry held, state.Holder control entry held → entry.2.seq ≤ newest.2.seq) →
      state.Holder control last lastValue →
      (∀ entry held, state.Holder control entry held → ¬ last.1 < entry.1) →
        (state.controlValues.get? control = some value ↔ lastValue = value) := by
  intro state
  have wellFormed : state.WellFormed :=
    (wellFormed_start id kind config catalogue task settings session).run operations
  have synced : state.Synced := run_controlValues id kind _ settings session operations
  refine ⟨get?_controlValues_eq_none_iff wellFormed synced control, ?_, ?_⟩
  · intro entry value holder
    obtain ⟨last, lastValue, held, greatest⟩ := holder.exists_last wellFormed
    exact ⟨last, lastValue, held, greatest,
      get?_controlValues_of_last wellFormed synced held greatest⟩
  · intro newest value last lastValue _ _ holder greatest
    rw [get?_controlValues_of_last wellFormed synced holder greatest, Option.some.injEq]

/-- A good mood under one id, and then a bad one under another. -/
def moodsUnder (first second : String) : List WireItem := [
  .result { id := some first, fromName := "mood", toName := "text", resultType := "choices",
            value := [("choices", .array [.string "good"])] },
  .result { id := some second, fromName := "mood", toName := "text", resultType := "choices",
            value := [("choices", .array [.string "bad"])] }]

set_option maxRecDepth 10000 in
/-- Of two loaded moods the later one gives the value if its id is the greater one. -/
theorem laterMood_counts :
    let state := (start "1" .manual (.ofConfig moodConfig .standard none) {} {}).run
      [.loadItems (moodsUnder "a" "b") {}]
    ∃ newest value, state.Holder "mood" newest value ∧
      (∀ entry held, state.Holder "mood" entry held → entry.2.seq ≤ newest.2.seq) ∧
      (∀ entry held, state.Holder "mood" entry held → ¬ newest.1 < entry.1) ∧
      state.controlValues.get? "mood" = some value := by
  intro state
  obtain ⟨newest, inside, classifies, present, latest, greatest⟩ :
      ∃ newest ∈ state.areas, newest.2.classification = true ∧
        (newest.2.valueOf? state.tree "mood").isSome = true ∧
        (∀ entry ∈ state.areas, entry.2.seq ≤ newest.2.seq) ∧
        ∀ entry ∈ state.areas, ¬ newest.1 < entry.1 := by decide +kernel
  obtain ⟨value, held⟩ := Option.isSome_iff_exists.mp present
  have holder : state.Holder "mood" newest value := ⟨inside, classifies, held⟩
  have last (entry : AreaId × Area) (other : Json) (holds : state.Holder "mood" entry other) :
      ¬ newest.1 < entry.1 := greatest entry holds.inside
  have newer (entry : AreaId × Area) (other : Json) (holds : state.Holder "mood" entry other) :
      entry.2.seq ≤ newest.2.seq := latest entry holds.inside
  obtain ⟨-, -, counts⟩ := run_controlValue_iff "1" .manual moodConfig .standard none {} {}
    [.loadItems (moodsUnder "a" "b") {}] "mood"
  exact ⟨newest, value, holder, newer, last,
    (counts newest value newest value holder newer holder last).mpr rfl⟩

set_option maxRecDepth 10000 in
/-- The newest value of a control does not always count: of two loaded moods it is the earlier one
if its id is the greater one. -/
theorem laterMood_lost :
    ¬ ∀ (config : ConfigTree) (task : Option Json) (settings : Settings) (id : String)
        (operations : List Operation) (control : String),
      let state := (start id .manual (.ofConfig config .standard task) settings {}).run operations
      ∀ newest value, state.Holder control newest value →
        (∀ entry held, state.Holder control entry held → entry.2.seq ≤ newest.2.seq) →
          state.controlValues.get? control = some value := by
  intro counts
  let state := (start "1" .manual (.ofConfig moodConfig .standard none) {} {}).run
    [.loadItems (moodsUnder "b" "a") {}]
  -- Equality of values is not decidable here, but that of their texts is.
  let texts (value : Option Json) : List String :=
    ((value.bind Json.items?).getD []).filterMap Json.text?
  obtain ⟨⟨newest, inside, classifies, bad, latest⟩, good⟩ :
      (∃ newest ∈ state.areas, newest.2.classification = true ∧
        texts (newest.2.valueOf? state.tree "mood") = ["bad"] ∧
        ∀ entry ∈ state.areas, entry.2.seq ≤ newest.2.seq) ∧
      texts (state.controlValues.get? "mood") = ["good"] := by decide +kernel
  cases held : newest.2.valueOf? state.tree "mood" with
  | none =>
    rw [held] at bad
    exact absurd bad (by decide)
  | some value =>
    have shown : state.controlValues.get? "mood" = some value :=
      counts moodConfig none {} "1" _ "mood" newest value ⟨inside, classifies, held⟩
        fun entry _ holds => latest entry holds.inside
    rw [shown, ← held, bad] at good
    exact absurd good (by decide)

end AnnotationState
end Labeling
