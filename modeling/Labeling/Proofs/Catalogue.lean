import Labeling.Proofs.Binding
import Labeling.Proofs.Shape.Rereading
import Labeling.Repair

/-!
# What the standard tags promise

The standard catalogue is a table, and what later proofs need of it is one check of every row:
only controls make results, no result is recorded under a former name or under a field of geometry,
and labels are recorded under the type of their results (`regular_of_get?_standard`). The elements
of a configuration of these tags keep the same promises (`regular_ofConfig`).
-/
namespace Labeling

namespace TagSpec

/-- What the rules of a standard tag promise. -/
structure Regular (spec : TagSpec) : Prop where
  /-- Only controls make results. -/
  control : spec.resultType.isSome = true → spec.kind = .control
  /-- No result is of the former type. -/
  resultType : spec.resultType ≠ some Repair.legacyType
  /-- No result is recorded under the former type. -/
  payloadKey : spec.payloadKey ≠ some Repair.legacyType
  /-- Results are recorded beside the geometry. -/
  beside : ∀ key ∈ spec.payloadKey, Shape.IsPayloadKey key
  /-- Labels are recorded under the type of their results. -/
  labels : ∀ type ∈ spec.resultType, isLabelsType type = true → spec.payloadKey = some type

instance (key : String) : Decidable (Shape.IsPayloadKey key) :=
  inferInstanceAs (Decidable (_ ∨ _))

instance (spec : TagSpec) : Decidable spec.Regular :=
  decidable_of_iff
    ((spec.resultType.isSome = true → spec.kind = .control) ∧
      spec.resultType ≠ some Repair.legacyType ∧ spec.payloadKey ≠ some Repair.legacyType ∧
      (∀ key ∈ spec.payloadKey, Shape.IsPayloadKey key) ∧
      ∀ type ∈ spec.resultType, isLabelsType type = true → spec.payloadKey = some type)
    ⟨fun ⟨control, resultType, payloadKey, beside, labels⟩ =>
      ⟨control, resultType, payloadKey, beside, labels⟩,
    fun ⟨control, resultType, payloadKey, beside, labels⟩ =>
      ⟨control, resultType, payloadKey, beside, labels⟩⟩

end TagSpec

namespace Catalogue

/-- Registering tags one by one puts each under its name. -/
theorem specs_foldl_register (specs : List TagSpec) (catalogue : Catalogue) :
    (specs.foldl register catalogue).specs =
      (specs.map fun spec => (spec.typeKey, spec)).foldl
        (fun built entry => Entries.put entry.1 entry.2 built) catalogue.specs := by
  induction specs generalizing catalogue with
  | nil => rfl
  | cons spec rest hypothesis =>
    rw [List.foldl_cons, hypothesis, List.map_cons, List.foldl_cons]
    rfl

/-- Every tag of a catalogue of some tags is one of these. -/
theorem mem_of_get?_ofList {specs : List TagSpec} {tag : String} {spec : TagSpec}
    (found : (ofList specs).get? tag = some spec) : spec ∈ specs := by
  have member := Entries.mem_of_get? found
  rw [ofList, specs_foldl_register] at member
  obtain ⟨listed, inside, same⟩ := List.mem_map.mp (Entries.mem_ofList member)
  rw [← (Prod.mk.inj same).2]
  exact inside

/-- The standard tags keep their promises. -/
theorem regular_of_get?_standard {tag : String} {spec : TagSpec}
    (found : standard.get? tag = some spec) : spec.Regular := by
  have every : ∀ spec ∈ objectTags ++ regionTags ++ classificationTags ++ relationTags
      ++ optionTags ++ layoutTags, spec.Regular := by
    decide
  exact every spec (mem_of_get?_ofList found)

end Catalogue

namespace ElementTree

/-- What loading relies on in a tree of standard tags whose names are distinct. -/
structure Regular (tree : ElementTree) : Prop where
  /-- An element has the name that stands for it. -/
  named : ∀ name element, tree.get? name = some element → element.name = name
  /-- A name is known if it stands for an element. -/
  contains : ∀ name, tree.contains name = (tree.get? name).isSome
  /-- Only controls make results. -/
  control : ∀ name element, tree.get? name = some element → element.resultType.isSome = true →
    element.isControl = true
  /-- No element makes results of the former type. -/
  resultType : ∀ name element, tree.get? name = some element →
    element.resultType ≠ some Repair.legacyType
  /-- No element records under the former type. -/
  payloadKey : ∀ name element, tree.get? name = some element →
    element.payloadKey ≠ some Repair.legacyType
  /-- An element that makes results records them beside the geometry. -/
  beside : ∀ name element, tree.get? name = some element → element.resultType.isSome = true →
    ∃ key, element.payloadKey = some key ∧ Shape.IsPayloadKey key
  /-- Labels are recorded under the type of their results. -/
  labels : ∀ name element type, tree.get? name = some element → element.resultType = some type →
    isLabelsType type = true → element.payloadKey = some type
  /-- A control that is found for an object is bound to it, and its name stands for it. -/
  bound : ∀ object type control, tree.findControl? object type = some control →
    tree.get? control.name = some control ∧ control.resultType = some type ∧
      control.targets object = true

/-- The tree of a configuration of standard tags without an issue of repeated names is regular. -/
theorem regular_ofConfig {config : ConfigTree} {task : Option Json}
    (distinct : (ofConfig config .standard task).report.has .duplicateName = false) :
    (ofConfig config .standard task).Regular := by
  have follows {name : String} {element : Element}
      (found : (ofConfig config .standard task).get? name = some element) :
      ∃ spec : TagSpec, spec.Regular ∧ element.kind = spec.kind ∧
        element.resultType = spec.resultType ∧ element.payloadKey = spec.payloadKey := by
    obtain ⟨spec, _, _, known, _, kind, resultType, payloadKey, _⟩ :=
      exists_spec_of_mem (mem_of_get? found)
    exact ⟨spec, Catalogue.regular_of_get?_standard known, kind, resultType, payloadKey⟩
  refine ⟨fun name element => name_of_get?, contains_ofConfig config .standard task,
    ?_, ?_, ?_, ?_, ?_, fun object type control => targets_of_findControl? distinct⟩
  · intro name element found makes
    obtain ⟨spec, regular, kind, resultType, -⟩ := follows found
    rw [resultType] at makes
    exact decide_eq_true (kind.trans (regular.control makes))
  · intro name element found
    obtain ⟨spec, regular, -, resultType, -⟩ := follows found
    rw [resultType]
    exact regular.resultType
  · intro name element found
    obtain ⟨spec, regular, -, -, payloadKey⟩ := follows found
    rw [payloadKey]
    exact regular.payloadKey
  · intro name element found makes
    obtain ⟨spec, regular, -, resultType, payloadKey⟩ := follows found
    rw [resultType] at makes
    have some : spec.payloadKey.isSome = true := by
      rw [TagSpec.payloadKey]
      cases spec.valueKey with
      | none => exact makes
      | some key => rfl
    obtain ⟨key, found⟩ := Option.isSome_iff_exists.mp some
    exact ⟨key, payloadKey.trans found, regular.beside key found⟩
  · intro name element type found makes labels
    obtain ⟨spec, regular, -, resultType, payloadKey⟩ := follows found
    rw [payloadKey]
    exact regular.labels type (resultType ▸ makes) labels

end ElementTree
end Labeling
