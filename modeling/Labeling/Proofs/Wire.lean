import Labeling.Proofs.Except
import Labeling.Proofs.Json.Reading
import Labeling.Wire

/-!
# What reading a payload gives

The value of a result item of a parsed payload is a parsed object: `parsed_of_items`.
-/
namespace Labeling

/-- An item whose value is a parsed object. -/
def WireResult.Parsed (item : WireResult) : Prop := Json.Parsed (.object item.value)

namespace WireResult

/-- Reading a field of an item keeps its value parsed. -/
theorem parsed_of_readField {item next : WireResult} {key : String} {value : Json}
    (read : readField item key value = .ok next) (content : value.Parsed)
    (before : item.Parsed) : next.Parsed := by
  rw [readField.eq_def] at read
  split at read
  -- The fifth field is the value; the last case is any other name, which leaves the value alone.
  case h_5 =>
    obtain ⟨fields, found, made⟩ := Except.map_eq_ok.mp read
    cases value with
    | object contents =>
      cases found
      exact made ▸ content
    | _ => contradiction
  case h_12 =>
    cases read
    exact before
  all_goals
    obtain ⟨_, -, made⟩ := Except.map_eq_ok.mp read
    exact made ▸ before

/-- Reading the fields of an item gives a parsed value. -/
theorem parsed_of_readAll {fields : List (String × Json)} {item next : WireResult}
    (read : readAll item fields = .ok next) (contents : ∀ entry ∈ fields, entry.2.Parsed)
    (before : item.Parsed) : next.Parsed := by
  induction fields generalizing item with
  | nil =>
    cases read
    exact before
  | cons entry rest hypothesis =>
    obtain ⟨key, value⟩ := entry
    rw [readAll, Except.bind_eq_ok] at read
    obtain ⟨middle, found, read⟩ := read
    exact hypothesis read (fun other member => contents other (List.mem_cons_of_mem _ member))
      (parsed_of_readField found (contents (key, value) List.mem_cons_self) before)

/-- A result item of a parsed value has a parsed value. -/
theorem parsed_of_ofJson? {value : Json} {item : WireResult} (read : ofJson? value = .ok item)
    (content : value.Parsed) : item.Parsed := by
  cases content with
  | object sorted each =>
    exact parsed_of_readAll read each (.object List.Pairwise.nil (List.forall_mem_nil _))
  | _ => contradiction

end WireResult

namespace WireItem

/-! ## Results and relations among items -/

/-- The results of two lists are those of both. -/
theorem results_append (first second : List WireItem) :
    results (first ++ second) = results first ++ results second :=
  List.filterMap_append

/-- The relations of two lists are those of both. -/
theorem relations_append (first second : List WireItem) :
    relations (first ++ second) = relations first ++ relations second :=
  List.filterMap_append

/-- Among results there are just these results. -/
theorem results_map_result (items : List WireResult) : results (items.map .result) = items := by
  induction items with
  | nil => rfl
  | cons item rest hypothesis => exact congrArg (item :: ·) hypothesis

/-- Among results there is no relation. -/
theorem relations_map_result (items : List WireResult) : relations (items.map .result) = [] := by
  induction items with
  | nil => rfl
  | cons item rest hypothesis => exact hypothesis

/-- Among relations there is no result. -/
theorem results_map_relation (items : List WireRelation) :
    results (items.map .relation) = [] := by
  induction items with
  | nil => rfl
  | cons item rest hypothesis => exact hypothesis

/-- Among relations there are just these relations. -/
theorem relations_map_relation (items : List WireRelation) :
    relations (items.map .relation) = items := by
  induction items with
  | nil => rfl
  | cons item rest hypothesis => exact congrArg (item :: ·) hypothesis

end WireItem

namespace Payload

/-- The values of a parsed payload that is no text are parsed. -/
theorem parsed_of_valuesOf {payload : Json} {contents : List Json}
    (read : valuesOf payload = .ok contents) (parsed : payload.Parsed) :
    ∀ content ∈ contents, content.Parsed := by
  cases parsed with
  | array each =>
    cases read
    exact each
  | object sorted each =>
    rw [valuesOf] at read
    split at read
    · rename_i items found
      cases read
      have inside := each _ (Entries.mem_of_get? found)
      cases inside with
      | array each => exact each
    · contradiction
  | _ => contradiction

/-- The values of a parsed payload are parsed, also those that a text in it writes. -/
theorem parsed_of_values {payload : Json} {contents : List Json}
    (read : values payload = .ok contents) (parsed : payload.Parsed) :
    ∀ content ∈ contents, content.Parsed := by
  rw [values.eq_def] at read
  split at read
  · split at read
    · contradiction
    · contradiction
    · rename_i found
      exact parsed_of_valuesOf read (Json.parsed_of_read? found)
  · exact parsed_of_valuesOf read parsed

/-- A result item of a payload is read from one of its values. -/
theorem exists_of_mem_items {payload : Json} {contents : List WireItem}
    (read : items payload = .ok contents) {item : WireResult}
    (member : WireItem.result item ∈ contents) :
    ∃ found, values payload = .ok found ∧ ∃ content ∈ found,
      WireResult.ofJson? content = .ok item := by
  rw [items, Except.bind_eq_ok] at read
  obtain ⟨found, valuesRead, read⟩ := read
  obtain ⟨content, inside, made⟩ := Except.exists_of_mem_mapM read member
  refine ⟨found, valuesRead, content, inside, ?_⟩
  split at made
  · rename_i item itemRead
    cases made
    rw [WireItem.ofJson?.eq_def] at itemRead
    split at itemRead
    · split at itemRead
      · obtain ⟨_, -, other⟩ := Except.map_eq_ok.mp itemRead
        contradiction
      · obtain ⟨result, resultRead, same⟩ := Except.map_eq_ok.mp itemRead
        cases same
        exact resultRead
    · obtain ⟨result, resultRead, same⟩ := Except.map_eq_ok.mp itemRead
      cases same
      exact resultRead
  · contradiction

/-- The result items of a parsed payload have parsed values. -/
theorem parsed_of_items {payload : Json} {contents : List WireItem}
    (read : items payload = .ok contents) (parsed : payload.Parsed) {item : WireResult}
    (member : WireItem.result item ∈ contents) : item.Parsed := by
  obtain ⟨found, valuesRead, content, inside, itemRead⟩ := exists_of_mem_items read member
  exact WireResult.parsed_of_ofJson? itemRead (parsed_of_values valuesRead parsed content inside)

end Payload
end Labeling
