import Labeling.Proofs.Entries
import Labeling.Proofs.Except
import Labeling.Wire
import Mathlib.Data.String.Basic

/-!
# Items that are read and written again

Reading the fields of a result item is told by one view, what the item writes under a key
(`WireResult.field?`): reading a field changes the view under its key and nowhere else. An item
that was read is tidy, a tidy item is given by its view, and everything it writes can be read, so
writing it and reading that again gives it back. `WireItem.rewritten_of_ofJson?` says this for
every object, and what of the object is still there in what its item writes.
-/
namespace Labeling

namespace WireResult

/-- The fields that are written only when they have a value. -/
def optionalNames : List String :=
  ["id", "origin", "readonly", "parentID", "score", "meta", "hidden"]

/-- The fields that mean something, in the order in which they are written. -/
def knownNames : List String :=
  ["id", "from_name", "to_name", "type", "value", "origin", "readonly", "parentID", "score",
    "meta", "hidden"]

/-- The fields that are written also when they were not given. -/
def defaults : Entries String Json :=
  [("from_name", .string ""), ("to_name", .string ""), ("type", .string ""),
    ("value", .object [])]

/-- What the item writes under a key. -/
def field? (item : WireResult) (key : String) : Option Json :=
  match key with
  | "id" => item.id.map .string
  | "from_name" => some (.string item.fromName)
  | "to_name" => some (.string item.toName)
  | "type" => some (.string item.resultType)
  | "value" => some (.object item.value)
  | "origin" => item.origin.map .string
  | "readonly" => item.readonly.map .bool
  | "parentID" => item.parentId.map .string
  | "score" => item.score.map .double
  | "meta" => item.metadata
  | "hidden" => item.hidden.map .bool
  | other => Entries.get? other item.extra

/-- An item as reading makes them: the other fields are in order and mean nothing, null is no further
data, and the score is finite. -/
structure Tidy (item : WireResult) : Prop where
  /-- The other fields are in key order. -/
  sorted : Entries.Sorted item.extra
  /-- None of the other fields means something. -/
  apart : ∀ name ∈ knownNames, Entries.get? name item.extra = none
  /-- Further data is not null. -/
  given : item.metadata ≠ some .null
  /-- A score is finite. -/
  finite : ∀ score, item.score = some score → ∃ number : FiniteDouble, score = number.toDouble

/-- What is left of the content of a field that is read and written again. -/
def kept? (key : String) (content : Json) : Option Json :=
  if key ∈ optionalNames ∧ content.isNull = true then none
  else if key = "score" then content.finite?.map .float
  else some content

/-! ## What an item writes -/

/-- An optional field is written under its own name, if it has a value. -/
theorem get?_optionalField {α : Type} (key name : String) (write : α → Json)
    (content : Option α) :
    Entries.get? key (optionalField name write content) =
      if key = name then content.map write else none := by
  cases content with
  | none => simp [optionalField]
  | some value => simp [optionalField, Entries.get?_cons]

/-- A key that means nothing is looked up among the other fields. -/
theorem field?_of_not_mem {key : String} (other : key ∉ knownNames) (item : WireResult) :
    item.field? key = Entries.get? key item.extra := by
  simp only [knownNames, List.mem_cons, List.not_mem_nil, or_false, not_or] at other
  rw [field?.eq_def]
  split
  case h_12 => rfl
  all_goals simp at other

/-- The fields of a tidy item are told by its view. -/
theorem get?_fields {item : WireResult} (tidy : item.Tidy) (key : String) :
    Entries.get? key item.fields = item.field? key := by
  rw [field?.eq_def]
  split
  case h_12 => simp_all [fields, Entries.get?_append, get?_optionalField, Entries.get?_cons]
  all_goals
    simp +decide [fields, Entries.get?_append, get?_optionalField, Entries.get?_cons, tidy.apart]

/-- An optional field has no other key than its name. -/
theorem keys_optionalField_sublist {α : Type} (name : String) (write : α → Json)
    (content : Option α) : (Entries.keys (optionalField name write content)).Sublist [name] := by
  cases content with
  | none => exact List.nil_sublist _
  | some value => exact .refl _

/-- A tidy item writes no key twice. -/
theorem nodup_keys_fields {item : WireResult} (tidy : item.Tidy) :
    (Entries.keys item.fields).Nodup := by
  -- Some of the known names in their order, and then the keys of the other fields.
  obtain ⟨names, written, among⟩ : ∃ names, Entries.keys item.fields =
      names ++ Entries.keys item.extra ∧ names.Sublist knownNames := by
    refine ⟨_, List.map_append, ?_⟩
    simp only [List.map_append]
    exact (((((((keys_optionalField_sublist _ _ _).append (.refl _)).append
      (keys_optionalField_sublist _ _ _)).append (keys_optionalField_sublist _ _ _)).append
      (keys_optionalField_sublist _ _ _)).append (keys_optionalField_sublist _ _ _)).append
      (keys_optionalField_sublist _ _ _)).append (keys_optionalField_sublist _ _ _)
  rw [written]
  refine List.nodup_append.mpr ⟨List.Nodup.sublist among (by decide),
    Entries.nodup_keys_of_sorted tidy.sorted, ?_⟩
  rintro key known _ other rfl
  exact (Entries.get?_eq_none_iff _ _).mp (tidy.apart key (among.subset known)) other

/-- What a tidy item writes, in key order, is told by its view. -/
theorem get?_ofList_fields {item : WireResult} (tidy : item.Tidy) (key : String) :
    Entries.get? key (Entries.ofList item.fields) = item.field? key := by
  rw [Entries.get?_ofList (nodup_keys_fields tidy), get?_fields tidy]

/-- A tidy item writes its score as the finite number that it is. -/
theorem Tidy.map_score {item : WireResult} (tidy : item.Tidy) :
    ∃ number : Option FiniteDouble, item.score = number.map FiniteDouble.toDouble ∧
      item.score.map Json.double = number.map Json.float := by
  cases given : item.score with
  | none => exact ⟨none, rfl, rfl⟩
  | some score =>
    obtain ⟨number, rfl⟩ := tidy.finite score given
    exact ⟨some number, rfl, congrArg some (Json.double_toDouble number)⟩

/-- Tidy items that write one score have one score. -/
theorem Tidy.score_eq {left right : WireResult} (leftTidy : left.Tidy) (rightTidy : right.Tidy)
    (same : left.score.map Json.double = right.score.map Json.double) :
    left.score = right.score := by
  obtain ⟨first, isFirst, written⟩ := leftTidy.map_score
  obtain ⟨second, isSecond, otherWritten⟩ := rightTidy.map_score
  have number : Function.Injective Json.float := fun _ _ equal => Json.float.inj equal
  rw [written, otherWritten] at same
  rw [isFirst, isSecond, Option.map_injective number same]

/-- Two tidy items with one view are one item. -/
theorem ext_of_field? {left right : WireResult} (leftTidy : left.Tidy) (rightTidy : right.Tidy)
    (same : ∀ key, left.field? key = right.field? key) : left = right := by
  have text : Function.Injective Json.string := fun _ _ equal => Json.string.inj equal
  have truth : Function.Injective Json.bool := fun _ _ equal => Json.bool.inj equal
  have extra : left.extra = right.extra := by
    refine Entries.ext_of_sorted leftTidy.sorted rightTidy.sorted fun key => ?_
    by_cases known : key ∈ knownNames
    · rw [leftTidy.apart key known, rightTidy.apart key known]
    · rw [← field?_of_not_mem known, ← field?_of_not_mem known, same]
  have id := Option.map_injective text (same "id")
  have fromName := text (Option.some.inj (same "from_name"))
  have toName := text (Option.some.inj (same "to_name"))
  have resultType := text (Option.some.inj (same "type"))
  have value := Json.object.inj (Option.some.inj (same "value"))
  have origin := Option.map_injective text (same "origin")
  have readonly := Option.map_injective truth (same "readonly")
  have parentId := Option.map_injective text (same "parentID")
  have score := leftTidy.score_eq rightTidy (same "score")
  have metadata : left.metadata = right.metadata := same "meta"
  have hidden := Option.map_injective truth (same "hidden")
  cases left
  cases right
  simp_all

/-! ## Reading one field -/

/-- Only a text is read as one. -/
theorem readText_eq_ok {content : Json} {text : String} (read : Json.readText content = .ok text) :
    content = .string text := by
  cases content <;> cases read
  rfl

/-- Only a truth value is read as one. -/
theorem readBool_eq_ok {content : Json} {truth : Bool} (read : Json.readBool content = .ok truth) :
    content = .bool truth := by
  cases content <;> cases read
  rfl

/-- Only an object is read as fields. -/
theorem readFields_eq_ok {content : Json} {fields : List (String × Json)}
    (read : Json.readFields content = .ok fields) : content = .object fields := by
  cases content <;> cases read
  rfl

/-- A value that may be null instead is written as what it was read from. -/
theorem map_of_readOptional {α : Type} {read : Json → Except Json.Fault α} {write : α → Json}
    {content : Json} {value : Option α} (done : Json.readOptional read content = .ok value)
    (same : ∀ given, read content = .ok given → write given = content) :
    value.map write = if content.isNull = true then none else some content := by
  rw [Json.readOptional.eq_def] at done
  split at done
  · cases done
    rfl
  · rename_i other
    obtain ⟨given, found, made⟩ := Except.map_eq_ok.mp done
    have full : ¬content.isNull = true := fun null => by
      cases content <;> simp [Json.isNull] at null other
    rw [if_neg full, ← made, Option.map_some, same given found]

/-- A number that may be null instead is written as the double that it is. -/
theorem map_double_of_readOptional {content : Json} {value : Option Double}
    (done : Json.readOptional Json.readDouble content = .ok value) :
    value.map Json.double =
      if content.isNull = true then none else content.finite?.map Json.float := by
  cases content <;> cases done
  · rfl
  · exact congrArg some (Json.double_toDouble _)
  · exact congrArg some (Json.double_toDouble _)

/-- Reading a field changes what the item writes under no other key. -/
theorem field?_readField_of_ne {item next : WireResult} {key other : String} {content : Json}
    (read : readField item key content = .ok next) (different : other ≠ key) :
    next.field? other = item.field? other := by
  rw [readField.eq_def] at read
  split at read
  case h_12 =>
    cases read
    rw [field?.eq_def, field?.eq_def]
    split
    case h_12 => exact Entries.get?_put_of_ne content different item.extra
    all_goals rfl
  all_goals
    obtain ⟨_, -, made⟩ := Except.map_eq_ok.mp read
    cases made
    rw [field?.eq_def, field?.eq_def]
    split <;> first | rfl | contradiction

/-- A field that was read is written again, apart from null in an optional field. -/
theorem field?_readField_self {item next : WireResult} {key : String} {content : Json}
    (read : readField item key content = .ok next) : next.field? key = kept? key content := by
  have text (given : String) (found : Json.readText content = .ok given) :
      Json.string given = content := (readText_eq_ok found).symm
  have truth (given : Bool) (found : Json.readBool content = .ok given) :
      Json.bool given = content := (readBool_eq_ok found).symm
  rw [readField.eq_def] at read
  split at read
  case h_12 =>
    cases read
    have other : key ∉ knownNames := by
      simp only [knownNames, List.mem_cons, List.not_mem_nil]
      tauto
    rw [field?_of_not_mem other, Entries.get?_put_self]
    simp_all [kept?, optionalNames, knownNames]
  all_goals obtain ⟨value, given, made⟩ := Except.map_eq_ok.mp read
  all_goals cases made
  case h_1 | h_6 | h_8 =>
    simp [field?, kept?, optionalNames, map_of_readOptional given text]
  case h_7 | h_11 => simp [field?, kept?, optionalNames, map_of_readOptional given truth]
  case h_2 | h_3 | h_4 => simp [field?, kept?, optionalNames, text value given]
  case h_5 => simp [field?, kept?, optionalNames, readFields_eq_ok given]
  case h_9 => simp [field?, kept?, optionalNames, map_double_of_readOptional given]
  case h_10 =>
    have same : value.map (fun content => content) = _ :=
      map_of_readOptional given fun _ found => (Except.ok.inj found).symm
    simpa [field?, kept?, optionalNames] using same

/-- Reading a field of a tidy item gives a tidy item. -/
theorem Tidy.readField {item next : WireResult} {key : String} {content : Json}
    (tidy : item.Tidy) (read : WireResult.readField item key content = .ok next) : next.Tidy := by
  rw [readField.eq_def] at read
  split at read
  case h_12 =>
    cases read
    refine ⟨Entries.sorted_put _ _ tidy.sorted, fun name known => ?_, tidy.given, tidy.finite⟩
    rw [Entries.get?_put_of_ne content ?_, tidy.apart name known]
    rintro rfl
    simp [knownNames] at known
    tauto
  all_goals obtain ⟨value, given, made⟩ := Except.map_eq_ok.mp read
  all_goals cases made
  case h_9 =>
    refine ⟨tidy.sorted, tidy.apart, tidy.given, fun score same => ?_⟩
    change value = some score at same
    subst same
    cases content <;> cases given
    · exact ⟨_, rfl⟩
    · exact ⟨_, rfl⟩
  case h_10 =>
    refine ⟨tidy.sorted, tidy.apart, ?_, tidy.finite⟩
    rintro rfl
    cases content <;> cases given
  all_goals exact ⟨tidy.sorted, tidy.apart, tidy.given, tidy.finite⟩

/-! ## Reading all fields -/

/-- Reading the fields of an object changes the view under the keys of the object only, where the
item then writes what was read. -/
theorem field?_readAll {fields : Entries String Json} (distinct : (Entries.keys fields).Nodup)
    {item next : WireResult} (read : readAll item fields = .ok next) (key : String) :
    next.field? key =
      match Entries.get? key fields with
      | some content => kept? key content
      | none => item.field? key := by
  induction fields generalizing item with
  | nil =>
    cases read
    rfl
  | cons entry rest hypothesis =>
    obtain ⟨other, content⟩ := entry
    -- No key comes twice, so the later fields leave alone what this one gave.
    obtain ⟨apart, restDistinct⟩ := List.nodup_cons.mp distinct
    rw [readAll, Except.bind_eq_ok] at read
    obtain ⟨middle, first, read⟩ := read
    rw [hypothesis restDistinct read, Entries.get?_cons]
    by_cases same : key = other
    · subst same
      rw [if_pos rfl, (Entries.get?_eq_none_iff _ _).mpr apart]
      exact field?_readField_self first
    · rw [if_neg same, field?_readField_of_ne first same]

/-- Reading the fields of an object into a tidy item gives a tidy item. -/
theorem Tidy.readAll {fields : List (String × Json)} {item next : WireResult} (tidy : item.Tidy)
    (read : WireResult.readAll item fields = .ok next) : next.Tidy := by
  induction fields generalizing item with
  | nil =>
    cases read
    exact tidy
  | cons entry rest hypothesis =>
    obtain ⟨key, content⟩ := entry
    rw [WireResult.readAll, Except.bind_eq_ok] at read
    obtain ⟨middle, first, read⟩ := read
    exact hypothesis (tidy.readField first) read

/-- The item of no fields is tidy. -/
theorem tidy_empty : ({} : WireResult).Tidy :=
  ⟨List.Pairwise.nil, fun _ _ => rfl, nofun, nofun⟩

/-- The item of no fields writes the defaults. -/
theorem field?_empty (key : String) :
    ({} : WireResult).field? key = Entries.get? key defaults := by
  rw [field?.eq_def]
  split
  case h_12 => simp_all [defaults, Entries.get?_cons]
  all_goals rfl

/-- What an item writes under a key can be read under this key into any item. -/
theorem readField_of_field? {item : WireResult} {key : String} {content : Json}
    (written : item.field? key = some content) (start : WireResult) :
    ∃ next, readField start key content = .ok next := by
  rw [field?.eq_def] at written
  split at written
  case h_9 =>
    obtain ⟨value, -, made⟩ := Option.map_eq_some_iff.mp written
    rw [← made, Json.double]
    split <;> exact ⟨_, rfl⟩
  case h_10 => cases content <;> exact ⟨_, rfl⟩
  case h_12 =>
    exact ⟨{ start with extra := start.extra.put key content }, by rw [readField] <;> assumption⟩
  case h_2 | h_3 | h_4 | h_5 => cases written; exact ⟨_, rfl⟩
  all_goals
    obtain ⟨value, -, made⟩ := Option.map_eq_some_iff.mp written
    subst made
    exact ⟨_, rfl⟩

/-- Fields that an item writes can be read one after the other. -/
theorem readAll_of_field? {item : WireResult} {fields : List (String × Json)}
    (written : ∀ entry ∈ fields, item.field? entry.1 = some entry.2) (start : WireResult) :
    ∃ next, readAll start fields = .ok next := by
  induction fields generalizing start with
  | nil => exact ⟨start, rfl⟩
  | cons entry rest hypothesis =>
    obtain ⟨middle, first⟩ := readField_of_field? (written entry List.mem_cons_self) start
    obtain ⟨next, later⟩ := hypothesis
      (fun other member => written other (List.mem_cons_of_mem _ member)) middle
    exact ⟨next, by rw [readAll, Except.bind_eq_ok]; exact ⟨middle, first, later⟩⟩

/-- What a tidy item writes is kept when it is read. -/
theorem kept?_of_field? {item : WireResult} (tidy : item.Tidy) {key : String} {content : Json}
    (written : item.field? key = some content) : kept? key content = some content := by
  rw [field?.eq_def] at written
  split at written
  case h_9 =>
    obtain ⟨number, -, same⟩ := tidy.map_score
    rw [same] at written
    obtain ⟨value, -, made⟩ := Option.map_eq_some_iff.mp written
    subst made
    simp [kept?, Json.isNull, Json.finite?]
  case h_10 =>
    cases content <;> simp_all [kept?, Json.isNull, optionalNames, tidy.given]
  case h_12 => simp_all [kept?, optionalNames]
  case h_2 | h_3 | h_4 | h_5 => cases written; simp [kept?, optionalNames]
  all_goals
    obtain ⟨value, -, made⟩ := Option.map_eq_some_iff.mp written
    subst made
    simp [kept?, optionalNames, Json.isNull]

/-- A key under which an item writes nothing has no default. -/
theorem defaults_of_field?_eq_none {item : WireResult} {key : String}
    (absent : item.field? key = none) : Entries.get? key defaults = none := by
  rw [field?.eq_def] at absent
  split at absent
  case h_12 => simp_all [defaults, Entries.get?_cons]
  case h_2 | h_3 | h_4 | h_5 => contradiction
  all_goals rfl

/-- Reading what a tidy item writes gives the item. -/
theorem readAll_fields {item : WireResult} (tidy : item.Tidy) :
    readAll {} (Entries.ofList item.fields) = .ok item := by
  have sorted := Entries.sorted_ofList item.fields
  have written : ∀ entry ∈ Entries.ofList item.fields, item.field? entry.1 = some entry.2 :=
    fun entry member => by
      rw [← get?_ofList_fields tidy]
      exact Entries.get?_of_mem sorted member
  obtain ⟨next, read⟩ := readAll_of_field? written {}
  have same : next = item := by
    refine ext_of_field? (tidy_empty.readAll read) tidy fun key => ?_
    rw [field?_readAll (Entries.nodup_keys_of_sorted sorted) read, get?_ofList_fields tidy]
    cases written : item.field? key with
    | some content => exact kept?_of_field? tidy written
    | none => exact (field?_empty key).trans (defaults_of_field?_eq_none written)
  rw [read, same]

/-- Every field of an object that was read can be read. -/
theorem readField_of_readAll {fields : List (String × Json)} {item next : WireResult}
    (read : readAll item fields = .ok next) {entry : String × Json} (member : entry ∈ fields) :
    ∃ before after, readField before entry.1 entry.2 = .ok after := by
  induction fields generalizing item with
  | nil => contradiction
  | cons first rest hypothesis =>
    obtain ⟨key, content⟩ := first
    rw [readAll, Except.bind_eq_ok] at read
    obtain ⟨middle, done, read⟩ := read
    rcases List.mem_cons.mp member with same | later
    · exact ⟨item, middle, same ▸ done⟩
    · exact hypothesis read later

/-- A score that was read is null or a number. -/
theorem finite?_of_readAll {fields : List (String × Json)} {item next : WireResult}
    (read : readAll item fields = .ok next) {content : Json}
    (given : Entries.get? "score" fields = some content) (full : content ≠ .null) :
    ∃ number, content.finite? = some number := by
  obtain ⟨before, after, done⟩ := readField_of_readAll read (Entries.mem_of_get? given)
  obtain ⟨score, found, -⟩ := Except.map_eq_ok.mp done
  cases content with
  | null => exact absurd rfl full
  | integer value => exact ⟨_, rfl⟩
  | float value => exact ⟨_, rfl⟩
  | _ => cases found

/-- What an object and the fields that its result item writes have in common. -/
structure Rewritten (before after : Entries String Json) : Prop where
  /-- A field is written as it was given, apart from the score and from null in an optional
  field. -/
  kept : ∀ key content, Entries.get? key before = some content → key ≠ "score" →
    ¬(key ∈ optionalNames ∧ content = .null) → Entries.get? key after = some content
  /-- The score is written as the double that it is. -/
  score : ∀ content, Entries.get? "score" before = some content → content ≠ .null →
    ∃ number, content.finite? = some number ∧ Entries.get? "score" after = some (.float number)
  /-- Null in an optional field is left out. -/
  leftOut : ∀ key ∈ optionalNames, Entries.get? key before = some .null →
    Entries.get? key after = none
  /-- No field is added but the defaults. -/
  added : ∀ key, Entries.get? key before = none →
    Entries.get? key after = Entries.get? key defaults

/-- An item that was read writes what its object holds, and nothing more than the defaults. -/
theorem rewritten_of_readAll {fields : Entries String Json} (sorted : Entries.Sorted fields)
    {item : WireResult} (read : readAll {} fields = .ok item) :
    Rewritten fields (Entries.ofList item.fields) := by
  have view (key : String) : Entries.get? key (Entries.ofList item.fields) =
      match Entries.get? key fields with
      | some content => kept? key content
      | none => Entries.get? key defaults := by
    rw [get?_ofList_fields (tidy_empty.readAll read),
      field?_readAll (Entries.nodup_keys_of_sorted sorted) read, field?_empty]
  constructor
  · intro key content given noScore full
    rw [view, given]
    have present : ¬(key ∈ optionalNames ∧ content.isNull = true) := fun ⟨optional, null⟩ =>
      full ⟨optional, by cases content <;> first | rfl | contradiction⟩
    exact (if_neg present).trans (if_neg noScore)
  · intro content given full
    obtain ⟨number, found⟩ := finite?_of_readAll read given full
    refine ⟨number, found, ?_⟩
    rw [view, given]
    cases content <;> simp_all [kept?, Json.isNull]
  · intro key optional given
    rw [view, given]
    exact if_pos ⟨optional, rfl⟩
  · intro key absent
    rw [view, absent]

/-- An item that was read from an object that is no relation does not write a relation. -/
theorem resultType_of_readAll {fields : Entries String Json} (sorted : Entries.Sorted fields)
    {item : WireResult} (read : readAll {} fields = .ok item)
    (other : (Entries.get? "type" fields).bind Json.text? ≠ some WireRelation.typeName) :
    item.resultType ≠ WireRelation.typeName := by
  intro same
  have view := field?_readAll (Entries.nodup_keys_of_sorted sorted) read "type"
  have written : item.field? "type" = some (.string WireRelation.typeName) := same ▸ rfl
  rw [written] at view
  cases given : Entries.get? "type" fields with
  -- The default of the type is no relation either.
  | none =>
    rw [given] at view
    exact absurd (Json.string.inj (Option.some.inj view)) (by decide)
  | some content =>
    rw [given] at view other
    have same : content = .string WireRelation.typeName := by
      simpa [kept?, optionalNames] using view.symm
    exact other (same ▸ rfl)

end WireResult

/-! ## Relations -/

/-- The directions that an object may give to a relation, with their content. -/
inductive Direction.Given : Option Json → Direction → Prop where
  /-- A relation without a direction points to the second region. -/
  | absent : Given none .right
  /-- A direction is given by its word. -/
  | word (direction : Direction) : Given (some (.string direction.name)) direction
  /-- A direction is given by an object with its word as the only key. -/
  | single (direction : Direction) :
    Given (some (.object [(direction.name, .null)])) direction

/-- A word is that of its direction. -/
theorem Direction.name_of_lookup {word : String} {direction : Direction}
    (found : choices.lookup word = some direction) : word = direction.name := by
  obtain ⟨before, after, split, -⟩ := List.lookup_eq_some_iff.mp found
  have member : (word, direction) ∈ choices := split ▸ by simp
  simp only [choices, List.mem_cons, Prod.mk.injEq, List.not_mem_nil, or_false] at member
  rcases member with ⟨rfl, rfl⟩ | ⟨rfl, rfl⟩ | ⟨rfl, rfl⟩ <;> rfl

/-- A direction that was read was given. -/
theorem Direction.given_of_readChoice {content : Json} {direction : Direction}
    (read : Json.readChoice choices content = .ok direction) :
    direction.Given (some content) := by
  rw [Json.readChoice.eq_def] at read
  split at read
  · rename_i word
    cases found : choices.lookup word with
    | none => simp [found] at read
    | some choice =>
      simp only [found, Except.ok.injEq] at read
      exact name_of_lookup (read ▸ found) ▸ .word direction
  · rename_i word content
    obtain ⟨choice, done, read⟩ := Except.bind_eq_ok.mp read
    split at read
    · cases read
      cases found : choices.lookup word with
      | none => simp [found] at done
      | some choice =>
        simp only [found, Except.ok.injEq] at done
        exact name_of_lookup (done ▸ found) ▸ .single direction
    · contradiction
  · contradiction
  · contradiction

/-- Only a list of texts is read as one. -/
theorem readTexts_eq_ok {content : Json} {texts : List String}
    (read : Json.readTexts content = .ok texts) : .array (texts.map .string) = content := by
  cases content with
  | array items =>
    refine congrArg Json.array ?_
    induction items generalizing texts with
    | nil =>
      cases read
      rfl
    | cons item rest hypothesis =>
      rw [Json.readTexts, List.mapM_cons, Except.bind_eq_ok] at read
      obtain ⟨text, first, read⟩ := read
      obtain ⟨others, later, read⟩ := Except.bind_eq_ok.mp read
      cases read
      rw [List.map_cons, hypothesis later, WireResult.readText_eq_ok first]
  | _ => cases read

/-- A list of texts is read as itself. -/
theorem readTexts_array (texts : List String) :
    Json.readTexts (.array (texts.map .string)) = .ok texts := by
  rw [Json.readTexts]
  induction texts with
  | nil => rfl
  | cons text rest hypothesis =>
    rw [List.map_cons, List.mapM_cons, hypothesis]
    rfl

namespace WireRelation

/-- What an object and the fields that its relation item writes have in common. -/
structure Rewritten (before after : Entries String Json) : Prop where
  /-- The id of the first region is a text, and is kept. -/
  fromId : ∃ id, Entries.get? "from_id" before = some (.string id) ∧
    Entries.get? "from_id" after = some (.string id)
  /-- The id of the second region is a text, and is kept. -/
  toId : ∃ id, Entries.get? "to_id" before = some (.string id) ∧
    Entries.get? "to_id" after = some (.string id)
  /-- The direction is written by its word. -/
  direction : ∃ direction : Direction, direction.Given (Entries.get? "direction" before) ∧
    Entries.get? "direction" after = some (.string direction.name)
  /-- The labels are written as they were given, apart from null. -/
  labels : Entries.get? "labels" after =
    (Entries.get? "labels" before).filter fun content => !content.isNull

/-- Reading a field of another name leaves a part of the reading alone. -/
theorem readField_leaves {item next : Reading} {key : String} {content : Json}
    (read : readField item key content = .ok next) :
    (key ≠ "from_id" → next.fromId = item.fromId) ∧ (key ≠ "to_id" → next.toId = item.toId) ∧
      (key ≠ "direction" → next.direction = item.direction) ∧
      (key ≠ "labels" → next.labels = item.labels) := by
  rw [readField.eq_def] at read
  split at read
  case h_5 =>
    cases read
    exact ⟨fun _ => rfl, fun _ => rfl, fun _ => rfl, fun _ => rfl⟩
  all_goals
    obtain ⟨_, -, made⟩ := Except.map_eq_ok.mp read
    cases made
    refine ⟨?_, ?_, ?_, ?_⟩ <;> intro different <;> first | rfl | contradiction

/-- A part of the reading that a field gives and that the other fields leave alone is what that
field gave. -/
theorem part_of_readAll {α : Type} (name : String) (part : Reading → α)
    (Gives : Json → α → Prop)
    (gives : ∀ {item next content}, readField item name content = .ok next →
      Gives content (part next))
    (leaves : ∀ {item next key content}, readField item key content = .ok next →
      key ≠ name → part next = part item)
    {given : Entries String Json} (distinct : (Entries.keys given).Nodup)
    {item next : Reading} (done : readAll item given = .ok next) :
    match Entries.get? name given with
    | some content => Gives content (part next)
    | none => part next = part item := by
  induction given generalizing item with
  | nil =>
    cases done
    rfl
  | cons entry rest hypothesis =>
    obtain ⟨key, content⟩ := entry
    obtain ⟨apart, restDistinct⟩ := List.nodup_cons.mp distinct
    rw [readAll, Except.bind_eq_ok] at done
    obtain ⟨middle, first, done⟩ := done
    have later := hypothesis restDistinct done
    rw [Entries.get?_cons]
    by_cases same : name = key
    · subst same
      rw [(Entries.get?_eq_none_iff _ _).mpr apart] at later
      rw [if_pos rfl]
      exact later ▸ gives first
    · rw [if_neg same]
      rw [leaves first (Ne.symm same)] at later
      exact later

/-- A relation item writes its fields under their names. -/
theorem get?_ofList_fields (item : WireRelation) (key : String) :
    Entries.get? key (Entries.ofList item.fields) = Entries.get? key item.fields := by
  refine Entries.get?_ofList ?_ key
  obtain ⟨fromId, toId, direction, labels⟩ := item
  cases labels <;> simp [Entries.keys, fields, WireResult.optionalField]

/-- A relation item that was read writes what its object holds. -/
theorem rewritten_of_ofFields? {given : Entries String Json} (sorted : Entries.Sorted given)
    {item : WireRelation} (read : ofFields? given = .ok item) :
    Rewritten given (Entries.ofList item.fields) := by
  have distinct := Entries.nodup_keys_of_sorted sorted
  obtain ⟨reading, done, complete⟩ := Except.bind_eq_ok.mp read
  have fromId := part_of_readAll "from_id" (·.fromId)
    (fun content id => ∃ text, content = .string text ∧ id = some text)
    (fun first => by
      obtain ⟨text, found, made⟩ := Except.map_eq_ok.mp first
      exact ⟨text, WireResult.readText_eq_ok found, made ▸ rfl⟩)
    (fun first => (readField_leaves first).1) distinct done
  have toId := part_of_readAll "to_id" (·.toId)
    (fun content id => ∃ text, content = .string text ∧ id = some text)
    (fun first => by
      obtain ⟨text, found, made⟩ := Except.map_eq_ok.mp first
      exact ⟨text, WireResult.readText_eq_ok found, made ▸ rfl⟩)
    (fun first => (readField_leaves first).2.1) distinct done
  have direction := part_of_readAll "direction" (·.direction)
    (fun content direction => direction.Given (some content))
    (fun first => by
      obtain ⟨direction, found, made⟩ := Except.map_eq_ok.mp first
      exact made ▸ Direction.given_of_readChoice found)
    (fun first => (readField_leaves first).2.2.1) distinct done
  have labels := part_of_readAll "labels" (·.labels)
    (fun content labels => labels.map (fun texts => Json.array (texts.map .string)) =
      if content.isNull = true then none else some content)
    (fun first => by
      obtain ⟨labels, found, made⟩ := Except.map_eq_ok.mp first
      exact made ▸ WireResult.map_of_readOptional found fun _ => readTexts_eq_ok)
    (fun first => (readField_leaves first).2.2.2) distinct done
  rw [Reading.complete.eq_def] at complete
  split at complete
  · contradiction
  · contradiction
  rename_i first second firstGiven secondGiven
  cases complete
  constructor
  · cases present : Entries.get? "from_id" given with
    | none => simp [present, firstGiven] at fromId
    | some content =>
      simp only [present, firstGiven] at fromId
      obtain ⟨text, same, made⟩ := fromId
      cases made
      exact ⟨first, same ▸ rfl, by rw [get?_ofList_fields]; rfl⟩
  · cases present : Entries.get? "to_id" given with
    | none => simp [present, secondGiven] at toId
    | some content =>
      simp only [present, secondGiven] at toId
      obtain ⟨text, same, made⟩ := toId
      cases made
      exact ⟨second, same ▸ rfl, by rw [get?_ofList_fields]; rfl⟩
  · refine ⟨reading.direction, ?_, by rw [get?_ofList_fields]; rfl⟩
    cases present : Entries.get? "direction" given with
    | none =>
      rw [present] at direction
      exact direction ▸ .absent
    | some content =>
      rw [present] at direction
      exact direction
  · have written : Entries.get? "labels" (fields ⟨first, second, reading.direction,
        reading.labels⟩) = reading.labels.map fun texts => Json.array (texts.map .string) := by
      simp [fields, Entries.get?_cons, WireResult.get?_optionalField]
    rw [get?_ofList_fields, written]
    cases present : Entries.get? "labels" given with
    | none =>
      rw [present] at labels
      exact labels ▸ rfl
    | some content =>
      rw [present] at labels
      rw [labels, Option.filter_some]
      cases content.isNull <;> rfl

/-- The fields of a relation item in key order. -/
theorem ofList_fields (item : WireRelation) : Entries.ofList item.fields =
    [("direction", .string item.direction.name), ("from_id", .string item.fromId)]
      ++ WireResult.optionalField "labels" (fun labels => .array (labels.map .string)) item.labels
      ++ [("to_id", .string item.toId), ("type", .string typeName)] := by
  cases present : item.labels <;>
    simp +decide only [fields, present, WireResult.optionalField, Entries.ofList, List.cons_append,
      List.nil_append, List.foldl, Entries.put, ↓reduceIte]

/-- Reading what a relation item writes gives the item. -/
theorem ofFields?_fields (item : WireRelation) :
    ofFields? (Entries.ofList item.fields) = .ok item := by
  obtain ⟨fromId, toId, direction, labels⟩ := item
  have read : Json.readChoice Direction.choices (.string direction.name) = .ok direction := by
    cases direction <;> rfl
  rw [ofList_fields]
  cases labels <;>
    simp [WireResult.optionalField, ofFields?, readAll, readField, read, readTexts_array,
      Json.readText, Json.readOptional, Except.map, bind, Except.bind, Reading.complete]

end WireRelation

namespace WireItem

/-- What an object and the fields that its item writes have in common. -/
def Rewritten (before after : Entries String Json) : WireItem → Prop
  | .result _ => WireResult.Rewritten before after
  | .relation _ => WireRelation.Rewritten before after

/-- Reading an object gives the item back from what it writes, which is what the object holds:
every field of a result apart from null in an optional one, with the defaults as the only further
fields, and of a relation its ends, direction and labels. -/
theorem rewritten_of_ofJson? {value : Json} {item : WireItem} (ordered : value.Ordered)
    (read : ofJson? value = .ok item) :
    ofJson? item.toJson = .ok item ∧
      ∃ before after, value = .object before ∧ item.toJson = .object after ∧
        item.Rewritten before after := by
  cases value with
  | object before =>
    have sorted : Entries.Sorted before := by
      rw [Json.Ordered.eq_def] at ordered
      exact ordered.1
    rw [ofJson?] at read
    split at read
    · obtain ⟨relation, found, made⟩ := Except.map_eq_ok.mp read
      cases made
      refine ⟨?_, before, _, rfl, rfl, WireRelation.rewritten_of_ofFields? sorted found⟩
      have typed : (Entries.get? "type" (Entries.ofList relation.fields)).bind Json.text? =
          some WireRelation.typeName := by
        rw [WireRelation.get?_ofList_fields]
        rfl
      rw [toJson, Json.record, ofJson?, fields, if_pos typed, WireRelation.ofFields?_fields]
      rfl
    · rename_i other
      obtain ⟨result, found, made⟩ := Except.map_eq_ok.mp read
      cases made
      have tidy := WireResult.tidy_empty.readAll found
      refine ⟨?_, before, _, rfl, rfl, WireResult.rewritten_of_readAll sorted found⟩
      have typed : (Entries.get? "type" (Entries.ofList result.fields)).bind Json.text? ≠
          some WireRelation.typeName := by
        rw [WireResult.get?_ofList_fields tidy]
        exact fun same => WireResult.resultType_of_readAll sorted found other
          (Option.some.inj same)
      rw [toJson, Json.record, ofJson?, fields, if_neg typed, WireResult.ofJson?,
        WireResult.readAll_fields tidy]
      rfl
  | _ => contradiction

/-- An object with null in an optional field, a whole number as score, a field that means nothing
here and neither a control nor a value. -/
def scoredValue : Json :=
  .object [("id", .null), ("image_rotation", .integer 0), ("score", .integer 1),
    ("to_name", .string "text"), ("type", .string "choices")]

/-- The item of `scoredValue`. -/
def scoredItem : WireItem :=
  .result { toName := "text", resultType := "choices", score := some (.ofInt 1),
            extra := [("image_rotation", .integer 0)] }

/-- The item of `scoredValue` is given back by what it writes, which is what the object holds. -/
theorem scoredItem_rewritten :
    scoredValue.Ordered ∧ ofJson? scoredValue = .ok scoredItem ∧
      ofJson? scoredItem.toJson = .ok scoredItem ∧
      ∃ before after, scoredValue = .object before ∧ scoredItem.toJson = .object after ∧
        scoredItem.Rewritten before after := by
  have ordered : scoredValue.Ordered := by
    rw [scoredValue, Json.Ordered.eq_def]
    refine ⟨by decide, ?_⟩
    simp [Json.OrderedFields, Json.Ordered]
  have read : ofJson? scoredValue = .ok scoredItem := rfl
  exact ⟨ordered, read, rewritten_of_ofJson? ordered read⟩

end WireItem
end Labeling
