import Labeling.Proofs.Text.Numerals
import Labeling.Proofs.Text.Splitting
import Labeling.Reference

/-!
# Paths into task data

A path is read segment by segment, and what is joined by dots is read apart again. So a path of keys
looks up one key after the other; but a key behind the first one that reads as an index is looked up
by the digits of the index, which need not be how it was spelled (`resolvePath_joined`). An index in
brackets may stand behind any path: it goes to the last segment, and the steps in front of it stay
as they are (`steps?_append`). So a reference to an array has a reference to each of the items, and
a repeater over it as many copies (`resolve_indexed`).
-/
namespace Labeling

namespace Reference

variable {steps : List Step}

/-- The steps of segments are those of the first one and those of the others behind it. -/
theorem stepsOfSegments_cons (isFirst : Bool) (segment : List Char) (segments : List (List Char)) :
    stepsOfSegments isFirst (segment :: segments) =
      (segmentSteps isFirst segment).bind fun steps =>
        (stepsOfSegments false segments).map (steps ++ ·) := by
  rw [stepsOfSegments]
  cases segmentSteps isFirst segment with
  | none => rfl
  | some steps => cases stepsOfSegments false segments <;> rfl

/-- The steps of a segment are those of its key and those of the brackets behind it. -/
theorem segmentSteps_eq (isFirst : Bool) {segment : List Char} (written : segment ≠ []) :
    segmentSteps isFirst segment =
      (brackets none (Text.cutAt (· == '[') segment).2).map
        (keyStep isFirst (Text.cutAt (· == '[') segment).1 ++ ·) := by
  rw [segmentSteps, if_neg (by simpa using written)]

/-! ## Keys with dots between them -/

end Reference

namespace Json

/-- The value that keys lead to, each looked up in the object that those before it lead to. -/
def lookUp : Json → List String → Option Json
  | value, [] => some value
  | value, key :: keys => (value.field? key).bind (lookUp · keys)

/-- No key is looked up in an array. -/
def EntersNoArray : Json → List String → Prop
  | _, [] => True
  | value, key :: keys =>
    value.items? = none ∧ ∀ inner, value.field? key = some inner → inner.EntersNoArray keys

/-- Objects of one field each, one inside the other. -/
def nested : List String → Json
  | [] => .null
  | key :: keys => .object [(key, nested keys)]

/-- A key is looked up in nested objects. -/
theorem field?_nested (key other : String) (keys : List String) :
    (nested (key :: keys)).field? other = if other = key then some (nested keys) else none := rfl

/-- Nested objects have no array. -/
theorem entersNoArray_nested (keys others : List String) :
    (nested keys).EntersNoArray others := by
  induction others generalizing keys with
  | nil => trivial
  | cons other others hypothesis =>
    cases keys with
    | nil => exact ⟨rfl, fun inner found => by contradiction⟩
    | cons key keys =>
      refine ⟨rfl, fun inner found => ?_⟩
      rw [field?_nested] at found
      split at found
      · obtain rfl := Option.some.inj found
        exact hypothesis keys
      · contradiction

/-- The keys of nested objects lead to the innermost value. -/
theorem lookUp_nested (keys : List String) : (nested keys).lookUp keys = some .null := by
  induction keys with
  | nil => rfl
  | cons key keys hypothesis =>
    rw [lookUp, field?_nested, if_pos rfl, Option.bind_some, hypothesis]

/-- Only the keys of nested objects lead that deep into them. -/
theorem eq_of_lookUp_nested {keys others : List String} (length : others.length = keys.length)
    {value : Json} (found : (nested keys).lookUp others = some value) : others = keys := by
  induction keys generalizing others with
  | nil => exact List.length_eq_zero_iff.mp length
  | cons key keys hypothesis =>
    cases others with
    | nil => contradiction
    | cons other others =>
      obtain ⟨inner, first, behind⟩ := Option.bind_eq_some_iff.mp found
      rw [field?_nested] at first
      split at first
      · rename_i same
        obtain rfl := Option.some.inj first
        rw [same, hypothesis (Nat.succ.inj length) behind]
      · contradiction

end Json

namespace Reference

/-- A key that a path can write: it has no character that ends a segment or begins an index. -/
structure IsPathKey (key : String) : Prop where
  /-- It is not empty. -/
  written : key ≠ ""
  /-- It has no dot. -/
  noDot : '.' ∉ key.toList
  /-- It has no bracket. -/
  noBracket : '[' ∉ key.toList

instance (key : String) : Decidable (IsPathKey key) :=
  decidable_of_iff (key ≠ "" ∧ '.' ∉ key.toList ∧ '[' ∉ key.toList)
    ⟨fun ⟨written, noDot, noBracket⟩ => ⟨written, noDot, noBracket⟩,
    fun ⟨written, noDot, noBracket⟩ => ⟨written, noDot, noBracket⟩⟩

/-- What a key behind the first one is looked up as: the digits of the index that it reads as, or
the key itself. -/
def spelled (key : String) : String :=
  match Text.readIndex key.toList with
  | some index => Text.decimal index
  | none => key

/-- The steps of a key alone. -/
theorem segmentSteps_of_isPathKey {key : String} (plain : IsPathKey key) (isFirst : Bool) :
    segmentSteps isFirst key.toList = some (keyStep isFirst key.toList) := by
  have written : key.toList ≠ [] := by
    simpa using plain.written
  have whole : Text.cutAt (· == '[') key.toList = (key.toList, []) :=
    Text.cutAt_eq_self fun character member =>
      beq_false_of_ne fun same => plain.noBracket (same ▸ member)
  rw [segmentSteps_eq isFirst written, whole]
  simp [brackets]

/-- The first key of a path is looked up as it is. -/
theorem keyStep_true {key : String} (plain : IsPathKey key) :
    keyStep true key.toList = [.key key] := by
  rw [keyStep, if_neg (by simpa using plain.written)]
  split <;> simp

/-- A later key of a path is looked up by its spelling, but in an array. -/
theorem follow_keyStep_false {key : String} (plain : IsPathKey key) {value : Json}
    (noArray : value.items? = none) :
    follow value (keyStep false key.toList) = value.field? (spelled key) := by
  rw [keyStep, if_neg (by simpa using plain.written), spelled]
  cases Text.readIndex key.toList with
  | none => simp [follow, Step.apply]
  | some index =>
    cases value with
    | array items => contradiction
    | object fields => simp [follow, Step.apply, Json.field?]
    | _ => rfl

/-- The keys behind the first one are looked up by their spelling. -/
theorem exists_steps_of_keys {keys : List String} (plain : ∀ key ∈ keys, IsPathKey key) :
    ∃ steps, stepsOfSegments false (keys.map String.toList) = some steps ∧
      ∀ value : Json, value.EntersNoArray (keys.map spelled) →
        follow value steps = value.lookUp (keys.map spelled) := by
  induction keys with
  | nil => exact ⟨[], rfl, fun _ _ => rfl⟩
  | cons key keys hypothesis =>
    obtain ⟨steps, read, followed⟩ := hypothesis fun other member =>
      plain other (List.mem_cons_of_mem _ member)
    have first := plain key List.mem_cons_self
    refine ⟨keyStep false key.toList ++ steps, ?_, fun value objects => ?_⟩
    · rw [List.map_cons, stepsOfSegments_cons, segmentSteps_of_isPathKey first, Option.bind_some,
        read, Option.map_some]
    · rw [follow_append, follow_keyStep_false first objects.1, List.map_cons, Json.lookUp]
      refine Option.bind_congr fun inner found => followed inner (objects.2 inner found)

/-- A path of keys resolves to what the first key and the spellings of the others lead to. -/
theorem resolvePath_joined {first : String} {keys : List String}
    (plain : ∀ key ∈ first :: keys, IsPathKey key) {data : Json}
    (objects : data.EntersNoArray (first :: keys.map spelled)) :
    resolvePath data (Text.joined "." (first :: keys)).toList =
      data.lookUp (first :: keys.map spelled) := by
  have head := plain first List.mem_cons_self
  obtain ⟨steps, read, followed⟩ := exists_steps_of_keys fun key member =>
    plain key (List.mem_cons_of_mem _ member)
  have dot : String.singleton '.' = "." := rfl
  rw [resolvePath, steps?, ← dot,
    Text.pieces_joined (List.cons_ne_nil first keys) fun key member => (plain key member).noDot,
    List.map_cons, stepsOfSegments_cons, segmentSteps_of_isPathKey head, Option.bind_some, read,
    Option.map_some, Option.bind_some, keyStep_true head, List.singleton_append, follow,
    Json.lookUp]
  exact Option.bind_congr fun inner found => followed inner (objects.2 inner found)

/-- A path of keys resolves to what the keys lead to, in all data in which they enter no array, just
if every key but the first is either no number or spelled as the digits of its number. -/
theorem resolvePath_joined_iff {keys : List String} (some : keys ≠ [])
    (plain : ∀ key ∈ keys, IsPathKey key) :
    (∀ data : Json, data.EntersNoArray keys →
      resolvePath data (Text.joined "." keys).toList = data.lookUp keys) ↔
      ∀ key ∈ keys.tail, spelled key = key := by
  obtain ⟨first, rest, rfl⟩ := List.exists_cons_of_ne_nil some
  have kept : rest.map spelled = rest ↔ ∀ key ∈ rest, spelled key = key := by
    simpa using List.map_inj_left (f := spelled) (g := id) (l := rest)
  rw [List.tail_cons, ← kept]
  constructor
  · intro resolves
    -- The keys lead into objects nested by them; their spellings lead there only if they are these.
    have found := resolves (.nested (first :: rest)) (Json.entersNoArray_nested _ _)
    rw [resolvePath_joined plain (Json.entersNoArray_nested _ _), Json.lookUp_nested] at found
    have same := Json.eq_of_lookUp_nested (by simp) found
    exact (List.cons.inj same).2
  · intro same data objects
    rw [resolvePath_joined plain (by rwa [same]), same]

/-- The keys of a year and of a month of it. -/
def monthKeys : List String := ["years", "2024", "6"]

/-- Months that are spelled by their digits are found in all data without arrays in the way. -/
theorem monthKeys_found :
    monthKeys ≠ [] ∧ (∀ key ∈ monthKeys, IsPathKey key) ∧
      (∀ key ∈ monthKeys.tail, spelled key = key) ∧
      ∀ data : Json, data.EntersNoArray monthKeys →
        resolvePath data (Text.joined "." monthKeys).toList = data.lookUp monthKeys :=
  ⟨by decide, by decide, by decide,
    (resolvePath_joined_iff (by decide) (by decide)).mpr (by decide)⟩

/-- Data with a month that is spelled with two digits. -/
def paddedMonth : Json :=
  .object [("years", .object [("2024", .object [("06", .string "June")])])]

/-- A month that is spelled with two digits is not found. -/
theorem paddedMonth_missed :
    (∀ key ∈ ["years", "2024", "06"], IsPathKey key) ∧
      paddedMonth.EntersNoArray ["years", "2024", "06"] ∧
      paddedMonth.lookUp ["years", "2024", "06"] = some (.string "June") ∧
      resolvePath paddedMonth (Text.joined "." ["years", "2024", "06"]).toList = none := by
  refine ⟨by decide, ?_, rfl, rfl⟩
  simp [paddedMonth, Json.EntersNoArray, Json.items?, Json.field?, Entries.get?]

/-! ## Indices behind a path -/

/-- Brackets behind closed brackets are read behind them. -/
theorem brackets_append {inner : Option (List Char)} {text : List Char}
    (read : brackets inner text = some steps) (suffix : List Char) :
    brackets inner (text ++ suffix) = (brackets none suffix).map (steps ++ ·) := by
  induction text generalizing inner steps with
  | nil =>
    cases inner with
    | some characters => contradiction
    | none =>
      obtain rfl : [] = steps := Option.some.inj read
      simp
  | cons first rest hypothesis =>
    cases inner with
    | none =>
      rw [brackets] at read
      split at read
      · rename_i opens
        rw [List.cons_append, brackets, if_pos opens]
        exact hypothesis read
      · contradiction
    | some characters =>
      rw [brackets] at read
      rw [List.cons_append, brackets]
      split at read
      · rename_i closes
        rw [if_pos closes]
        split at read
        · obtain ⟨later, behind, rfl⟩ := Option.map_eq_some_iff.mp read
          rw [hypothesis behind, Option.map_map]
          rfl
        · contradiction
      · rename_i inside
        rw [if_neg inside]
        exact hypothesis read

/-- Brackets behind a segment leave its steps as they are. -/
theorem segmentSteps_append {isFirst : Bool} {segment : List Char}
    (read : segmentSteps isFirst segment = some steps) (suffix : List Char) :
    segmentSteps isFirst (segment ++ '[' :: suffix) =
      (brackets none ('[' :: suffix)).map (steps ++ ·) := by
  have written : segment ≠ [] := by
    rintro rfl
    contradiction
  rw [segmentSteps_eq isFirst written] at read
  obtain ⟨behind, closed, rfl⟩ := Option.map_eq_some_iff.mp read
  rw [segmentSteps_eq isFirst (by simp), Text.cutAt_append rfl, brackets_append closed,
    Option.map_map]
  simp only [Function.comp_def, List.append_assoc]

/-- Brackets behind the last segment leave the steps in front of them as they are. -/
theorem stepsOfSegments_append {isFirst : Bool} {front : List (List Char)} {last : List Char}
    (read : stepsOfSegments isFirst (front ++ [last]) = some steps) (suffix : List Char) :
    stepsOfSegments isFirst (front ++ [last ++ '[' :: suffix]) =
      (brackets none ('[' :: suffix)).map (steps ++ ·) := by
  induction front generalizing isFirst steps with
  | nil =>
    rw [List.nil_append, stepsOfSegments_cons, Option.bind_eq_some_iff] at read
    obtain ⟨steps, its, same⟩ := read
    obtain rfl : steps ++ [] = _ := Option.some.inj same
    rw [List.nil_append, stepsOfSegments_cons, segmentSteps_append its]
    cases brackets none ('[' :: suffix) <;> simp [stepsOfSegments]
  | cons segment front hypothesis =>
    rw [List.cons_append, stepsOfSegments_cons, Option.bind_eq_some_iff] at read
    obtain ⟨first, its, others⟩ := read
    obtain ⟨later, behind, rfl⟩ := Option.map_eq_some_iff.mp others
    rw [List.cons_append, stepsOfSegments_cons, its, Option.bind_some, hypothesis behind,
      Option.map_map]
    simp only [Function.comp_def, List.append_assoc]

/-- Brackets behind a path leave its steps as they are. -/
theorem steps?_append {path suffix : List Char} (read : steps? path = some steps)
    (apart : '.' ∉ '[' :: suffix) :
    steps? (path ++ '[' :: suffix) = (brackets none ('[' :: suffix)).map (steps ++ ·) := by
  obtain ⟨front, last, short, long⟩ := Text.exists_pieces_append apart path
  rw [steps?, short] at read
  rw [steps?, long, stepsOfSegments_append read]

/-- The characters up to a closing bracket are those of an index. -/
theorem brackets_closed {digits : List Char} (apart : ']' ∉ digits) (inner : List Char) :
    brackets (some inner) (digits ++ [']']) =
      (Text.readIndex (Text.trim (inner.reverse ++ digits))).map fun index => [.index index] := by
  induction digits generalizing inner with
  | nil =>
    rw [List.nil_append, brackets, if_pos rfl, List.append_nil]
    cases Text.readIndex (Text.trim inner.reverse) <;> rfl
  | cons digit rest hypothesis =>
    rw [List.mem_cons, not_or] at apart
    rw [List.cons_append, brackets, if_neg (Ne.symm apart.1), hypothesis apart.2,
      List.reverse_cons, List.append_assoc, List.singleton_append]

/-- An index in brackets is one step if it fits a machine word. -/
theorem brackets_decimal (index : Nat) :
    brackets none ('[' :: ((Text.decimal index).toList ++ [']'])) =
      if index < Text.wordLimit then some [.index index] else none := by
  have apart : ']' ∉ (Text.decimal index).toList := by
    intro member
    have digit : ']'.isDigit = true := Text.isDigit_of_mem_decimal member
    contradiction
  have trimmed : Text.trim (Text.decimal index).toList = (Text.decimal index).toList :=
    Text.trim_eq_self fun _ member => Text.isBlank_of_isDigit (Text.isDigit_of_mem_decimal member)
  rw [brackets, if_pos rfl, brackets_closed apart, List.reverse_nil, List.nil_append, trimmed,
    Text.readIndex_decimal]
  split
  · rfl
  · rfl

/-- The reference to an item of what a reference names. -/
def indexed (reference : String) (index : Nat) : String :=
  reference ++ "[" ++ Text.decimal index ++ "]"

/-- The characters of a reference to an item. -/
theorem toList_indexed (reference : String) (index : Nat) :
    (indexed reference index).toList =
      reference.toList ++ '[' :: ((Text.decimal index).toList ++ [']']) := by
  simp [indexed]

/-- The path of a reference to an item is that of the reference with the index behind it. -/
theorem pathOf_append {reference suffix : List Char} (named : pathOf reference ≠ [])
    (plain : ∀ last ∈ reference.getLast?, Text.isBlank last = false)
    (closed : ∀ last ∈ (reference ++ suffix).getLast?, Text.isBlank last = false) :
    pathOf (reference ++ suffix) = pathOf reference ++ suffix := by
  have written : reference ≠ [] := by
    rintro rfl
    contradiction
  obtain ⟨trimmed, some⟩ := Text.trim_append written plain closed
  unfold pathOf
  rw [trimmed]
  cases found : Text.trim reference with
  | nil => exact absurd found some
  | cons first rest =>
    by_cases dollar : first = '$'
    · subst dollar
      rfl
    · simp [dollar]

/-- What a reference to an item resolves to, where the reference resolves to an array. -/
theorem resolve_toList_indexed {data : Json} {reference : String} {items : List Json}
    (plain : ∀ last ∈ reference.toList.getLast?, Text.isBlank last = false)
    (names : resolve data reference.toList = some (.array items)) (index : Nat) :
    resolve data (indexed reference index).toList =
      if index < Text.wordLimit then items[index]? else none := by
  rw [resolve] at names
  split at names
  · contradiction
  · rename_i some
    have named : pathOf reference.toList ≠ [] := by simpa using some
    obtain ⟨steps, read, followed⟩ := Option.bind_eq_some_iff.mp names
    have path : pathOf (indexed reference index).toList =
        pathOf reference.toList ++ '[' :: ((Text.decimal index).toList ++ [']']) := by
      rw [toList_indexed]
      refine pathOf_append named plain fun last member => ?_
      rw [← List.cons_append, ← List.append_assoc, List.getLast?_concat] at member
      obtain rfl := Option.some.inj member
      decide
    have apart : '.' ∉ '[' :: ((Text.decimal index).toList ++ [']']) := by
      have digits : '.' ∉ (Text.decimal index).toList := by
        intro member
        have digit : '.'.isDigit = true := Text.isDigit_of_mem_decimal member
        contradiction
      simp [digits]
    rw [resolve, path, if_neg (by simp), resolvePath, steps?_append read apart, brackets_decimal]
    split
    · rw [Option.map_some, Option.bind_some, follow_append, followed]
      simp [follow, Step.apply]
    · rfl

/-- Where a reference that does not end in a blank names an array, a repeater over it makes as many
copies as the array has items, and the reference with an index behind it names the item at that
index, and nothing behind the last item. Indices are machine words, as the lengths of arrays are. -/
theorem resolve_indexed {data : Json} {reference : String} {items : List Json}
    (plain : ∀ last ∈ reference.toList.getLast?, Text.isBlank last = false)
    (names : resolve data reference.toList = some (.array items)) :
    itemCount (some data) reference = items.length ∧
      (∀ index (inside : index < items.length), index < Text.wordLimit →
        resolve data (indexed reference index).toList = some items[index]) ∧
      ∀ index, items.length ≤ index → resolve data (indexed reference index).toList = none := by
  refine ⟨by rw [itemCount, Option.bind_some, names], fun index inside word => ?_,
    fun index behind => ?_⟩
  · rw [resolve_toList_indexed plain names, if_pos word, List.getElem?_eq_getElem inside]
  · rw [resolve_toList_indexed plain names, List.getElem?_eq_none behind, ite_self]

/-- A table of one row with two cells. -/
def rowTable : Json :=
  .object [("rows", .array [.object [("cells", .array [.bool true, .null])]])]

/-- The cells of the first row are named by a reference with an index behind it. -/
theorem rowTable_indexed :
    (∀ last ∈ " $rows[0].cells".toList.getLast?, Text.isBlank last = false) ∧
      resolve rowTable " $rows[0].cells".toList = some (.array [.bool true, .null]) ∧
      itemCount (some rowTable) " $rows[0].cells" = 2 ∧
      (∀ index (inside : index < [Json.bool true, .null].length), index < Text.wordLimit →
        resolve rowTable (indexed " $rows[0].cells" index).toList =
          some [Json.bool true, .null][index]) ∧
      ∀ index, 2 ≤ index → resolve rowTable (indexed " $rows[0].cells" index).toList = none := by
  have plain : ∀ last ∈ " $rows[0].cells".toList.getLast?, Text.isBlank last = false := by
    intro last member
    obtain rfl : 's' = last := Option.some.inj member
    rfl
  have names : resolve rowTable " $rows[0].cells".toList = some (.array [.bool true, .null]) := rfl
  exact ⟨plain, names, resolve_indexed plain names⟩

end Reference
end Labeling
