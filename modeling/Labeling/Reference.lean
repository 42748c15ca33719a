import Labeling.Json
import Labeling.Text

/-!
# References into task data

A reference such as `$items[0].text` names a place in the task data. Its path is a list of steps:
a field by its key or an item by its index. A segment of digits behind the first one is an index,
and an index at an object is the field of that number.
-/
namespace Labeling.Reference

/-- One step of a path. -/
inductive Step where
  /-- The field of an object. -/
  | key (name : String)
  /-- The item of an array, or the field of an object whose key is the number. -/
  | index (position : Nat)
deriving DecidableEq, Repr

/-- The value that one step reaches. -/
def Step.apply (value : Json) : Step → Option Json
  | .key name => value.field? name
  | .index position =>
    match value with
    | .array items => items[position]?
    | .object fields => Entries.get? (Text.decimal position) fields
    | _ => none

/-- The value at the end of a path. -/
def follow (value : Json) : List Step → Option Json
  | [] => some value
  | step :: steps => (step.apply value).bind (follow · steps)

/-- Following two paths in a row is following the joined path. -/
theorem follow_append (value : Json) (front back : List Step) :
    follow value (front ++ back) = (follow value front).bind (follow · back) := by
  induction front generalizing value with
  | nil => rfl
  | cons step steps hypothesis =>
    simp only [List.cons_append, follow]
    cases step.apply value with
    | none => rfl
    | some reached => exact hypothesis reached

/-- Indices in brackets, one behind the other. The open bracket's characters are reversed. -/
def brackets : Option (List Char) → List Char → Option (List Step)
  | none, [] => some []
  | some _, [] => none
  | none, first :: rest => if first = '[' then brackets (some []) rest else none
  | some inner, first :: rest =>
    if first = ']' then
      match Text.readIndex (Text.trim inner.reverse) with
      | some position => (brackets none rest).map (.index position :: ·)
      | none => none
    else brackets (some (first :: inner)) rest

/-- The step of the part of a segment before its brackets. A number that is not the first segment
is an index. -/
def keyStep (isFirst : Bool) (key : List Char) : List Step :=
  if key.isEmpty then []
  else
    match Text.readIndex key with
    | some position => if isFirst then [.key (String.ofList key)] else [.index position]
    | none => [.key (String.ofList key)]

/-- The steps of one segment; an empty segment has none. -/
def segmentSteps (isFirst : Bool) (segment : List Char) : Option (List Step) :=
  if segment.isEmpty then none
  else
    let (key, rest) := Text.cutAt (· == '[') segment
    (brackets none rest).map (keyStep isFirst key ++ ·)

/-- The steps of the segments of a path. -/
def stepsOfSegments (isFirst : Bool) : List (List Char) → Option (List Step)
  | [] => some []
  | segment :: segments => do
    let steps ← segmentSteps isFirst segment
    let rest ← stepsOfSegments false segments
    some (steps ++ rest)

/-- The steps of a dotted path, if it is well formed. -/
def steps? (path : List Char) : Option (List Step) := stepsOfSegments true (Text.pieces '.' path)

/-- The value at a dotted path. -/
def resolvePath (data : Json) (path : List Char) : Option Json :=
  (steps? path).bind (follow data)

/-- The path that a reference writes: without blanks around it and without one dollar sign. -/
def pathOf (reference : List Char) : List Char :=
  match Text.trim reference with
  | '$' :: rest => rest
  | path => path

/-- The value that a reference names; an empty path names none. -/
def resolve (data : Json) (reference : List Char) : Option Json :=
  let path := pathOf reference
  if path.isEmpty then none else resolvePath data path

/-- How often a repeater over this reference repeats: the number of items of the array that it
names, and not at all without task data or without an array. -/
def itemCount (data : Option Json) (reference : String) : Nat :=
  match data.bind (resolve · reference.toList) with
  | some (.array items) => items.length
  | _ => 0

end Labeling.Reference
