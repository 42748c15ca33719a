import Labeling.Double
import Labeling.Entries

/-!
# JSON values

Task data, result payloads and geometry are JSON values. A number is an integer or a finite double
and the two never mix: `1` and `1.0` are different values. An object is the list of its fields; the
objects that this library builds have their fields in key order, each key once (`Json.record`).
-/
namespace Labeling

/-- A JSON value. -/
inductive Json where
  /-- The null value. -/
  | null
  /-- A truth value. -/
  | bool (value : Bool)
  /-- A number written without fraction and exponent that fits 64 bits. -/
  | integer (value : Int)
  /-- Any other number. -/
  | float (value : FiniteDouble)
  /-- A text. -/
  | string (value : String)
  /-- A list of values. -/
  | array (items : List Json)
  /-- Fields in key order. -/
  | object (fields : List (String × Json))
deriving Inhabited

namespace Json

mutual

/-- Equality of values; the two zeros among the doubles are equal. -/
def same : Json → Json → Bool
  | .null, .null => true
  | .bool left, .bool right => left == right
  | .integer left, .integer right => left == right
  | .float left, .float right => left == right
  | .string left, .string right => left == right
  | .array left, .array right => sameItems left right
  | .object left, .object right => sameFields left right
  | _, _ => false

/-- Equality of lists of values, item by item. -/
def sameItems : List Json → List Json → Bool
  | [], [] => true
  | left :: lefts, right :: rights => same left right && sameItems lefts rights
  | _, _ => false

/-- Equality of lists of fields, field by field. -/
def sameFields : List (String × Json) → List (String × Json) → Bool
  | [], [] => true
  | (key, left) :: lefts, (other, right) :: rights =>
    key == other && same left right && sameFields lefts rights
  | _, _ => false

end

instance : BEq Json := ⟨same⟩

mutual

/-- The objects inside have their keys in increasing order. -/
def Ordered : Json → Prop
  | .array items => OrderedItems items
  | .object fields => Entries.Sorted fields ∧ OrderedFields fields
  | _ => True

/-- Every item of the list is ordered. -/
def OrderedItems : List Json → Prop
  | [] => True
  | item :: items => Ordered item ∧ OrderedItems items

/-- Every value of the fields is ordered. -/
def OrderedFields : List (String × Json) → Prop
  | [] => True
  | (_, value) :: fields => Ordered value ∧ OrderedFields fields

end

/-- The object of some fields: in key order, of equal keys the last one. -/
def record (fields : List (String × Json)) : Json := .object (Entries.ofList fields)

/-- The value of a field of an object. -/
def field? (key : String) : Json → Option Json
  | .object fields => Entries.get? key fields
  | _ => none

/-- The item of an array at an index. -/
def item? (index : Nat) : Json → Option Json
  | .array items => items[index]?
  | _ => none

/-- The text of a string. -/
def text? : Json → Option String
  | .string value => some value
  | _ => none

/-- The items of an array. -/
def items? : Json → Option (List Json)
  | .array items => some items
  | _ => none

/-- The fields of an object. -/
def fields? : Json → Option (Entries String Json)
  | .object fields => some fields
  | _ => none

/-- The truth value of a truth value. -/
def bool? : Json → Option Bool
  | .bool value => some value
  | _ => none

/-- The value of an integer from zero on. -/
def natural? : Json → Option Nat
  | .integer value => if 0 ≤ value then some value.toNat else none
  | _ => none

/-- Any number as a finite double. -/
def finite? : Json → Option FiniteDouble
  | .integer value => some (.ofInt value)
  | .float value => some value
  | _ => none

/-- Any number as a double. -/
def double? (value : Json) : Option Double := value.finite?.map FiniteDouble.toDouble

/-- A double as a value: a number if it is finite, else null. -/
def double (value : Double) : Json :=
  match value.finite? with
  | some finite => .float finite
  | none => .null

/-- A finite double is a number. -/
theorem double_toDouble (value : FiniteDouble) : double value.toDouble = .float value := by
  rw [double, Double.finite?, dif_pos value.finite]

/-- Only a finite double is read from a value. -/
theorem exists_of_double? {content : Json} {value : Double} (read : content.double? = some value) :
    ∃ finite, content.finite? = some finite ∧ value = finite.toDouble := by
  obtain ⟨finite, found, same⟩ := Option.map_eq_some_iff.mp read
  exact ⟨finite, found, same.symm⟩

/-- Whether the value is null. -/
def isNull : Json → Bool
  | .null => true
  | _ => false

/-- The value of an optional one; an absent value is null. -/
def ofOption : Option Json → Json
  | some value => value
  | none => .null

end Json
end Labeling
