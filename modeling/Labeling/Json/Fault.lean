import Labeling.Double.Shortest
import Labeling.Json
import Labeling.Text.Quoted

/-!
# Faults of typed values

What can be wrong with a JSON value where a value of some type is wanted, and readers of the simple
types. A fault tells what was found and what was expected.
-/
namespace Labeling.Json

/-- Why a value is not of the wanted type. -/
inductive Fault where
  /-- A value of another type. -/
  | wrongType (found : Json) (expected : String)
  /-- An object with no field or with several where one names the choice. -/
  | notSingleKey
  /-- A field is missing. -/
  | missingField (name : String)
  /-- A word that is none of the choices. -/
  | unknownChoice (found : String) (choices : List String)

/-- A value in a message. -/
def found : Json → String
  | .null => "null"
  | .bool value => if value then "boolean `true`" else "boolean `false`"
  | .integer value => "integer `" ++ toString value ++ "`"
  | .float value => "floating point `" ++ value.text ++ "`"
  | .string value => "string " ++ Text.inQuotes value
  | .array _ => "sequence"
  | .object _ => "map"

/-- The fault in words. -/
def Fault.message : Fault → String
  | .wrongType value expected => "invalid type: " ++ value.found ++ ", expected " ++ expected
  | .notSingleKey => "invalid value: map, expected map with a single key"
  | .missingField name => "missing field `" ++ name ++ "`"
  | .unknownChoice name choices =>
    "unknown variant `" ++ name ++ "`, expected one of "
      ++ String.intercalate ", " (choices.map fun choice => "`" ++ choice ++ "`")

/-- A text. -/
def readText : Json → Except Fault String
  | .string value => .ok value
  | other => .error (.wrongType other "a string")

/-- A truth value. -/
def readBool : Json → Except Fault Bool
  | .bool value => .ok value
  | other => .error (.wrongType other "a boolean")

/-- A number as a double. -/
def readDouble : Json → Except Fault Double
  | .integer value => .ok (.ofInt value)
  | .float value => .ok value.toDouble
  | other => .error (.wrongType other "f64")

/-- The fields of an object. -/
def readFields : Json → Except Fault (List (String × Json))
  | .object fields => .ok fields
  | other => .error (.wrongType other "a map")

/-- A list of texts. -/
def readTexts : Json → Except Fault (List String)
  | .array items => items.mapM readText
  | other => .error (.wrongType other "a sequence")

/-- A value that may be null instead. -/
def readOptional {α : Type} (read : Json → Except Fault α) : Json → Except Fault (Option α)
  | .null => .ok none
  | value => (read value).map some

/-- One of some words, each with its value: as a text, or as an object with the word as the only
key and null as its value. -/
def readChoice {α : Type} (choices : List (String × α)) (value : Json) : Except Fault α :=
  let choose (name : String) : Except Fault α :=
    match choices.lookup name with
    | some choice => .ok choice
    | none => .error (.unknownChoice name (choices.map (·.1)))
  match value with
  | .string name => choose name
  | .object [(name, content)] => do
    let choice ← choose name
    match content with
    | .null => .ok choice
    | other => .error (.wrongType other "unit")
  | .object _ => .error .notSingleKey
  | other => .error (.wrongType other "string or map")

end Labeling.Json
