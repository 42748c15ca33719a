import Labeling.Config.Expansion
import Labeling.Failure
import Labeling.Json.Skipping
import Labeling.Yaml

/-!
# Settings of a session

What a host may choose about a session. Settings are read from JSON or YAML; every setting may be
left out, unknown ones are passed over, and none may be given twice.
-/
namespace Labeling

/-- The settings of a session. -/
structure Settings where
  /-- Select a region right after it is created. -/
  selectAfterCreate : Bool := false
  /-- The least time between two autosaves, in milliseconds. -/
  autosaveDelay : Nat := 5000
  /-- The most undo states to keep. -/
  historyLimit : Option Nat := none
  /-- The placeholder of repeaters that name none. -/
  repeaterIndexFlag : String := defaultIndexFlag
  /-- Write results of classifications with empty payloads. -/
  keepEmptyResults : Bool := false
deriving DecidableEq, Repr

namespace Settings

/-- How the values of settings are read from a format. -/
structure Reader (ν : Type) where
  /-- A truth value. -/
  truth : ν → Option Bool
  /-- A count of 64 bits. -/
  count : ν → Option Nat
  /-- A count of 64 bits, or nothing. -/
  optionalCount : ν → Option (Option Nat)
  /-- A text. -/
  text : ν → Option String

/-- The names of the settings, in order. -/
def names : List String :=
  ["select_after_create", "autosave_delay_ms", "history_limit", "repeater_index_flag",
    "keep_empty_results"]

/-- The settings with one of them read; an unknown one is passed over. -/
def readSetting {ν : Type} (reader : Reader ν) (settings : Settings) (name : String)
    (value : ν) : Option Settings :=
  match name with
  | "select_after_create" =>
    (reader.truth value).map ({ settings with selectAfterCreate := · })
  | "autosave_delay_ms" => (reader.count value).map ({ settings with autosaveDelay := · })
  | "history_limit" => (reader.optionalCount value).map ({ settings with historyLimit := · })
  | "repeater_index_flag" =>
    (reader.text value).map ({ settings with repeaterIndexFlag := · })
  | "keep_empty_results" => (reader.truth value).map ({ settings with keepEmptyResults := · })
  | _ => some settings

/-- The settings with several of them read. -/
def readAll {ν : Type} (reader : Reader ν) : Settings → List (String × ν) → Option Settings
  | settings, [] => some settings
  | settings, (name, value) :: rest => do
    if names.contains name && rest.any (·.1 == name) then none
    else readAll reader (← readSetting reader settings name value) rest

/-- Values as JSON. -/
def jsonReader : Reader Json where
  truth := Json.bool?
  count := fun value => value.natural?
  optionalCount := fun value =>
    match value with
    | .null => some none
    | value => value.natural?.map some
  text := Json.text?

/-- The settings that an object gives, or a list of settings in order. -/
def ofJson? : Json → Option Settings
  | .object fields => readAll jsonReader {} fields
  | .array items =>
    if names.length < items.length then none else readAll jsonReader {} (names.zip items)
  | _ => none

/-- The settings that a JSON text gives. The values of unknown settings are not read. -/
def ofJsonText? (text : String) : Option Settings :=
  match Json.readFields? names.contains text with
  | some fields => readAll jsonReader {} fields
  | none => (Json.read? text).bind ofJson?

/-- A count as a plain scalar: decimal without leading zeros, or with the mark of another base. -/
def readPlainCount (text : List Char) : Option Nat :=
  let unsigned := match text with
    | '+' :: rest => rest
    | _ => text
  let value := match unsigned with
    | '0' :: 'x' :: digits => Text.readNumber 16 digits
    | '0' :: 'o' :: digits => Text.readNumber 8 digits
    | '0' :: 'b' :: digits => Text.readNumber 2 digits
    | '0' :: _ :: _ => none
    | _ => Text.readDecimal unsigned
  value.filter (· < Text.wordLimit)

/-- Whether a scalar may stand for more than text: a plain one may, whatever its tag, and a literal
block whose tag says so. -/
def isOpenTo (kind : String) (scalar : Yaml.Scalar) : Bool :=
  match scalar.style with
  | .plain => true
  | .literal => scalar.tag == some ("tag:yaml.org,2002:" ++ kind)
  | _ => false

/-- A truth value as a scalar. -/
def readTruth (scalar : Yaml.Scalar) : Option Bool :=
  if !isOpenTo "bool" scalar then none
  else if ["true", "True", "TRUE"].contains scalar.text then some true
  else if ["false", "False", "FALSE"].contains scalar.text then some false
  else none

/-- A count as a scalar. -/
def readCount (scalar : Yaml.Scalar) : Option Nat :=
  if isOpenTo "int" scalar then readPlainCount scalar.text.toList else none

/-- Whether a scalar stands for nothing. With the tag of nothing it has to be one of its words, and
with any other tag it is something. -/
def readAbsence (scalar : Yaml.Scalar) : Option Bool :=
  let isWord := ["~", "null", "Null", "NULL"].contains scalar.text
  match scalar.style, scalar.tag with
  | .plain, none => some (isWord || scalar.text == "")
  | .plain, some "tag:yaml.org,2002:null" => if isWord then some true else none
  | _, _ => some false

/-- Values as the scalars that nodes are or stand for; no other node is a setting. -/
def yamlReader : Reader (Option Yaml.Scalar) where
  truth := (·.bind readTruth)
  count := (·.bind readCount)
  optionalCount := (·.bind fun scalar => do
    if ← readAbsence scalar then some none else (readCount scalar).map some)
  text := (·.map (·.text))

/-- The settings that a YAML text gives; an empty document gives none. -/
def ofYamlText? (text : String) : Option Settings := do
  let document ← Yaml.read? text
  match document.root with
  | none => some {}
  | some (.scalar content) =>
    if content.text == "" && content.style == .plain then some {} else none
  | some (.mapping entries) => do
    let fields ← entries.mapM fun entry =>
      (document.scalar? entry.1).map fun name => (name.text, document.scalar? entry.2)
    readAll yamlReader {} fields
  | _ => none

/-- The extension of a path, in lower case: what stands behind the last dot of its last part,
unless that dot begins the part. -/
def extension? (path : String) : Option String :=
  let name := (path.toList.reverse.takeWhile (· != '/')).reverse
  let ending := (name.reverse.takeWhile (· != '.')).reverse
  if ending.length + 1 < name.length then some (Text.lowered (String.ofList ending)) else none

/-- The settings of a file with a path and a text. -/
def ofFile (path text : String) : Except Failure Settings :=
  let parsed? : Except Failure (Option Settings) :=
    match extension? path with
    | some "json" => .ok (ofJsonText? text)
    | some "yaml" => .ok (ofYamlText? text)
    | some "yml" => .ok (ofYamlText? text)
    | _ => .error (.unknownFormat path)
  match parsed? with
  | .error failure => .error failure
  | .ok (some settings) => .ok settings
  | .ok none => .error (.malformedSettings path)

/-- The settings as a record. -/
def toJson (settings : Settings) : Json :=
  .record [("select_after_create", .bool settings.selectAfterCreate),
    ("autosave_delay_ms", .integer settings.autosaveDelay),
    ("history_limit", Json.ofOption (settings.historyLimit.map fun limit => .integer limit)),
    ("repeater_index_flag", .string settings.repeaterIndexFlag),
    ("keep_empty_results", .bool settings.keepEmptyResults)]

end Settings
end Labeling
