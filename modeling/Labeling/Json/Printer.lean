import Labeling.Double.Shortest
import Labeling.Json
import Labeling.Text

/-!
# Printing JSON text

Two layouts of one value: compact, without any blank, and indented by two spaces a level. Fields
are printed in the order of their list. Only quotes, backslashes and control characters are
escaped in a string.
-/
namespace Labeling.Json

/-- The lower-case hexadecimal digit of a number below sixteen. -/
def hexDigit (value : Nat) : Char := Nat.digitChar value

/-- A character as it stands in a string. -/
def escaped (character : Char) : List Char :=
  match character with
  | '"' => ['\\', '"']
  | '\\' => ['\\', '\\']
  | '\n' => ['\\', 'n']
  | '\r' => ['\\', 'r']
  | '\t' => ['\\', 't']
  | _ =>
    let code := character.toNat
    if code == 8 then ['\\', 'b']
    else if code == 12 then ['\\', 'f']
    else if code < 32 then ['\\', 'u', '0', '0', hexDigit (code / 16), hexDigit (code % 16)]
    else [character]

/-- The string in quotes. -/
def quoted (text : String) : String := "\"" ++ String.ofList (text.toList.flatMap escaped) ++ "\""

mutual

/-- The value without blanks. -/
def compact : Json → String
  | .null => "null"
  | .bool value => if value then "true" else "false"
  | .integer value => toString value
  | .float value => value.text
  | .string value => quoted value
  | .array items => "[" ++ compactItems items ++ "]"
  | .object fields => "\x7b" ++ compactFields fields ++ "\x7d"

/-- The items with commas between them. -/
def compactItems : List Json → String
  | [] => ""
  | [item] => compact item
  | item :: items => compact item ++ "," ++ compactItems items

/-- The fields with commas between them. -/
def compactFields : List (String × Json) → String
  | [] => ""
  | [(key, value)] => quoted key ++ ":" ++ compact value
  | (key, value) :: fields => quoted key ++ ":" ++ compact value ++ "," ++ compactFields fields

end

/-- The start of a line at a level of nesting. -/
def newLine (level : Nat) : String := "\n" ++ String.ofList (List.replicate (2 * level) ' ')

mutual

/-- The value over several lines, at a level of nesting. -/
def indented (level : Nat) : Json → String
  | .array [] => "[]"
  | .array (item :: items) =>
    "[" ++ newLine (level + 1) ++ indented (level + 1) item
      ++ indentedItems (level + 1) items ++ newLine level ++ "]"
  | .object [] => "\x7b\x7d"
  | .object ((key, value) :: fields) =>
    "\x7b" ++ newLine (level + 1) ++ quoted key ++ ": " ++ indented (level + 1) value
      ++ indentedFields (level + 1) fields ++ newLine level ++ "\x7d"
  | value => compact value

/-- Further items, each on a line of its own. -/
def indentedItems (level : Nat) : List Json → String
  | [] => ""
  | item :: items => "," ++ newLine level ++ indented level item ++ indentedItems level items

/-- Further fields, each on a line of its own. -/
def indentedFields (level : Nat) : List (String × Json) → String
  | [] => ""
  | (key, value) :: fields =>
    "," ++ newLine level ++ quoted key ++ ": " ++ indented level value
      ++ indentedFields level fields

end

/-- The value over several lines. -/
def pretty (value : Json) : String := indented 0 value

end Labeling.Json
