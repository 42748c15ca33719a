import Labeling.Json.Reader

/-!
# Passing over JSON values

A value that nobody asked for is passed over without being read: only its syntax counts, so that it
may nest as deep as it likes, its numbers may be too large for a double, and its escapes need not
make a character. The fields of an object can be read in this way by those that know their names.
-/
namespace Labeling.Json.Reader

/-- The text behind a string, from behind its opening quote on. -/
def skipString : List Char → Option (List Char)
  | [] => none
  | '"' :: rest => some rest
  | '\\' :: 'u' :: first :: second :: third :: fourth :: rest =>
    if [first, second, third, fourth].all (Text.isDigit 16) then skipString rest else none
  | '\\' :: letter :: rest =>
    if "\"\\/bfnrt".toList.contains letter then skipString rest else none
  | character :: rest => if character.toNat < 32 then none else skipString rest

/-- The text behind a number. -/
def skipNumber (text : List Char) : Option (List Char) := do
  let unsigned := match text with
    | '-' :: rest => rest
    | _ => text
  let (_, rest) ← wholePart unsigned
  let (_, rest) ← fractionPart rest
  let (_, rest) ← exponentPart rest
  some rest

/-- The text behind a value that has no parts. -/
def skipScalar : List Char → Option (List Char)
  | 'n' :: 'u' :: 'l' :: 'l' :: rest => some rest
  | 't' :: 'r' :: 'u' :: 'e' :: rest => some rest
  | 'f' :: 'a' :: 'l' :: 's' :: 'e' :: rest => some rest
  | '"' :: rest => skipString rest
  | text => skipNumber text

/-- What a value can be inside of. -/
inductive Container where
  /-- An array. -/
  | array
  /-- An object. -/
  | object
deriving DecidableEq, Repr

mutual

/-- The text behind the outermost container, or behind a value that is in none; the innermost
container comes first. -/
def skipValue : Nat → List Container → List Char → Option (List Char)
  | 0, _, _ => none
  | fuel + 1, around, text =>
    match skipSpaces text with
    | '[' :: rest =>
      match skipSpaces rest with
      | ']' :: rest => skipBehind fuel around rest
      | rest => skipValue fuel (.array :: around) rest
    | '\x7b' :: rest =>
      match skipSpaces rest with
      | '\x7d' :: rest => skipBehind fuel around rest
      | rest => skipField fuel around rest
    | rest =>
      match skipScalar rest with
      | some rest => skipBehind fuel around rest
      | none => none

/-- The text behind the outermost container, from behind one of its values on. -/
def skipBehind : Nat → List Container → List Char → Option (List Char)
  | 0, _, _ => none
  | _ + 1, [], text => some text
  | fuel + 1, .array :: around, text =>
    match skipSpaces text with
    | ',' :: rest => skipValue fuel (.array :: around) rest
    | ']' :: rest => skipBehind fuel around rest
    | _ => none
  | fuel + 1, .object :: around, text =>
    match skipSpaces text with
    | ',' :: rest => skipField fuel around rest
    | '\x7d' :: rest => skipBehind fuel around rest
    | _ => none

/-- The text behind the outermost container, from a field of an object inside of it on. -/
def skipField : Nat → List Container → List Char → Option (List Char)
  | 0, _, _ => none
  | fuel + 1, around, text =>
    match skipSpaces text with
    | '"' :: rest =>
      match (skipString rest).map skipSpaces with
      | some (':' :: rest) => skipValue fuel (.object :: around) rest
      | _ => none
    | _ => none

end

/-- A value, or none if it is passed over, and the text behind it. -/
def wantedValue (isWanted : Bool) (fuel : Nat) (text : List Char) :
    Option (Option Json × List Char) :=
  if isWanted then
    (value fuel (nestingLimit - 1) (skipSpaces text)).map fun found => (some found.1, found.2)
  else (skipValue fuel [] text).map fun rest => (none, rest)

/-- The wanted fields of an object in the order of the text, from one of its fields on; those read
so far are reversed. -/
def wantedFields (isWanted : String → Bool) :
    Nat → List (String × Json) → List Char → Option (List (String × Json) × List Char)
  | 0, _, _ => none
  | fuel + 1, built, text => do
    let (key, rest) ← match skipSpaces text with
      | '"' :: rest => stringBody fuel [] rest
      | _ => none
    let (content, rest) ← match skipSpaces rest with
      | ':' :: rest => wantedValue (isWanted key) fuel rest
      | _ => none
    let built := (content.toList.map fun content => (key, content)) ++ built
    match skipSpaces rest with
    | ',' :: rest => wantedFields isWanted fuel built rest
    | '\x7d' :: rest => some (built.reverse, rest)
    | _ => none

end Reader

/-- The wanted fields of the one object that the text writes, in its order and with repeated
keys. -/
def readFields? (isWanted : String → Bool) (text : String) : Option (List (String × Json)) :=
  let characters := text.toList
  let found := match Reader.skipSpaces characters with
    | '\x7b' :: rest =>
      match Reader.skipSpaces rest with
      | '\x7d' :: rest => some ([], rest)
      | rest => Reader.wantedFields isWanted (Reader.fuelFor characters) [] rest
    | _ => none
  match found with
  | some (fields, rest) => if (Reader.skipSpaces rest).isEmpty then some fields else none
  | none => none

end Labeling.Json
