import Labeling.Json
import Labeling.Text

/-!
# Reading JSON text

A text is one value with blanks around it. Arrays and objects nest at most 127 levels deep, an
unpaired surrogate escape is refused, of equal keys in an object the last one counts, and a number
that no double can hold is refused. Which rule a refused text breaks is not told.
-/
namespace Labeling.Json.Reader

/-- The deepest nesting of arrays and objects that is read. -/
def nestingLimit : Nat := 127

/-- The characters that may stand between tokens. -/
def isSpace (character : Char) : Bool :=
  character == ' ' || character == '\n' || character == '\t' || character == '\r'

/-- The text from the next token on. -/
def skipSpaces (text : List Char) : List Char := text.dropWhile isSpace

/-- Four hexadecimal digits at the front. -/
def hexUnit : List Char → Option (Nat × List Char)
  | first :: second :: third :: fourth :: rest =>
    (Text.readNumber 16 [first, second, third, fourth]).map fun unit => (unit, rest)
  | _ => none

/-- The character of an escape, read behind `\u`: one unit, or a pair of surrogates. -/
def unicodeEscape (text : List Char) : Option (Char × List Char) := do
  let (unit, rest) ← hexUnit text
  if 0xDC00 ≤ unit && unit ≤ 0xDFFF then none
  else if 0xD800 ≤ unit && unit ≤ 0xDBFF then
    match rest with
    | '\\' :: 'u' :: rest =>
      let (low, rest) ← hexUnit rest
      if 0xDC00 ≤ low && low ≤ 0xDFFF then
        some (Char.ofNat (0x10000 + (unit - 0xD800) * 0x400 + (low - 0xDC00)), rest)
      else none
    | _ => none
  else some (Char.ofNat unit, rest)

/-- The character of an escape, read behind the backslash. -/
def escape : List Char → Option (Char × List Char)
  | '"' :: rest => some ('"', rest)
  | '\\' :: rest => some ('\\', rest)
  | '/' :: rest => some ('/', rest)
  | 'b' :: rest => some ('\x08', rest)
  | 'f' :: rest => some ('\x0c', rest)
  | 'n' :: rest => some ('\n', rest)
  | 'r' :: rest => some ('\r', rest)
  | 't' :: rest => some ('\t', rest)
  | 'u' :: rest => unicodeEscape rest
  | _ => none

/-- The rest of a string behind its opening quote; the characters read so far are reversed. -/
def stringBody : Nat → List Char → List Char → Option (String × List Char)
  | 0, _, _ => none
  | fuel + 1, built, text =>
    match text with
    | [] => none
    | '"' :: rest => some (String.ofList built.reverse, rest)
    | '\\' :: rest =>
      match escape rest with
      | some (character, rest) => stringBody fuel (character :: built) rest
      | none => none
    | character :: rest =>
      if character.toNat < 32 then none else stringBody fuel (character :: built) rest

/-- Digits as long as the number fits 64 bits: the number and how many were taken. -/
def leadingDigits : Nat → Nat → List Char → Nat × Nat
  | value, count, [] => (value, count)
  | value, count, digit :: rest =>
    let next := 10 * value + (digit.toNat - 48)
    if next < Text.wordLimit then leadingDigits next (count + 1) rest else (value, count)

/-- The double of a number with the given digits before and behind the point. Digits from the
first one on for which 64 bits leave no room only count for the power of ten. -/
def decimalValue (negative : Bool) (whole fraction : List Char) (exponent : Int) :
    Option FiniteDouble :=
  let (value, taken) := leadingDigits 0 0 whole
  let (digits, places) := leadingDigits value 0 fraction
  FiniteDouble.ofDecimal? negative digits (exponent + (whole.length - taken : Nat) - places)

/-- An integer that fits 64 bits stays one; a negative zero does not. -/
def wholeValue (negative : Bool) (digits : List Char) : Option Json :=
  let value := (Text.readDigits 10 0 digits).getD 0
  if !negative && value < Text.wordLimit then some (.integer value)
  else if negative && 0 < value && 2 * value ≤ Text.wordLimit then some (.integer (-value))
  else (decimalValue negative digits [] 0).map .float

/-- The digits before the point: one zero, or digits that do not begin with a zero. -/
def wholePart (text : List Char) : Option (List Char × List Char) :=
  match text with
  | '0' :: rest => if (rest.head?.map Char.isDigit).getD false then none else some (['0'], rest)
  | _ =>
    let digits := text.takeWhile Char.isDigit
    if digits.isEmpty then none else some (digits, text.dropWhile Char.isDigit)

/-- The digits behind the point, if there is a point. -/
def fractionPart (text : List Char) : Option (List Char × List Char) :=
  match text with
  | '.' :: rest =>
    let digits := rest.takeWhile Char.isDigit
    if digits.isEmpty then none else some (digits, rest.dropWhile Char.isDigit)
  | _ => some ([], text)

/-- The exponent, if there is one. -/
def exponentPart (text : List Char) : Option (Option Int × List Char) :=
  let body : Option (List Char) := match text with
    | 'e' :: rest => some rest
    | 'E' :: rest => some rest
    | _ => none
  match body with
  | none => some (none, text)
  | some body =>
    let (negative, body) := match body with
      | '+' :: rest => (false, rest)
      | '-' :: rest => (true, rest)
      | _ => (false, body)
    let digits := body.takeWhile Char.isDigit
    if digits.isEmpty then none
    else
      let value : Int := (Text.readDigits 10 0 digits).getD 0
      some (some (if negative then -value else value), body.dropWhile Char.isDigit)

/-- A number at the front. -/
def number (text : List Char) : Option (Json × List Char) := do
  let (negative, text) := match text with
    | '-' :: rest => (true, rest)
    | _ => (false, text)
  let (whole, text) ← wholePart text
  let (fraction, text) ← fractionPart text
  let (exponent, text) ← exponentPart text
  if fraction.isEmpty && exponent.isNone then
    some (← wholeValue negative whole, text)
  else
    some (.float (← decimalValue negative whole fraction (exponent.getD 0)), text)

mutual

/-- A value at the front; `depth` more levels of nesting are allowed. -/
def value : Nat → Nat → List Char → Option (Json × List Char)
  | 0, _, _ => none
  | fuel + 1, depth, text =>
    match text with
    | 'n' :: 'u' :: 'l' :: 'l' :: rest => some (.null, rest)
    | 't' :: 'r' :: 'u' :: 'e' :: rest => some (.bool true, rest)
    | 'f' :: 'a' :: 'l' :: 's' :: 'e' :: rest => some (.bool false, rest)
    | '"' :: rest =>
      match stringBody fuel [] rest with
      | some (body, rest) => some (.string body, rest)
      | none => none
    | '[' :: rest =>
      if depth = 0 then none
      else
        match skipSpaces rest with
        | ']' :: rest => some (.array [], rest)
        | rest =>
          match items fuel (depth - 1) [] rest with
          | some (items, rest) => some (.array items, rest)
          | none => none
    | '\x7b' :: rest =>
      match fields fuel depth rest with
      | some (fields, rest) => some (.record fields, rest)
      | none => none
    | _ => number text

/-- The items of an array and its closing bracket; those read so far are reversed. -/
def items : Nat → Nat → List Json → List Char → Option (List Json × List Char)
  | 0, _, _, _ => none
  | fuel + 1, depth, built, text =>
    match value fuel depth (skipSpaces text) with
    | none => none
    | some (item, rest) =>
      match skipSpaces rest with
      | ',' :: rest => items fuel depth (item :: built) rest
      | ']' :: rest => some ((item :: built).reverse, rest)
      | _ => none

/-- The fields of an object in the order of the text, behind its opening brace. -/
def fields : Nat → Nat → List Char → Option (List (String × Json) × List Char)
  | 0, _, _ => none
  | fuel + 1, depth, text =>
    if depth = 0 then none
    else
      match skipSpaces text with
      | '\x7d' :: rest => some ([], rest)
      | rest => moreFields fuel (depth - 1) [] rest

/-- At least one field and the closing brace; those read so far are reversed. -/
def moreFields : Nat → Nat → List (String × Json) → List Char →
    Option (List (String × Json) × List Char)
  | 0, _, _, _ => none
  | fuel + 1, depth, built, text =>
    match skipSpaces text with
    | '"' :: rest =>
      match stringBody fuel [] rest with
      | none => none
      | some (key, rest) =>
        match skipSpaces rest with
        | ':' :: rest =>
          match value fuel depth (skipSpaces rest) with
          | none => none
          | some (content, rest) =>
            match skipSpaces rest with
            | ',' :: rest => moreFields fuel depth ((key, content) :: built) rest
            | '\x7d' :: rest => some (((key, content) :: built).reverse, rest)
            | _ => none
        | _ => none
    | _ => none

end

/-- More steps than reading the text can take: every step takes a character or two. -/
def fuelFor (text : List Char) : Nat := 2 * text.length + 4

end Reader

/-- The value that the text writes. -/
def read? (text : String) : Option Json :=
  let characters := text.toList
  match Reader.value (Reader.fuelFor characters) Reader.nestingLimit
      (Reader.skipSpaces characters) with
  | some (value, rest) => if (Reader.skipSpaces rest).isEmpty then some value else none
  | none => none

end Labeling.Json
