import Labeling.Text

/-!
# Tokens of markup

The character classes of names and of character data, names with an optional namespace prefix,
character references, and the two ways white space is normalised: line ends in character data
become line feeds, and each blank of an attribute value becomes a space. A reader takes its token
from the front of the text and returns the text behind it; a malformed token has none.
-/
namespace Labeling.Markup

/-- The blanks between tokens. -/
def isSpace (character : Char) : Bool :=
  character == ' ' || character == '\t' || character == '\n' || character == '\r'

/-- The text from the next token on. -/
def skipSpaces (text : List Char) : List Char := text.dropWhile isSpace

/-- The characters that a document may hold. -/
def isDocumentChar (character : Char) : Bool :=
  let code := character.toNat
  if code < 32 then isSpace character else code != 0xFFFE && code != 0xFFFF

/-- The ranges of characters beyond ASCII that may begin a name. -/
def nameStartRanges : List (Nat × Nat) :=
  [(0xC0, 0xD6), (0xD8, 0xF6), (0xF8, 0x2FF), (0x370, 0x37D), (0x37F, 0x1FFF), (0x200C, 0x200D),
    (0x2070, 0x218F), (0x2C00, 0x2FEF), (0x3001, 0xD7FF), (0xF900, 0xFDCF), (0xFDF0, 0xFFFD),
    (0x10000, 0xEFFFF)]

/-- The ranges of characters beyond ASCII that may stand in a name but not begin it. -/
def nameRestRanges : List (Nat × Nat) := [(0xB7, 0xB7), (0x300, 0x36F), (0x203F, 0x2040)]

/-- Whether a character code lies in one of the ranges. -/
def inRanges (ranges : List (Nat × Nat)) (code : Nat) : Bool :=
  ranges.any fun range => range.1 ≤ code && code ≤ range.2

/-- The characters that may begin a name. -/
def isNameStart (character : Char) : Bool :=
  character.isAlpha || character == ':' || character == '_' ||
    inRanges nameStartRanges character.toNat

/-- The characters of a name. -/
def isNameChar (character : Char) : Bool :=
  isNameStart character || character.isDigit || character == '-' || character == '.' ||
    inRanges nameRestRanges character.toNat

/-- A name in a namespace: its prefix, which may be empty, and its local part. -/
structure QualifiedName where
  /-- The text before the colon. -/
  space : String
  /-- The text behind the colon, or the whole name. -/
  localPart : String
deriving DecidableEq, Repr

/-- A qualified name at the front: at most one colon, and a name start after it and at the
beginning. -/
def qualifiedName (text : List Char) : Option (QualifiedName × List Char) :=
  let written := text.takeWhile isNameChar
  let rest := text.dropWhile isNameChar
  let startsWell (part : List Char) : Bool := (part.head?.map isNameStart).getD false
  match Text.pieces ':' written with
  | [whole] => if startsWell whole then some (⟨"", String.ofList whole⟩, rest) else none
  | [space, whole] =>
    if (space.isEmpty || startsWell space) && startsWell whole then
      some (⟨String.ofList space, String.ofList whole⟩, rest)
    else none
  | _ => none

/-- The text behind an expected word. -/
def afterWord (word : String) (text : List Char) : Option (List Char) :=
  if word.toList.isPrefixOf text then some (text.drop word.length) else none

/-- The text up to the mark and the text behind the mark. -/
def until? (mark : List Char) : List Char → Option (List Char × List Char)
  | [] => none
  | first :: rest =>
    if mark.isPrefixOf (first :: rest) then some ([], (first :: rest).drop mark.length)
    else if isDocumentChar first then
      (until? mark rest).map fun (before, behind) => (first :: before, behind)
    else none

/-- The character of a number in a character reference. A number that is no character stands for
the replacement character. -/
def characterOfCode (code : Nat) : Option Char :=
  if 4294967296 ≤ code then none
  else
    let valid := code < 0xD800 || (0xDFFF < code && code < 0x110000)
    let character := if valid then Char.ofNat code else '\uFFFD'
    if isDocumentChar character then some character else none

/-- The characters with a name of their own in references. -/
def namedCharacters : List (String × Char) :=
  [("quot", '"'), ("amp", '&'), ("apos", '\''), ("lt", '<'), ("gt", '>')]

/-- A character reference, read behind its ampersand. -/
def characterReference (text : List Char) : Option (Char × List Char) :=
  let closed (character : Option Char) (rest : List Char) : Option (Char × List Char) :=
    match character, rest with
    | some character, ';' :: rest => some (character, rest)
    | _, _ => none
  match text with
  | '#' :: 'x' :: rest =>
    let digits := rest.takeWhile (Text.isDigit 16)
    closed ((Text.readNumber 16 digits).bind characterOfCode) (rest.dropWhile (Text.isDigit 16))
  | '#' :: rest =>
    let digits := rest.takeWhile Char.isDigit
    closed ((Text.readDecimal digits).bind characterOfCode) (rest.dropWhile Char.isDigit)
  | _ =>
    let name := String.ofList (text.takeWhile isNameChar)
    closed (namedCharacters.lookup name) (text.dropWhile isNameChar)

/-- Add a character of the document to character data kept in reverse: a carriage return, with or
without a line feed behind it, becomes one line feed. -/
def addNormalised (built : List Char) (character : Char) (isLast : Bool) : List Char :=
  let built' := match built with
    | '\r' :: older => '\n' :: older
    | _ => built
  let closesLine := match built with
    | '\r' :: _ => character == '\n'
    | _ => false
  if isLast && character == '\r' then '\n' :: built'
  else if closesLine then built'
  else character :: built'

/-- The characters that character data stands for. A referenced character stays as it is, and so
does the character behind it. -/
def dataCharacters : Nat → Bool → List Char → List Char → Option (List Char)
  | 0, _, _, _ => none
  | fuel + 1, behindReference, built, text =>
    match text with
    | [] => some built.reverse
    | '&' :: rest =>
      match characterReference rest with
      | some (character, rest) => dataCharacters fuel true (character :: built) rest
      | none => none
    | character :: rest =>
      let next := if behindReference then character :: built
        else addNormalised built character rest.isEmpty
      dataCharacters fuel false next rest

/-- The characters of character data outside of marked sections. -/
def characterData (text : List Char) : Option (List Char) :=
  dataCharacters (text.length + 1) false [] text

/-- The characters of a marked section, which holds no references. -/
def sectionData (text : List Char) : List Char :=
  let rec go (built : List Char) : List Char → List Char
    | [] => built.reverse
    | character :: rest => go (addNormalised built character rest.isEmpty) rest
  go [] text

/-- The characters that an attribute value stands for, added to those read so far in reverse. -/
def valueCharacters : Nat → List Char → List Char → Option (List Char)
  | 0, _, _ => none
  | fuel + 1, built, text =>
    match text with
    | [] => some built.reverse
    | '&' :: rest =>
      match characterReference rest with
      | some (character, rest) => valueCharacters fuel (character :: built) rest
      | none => none
    | '\r' :: '\n' :: rest => valueCharacters fuel built ('\n' :: rest)
    | character :: rest =>
      valueCharacters fuel ((if isSpace character then ' ' else character) :: built) rest

/-- The characters that an attribute value stands for. -/
def attributeValue (text : List Char) : Option (List Char) :=
  valueCharacters (text.length + 1) [] text

/-- A name, an equals sign and a quoted value, which holds no opening bracket. The value is
returned as written. -/
def writtenAttribute (text : List Char) : Option (QualifiedName × List Char × List Char) := do
  let (name, text) ← qualifiedName text
  let text ← afterWord "=" (skipSpaces text)
  match skipSpaces text with
  | quote :: text =>
    if quote == '"' || quote == '\'' then
      let (value, rest) ← until? [quote] text
      if value.contains '<' then none else some (name, value, rest)
    else none
  | [] => none

/-- A comment, read behind its opening mark: no two hyphens in it and none at its end. -/
def comment (text : List Char) : Option (List Char) := do
  let (body, rest) ← until? ['-', '-', '>'] text
  if Text.occursIn ['-', '-'] body || body.getLast? == some '-' then none else some rest

/-- A processing instruction, read behind its opening mark. -/
def instruction (text : List Char) : Option (List Char) :=
  if (text.head?.map isNameStart).getD false && !"xml ".toList.isPrefixOf text then
    (until? ['?', '>'] (skipSpaces (text.dropWhile isNameChar))).map (·.2)
  else none

end Labeling.Markup
