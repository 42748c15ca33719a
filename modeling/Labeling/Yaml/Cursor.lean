import Labeling.Text

/-!
# Places in a YAML text

The characters that a YAML text is made of, and places in it by line and column. Lines end with a
line feed, or with one of the two Unicode separators, which are kept where a line feed would be
folded; every other way to end a line is written as a line feed before reading.
-/
namespace Labeling.Yaml

/-- The characters that a text may hold. -/
def isAllowed (character : Char) : Bool :=
  let code := character.toNat
  code == 9 || code == 10 || code == 13 || (32 ≤ code && code ≤ 126) || code == 133 ||
    (160 ≤ code && code ≤ 0xFFFD) || 0x10000 ≤ code

/-- The text with every carriage return, alone or before a line feed, and every next line character
written as a line feed. -/
def withLineFeeds : List Char → List Char
  | [] => []
  | '\r' :: '\n' :: rest => '\n' :: withLineFeeds rest
  | '\r' :: rest => '\n' :: withLineFeeds rest
  | '\u0085' :: rest => '\n' :: withLineFeeds rest
  | first :: rest => first :: withLineFeeds rest

/-- The characters that end a line. -/
def isBreak (character : Char) : Bool :=
  character == '\n' || character == '\u2028' || character == '\u2029'

/-- The blanks inside a line. -/
def isBlank (character : Char) : Bool := character == ' ' || character == '\t'

/-- Whether a word ends here: at a blank, the end of a line or the end of the text. -/
def endsWord (text : List Char) : Bool :=
  match text with
  | [] => true
  | first :: _ => isBlank first || isBreak first

/-- Whether the mark of a document stands here, if this is the beginning of a line. -/
def isDocumentMark (mark : String) (text : List Char) : Bool :=
  mark.toList.isPrefixOf text && endsWord (text.drop 3)

/-- A place in a text: how many characters are before it, in which line and column it is. -/
structure Mark where
  /-- The number of characters before it. -/
  index : Nat := 0
  /-- The number of lines before it. -/
  line : Nat := 0
  /-- The number of characters before it in its line. -/
  column : Nat := 0
deriving DecidableEq, Repr, Inhabited

/-- The place behind a character. -/
def Mark.after (mark : Mark) (character : Char) : Mark :=
  if isBreak character then ⟨mark.index + 1, mark.line + 1, 0⟩
  else ⟨mark.index + 1, mark.line, mark.column + 1⟩

/-- A place with the text from it on. -/
structure Cursor where
  /-- The text from the place on. -/
  rest : List Char
  /-- The place. -/
  mark : Mark := {}
deriving DecidableEq, Repr, Inhabited

namespace Cursor

/-- The place a number of characters further on. -/
def skip (cursor : Cursor) (count : Nat) : Cursor where
  rest := cursor.rest.drop count
  mark := (cursor.rest.take count).foldl Mark.after cursor.mark

/-- The characters up to the first that fails a test. -/
def span (cursor : Cursor) (test : Char → Bool) : List Char := cursor.rest.takeWhile test

/-- The place of the first character that fails a test. -/
def skipWhile (cursor : Cursor) (test : Char → Bool) : Cursor :=
  cursor.skip (cursor.span test).length

/-- The place of the line's end, if nothing but blanks and a comment is before it. -/
def lineEnd? (cursor : Cursor) : Option Cursor :=
  let found := cursor.skipWhile isBlank
  let ending := if found.rest.head? == some '#' then found.skipWhile (!isBreak ·) else found
  if ending.rest.head?.all isBreak then some ending else none

end Cursor
end Labeling.Yaml
