import Labeling.Yaml.Cursor

/-!
# Scalars

Plain and quoted scalars. Both may go on over several lines: the blanks around a line's end do not
count, one line's end is folded to a space, and of several all but the first stay. What stands
between two words of a scalar is a `Gap`, and `Gap.join` is that rule.
-/
namespace Labeling.Yaml

/-- How a scalar is written. -/
inductive Style where
  /-- Without quotes. -/
  | plain
  /-- In single or double quotes. -/
  | quoted
  /-- As a block of lines that stay. -/
  | literal
  /-- As a block of lines that are folded. -/
  | folded
deriving DecidableEq, Repr

/-- What stands between two words of a scalar. -/
inductive Gap where
  /-- Blanks, the last first. -/
  | blanks (characters : List Char)
  /-- Ends of lines: the first, unless it is escaped, and the others, the last first. -/
  | lines (first : Option Char) (others : List Char)
deriving DecidableEq, Repr

namespace Gap

/-- No gap. -/
def empty : Gap := .blanks []

/-- Whether there is no gap. -/
def isEmpty : Gap → Bool
  | .blanks characters => characters.isEmpty
  | .lines _ _ => false

/-- Whether a line ends in the gap. -/
def endsLine : Gap → Bool
  | .blanks _ => false
  | .lines _ _ => true

/-- The gap with a further blank or line end; blanks behind a line's end do not count. -/
def add : Gap → Char → Gap
  | .blanks characters, character =>
    if isBreak character then .lines (some character) [] else .blanks (character :: characters)
  | .lines first others, character =>
    if isBreak character then .lines first (character :: others) else .lines first others

/-- The characters of a scalar, the last first, with the gap behind them. -/
def join : Gap → List Char → List Char
  | .blanks characters, built => characters ++ built
  | .lines none others, built => others ++ built
  | .lines (some '\n') [], built => ' ' :: built
  | .lines (some '\n') others, built => others ++ built
  | .lines (some first) others, built => others ++ first :: built

end Gap

/-- A scalar that was read. -/
structure Found where
  /-- Its text. -/
  text : String
  /-- Whether a line ends behind it, before the place. -/
  endsLine : Bool := false
  /-- The place behind it. -/
  cursor : Cursor

/-- The characters that end a plain scalar inside brackets. -/
def flowMarks : List Char := [',', '[', ']', '\x7b', '\x7d']

/-- Whether a plain scalar ends before a character: at the colon of a key, and inside brackets at a
bracket or a comma. -/
def endsPlain (isInFlow : Bool) (character : Char) (rest : List Char) : Bool :=
  (character == ':' && endsWord rest) || (isInFlow && flowMarks.contains character)

/-- Whether a plain scalar that has been interrupted ends before the next word: at a comment, at the
mark of a document, and outside of brackets at a place that is not indented. -/
def endsBetween (isInFlow : Bool) (indent : Nat) (mark : Mark) (text : List Char) : Bool :=
  text.head? == some '#' || (!isInFlow && mark.column < indent)
    || (mark.column = 0 && (isDocumentMark "---" text || isDocumentMark "..." text))

/-- Whether a colon inside brackets can be neither part of a scalar nor behind a key. -/
def isMisplaced (isInFlow : Bool) (character : Char) (rest : List Char) : Bool :=
  isInFlow && character == ':' && rest.head?.any ('?' :: flowMarks).contains

/-- Read a plain scalar. A tabulator must not indent its lines. -/
def plain (isInFlow : Bool) (indent : Nat) : List Char → Gap → Mark → List Char → Option Found
  | built, gap, mark, [] => some ⟨String.ofList built.reverse, gap.endsLine, ⟨[], mark⟩⟩
  | built, gap, mark, character :: rest =>
    let ended : Found :=
      ⟨String.ofList built.reverse, gap.endsLine, ⟨character :: rest, mark⟩⟩
    if isBlank character || isBreak character then
      if gap.endsLine && character == '\t' && mark.column < indent then none
      else plain isInFlow indent built (gap.add character) (mark.after character) rest
    else if !gap.isEmpty && endsBetween isInFlow indent mark (character :: rest) then some ended
    else if isMisplaced isInFlow character rest then none
    else if endsPlain isInFlow character rest then some ended
    else
      plain isInFlow indent (character :: gap.join built) .empty (mark.after character) rest

/-- Whether the mark of a document stands where a quoted scalar goes on. -/
def breaksQuotes (gap : Gap) (mark : Mark) (text : List Char) : Bool :=
  gap.endsLine && mark.column = 0 && (isDocumentMark "---" text || isDocumentMark "..." text)

/-- Read a scalar in single quotes behind the first of them; a quote in it is written twice. -/
def singleQuoted : List Char → Gap → Mark → List Char → Option Found
  | _, _, _, [] => none
  | built, gap, mark, character :: rest =>
    if isBlank character || isBreak character then
      singleQuoted built (gap.add character) (mark.after character) rest
    else if breaksQuotes gap mark (character :: rest) then none
    else
      match character, rest with
      | '\'', '\'' :: rest =>
        singleQuoted ('\'' :: gap.join built) .empty ((mark.after '\'').after '\'') rest
      | '\'', rest =>
        some ⟨String.ofList (gap.join built).reverse, false, ⟨rest, mark.after '\''⟩⟩
      | character, rest =>
        singleQuoted (character :: gap.join built) .empty (mark.after character) rest

/-- The characters that one letter escapes. -/
def escapes : List (Char × Char) :=
  [('0', '\x00'), ('a', '\x07'), ('b', '\x08'), ('t', '\t'), ('\t', '\t'), ('n', '\n'),
    ('v', '\x0b'), ('f', '\x0c'), ('r', '\r'), ('e', '\x1b'), (' ', ' '), ('"', '"'), ('/', '/'),
    ('\\', '\\'), ('N', '\u0085'), ('_', '\u00a0'), ('L', '\u2028'), ('P', '\u2029')]

/-- The numbers of hexadecimal digits behind the letters that escape a character by its code. -/
def codeWidths : List (Char × Nat) := [('x', 2), ('u', 4), ('U', 8)]

/-- The character that so many hexadecimal digits give the code of. -/
def characterOfCode? (width : Nat) (text : List Char) : Option Char :=
  let digits := text.take width
  if digits.length < width then none
  else
    (Text.readNumber 16 digits).bind fun code =>
      if code < 0xD800 || (0xDFFF < code && code < 0x110000) then some (Char.ofNat code) else none

/-- The character that is escaped behind a backslash, and how many characters the escape has. -/
def escaped? (letter : Char) (rest : List Char) : Option (Char × Nat) :=
  match escapes.lookup letter, codeWidths.lookup letter with
  | some character, _ => some (character, 0)
  | none, some width => (characterOfCode? width rest).map fun character => (character, width)
  | none, none => none

/-- Read a scalar in double quotes behind the first of them. An escaped line's end leaves no
space. -/
def doubleQuoted (built : List Char) (gap : Gap) (mark : Mark) (text : List Char) : Option Found :=
  match text with
  | [] => none
  | character :: rest =>
    if isBlank character || isBreak character then
      doubleQuoted built (gap.add character) (mark.after character) rest
    else if breaksQuotes gap mark (character :: rest) then none
    else
      match character, rest with
      | '"', rest => some ⟨String.ofList (gap.join built).reverse, false, ⟨rest, mark.after '"'⟩⟩
      | '\\', letter :: rest =>
        if isBreak letter then
          doubleQuoted (gap.join built) (.lines none []) ((mark.after '\\').after letter) rest
        else
          match escaped? letter rest with
          | some (character, width) =>
            let behind := ((mark.after '\\').after letter)
            doubleQuoted (character :: gap.join built) .empty
              ((rest.take width).foldl Mark.after behind) (rest.drop width)
          | none => none
      | '\\', [] => none
      | character, rest =>
        doubleQuoted (character :: gap.join built) .empty (mark.after character) rest
termination_by text.length
decreasing_by all_goals simp_all only [List.length_cons, List.length_drop]; omega

end Labeling.Yaml
