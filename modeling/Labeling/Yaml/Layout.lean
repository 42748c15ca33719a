import Labeling.Yaml.Block
import Labeling.Yaml.Token

/-!
# Layout of YAML

The tokens of a text with its layout made explicit. Outside of brackets the indentation tells where
sequences and mappings begin and end. A key need not be marked as one: a node on one line is a key
if a colon follows it within 1024 characters, and the tokens for the key, and for its mapping, are
put in front of the node then. Wherever a node may be such a key it is remembered as a `Candidate`.
-/
namespace Labeling.Yaml

/-- A node that is a key if a colon follows. -/
structure Candidate where
  /-- Whether it must be a key, because it stands where the keys of a mapping stand. -/
  isRequired : Bool
  /-- The number of tokens before it. -/
  position : Nat
  /-- Where it begins. -/
  mark : Mark
deriving DecidableEq, Repr

/-- Whether a place is too far behind a candidate for a colon to make it a key. -/
def Candidate.isStaleAt (candidate : Candidate) (mark : Mark) : Bool :=
  candidate.mark.line < mark.line || candidate.mark.index + 1024 < mark.index

/-- How far a text has been read. -/
structure Layout where
  /-- The place behind the last token. -/
  cursor : Cursor
  /-- The tokens so far, the last first. -/
  tokens : List Token := []
  /-- The number of tokens so far. -/
  count : Nat := 0
  /-- The columns of the open sequences and mappings by indentation, the innermost first. -/
  indents : List Nat := []
  /-- The candidate inside the innermost brackets. -/
  candidate : Option Candidate := none
  /-- The candidates around each open bracket, the innermost first. -/
  outer : List (Option Candidate) := []
  /-- Whether a key without a mark may begin here. -/
  mayBeginKey : Bool := true

namespace Layout

/-- Whether brackets are open. -/
def isInFlow (layout : Layout) : Bool := !layout.outer.isEmpty

/-- The column of the place. -/
def column (layout : Layout) : Nat := layout.cursor.mark.column

/-- The text from the place on. -/
def rest (layout : Layout) : List Char := layout.cursor.rest

/-- The layout with a further token. -/
def emit (layout : Layout) (token : Token) : Layout :=
  { layout with tokens := token :: layout.tokens, count := layout.count + 1 }

/-- The layout with a token behind a number of others. -/
def insertAt (layout : Layout) (position : Nat) (token : Token) : Layout :=
  let (behind, before) := layout.tokens.splitAt (layout.count - position)
  { layout with tokens := behind ++ token :: before, count := layout.count + 1 }

/-- The layout at a place a number of characters further on. -/
def advance (layout : Layout) (count : Nat) : Layout :=
  { layout with cursor := layout.cursor.skip count }

/-- The layout with a say in whether a key may begin. -/
def allowKey (layout : Layout) (mayBeginKey : Bool) : Layout :=
  { layout with mayBeginKey := mayBeginKey }

/-- Skip blanks, comments and ends of lines; tells whether a key may begin behind them. Outside of
brackets a new line may begin with a key, and a tabulator must not stand where a key may begin. -/
def skipBlanks (isInFlow : Bool) : Bool → Bool → Mark → List Char → Bool × Cursor
  | _, mayBeginKey, mark, [] => (mayBeginKey, ⟨[], mark⟩)
  | isComment, mayBeginKey, mark, character :: rest =>
    if isBreak character then
      skipBlanks isInFlow false (mayBeginKey || !isInFlow) (mark.after character) rest
    else if isComment || character == '#' || character == ' '
        || (character == '\t' && (isInFlow || !mayBeginKey)) then
      skipBlanks isInFlow (isComment || character == '#') mayBeginKey (mark.after character) rest
    else (mayBeginKey, ⟨character :: rest, mark⟩)

/-- The layout at the next token. -/
def atToken (layout : Layout) : Layout :=
  let (mayBeginKey, cursor) :=
    skipBlanks layout.isInFlow false layout.mayBeginKey layout.cursor.mark layout.rest
  { layout with cursor := cursor, mayBeginKey := mayBeginKey }

/-- A candidate unless it is stale; a required one must not be. -/
def fresh? (mark : Mark) : Option Candidate → Option (Option Candidate)
  | none => some none
  | some candidate =>
    if candidate.isStaleAt mark then if candidate.isRequired then none else some none
    else some (some candidate)

/-- The layout without stale candidates. -/
def withoutStale (layout : Layout) : Option Layout := do
  let mark := layout.cursor.mark
  some { layout with
    candidate := ← fresh? mark layout.candidate, outer := ← layout.outer.mapM (fresh? mark) }

/-- The layout without a candidate. A required one must not be given up. -/
def withoutCandidate (layout : Layout) : Option Layout :=
  if layout.candidate.any (·.isRequired) then none else some { layout with candidate := none }

/-- The layout with the next node as a candidate, if a key may begin here. -/
def remember (layout : Layout) : Option Layout :=
  if layout.mayBeginKey then do
    let isRequired := !layout.isInFlow && layout.indents.head? == some layout.column
    let layout ← layout.withoutCandidate
    some { layout with candidate := some ⟨isRequired, layout.count, layout.cursor.mark⟩ }
  else some layout

/-- The layout with the sequences and mappings ended that are indented deeper than a number of
columns, or all of them. -/
def unroll (layout : Layout) (column : Option Nat) : Layout :=
  if layout.isInFlow then layout
  else
    let isEnded (indent : Nat) : Bool := column.all (· < indent)
    let ended := layout.indents.takeWhile isEnded
    { layout with
      tokens := List.replicate ended.length .blockEnd ++ layout.tokens
      count := layout.count + ended.length
      indents := layout.indents.drop ended.length }

/-- The layout with a sequence or mapping begun at a column behind a number of tokens, unless one is
open there. -/
def roll (layout : Layout) (column position : Nat) (token : Token) : Layout :=
  if layout.isInFlow || layout.indents.head?.any (column ≤ ·) then layout
  else { layout.insertAt position token with indents := column :: layout.indents }

/-- The layout with a sequence or mapping begun here, which must be where a key may begin. -/
def rollHere (layout : Layout) (token : Token) : Option Layout :=
  if layout.isInFlow then some layout
  else if layout.mayBeginKey then some (layout.roll layout.column layout.count token)
  else none

/-- Read a mark that ends all that is indented. -/
def readDocumentMark (layout : Layout) (token : Token) : Option Layout := do
  let layout ← (layout.unroll none).withoutCandidate
  some (((layout.allowKey false).advance 3).emit token)

/-- Read a directive. -/
def readDirective (layout : Layout) : Option Layout := do
  let layout ← (layout.unroll none).withoutCandidate
  let (token, cursor) ← directive? (layout.cursor.skip 1)
  some (({ layout with cursor := cursor }.allowKey false).emit token)

/-- Read an opening bracket. -/
def openFlow (layout : Layout) (token : Token) : Option Layout := do
  let layout ← layout.remember
  let layout :=
    { layout with
      outer := layout.candidate :: layout.outer, candidate := none, mayBeginKey := true }
  some ((layout.advance 1).emit token)

/-- Read a closing bracket. -/
def closeFlow (layout : Layout) (token : Token) : Option Layout := do
  let layout ← layout.withoutCandidate
  let layout := match layout.outer with
    | [] => layout
    | candidate :: outer => { layout with candidate := candidate, outer := outer }
  some (((layout.allowKey false).advance 1).emit token)

/-- Read a comma. -/
def readComma (layout : Layout) : Option Layout := do
  let layout ← layout.withoutCandidate
  some (((layout.allowKey true).advance 1).emit .comma)

/-- Read the hyphen of an item. -/
def readItem (layout : Layout) : Option Layout := do
  let layout ← (← layout.rollHere .blockSequence).withoutCandidate
  some (((layout.allowKey true).advance 1).emit .item)

/-- Read the mark of a key. -/
def readKey (layout : Layout) : Option Layout := do
  let layout ← (← layout.rollHere .blockMapping).withoutCandidate
  some (((layout.allowKey !layout.isInFlow).advance 1).emit .key)

/-- Read the colon of a value. It makes the candidate a key; without one it stands behind a key that
is marked. -/
def readValue (layout : Layout) : Option Layout := do
  let layout ← match layout.candidate with
    | some candidate =>
      let layout := (layout.insertAt candidate.position .key).roll candidate.mark.column
        candidate.position .blockMapping
      some { layout with candidate := none, mayBeginKey := false }
    | none => (layout.rollHere .blockMapping).map fun layout => layout.allowKey !layout.isInFlow
  some ((layout.advance 1).emit .value)

/-- The layout behind a token that was read from the place on and may be a key. -/
def readNode (layout : Layout) (read : Cursor → Option (Token × Cursor)) : Option Layout := do
  let layout ← layout.remember
  let (token, cursor) ← read layout.cursor
  some (({ layout with cursor := cursor }.allowKey false).emit token)

/-- Read a scalar that may be a key. A new line behind it may begin with one. -/
def readScalar (layout : Layout) (style : Style) (read : Cursor → Option Found) :
    Option Layout := do
  let layout ← layout.remember
  let found ← read layout.cursor
  some (({ layout with cursor := found.cursor }.allowKey found.endsLine).emit
    (.scalar found.text style))

/-- Read a block scalar. -/
def readBlock (layout : Layout) (isLiteral : Bool) : Option Layout := do
  let layout ← layout.withoutCandidate
  let (text, cursor) ← Block.read? isLiteral layout.indents.head? (layout.cursor.skip 1)
  some (({ layout with cursor := cursor }.allowKey true).emit
    (.scalar text (if isLiteral then .literal else .folded)))

/-- Whether a plain scalar begins with a character before the rest. -/
def beginsPlain (isInFlow : Bool) (character : Char) (rest : List Char) : Bool :=
  match character with
  | '-' => !rest.head?.any isBlank
  | '?' => !isInFlow && !endsWord rest
  | ':' => !isInFlow && !endsWord rest
  | _ => !isBlank character && !",[]\x7b\x7d#&*!|>'\"%@\x60".toList.contains character

/-- Read a token from the place on, which is not the end of the text. -/
def readToken (layout : Layout) (character : Char) (rest : List Char) : Option Layout :=
  let isFirst := layout.column = 0
  let isMark := layout.isInFlow || endsWord rest
  if isFirst && character == '%' then layout.readDirective
  else if isFirst && isDocumentMark "---" layout.rest then layout.readDocumentMark .documentStart
  else if isFirst && isDocumentMark "..." layout.rest then layout.readDocumentMark .documentEnd
  else if character == '[' then layout.openFlow .flowSequence
  else if character == '\x7b' then layout.openFlow .flowMapping
  else if character == ']' then layout.closeFlow .flowSequenceEnd
  else if character == '\x7d' then layout.closeFlow .flowMappingEnd
  else if character == ',' then layout.readComma
  else if character == '-' && endsWord rest then layout.readItem
  else if character == '?' && isMark then layout.readKey
  else if character == ':' && isMark then layout.readValue
  else if character == '*' then
    layout.readNode fun cursor =>
      (anchorName? (cursor.skip 1)).map fun found => (.reference found.1, found.2)
  else if character == '&' then
    layout.readNode fun cursor =>
      (anchorName? (cursor.skip 1)).map fun found => (.anchor found.1, found.2)
  else if character == '!' then layout.readNode (tag? layout.isInFlow)
  else if character == '|' && !layout.isInFlow then layout.readBlock true
  else if character == '>' && !layout.isInFlow then layout.readBlock false
  else if character == '\'' then
    layout.readScalar .quoted fun cursor =>
      singleQuoted [] .empty (cursor.mark.after '\'') (cursor.rest.drop 1)
  else if character == '"' then
    layout.readScalar .quoted fun cursor =>
      doubleQuoted [] .empty (cursor.mark.after '"') (cursor.rest.drop 1)
  else if beginsPlain layout.isInFlow character rest then
    let indent := (layout.indents.head?.map (· + 1)).getD 0
    layout.readScalar .plain fun cursor =>
      plain layout.isInFlow indent [] .empty cursor.mark cursor.rest
  else none

/-- Read the next token. The end of the text ends all that is indented. -/
def step (layout : Layout) : Option Layout := do
  let layout ← layout.atToken.withoutStale
  let layout := layout.unroll (some layout.column)
  match layout.rest with
  | [] => (layout.unroll none).withoutCandidate
  | character :: rest => layout.readToken character rest

/-- Read all tokens. -/
def readAll : Nat → Layout → Option (List Token)
  | 0, _ => none
  | fuel + 1, layout => do
    let layout ← layout.step
    if layout.rest.isEmpty then do
      let layout ← layout.step
      some layout.tokens.reverse
    else readAll fuel layout

end Layout

/-- The tokens of a text whose lines end with line feeds. A byte order mark may stand in front. -/
def tokens? (text : List Char) : Option (List Token) :=
  let start : Cursor := ⟨text, {}⟩
  let cursor := if text.head? == some '\uFEFF' then start.skip 1 else start
  Layout.readAll (text.length + 1) { cursor := cursor }

end Labeling.Yaml
