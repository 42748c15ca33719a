import Labeling.Yaml.Scalar

/-!
# Block scalars

Scalars that are written as a block of indented lines behind a header. The header may tell how far
the block is indented and what becomes of the ends of lines behind it; else the first line that is
not empty tells the former, and one line's end stays.
-/
namespace Labeling.Yaml.Block

/-- What becomes of the ends of lines behind a block. -/
inductive Chomping where
  /-- One stays. -/
  | clip
  /-- None stays. -/
  | strip
  /-- All stay. -/
  | keep
deriving DecidableEq, Repr

/-- The sign that a header gives for its chomping. -/
def chomping? : List Char → Option Chomping
  | '+' :: _ => some .keep
  | '-' :: _ => some .strip
  | _ => none

/-- The digit in front, if there is one. Nothing is indented by zero. -/
def increment? (text : List Char) : Option (Option Nat) :=
  match (text.head?.filter Char.isDigit).bind Text.digit? with
  | none => some none
  | some 0 => none
  | some digit => some (some digit)

/-- A header: a sign and a digit in any order, both of which may be missing. -/
def header? (cursor : Cursor) : Option (Chomping × Option Nat × Cursor) :=
  match chomping? cursor.rest with
  | some chomping => do
    let cursor := cursor.skip 1
    let increment ← increment? cursor.rest
    some (chomping, increment, if increment.isSome then cursor.skip 1 else cursor)
  | none => do
    match ← increment? cursor.rest with
    | none => some (.clip, none, cursor)
    | some increment =>
      let cursor := cursor.skip 1
      match chomping? cursor.rest with
      | some chomping => some (chomping, some increment, cursor.skip 1)
      | none => some (.clip, some increment, cursor)

/-- The ends of empty lines, the last first, and how far the furthest of these lines and the next
one are indented. -/
structure Emptiness where
  /-- The ends of the lines. -/
  breaks : List Char
  /-- The greatest column that was reached. -/
  width : Nat
  /-- The place of the first character that does not indent. -/
  cursor : Cursor

/-- Skip empty lines, and the indentation of the next line up to a limit. A tabulator must not
indent. -/
def skipEmpty (limit : Option Nat) : List Char → Nat → Mark → List Char → Option Emptiness
  | breaks, width, mark, [] => some ⟨breaks, max width mark.column, ⟨[], mark⟩⟩
  | breaks, width, mark, character :: rest =>
    let isIndent := limit.all (mark.column < ·)
    if character == ' ' && isIndent then skipEmpty limit breaks width (mark.after ' ') rest
    else if character == '\t' && isIndent then none
    else if isBreak character then
      skipEmpty limit (character :: breaks) (max width mark.column) (mark.after character) rest
    else some ⟨breaks, max width mark.column, ⟨character :: rest, mark⟩⟩

/-- What has been read of a block. -/
structure Reading where
  /-- The characters, the last first. -/
  built : List Char := []
  /-- The end of the last line, if it has one. -/
  ending : List Char := []
  /-- The ends of the empty lines behind it, the last first. -/
  breaks : List Char := []
  /-- Whether the last line begins with a blank. -/
  isIndented : Bool := false

/-- The reading with the ends of lines that are in front of a line: in a folded block, one between
two lines that begin with no blank becomes a space, and of several the first is left out. -/
def Reading.continued (isLiteral : Bool) (reading : Reading) (line : List Char) : List Char :=
  let isIndented := line.head?.any isBlank
  let isFolded := !isLiteral && reading.ending == ['\n'] && !reading.isIndented && !isIndented
  reading.breaks ++
    (if isFolded then if reading.breaks.isEmpty then ' ' :: reading.built else reading.built
    else reading.ending ++ reading.built)

/-- Read the lines of a block. -/
def lines (isLiteral : Bool) (indent : Nat) : Nat → Reading → Cursor → Option (Reading × Cursor)
  | 0, _, _ => none
  | fuel + 1, reading, cursor =>
    if cursor.mark.column = indent && !cursor.rest.isEmpty then do
      let line := cursor.span (!isBreak ·)
      let behind := cursor.skip line.length
      let ending := behind.rest.take 1
      let next := behind.skip 1
      let empty ← skipEmpty (some indent) [] 0 next.mark next.rest
      lines isLiteral indent fuel
        ⟨line.reverse ++ reading.continued isLiteral line, ending, empty.breaks,
          line.head?.any isBlank⟩ empty.cursor
    else some (reading, cursor)

/-- The characters of a block, the last first. -/
def Reading.chomped (reading : Reading) : Chomping → List Char
  | .clip => reading.ending ++ reading.built
  | .strip => reading.built
  | .keep => reading.breaks ++ reading.ending ++ reading.built

/-- Read a block behind its mark. The block around it, if there is one, tells its indentation. -/
def read? (isLiteral : Bool) (around : Option Nat) (cursor : Cursor) :
    Option (String × Cursor) := do
  let (chomping, increment, cursor) ← header? cursor
  let first := (← cursor.lineEnd?).skip 1
  let stated := increment.map (around.getD 0 + ·)
  let empty ← skipEmpty stated [] 0 first.mark first.rest
  let least := max 1 ((around.map (· + 1)).getD 0)
  let indent := stated.getD (max empty.width least)
  let (reading, cursor) ←
    lines isLiteral indent (empty.cursor.rest.length + 1) { breaks := empty.breaks } empty.cursor
  some (String.ofList (reading.chomped chomping).reverse, cursor)

end Labeling.Yaml.Block
