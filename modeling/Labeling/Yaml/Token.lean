import Labeling.Yaml.Scalar

/-!
# Tokens of YAML

The tokens that a YAML text consists of, and those of them that are written in a syntax of their
own: names of anchors, tags, and the directives before a document.
-/
namespace Labeling.Yaml

/-- A token. -/
inductive Token where
  /-- A directive for the version. -/
  | version (major minor : Nat)
  /-- A directive for what a handle of tags stands for. -/
  | handle (name start : String)
  /-- The mark in front of a document. -/
  | documentStart
  /-- The mark behind a document. -/
  | documentEnd
  /-- A sequence by indentation begins. -/
  | blockSequence
  /-- A mapping by indentation begins. -/
  | blockMapping
  /-- A sequence or mapping by indentation ends. -/
  | blockEnd
  /-- A sequence in brackets begins. -/
  | flowSequence
  /-- A sequence in brackets ends. -/
  | flowSequenceEnd
  /-- A mapping in braces begins. -/
  | flowMapping
  /-- A mapping in braces ends. -/
  | flowMappingEnd
  /-- An item of a sequence by indentation begins. -/
  | item
  /-- The comma between items or entries. -/
  | comma
  /-- A key begins. -/
  | key
  /-- A value begins. -/
  | value
  /-- A node that is written elsewhere, by the name of its anchor. -/
  | reference (name : String)
  /-- The anchor of the next node. -/
  | anchor (name : String)
  /-- The tag of the next node, by its handle and what follows it. -/
  | tag (handle suffix : String)
  /-- A scalar. -/
  | scalar (text : String) (style : Style)
deriving DecidableEq, Repr

/-- The characters of names of anchors, handles and directives. -/
def isNameChar (character : Char) : Bool :=
  character.isAlphanum || character == '_' || character == '-'

/-- The name of an anchor, and the place behind it. A blank or one of a few marks follows. -/
def anchorName? (cursor : Cursor) : Option (String × Cursor) :=
  let name := cursor.span isNameChar
  let behind := cursor.skip name.length
  if name.isEmpty then none
  else if endsWord behind.rest || behind.rest.head?.any "?:,]\x7d%@\x60".toList.contains then
    some (String.ofList name, behind)
  else none

/-- The number of continuation octets behind an octet that begins a character in UTF-8, with the
bits that it contributes. -/
def leadingOctet? (octet : Nat) : Option (Nat × Nat) :=
  if octet < 0x80 then some (0, octet)
  else if octet < 0xC0 then none
  else if octet < 0xE0 then some (1, octet - 0xC0)
  else if octet < 0xF0 then some (2, octet - 0xE0)
  else if octet < 0xF8 then some (3, octet - 0xF0)
  else none

/-- An octet that is written as two hexadecimal digits behind a percent sign. -/
def octet? : List Char → Option (Nat × List Char)
  | '%' :: first :: second :: rest =>
    (Text.readNumber 16 [first, second]).map fun octet => (octet, rest)
  | _ => none

/-- Further octets of a character, and the code they make with the bits before them. -/
def continuationOctets? : Nat → Nat → List Char → Option (Nat × List Char)
  | 0, code, text => some (code, text)
  | count + 1, code, text => do
    let (octet, rest) ← octet? text
    if 0x80 ≤ octet && octet < 0xC0 then continuationOctets? count (64 * code + (octet - 0x80)) rest
    else none

/-- The character of escaped octets, and how many characters the escapes have. -/
def escapedOctets? (text : List Char) : Option (Char × Nat) := do
  let (octet, rest) ← octet? text
  let (count, bits) ← leadingOctet? octet
  let (code, _) ← continuationOctets? count bits rest
  some (Char.ofNat code, 3 * (count + 1))

/-- The characters of a tag. Brackets and commas are among them only between angle brackets and in
directives. -/
def isTagChar (isVerbatim : Bool) (character : Char) : Bool :=
  isNameChar character || ";/?:@&=+$.%!~*'()".toList.contains character
    || (isVerbatim && [',', '[', ']'].contains character)

/-- Read the characters of a tag, the last first. -/
def tagText? (isVerbatim : Bool) : Nat → List Char → Cursor → Option (List Char × Cursor)
  | 0, _, _ => none
  | fuel + 1, built, cursor =>
    match cursor.rest with
    | [] => some (built, cursor)
    | character :: rest =>
      if !isTagChar isVerbatim character then some (built, cursor)
      else if character == '%' then
        match escapedOctets? (character :: rest) with
        | some (escaped, width) =>
          tagText? isVerbatim fuel (escaped :: built) (cursor.skip width)
        | none => none
      else tagText? isVerbatim fuel (character :: built) (cursor.skip 1)

/-- The text of a tag that is not empty, or of which a part is known already. -/
def readTagText? (isVerbatim : Bool) (known : List Char) (cursor : Cursor) :
    Option (String × Cursor) := do
  let (built, behind) ← tagText? isVerbatim (cursor.rest.length + 1) [] cursor
  if known.isEmpty && built.isEmpty then none
  else some (String.ofList (known.drop 1 ++ built.reverse), behind)

/-- A handle, and the place behind it: an exclamation mark, a name and, if it ends so, a second
exclamation mark. -/
def handle? (cursor : Cursor) : Option (List Char × Cursor) :=
  match cursor.rest with
  | '!' :: rest =>
    let name := rest.takeWhile isNameChar
    let isClosed := (rest.drop name.length).head? == some '!'
    let handle := '!' :: (name ++ if isClosed then ['!'] else [])
    some (handle, cursor.skip handle.length)
  | _ => none

/-- Whether a handle has a second exclamation mark. -/
def isClosedHandle (handle : List Char) : Bool :=
  1 < handle.length && handle.getLast? == some '!'

/-- A tag, and the place behind it. -/
def tag? (isInFlow : Bool) (cursor : Cursor) : Option (Token × Cursor) := do
  let (token, behind) ←
    if (cursor.rest.drop 1).head? == some '<' then do
      let (text, behind) ← readTagText? true [] (cursor.skip 2)
      if behind.rest.head? == some '>' then some (Token.tag "" text, behind.skip 1) else none
    else do
      let (handle, behind) ← handle? cursor
      if isClosedHandle handle then
        let (text, behind) ← readTagText? false [] behind
        some (Token.tag (String.ofList handle) text, behind)
      else
        let (text, behind) ← readTagText? false handle behind
        some (if text.isEmpty then Token.tag "" "!" else Token.tag "!" text, behind)
  if endsWord behind.rest || (isInFlow && behind.rest.head? == some ',') then some (token, behind)
  else none

/-- A number of a version, of nine digits at most. -/
def versionNumber? (cursor : Cursor) : Option (Nat × Cursor) := do
  let digits := cursor.span Char.isDigit
  if 9 < digits.length then none
  else (Text.readDecimal digits).map fun number => (number, cursor.skip digits.length)

/-- The version that a directive gives. -/
def versionDirective? (cursor : Cursor) : Option (Token × Cursor) := do
  let (major, behind) ← versionNumber? (cursor.skipWhile isBlank)
  if behind.rest.head? == some '.' then
    let (minor, behind) ← versionNumber? (behind.skip 1)
    some (.version major minor, behind)
  else none

/-- The handle that a directive gives, with what it stands for. -/
def handleDirective? (cursor : Cursor) : Option (Token × Cursor) := do
  let (handle, behind) ← handle? (cursor.skipWhile isBlank)
  if (handle == ['!'] || isClosedHandle handle) && behind.rest.head?.any isBlank then
    let (text, behind) ← readTagText? true [] (behind.skipWhile isBlank)
    if endsWord behind.rest then some (.handle (String.ofList handle) text, behind) else none
  else none

/-- A directive behind its percent sign, and the next line. -/
def directive? (cursor : Cursor) : Option (Token × Cursor) := do
  let name := cursor.span isNameChar
  let behind := cursor.skip name.length
  if !endsWord behind.rest then none
  else
    let (token, behind) ← match String.ofList name with
      | "YAML" => versionDirective? behind
      | "TAG" => handleDirective? behind
      | _ => none
    some (token, (← behind.lineEnd?).skip 1)

end Labeling.Yaml
