import Labeling.Markup
import Labeling.Markup.Token

/-!
# Reading markup documents

A document is one element with comments, processing instructions and blanks around it, behind an
optional declaration. Names may carry the prefix of a namespace that is declared on the element
or around it; two attributes of an element must not have the same name in the same namespace.
There is no document type declaration and no reference beyond single characters. What is wrong
with a malformed document is not told.
-/
namespace Labeling.Markup.Reader

/-- The namespace of the prefix `xml`. -/
def xmlNamespace : String := "http://www.w3.org/XML/1998/namespace"

/-- The namespace of namespace declarations. -/
def declarationNamespace : String := "http://www.w3.org/2000/xmlns/"

/-- Prefixes with their namespaces; of equal prefixes the first one counts. -/
abbrev Scope := List (String × String)

/-- An attribute with a namespace prefix, its value normalised. -/
structure RawAttribute where
  /-- The name with its prefix. -/
  name : QualifiedName
  /-- The characters that the value stands for. -/
  value : String

/-- The namespace declarations among the attributes of an element, and the other attributes; both
in reverse. -/
def splitDeclarations : Scope → List RawAttribute → List RawAttribute →
    Option (Scope × List RawAttribute)
  | declared, others, [] => some (declared, others)
  | declared, others, entry :: rest =>
    if entry.name.space == "xmlns" then
      let isXml := entry.value == xmlNamespace
      let named := entry.name.localPart
      if entry.value == declarationNamespace || (named == "xml") != isXml ||
          declared.any (·.1 == named) then none
      else if isXml then splitDeclarations declared others rest
      else splitDeclarations ((named, entry.value) :: declared) others rest
    else if entry.name.localPart == "xmlns" then
      if entry.value == xmlNamespace || entry.value == declarationNamespace then none
      else splitDeclarations declared others rest
    else splitDeclarations declared (entry :: others) rest

/-- The namespace of a prefix of an attribute: none without a prefix. -/
def attributeSpace (scope : Scope) (space : String) : Option (Option String) :=
  if space == "xml" then some (some xmlNamespace)
  else if space.isEmpty then some none
  else (scope.lookup space).map some

/-- The attributes by local name, if every prefix is declared and no name occurs twice. -/
def resolveAttributes (scope : Scope) :
    List (Option String × String) → List RawAttribute → Option (List (String × String))
  | _, [] => some []
  | seen, entry :: rest => do
    let space ← attributeSpace scope entry.name.space
    let expanded := (space, entry.name.localPart)
    if seen.contains expanded then none
    else
      let others ← resolveAttributes scope (expanded :: seen) rest
      some ((entry.name.localPart, entry.value) :: others)

/-- An element whose end has not been read yet. -/
structure OpenElement where
  /-- The name of the opening tag. -/
  name : QualifiedName
  /-- The namespaces declared on the element and around it. -/
  scope : Scope
  /-- The attributes by local name. -/
  attributes : List (String × String)
  /-- The text from the content on. -/
  start : List Char
  /-- The text behind the last part of the content; of adjacent character data, behind the first
  piece. -/
  covered : Option (List Char)
  /-- Whether the last part is character data. -/
  inText : Bool
  /-- The content read so far, in reverse. -/
  content : List Content

/-- The element, complete. -/
def OpenElement.close (element : OpenElement) : Element :=
  let inner := element.covered.map fun rest =>
    String.ofList (element.start.take (element.start.length - rest.length))
  .mk element.name.localPart element.attributes element.content.reverse inner

/-- The element with one more piece of character data. -/
def OpenElement.addText (element : OpenElement) (text rest : List Char) : OpenElement :=
  { element with
    covered := if element.inText then element.covered else some rest
    inText := true
    content := .text (String.ofList text) :: element.content }

/-- The element behind a comment or a processing instruction. -/
def OpenElement.pass (element : OpenElement) (rest : List Char) : OpenElement :=
  { element with covered := some rest, inText := false }

/-- The element with one more element inside. -/
def OpenElement.addElement (element : OpenElement) (child : Element) (rest : List Char) :
    OpenElement :=
  { element with
    covered := some rest
    inText := false
    content := .element child :: element.content }

/-- How an opening tag ends, and the text behind it. -/
inductive TagEnd where
  /-- The element is empty. -/
  | empty (rest : List Char)
  /-- The content follows. -/
  | content (rest : List Char)

/-- The attributes of an opening tag and its end; those read so far are reversed. -/
def tagAttributes : Nat → List RawAttribute → List Char → Option (List RawAttribute × TagEnd)
  | 0, _, _ => none
  | fuel + 1, built, text =>
    match skipSpaces text with
    | [] => none
    | '/' :: rest =>
      match rest with
      | '>' :: rest => some (built.reverse, .empty rest)
      | _ => none
    | '>' :: rest => some (built.reverse, .content rest)
    | found =>
      if (text.head?.map isSpace).getD false then
        match writtenAttribute found with
        | none => none
        | some (name, written, rest) =>
          match attributeValue written with
          | none => none
          | some value => tagAttributes fuel (⟨name, String.ofList value⟩ :: built) rest
      else none

/-- An opening tag, read behind its bracket, and how it ends. -/
def openingTag (scope : Scope) (text : List Char) : Option (OpenElement × TagEnd) := do
  let (name, text) ← qualifiedName text
  let (attributes, tagEnd) ← tagAttributes (text.length + 1) [] text
  let (declared, others) ← splitDeclarations [] [] attributes
  let scope := declared.reverse ++ scope
  let resolved ← resolveAttributes scope [] others.reverse
  if name.space == "xmlns" || (!name.space.isEmpty && (scope.lookup name.space).isNone) then none
  else
    let start := match tagEnd with
      | .empty rest => rest
      | .content rest => rest
    some (⟨name, scope, resolved, start, none, false, []⟩, tagEnd)

/-- A closing tag, read behind its bracket and slash. -/
def closingTag (text : List Char) : Option (QualifiedName × List Char) := do
  let (name, text) ← qualifiedName text
  let rest ← afterWord ">" (skipSpaces text)
  some (name, rest)

/-- A complete element goes into the element around it; without one it is the root. -/
def finish (element : Element) (around : List OpenElement) (rest : List Char) :
    Sum Element (List OpenElement) :=
  match around with
  | [] => .inl element
  | parent :: others => .inr (parent.addElement element rest :: others)

/-- Read the content of the innermost open element, and of those around it, to the end of the
outermost one. -/
def content : Nat → List OpenElement → List Char → Option (Element × List Char)
  | 0, _, _ => none
  | _ + 1, [], _ => none
  | fuel + 1, current :: around, text =>
    match text with
    | [] => none
    | '<' :: '!' :: '-' :: '-' :: rest =>
      match comment rest with
      | some rest => content fuel (current.pass rest :: around) rest
      | none => none
    | '<' :: '!' :: '[' :: 'C' :: 'D' :: 'A' :: 'T' :: 'A' :: '[' :: rest =>
      match until? [']', ']', '>'] rest with
      | some (body, rest) => content fuel (current.addText (sectionData body) rest :: around) rest
      | none => none
    | '<' :: '!' :: _ => none
    | '<' :: '?' :: rest =>
      match instruction rest with
      | some rest => content fuel (current.pass rest :: around) rest
      | none => none
    | '<' :: '/' :: rest =>
      match closingTag rest with
      | none => none
      | some (name, rest) =>
        if name = current.name then
          match finish current.close around rest with
          | .inl root => some (root, rest)
          | .inr elements => content fuel elements rest
        else none
    | '<' :: rest =>
      match openingTag current.scope rest with
      | none => none
      | some (element, .content rest) => content fuel (element :: current :: around) rest
      | some (element, .empty rest) =>
        content fuel (current.addElement element.close rest :: around) rest
    | first :: rest =>
      let written := (first :: rest).takeWhile (· != '<')
      let behind := (first :: rest).dropWhile (· != '<')
      if written.all isDocumentChar && !Text.occursIn [']', ']', '>'] written then
        match characterData written with
        | some data => content fuel (current.addText data behind :: around) behind
        | none => none
      else none

/-- The text behind comments, processing instructions and blanks. -/
def skipMisc : Nat → List Char → Option (List Char)
  | 0, _ => none
  | fuel + 1, text =>
    match skipSpaces text with
    | '<' :: '!' :: '-' :: '-' :: rest => (comment rest).bind (skipMisc fuel)
    | '<' :: '?' :: rest => (instruction rest).bind (skipMisc fuel)
    | rest => some rest

/-- Blanks, or the end of the declaration. -/
def declarationGap (text : List Char) : Option (List Char) :=
  if (text.head?.map isSpace).getD false then some (skipSpaces text)
  else if text.isEmpty || "?>".toList.isPrefixOf text then some text
  else none

/-- The attribute of a declaration that begins with the given word, and the gap behind it. -/
def declarationPart (word : String) (text : List Char) : Option (List Char) :=
  if word.toList.isPrefixOf text then do
    let (_, _, rest) ← writtenAttribute text
    declarationGap rest
  else some text

/-- The text behind the declaration, read behind its opening mark. -/
def declaration (text : List Char) : Option (List Char) := do
  let text ← declarationGap text
  if !"version".toList.isPrefixOf text then none
  else
    let text ← declarationPart "version" text
    let text ← declarationPart "encoding" text
    let text ← if "standalone".toList.isPrefixOf text then
        (writtenAttribute text).map fun (_, _, rest) => rest
      else some text
    afterWord "?>" (skipSpaces text)

end Reader

/-- The root element of the document that the text writes. -/
def read? (text : String) : Option Element := do
  let characters := match text.toList with
    | '\uFEFF' :: rest => rest
    | characters => characters
  let fuel := characters.length + 2
  let body ← if "<?xml ".toList.isPrefixOf characters then
      Reader.declaration (characters.drop 5)
    else some characters
  match ← Reader.skipMisc fuel body with
  | '<' :: rest =>
    let (element, tagEnd) ← Reader.openingTag [] rest
    let (root, rest) ← match tagEnd with
      | .empty rest => some (element.close, rest)
      | .content rest => Reader.content fuel [element] rest
    if (← Reader.skipMisc fuel rest).isEmpty then some root else none
  | _ => none

end Labeling.Markup
