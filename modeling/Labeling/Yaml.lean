import Labeling.Yaml.Layout
import Labeling.Yaml.Node

/-!
# YAML documents

A text is at most one document: a node, with directives and a mark in front of it and marks behind
it, if they are written. What is wrong with a text that is none is not told.
-/
namespace Labeling.Yaml

/-- A document. -/
structure Document where
  /-- The node, if anything is written. -/
  root : Option Node
  /-- The scalars of the numbered anchors, the last first; an anchor of another node has none. -/
  anchored : List (Nat × Option Scalar)

/-- The scalar that a node of the document is or stands for. -/
def Document.scalar? (document : Document) : Node → Option Scalar
  | .scalar content => some content
  | .reference number => (document.anchored.lookup number).join
  | _ => none

/-- What the directives in front of a document say. -/
structure Directives where
  /-- Whether the version is given. -/
  hasVersion : Bool := false
  /-- The handles of tags. -/
  handles : Handles := []

/-- Read directives. A version that is not known, a second one, and a handle that is given again are
refused. -/
def Directives.read? : Directives → List Token → Option (Directives × List Token)
  | directives, .version major minor :: rest =>
    if directives.hasVersion || major != 1 || !(minor == 1 || minor == 2) then none
    else Directives.read? { directives with hasVersion := true } rest
  | directives, .handle name start :: rest =>
    if (directives.handles.lookup name).isSome then none
    else Directives.read? { directives with handles := (name, start) :: directives.handles } rest
  | directives, rest => some (directives, rest)

/-- Whether a document begins with its mark or with directives. -/
def isMarkedStart : Token → Bool
  | .version _ _ => true
  | .handle _ _ => true
  | .documentStart => true
  | _ => false

/-- Whether nothing is written in a document in front of these tokens. -/
def isContentEnd : List Token → Bool
  | [] => true
  | .documentEnd :: _ => true
  | token :: _ => isMarkedStart token

/-- Read the node of a document. -/
def content? (handles : Handles) (tokens : List Token) : Option (Node × Source) :=
  node? handles (3 * tokens.length + 3) true false { tokens := tokens }

/-- The document of some tokens. Nothing may follow it. -/
def document? (tokens : List Token) : Option Document := do
  if tokens.isEmpty then some ⟨none, []⟩
  else
    let (root, source) ←
      if tokens.head?.any isMarkedStart then do
        let (directives, tokens) ← Directives.read? {} tokens
        match tokens with
        | .documentStart :: rest =>
          if isContentEnd rest then some (Node.empty, { tokens := rest })
          else content? (directives.handles ++ Handles.standard) rest
        | _ => none
      else content? Handles.standard tokens
    if source.tokens.all (· == .documentEnd) then some ⟨some root, source.anchored⟩ else none

/-- The document that a text writes. -/
def read? (text : String) : Option Document := do
  if text.toList.all isAllowed then document? (← tokens? (withLineFeeds text.toList)) else none

end Labeling.Yaml
