import Labeling.Yaml.Token

/-!
# Nodes of YAML

The nodes that tokens write. A node may carry an anchor, and a reference stands for the node of an
anchor before it. Anchors are numbered: a name's number is how many names were known before it, so
that a name given again takes the number of the next new one, and of the nodes of one number the
last counts.
-/
namespace Labeling.Yaml

/-- A scalar with its style and its tag, if that is not left open. -/
structure Scalar where
  /-- The text. -/
  text : String
  /-- How it is written. -/
  style : Style := .plain
  /-- The tag. -/
  tag : Option String := none
deriving DecidableEq, Repr

/-- A node. -/
inductive Node where
  /-- A scalar. -/
  | scalar (content : Scalar)
  /-- A sequence of nodes. -/
  | sequence (items : List Node)
  /-- Keys with their values, in order. -/
  | mapping (entries : List (Node × Node))
  /-- The node of the anchor with a number. -/
  | reference (anchor : Nat)

/-- The node that stands where nothing is written. -/
def Node.empty : Node := .scalar ⟨"", .plain, none⟩

/-- What the handles of tags stand for. -/
abbrev Handles := List (String × String)

/-- The handles that need no directive. -/
def Handles.standard : Handles := [("!", "!"), ("!!", "tag:yaml.org,2002:")]

/-- The tokens that are left, and the anchors so far. -/
structure Source where
  /-- The tokens that are left. -/
  tokens : List Token
  /-- The numbers of the anchors' names. -/
  numbers : List (String × Nat) := []
  /-- The scalars of the numbered nodes, the last first; a node that is none has none. -/
  anchored : List (Nat × Option Scalar) := []

namespace Source

/-- The source with other tokens left. -/
def leaving (source : Source) (tokens : List Token) : Source := { source with tokens := tokens }

/-- The source with an anchor for a node. -/
def mark (source : Source) (anchor : Option String) (content : Option Scalar) : Source :=
  match anchor with
  | none => source
  | some name =>
    let number := source.numbers.length
    { source with
      numbers := (name, number) :: source.numbers.filter (·.1 != name)
      anchored := (number, content) :: source.anchored }

end Source

/-- What may be written in front of a node. -/
structure Properties where
  /-- The anchor. -/
  anchor : Option String := none
  /-- The handle and the suffix of the tag. -/
  tag : Option (String × String) := none

/-- The properties in front of a node, in any order, and the tokens behind them. -/
def Properties.read : List Token → Properties × List Token
  | .anchor name :: .tag handle suffix :: rest => (⟨some name, some (handle, suffix)⟩, rest)
  | .tag handle suffix :: .anchor name :: rest => (⟨some name, some (handle, suffix)⟩, rest)
  | .anchor name :: rest => (⟨some name, none⟩, rest)
  | .tag handle suffix :: rest => (⟨none, some (handle, suffix)⟩, rest)
  | rest => (⟨none, none⟩, rest)

/-- The whole tag. Its handle must be known. -/
def Properties.wholeTag? (properties : Properties) (handles : Handles) : Option (Option String) :=
  match properties.tag with
  | none => some none
  | some ("", suffix) => some (some suffix)
  | some (handle, suffix) => (handles.lookup handle).map fun start => some (start ++ suffix)

/-- Whether a node is left out in front of a token inside a mapping by indentation. -/
def endsBlockNode : Option Token → Bool
  | some .key => true
  | some .value => true
  | some .blockEnd => true
  | _ => false

/-- Whether an item is left out in front of a token. -/
def endsItem : Option Token → Bool
  | some .item => true
  | some .blockEnd => true
  | _ => false

/-- Whether an item of a sequence that is not indented is left out in front of a token. -/
def endsUnindentedItem (token : Option Token) : Bool :=
  token == some .item || endsBlockNode token

/-- Whether a value is left out in front of a token inside brackets. -/
def endsFlowNode (closing : Token) (token : Option Token) : Bool :=
  token == some .comma || token == some closing

mutual

/-- Read a node. A block is one that goes by indentation; the items of a sequence that is the value
of a key need not be indented. -/
def node? (handles : Handles) : Nat → Bool → Bool → Source → Option (Node × Source)
  | 0, _, _, _ => none
  | fuel + 1, isBlock, isUnindented, source =>
    match source.tokens with
    | .reference name :: rest =>
      (source.numbers.lookup name).map fun number => (.reference number, source.leaving rest)
    | tokens => do
      let (properties, tokens) := Properties.read tokens
      let tag ← properties.wholeTag? handles
      let collection := source.mark properties.anchor none
      match tokens, isBlock with
      | .item :: _, _ =>
        if isUnindented then unindentedItems handles fuel [] (collection.leaving tokens) else
        if properties.anchor.isSome || tag.isSome then
          let content : Scalar := ⟨"", .plain, tag⟩
          some (.scalar content, (source.mark properties.anchor (some content)).leaving tokens)
        else none
      | .scalar text style :: rest, _ =>
        let content : Scalar := ⟨text, style, tag.filter (· != "!")⟩
        some (.scalar content, (source.mark properties.anchor (some content)).leaving rest)
      | .flowSequence :: rest, _ => flowItems handles fuel [] (collection.leaving rest)
      | .flowMapping :: rest, _ => flowEntries handles fuel [] (collection.leaving rest)
      | .blockSequence :: rest, true => blockItems handles fuel [] (collection.leaving rest)
      | .blockMapping :: rest, true => blockEntries handles fuel [] (collection.leaving rest)
      | tokens, _ =>
        if properties.anchor.isSome || tag.isSome then
          let content : Scalar := ⟨"", .plain, tag⟩
          some (.scalar content, (source.mark properties.anchor (some content)).leaving tokens)
        else none

/-- Read the items of a sequence by indentation; those read so far are reversed. -/
def blockItems (handles : Handles) : Nat → List Node → Source → Option (Node × Source)
  | 0, _, _ => none
  | fuel + 1, built, source =>
    match source.tokens with
    | .item :: rest => do
      let (item, source) ←
        if endsItem rest.head? then some (.empty, source.leaving rest)
        else node? handles fuel true false (source.leaving rest)
      blockItems handles fuel (item :: built) source
    | .blockEnd :: rest => some (.sequence built.reverse, source.leaving rest)
    | _ => none

/-- Read the items of a sequence that is not indented; those read so far are reversed. -/
def unindentedItems (handles : Handles) : Nat → List Node → Source → Option (Node × Source)
  | 0, _, _ => none
  | fuel + 1, built, source =>
    match source.tokens with
    | .item :: rest => do
      let (item, source) ←
        if endsUnindentedItem rest.head? then some (.empty, source.leaving rest)
        else node? handles fuel true false (source.leaving rest)
      unindentedItems handles fuel (item :: built) source
    | _ => some (.sequence built.reverse, source)

/-- Read the entries of a mapping by indentation; those read so far are reversed. -/
def blockEntries (handles : Handles) : Nat → List (Node × Node) → Source → Option (Node × Source)
  | 0, _, _ => none
  | fuel + 1, built, source =>
    match source.tokens with
    | .key :: rest => do
      let (key, source) ← blockNode handles fuel (source.leaving rest)
      let (content, source) ← match source.tokens with
        | .value :: rest => blockNode handles fuel (source.leaving rest)
        | _ => some (.empty, source)
      blockEntries handles fuel ((key, content) :: built) source
    | .blockEnd :: rest => some (.mapping built.reverse, source.leaving rest)
    | _ => none

/-- Read a key or a value of a mapping by indentation, which may be left out. -/
def blockNode (handles : Handles) : Nat → Source → Option (Node × Source)
  | 0, _ => none
  | fuel + 1, source =>
    if endsBlockNode source.tokens.head? then some (.empty, source)
    else node? handles fuel true true source

/-- Read the items of a sequence in brackets; those read so far are reversed. -/
def flowItems (handles : Handles) : Nat → List Node → Source → Option (Node × Source)
  | 0, _, _ => none
  | fuel + 1, built, source =>
    let tokens := match built, source.tokens with
      | [], tokens => some tokens
      | _, .flowSequenceEnd :: rest => some (.flowSequenceEnd :: rest)
      | _, .comma :: rest => some rest
      | _, _ => none
    match tokens with
    | none => none
    | some (.flowSequenceEnd :: rest) => some (.sequence built.reverse, source.leaving rest)
    | some (.key :: rest) => do
      let (pair, source) ← flowPair handles fuel (source.leaving rest)
      flowItems handles fuel (pair :: built) source
    | some tokens => do
      let (item, source) ← node? handles fuel false false (source.leaving tokens)
      flowItems handles fuel (item :: built) source

/-- Read a mapping of one key in a sequence in brackets. A key that is left out takes the token
behind it along. -/
def flowPair (handles : Handles) : Nat → Source → Option (Node × Source)
  | 0, _ => none
  | fuel + 1, source => do
    let isLeftOut := source.tokens.head? == some .value
      || endsFlowNode .flowSequenceEnd source.tokens.head?
    let (key, source) ←
      if isLeftOut then some (.empty, source.leaving (source.tokens.drop 1))
      else node? handles fuel false false source
    let (content, source) ← match source.tokens with
      | .value :: rest =>
        if endsFlowNode .flowSequenceEnd rest.head? then some (.empty, source.leaving rest)
        else node? handles fuel false false (source.leaving rest)
      | _ => some (.empty, source)
    some (.mapping [(key, content)], source)

/-- Read the entries of a mapping in braces; those read so far are reversed. -/
def flowEntries (handles : Handles) : Nat → List (Node × Node) → Source → Option (Node × Source)
  | 0, _, _ => none
  | fuel + 1, built, source =>
    let tokens := match built, source.tokens with
      | [], tokens => some tokens
      | _, .flowMappingEnd :: rest => some (.flowMappingEnd :: rest)
      | _, .comma :: rest => some rest
      | _, _ => none
    match tokens with
    | none => none
    | some (.flowMappingEnd :: rest) => some (.mapping built.reverse, source.leaving rest)
    | some (.key :: rest) => do
      let source := source.leaving rest
      let isLeftOut := rest.head? == some .value || endsFlowNode .flowMappingEnd rest.head?
      let (key, source) ←
        if isLeftOut then some (.empty, source) else node? handles fuel false false source
      let (content, source) ← match source.tokens with
        | .value :: rest =>
          if endsFlowNode .flowMappingEnd rest.head? then some (.empty, source.leaving rest)
          else node? handles fuel false false (source.leaving rest)
        | _ => some (.empty, source)
      flowEntries handles fuel ((key, content) :: built) source
    | some tokens => do
      let (key, source) ← node? handles fuel false false (source.leaving tokens)
      flowEntries handles fuel ((key, .empty) :: built) source

end

end Labeling.Yaml
