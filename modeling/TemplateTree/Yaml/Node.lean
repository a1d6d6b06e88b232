import TemplateTree.Yaml.Tag
import TemplateTree.Yaml.Token

/-!
# Nodes of a document

The tokens of a text form one document at most: a tree of tagged scalars,
sequences and mappings. Every collection has a number of its own. An alias of a
scalar is replaced by it; an alias of a collection holds its number, since the
collection may be one that the alias stands in.
-/

namespace TemplateTree.Yaml

open Text (Chars Codes)

inductive Node where
  | scalar (tag : Tag) (text : Codes)
  | sequence (number : Nat) (tag : Tag) (items : List Node)
  | mapping (number : Nat) (tag : Tag) (entries : List (Node × Node))
  /-- The collection of this number. -/
  | again (number : Nat)
  deriving Repr

def Node.empty : Node := .scalar .null []

/-- What is known while nodes are read: tag handles, what anchors name, and the
collections with anchors. -/
structure Context where
  handles : List (Chars × Chars) := []
  anchors : List (Chars × Node) := []
  collections : List (Nat × Node) := []

namespace Context

def name (context : Context) (anchor : Option Chars) (node : Node) : Context :=
  match anchor with
  | none => context
  | some name => { context with anchors := (name, node) :: context.anchors }

def keep (context : Context) (anchor : Option Chars) (number : Nat) (node : Node) : Context :=
  match anchor with
  | none => context
  | some _ => { context with collections := (number, node) :: context.collections }

/-- The full name of a tag; the bare bang counts as no tag. -/
def tagName (context : Context) (handle : Option Chars) (suffix : Chars) :
    Scan (Option Chars) :=
  match handle with
  | none => .ok (if suffix == ['!'] then none else some suffix)
  | some h =>
    match context.handles.lookup h with
    | none => .error .invalid
    | some mapped =>
      let name := mapped ++ suffix
      .ok (if name == ['!'] then none else some name)

end Context

structure Properties where
  anchor : Option Chars := none
  tag : Option Chars := none
  /-- Whether a tag was written, if only the bare bang. -/
  tagged : Bool := false

def faultAt : List Token → YamlError
  | .broken error :: _ => error
  | _ => .invalid

def readProperties (context : Context) (tokens : List Token) :
    Scan (Properties × List Token) :=
  match tokens with
  | .tag _ _ :: .broken error :: _ => .error error
  | .anchor a :: .tag h s :: rest => do
    .ok (⟨some a, ← context.tagName h s, true⟩, rest)
  | .tag h s :: .anchor a :: rest => do
    .ok (⟨some a, ← context.tagName h s, true⟩, rest)
  | .anchor a :: rest => .ok (⟨some a, none, false⟩, rest)
  | .tag h s :: rest => do .ok (⟨none, ← context.tagName h s, true⟩, rest)
  | rest => .ok ({}, rest)

/-- The tag of a scalar: the one written, else the one its text asks for if it
is plain or has the bare bang. -/
def Properties.scalarTag (properties : Properties) (text : Codes) (plain : Bool) : Tag :=
  match properties.tag with
  | some name => .ofName name
  | none => if plain || properties.tagged then .ofCodes text else .str

def Properties.collectionTag (properties : Properties) (default : Tag) : Tag :=
  (properties.tag.map Tag.ofName).getD default

/-- Where a node may stand: in brackets, or in an indented block; and whether an
unindented sequence may stand there. -/
inductive Position where
  | flow
  | block
  | blockOrEntries
  deriving DecidableEq, Repr

def endsEntry (enders : List Token) : List Token → Bool
  | [] => false
  | token :: _ => enders.contains token

mutual

def readNode : Nat → Position → Context → List Token → Scan (Node × Context × List Token)
  | 0, _, _, _ => .error .invalid
  | fuel + 1, position, context, tokens =>
    match tokens with
    | .aliasOf name :: rest =>
      match context.anchors.lookup name with
      | some node => .ok (node, context, rest)
      | none => .error .invalid
    | _ => do
      let (properties, rest) ← readProperties context tokens
      if let .broken error :: _ := rest then .error error
      else if properties.anchor.any fun a => (context.anchors.lookup a).isSome then
        .error .invalid
      else
        let number := tokens.length
        let inside := context.name properties.anchor (.again number)
        let finish (node : Node) (context : Context) (rest : List Token) :
            Scan (Node × Context × List Token) :=
          .ok (node, context.keep properties.anchor number node, rest)
        let sequence := Node.sequence number (properties.collectionTag .seq)
        let mapping := Node.mapping number (properties.collectionTag .map)
        let scalar (text : Codes) (plain : Bool) (rest : List Token) :
            Scan (Node × Context × List Token) :=
          let node := Node.scalar (properties.scalarTag text plain) text
          .ok (node, context.name properties.anchor node, rest)
        match rest, position with
        | .scalar text plain :: rest, _ => scalar text plain rest
        | .flowSequenceStart :: rest, _ =>
          let (items, context, rest) ← readFlowItems fuel true inside rest
          finish (sequence items) context rest
        | .flowMappingStart :: rest, _ =>
          let (entries, context, rest) ← readFlowEntries fuel true inside rest
          finish (mapping entries) context rest
        | .blockEntry :: rest, .blockOrEntries =>
          let (items, context, rest) ← readBlockItems fuel false inside (.blockEntry :: rest)
          finish (sequence items) context rest
        | .blockSequenceStart :: rest, .block | .blockSequenceStart :: rest, .blockOrEntries =>
          let (items, context, rest) ← readBlockItems fuel true inside rest
          finish (sequence items) context rest
        | .blockMappingStart :: rest, .block | .blockMappingStart :: rest, .blockOrEntries =>
          let (entries, context, rest) ← readBlockEntries fuel inside rest
          finish (mapping entries) context rest
        | rest, _ =>
          if properties.anchor.isSome || properties.tagged then scalar [] true rest
          else .error .invalid

/-- Entries of a sequence, each behind its dash. An indented sequence has an end
of its own. -/
def readBlockItems : Nat → Bool → Context → List Token → Scan (List Node × Context × List Token)
  | 0, _, _, _ => .error .invalid
  | fuel + 1, indented, context, tokens =>
    match tokens with
    | .blockEntry :: rest => do
      let enders : List Token :=
        if indented then [.blockEntry, .blockEnd] else [.blockEntry, .key, .value, .blockEnd]
      let (item, context, rest) ←
        if endsEntry enders rest then .ok (Node.empty, context, rest)
        else readNode fuel .block context rest
      let (items, context, rest) ← readBlockItems fuel indented context rest
      .ok (item :: items, context, rest)
    | .blockEnd :: rest =>
      .ok ([], context, if indented then rest else .blockEnd :: rest)
    | rest => if indented then .error (faultAt rest) else .ok ([], context, rest)

def readBlockEntries :
    Nat → Context → List Token → Scan (List (Node × Node) × Context × List Token)
  | 0, _, _ => .error .invalid
  | fuel + 1, context, tokens =>
    let enders : List Token := [.key, .value, .blockEnd]
    match tokens with
    | .key :: rest => do
      let (key, context, rest) ←
        if endsEntry enders rest then .ok (Node.empty, context, rest)
        else readNode fuel .blockOrEntries context rest
      let (value, context, rest) ←
        match rest with
        | .value :: rest =>
          if endsEntry enders rest then .ok (Node.empty, context, rest)
          else readNode fuel .blockOrEntries context rest
        | rest => .ok (Node.empty, context, rest)
      let (entries, context, rest) ← readBlockEntries fuel context rest
      .ok ((key, value) :: entries, context, rest)
    | .blockEnd :: rest => .ok ([], context, rest)
    | rest => .error (faultAt rest)

def readFlowPair :
    Nat → Token → Context → List Token → Scan ((Node × Node) × Context × List Token)
  | 0, _, _, _ => .error .invalid
  | fuel + 1, closing, context, tokens => do
    let (key, context, rest) ←
      if endsEntry [.value, .flowEntry, closing] tokens then .ok (Node.empty, context, tokens)
      else readNode fuel .flow context tokens
    let (value, context, rest) ←
      match rest with
      | .value :: rest =>
        if endsEntry [.flowEntry, closing] rest then .ok (Node.empty, context, rest)
        else readNode fuel .flow context rest
      | rest => .ok (Node.empty, context, rest)
    .ok ((key, value), context, rest)

def readFlowItems : Nat → Bool → Context → List Token → Scan (List Node × Context × List Token)
  | 0, _, _, _ => .error .invalid
  | fuel + 1, isFirst, context, tokens =>
    match tokens with
    | .flowSequenceEnd :: rest => .ok ([], context, rest)
    | tokens => do
      let tokens ←
        match isFirst, tokens with
        | true, tokens => .ok tokens
        | false, .flowEntry :: rest => .ok rest
        | false, rest => .error (faultAt rest)
      match tokens with
      | .flowSequenceEnd :: rest => .ok ([], context, rest)
      | .key :: rest =>
        let (pair, context, rest) ← readFlowPair fuel .flowSequenceEnd context rest
        let (items, context, rest) ← readFlowItems fuel false context rest
        .ok (.mapping tokens.length .map [pair] :: items, context, rest)
      | tokens =>
        let (item, context, rest) ← readNode fuel .flow context tokens
        let (items, context, rest) ← readFlowItems fuel false context rest
        .ok (item :: items, context, rest)

def readFlowEntries :
    Nat → Bool → Context → List Token → Scan (List (Node × Node) × Context × List Token)
  | 0, _, _, _ => .error .invalid
  | fuel + 1, isFirst, context, tokens =>
    match tokens with
    | .flowMappingEnd :: rest => .ok ([], context, rest)
    | tokens => do
      let tokens ←
        match isFirst, tokens with
        | true, tokens => .ok tokens
        | false, .flowEntry :: rest => .ok rest
        | false, rest => .error (faultAt rest)
      match tokens with
      | .flowMappingEnd :: rest => .ok ([], context, rest)
      | .key :: rest =>
        let (pair, context, rest) ← readFlowPair fuel .flowMappingEnd context rest
        let (entries, context, rest) ← readFlowEntries fuel false context rest
        .ok (pair :: entries, context, rest)
      | tokens =>
        let (key, context, rest) ← readNode fuel .flow context tokens
        let (entries, context, rest) ← readFlowEntries fuel false context rest
        .ok ((key, Node.empty) :: entries, context, rest)

end

def readDirectives : List Token → Bool → List (Chars × Chars) →
    Scan (List (Chars × Chars) × List Token)
  | .version major :: rest, seen, handles =>
    if seen || major != 1 then .error .invalid else readDirectives rest true handles
  | .tagHandle handle mapped :: rest, seen, handles =>
    if (handles.lookup handle).isSome then .error .invalid
    else readDirectives rest seen ((handle, mapped) :: handles)
  | .otherDirective :: rest, seen, handles => readDirectives rest seen handles
  | rest, _, handles => .ok (handles, rest)

def defaultHandles : List (Chars × Chars) := [(['!'], ['!']), (['!', '!'], standardPart.toList)]

def isDirective : Token → Bool
  | .version _ | .tagHandle _ _ | .otherDirective => true
  | _ => false

def endsDocument : List Token → Bool
  | [] => true
  | token :: _ => isDirective token || token == .documentStart || token == .documentEnd

structure Document where
  root : Node
  collections : List (Nat × Node) := []
  /-- More than there are collections. -/
  bound : Nat
  deriving Repr

def onlyDocument (bound : Nat) (node : Node) (collections : List (Nat × Node))
    (rest : List Token) : Scan (Option Document) :=
  match rest.dropWhile (· == .documentEnd) with
  | [] => .ok (some ⟨node, collections, bound⟩)
  | rest => do
    let (_, rest) ← readDirectives rest false []
    .error (faultAt rest)

def Document.ofTokens (tokens : List Token) : Scan (Option Document) := do
  let bound := tokens.length + 1
  let fuel := 4 * (tokens.length + 2)
  let starts : Bool :=
    match tokens with
    | [] => false
    | token :: _ => !(isDirective token || token == .documentStart)
  if starts then
    let (node, context, rest) ← readNode fuel .block { handles := defaultHandles } tokens
    onlyDocument bound node context.collections rest
  else
    match tokens with
    | [] => .ok none
    | tokens =>
      let (handles, rest) ← readDirectives tokens false []
      match rest with
      | .documentStart :: rest =>
        if endsDocument rest then onlyDocument bound Node.empty [] rest
        else
          let context : Context := { handles := handles ++ defaultHandles }
          let (node, context, rest) ← readNode fuel .block context rest
          onlyDocument bound node context.collections rest
      | rest => .error (faultAt rest)

end TemplateTree.Yaml
