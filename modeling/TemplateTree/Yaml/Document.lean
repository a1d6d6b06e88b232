import TemplateTree.Config.Listing
import TemplateTree.Yaml.Node
import TemplateTree.Yaml.Value

/-!
# Documents

The data that a document stands for. Mappings may take over the entries of others by
a merge key; a repeated key keeps its place and takes the last value. A collection may
hold itself, and is then shown in short where it comes again.
-/

namespace TemplateTree.Yaml

open Text (Chars Codes)

def Tag.isCollection : Tag → Bool
  | seq | map | set | omap | pairs => true
  | _ => false

def Node.tag : Node → Tag
  | scalar tag _ => tag
  | sequence _ tag _ => tag
  | mapping _ tag _ => tag
  | again _ => .null

def Node.withTag (tag : Tag) : Node → Node
  | scalar _ text => .scalar tag text
  | sequence number _ items => .sequence number tag items
  | mapping number _ entries => .mapping number tag entries
  | node => node

namespace Document

def resolve (document : Document) : Node → Node
  | .again number => (document.collections.lookup number).getD .empty
  | node => node

/-! ## Scalars -/

/-- The text of a node as a scalar. A mapping has the one behind its equals sign. -/
def scalarText? (document : Document) : Nat → Node → Option Codes
  | 0, _ => none
  | depth + 1, node =>
    match document.resolve node with
    | .scalar _ text => some text
    | .mapping _ _ entries =>
      match entries.find? fun (key, _) => (document.resolve key).tag == .value with
      | some (_, value) => document.scalarText? depth value
      | none => none
    | _ => none

def scalarData (document : Document) (node : Node) : Scan Data :=
  match node with
  | .scalar tag text => scalarOf tag text
  | node =>
    match node.tag, document.scalarText? document.bound node with
    | .timestamp, some _ => .error .timeNotScalar
    | tag, some text => scalarOf tag text
    | _, none => .error .invalid

/-! ## Merging -/

/-- An equals sign as a key is a text. -/
def plainKey (document : Document) (key : Node) : Node :=
  let key := document.resolve key
  if key.tag == .value then key.withTag .str else key

/-- The entries of a mapping with merged ones in front. Of several mappings the first
comes last, so that it wins. `inside` holds the mappings that are being merged: one of
them adds only its own entries. -/
def flatten (document : Document) :
    Nat → List Nat → List (Node × Node) → Scan (List (Node × Node))
  | 0, _, _ => .error .invalid
  | depth + 1, inside, entries => do
    let isMerge (entry : Node × Node) : Bool := (document.resolve entry.1).tag == .merge
    let ownOf (entries : List (Node × Node)) : List (Node × Node) :=
      (entries.filter (!isMerge ·)).map fun (key, value) => (document.plainKey key, value)
    let mergedFrom (node : Node) : Scan (List (Node × Node)) :=
      match document.resolve node with
      | .mapping number _ entries =>
        if inside.contains number then .ok (ownOf entries)
        else document.flatten depth (number :: inside) entries
      | _ => .error .invalid
    let merged ← (entries.filter isMerge).mapM fun (_, value) =>
      match document.resolve value with
      | .sequence _ _ items => do
        let parts ← items.mapM mergedFrom
        .ok parts.reverse.flatten
      | node => mergedFrom node
    .ok (merged.flatten ++ ownOf entries)

def entriesOf (document : Document) (number : Nat) (entries : List (Node × Node)) :
    Scan (List (Node × Node)) :=
  document.flatten document.bound [number] entries

/-! ## Faults -/

/-- What is checked when a node is met: a scalar has its value at once, a collection is
looked into later. -/
def meet (document : Document) (node : Node) : Scan Unit :=
  let node := document.resolve node
  if node.tag.isCollection then .ok ()
  else do
    let _ ← document.scalarData node
    .ok ()

/-- Only what cannot change is a key. -/
def meetEntry (document : Document) (entry : Node × Node) : Scan Unit := do
  document.meet entry.1
  if (document.resolve entry.1).tag.isCollection then .error .invalid else document.meet entry.2

def meetPair (document : Document) (item : Node) : Scan (List Node) :=
  match document.resolve item with
  | .mapping _ _ [(key, value)] => do
    document.meet key
    document.meet value
    .ok [key, value]
  | _ => .error .invalid

def lookInto (document : Document) : Node → Scan (List Node)
  | .sequence _ .seq items => do
    items.forM document.meet
    .ok items
  | .sequence _ .omap items => do .ok (← items.mapM document.meetPair).flatten
  | .sequence _ .pairs items => do .ok (← items.mapM document.meetPair).flatten
  | .mapping number .map entries => do
    let entries ← document.entriesOf number entries
    entries.forM document.meetEntry
    .ok (entries.map (·.2))
  | .mapping number .set entries => do
    let entries ← document.entriesOf number entries
    entries.forM document.meetEntry
    .ok (entries.map (·.2))
  | _ => .error .invalid

/-- The collections among some nodes that have not been met, and the numbers of those
that have. -/
def unseen (document : Document) (seen : List Nat) : List Node → List Nat × List Node
  | [] => (seen, [])
  | node :: rest =>
    let node := document.resolve node
    let next (seen : List Nat) : List Nat × List Node :=
      let (seen, more) := document.unseen seen rest
      (seen, node :: more)
    if !node.tag.isCollection then document.unseen seen rest
    else
      match node with
      | .sequence number _ _ =>
        if seen.contains number then document.unseen seen rest else next (number :: seen)
      | .mapping number _ _ =>
        if seen.contains number then document.unseen seen rest else next (number :: seen)
      | _ => next seen

/-- Looks into collections one after the other, each once; those found go to the end of
the row. The first fault counts. -/
def checkAll (document : Document) : Nat → List Nat → List Node → Scan Unit
  | 0, _, _ => .ok ()
  | _, _, [] => .ok ()
  | steps + 1, seen, node :: rest => do
    let parts ← document.lookInto node
    let (seen, found) := document.unseen seen parts
    document.checkAll steps seen (rest ++ found)

def check (document : Document) : Scan Unit := do
  document.meet document.root
  let (seen, found) := document.unseen [] [document.root]
  document.checkAll (document.bound * document.bound) seen found

/-! ## Data -/

/-- The data of a node in collections that are being shown. -/
def dataIn (document : Document) : Nat → List Nat → Node → Data
  | 0, _, _ => .null
  | depth + 1, inside, node =>
    let again (text : String) : Data := .other text text
    match document.resolve node with
    | .sequence number .seq items =>
      if inside.contains number then again "[...]"
      else .list (items.map (document.dataIn depth (number :: inside)))
    | .sequence number _ items =>
      if inside.contains number then again "[...]"
      else
        .list (items.map fun item =>
          match document.resolve item with
          | .mapping _ _ [(key, value)] =>
            .tuple [document.dataIn depth (number :: inside) key,
              document.dataIn depth (number :: inside) value]
          | _ => .null)
    | .mapping number tag entries =>
      if !tag.isCollection then
        ((document.scalarData (.mapping number tag entries)).toOption).getD .null
      else if inside.contains number then again "\x7b...\x7d"
      else
        let entries := ((document.entriesOf number entries).toOption).getD []
        let shown := entries.foldl (fun acc (key, value) =>
          let key := document.dataIn depth (number :: inside) key
          Data.insertEntry acc key (document.dataIn depth (number :: inside) value)) []
        if tag == .set then .ofElements (shown.map (·.1)) else .dict shown
    | node => ((document.scalarData node).toOption).getD .null

def data (document : Document) (node : Node) : Data := document.dataIn (document.bound + 1) [] node

def entries? (document : Document) (node : Node) : Option (List (Data × Node)) :=
  match document.resolve node with
  | .mapping number .map entries =>
    match document.entriesOf number entries with
    | .ok entries =>
      some (entries.foldl (fun acc (key, value) =>
        Data.insertEntry acc (document.data key) value) [])
    | .error _ => none
  | _ => none

end Document

def load (text : Chars) : Scan (Option Document) := do
  match ← Document.ofTokens (Token.scan text) with
  | none => .ok none
  | some document => do
    document.check
    .ok (some document)

end TemplateTree.Yaml
