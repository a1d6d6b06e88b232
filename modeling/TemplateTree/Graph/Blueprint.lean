import TemplateTree.Source.Loc
import TemplateTree.Expression.Basic
import TemplateTree.Graph.Basic

/-!
# Blueprints

A blueprint describes a value to be put into a graph: plain data, new records
with their fields, and records that were labelled before. Building one adds its
records to a graph.
-/

namespace TemplateTree

inductive Blueprint where
  | null
  | bool (value : Bool)
  | int (value : Int)
  | float (value : Binary64)
  | str (value : String)
  | bytes (value : List UInt8)
  | enum (type member : String) (value : Int)
  | list (items : List Blueprint)
  | tuple (items : List Blueprint)
  | dict (entries : List (Blueprint × Blueprint))
  | span (span : Span)
  | offsetSpan (start stop : Int)
  | position (position : Position)
  | loc (loc : Loc)
  | record (label : Option String) (name : String) (fields : List (String × Blueprint))
  | labelled (label : String)
  deriving Repr

def Blueprint.node (name : String) (fields : List (String × Blueprint)) : Blueprint :=
  .record none name fields

/-- A graph in the making: its source file, and the records labelled so far. -/
structure Site where
  graph : Graph
  file : RecordId
  labels : List (String × RecordId) := []
  deriving Repr

namespace Site

def add (site : Site) (type : RecordClass) (fields : Fields) : Value × Site :=
  let (id, graph) := site.graph.alloc ⟨type, fields⟩
  (.ref id, { site with graph })

def ofSource (source : Source) : Site :=
  let (file, graph) := Graph.alloc {} ⟨.sourceFile,
    [ ("content", .str (String.ofList source.text))
    , ("url", .str source.url)
    , ("_line_starts", .list (source.lineStarts.map fun (n : Nat) => .int n)) ]⟩
  { graph, file }

def addLocation (site : Site) (place : Location) : Value × Site :=
  site.add .location
    [ ("file", .ref site.file)
    , ("offset", .int place.offset)
    , ("line", .int place.line)
    , ("col", .int place.column) ]

def addSpan (site : Site) (span : Span) : Value × Site :=
  let (start, site) := site.addLocation span.start
  let (stop, site) := site.addLocation span.stop
  site.add .span [("start", start), ("end", stop)]

def addPosition (site : Site) (position : Position) : Value × Site :=
  site.add .position [("line", .int position.line), ("column", .int position.column)]

def addLoc (site : Site) (loc : Loc) : Value × Site :=
  let (start, site) := site.addPosition loc.start
  let (stop, site) := site.addPosition loc.stop
  site.add .loc [("start", start), ("end", stop)]

/-- Makes room for a record, under its label if it has one, before its fields
are built. -/
def reserve (site : Site) (label : Option String) (name : String) : RecordId × Site :=
  let (id, graph) := site.graph.alloc ⟨.node name, []⟩
  let labels :=
    match label with
    | some l => (l, id) :: site.labels
    | none => site.labels
  (id, { site with graph, labels })

mutual

def build (site : Site) : Blueprint → Value × Site
  | .null => (.null, site)
  | .bool b => (.bool b, site)
  | .int i => (.int i, site)
  | .float x => (.float x, site)
  | .str s => (.str s, site)
  | .bytes b => (.bytes b, site)
  | .enum type member value => (.enum type member value, site)
  | .list items =>
    let (values, site) := site.buildList items
    (.list values, site)
  | .tuple items =>
    let (values, site) := site.buildList items
    (.tuple values, site)
  | .dict entries =>
    let (values, site) := site.buildEntries entries
    (.dict values, site)
  | .span span => site.addSpan span
  | .offsetSpan start stop => site.add .offsetSpan [("start", .int start), ("end", .int stop)]
  | .position position => site.addPosition position
  | .loc loc => site.addLoc loc
  | .record label name fields =>
    let (id, site) := site.reserve label name
    (.ref id, site.buildFields id fields)
  | .labelled label => (((site.labels.lookup label).map Value.ref).getD .null, site)

def buildList (site : Site) : List Blueprint → List Value × Site
  | [] => ([], site)
  | item :: rest =>
    let (value, site) := site.build item
    let (values, site) := site.buildList rest
    (value :: values, site)

def buildEntry (site : Site) : Blueprint × Blueprint → (Value × Value) × Site
  | (key, value) =>
    let (key, site) := site.build key
    let (value, site) := site.build value
    ((key, value), site)

def buildEntries (site : Site) : List (Blueprint × Blueprint) → List (Value × Value) × Site
  | [] => ([], site)
  | entry :: rest =>
    let (entry, site) := site.buildEntry entry
    let (entries, site) := site.buildEntries rest
    (entry :: entries, site)

def buildField (site : Site) (id : RecordId) : String × Blueprint → Site
  | (name, value) =>
    let (value, site) := site.build value
    { site with graph := site.graph.setField id name value }

def buildFields (site : Site) (id : RecordId) : List (String × Blueprint) → Site
  | [] => site
  | field :: rest => (site.buildField id field).buildFields id rest

end

end Site

end TemplateTree
