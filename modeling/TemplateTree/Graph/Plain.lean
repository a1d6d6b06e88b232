import TemplateTree.Config.Data
import TemplateTree.Graph.Normalize

/-!
# Plain data of a tree

A tree as nested lists and dictionaries: the kind of a node first, then its
fields, spans as pairs of offsets, enumerations by name. Fields that start with
an underscore are left out.
-/

namespace TemplateTree

inductive Plain where
  | null
  | bool (value : Bool)
  | int (value : Int)
  | float (value : Binary64)
  | str (value : String)
  | list (items : List Plain)
  | dict (entries : List (String × Plain))
  deriving Repr

inductive PlainError where
  /-- Only records have fields to show. -/
  | noFields
  /-- A span or position has lost one of its parts. -/
  | missingPart
  | endless
  deriving DecidableEq, Repr

namespace Graph

def displayParts (name : String) (parts : List (String × String)) : String :=
  name ++ "(" ++ ", ".intercalate (parts.map fun (key, text) => key ++ "=" ++ text) ++ ")"

def shownFields : RecordClass → List String
  | .span | .offsetSpan | .loc => ["start", "end"]
  | .position => ["line", "column"]
  | .location => ["offset", "line", "col"]
  | .sourceFile => ["content", "url"]
  | .node _ => []

mutual

/-- A value as data to be shown; `showRecord` shows a record. -/
def toData (showRecord : RecordId → String) : Value → Data
  | .null => .null
  | .bool b => .bool b
  | .int i => .int i
  | .float x => .float x
  | .str s => .str s
  | .bytes b => .bytes b
  | .enum type member value =>
    let text := "<" ++ type ++ "." ++ member ++ ": " ++ toString value ++ ">"
    .other text text
  | .list items => .list (toDataList showRecord items)
  | .tuple items => .tuple (toDataList showRecord items)
  | .dict entries => .dict (toDataEntries showRecord entries)
  | .ref id => .other (showRecord id) (showRecord id)

def toDataList (showRecord : RecordId → String) : List Value → List Data
  | [] => []
  | v :: rest => toData showRecord v :: toDataList showRecord rest

def toDataEntry (showRecord : RecordId → String) : Value × Value → Data × Data
  | (k, v) => (toData showRecord k, toData showRecord v)

def toDataEntries (showRecord : RecordId → String) : List (Value × Value) → List (Data × Data)
  | [] => []
  | e :: rest => toDataEntry showRecord e :: toDataEntries showRecord rest

end

def displayRecord (graph : Graph) : Nat → RecordId → String
  | 0, _ => "..."
  | depth + 1, id =>
    let type := (graph.records[id]?.map (·.type)).getD (.node "")
    displayParts type.name <| (shownFields type).map fun name =>
      (name, (toData (graph.displayRecord depth) ((graph.field? id name).getD .null)).display)

def display (graph : Graph) (value : Value) : String :=
  (toData (graph.displayRecord 4) value).display

/-- A part of a record that has to be there. -/
def part (graph : Graph) (value : Value) (name : String) : Except PlainError Value :=
  match (graph.fieldsOf value).lookup name with
  | some v => .ok v
  | none => .error .missingPart

mutual

def plainValue (graph : Graph) (plainRecord : RecordId → Except PlainError Plain) :
    Value → Except PlainError Plain
  | .null => .ok .null
  | .bool b => .ok (.bool b)
  | .int i => .ok (.int i)
  | .float x => .ok (.float x)
  | .str s => .ok (.str s)
  | .bytes b => .ok (.str (graph.display (.bytes b)))
  | .enum _ member _ => .ok (.str member)
  | .list items => do return .list (← plainValues graph plainRecord items)
  | .tuple items => do return .list (← plainValues graph plainRecord items)
  | .dict entries => .ok (.str (graph.display (.dict entries)))
  | .ref id => plainRecord id

def plainValues (graph : Graph) (plainRecord : RecordId → Except PlainError Plain) :
    List Value → Except PlainError (List Plain)
  | [] => .ok []
  | v :: rest => do
    let first ← plainValue graph plainRecord v
    let others ← plainValues graph plainRecord rest
    return first :: others

end

def isShown (name : String) : Bool := name != "kind" && name.toList.head? != some '_'

/-- The plain form of all fields of a record, its kind first if it is a text. -/
def plainFields (graph : Graph) (plainRecord : RecordId → Except PlainError Plain)
    (value : Value) : Except PlainError Plain := do
  let kind : List (String × Plain) :=
    match graph.get value "kind" with
    | .str text => [("kind", .str text)]
    | _ => []
  let fields ← ((graph.fieldsOf value).filter fun field => isShown field.1).mapM
    fun (name, field) => do return (name, ← plainValue graph plainRecord field)
  return .dict (kind ++ fields)

def plainParts (graph : Graph) (plainRecord : RecordId → Except PlainError Plain) (value : Value)
    (names : List String) : Except PlainError Plain := do
  let parts ← names.mapM fun name => do
    return (name, ← plainValue graph plainRecord (← graph.part value name))
  return .dict parts

/-- The plain form of a record, at most `depth` records deep. -/
def plainRecord (graph : Graph) : Nat → RecordId → Except PlainError Plain
  | 0, _ => .error .endless
  | depth + 1, id =>
    let below := plainValue graph (graph.plainRecord depth)
    match (graph.records[id]?.map (·.type)).getD (.node "") with
    | .span => do
      let start ← graph.part (← graph.part (.ref id) "start") "offset"
      let stop ← graph.part (← graph.part (.ref id) "end") "offset"
      return .list [← below start, ← below stop]
    | .offsetSpan => do
      let start ← graph.part (.ref id) "start"
      let stop ← graph.part (.ref id) "end"
      return .list [← below start, ← below stop]
    | .position => graph.plainParts (graph.plainRecord depth) (.ref id) ["line", "column"]
    | .loc => graph.plainParts (graph.plainRecord depth) (.ref id) ["start", "end"]
    | _ => graph.plainFields (graph.plainRecord depth) (.ref id)

/-- The plain form of a tree. Only what has fields has one. -/
def toPlain (graph : Graph) (root : Value) : Except PlainError Plain :=
  match root with
  | .ref _ => graph.plainFields (graph.plainRecord graph.walkDepth) root
  | .enum _ _ _ => .ok (.dict [])
  | _ => .error .noFields

end Graph

end TemplateTree
