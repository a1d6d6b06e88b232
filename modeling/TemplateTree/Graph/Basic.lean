import TemplateTree.Graph.Value

/-!
# Graphs of records

A graph is a numbered store of records. A record has a class and fields in
order; fields refer to other records by number, so records can be shared and
can refer back.
-/

namespace TemplateTree

/-- What a record is an instance of. Spans and positions are recognised as such
when a tree is shown; all other records are nodes of a named class. -/
inductive RecordClass where
  | node (name : String)
  | span
  | offsetSpan
  | position
  | loc
  | location
  | sourceFile
  deriving DecidableEq, Repr

def RecordClass.name : RecordClass → String
  | node name => name
  | span => "ParseSourceSpan"
  | offsetSpan => "AbsoluteSourceSpan"
  | position => "Position"
  | loc => "SourceLoc"
  | location => "ParseLocation"
  | sourceFile => "ParseSourceFile"

abbrev Fields := List (String × Value)

namespace Fields

/-- Sets a field: in its place if it is there, else at the end. -/
def set (fields : Fields) (name : String) (value : Value) : Fields :=
  match fields with
  | [] => [(name, value)]
  | (key, old) :: rest =>
    if key = name then (key, value) :: rest else (key, old) :: Fields.set rest name value

end Fields

structure Record where
  type : RecordClass
  fields : Fields
  deriving Repr

def Record.set (record : Record) (name : String) (value : Value) : Record :=
  { record with fields := record.fields.set name value }

def Record.mapRefs (f : RecordId → RecordId) (record : Record) : Record :=
  { record with fields := record.fields.map fun (name, value) => (name, value.mapRefs f) }

structure Graph where
  records : Array Record := #[]
  deriving Repr

namespace Graph

def size (graph : Graph) : Nat := graph.records.size

def fields (graph : Graph) (id : RecordId) : Fields :=
  (graph.records[id]?.map (·.fields)).getD []

def field? (graph : Graph) (id : RecordId) (name : String) : Option Value :=
  (graph.fields id).lookup name

def alloc (graph : Graph) (record : Record) : RecordId × Graph :=
  (graph.size, ⟨graph.records.push record⟩)

def setField (graph : Graph) (id : RecordId) (name : String) (value : Value) : Graph :=
  ⟨graph.records.modify id (·.set name value)⟩

def fieldsOf (graph : Graph) : Value → Fields
  | .ref id => graph.fields id
  | _ => []

/-- A field of a value, null if there is none. -/
def get (graph : Graph) (value : Value) (name : String) : Value :=
  ((graph.fieldsOf value).lookup name).getD .null

def className (graph : Graph) : Value → String
  | .null => "NoneType"
  | .bool _ => "bool"
  | .int _ => "int"
  | .float _ => "float"
  | .str _ => "str"
  | .bytes _ => "bytes"
  | .enum type _ _ => type
  | .list _ => "list"
  | .tuple _ => "tuple"
  | .dict _ => "dict"
  | .ref id => (graph.records[id]?.map (·.type.name)).getD ""

/-- A second copy of every record beside the first, referring to each other as
the first do. Gives the copy of `value` too. -/
def duplicate (graph : Graph) (value : Value) : Value × Graph :=
  let shift := (· + graph.size)
  (value.mapRefs shift, ⟨graph.records ++ graph.records.map (Record.mapRefs shift)⟩)

end Graph

end TemplateTree
