import TemplateTree.Graph.Basic

/-!
# Child fields

Which fields of a node hold its children. Known kinds have a fixed list, which
is also the order of a walk; for all other nodes the fields that look like
children are taken.
-/

namespace TemplateTree.Graph

def childKeyTable : List (String × List String) :=
  [ ("ASTWithSource", ["ast"])
  , ("Binary", ["left", "right"])
  , ("BindingPipe", ["exp"])
  , ("BoundAttribute", ["value"])
  , ("BoundEvent", ["handler"])
  , ("BoundText", ["value"])
  , ("Call", ["receiver", "args"])
  , ("Conditional", ["condition", "true_exp", "false_exp"])
  , ("Element", ["children", "inputs", "outputs", "attributes"])
  , ("Interpolation", ["expressions"])
  , ("KeyedRead", ["receiver", "key"])
  , ("PrefixNot", ["expression"])
  , ("Program", ["template_nodes"])
  , ("PropertyRead", ["receiver"])
  , ("Template", ["template_attrs", "children", "inputs"]) ]

/-- Fields that hold bookkeeping or refer back, never children. -/
def excludedKeys : List String :=
  ["comments", "leading_comments", "loc", "parent", "range", "tokens", "trailing_comments"]

/-- A node is a record whose kind is a text. -/
def isNode (graph : Graph) (value : Value) : Bool := (graph.get value "kind").str?.isSome

def looksLikeChild (graph : Graph) (name : String) (value : Value) : Bool :=
  !excludedKeys.contains name && (value.items?.isSome || graph.isNode value)

/-- The fields of a value that look as if they held children. -/
def inferredKeys (graph : Graph) (value : Value) : List String :=
  ((graph.fieldsOf value).filter fun (name, field) => graph.looksLikeChild name field).map (·.1)

def childKeys (graph : Graph) (value : Value) : List String :=
  match (graph.get value "kind").str?.bind (childKeyTable.lookup ·) with
  | some keys => keys
  | none => graph.inferredKeys value

end TemplateTree.Graph
