import TemplateTree.Graph.ChildKeys

/-!
# Normalization

Gives every node that can be reached through child fields a text as its kind:
the name of its class. A kind that was something else is moved to
`original_kind`. The walk goes down a limited number of records, and it takes more
only if it goes in circles.
-/

namespace TemplateTree.Graph

/-- What to do when a declared child field holds no value. -/
inductive MissingChild where
  | error
  | skip
  deriving DecidableEq, Repr

/-- Gives a record its class name as kind, unless it has a text there that is
not empty. -/
def assignKind (graph : Graph) (value : Value) : Graph :=
  match value with
  | .ref id =>
    let current := graph.get value "kind"
    if current.str?.any (· ≠ "") then graph
    else
      let kept :=
        if current.isNull then graph else graph.setField id "original_kind" current
      kept.setField id "kind" (.str (graph.className value))
  | _ => graph

/-- The graph after a walk, also if it stopped at an empty child field. -/
inductive Outcome where
  | done (graph : Graph)
  | missing (graph : Graph) (kind field : String)
  | endless
  deriving Repr

def Outcome.andThen (outcome : Outcome) (next : Graph → Outcome) : Outcome :=
  match outcome with
  | done graph => next graph
  | missing graph kind field => missing graph kind field
  | endless => endless

def visitAll {α : Type} (visit : Graph → α → Outcome) (graph : Graph) : List α → Outcome
  | [] => .done graph
  | x :: rest => (visit graph x).andThen fun graph => visitAll visit graph rest

def visitChild (descend : Graph → Value → Outcome) (graph : Graph) (child : Value) : Outcome :=
  let graph := graph.assignKind child
  if graph.isNode child then descend graph child else .done graph

def visitKey (policy : MissingChild) (descend : Graph → Value → Outcome) (node : Value)
    (graph : Graph) (key : String) : Outcome :=
  let child := graph.get node key
  if child.isNull then
    match policy with
    | .skip => .done graph
    | .error => .missing graph ((graph.get node "kind").str?.getD "") key
  else
    match child.items? with
    | some items => visitAll (visitChild descend) graph items
    | none => visitChild descend graph child

/-- Visits the children of a value, at most `depth` records deep. -/
def normalizeWithin (policy : MissingChild) : Nat → Graph → Value → Outcome
  | 0, _, _ => .endless
  | depth + 1, graph, node =>
    visitAll (visitKey policy (normalizeWithin policy depth) node) graph (graph.childKeys node)

def walkDepth (graph : Graph) : Nat := graph.size + 2

/-- The depth for a walk that gives kinds. It may come back to a record if it has
changed another in between; a record changes at most twice, and between two
changes each is met once. -/
def visitDepth (graph : Graph) : Nat := (2 * graph.size + 1) * (graph.size + 1)

theorem size_lt_visitDepth (graph : Graph) : graph.size < graph.visitDepth :=
  Nat.le_mul_of_pos_left (graph.size + 1) (Nat.succ_pos _)

/-- Normalizes the tree below a value, or a copy of it, and gives the value that
stands for its root. -/
def normalize (policy : MissingChild) (copy : Bool) (graph : Graph) (root : Value) :
    Value × Outcome :=
  let (root, graph) := if copy then graph.duplicate root else (root, graph)
  (root, normalizeWithin policy graph.visitDepth graph root)

end TemplateTree.Graph
