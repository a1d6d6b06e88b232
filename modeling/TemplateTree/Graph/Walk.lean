import TemplateTree.Graph.Normalize

/-!
# Walking a tree

A value and every node below it, parents before children, in the order of the
child fields.
-/

namespace TemplateTree.Graph

def childrenAt (graph : Graph) (node : Value) (key : String) : List Value :=
  let child := graph.get node key
  (child.items?.getD [child]).filter graph.isNode

def children (graph : Graph) (node : Value) : List Value :=
  (graph.childKeys node).flatMap (graph.childrenAt node)

/-- Joins the results for all elements, if there is one for each. -/
def joinAll {α β : Type} (f : α → Option (List β)) : List α → Option (List β)
  | [] => some []
  | x :: rest => do return (← f x) ++ (← joinAll f rest)

/-- The walk from a value, if it goes less than `depth` records deep. -/
def walkWithin (graph : Graph) : Nat → Value → Option (List Value)
  | 0, _ => none
  | depth + 1, node => do
    return node :: (← joinAll (graph.walkWithin depth) (graph.children node))

def walk? (graph : Graph) (root : Value) : Option (List Value) :=
  graph.walkWithin graph.walkDepth root

end TemplateTree.Graph
