/-!
# Scopes

Scopes are made one after another and known by their number. Each belongs to
the manager it was made for, may stand below an earlier scope, and is attached
to a block. Managers list scopes in the order they got them.
-/

namespace TemplateTree

structure Scope (Block : Type) where
  kind : String
  upper : Option Nat
  block : Block
  strict : Bool := false
  vars : List String := []
  references : List String := []
  through : List String := []
  children : List Nat := []
  deriving Repr

/-- All scopes made so far, and the scope list of every manager. -/
structure ScopeGraph (Block : Type) where
  scopes : List (Scope Block) := []
  managers : List (List Nat) := []
  deriving Repr

namespace ScopeGraph

variable {Block : Type}

def start (count : Nat) : ScopeGraph Block := { managers := List.replicate count [] }

def add (graph : ScopeGraph Block) (manager scope : Nat) : ScopeGraph Block :=
  { graph with managers := graph.managers.modify manager (· ++ [scope]) }

/-- Makes a scope for a manager and enters it below its upper scope. -/
def create (graph : ScopeGraph Block) (manager : Nat) (kind : String) (upper : Option Nat)
    (block : Block) (strict : Bool) : ScopeGraph Block :=
  let made := graph.scopes.length
  let linked :=
    match upper with
    | none => graph.scopes
    | some u =>
      graph.scopes.modify u fun scope => { scope with children := scope.children ++ [made] }
  let grown : ScopeGraph Block :=
    { graph with scopes := linked ++ [{ kind, upper, block, strict }] }
  grown.add manager made

def scopesOf (graph : ScopeGraph Block) (manager : Nat) : List Nat :=
  graph.managers.getD manager []

def globalScope? (graph : ScopeGraph Block) (manager : Nat) : Option Nat :=
  (graph.scopesOf manager).head?

/-- The last scope of a manager that is attached to `block`. -/
def acquire? [DecidableEq Block] (graph : ScopeGraph Block) (manager : Nat) (block : Block) :
    Option Nat :=
  (graph.scopesOf manager).reverse.find? fun scope =>
    (graph.scopes[scope]?.map (·.block)) == some block

end ScopeGraph

end TemplateTree
