import TemplateTree.Config.Basic
import TemplateTree.Graph.Walk
import TemplateTree.Program.Records
import TemplateTree.Scope

/-!
# Analysis of a template

A template is parsed, put below a `Program` record, and normalized. The result
also measures the document and holds its one scope.
-/

namespace TemplateTree

open Text (Chars)

structure Program where
  text : Chars
  nodes : List Node
  comments : List CommentToken
  range : Nat × Nat
  loc : Loc
  deriving Repr

/-- The document of a parsed template; without nodes it is empty. -/
def Program.ofTemplate (code : Chars) (parsed : ParsedTemplate) : Program :=
  let extent := Extent.ofNodes? (parsed.nodes.map (·.exposed))
  { text := code
    nodes := parsed.nodes
    comments := CommentToken.ofComments (parsed.comments.getD [])
    range := (extent.map (·.range)).getD (0, 0)
    loc := (extent.map (·.loc)).getD {} }

def Program.blueprint (program : Program) : Blueprint :=
  .node "Program"
    [ ("text", .text program.text)
    , ("template_nodes", .list (nodeBlueprints program.nodes))
    , ("comments", .list (program.comments.map (·.blueprint)))
    , ("tokens", .list [])
    , ("range", .tuple [.int program.range.1, .int program.range.2])
    , ("loc", .loc program.loc)
    , ("kind", .str "Program") ]

structure Analysis where
  program : Program
  graph : Graph
  root : Value
  scopes : ScopeGraph RecordId

inductive AnalysisError where
  | template (error : TemplateError)
  | malformed (kind field : String)
  | endless
  deriving DecidableEq, Repr

def malformedMessage (kind field : String) : String :=
  "Node of kind '" ++ kind ++ "' has no value for child field '" ++ field ++ "'"

/-- The scopes of a template: one module scope, attached to its root. -/
def moduleScope (root : RecordId) : ScopeGraph RecordId :=
  (ScopeGraph.start 1).create 0 "module" none root false

def Analysis.ofTemplate (code : Chars) (parsed : ParsedTemplate) (config : Config) :
    Except AnalysisError Analysis :=
  let program := Program.ofTemplate code parsed
  let (root, site) := (Site.ofSource parsed.source).build program.blueprint
  match (site.graph.normalize config.missingChild false root).2 with
  | .missing _ kind field => .error (.malformed kind field)
  | .endless => .error .endless
  | .done graph =>
    let id :=
      match root with
      | .ref id => id
      | _ => 0
    .ok { program, graph, root, scopes := moduleScope id }

def analyze (code : Chars) (path : String) (config : Config) : Except AnalysisError Analysis :=
  match parseTemplate code path config.parseOptions with
  | .error error => .error (.template error)
  | .ok parsed => Analysis.ofTemplate code parsed config

end TemplateTree
