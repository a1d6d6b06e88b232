import TemplateTree.Console.Table
import TemplateTree.Console.Tree
import TemplateTree.Graph.Plain
import TemplateTree.Program.Analysis

/-!
# Reports

What is shown of a template: its tree, its comments, and the table of child fields.
Names and texts of the template are put into the markup as they are.
-/

namespace TemplateTree.Command

open Text (Chars)
open Console (Tree Table)

def styled (style : String) (text : Chars) : Chars :=
  ("[" ++ style ++ "]").toList ++ text ++ "[/]".toList

def rangeText (start stop : String) : Chars := ("[" ++ start ++ ", " ++ stop ++ ")").toList

def offsetText (graph : Graph) (place : Value) : String :=
  graph.display (((graph.fieldsOf place).lookup "offset").getD place)

/-- How the kind that a node had before is shown. -/
def kindText? (graph : Graph) : Value → Option String
  | .null => none
  | .enum _ member _ => some member
  | .str text => some text
  | value => some (graph.display value)

def labelParts (graph : Graph) (node : Value) : List Chars :=
  let kind := ((graph.get node "kind").str?.getD "").toList
  let name := (graph.get node "name").str?.map String.toList
  let former := (kindText? graph (graph.get node "original_kind")).map fun text =>
    styled "dim" ("(original_kind=" ++ text ++ ")").toList
  let span := graph.get node "source_span"
  let range :=
    if span.isNull then none
    else
      let start := offsetText graph (graph.get span "start")
      let stop := offsetText graph (graph.get span "end")
      some (styled "dim" (rangeText start stop))
  styled "cyan" kind :: (name.toList ++ former.toList ++ range.toList)

def nodeLabel (graph : Graph) (node : Value) : Chars := [' '].intercalate (labelParts graph node)

/-- The branches below a node, one for each child field that holds nodes, at most
`depth` nodes deep. -/
def branches (graph : Graph) : Nat → Value → List Tree
  | 0, _ => []
  | depth + 1, node =>
    (graph.childKeys node).filterMap fun key =>
      let children := graph.childrenAt node key
      if children.isEmpty then none
      else
        some <| .node (styled "dim" key.toList) <|
          children.map fun child => .node (nodeLabel graph child) (branches graph depth child)

def rootLabel (file : String) (range : Nat × Nat) : Chars :=
  let range := rangeText (toString range.1) (toString range.2)
  styled "bold cyan" "Program".toList ++ ' ' :: styled "dim" (file.toList ++ ' ' :: range)

def templateTree (file : String) (analysis : Analysis) : Tree :=
  .node (rootLabel file analysis.program.range)
    (branches analysis.graph analysis.graph.walkDepth analysis.root)

def commentLength : Nat := 60

def commentRow (token : CommentToken) : List Chars :=
  [ (toString token.start ++ "-" ++ toString token.stop).toList
  , (toString token.loc.start.line).toList
  , CommentToken.kind.toList
  , (Text.trim token.text).take commentLength ]

def commentTable (tokens : List CommentToken) : Table :=
  { title := ("Comments (" ++ toString tokens.length ++ " found)").toList
    columns :=
      [ { header := "Range".toList }
      , { header := "Line".toList, justify := .right }
      , { header := "Kind".toList }
      , { header := "Text".toList } ]
    rows := tokens.map commentRow }

def keyTable : Table :=
  { title := "Visitor Keys".toList
    columns := [{ header := "Kind".toList }, { header := "Child fields".toList }]
    rows := Graph.childKeyTable.map fun (kind, keys) =>
      [kind.toList, (", ".intercalate keys).toList] }

end TemplateTree.Command
