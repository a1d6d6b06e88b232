import TemplateTree.Comment
import TemplateTree.Markup.Node
import TemplateTree.Graph.Blueprint

/-!
# Records of template nodes

Every expression, binding and template node as a record: the name of its class
and its fields in order.
-/

namespace TemplateTree

open Text (Chars)

namespace Blueprint

def text (value : Chars) : Blueprint := .str (String.ofList value)

def optionalSpan : Option Span → Blueprint
  | some s => .span s
  | none => .null

end Blueprint

def OffsetSpan.blueprint (span : OffsetSpan) : Blueprint := .offsetSpan span.start span.stop

def Literal.blueprint : Literal → Blueprint
  | null => .null
  | bool b => .bool b
  | int n => .int n
  | float x => .float x
  | string s => .text s

mutual

def Expr.blueprint : Expr → Blueprint
  | .empty s => .node "EmptyExpr" [("source_span", s.blueprint)]
  | .implicitReceiver s => .node "ImplicitReceiver" [("source_span", s.blueprint)]
  | .thisReceiver s => .node "ThisReceiver" [("source_span", s.blueprint)]
  | .literal s value =>
    .node "LiteralPrimitive" [("source_span", s.blueprint), ("value", value.blueprint)]
  | .propertyRead s receiver name =>
    .node "PropertyRead"
      [("source_span", s.blueprint), ("receiver", receiver.blueprint), ("name", .text name)]
  | .keyedRead s receiver key =>
    .node "KeyedRead"
      [("source_span", s.blueprint), ("receiver", receiver.blueprint), ("key", key.blueprint)]
  | .call s receiver args =>
    .node "Call"
      [ ("source_span", s.blueprint), ("receiver", receiver.blueprint)
      , ("args", .list (exprBlueprints args)) ]
  | .binary s op left right =>
    .node "Binary"
      [ ("source_span", s.blueprint), ("operation", .str op.symbol), ("left", left.blueprint)
      , ("right", right.blueprint) ]
  | .conditional s condition whenTrue whenFalse =>
    .node "Conditional"
      [ ("source_span", s.blueprint), ("condition", condition.blueprint)
      , ("true_exp", whenTrue.blueprint), ("false_exp", whenFalse.blueprint) ]
  | .not s operand =>
    .node "PrefixNot" [("source_span", s.blueprint), ("expression", operand.blueprint)]
  | .pipe s operand name args =>
    .node "BindingPipe"
      [ ("source_span", s.blueprint), ("exp", operand.blueprint), ("name", .text name)
      , ("args", .list (exprBlueprints args)) ]

def exprBlueprints : List Expr → List Blueprint
  | [] => []
  | e :: rest => e.blueprint :: exprBlueprints rest

end

def Bound.blueprint : Bound → Blueprint
  | expression e => e.blueprint
  | interpolation span strings expressions =>
    .node "Interpolation"
      [ ("source_span", span.blueprint), ("strings", .list (strings.map .text))
      , ("expressions", .list (exprBlueprints expressions)) ]

def Binding.blueprint (binding : Binding) : Blueprint :=
  .node "ASTWithSource"
    [ ("source_span", binding.span.blueprint)
    , ("ast", binding.bound.blueprint)
    , ("source", .text binding.source)
    , ("location", .str binding.location)
    , ("absolute_offset", .int binding.offset) ]

def BindingKind.blueprint : BindingKind → Blueprint
  | property => .enum "BindingKind" "PROPERTY" 0
  | htmlAttribute => .enum "BindingKind" "ATTRIBUTE" 1
  | cssClass => .enum "BindingKind" "CLASS" 2
  | cssStyle => .enum "BindingKind" "STYLE" 3
  | twoWay => .enum "BindingKind" "TWO_WAY" 4

def EventKind.blueprint : EventKind → Blueprint
  | regular => .enum "EventKind" "REGULAR" 0
  | twoWay => .enum "EventKind" "TWO_WAY" 1

def TextAttribute.blueprint (a : TextAttribute) : Blueprint :=
  .node "TextAttribute"
    [ ("name", .text a.name), ("value", .text a.value), ("source_span", .span a.span)
    , ("value_span", .optionalSpan a.valueSpan) ]

def BoundAttribute.blueprint (a : BoundAttribute) : Blueprint :=
  .node "BoundAttribute"
    [ ("name", .text a.name), ("kind", a.kind.blueprint), ("value", a.value.blueprint)
    , ("source_span", .span a.span), ("key_span", .optionalSpan a.keySpan) ]

def BoundEvent.blueprint (e : BoundEvent) : Blueprint :=
  .node "BoundEvent"
    [ ("name", .text e.name), ("kind", e.kind.blueprint), ("handler", e.handler.blueprint)
    , ("source_span", .span e.span), ("key_span", .optionalSpan e.keySpan) ]

def Reference.blueprint (r : Reference) : Blueprint :=
  .node "Reference"
    [("name", .text r.name), ("value", .text r.value), ("source_span", .span r.span)]

def Variable.blueprint (v : Variable) : Blueprint :=
  .node "Variable"
    [("name", .text v.name), ("value", .text v.value), ("source_span", .span v.span)]

def TagSpans.fields (spans : TagSpans) : List (String × Blueprint) :=
  [ ("source_span", .span spans.whole)
  , ("start_source_span", .span spans.opening)
  , ("end_source_span", .optionalSpan spans.closing) ]

mutual

def Node.blueprint : Node → Blueprint
  | .text value span => .node "Text" [("value", .text value), ("source_span", .span span)]
  | .boundText value span =>
    .node "BoundText" [("value", value.blueprint), ("source_span", .span span)]
  | .element head children =>
    .node "Element" <|
      [("name", .text head.name)] ++ head.spans.fields ++
      [ ("attributes", .list (head.attributes.map (·.blueprint)))
      , ("inputs", .list (head.inputs.map (·.blueprint)))
      , ("outputs", .list (head.outputs.map (·.blueprint)))
      , ("children", .list (nodeBlueprints children))
      , ("references", .list (head.references.map (·.blueprint))) ]
  | .template head children =>
    .node "Template" <|
      [("tag_name", .text head.tagName)] ++ head.spans.fields ++
      [ ("attributes", .list (head.attributes.map (·.blueprint)))
      , ("inputs", .list (head.inputs.map (·.blueprint)))
      , ("outputs", .list (head.outputs.map (·.blueprint)))
      , ("template_attrs", .list (head.templateAttrs.map (·.blueprint)))
      , ("children", .list (nodeBlueprints children))
      , ("references", .list (head.references.map (·.blueprint)))
      , ("variables", .list (head.vars.map (·.blueprint))) ]

def nodeBlueprints : List Node → List Blueprint
  | [] => []
  | node :: rest => node.blueprint :: nodeBlueprints rest

end

def CommentToken.kind : String := "Block"

def CommentToken.blueprint (token : CommentToken) : Blueprint :=
  .node "Token"
    [ ("kind", .str CommentToken.kind)
    , ("text", .text token.text)
    , ("loc", .loc token.loc)
    , ("range", .tuple [.int token.start, .int token.stop]) ]

end TemplateTree
