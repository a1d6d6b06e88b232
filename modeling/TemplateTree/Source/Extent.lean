import TemplateTree.Source.Loc

/-!
# Extent of a row of nodes

Each node may expose the span of its opening tag, of its closing tag, and of
the whole node. The extent of a row of nodes runs from the earliest start to the
latest end; the first node wins a tie.
-/

namespace TemplateTree

structure Exposed where
  whole : Option Span := none
  opening : Option Span := none
  closing : Option Span := none
  deriving DecidableEq, Repr

namespace Exposed

/-- The span a node is measured from: its opening tag, else the whole node. -/
def startSpan? (node : Exposed) : Option Span := node.opening <|> node.whole

def stopSpan? (node : Exposed) : Option Span := node.closing <|> node.whole

end Exposed

/-- What a record holds under the name of a span: it may lack the field, and the
field may be empty. -/
inductive SpanField where
  | missing
  | empty
  | span (span : Span)
  deriving DecidableEq, Repr

/-- Why an element has no location: the span of the whole element is asked for. -/
inductive Unlocated where
  | missing
  | empty
  deriving DecidableEq, Repr

namespace SpanField

def span? : SpanField → Option Span
  | missing | empty => none
  | span s => some s

def read : SpanField → Except Unlocated (Option Span)
  | missing => .error .missing
  | empty => .ok none
  | span s => .ok (some s)

def readOr (field other : SpanField) : Except Unlocated (Option Span) :=
  match field.span? with
  | some s => .ok (some s)
  | none => other.read

end SpanField

structure SpanFields where
  whole : SpanField := .missing
  opening : SpanField := .missing
  closing : SpanField := .missing
  deriving DecidableEq, Repr

namespace SpanFields

def exposed (node : SpanFields) : Exposed :=
  { whole := node.whole.span?, opening := node.opening.span?, closing := node.closing.span? }

/-- The location of an element, from its opening to its closing tag. Both sides
are read before either is converted. -/
def loc (node : SpanFields) : Except Unlocated Loc := do
  let start ← node.opening.readOr node.whole
  let stop ← node.closing.readOr node.whole
  match start, stop with
  | some start, some stop => return ⟨start.start.toPosition, stop.stop.toPosition⟩
  | _, _ => throw .empty

end SpanFields

def earlier (best : Option Span) (span : Span) : Option Span :=
  match best with
  | none => some span
  | some b => if span.start.offset < b.start.offset then some span else some b

def later (best : Option Span) (span : Span) : Option Span :=
  match best with
  | none => some span
  | some b => if b.stop.offset < span.stop.offset then some span else some b

def earliestSpan? (nodes : List Exposed) : Option Span :=
  (nodes.filterMap Exposed.startSpan?).foldl earlier none

def latestSpan? (nodes : List Exposed) : Option Span :=
  (nodes.filterMap Exposed.stopSpan?).foldl later none

/-- Where a row of nodes begins and ends. -/
structure Extent where
  first : Span
  last : Span
  deriving DecidableEq, Repr

namespace Extent

def range (extent : Extent) : Nat × Nat := (extent.first.start.offset, extent.last.stop.offset)

def loc (extent : Extent) : Loc :=
  ⟨extent.first.start.toPosition, extent.last.stop.toPosition⟩

def ofNodes? (nodes : List Exposed) : Option Extent := do
  let first ← earliestSpan? nodes
  let last ← latestSpan? nodes
  return ⟨first, last⟩

end Extent

end TemplateTree
