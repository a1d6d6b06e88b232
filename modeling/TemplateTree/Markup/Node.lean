import TemplateTree.Source.Extent
import TemplateTree.Expression.Binding

/-!
# Template nodes

What a template consists of: text, elements and embedded templates, with the
attributes of a tag sorted by what they do.
-/

namespace TemplateTree

open Text (Chars)

inductive BindingKind where
  | property
  | htmlAttribute
  | cssClass
  | cssStyle
  | twoWay
  deriving DecidableEq, Repr

inductive EventKind where
  | regular
  | twoWay
  deriving DecidableEq, Repr

structure TextAttribute where
  name : Chars
  value : Chars
  span : Span
  valueSpan : Option Span
  deriving Repr

structure BoundAttribute where
  name : Chars
  kind : BindingKind
  value : Binding
  span : Span
  keySpan : Option Span
  deriving Repr

structure BoundEvent where
  name : Chars
  kind : EventKind
  handler : Binding
  span : Span
  keySpan : Option Span
  deriving Repr

structure Reference where
  name : Chars
  value : Chars
  span : Span
  deriving Repr

structure Variable where
  name : Chars
  value : Chars
  span : Span
  deriving Repr

structure TagSpans where
  whole : Span
  opening : Span
  closing : Option Span
  deriving Repr

structure ElementHead where
  name : Chars
  spans : TagSpans
  attributes : List TextAttribute
  inputs : List BoundAttribute
  outputs : List BoundEvent
  references : List Reference
  deriving Repr

structure TemplateHead where
  tagName : Chars
  spans : TagSpans
  attributes : List TextAttribute := []
  inputs : List BoundAttribute := []
  outputs : List BoundEvent := []
  templateAttrs : List BoundAttribute
  references : List Reference := []
  vars : List Variable
  deriving Repr

inductive Node where
  | text (value : Chars) (span : Span)
  | boundText (value : Binding) (span : Span)
  | element (head : ElementHead) (children : List Node)
  | template (head : TemplateHead) (children : List Node)
  deriving Repr

def TagSpans.exposed (spans : TagSpans) : Exposed :=
  ⟨some spans.whole, some spans.opening, spans.closing⟩

/-- The spans a node exposes; texts have no tags. -/
def Node.exposed : Node → Exposed
  | text _ span => ⟨some span, none, none⟩
  | boundText _ span => ⟨some span, none, none⟩
  | element head _ => head.spans.exposed
  | template head _ => head.spans.exposed

def Node.span : Node → Span
  | text _ span => span
  | boundText _ span => span
  | element head _ => head.spans.whole
  | template head _ => head.spans.whole

end TemplateTree
