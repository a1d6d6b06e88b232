import TemplateTree.Comment
import TemplateTree.Markup.Entries

/-!
# Parsing templates

The pieces of a template are taken from left to right. Open elements wait on a
stack, innermost first, until their end tag comes. Problems are collected, and
a template is accepted if there are none.
-/

namespace TemplateTree

open Text (Chars)

structure ParseOptions where
  preserveWhitespaces : Bool := true
  preserveLineEndings : Bool := true
  collectComments : Bool := true
  deriving DecidableEq, Repr

structure ParsedTemplate where
  nodes : List Node
  comments : Option (List Comment)
  source : Source

inductive TemplateError where
  | issues (issues : List Issue)
  | oversizedInteger
  deriving DecidableEq, Repr

namespace Markup

def voidElements : List String :=
  ["area", "base", "br", "col", "embed", "hr", "img", "input", "link", "meta", "source", "track",
    "wbr"]

def isVoid (name : Chars) : Bool := voidElements.contains (String.ofList (Text.lower name))

structure OpenElement where
  name : Chars
  opening : Span
  entries : Entries
  children : List Node := []
  deriving Repr

structure State where
  stack : List OpenElement := []
  roots : List Node := []
  comments : List Comment := []
  problems : List Problem := []
  deriving Repr

/-- Adds a node to the innermost open element, or to the roots. -/
def State.append (state : State) (node : Node) : State :=
  match state.stack with
  | [] => { state with roots := state.roots ++ [node] }
  | top :: rest => { state with stack := { top with children := top.children ++ [node] } :: rest }

def State.report (state : State) (problems : List Problem) : State :=
  { state with problems := state.problems ++ problems }

def templateTag : Chars := "ng-template".toList

/-- The node of a finished element. A structural directive wraps the element in
a template. -/
def OpenElement.finish (element : OpenElement) (source : Source) (closing : Option Span) :
    Node × List Problem :=
  let stop := (closing.getD element.opening).stop.offset
  let spans : TagSpans :=
    ⟨source.span element.opening.start.offset stop, element.opening, closing⟩
  let entries := element.entries
  if element.name = templateTag then
    (.template
      { tagName := element.name
        spans
        attributes := entries.attributes
        inputs := entries.inputs
        outputs := entries.outputs
        templateAttrs := entries.templateAttrs
        references := entries.references
        vars := entries.vars ++ entries.templateVariables } element.children, [])
  else
    let problems : List Problem :=
      if entries.vars.isEmpty then [] else [⟨.misplacedVariable, element.opening⟩]
    let node : Node :=
      .element
        { name := element.name
          spans
          attributes := entries.attributes
          inputs := entries.inputs
          outputs := entries.outputs
          references := entries.references } element.children
    if entries.templateAttrs.isEmpty && entries.templateVariables.isEmpty then (node, problems)
    else
      (.template
        { tagName := element.name
          spans
          templateAttrs := entries.templateAttrs
          vars := entries.templateVariables } [node], problems)

def State.addText (state : State) (source : Source) (options : ParseOptions) (pos : Nat)
    (text : Chars) : Except Oversized State := do
  let span := source.span pos (pos + text.length)
  if Text.contains commentOpening text then
    return state.report [⟨.unterminatedComment, span⟩]
  if !options.preserveWhitespaces && Text.allBlank text then
    return state
  let (binding, problems) ← interpolateAt source text pos
  let state := state.report problems
  match binding with
  | some binding => return state.append (.boundText binding span)
  | none =>
    let value := if options.preserveLineEndings then text else Text.unixLines text
    return state.append (.text value span)

def State.openElement (state : State) (source : Source) (pos : Nat) (tag : StartTag) :
    Except Oversized State := do
  let opening := source.span pos (pos + tag.written.length)
  let (entries, problems) ← tagEntries source (pos + 1 + tag.name.length) tag.attributes
  let state := state.report problems
  let element : OpenElement := { name := tag.name, opening, entries }
  if tag.selfClosing || isVoid tag.name then
    let (node, problems) := element.finish source none
    return (state.report problems).append node
  else
    return { state with stack := element :: state.stack }

/-- An end tag closes the innermost open element if it has the same name up to
case, and is reported otherwise. -/
def State.closeElement (state : State) (source : Source) (name : Chars) (closing : Span) : State :=
  match state.stack with
  | [] => state.report [⟨.unexpectedClosingTag name, closing⟩]
  | top :: rest =>
    if Text.lower top.name = Text.lower name then
      let (node, problems) := top.finish source (some closing)
      ({ state with stack := rest }.report problems).append node
    else state.report [⟨.unexpectedClosingTag name, closing⟩]

def State.step (source : Source) (options : ParseOptions) (pos : Nat) (state : State) :
    Piece → Except Oversized State
  | .text value => state.addText source options pos value
  | .construct (.startTag tag) => state.openElement source pos tag
  | .construct (.endTag name tail) =>
    let stop := pos + (Construct.endTag name tail).written.length
    .ok (state.closeElement source name (source.span pos stop))
  | .construct (.comment value) =>
    let stop := pos + (Construct.comment value).written.length
    .ok { state with comments := state.comments ++ [⟨value, source.span pos stop⟩] }

/-- Takes up all pieces of a template, the first one at `pos`. -/
def State.run (source : Source) (options : ParseOptions) (pos : Nat) (state : State) :
    List Piece → Except Oversized State
  | [] => .ok state
  | piece :: rest => do
    let state ← state.step source options pos piece
    state.run source options (pos + piece.written.length) rest

/-- Reports the elements left open, innermost first. -/
def State.finish (state : State) : State :=
  state.report (state.stack.map fun element => ⟨.unclosedElement element.name, element.opening⟩)

end Markup

open Markup in
/-- Parses a template, or tells everything that is wrong with it. -/
def parseTemplate (code : Chars) (url : String) (options : ParseOptions) :
    Except TemplateError ParsedTemplate :=
  let source := Source.ofText code url
  match State.run source options 0 {} (pieces code) with
  | .error .integer => .error .oversizedInteger
  | .ok state =>
    let state := state.finish
    if state.problems.isEmpty then
      .ok ⟨state.roots, if options.collectComments then some state.comments else none, source⟩
    else .error (.issues (state.problems.map Problem.toIssue))

end TemplateTree
