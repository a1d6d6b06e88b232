import TemplateTree.Markup.Syntax
import TemplateTree.Markup.Node
import TemplateTree.Markup.Directive
import TemplateTree.Markup.Problem

/-!
# Entries of a start tag

The name of an attribute decides what it becomes: a plain or a bound attribute,
an event, a reference, a variable, or the clauses of a structural directive.
Every attribute adds entries to those of its tag.
-/

namespace TemplateTree.Markup

open Text (Chars)

inductive Oversized where
  | integer
  deriving DecidableEq, Repr

/-- Reading stops at an oversized literal; problems are handed on beside the result. -/
abbrev Check := Except Oversized

/-- What the attributes of a start tag declare, in source order. -/
structure Entries where
  attributes : List TextAttribute := []
  inputs : List BoundAttribute := []
  outputs : List BoundEvent := []
  references : List Reference := []
  vars : List Variable := []
  templateAttrs : List BoundAttribute := []
  templateVariables : List Variable := []
  deriving Repr

def Entries.append (a b : Entries) : Entries :=
  { attributes := a.attributes ++ b.attributes
    inputs := a.inputs ++ b.inputs
    outputs := a.outputs ++ b.outputs
    references := a.references ++ b.references
    vars := a.vars ++ b.vars
    templateAttrs := a.templateAttrs ++ b.templateAttrs
    templateVariables := a.templateVariables ++ b.templateVariables }

def collect {α : Type} (f : α → Check (Entries × List Problem)) :
    List α → Check (Entries × List Problem)
  | [] => .ok ({}, [])
  | x :: rest => do
    let (entries, problems) ← f x
    let (more, others) ← collect f rest
    .ok (entries.append more, problems ++ others)

/-- What an attribute does, by its name. -/
inductive Form where
  | twoWay (property : Chars)
  | property (name : Chars)
  | event (name : Chars)
  | directive (name : Chars)
  | reference (name : Chars)
  | letVariable (name : Chars)
  | plain
  deriving DecidableEq, Repr

def enclosed? (opening closing name : Chars) : Option Chars :=
  if opening.isPrefixOf name && closing.isSuffixOf name then
    some ((name.drop opening.length).take (name.length - opening.length - closing.length))
  else none

def behind? (mark name : Chars) : Option Chars :=
  if mark.isPrefixOf name then some (name.drop mark.length) else none

def Form.candidates (name : Chars) : List (Option Form) :=
  [ (enclosed? "[(".toList ")]".toList name).map .twoWay
  , (enclosed? "[".toList "]".toList name).map .property
  , (behind? "bind-".toList name).map .property
  , (enclosed? "(".toList ")".toList name).map .event
  , (behind? "on-".toList name).map .event
  , (behind? "*".toList name).map .directive
  , (behind? "#".toList name).map .reference
  , (behind? "ref-".toList name).map .reference
  , (behind? "let-".toList name).map .letVariable ]

def Form.ofName (name : Chars) : Form :=
  ((Form.candidates name).findSome? id).getD .plain

/-- The kind of a property binding and the name without its mark. -/
def propertyKind (name : Chars) : BindingKind × Chars :=
  ([ (behind? "attr.".toList name).map (BindingKind.htmlAttribute, ·)
   , (behind? "class.".toList name).map (BindingKind.cssClass, ·)
   , (behind? "style.".toList name).map (BindingKind.cssStyle, ·) ].findSome? id).getD
    (.property, name)

/-- The binding of a text at an offset; one that cannot be parsed is reported
and left empty. -/
def bindAt (source : Source) (text : Chars) (offset : Nat) : Check (Binding × List Problem) :=
  let location := source.locationName offset
  match Binding.parse text location offset with
  | .ok binding => .ok (binding, [])
  | .error (.binding error) =>
    let span := source.span offset (offset + text.length)
    .ok (⟨⟨offset, offset⟩, .expression (.empty ⟨offset, offset⟩), [], location, offset⟩,
      [⟨.binding error, span⟩])
  | .error .oversizedInteger => .error .integer

/-- The interpolation of a text at an offset; a bad one is reported and the
text stays as it is. -/
def interpolateAt (source : Source) (text : Chars) (offset : Nat) :
    Check (Option Binding × List Problem) :=
  match Binding.parseInterpolation text (source.locationName offset) offset with
  | .ok binding => .ok (binding, [])
  | .error (.binding error) =>
    let span := source.span error.offset (error.offset + error.source.length)
    .ok (none, [⟨.binding error, span⟩])
  | .error .oversizedInteger => .error .integer

structure PlacedAttribute where
  name : Chars
  value : Chars
  valueStart : Nat
  span : Span
  keySpan : Span
  deriving Repr

def Attribute.valueText (attr : Attribute) : Chars × Nat :=
  match attr.value with
  | none => ([], 0)
  | some a =>
    (a.text, a.beforeSign.length + 1 + a.afterSign.length + a.quoting.marks.length)

/-- Places an attribute whose gap starts at `pos`. -/
def Attribute.place (source : Source) (pos : Nat) (attr : Attribute) : PlacedAttribute :=
  let start := pos + attr.gap.length
  let nameStop := start + attr.name.length
  let (value, shift) := attr.valueText
  { name := attr.name
    value
    valueStart := nameStop + shift
    span := source.span start ((pos + attr.written.length : Nat) : Int)
    keySpan := source.span start nameStop }

def placeAttributes (source : Source) (pos : Nat) : List Attribute → List PlacedAttribute
  | [] => []
  | attr :: rest =>
    attr.place source pos :: placeAttributes source (pos + attr.written.length) rest

/-- One clause of a directive; `start` is the offset of the clause in the value. -/
def clauseEntries (source : Source) (directive : Chars) (attr : PlacedAttribute)
    (clause : Nat × Nat × Chars) : Check (Entries × List Problem) :=
  let (index, start, run) := clause
  let text := Text.trim run
  let offset := attr.valueStart + start + (run.length - (Text.trimLeft run).length)
  let bound (name expression : Chars) (shift : Nat) :
      Check (BoundAttribute × List Problem) := do
    let (binding, problems) ← bindAt source expression (offset + shift)
    .ok (⟨name, .property, binding, attr.span, none⟩, problems)
  if text.isEmpty then .ok ({}, [])
  else
    match Clause.ofText (index == 0) text with
    | .assign name value =>
      .ok ({ templateVariables := [⟨name, value, attr.span⟩] }, [])
    | .forEach name key expression shift => do
      let (input, problems) ← bound (directiveInput directive key) expression shift
      .ok ({ templateVariables := [⟨name, "$implicit".toList, attr.span⟩]
             templateAttrs := [input] }, problems)
    | .renamed key name =>
      .ok ({ templateVariables := [⟨name, key, attr.span⟩] }, [])
    | .keyed key expression shift => do
      let (input, problems) ← bound (directiveInput directive key) expression shift
      .ok ({ templateAttrs := [input] }, problems)
    | .plain => do
      let (input, problems) ← bound directive text 0
      .ok ({ templateAttrs := [input] }, problems)

def numbered {α : Type} (n : Nat) : List α → List (Nat × α)
  | [] => []
  | x :: rest => (n, x) :: numbered (n + 1) rest

def directiveEntries (source : Source) (directive : Chars) (attr : PlacedAttribute) :
    Check (Entries × List Problem) :=
  if Text.allBlank attr.value then do
    let (binding, problems) ← bindAt source [] attr.valueStart
    .ok ({ templateAttrs := [⟨directive, .property, binding, attr.span, none⟩] }, problems)
  else
    collect (clauseEntries source directive attr)
      (numbered 0 (clauseRuns 0 attr.value))

def attributeEntries (source : Source) (attr : PlacedAttribute) : Check (Entries × List Problem) :=
  let bind := bindAt source attr.value attr.valueStart
  match Form.ofName attr.name with
  | .twoWay name => do
    let (value, problems) ← bind
    let (handler, others) ← bind
    .ok ({ inputs := [⟨name, .twoWay, value, attr.span, some attr.keySpan⟩]
           outputs := [⟨name ++ "Change".toList, .twoWay, handler, attr.span,
            some attr.keySpan⟩] }, problems ++ others)
  | .property name => do
    let (value, problems) ← bind
    let (kind, name) := propertyKind name
    .ok ({ inputs := [⟨name, kind, value, attr.span, some attr.keySpan⟩] }, problems)
  | .event name => do
    let (handler, problems) ← bind
    .ok ({ outputs := [⟨name, .regular, handler, attr.span, some attr.keySpan⟩] },
      problems)
  | .directive name => directiveEntries source name attr
  | .reference name => .ok ({ references := [⟨name, attr.value, attr.span⟩] }, [])
  | .letVariable name =>
    let value := if attr.value.isEmpty then "$implicit".toList else attr.value
    .ok ({ vars := [⟨name, value, attr.span⟩] }, [])
  | .plain => do
    let (binding, problems) ← interpolateAt source attr.value attr.valueStart
    match binding with
    | some binding =>
      .ok ({ inputs := [⟨attr.name, .property, binding, attr.span,
              some attr.keySpan⟩] }, problems)
    | none =>
      let stop := attr.valueStart + attr.value.length
      let valueSpan := source.span attr.valueStart stop
      .ok ({ attributes := [⟨attr.name, attr.value, attr.span,
              some valueSpan⟩] }, problems)

def tagEntries (source : Source) (pos : Nat) (attributes : List Attribute) :
    Check (Entries × List Problem) :=
  collect (attributeEntries source) (placeAttributes source pos attributes)

end TemplateTree.Markup
