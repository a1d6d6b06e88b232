import TemplateTree.Text.Blank
import TemplateTree.Text.Search
import TemplateTree.Expression.Parser

/-!
# Bindings and interpolations

A binding is an expression with the text it was written as. Text with
`{{ … }}` markers is an interpolation: literal strings around the
expressions between the markers.
-/

namespace TemplateTree

open Text (Chars)

namespace Expression

inductive Fault where
  | invalid (cause : Rejection)
  | blankMarker
  deriving DecidableEq, Repr

structure BindingError where
  fault : Fault
  source : Chars
  offset : Int
  deriving DecidableEq, Repr

def Rejection.name : Rejection → String
  | unexpectedToken => "UnexpectedToken"
  | unexpectedCharacters => "UnexpectedCharacters"

def BindingError.message (error : BindingError) : String :=
  match error.fault with
  | .invalid cause =>
    "Invalid expression '" ++ String.ofList (Text.trim error.source) ++ "': " ++ cause.name
  | .blankMarker => "Blank expressions are not allowed in interpolated strings"

/-- Why no binding comes out of a text. -/
inductive Failure where
  | binding (error : BindingError)
  | oversizedInteger
  deriving DecidableEq, Repr

end Expression

open Expression (Failure BindingError)

/-- Parses one expression; blank text is the empty expression at its end. -/
def Expr.parse (source : Chars) (offset : Int) : Except Failure Expr :=
  if Text.allBlank source then
    let stop := offset + source.length
    .ok (.empty ⟨stop, stop⟩)
  else
    let (tokens, ending) := Expression.tokens .operand offset source
    match Expression.parseTokens tokens ending with
    | .error cause => .error (.binding ⟨.invalid cause, source, offset⟩)
    | .ok expr =>
      if tokens.any (·.terminal.oversized) then .error .oversizedInteger else .ok expr

inductive Segments where
  | last (text : Chars)
  | marker (before source : Chars) (rest : Segments)
  deriving DecidableEq, Repr

namespace Segments

def opening : Chars := ['\x7b', '\x7b']

def closing : Chars := ['\x7d', '\x7d']

/-- Cuts at each opening mark that a closing mark follows. -/
def ofText (text : Chars) : Segments :=
  match _h : Text.cutAt? opening text with
  | none => .last text
  | some (before, behind) =>
    match _h' : Text.cutAt? closing behind with
    | none => .last text
    | some (source, rest) => .marker before source (ofText rest)
termination_by text.length
decreasing_by
  have h₁ := Text.length_after_cutAt? _h
  have h₂ := Text.length_after_cutAt? _h'
  have h₃ : opening.length = 2 := rfl
  omega

/-- The literal texts: one more than there are markers. -/
def strings : Segments → List Chars
  | last text => [text]
  | marker before _ rest => before :: rest.strings

/-- The sources between the markers with their offsets, for a text at `pos`. -/
def sources (pos : Nat) : Segments → List (Chars × Nat)
  | last _ => []
  | marker before source rest =>
    let start := pos + before.length + 2
    (source, start) :: rest.sources (start + source.length + 2)

end Segments

inductive Bound where
  | expression (expr : Expr)
  | interpolation (span : OffsetSpan) (strings : List Chars) (expressions : List Expr)
  deriving Repr

structure Binding where
  span : OffsetSpan
  bound : Bound
  source : Chars
  location : String
  offset : Int
  deriving Repr

namespace Binding

def parse (source : Chars) (location : String) (offset : Int) : Except Failure Binding := do
  let expr ← Expr.parse source offset
  return ⟨⟨offset, offset + source.length⟩, .expression expr, source, location, offset⟩

/-- The expressions between markers, in order; none may be blank. -/
def parseMarkers (offset : Int) : List (Chars × Nat) → Except Failure (List Expr)
  | [] => .ok []
  | (source, start) :: rest => do
    if Text.allBlank source then
      throw (.binding ⟨.blankMarker, source, offset + start⟩)
    let expr ← Expr.parse source (offset + start)
    let more ← parseMarkers offset rest
    return expr :: more

/-- Parses text with markers; `none` if it has none. -/
def parseInterpolation (text : Chars) (location : String) (offset : Int) :
    Except Failure (Option Binding) := do
  let segments := Segments.ofText text
  match segments.sources 0 with
  | [] => return none
  | sources =>
    let expressions ← parseMarkers offset sources
    let span : OffsetSpan := ⟨offset, offset + text.length⟩
    return some ⟨span, .interpolation span segments.strings expressions, text, location, offset⟩

end Binding

end TemplateTree
