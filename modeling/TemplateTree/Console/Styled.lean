import TemplateTree.Text.Class

/-!
# Styled texts

A text together with the stretches of it whose style is faulty. A fault counts only
if something of its stretch is left when the text is printed, so the stretches are
kept up to date while the text is laid out.
-/

namespace TemplateTree.Console

open Text (Chars)

structure Span where
  start : Nat
  stop : Nat
  deriving DecidableEq, Repr

/-- The part of a span in a piece of the text; `none` if there is nothing in it. -/
def Span.part? (span : Span) (start length : Nat) : Option Span :=
  let first := span.start - start
  let last := min (span.stop - start) length
  if first < last then some ⟨first, last⟩ else none

structure StyledText where
  text : Chars
  faults : List Span := []
  deriving DecidableEq, Repr

namespace StyledText

/-- The pieces of a text, the first of which starts at `start`. Behind each piece
`gap` characters are left out. -/
def pieces (styled : StyledText) (gap start : Nat) : List Chars → List StyledText
  | [] => []
  | piece :: rest =>
    ⟨piece, styled.faults.filterMap (·.part? start piece.length)⟩
      :: styled.pieces gap (start + piece.length + gap) rest

/-- Cuts a text into pieces. What is not cut keeps also its empty faults. -/
def cut (styled : StyledText) (gap : Nat) : List Chars → List StyledText
  | [_] => [styled]
  | parts => styled.pieces gap 0 parts

/-- Puts another text in the place of a text. Where it is shorter, the faults behind
its end are gone. -/
def replace (styled : StyledText) (text : Chars) : StyledText :=
  if text.length < styled.text.length then
    let kept := styled.faults.filter (·.start < text.length)
    ⟨text, kept.map fun span => ⟨span.start, min span.stop text.length⟩⟩
  else { styled with text := text }

end StyledText

end TemplateTree.Console
