import TemplateTree.Text.Class

/-!
# Cursors

A place in a YAML text: what is left of it, and how far from its start, its
first line and the start of the current line the place is.
-/

namespace TemplateTree.Yaml

open Text (Chars)

def isBreak (c : Char) : Bool :=
  c == '\n' || c == '\r' || c == '\x85' || c == '\u2028' || c == '\u2029'

def endsLine : Option Char → Bool
  | none => true
  | some c => isBreak c

def endsWord : Option Char → Bool
  | none => true
  | some c => isBreak c || c == ' '

def endsItem : Option Char → Bool
  | none => true
  | some c => isBreak c || c == ' ' || c == '\t'

structure Cursor where
  rest : Chars
  index : Nat := 0
  line : Nat := 0
  column : Nat := 0
  deriving Repr

namespace Cursor

def peek (cursor : Cursor) : Option Char := cursor.rest.head?

def peekAt (cursor : Cursor) (n : Nat) : Option Char := cursor.rest[n]?

/-- Passes one character. A mark of the byte order takes no column. -/
def next (cursor : Cursor) : Cursor :=
  match cursor.rest with
  | [] => cursor
  | c :: rest =>
    if isBreak c && !(c == '\r' && rest.head? == some '\n') then
      { rest, index := cursor.index + 1, line := cursor.line + 1, column := 0 }
    else if c == '\ufeff' then { cursor with rest, index := cursor.index + 1 }
    else { cursor with rest, index := cursor.index + 1, column := cursor.column + 1 }

def advance (cursor : Cursor) : Nat → Cursor
  | 0 => cursor
  | n + 1 => cursor.next.advance n

def span (cursor : Cursor) (p : Char → Bool) : Chars × Cursor :=
  let passed := cursor.rest.takeWhile p
  (passed, cursor.advance passed.length)

def skip (cursor : Cursor) (p : Char → Bool) : Cursor := (cursor.span p).2

def skipSpaces (cursor : Cursor) : Cursor := cursor.skip (· == ' ')

def skipLine (cursor : Cursor) : Cursor := cursor.skip fun c => !isBreak c

def skipComment (cursor : Cursor) : Cursor :=
  if cursor.peek == some '#' then cursor.skipLine else cursor

/-- Passes a line break and gives what it stands for: mostly a line feed. -/
def lineBreak (cursor : Cursor) : Chars × Cursor :=
  match cursor.rest with
  | '\r' :: '\n' :: _ => (['\n'], cursor.advance 2)
  | c :: _ =>
    if c == '\u2028' || c == '\u2029' then ([c], cursor.next)
    else if isBreak c then (['\n'], cursor.next)
    else ([], cursor)
  | [] => ([], cursor)

/-- Whether a line of three such characters alone is in front. -/
def atMark (cursor : Cursor) (c : Char) : Bool :=
  cursor.rest.take 3 == [c, c, c] && endsItem (cursor.peekAt 3)

def atDocumentMark (cursor : Cursor) : Bool := cursor.atMark '-' || cursor.atMark '.'

end Cursor

end TemplateTree.Yaml
