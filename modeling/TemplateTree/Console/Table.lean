import TemplateTree.Console.Wrap

/-!
# Tables

A table has a title above it, a head with heavy lines and one row of cells for
each entry. Every column is as wide as its widest cell, with a space on each side.
-/

namespace TemplateTree.Console

open Text (Chars)

structure Column where
  header : Chars
  justify : Justify := .left
  deriving DecidableEq, Repr

/-- The title and the cells are markup. -/
structure Table where
  title : Chars
  columns : List Column
  rows : List (List Chars)
  deriving DecidableEq, Repr

def isLineBreak (c : Char) : Bool :=
  Text.within [10, 14, 28, 31, 133, 134, 8232, 8234] c.toNat

/-- The cells of the widest line of a text whose first line has `taken` cells
more. -/
def widestLine (taken : Nat) : Chars → Nat
  | [] => taken
  | c :: rest =>
    if isLineBreak c then max taken (widestLine 0 rest) else widestLine (taken + charCells c) rest

structure Rule where
  left : Char
  line : Char
  divider : Char
  right : Char

def Rule.top : Rule := ⟨'┏', '━', '┳', '┓'⟩

def Rule.belowHead : Rule := ⟨'┡', '━', '╇', '┩'⟩

def Rule.bottom : Rule := ⟨'└', '─', '┴', '┘'⟩

def Rule.draw (rule : Rule) (widths : List Nat) : Chars :=
  let parts := widths.map fun width => List.replicate (width + 2) rule.line
  rule.left :: [rule.divider].intercalate parts ++ [rule.right]

/-- One line of a row; a cell with fewer lines is blank there. -/
def rowLine (edge : Char) (cells : List (Nat × List Chars)) (index : Nat) : Chars :=
  let parts := cells.map fun (width, lines) => ' ' :: padTo width (lines.getD index []) ++ [' ']
  edge :: [edge].intercalate parts ++ [edge]

def rowLines (edge : Char) (columns : List (Column × Nat)) (row : List StyledText) :
    Except MarkupError (List Chars) := do
  let cells ← (columns.zip row).mapM fun ((column, width), text) => do
    let lines ← layOut column.justify .ellipsis width text
    .ok (width, lines)
  let height := (cells.map (·.2.length)).foldl max 0
  return (List.range height).map (rowLine edge cells)

def columnWidth (rows : List (List StyledText)) (index : Nat) : Nat :=
  (rows.map fun row => widestLine 0 (row.getD index ⟨[], []⟩).text).foldl max 0

def Table.lines (table : Table) : Except MarkupError (List Chars) := do
  let title ← render table.title
  let head ← table.columns.mapM fun column => render column.header
  let rows ← table.rows.mapM fun row => row.mapM render
  let widths := (List.range table.columns.length).map (columnWidth (head :: rows))
  let columns := table.columns.zip widths
  let tableWidth := widths.foldl (· + · + 3) 1
  let title ← layOut .center .fold tableWidth title
  let head ← rowLines '┃' columns head
  let body ← rows.mapM (rowLines '│' columns)
  return title
    ++ [Rule.top.draw widths]
    ++ head
    ++ [Rule.belowHead.draw widths]
    ++ body.flatten
    ++ [Rule.bottom.draw widths]

end TemplateTree.Console
