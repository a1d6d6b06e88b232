import TemplateTree.Console.Wrap

/-!
# Trees

A tree is drawn with one label below the other, each behind the guides that lead
to its parent.
-/

namespace TemplateTree.Console

open Text (Chars)

/-- Labels are markup. -/
inductive Tree where
  | node (label : Chars) (children : List Tree)
  deriving Repr

def lineWidth : Nat := 1000

/-- The lines that markup shows. Where there is no space left, there are none, and
the markup is not looked at. -/
def labelLines (width : Nat) (markup : Chars) : Except MarkupError (List Chars) :=
  if width == 0 then .ok []
  else do
    let text ← render markup
    layOut .none .fold width text

mutual

/-- Draws a tree. `first` stands before the first line of the label, `below`
before all other lines. -/
def Tree.draw (first below : Chars) : Tree → Except MarkupError (List Chars)
  | .node label children => do
    let lines ← labelLines (lineWidth - first.length) label
    let own :=
      match lines with
      | [] => []
      | line :: more => (first ++ line) :: more.map (below ++ ·)
    let rest ← drawForest below children
    return own ++ rest

def drawForest (before : Chars) : List Tree → Except MarkupError (List Chars)
  | [] => .ok []
  | [tree] => tree.draw (before ++ "└── ".toList) (before ++ "    ".toList)
  | tree :: more => do
    let lines ← tree.draw (before ++ "├── ".toList) (before ++ "│   ".toList)
    let others ← drawForest before more
    return lines ++ others

end

def Tree.lines (tree : Tree) : Except MarkupError (List Chars) := tree.draw [] []

end TemplateTree.Console
