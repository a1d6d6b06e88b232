import TemplateTree.Text.Class

/-!
# Codes of texts

A text that is read with escapes may hold halves of characters, which stand for
nothing alone. Such a text is given by its codes.
-/

namespace TemplateTree.Text

/-- Codes that stand for half a character. -/
def isHalf (code : Nat) : Bool := 0xd800 ≤ code && code < 0xe000

abbrev Codes := List Nat

namespace Codes

def ofChars (text : Chars) : Codes := text.map Char.toNat

def ofString (text : String) : Codes := ofChars text.toList

def chars? (codes : Codes) : Option Chars :=
  if codes.any isHalf then none else some (codes.map Char.ofNat)

end Codes

end TemplateTree.Text
