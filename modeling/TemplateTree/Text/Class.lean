/-!
# Character classes

A class of characters is written as the increasing list of code points at which
membership changes: out of the class before the first, in it from the first up
to the second, out again from there, and so on.
-/

namespace TemplateTree.Text

/-- Plain text is a list of characters, so an offset counts code points. -/
abbrev Chars := List Char

def within : List Nat → Nat → Bool
  | [], _ => false
  | [lo], n => decide (lo ≤ n)
  | lo :: hi :: rest, n => if n < lo then false else if n < hi then true else within rest n

end TemplateTree.Text
