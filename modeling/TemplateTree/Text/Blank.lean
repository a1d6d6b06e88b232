import TemplateTree.Text.Class

/-!
# Blank characters

The white space of the Unicode standard together with the four information
separators. It decides where markup may have gaps and which texts count as blank.
-/

namespace TemplateTree.Text

def blankBorders : List Nat := [
  9, 14, 28, 33, 133, 134, 160, 161, 5760, 5761, 8192, 8203, 8232, 8234, 8239, 8240, 8287, 8288,
  12288, 12289]

def isBlank (c : Char) : Bool := within blankBorders c.toNat

def trimLeft (text : Chars) : Chars := text.dropWhile isBlank

def trimRight (text : Chars) : Chars := (text.reverse.dropWhile isBlank).reverse

def trim (text : Chars) : Chars := trimRight (trimLeft text)

def allBlank (text : Chars) : Bool := text.all isBlank

def words (text : Chars) : List Chars :=
  (text.foldr (fun c (acc : Chars × List Chars) =>
    if isBlank c then ([], if acc.1.isEmpty then acc.2 else acc.1 :: acc.2)
    else (c :: acc.1, acc.2)) ([], [])) |> fun (first, rest) =>
      if first.isEmpty then rest else first :: rest

end TemplateTree.Text
