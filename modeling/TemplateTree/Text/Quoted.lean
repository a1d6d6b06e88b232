import TemplateTree.Text.Code
import TemplateTree.Text.Printable

/-!
# Quoted text

How a text is shown in a message: between apostrophes, or between quotation
marks if it holds an apostrophe and no quotation mark. What cannot be printed is
escaped by its code.
-/

namespace TemplateTree.Text

def hexDigit (n : Nat) : Char := "0123456789abcdef".toList.getD n '0'

def hex : Nat → Nat → Chars
  | 0, _ => []
  | width + 1, n => hex width (n / 16) ++ [hexDigit (n % 16)]

def escapeCode (n : Nat) : Chars :=
  if n < 0x100 then "\\x".toList ++ hex 2 n
  else if n < 0x10000 then "\\u".toList ++ hex 4 n
  else "\\U".toList ++ hex 8 n

def quotedChar (quote : Char) (c : Char) : Chars :=
  if c == quote || c == '\\' then ['\\', c]
  else if c == '\n' then ['\\', 'n']
  else if c == '\r' then ['\\', 'r']
  else if c == '\t' then ['\\', 't']
  else if isPrintable c then [c]
  else escapeCode c.toNat

def quoteFor (text : Chars) : Char :=
  if text.contains '\x27' && !text.contains '\x22' then '\x22' else '\x27'

def quoted (text : Chars) : Chars :=
  let quote := quoteFor text
  quote :: text.flatMap (quotedChar quote) ++ [quote]

def quotedCodes (codes : Codes) : Chars :=
  let quote := quoteFor ((codes.filter (!isHalf ·)).map Char.ofNat)
  let shown (code : Nat) : Chars :=
    if isHalf code then escapeCode code else quotedChar quote (Char.ofNat code)
  quote :: codes.flatMap shown ++ [quote]

/-- Bytes are shown as text is, with everything beyond ASCII escaped. -/
def quotedBytes (bytes : List UInt8) : Chars :=
  let text := bytes.map fun b => Char.ofNat b.toNat
  let quote := quoteFor text
  let shown (c : Char) : Chars :=
    if 0x7f ≤ c.toNat then escapeCode c.toNat else quotedChar quote c
  'b' :: quote :: text.flatMap shown ++ [quote]

end TemplateTree.Text
