import TemplateTree.Graph.Plain
import TemplateTree.Text.Quoted

/-!
# JSON text

Plain data as JSON over several lines, two spaces further in at each level. The
text is ASCII: all other characters are escaped by their UTF-16 units.
-/

namespace TemplateTree.Format.Json

open Text (Chars)

/-- The units that a character has in UTF-16. -/
def units (c : Char) : List Nat :=
  let n := c.toNat
  if n < 0x10000 then [n]
  else [0xd800 + (n - 0x10000) / 0x400, 0xdc00 + (n - 0x10000) % 0x400]

def escapeLetter? (c : Char) : Option Char :=
  match c with
  | '"' => some '"'
  | '\\' => some '\\'
  | '\n' => some 'n'
  | '\r' => some 'r'
  | '\t' => some 't'
  | '\x0c' => some 'f'
  | '\x08' => some 'b'
  | _ => none

def escaped (c : Char) : Chars :=
  match escapeLetter? c with
  | some letter => ['\\', letter]
  | none =>
    if 0x20 ≤ c.toNat && c.toNat ≤ 0x7e then [c]
    else (units c).flatMap fun unit => '\\' :: 'u' :: Text.hex 4 unit

def string (text : Chars) : Chars := '"' :: text.flatMap escaped ++ ['"']

def number (x : Binary64) : Chars :=
  if x.isNaN then "NaN".toList
  else if x.isInfinite then (if x.negative then "-Infinity" else "Infinity").toList
  else x.text.toList

def newLine (level : Nat) : Chars := '\n' :: List.replicate (2 * level) ' '

/-- Items between brackets, one on each line. -/
def enclose (left right : Char) (level : Nat) (items : List Chars) : Chars :=
  if items.isEmpty then [left, right]
  else
    left :: newLine (level + 1) ++ (',' :: newLine (level + 1)).intercalate items
      ++ newLine level ++ [right]

mutual

def value (level : Nat) : Plain → Chars
  | .null => "null".toList
  | .bool b => (if b then "true" else "false").toList
  | .int i => (toString i).toList
  | .float x => number x
  | .str s => string s.toList
  | .list list => enclose '[' ']' level (items (level + 1) list)
  | .dict dict => enclose '\x7b' '\x7d' level (entries (level + 1) dict)

def items (level : Nat) : List Plain → List Chars
  | [] => []
  | item :: rest => value level item :: items level rest

def entry (level : Nat) : String × Plain → Chars
  | (key, item) => string key.toList ++ ':' :: ' ' :: value level item

def entries (level : Nat) : List (String × Plain) → List Chars
  | [] => []
  | item :: rest => entry level item :: entries level rest

end

def text (plain : Plain) : Chars := value 0 plain

end TemplateTree.Format.Json
