import TemplateTree.Graph.Plain
import TemplateTree.Text.Search
import TemplateTree.Yaml.Tag

/-!
# YAML text

Plain data as a YAML document in block style. A text is written plainly where it
reads back as a text, between apostrophes where that is enough, and else between
quotation marks with escapes. Long lines are folded at single spaces.
-/

namespace TemplateTree.Format.Yaml

open Text (Chars)

/-! ## The style of a text -/

inductive Style where
  | plain
  | single
  | double
  deriving DecidableEq, Repr

def isBreak (c : Char) : Bool := Text.within [10, 11, 133, 134, 8232, 8234] c.toNat

def isGap (c : Char) : Bool :=
  c == ' ' || c == '\t' || c == '\r' || c.toNat == 0 || isBreak c

def endsWord (text : Chars) : Bool := text.head?.all isGap

def isSpecial (c : Char) : Bool := !(c == '\n' || (' ' ≤ c && c ≤ '~'))

/-- A colon that ends a word or a hash that begins one; `previous` stands before
the text. -/
def hasIndicator (previous : Char) : Chars → Bool
  | [] => false
  | c :: rest =>
    (c == ':' && endsWord rest) || (c == '#' && isGap previous) || hasIndicator c rest

def startsIndicator : Chars → Bool
  | [] => false
  | c :: rest =>
    "#,[]\x7b\x7d&*!|>'\"%@\x60".toList.contains c
      || ((c == '?' || c == ':' || c == '-') && endsWord rest)
      || "---".toList.isPrefixOf (c :: rest)
      || "...".toList.isPrefixOf (c :: rest)

def hasPair (first second : Char → Bool) : Chars → Bool
  | a :: b :: rest => (first a && second b) || hasPair first second (b :: rest)
  | _ => false

def isSpace (c : Char) : Bool := c == ' '

/-- Only escapes keep spaces at the ends of a line and unusual characters. -/
def needsEscapes (text : Chars) : Bool :=
  text.any isSpecial || hasPair isBreak isSpace text || hasPair isSpace isBreak text

def readsAsText (text : Chars) : Bool :=
  TemplateTree.Yaml.Tag.ofText text == .str
    && !(text.head?.any isSpace || text.getLast?.any isSpace || text.any isBreak)
    && !(startsIndicator text || hasIndicator (text.headD ' ') (text.drop 1))

def Style.ofText (text : Chars) : Style :=
  if needsEscapes text then double else if readsAsText text then plain else single

/-! ## Writing a text -/

def lineWidth : Nat := 80

def newLine (indent : Nat) : Chars := '\n' :: List.replicate indent ' '

/-- Writes a text without escapes. A single space far to the right becomes a line
break, and a line break is written twice. `previous` is the character before. -/
def folded (apostrophes : Bool) (indent : Nat) (previous : Option Char) (column : Nat) :
    Chars → Chars
  | [] => []
  | c :: rest =>
    if c == '\n' then
      let start := if previous == some '\n' then [] else ['\n']
      let stop := if rest.head? == some '\n' then [] else List.replicate indent ' '
      start ++ '\n' :: stop ++ folded apostrophes indent (some c) indent rest
    else if c == ' ' && lineWidth < column && previous.any (! isSpace ·)
        && rest.head?.any (! isSpace ·) then
      newLine indent ++ folded apostrophes indent (some c) indent rest
    else if c == '\'' && apostrophes then
      c :: c :: folded apostrophes indent (some c) (column + 2) rest
    else c :: folded apostrophes indent (some c) (column + 1) rest

def escapeLetters : List (Nat × Char) :=
  [ (0, '0'), (7, 'a'), (8, 'b'), (9, 't'), (10, 'n'), (11, 'v'), (12, 'f'), (13, 'r'), (27, 'e')
  , (34, '"'), (92, '\\'), (133, 'N'), (160, '_'), (8232, 'L'), (8233, 'P') ]

def upperHex (width n : Nat) : Chars := (Text.hex width n).map Char.toUpper

def escape? (c : Char) : Option Chars :=
  let n := c.toNat
  match escapeLetters.lookup n with
  | some letter => some ['\\', letter]
  | none =>
    if ' ' ≤ c && c ≤ '~' then none
    else if n < 0x100 then some ('\\' :: 'x' :: upperHex 2 n)
    else if n < 0x10000 then some ('\\' :: 'u' :: upperHex 4 n)
    else some ('\\' :: 'U' :: upperHex 8 n)

/-- What comes before a character: nothing, an escape or a plain character. -/
inductive Before where
  | start
  | escape
  | character
  deriving DecidableEq, Repr

/-- Ends a line within a text in quotation marks, and gives the new column. A
space that follows is kept by a backslash. -/
def continueLine (indent : Nat) (rest : Chars) : Chars × Nat :=
  if rest.head?.any isSpace then ('\\' :: newLine indent ++ ['\\'], indent + 1)
  else ('\\' :: newLine indent, indent)

/-- Writes a text with escapes. Lines are broken before a space, before what
follows an escape, and behind an escape. -/
def escaped (indent : Nat) (before : Before) (column : Nat) : Chars → Chars
  | [] => []
  | c :: rest =>
    let inside := before != .start && !rest.isEmpty
    match escape? c with
    | some text =>
      let column := column + text.length
      if inside && lineWidth + 1 < column then
        let (line, column) := continueLine indent rest
        text ++ line ++ escaped indent .escape column rest
      else text ++ escaped indent .escape column rest
    | none =>
      if inside && (c == ' ' || before == .escape) && lineWidth < column then
        let (line, column) := continueLine indent (c :: rest)
        line ++ c :: escaped indent .character (column + 1) rest
      else c :: escaped indent .character (column + 1) rest

def string (indent column : Nat) (text : Chars) : Chars :=
  match Style.ofText text with
  | .plain => ' ' :: folded false indent none (column + 1) text
  | .single => ' ' :: '\'' :: folded true indent none (column + 2) text ++ ['\'']
  | .double => ' ' :: '"' :: escaped indent .start (column + 2) text ++ ['"']

/-! ## Writing data -/

def withPoint (text : Chars) : Chars :=
  if text.contains '.' then text
  else
    match Text.cutAt? ['e'] text with
    | some (digits, exponent) => digits ++ ".0e".toList ++ exponent
    | none => text

def number (x : Binary64) : Chars :=
  if x.isNaN then ".nan".toList
  else if x.isInfinite then (if x.negative then "-.inf" else ".inf").toList
  else withPoint x.text.toList

def leaf (indent column : Nat) : Plain → Chars
  | .null => " null".toList
  | .bool b => (if b then " true" else " false").toList
  | .int i => ' ' :: (toString i).toList
  | .float x => ' ' :: number x
  | .str s => string indent column s.toList
  | .list _ => " []".toList
  | .dict _ => " \x7b\x7d".toList

def block (indent : Nat) (parts : List Chars) : Chars := (newLine indent).intercalate parts

mutual

def item (indent : Nat) : Plain → Chars
  | .list (first :: rest) =>
    '-' :: ' ' :: block (indent + 2) (item (indent + 2) first :: items (indent + 2) rest)
  | .dict (first :: rest) =>
    '-' :: ' ' :: block (indent + 2) (entry (indent + 2) first :: entries (indent + 2) rest)
  | value => '-' :: leaf (indent + 2) (indent + 1) value

def items (indent : Nat) : List Plain → List Chars
  | [] => []
  | value :: rest => item indent value :: items indent rest

/-- An entry of a dictionary. Keys are words; lists are not set in. -/
def entry (indent : Nat) : String × Plain → Chars
  | (key, .list (first :: rest)) =>
    key.toList ++ ':' :: newLine indent ++ block indent (item indent first :: items indent rest)
  | (key, .dict (first :: rest)) =>
    key.toList ++ ':' :: newLine (indent + 2)
      ++ block (indent + 2) (entry (indent + 2) first :: entries (indent + 2) rest)
  | (key, value) => key.toList ++ ':' :: leaf (indent + 2) (indent + key.length + 1) value

def entries (indent : Nat) : List (String × Plain) → List Chars
  | [] => []
  | value :: rest => entry indent value :: entries indent rest

end

/-- A document, with a line break at its end. -/
def text : Plain → Chars
  | .list (first :: rest) => block 0 (items 0 (first :: rest)) ++ ['\n']
  | .dict (first :: rest) => block 0 (entries 0 (first :: rest)) ++ ['\n']
  | value => (leaf 2 0 value).drop 1 ++ ['\n']

end TemplateTree.Format.Yaml
