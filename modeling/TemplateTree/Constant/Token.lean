import TemplateTree.Constant.Quoted

/-!
# Tokens of constants

A constant stands on one line, which a backslash at its end or an open bracket
carries on. Other lines may hold comments only.
-/

namespace TemplateTree.Constant

open Text (Chars)

inductive Token where
  | number (kind : NumberKind)
  | string (bytes : Bool)
  | ellipsis
  | name (word : Chars)
  | mark (c : Char)
  deriving DecidableEq, Repr

def isSpace (c : Char) : Bool := c == ' ' || c == '\t' || c == '\x0c'

def isMark (c : Char) : Bool := ['(', ')', '\x7b', '\x7d', ',', ':', '+', '-'].contains c

def takeWord? (text : Chars) : Option (Token × Chars) :=
  let word := text.takeWhile isNameChar
  match text.drop word.length with
  | [] => some (.name word, [])
  | c :: rest =>
    if isQuote c then do
      let quoting ← Quoting.ofLetters? word
      let (inside, after) ← takeQuoted? c rest
      if quoting.isReadable inside then some (.string quoting.bytes, after) else none
    else some (.name word, c :: rest)

def token? : Chars → Option (Token × Chars)
  | [] => none
  | '.' :: '.' :: '.' :: rest => some (.ellipsis, rest)
  | c :: rest =>
    if c.isDigit || (c == '.' && rest.head?.any Char.isDigit) then
      (takeNumber? (c :: rest)).map fun (kind, rest) => (.number kind, rest)
    else if isNameChar c || isQuote c then takeWord? (c :: rest)
    else if isMark c then some (.mark c, rest)
    else none

/-- The indentation of a line, and the line behind it. A tab goes to the next
multiple of eight. A line that is carried on has the indentation of its first part,
if that has one. -/
def indentation? (column first : Nat) : Chars → Option (Nat × Chars)
  | ' ' :: rest => indentation? (column + 1) first rest
  | '\t' :: rest => indentation? ((column / 8 + 1) * 8) first rest
  | '\x0c' :: rest => indentation? 0 first rest
  | '\\' :: rest =>
    match rest with
    | '\n' :: rest =>
      if rest.isEmpty then none
      else indentation? column (if first == 0 then column else first) rest
    | _ => none
  | text => some (if first == 0 then column else first, text)

/-- The text from the first line on that holds more than a comment. That line may
not be indented. The number bounds the lines. -/
def skipBlankLines? : Nat → Chars → Option Chars
  | 0, _ => none
  | n + 1, text =>
    match indentation? 0 0 text with
    | none => none
    | some (column, text) =>
      match text with
      | '#' :: rest => skipBlankLines? n (rest.dropWhile (· != '\n'))
      | '\n' :: rest => skipBlankLines? n rest
      | text => if column == 0 then some text else none

def Token.depth (before : Nat) : Token → Nat
  | mark '(' => before + 1
  | mark '\x7b' => before + 1
  | mark ')' => before - 1
  | mark '\x7d' => before - 1
  | _ => before

/-- The tokens of a line where `depth` brackets are open. The number bounds the
steps. -/
def lineTokens? (depth : Nat) : Nat → Chars → Option (List Token)
  | 0, _ => none
  | n + 1, text =>
    match text.dropWhile isSpace with
    | [] => some []
    | '#' :: rest => lineTokens? depth n (rest.dropWhile (· != '\n'))
    | '\\' :: rest =>
      match rest with
      | '\n' :: rest => if rest.isEmpty then none else lineTokens? depth n rest
      | _ => none
    | '\n' :: rest =>
      if 0 < depth then lineTokens? depth n rest
      else if skipBlankLines? (rest.length + 1) rest == some [] then some []
      else none
    | text =>
      match token? text with
      | none => none
      | some (token, rest) => (lineTokens? (token.depth depth) n rest).map (token :: ·)

def tokens? (text : Chars) : Option (List Token) :=
  let text := Text.universalLines text
  if text.contains '\x00' then none
  else do
    let text ← skipBlankLines? (text.length + 1) text
    lineTokens? 0 (text.length + 1) text

end TemplateTree.Constant
