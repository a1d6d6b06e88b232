import TemplateTree.Text.Blank
import TemplateTree.Text.Word
import TemplateTree.Text.Letter

/-!
# Clauses of structural directives

The value of a `*directive` attribute is cut at semicolons. Each clause names
a variable, binds an expression under a key, does both, or is an expression on
its own.
-/

namespace TemplateTree.Markup

open Text (Chars isBlank)

/-- The stretches between semicolons that are not empty, with their offsets. -/
def clauseRuns (pos : Nat) : Chars → List (Nat × Chars)
  | [] => []
  | c :: rest =>
    if c == ';' then clauseRuns (pos + 1) rest
    else
      match clauseRuns (pos + 1) rest with
      | (start, run) :: more =>
        if start == pos + 1 then (pos, c :: run) :: more else (pos, [c]) :: (start, run) :: more
      | [] => [(pos, [c])]

/-- Offsets of expressions are relative to the clause. -/
inductive Clause where
  /-- `let name = value` -/
  | assign (name value : Chars)
  /-- `let name key expression` -/
  | forEach (name key expression : Chars) (offset : Nat)
  /-- `key as name` -/
  | renamed (key name : Chars)
  /-- `key: expression`, also without the colon -/
  | keyed (key expression : Chars) (offset : Nat)
  | plain
  deriving DecidableEq, Repr

def isIdentifierChar (c : Char) : Bool := Text.isWord c || c == '$'

def readIdentifier? (text : Chars) : Option (Chars × Chars) :=
  match text.takeWhile isIdentifierChar with
  | [] => none
  | name => some (name, text.dropWhile isIdentifierChar)

def readBlanks? (text : Chars) : Option Chars :=
  if text.head?.any isBlank then some (text.dropWhile isBlank) else none

def wholeIdentifier? (text : Chars) : Option Chars :=
  match readIdentifier? text with
  | some (name, []) => some name
  | _ => none

def readWord? (word text : Chars) : Option Chars :=
  if word.isPrefixOf text then some (text.drop word.length) else none

def readAssign? (text : Chars) : Option Clause := do
  let behind ← readWord? "let".toList text
  let behind ← readBlanks? behind
  let (name, behind) ← readIdentifier? behind
  let behind ← readWord? ['='] (Text.trimLeft behind)
  let value ← wholeIdentifier? (Text.trimLeft behind)
  return .assign name value

def readForEach? (text : Chars) : Option Clause := do
  let behind ← readWord? "let".toList text
  let behind ← readBlanks? behind
  let (name, behind) ← readIdentifier? behind
  let behind ← readBlanks? behind
  let (key, behind) ← readIdentifier? behind
  let expression ← readBlanks? behind
  if expression.isEmpty then none
  return .forEach name key expression (text.length - expression.length)

def readAlias? (text : Chars) : Option Clause := do
  let (key, behind) ← readIdentifier? text
  let behind ← readBlanks? behind
  let behind ← readWord? "as".toList behind
  let behind ← readBlanks? behind
  let name ← wholeIdentifier? behind
  return .renamed key name

/-- The expression behind a key: behind a colon if something follows it, else
behind blanks. -/
def readKeyedBody? (behind : Chars) : Option Chars :=
  let afterColon :=
    match Text.trimLeft behind with
    | ':' :: rest => Text.trimLeft rest
    | _ => []
  if !afterColon.isEmpty then some afterColon
  else
    match readBlanks? behind with
    | some (c :: rest) => some (c :: rest)
    | _ => none

def readKeyed? (text : Chars) : Option Clause := do
  let (key, behind) ← readIdentifier? text
  let expression ← readKeyedBody? behind
  return .keyed key expression (text.length - expression.length)

/-- Reads a clause without blanks around it. The first clause of a directive is
never keyed. -/
def Clause.ofText (first : Bool) (text : Chars) : Clause :=
  let keyed := if first then none else readKeyed? text
  ((readAssign? text <|> readForEach? text) <|> (readAlias? text <|> keyed)).getD .plain

/-- The input that a key of a directive binds: `ngFor` and `of` give `ngForOf`. -/
def directiveInput (directive key : Chars) : Chars :=
  match key with
  | [] => directive
  | c :: rest => directive ++ Text.upperChar c ++ rest

end TemplateTree.Markup
