import TemplateTree.Expression.Token

/-!
# Reading tokens

The text of an expression becomes a list of tokens, read as far as there is one.
How the list ends tells whether the whole text was read.
-/

namespace TemplateTree.Expression

open Text (Chars)

/-- Why a text is no expression. -/
inductive Rejection where
  /-- A token, or the end of the text, stands where none like it may stand. -/
  | unexpectedToken
  /-- The text goes on with characters that begin no token. -/
  | unexpectedCharacters
  deriving DecidableEq, Repr

inductive Ending where
  | complete
  | stuck (cause : Rejection)
  deriving DecidableEq, Repr

def Ending.rejection : Ending → Rejection
  | complete => .unexpectedToken
  | stuck cause => cause

/-- Whether some token stands in front of a text, expected or not. -/
def startsToken (text : Chars) : Bool :=
  (operandToken? text).isSome || (operatorToken? text).isSome

def endingAt (text : Chars) : Ending :=
  if text.isEmpty then .complete
  else .stuck (if startsToken text then .unexpectedToken else .unexpectedCharacters)

def tokens (expects : Expects) (pos : Int) (text : Chars) : List Token × Ending :=
  let start := pos + (text.takeWhile isIgnored).length
  let body := text.dropWhile isIgnored
  match _h : expects.token? body with
  | none => ([], endingAt body)
  | some (terminal, rest) =>
    let stop := start + terminal.written.length
    let (more, ending) := tokens terminal.next stop rest
    (⟨terminal, start, stop⟩ :: more, ending)
termination_by text.length
decreasing_by
  have hs := Expects.token?_shorter _h
  have hd := (List.dropWhile_sublist (p := isIgnored) (l := text)).length_le
  exact Nat.lt_of_lt_of_le hs hd

end TemplateTree.Expression
