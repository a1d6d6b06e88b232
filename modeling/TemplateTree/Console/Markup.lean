import TemplateTree.Console.Action
import TemplateTree.Console.Style
import TemplateTree.Console.Styled

/-!
# Console markup

Texts for the console may hold tags in square brackets. A tag changes the style
and is not shown; `[/]` closes the last open tag and `[/name]` the last one of
that name. A backslash before a tag makes it plain text. `escape` writes a text so
that it holds no tags.
-/

namespace TemplateTree.Console

open Text (Chars)

inductive MarkupError where
  /-- A closing tag has nothing to close. -/
  | unmatched
  /-- The arguments of an action cannot be read. -/
  | badArguments
  /-- A mixed color lacks a number. -/
  | missingNumber
  deriving DecidableEq, Repr

def startsTag (c : Char) : Bool :=
  ('a' ≤ c && c ≤ 'z') || c == '#' || c == '/' || c == '@'

def readTag? : Chars → Option (Chars × Chars)
  | [] => none
  | c :: rest =>
    if startsTag c then
      let inside := rest.takeWhile fun c => !(c == '[' || c == ']')
      match rest.drop inside.length with
      | ']' :: after => some (c :: inside, after)
      | _ => none
    else none

theorem readTag?_shorter {text inside rest : Chars} (h : readTag? text = some (inside, rest)) :
    rest.length < text.length := by
  unfold readTag? at h
  split at h
  · simp at h
  · rename_i c tail
    split at h
    · dsimp only at h
      split at h
      · rename_i after hd
        obtain ⟨rfl, rfl⟩ := Prod.mk.inj (Option.some.inj h)
        have hl := congrArg List.length hd
        rw [List.length_drop, List.length_cons] at hl
        simp only [List.length_cons]
        omega
      · simp at h
    · simp at h

inductive Piece where
  | text (value : Chars)
  | tag (inside : Chars)
  deriving DecidableEq, Repr

/-- A tag behind a row of backslashes: each two stand for one, and an odd one
takes the meaning from the tag. -/
def escapedTag (backslashes : Nat) (inside : Chars) : List Piece :=
  let kept : List Piece :=
    if backslashes < 2 then [] else [.text (List.replicate (backslashes / 2) '\\')]
  kept ++ [if backslashes % 2 == 0 then .tag inside else .text ('[' :: inside ++ [']'])]

def textBefore (before : Chars) : List Piece :=
  if before.isEmpty then [] else [.text before.reverse]

/-- Cuts markup at its tags. `before` holds the text since the last tag,
backwards, without the backslashes counted at its end. -/
def piecesFrom (before : Chars) (backslashes : Nat) (markup : Chars) : List Piece :=
  match markup with
  | [] => textBefore (List.replicate backslashes '\\' ++ before)
  | c :: rest =>
    if c = '\\' then piecesFrom before (backslashes + 1) rest
    else if c = '[' then
      match _h : readTag? rest with
      | some (inside, after) =>
        textBefore before ++ escapedTag backslashes inside ++ piecesFrom [] 0 after
      | none => piecesFrom (c :: (List.replicate backslashes '\\' ++ before)) 0 rest
    else piecesFrom (c :: (List.replicate backslashes '\\' ++ before)) 0 rest
termination_by markup.length
decreasing_by
  all_goals
    first
    | (simp only [List.length_cons]; omega)
    | (have shorter := readTag?_shorter _h; simp only [List.length_cons]; omega)

def pieces (markup : Chars) : List Piece := piecesFrom [] 0 markup

/-- A backslash before a bracket that opens no tag is dropped. -/
def plainBrackets : Chars → Chars
  | '\\' :: '[' :: rest => '[' :: plainBrackets rest
  | c :: rest => c :: plainBrackets rest
  | [] => []

def isStripped (c : Char) : Bool :=
  let n := c.toNat
  n == 7 || n == 8 || n == 11 || n == 12 || n == 13

def shown (text : Chars) : Chars := (replaceEmoji text).filter (! isStripped ·)

/-- The name of a tag and what stands behind its equals sign. -/
def tagParts (inside : Chars) : Chars × Option Chars :=
  match Text.cutAt? ['='] inside with
  | some (name, parameters) => (name, some parameters)
  | none => (inside, none)

def normalName (name : Chars) : Except MarkupError Chars :=
  match normalStyle name with
  | .ok name => .ok name
  | .error _ => .error .missingNumber

/-- An open tag by its normal name, and where the text that it styles starts. -/
structure OpenTag where
  name : Chars
  parameters : Option Chars
  start : Nat
  deriving DecidableEq, Repr

def OpenTag.isReadable (tag : OpenTag) : Bool :=
  match tag.name, tag.parameters with
  | '@' :: _, some parameters => isAction parameters
  | _, _ => true

def OpenTag.style (tag : OpenTag) : Chars :=
  match tag.parameters with
  | some parameters => tag.name ++ ' ' :: parameters
  | none => tag.name

def OpenTag.fault? (tag : OpenTag) (stop : Nat) : Option Span :=
  match Style.ofText tag.style with
  | .error .missingNumber => some ⟨tag.start, stop⟩
  | _ => none

/-- Takes the last open tag of a name from the stack, innermost first. -/
def closeNamed? (name : Chars) : List OpenTag → Option (OpenTag × List OpenTag)
  | [] => none
  | tag :: rest =>
    if tag.name == name then some (tag, rest)
    else (closeNamed? name rest).map fun (found, others) => (found, tag :: others)

def close (closing : Chars) (stack : List OpenTag) :
    Except MarkupError (OpenTag × List OpenTag) := do
  let name := Text.trim closing
  let found ←
    if name.isEmpty then
      match stack with
      | [] => .ok none
      | tag :: rest => .ok (some (tag, rest))
    else do
      let name ← normalName name
      .ok (closeNamed? name stack)
  match found with
  | none => .error .unmatched
  | some (tag, rest) => if tag.isReadable then .ok (tag, rest) else .error .badArguments

/-- What pieces of markup show behind `position` characters of text. Tags that are
never closed reach to the end. -/
def renderPieces (position : Nat) (stack : List OpenTag) :
    List Piece → Except MarkupError StyledText
  | [] => .ok ⟨[], stack.filterMap (·.fault? position)⟩
  | .text value :: rest => do
    let text := shown (plainBrackets value)
    let more ← renderPieces (position + text.length) stack rest
    .ok ⟨text ++ more.text, more.faults⟩
  | .tag inside :: rest =>
    let (name, parameters) := tagParts inside
    match name with
    | '/' :: closing => do
      let (tag, stack) ← close closing stack
      let more ← renderPieces position stack rest
      .ok ⟨more.text, (tag.fault? position).toList ++ more.faults⟩
    | name => do
      let name ← normalName name
      renderPieces position (⟨name, parameters, position⟩ :: stack) rest

def render (markup : Chars) : Except MarkupError StyledText := renderPieces 0 [] (pieces markup)

/-- Writes a text so that its tags are shown: the backslashes before a tag are
doubled and one more is put there. `backslashes` counts those just passed. -/
def escapeFrom (backslashes : Nat) (text : Chars) : Chars :=
  match text with
  | [] => []
  | c :: rest =>
    if c = '\\' then c :: escapeFrom (backslashes + 1) rest
    else if c = '[' then
      match _h : readTag? rest with
      | some (inside, after) =>
        List.replicate (backslashes + 1) '\\' ++ '[' :: inside ++ ']' :: escapeFrom 0 after
      | none => c :: escapeFrom 0 rest
    else c :: escapeFrom 0 rest
termination_by text.length
decreasing_by
  all_goals
    first
    | (simp only [List.length_cons]; omega)
    | (have shorter := readTag?_shorter _h; simp only [List.length_cons]; omega)

/-- A single backslash at the end is doubled. -/
def escape (text : Chars) : Chars :=
  let escaped := escapeFrom 0 text
  let trailing := (escaped.reverse.takeWhile (· == '\\')).length
  if trailing == 1 then escaped ++ ['\\'] else escaped

end TemplateTree.Console
