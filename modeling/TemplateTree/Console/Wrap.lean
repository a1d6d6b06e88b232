import TemplateTree.Text.Blank
import TemplateTree.Console.Markup
import TemplateTree.Console.Width

/-!
# Lines

How a text is laid out on lines of a given width: tabs become spaces, words that
do not fit go to the next line, and words longer than a line are cut.
-/

namespace TemplateTree.Console

open Text (Chars)

def splitLines : Chars → List Chars
  | [] => [[]]
  | c :: rest =>
    if c == '\n' then [] :: splitLines rest
    else
      match splitLines rest with
      | first :: more => (c :: first) :: more
      | [] => [[c]]

def tabSize : Nat := 8

/-- Replaces each tab by spaces up to the next tab stop; `column` cells are
already taken. -/
def expandTabs (column : Nat) : Chars → Chars
  | [] => []
  | c :: rest =>
    if c == '\t' then
      let size := tabSize - column % tabSize
      List.replicate size ' ' ++ expandTabs (column + size) rest
    else c :: expandTabs (column + charCells c) rest

def StyledText.expandTabs (styled : StyledText) : StyledText :=
  if styled.text.contains '\t' then
    let place := fun offset => (Console.expandTabs 0 (styled.text.take offset)).length
    let faults := styled.faults.filter fun span => span.start < span.stop
    ⟨Console.expandTabs 0 styled.text, faults.map fun span => ⟨place span.start, place span.stop⟩⟩
  else styled

/-- A word with the blanks around it: those before the first word, and those
behind each. -/
def takeWord (text : Chars) : Chars × Chars :=
  let before := text.takeWhile Text.isBlank
  let behind := text.drop before.length
  let word := behind.takeWhile fun c => !Text.isBlank c
  let behind := behind.drop word.length
  let after := behind.takeWhile Text.isBlank
  (before ++ word ++ after, behind.drop after.length)

def lineWords : Nat → Chars → List Chars
  | 0, _ => []
  | fuel + 1, text =>
    if Text.allBlank text then []
    else
      let (word, rest) := takeWord text
      word :: lineWords fuel rest

/-- Cuts a word into parts of at most `width` cells. `taken` cells of the first
part are used. -/
def chop (width : Nat) (taken : Nat) : Chars → List Chars
  | [] => [[]]
  | c :: rest =>
    let size := charCells c
    if width < taken + size then
      match chop width size rest with
      | first :: more => [] :: (c :: first) :: more
      | [] => [[], [c]]
    else
      match chop width (taken + size) rest with
      | first :: more => (c :: first) :: more
      | [] => [[c]]

/-- Where the words of a line are broken into lines. `line` is the current line,
empty at the start of the text only, and `taken` the cells it takes. -/
def fill (width : Nat) (fold : Bool) (line : Chars) (taken : Nat) : List Chars → List Chars
  | [] => [line]
  | word :: rest =>
    let size := cells (Text.trimRight word)
    if taken + size ≤ width then fill width fold (line ++ word) (taken + cells word) rest
    else if width < size then
      let start := if line.isEmpty then [] else [line]
      if fold then
        let parts := chop width 0 word
        let last := parts.getLastD []
        start ++ parts.dropLast ++ fill width fold last (cells last) rest
      else start ++ fill width fold word (cells word) rest
    else if taken == 0 || line.isEmpty then
      fill width fold (line ++ word) taken rest
    else line :: fill width fold word (cells word) rest

/-- Drops blanks at the end of a line as far as it is too long. -/
def trimExcess (width : Nat) (line : Chars) : Chars :=
  let blanks := (line.reverse.takeWhile Text.isBlank).length
  line.take (line.length - min blanks (line.length - width))

def crop (width : Nat) : Chars → Chars
  | [] => []
  | c :: rest => if charCells c ≤ width then c :: crop (width - charCells c) rest else []

/-- What happens to a line that is still too long. -/
inductive Overflow where
  | fold
  | ellipsis
  deriving DecidableEq, Repr

def padTo (width : Nat) (line : Chars) : Chars := line ++ List.replicate (width - cells line) ' '

def Overflow.fit (overflow : Overflow) (width : Nat) (line : Chars) : Chars :=
  if cells line ≤ width then line
  else
    match overflow with
    | fold => padTo width (crop width line)
    | ellipsis => padTo (width - 1) (crop (width - 1) line) ++ ['…']

inductive Justify where
  | none
  | left
  | right
  | center
  deriving DecidableEq, Repr

def Justify.trim (justify : Justify) (line : Chars) : Chars :=
  match justify with
  | none => line
  | left => line
  | right => Text.trimRight line
  | center => Text.trimRight line

def Justify.place (justify : Justify) (width : Nat) (line : Chars) : Chars :=
  match justify with
  | none => line
  | left => padTo width line
  | right => List.replicate (width - cells line) ' ' ++ line
  | center => padTo width (List.replicate ((width - cells line) / 2) ' ' ++ line)

/-- One line of a text on as many lines as it takes. From here on it matters only
whether there are faults, not where. -/
def wrapLine (justify : Justify) (overflow : Overflow) (width : Nat) (line : StyledText) :
    List StyledText :=
  let line := line.expandTabs
  let words := lineWords (line.text.length + 1) line.text
  let broken := if words.isEmpty then [line.text] else fill width (overflow == .fold) [] 0 words
  (line.cut 0 broken).map fun part =>
    let part := part.replace (trimExcess width part.text)
    let part := part.replace (justify.trim part.text)
    let part := part.replace (overflow.fit width part.text)
    { part with text := justify.place width part.text }

def wrap (justify : Justify) (overflow : Overflow) (width : Nat) (styled : StyledText) :
    List StyledText :=
  (styled.cut 1 (splitLines styled.text)).flatMap (wrapLine justify overflow width)

/-- The lines of a text as they are printed. -/
def layOut (justify : Justify) (overflow : Overflow) (width : Nat) (styled : StyledText) :
    Except MarkupError (List Chars) :=
  let lines := wrap justify overflow width styled
  if lines.all (·.faults.isEmpty) then .ok (lines.map (·.text)) else .error .missingNumber

end TemplateTree.Console
