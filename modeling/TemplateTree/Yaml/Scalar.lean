import TemplateTree.Text.Digit
import TemplateTree.Text.Quoted
import TemplateTree.Yaml.Cursor

/-!
# Written scalars

Plain, quoted and block scalars: from the place where one starts to its text and
the place behind it. Line breaks inside a scalar are folded as its style asks.
-/

namespace TemplateTree.Yaml

open Text (Chars Codes)

inductive YamlError where
  | invalid
  /-- A number, a date or a code of a character that there is not. -/
  | badNumber
  /-- A number without any text. -/
  | noNumber
  /-- A number too large to be calculated with. -/
  | tooLarge
  | badTruth
  | badTime
  /-- A date that is no scalar. -/
  | timeNotScalar
  deriving DecidableEq, Repr

abbrev Scan := Except YamlError

/-! ## Quoted scalars -/

def quotedBreaks : Nat → Cursor → Scan (Chars × Cursor)
  | 0, cursor => .ok ([], cursor)
  | fuel + 1, cursor =>
    if cursor.atDocumentMark then .error .invalid
    else
      let cursor := cursor.skip fun c => c == ' ' || c == '\t'
      if cursor.peek.any isBreak then do
        let (first, cursor) := cursor.lineBreak
        let (more, cursor) ← quotedBreaks fuel cursor
        .ok (first ++ more, cursor)
      else .ok ([], cursor)

/-- One line break becomes a space; of several, the first is dropped. -/
def foldBreaks (first more : Chars) : Chars :=
  if first != ['\n'] then first ++ more else if more.isEmpty then [' '] else more

def quotedSpaces (cursor : Cursor) : Scan (Chars × Cursor) :=
  let (blanks, cursor) := cursor.span fun c => c == ' ' || c == '\t'
  match cursor.peek with
  | none => .error .invalid
  | some c =>
    if isBreak c then do
      let (first, cursor) := cursor.lineBreak
      let (more, cursor) ← quotedBreaks (cursor.rest.length + 1) cursor
      .ok (foldBreaks first more, cursor)
    else .ok (blanks, cursor)

def escapeTable : List (Char × Char) :=
  [ ('0', '\x00'), ('a', '\x07'), ('b', '\x08'), ('t', '\t'), ('\t', '\t'), ('n', '\n')
  , ('v', '\x0b'), ('f', '\x0c'), ('r', '\r'), ('e', '\x1b'), (' ', ' '), ('\x22', '\x22')
  , ('\\', '\\'), ('/', '/'), ('N', '\x85'), ('_', '\xa0'), ('L', '\u2028'), ('P', '\u2029') ]

def escapeWidths : List (Char × Nat) := [('x', 2), ('u', 4), ('U', 8)]

def escapeAt (cursor : Cursor) : Scan (Codes × Cursor) :=
  match cursor.peek with
  | none => .error .invalid
  | some c =>
    match escapeTable.lookup c, escapeWidths.lookup c with
    | some plain, _ => .ok ([plain.toNat], cursor.next)
    | none, some width =>
      let digits := cursor.next.rest.take width
      match Text.readHex? 0 digits with
      | some code =>
        if digits.length < width then .error .invalid
        else if code < 0x110000 then .ok ([code], cursor.next.advance width)
        else if code < 0x80000000 then .error .badNumber
        else .error .tooLarge
      | none => .error .invalid
    | none, none =>
      if isBreak c then do
        let cursor := cursor.lineBreak.2
        let (breaks, cursor) ← quotedBreaks (cursor.rest.length + 1) cursor
        .ok (.ofChars breaks, cursor)
      else .error .invalid

def quotedWord (quote : Char) : Nat → Cursor → Scan (Codes × Cursor)
  | 0, cursor => .ok ([], cursor)
  | fuel + 1, cursor => do
    let double := quote == '\x22'
    let isPlain (c : Char) : Bool :=
      !(c == '\x27' || c == '\x22' || c == '\\' || c == ' ' || c == '\t' || isBreak c)
    let (plain, cursor) := cursor.span isPlain
    let plain := Codes.ofChars plain
    match cursor.peek with
    | none => .ok (plain, cursor)
    | some c =>
      if !double && c == '\x27' && cursor.peekAt 1 == some '\x27' then
        let (more, cursor) ← quotedWord quote fuel (cursor.advance 2)
        .ok (plain ++ c.toNat :: more, cursor)
      else if (double && c == '\x27') || (!double && (c == '\x22' || c == '\\')) then
        let (more, cursor) ← quotedWord quote fuel cursor.next
        .ok (plain ++ c.toNat :: more, cursor)
      else if double && c == '\\' then
        let (first, cursor) ← escapeAt cursor.next
        let (more, cursor) ← quotedWord quote fuel cursor
        .ok (plain ++ first ++ more, cursor)
      else .ok (plain, cursor)

def quotedParts (quote : Char) : Nat → Cursor → Scan (Codes × Cursor)
  | 0, _ => .error .invalid
  | fuel + 1, cursor =>
    if cursor.peek == some quote then .ok ([], cursor.next)
    else do
      let (blanks, cursor) ← quotedSpaces cursor
      let (word, cursor) ← quotedWord quote (cursor.rest.length + 1) cursor
      let (more, cursor) ← quotedParts quote fuel cursor
      .ok (.ofChars blanks ++ word ++ more, cursor)

def quotedScalar (quote : Char) (cursor : Cursor) : Scan (Codes × Cursor) := do
  let (word, cursor) ← quotedWord quote (cursor.rest.length + 1) cursor.next
  let (more, cursor) ← quotedParts quote (cursor.rest.length + 1) cursor
  .ok (word ++ more, cursor)

/-! ## Plain scalars -/

def plainLength (inFlow : Bool) : Chars → Nat
  | [] => 0
  | c :: rest =>
    let isFlowMark (c : Char) : Bool :=
    c == ',' || c == '[' || c == ']' || c == '\x7b' || c == '\x7d'
    if isBreak c || c == ' ' || c == '\t' then 0
    else if c == ':' && (endsItem rest.head? || (inFlow && rest.head?.any isFlowMark)) then 0
    else if inFlow && (isFlowMark c || c == '?') then 0
    else plainLength inFlow rest + 1

/-- Line breaks and spaces between two lines of a plain scalar; `none` where a
document starts or ends. -/
def plainBreaks : Nat → Cursor → Option Chars × Cursor
  | 0, cursor => (some [], cursor)
  | fuel + 1, cursor =>
    match cursor.peek with
    | some ' ' => plainBreaks fuel cursor.next
    | some c =>
      if isBreak c then
        let (first, cursor) := cursor.lineBreak
        if cursor.atDocumentMark then (none, cursor)
        else
          let (more, cursor) := plainBreaks fuel cursor
          (more.map (first ++ ·), cursor)
      else (some [], cursor)
    | none => (some [], cursor)

/-- What stands between two words of a plain scalar. Also tells whether a line
was ended. -/
def plainSpaces (cursor : Cursor) : Chars × Bool × Cursor :=
  let (blanks, cursor) := cursor.span (· == ' ')
  if cursor.peek.any isBreak then
    let (first, cursor) := cursor.lineBreak
    if cursor.atDocumentMark then ([], true, cursor)
    else
      match plainBreaks (cursor.rest.length + 1) cursor with
      | (none, cursor) => ([], true, cursor)
      | (some more, cursor) => (foldBreaks first more, true, cursor)
  else (blanks, false, cursor)

/-- The words of a plain scalar, each behind the spaces before it. The flag
tells whether the scalar was left at the start of a line. -/
def plainWords (inFlow : Bool) (indent : Int) :
    Nat → Chars → Bool → Cursor → Chars × Bool × Cursor
  | 0, _, fresh, cursor => ([], fresh, cursor)
  | fuel + 1, spaces, fresh, cursor =>
    let length := plainLength inFlow cursor.rest
    if cursor.peek == some '#' || length == 0 then ([], fresh, cursor)
    else
      let word := cursor.rest.take length
      let (between, fresh, cursor) := plainSpaces (cursor.advance length)
      if between.isEmpty || cursor.peek == some '#' || (!inFlow && (cursor.column : Int) < indent)
      then (spaces ++ word, fresh, cursor)
      else
        let (more, fresh, cursor) := plainWords inFlow indent fuel between fresh cursor
        (spaces ++ word ++ more, fresh, cursor)

/-! ## Block scalars -/

inductive Chomping where
  | strip
  | clip
  | keep
  deriving DecidableEq, Repr

def blockHeader (cursor : Cursor) : Scan (Chomping × Option Nat × Cursor) :=
  let chomping? (cursor : Cursor) : Option Chomping :=
    match cursor.peek with
    | some '+' => some .keep
    | some '-' => some .strip
    | _ => none
  let digit? (cursor : Cursor) : Option Nat :=
    cursor.peek.bind fun c => if c.isDigit then some (c.toNat - 48) else none
  let (chomping, increment, cursor) :=
    match chomping? cursor, digit? cursor with
    | some chomping, _ =>
      match digit? cursor.next with
      | some n => (chomping, some n, cursor.advance 2)
      | none => (chomping, none, cursor.next)
    | none, some n =>
      match chomping? cursor.next with
      | some chomping => (chomping, some n, cursor.advance 2)
      | none => (.clip, some n, cursor.next)
    | none, none => (.clip, none, cursor)
  if increment == some 0 || !endsWord cursor.peek then .error .invalid
  else .ok (chomping, increment, cursor)

def restOfLine (cursor : Cursor) : Scan Cursor :=
  let cursor := cursor.skipSpaces.skipComment
  if endsLine cursor.peek then .ok cursor.lineBreak.2 else .error .invalid

def blockIndentation : Nat → Nat → Cursor → Chars × Nat × Cursor
  | 0, deepest, cursor => ([], deepest, cursor)
  | fuel + 1, deepest, cursor =>
    match cursor.peek with
    | some ' ' => blockIndentation fuel (max deepest cursor.next.column) cursor.next
    | some c =>
      if isBreak c then
        let (first, cursor) := cursor.lineBreak
        let (more, deepest, cursor) := blockIndentation fuel deepest cursor
        (first ++ more, deepest, cursor)
      else ([], deepest, cursor)
    | none => ([], deepest, cursor)

def skipIndent (indent : Nat) : Nat → Cursor → Cursor
  | 0, cursor => cursor
  | fuel + 1, cursor =>
    if cursor.column < indent && cursor.peek == some ' ' then skipIndent indent fuel cursor.next
    else cursor

/-- Empty lines, and the indentation of the line behind them. -/
def blockBreaks (indent : Nat) : Nat → Cursor → Chars × Cursor
  | 0, cursor => ([], cursor)
  | fuel + 1, cursor =>
    let cursor := skipIndent indent indent cursor
    if cursor.peek.any isBreak then
      let (first, cursor) := cursor.lineBreak
      let (more, cursor) := blockBreaks indent fuel cursor
      (first ++ more, cursor)
    else ([], cursor)

/-- The lines of a block scalar: their text, the last line break and the empty
lines behind it. -/
def blockLines (folded : Bool) (indent : Nat) :
    Nat → Chars → Cursor → Chars × Chars × Chars × Cursor
  | 0, breaks, cursor => ([], [], breaks, cursor)
  | fuel + 1, breaks, cursor =>
    if cursor.column == indent && cursor.peek.isSome then
      let isBlankStart (cursor : Cursor) : Bool :=
    cursor.peek == some ' ' || cursor.peek == some '\t'
      let leading := !isBlankStart cursor
      let (line, cursor) := cursor.span fun c => !isBreak c
      let (ending, cursor) := cursor.lineBreak
      let (after, cursor) := blockBreaks indent (cursor.rest.length + 1) cursor
      if cursor.column == indent && cursor.peek.isSome then
        let joint :=
          if folded && ending == ['\n'] && leading && !isBlankStart cursor then
            if after.isEmpty then [' '] else []
          else ending
        let (more, last, empty, cursor) := blockLines folded indent fuel after cursor
        (breaks ++ line ++ joint ++ more, last, empty, cursor)
      else (breaks ++ line, ending, after, cursor)
    else ([], [], breaks, cursor)

def blockScalar (folded : Bool) (outer : Int) (cursor : Cursor) : Scan (Chars × Cursor) := do
  let (chomping, increment, cursor) ← blockHeader cursor.next
  let cursor ← restOfLine cursor
  let least := (max (outer + 1) 1).toNat
  let fuel := cursor.rest.length + 1
  let (breaks, indent, cursor) :=
    match increment with
    | none =>
      let (breaks, deepest, cursor) := blockIndentation fuel 0 cursor
      (breaks, max least deepest, cursor)
    | some n =>
      let indent := least + n - 1
      let (breaks, cursor) := blockBreaks indent fuel cursor
      (breaks, indent, cursor)
  let (text, last, empty, cursor) := blockLines folded indent fuel breaks cursor
  let ending :=
    match chomping with
    | .strip => []
    | .clip => last
    | .keep => last ++ empty
  .ok (text ++ ending, cursor)

end TemplateTree.Yaml
