import TemplateTree.Number.Reading
import TemplateTree.Yaml.Scalar

/-!
# Tokens of YAML

Indentation and brackets become explicit: a block collection starts with a
token of its own and ends with one, and every key has a token before it. A key
is known as such only when its colon is found, so its token is put in
afterwards. Where the text cannot be read on, the last token tells why: a reader of
the tokens may find a fault of its own before it.
-/

namespace TemplateTree.Yaml

open Text (Chars Codes)

inductive Token where
  | version (major : Nat)
  | tagHandle (handle mapped : Chars)
  | otherDirective
  | documentStart
  | documentEnd
  | blockSequenceStart
  | blockMappingStart
  | blockEnd
  | flowSequenceStart
  | flowSequenceEnd
  | flowMappingStart
  | flowMappingEnd
  | flowEntry
  | blockEntry
  | key
  | value
  | aliasOf (name : Chars)
  | anchor (name : Chars)
  | tag (handle : Option Chars) (suffix : Chars)
  | scalar (text : Codes) (plain : Bool)
  /-- Behind this the text cannot be read. -/
  | broken (error : YamlError)
  deriving DecidableEq, Repr

structure PossibleKey where
  tokenNumber : Nat
  required : Bool
  index : Nat
  line : Nat
  column : Nat
  deriving Repr

structure Scanner where
  cursor : Cursor
  tokens : List Token := []
  flow : Nat := 0
  indent : Int := -1
  indents : List Int := []
  keyAllowed : Bool := true
  possibleKeys : List (Nat × PossibleKey) := []
  deriving Repr

namespace Scanner

def emit (s : Scanner) (token : Token) : Scanner := { s with tokens := s.tokens ++ [token] }

def inFlow (s : Scanner) : Bool := s.flow != 0

def move (s : Scanner) (n : Nat) : Scanner := { s with cursor := s.cursor.advance n }

/-- Forgets keys that started on another line or too far back. -/
def dropStaleKeys (s : Scanner) : Scan Scanner :=
  let isStale (key : PossibleKey) : Bool :=
    key.line != s.cursor.line || 1024 < s.cursor.index - key.index
  if s.possibleKeys.any fun (_, key) => isStale key && key.required then .error .invalid
  else .ok { s with possibleKeys := s.possibleKeys.filter fun (_, key) => !isStale key }

def dropKey (s : Scanner) : Scan Scanner :=
  match s.possibleKeys.lookup s.flow with
  | none => .ok s
  | some key =>
    if key.required then .error .invalid
    else .ok { s with possibleKeys := s.possibleKeys.filter (·.1 != s.flow) }

def noteKey (s : Scanner) : Scan Scanner :=
  if s.keyAllowed then do
    let required := !s.inFlow && s.indent == s.cursor.column
    let s ← s.dropKey
    let key : PossibleKey :=
      { tokenNumber := s.tokens.length, required, index := s.cursor.index, line := s.cursor.line
        column := s.cursor.column }
    .ok { s with possibleKeys := (s.flow, key) :: s.possibleKeys }
  else .ok s

/-- Ends the block collections that are indented deeper than a column. -/
def unwindTo (column : Int) : Nat → Scanner → Scanner
  | 0, s => s
  | fuel + 1, s =>
    if column < s.indent then
      let s := s.emit .blockEnd
      unwindTo column fuel { s with indent := s.indents.headD (-1), indents := s.indents.tail }
    else s

def unwind (s : Scanner) (column : Int) : Scanner :=
  if s.inFlow then s else unwindTo column (s.indents.length + 1) s

/-- Starts a block collection at a column deeper than the current one; its token
is put at the given place. -/
def indentAt (s : Scanner) (column : Nat) (place : Nat) (token : Token) : Scanner :=
  if s.indent < column then
    { s with
      indents := s.indent :: s.indents
      indent := column
      tokens := s.tokens.take place ++ token :: s.tokens.drop place }
  else s

def toNextToken : Nat → Scanner → Scanner
  | 0, s => s
  | fuel + 1, s =>
    let cursor := s.cursor.skipSpaces.skipComment
    if cursor.peek.any isBreak then
      toNextToken fuel
        { s with cursor := cursor.lineBreak.2, keyAllowed := s.keyAllowed || !s.inFlow }
    else { s with cursor }

/-! ## Names, tags and directives -/

def isNameChar (c : Char) : Bool := c.isAlphanum || c == '-' || c == '_'

def anchorName (cursor : Cursor) : Scan (Chars × Cursor) :=
  let (name, cursor) := cursor.span isNameChar
  let mayFollow :=
    endsItem cursor.peek || cursor.peek.any fun c => "?:,]\x7d%@\x60".toList.contains c
  if name.isEmpty || !mayFollow then .error .invalid else .ok (name, cursor)

def isUriChar (c : Char) : Bool :=
  c.isAlphanum || "-;/?:@&=+$,_.!~*\x27()[]".toList.contains c

def uriEscapes : Nat → Cursor → Scan (List UInt8 × Cursor)
  | 0, cursor => .ok ([], cursor)
  | fuel + 1, cursor =>
    if cursor.peek == some '%' then
      let digits := cursor.next.rest.take 2
      match Text.readHex? 0 digits with
      | some code =>
        if digits.length < 2 then .error .invalid
        else do
          let (more, cursor) ← uriEscapes fuel (cursor.advance 3)
          .ok (UInt8.ofNat code :: more, cursor)
      | none => .error .invalid
    else .ok ([], cursor)

def uriParts : Nat → Cursor → Scan (Chars × Cursor)
  | 0, cursor => .ok ([], cursor)
  | fuel + 1, cursor => do
    let (plain, cursor) := cursor.span isUriChar
    if cursor.peek == some '%' then
      let (bytes, cursor) ← uriEscapes (cursor.rest.length + 1) cursor
      match String.fromUTF8? ⟨bytes.toArray⟩ with
      | none => .error .invalid
      | some text =>
        let (more, cursor) ← uriParts fuel cursor
        .ok (plain ++ text.toList ++ more, cursor)
    else .ok (plain, cursor)

def uri (cursor : Cursor) : Scan (Chars × Cursor) := do
  let (text, after) ← uriParts (cursor.rest.length + 1) cursor
  if text.isEmpty then .error .invalid else .ok (text, after)

def tagHandle (cursor : Cursor) : Scan (Chars × Cursor) :=
  if cursor.peek != some '!' then .error .invalid
  else if cursor.peekAt 1 == some ' ' then .ok (['!'], cursor.next)
  else
    let (name, after) := cursor.next.span isNameChar
    if after.peek == some '!' then .ok ('!' :: name ++ ['!'], after.next) else .error .invalid

/-- Whether a tag has a handle of its own: a second bang before its end. -/
def hasHandle (text : Chars) : Bool :=
  (text.takeWhile fun c => !(c == ' ' || isBreak c)).contains '!'

def tagToken (cursor : Cursor) : Scan (Token × Cursor) := do
  let (handle, suffix, cursor) ←
    if cursor.peekAt 1 == some '<' then do
      let (suffix, cursor) ← uri (cursor.advance 2)
      if cursor.peek == some '>' then .ok ((none : Option Chars), suffix, cursor.next)
      else .error .invalid
    else if endsItem (cursor.peekAt 1) then .ok (none, ['!'], cursor.next)
    else if hasHandle cursor.next.rest then do
      let (handle, cursor) ← tagHandle cursor
      let (suffix, cursor) ← uri cursor
      .ok (some handle, suffix, cursor)
    else do
      let (suffix, cursor) ← uri cursor.next
      .ok (some ['!'], suffix, cursor)
  if endsWord cursor.peek then .ok (.tag handle suffix, cursor) else .error .invalid

def versionPart (cursor : Cursor) : Scan (Nat × Cursor) :=
  let (digits, cursor) := cursor.span Char.isDigit
  if maxDigits < digits.length then .error .badNumber
  else
    match readBase? 10 digits with
    | some n => .ok (n, cursor)
    | none => .error .invalid

def versionDirective (cursor : Cursor) : Scan (Token × Cursor) := do
  let (major, cursor) ← versionPart cursor.skipSpaces
  if cursor.peek != some '.' then .error .invalid
  else
    let (_, cursor) ← versionPart cursor.next
    if endsWord cursor.peek then .ok (.version major, cursor) else .error .invalid

def tagDirective (cursor : Cursor) : Scan (Token × Cursor) := do
  let (handle, cursor) ← tagHandle cursor.skipSpaces
  if cursor.peek != some ' ' then .error .invalid
  else
    let (mapped, cursor) ← uri cursor.skipSpaces
    if endsWord cursor.peek then .ok (.tagHandle handle mapped, cursor) else .error .invalid

def directiveToken (cursor : Cursor) : Scan (Token × Cursor) := do
  let (name, cursor) := cursor.next.span isNameChar
  if name.isEmpty || !endsWord cursor.peek then .error .invalid
  else
    let (token, cursor) ←
      if name == "YAML".toList then versionDirective cursor
      else if name == "TAG".toList then tagDirective cursor
      else .ok (.otherDirective, cursor.skipLine)
    .ok (token, ← restOfLine cursor)

/-! ## One token -/

def directive (s : Scanner) : Scan Scanner := do
  let s ← (s.unwind (-1)).dropKey
  let (token, cursor) ← directiveToken s.cursor
  .ok ({ s with keyAllowed := false, cursor }.emit token)

def documentMark (s : Scanner) (token : Token) : Scan Scanner := do
  let s ← (s.unwind (-1)).dropKey
  .ok (({ s with keyAllowed := false }.move 3).emit token)

def flowStart (s : Scanner) (token : Token) : Scan Scanner := do
  let s ← s.noteKey
  .ok (({ s with flow := s.flow + 1, keyAllowed := true }.move 1).emit token)

def flowEnd (s : Scanner) (token : Token) : Scan Scanner := do
  if s.flow == 0 then .error .invalid
  else
    let s ← s.dropKey
    .ok (({ s with flow := s.flow - 1, keyAllowed := false }.move 1).emit token)

def flowEntry (s : Scanner) : Scan Scanner := do
  let s ← { s with keyAllowed := true }.dropKey
  .ok ((s.move 1).emit .flowEntry)

/-- An entry of a block sequence, or an explicit key, starts its collection if
it is indented deeper. -/
def blockItem (s : Scanner) (start : Token) : Scan Scanner :=
  if s.inFlow then .ok s
  else if !s.keyAllowed then .error .invalid
  else .ok (s.indentAt s.cursor.column s.tokens.length start)

def blockEntry (s : Scanner) : Scan Scanner := do
  let s ← s.blockItem .blockSequenceStart
  let s ← { s with keyAllowed := true }.dropKey
  .ok ((s.move 1).emit .blockEntry)

def explicitKey (s : Scanner) : Scan Scanner := do
  let s ← s.blockItem .blockMappingStart
  let s ← { s with keyAllowed := !s.inFlow }.dropKey
  .ok ((s.move 1).emit .key)

def mappingValue (s : Scanner) : Scan Scanner := do
  match s.possibleKeys.lookup s.flow with
  | some key =>
    let s := { s with
      possibleKeys := s.possibleKeys.filter (·.1 != s.flow)
      tokens := s.tokens.take key.tokenNumber ++ Token.key :: s.tokens.drop key.tokenNumber
      keyAllowed := false }
    let s := if s.inFlow then s else s.indentAt key.column key.tokenNumber .blockMappingStart
    .ok ((s.move 1).emit .value)
  | none =>
    let s ← s.blockItem .blockMappingStart
    let s ← { s with keyAllowed := !s.inFlow }.dropKey
    .ok ((s.move 1).emit .value)

def aliasOrAnchor (s : Scanner) (token : Chars → Token) : Scan Scanner := do
  let s ← s.noteKey
  let (name, cursor) ← anchorName s.cursor.next
  .ok ({ s with keyAllowed := false, cursor }.emit (token name))

def tag (s : Scanner) : Scan Scanner := do
  let s ← s.noteKey
  let (token, cursor) ← tagToken s.cursor
  .ok ({ s with keyAllowed := false, cursor }.emit token)

def block (s : Scanner) (folded : Bool) : Scan Scanner := do
  let s ← { s with keyAllowed := true }.dropKey
  let (text, cursor) ← blockScalar folded s.indent s.cursor
  .ok ({ s with cursor }.emit (.scalar (.ofChars text) false))

def quoted (s : Scanner) (quote : Char) : Scan Scanner := do
  let s ← s.noteKey
  let (text, cursor) ← quotedScalar quote s.cursor
  .ok ({ s with keyAllowed := false, cursor }.emit (.scalar text false))

def plain (s : Scanner) : Scan Scanner := do
  let s ← s.noteKey
  let (text, fresh, cursor) :=
    plainWords s.inFlow (s.indent + 1) (s.cursor.rest.length + 1) [] false s.cursor
  .ok ({ s with keyAllowed := fresh, cursor }.emit (.scalar (.ofChars text) true))

def startsPlain (s : Scanner) (c : Char) : Bool :=
  !(endsItem (some c) || "-?:,[]\x7b\x7d#&*!|>\x27\x22%@\x60".toList.contains c)
    || (!endsItem (s.cursor.peekAt 1) && (c == '-' || (!s.inFlow && (c == '?' || c == ':'))))

def token (s : Scanner) (c : Char) : Scan Scanner :=
  let atLineStart := s.cursor.column == 0
  let separate := s.inFlow || endsItem (s.cursor.peekAt 1)
  if c == '%' && atLineStart then s.directive
  else if c == '-' && atLineStart && s.cursor.atMark '-' then s.documentMark .documentStart
  else if c == '.' && atLineStart && s.cursor.atMark '.' then s.documentMark .documentEnd
  else if c == '[' then s.flowStart .flowSequenceStart
  else if c == '\x7b' then s.flowStart .flowMappingStart
  else if c == ']' then s.flowEnd .flowSequenceEnd
  else if c == '\x7d' then s.flowEnd .flowMappingEnd
  else if c == ',' then s.flowEntry
  else if c == '-' && endsItem (s.cursor.peekAt 1) then s.blockEntry
  else if c == '?' && separate then s.explicitKey
  else if c == ':' && separate then s.mappingValue
  else if c == '*' then s.aliasOrAnchor .aliasOf
  else if c == '&' then s.aliasOrAnchor .anchor
  else if c == '!' then s.tag
  else if c == '|' && !s.inFlow then s.block false
  else if c == '>' && !s.inFlow then s.block true
  else if c == '\x27' || c == '\x22' then s.quoted c
  else if s.startsPlain c then s.plain
  else .error .invalid

/-- The tokens that no key can be put before any more. -/
def settled (s : Scanner) : List Token :=
  match (s.possibleKeys.map (·.2.tokenNumber)).min? with
  | none => s.tokens
  | some number => s.tokens.take number

/-- Passes to the next token and scans it. Also tells whether the text has ended. -/
def advance (s : Scanner) : Scan (Bool × Scanner) := do
  let s ← (s.toNextToken (s.cursor.rest.length + 1)).dropStaleKeys
  let s := s.unwind s.cursor.column
  match s.cursor.peek with
  | none => .ok (true, ← (s.unwind (-1)).dropKey)
  | some c => .ok (false, ← s.token c)

def run : Nat → Scanner → List Token
  | 0, s => s.settled ++ [.broken .invalid]
  | fuel + 1, s =>
    match s.dropStaleKeys with
    | .error error => s.settled ++ [.broken error]
    | .ok s =>
      match s.advance with
      | .error error => s.settled ++ [.broken error]
      | .ok (true, s) => s.tokens
      | .ok (false, s) => run fuel s

end Scanner

def isAllowed (c : Char) : Bool :=
  let n := c.toNat
  n == 0x09 || n == 0x0a || n == 0x0d || (0x20 ≤ n && n ≤ 0x7e) || n == 0x85
    || (0xa0 ≤ n && n ≤ 0xfffd) || 0x10000 ≤ n

def Token.scan (text : Chars) : List Token :=
  if text.all isAllowed then
    let body := if text.head? == some '\ufeff' then text.tail else text
    Scanner.run (body.length + 2) { cursor := { rest := body } }
  else [.broken .invalid]

end TemplateTree.Yaml
