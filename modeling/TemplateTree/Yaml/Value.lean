import TemplateTree.Yaml.Time

/-!
# Values of scalars

What the text of a scalar stands for under its tag.
-/

namespace TemplateTree.Yaml

open Text (Chars Codes)

/-! ## Numbers -/

def readSixty? (text : Chars) : Option Int :=
  (Text.splitAt ':' text).foldl (fun sum group => do
    let sum ← sum
    let digit ← readInteger? 10 group
    some (sum * 60 + digit)) (some 0)

/-- An integer to the base two, eight, ten, sixteen or sixty. -/
def integerOf (text : Chars) : Scan Data :=
  let (negative, body) := takeSign (text.filter (· != '_'))
  let value :=
    match body with
    | ['0'] => some 0
    | '0' :: 'b' :: digits => readInteger? 2 digits
    | '0' :: 'x' :: digits => readInteger? 16 digits
    | '0' :: _ => readInteger? 8 body
    | _ => if body.contains ':' then readSixty? body else readInteger? 10 body
  match value with
  | some n => .ok (.int (if negative then -n else n))
  | none => .error (if body.isEmpty then .noNumber else .badNumber)

/-- Adds up groups to the base sixty, the last one first. -/
def sumSixty (sum : Binary64) (base : Nat) : List Binary64 → Scan Binary64
  | [] => .ok sum
  | digit :: rest =>
    let weight := Binary64.ofRatio false base 1
    if weight.isInfinite then .error .tooLarge
    else sumSixty (sum.add (digit.mul weight)) (base * 60) rest

def sizeOf (text : Chars) : Scan Binary64 :=
  if text == ".inf".toList then .ok (.infinity false)
  else if text.contains ':' then
    match (Text.splitAt ':' text).mapM Binary64.read? with
    | some digits => sumSixty (.ofRatio false 0 1) 1 digits.reverse
    | none => .error .badNumber
  else
    match Binary64.read? text with
    | some x => .ok x
    | none => .error .badNumber

def floatOf (text : Chars) : Scan Data := do
  let clean := asciiLower (text.filter (· != '_'))
  let (negative, body) := takeSign clean
  if clean.isEmpty then .error .noNumber
  else if body == ".nan".toList then .ok (.float Data.namedNaN)
  else
    let size ← sizeOf body
    .ok (.float (if negative then size.negate else size))

def truthOf (text : Chars) : Scan Data :=
  match truthWords.lookup (String.ofList (asciiLower text)) with
  | some b => .ok (.bool b)
  | none => .error .badTruth

/-! ## Bytes -/

def base64Value? (c : Char) : Option Nat :=
  if c.isUpper then some (c.toNat - 65)
  else if c.isLower then some (c.toNat - 71)
  else if c.isDigit then some (c.toNat + 4)
  else if c == '+' then some 62
  else if c == '/' then some 63
  else none

/-- The bytes of digits to the base 64. `position` digits of a group of four have been
read and `left` holds the bits of the last one that no byte has; `pads` counts the
equals signs behind it. Two or three digits may end the text if equals signs fill up
their group; other characters do not count. -/
def base64Bytes (position left pads : Nat) : Chars → Option (List UInt8)
  | [] => if position == 0 then some [] else none
  | c :: rest =>
    if c == '=' then
      if position < 2 then base64Bytes position left pads rest
      else if position + pads < 3 then base64Bytes position left (pads + 1) rest
      else some []
    else
      match base64Value? c with
      | none => base64Bytes position left pads rest
      | some digit =>
        match position with
        | 0 => base64Bytes 1 digit 0 rest
        | 1 => (base64Bytes 2 (digit % 16) 0 rest).map (UInt8.ofNat (left * 4 + digit / 16) :: ·)
        | 2 => (base64Bytes 3 (digit % 4) 0 rest).map (UInt8.ofNat (left * 16 + digit / 4) :: ·)
        | _ => (base64Bytes 0 0 0 rest).map (UInt8.ofNat (left * 64 + digit) :: ·)

def bytesOf (text : Chars) : Scan Data :=
  match base64Bytes 0 0 0 text with
  | some bytes => if text.all (·.toNat < 128) then .ok (.bytes bytes) else .error .invalid
  | none => .error .invalid

/-! ## All scalars -/

def textOf (codes : Codes) : Data :=
  match codes.chars? with
  | some text => .str (String.ofList text)
  | none => .halves codes

/-- The value of a scalar under its tag. Halves of characters stand in texts only. -/
def scalarOf (tag : Tag) (codes : Codes) : Scan Data :=
  match tag, codes.chars? with
  | .null, _ => .ok .null
  | .str, _ => .ok (textOf codes)
  | .bool, some text => truthOf text
  | .bool, none => .error .badTruth
  | .int, some text => integerOf text
  | .int, none => .error .badNumber
  | .float, some text => floatOf text
  | .float, none => .error .badNumber
  | .timestamp, some text => timestampOf (dropLineFeed text)
  | .timestamp, none => .error .badTime
  | .binary, some text => bytesOf text
  | _, _ => .error .invalid

end TemplateTree.Yaml
