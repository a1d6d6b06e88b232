import TemplateTree.Text.Digit

/-!
# Numbers

Decimal numbers with or without a fraction and an exponent, integers to the bases
two, eight and sixteen, and imaginary numbers, which end in `j`. A single underscore
may stand between two digits.
-/

namespace TemplateTree.Constant

open Text (Chars)

/-- The characters of names. Which of those beyond ASCII are letters does not
matter, since no name that has a meaning holds another one. -/
def isNameChar (c : Char) : Bool := c.isAlphanum || c == '_' || 128 ≤ c.toNat

def isHexDigit (c : Char) : Bool := (Text.hexValue? c).isSome

def isOctalDigit (c : Char) : Bool := '0' ≤ c && c ≤ '7'

def isBinaryDigit (c : Char) : Bool := c == '0' || c == '1'

/-- What follows a row of digits; `none` if there is no digit or no digit behind an
underscore. `behindDigit` tells whether the last character was one. -/
def skipDigits? (isDigit : Char → Bool) (behindDigit : Bool) : Chars → Option Chars
  | [] => if behindDigit then some [] else none
  | c :: rest =>
    if isDigit c then skipDigits? isDigit true rest
    else if !behindDigit then none
    else if c == '_' then skipDigits? isDigit false rest
    else some (c :: rest)

def skipBased? (isDigit : Char → Bool) : Chars → Option Chars
  | '_' :: rest => skipDigits? isDigit false rest
  | text => skipDigits? isDigit false text

/-- The digits to which base a text in front of them announces, and the text behind
the announcement. -/
def based? : Chars → Option ((Char → Bool) × Chars)
  | '0' :: c :: rest =>
    match c.toLower with
    | 'x' => some (isHexDigit, rest)
    | 'o' => some (isOctalDigit, rest)
    | 'b' => some (isBinaryDigit, rest)
    | _ => none
  | _ => none

/-- Whether a fraction comes first, and what follows it. No digit need stand behind
the point. -/
def skipFraction? : Chars → Option (Bool × Chars)
  | '.' :: rest =>
    if rest.head?.any Char.isDigit then (skipDigits? Char.isDigit false rest).map (true, ·)
    else some (true, rest)
  | text => some (false, text)

def skipExponent? : Chars → Option (Bool × Chars)
  | [] => some (false, [])
  | c :: rest =>
    if c.toLower == 'e' then
      let digits :=
        match rest with
        | '+' :: digits => digits
        | '-' :: digits => digits
        | digits => digits
      (skipDigits? Char.isDigit false digits).map (true, ·)
    else some (false, c :: rest)

inductive NumberKind where
  | real
  | imaginary
  deriving DecidableEq, Repr

def skipImaginaryMark : Chars → NumberKind × Chars
  | [] => (.real, [])
  | c :: rest => if c.toLower == 'j' then (.imaginary, rest) else (.real, c :: rest)

/-- Only a number with a fraction, an exponent or an imaginary mark may have zeros
before its other digits. -/
def hasIdleZeros (digits : Chars) : Bool :=
  digits.head? == some '0' && digits.any fun c => !(c == '0' || c == '_')

/-- A decimal number, and what follows it. -/
def takeDecimal? (text : Chars) : Option (NumberKind × Chars) := do
  let behind ← if text.head? == some '.' then some text else skipDigits? Char.isDigit false text
  let (fraction, rest) ← skipFraction? behind
  let (exponent, rest) ← skipExponent? rest
  let (kind, rest) := skipImaginaryMark rest
  let digits := text.take (text.length - behind.length)
  if hasIdleZeros digits && !fraction && !exponent && kind == .real then none
  else some (kind, rest)

/-- A number in front of a text that starts with a digit or with a point and a
digit. No name may follow directly. -/
def takeNumber? (text : Chars) : Option (NumberKind × Chars) := do
  let (kind, rest) ←
    match based? text with
    | some (isDigit, digits) => (skipBased? isDigit digits).map (NumberKind.real, ·)
    | none => takeDecimal? text
  if rest.head?.any isNameChar then none else some (kind, rest)

end TemplateTree.Constant
