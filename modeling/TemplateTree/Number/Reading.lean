import TemplateTree.Number.Shortest
import TemplateTree.Text.Blank
import TemplateTree.Text.Digit

/-!
# Reading numbers

Integers and doubles from their texts. Spaces may stand around a number, it may have
a sign, and its digits may be those of any script.
-/

namespace TemplateTree

open Text (Chars)

/-- The spaces that may stand around a number: those of ASCII that move the place of
writing, and all blanks beyond ASCII. -/
def isNumberSpace (c : Char) : Bool :=
  if c.toNat < 128 then c == ' ' || ('\t' ≤ c && c ≤ '\r') else Text.isBlank c

def plainNumber (text : Chars) : Chars :=
  let inside := ((text.dropWhile isNumberSpace).reverse.dropWhile isNumberSpace).reverse
  inside.map fun c => ((Text.digitValue? c).map fun d => Char.ofNat (48 + d)).getD c

def takeSign : Chars → Bool × Chars
  | '-' :: rest => (true, rest)
  | '+' :: rest => (false, rest)
  | text => (false, text)

def readBase? (base : Nat) (digits : Chars) : Option Nat :=
  if digits.isEmpty then none
  else
    digits.foldl (fun value c => do
      let value ← value
      let digit ← Text.hexValue? c
      if digit < base then some (value * base + digit) else none) (some 0)

/-- More decimal digits than this are refused. -/
def maxDigits : Nat := 4300

def dropBaseMark (base : Nat) : Chars → Chars
  | '0' :: c :: rest =>
    let mark := c.toLower
    if (base == 2 && mark == 'b') || (base == 8 && mark == 'o') || (base == 16 && mark == 'x')
    then rest
    else '0' :: c :: rest
  | text => text

def readInteger? (base : Nat) (text : Chars) : Option Int := do
  let (negative, body) := takeSign (plainNumber text)
  let digits := dropBaseMark base body
  if base == 10 && maxDigits < digits.length then none
  else
    let size ← readBase? base digits
    some (if negative then -(size : Int) else size)

namespace Binary64

def infinity (negative : Bool) : Binary64 :=
  ⟨UInt64.ofNat (infinityBits + if negative then signBit else 0)⟩

def notANumber : Binary64 := ⟨0x7ff8000000000000⟩

def negate (x : Binary64) : Binary64 := ⟨x.bits ^^^ UInt64.ofNat signBit⟩

/-- Bounds how far apart from one the powers of ten of doubles are. -/
def farExponent : Int := 400

/-- The number `digits · 10 ^ exponent`, where the power may be out of reach. -/
def ofDecimal (digits : Nat) (exponent : Int) : Binary64 :=
  if digits == 0 || exponent + digits.log2 + 1 < -farExponent then ofRatio false 0 1
  else if farExponent < exponent then infinity false
  else ofScaled false digits exponent

def readDecimal? (text : Chars) : Option Binary64 := do
  let isMark (c : Char) : Bool := c == 'e' || c == 'E'
  let mantissa := text.takeWhile (!isMark ·)
  let whole := mantissa.takeWhile (· != '.')
  let fraction := (mantissa.drop whole.length).drop 1
  let digits ← readBase? 10 (whole ++ fraction)
  let exponent ←
    match text.drop mantissa.length with
    | [] => some (0 : Int)
    | _ :: rest =>
      let (negative, body) := takeSign rest
      (readBase? 10 body).map fun size => if negative then -(size : Int) else size
  some (ofDecimal digits (exponent - fraction.length))

def read? (text : Chars) : Option Binary64 := do
  let (negative, body) := takeSign (plainNumber text)
  let word := String.ofList (body.map Char.toLower)
  let size ←
    if word == "inf" || word == "infinity" then some (infinity false)
    else if word == "nan" then some notANumber
    else readDecimal? body
  some (if negative then size.negate else size)

def numerator (x : Binary64) : Int :=
  if x.negative then -(x.value.num : Int) else x.value.num

def add (x y : Binary64) : Binary64 :=
  if x.isNaN || y.isNaN then notANumber
  else if x.isInfinite then
    if y.isInfinite && x.negative != y.negative then notANumber else x
  else if y.isInfinite then y
  else
    let sum := x.numerator * y.value.den + y.numerator * x.value.den
    let negative := if sum == 0 then x.negative && y.negative else sum < 0
    ofRatio negative sum.natAbs (x.value.den * y.value.den)

def mul (x y : Binary64) : Binary64 :=
  let negative := x.negative != y.negative
  if x.isNaN || y.isNaN then notANumber
  else if x.isInfinite || y.isInfinite then
    if x.isZero || y.isZero then notANumber else infinity negative
  else ofRatio negative (x.value.num * y.value.num) (x.value.den * y.value.den)

end Binary64

end TemplateTree
