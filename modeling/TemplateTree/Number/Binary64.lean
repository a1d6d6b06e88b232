/-!
# Double precision numbers

A double is its 64 bits. Fractions are rounded to the nearest double, a tie
going to the even one, so that reading a decimal text is exact arithmetic
followed by one rounding.
-/

namespace TemplateTree

structure Binary64 where
  bits : UInt64
  deriving DecidableEq, Repr

namespace Binary64

def infinityBits : Nat := 0x7ff0000000000000

def signBit : Nat := 0x8000000000000000

/-- How many fractions there are with one exponent, two to the power 52. -/
def fractions : Nat := 0x10000000000000

/-- Quotient to the nearest integer, ties to even. -/
def roundDiv (num den : Nat) : Nat :=
  let quotient := num / den
  let twice := 2 * (num % den)
  if den < twice || (twice == den && quotient % 2 == 1) then quotient + 1 else quotient

/-- The ratio `num / den` in units of `2 ^ exponent`, rounded. -/
def roundScaled (num den : Nat) (exponent : Int) : Nat :=
  if 0 ≤ exponent then roundDiv num (den * Nat.pow 2 exponent.toNat)
  else roundDiv (num * Nat.pow 2 (-exponent).toNat) den

def ratioLtPow (num den : Nat) (exponent : Int) : Bool :=
  if 0 ≤ exponent then num < den * Nat.pow 2 exponent.toNat
  else num * Nat.pow 2 (-exponent).toNat < den

/-- Bits of the double nearest to `num / den`. -/
def magnitudeOfRatio (num den : Nat) : Nat :=
  if num == 0 then 0
  else
    let estimate : Int := (num.log2 : Int) - den.log2
    let exponent := if ratioLtPow num den estimate then estimate - 53 else estimate - 52
    let exponent := max exponent (-1074)
    min infinityBits ((exponent + 1074).toNat * fractions + roundScaled num den exponent)

def ofRatio (negative : Bool) (num den : Nat) : Binary64 :=
  ⟨UInt64.ofNat (magnitudeOfRatio num den + if negative then signBit else 0)⟩

def ofScaled (negative : Bool) (digits : Nat) (exponent : Int) : Binary64 :=
  if 0 ≤ exponent then ofRatio negative (digits * Nat.pow 10 exponent.toNat) 1
  else ofRatio negative digits (Nat.pow 10 (-exponent).toNat)

def negative (x : Binary64) : Bool := signBit ≤ x.bits.toNat

def magnitude (x : Binary64) : Nat := x.bits.toNat % signBit

def isNaN (x : Binary64) : Bool := infinityBits < x.magnitude

def isInfinite (x : Binary64) : Bool := x.magnitude == infinityBits

def isZero (x : Binary64) : Bool := x.magnitude == 0

/-- The significand `m` of a finite double `m · 2 ^ q`. -/
def significand (x : Binary64) : Nat :=
  let fraction := x.magnitude % fractions
  if x.magnitude < fractions then fraction else fraction + fractions

/-- The exponent `q` of a finite double `m · 2 ^ q`. -/
def exponent (x : Binary64) : Int :=
  if x.magnitude < fractions then -1074 else (x.magnitude / fractions : Nat) - 1075

end Binary64

end TemplateTree
