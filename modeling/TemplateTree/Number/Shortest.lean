import TemplateTree.Number.Binary64

/-!
# Shortest decimal text

The text of a double has the fewest digits that read back as the same double,
and of those the digits nearest to its value. Numbers from `10 ^ -4` up to
`10 ^ 16` are written positionally, all others with an exponent.
-/

namespace TemplateTree

/-- Digits `d₁d₂…` and the power of ten of the first one. -/
structure Decimal where
  digits : Nat
  exponent : Int
  deriving DecidableEq, Repr

namespace Binary64

structure Ratio where
  num : Nat
  den : Nat

def Ratio.le (a b : Ratio) : Bool := a.num * b.den ≤ b.num * a.den

def Ratio.lt (a b : Ratio) : Bool := a.num * b.den < b.num * a.den

def Ratio.scaled (n base : Nat) (exponent : Int) : Ratio :=
  if 0 ≤ exponent then ⟨n * base.pow exponent.toNat, 1⟩ else ⟨n, base.pow (-exponent).toNat⟩

def value (x : Binary64) : Ratio := .scaled x.significand 2 x.exponent

/-- Least number that rounds to `x`; half as far when the lower neighbour is nearer. -/
def lowEnd (x : Binary64) : Ratio :=
  if x.magnitude % fractions == 0 && 2 * fractions ≤ x.magnitude then
    .scaled (4 * x.significand - 1) 2 (x.exponent - 2)
  else .scaled (2 * x.significand - 1) 2 (x.exponent - 1)

def highEnd (x : Binary64) : Ratio := .scaled (2 * x.significand + 1) 2 (x.exponent - 1)

/-- Whether a number rounds to `x`; the ends do so if the significand is even. -/
def covers (x : Binary64) (r : Ratio) : Bool :=
  if x.significand % 2 == 0 then x.lowEnd.le r && r.le x.highEnd
  else x.lowEnd.lt r && r.lt x.highEnd

def raiseExponent (r : Ratio) : Nat → Int → Int
  | 0, e => e
  | steps + 1, e => if (Ratio.scaled 1 10 (e + 1)).le r then raiseExponent r steps (e + 1) else e

def leadingExponent (r : Ratio) : Int :=
  let estimate := (((r.num.log2 : Int) - r.den.log2) * 30103).fdiv 100000 - 1
  raiseExponent r 4 estimate

/-- The digits of `x` on the grid of multiples of `10 ^ place`, if one of its two
neighbours there reads back. -/
def onGrid? (x : Binary64) (place : Int) : Option Nat :=
  let v := x.value
  let unit := Ratio.scaled 1 10 place
  let below := v.num * unit.den / (v.den * unit.num)
  let lower := Ratio.scaled below 10 place
  let upper := Ratio.scaled (below + 1) 10 place
  match x.covers lower && below != 0, x.covers upper with
  | true, true =>
    let middle := Ratio.scaled (10 * below + 5) 10 (place - 1)
    if v.lt middle then some below
    else if middle.lt v then some (below + 1)
    else some (if below % 2 == 0 then below else below + 1)
  | true, false => some below
  | false, true => some (below + 1)
  | false, false => none

/-- The first grid that has a hit, from coarse to fine. -/
def firstGrid (x : Binary64) (lead : Int) : List Nat → Decimal
  | [] => ⟨0, 0⟩
  | count :: more =>
    match x.onGrid? (lead - count) with
    | some digits => ⟨digits, lead - count⟩
    | none => firstGrid x lead more

def shortest (x : Binary64) : Decimal :=
  x.firstGrid (leadingExponent x.value) (List.range 18)

def dropZeros (digits : List Char) : List Char :=
  (digits.reverse.dropWhile (· == '0')).reverse

def exponentText (e : Int) : String :=
  let digits := toString e.natAbs
  "e" ++ (if e < 0 then "-" else "+") ++ (if digits.length < 2 then "0" ++ digits else digits)

def positiveText (x : Binary64) : String :=
  let d := x.shortest
  let all := (toString d.digits).toList
  let lead : Int := d.exponent + all.length - 1
  let digits := dropZeros all
  if -4 ≤ lead && lead < 16 then
    if lead < 0 then
      "0." ++ String.ofList (List.replicate (-lead - 1).toNat '0' ++ digits)
    else
      let whole := lead.toNat + 1
      let padded := digits ++ List.replicate (whole - digits.length) '0'
      let fraction := padded.drop whole
      String.ofList (padded.take whole) ++ "."
        ++ (if fraction.isEmpty then "0" else String.ofList fraction)
  else
    let mantissa :=
      match digits with
      | [] => ""
      | [d] => String.ofList [d]
      | d :: rest => String.ofList (d :: '.' :: rest)
    mantissa ++ exponentText lead

def text (x : Binary64) : String :=
  if x.isNaN then "nan"
  else
    let size :=
      if x.isInfinite then "inf" else if x.isZero then "0.0" else x.positiveText
    if x.negative then "-" ++ size else size

end Binary64

end TemplateTree
