import TemplateTree.Config.Data

/-!
# Listing sets

A set keeps its elements in a table of places and lists them from the first place to
the last. The code of an element is the place that it tries first; where others are
already, it tries further places in a fixed order. Only numbers have known codes.
-/

namespace TemplateTree.Data

/-- Codes of numbers are remainders by this prime, two to the power 61 less one. -/
def codePrime : Nat := 0x1fffffffffffffff

/-- Codes of infinities, but for the sign. -/
def infinityCode : Nat := 314159

/-- The code of a number `m · 2 ^ q` by its remainder. Two to the power 61 has the
remainder one. -/
def remainderCode (m : Nat) (q : Int) : Nat :=
  (m * Nat.pow 2 (q.emod 61).toNat) % codePrime

/-- A code with its sign as a word of 64 bits. The code minus one is not in use. -/
def signedCode (negative : Bool) (code : Nat) : UInt64 :=
  if !negative then UInt64.ofNat code
  else if code == 1 then 0 - 2
  else 0 - UInt64.ofNat code

def code? : Data → Option UInt64
  | float x =>
    if x.isNaN then none
    else if x.isInfinite then some (signedCode x.negative infinityCode)
    else some (signedCode x.negative (remainderCode x.significand x.exponent))
  | value => value.number?.map fun (m, q) => signedCode (m < 0) (remainderCode m.natAbs q)

def tableSize (count : Nat) : Nat := if count < 5 then 8 else Nat.pow 2 ((2 * count).log2 + 1)

/-- How many places behind a place are tried with it, unless the table ends before. -/
def neighbours : Nat := 9

def triedPlaces (size : Nat) : Nat → Nat → Nat → List Nat
  | 0, _, _ => []
  | rounds + 1, place, code =>
    let near := if place + neighbours < size then neighbours + 1 else 1
    let code := code / 32
    (List.range near).map (place + ·)
      ++ triedPlaces size rounds ((5 * place + 1 + code) % size) code

def putElement (size : Nat) (table : List (Nat × Data)) (item : UInt64 × Data) :
    List (Nat × Data) :=
  let code := item.1.toNat
  let isFree (place : Nat) : Bool := (table.lookup place).isNone
  match (triedPlaces size (size + 13) (code % size) code).find? isFree with
  | some place => (place, item.2) :: table
  | none => table

/-- A set as it lists its elements, which were added in the order given. Elements
without known codes stay in that order. -/
def ofElements (items : List Data) : Data :=
  match items.mapM fun item => item.code?.map (·, item) with
  | none => set items
  | some coded =>
    let size := tableSize items.length
    let table := coded.foldl (putElement size) []
    set ((List.range size).filterMap fun place => table.lookup place)

end TemplateTree.Data
