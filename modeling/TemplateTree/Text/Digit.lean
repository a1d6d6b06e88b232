import TemplateTree.Text.Class

/-!
# Digits

Every script has its ten decimal digits in a row, so a digit is known by the
zero of its row and its distance from there. Hexadecimal digits are those of ASCII.
-/

namespace TemplateTree.Text

/-- The digits zero of all scripts. -/
def zeroDigits : List Nat := [
  48, 1632, 1776, 1984, 2406, 2534, 2662, 2790, 2918, 3046, 3174, 3302, 3430, 3558, 3664, 3792,
  3872, 4160, 4240, 6112, 6160, 6470, 6608, 6784, 6800, 6992, 7088, 7232, 7248, 42528, 43216,
  43264, 43472, 43504, 43600, 44016, 65296, 66720, 68912, 69734, 69872, 69942, 70096, 70384,
  70736, 70864, 71248, 71360, 71472, 71904, 72016, 72784, 73040, 73120, 92768, 92864, 93008,
  120782, 120792, 120802, 120812, 120822, 123200, 123632, 125264, 130032]

def digitValue? (c : Char) : Option Nat :=
  (zeroDigits.find? fun origin => origin ≤ c.toNat && c.toNat < origin + 10).map (c.toNat - ·)

def isDigit (c : Char) : Bool := (digitValue? c).isSome

/-- The number that a row of digits stands for, read on after `acc`. -/
def readDigits (acc : Nat) : Chars → Nat
  | [] => acc
  | c :: rest => readDigits (acc * 10 + (digitValue? c).getD 0) rest

def hexValue? (c : Char) : Option Nat :=
  if c.isDigit then some (c.toNat - 48)
  else if 'a' ≤ c && c ≤ 'f' then some (c.toNat - 87)
  else if 'A' ≤ c && c ≤ 'F' then some (c.toNat - 55)
  else none

def readHex? (acc : Nat) : Chars → Option Nat
  | [] => some acc
  | c :: rest => do readHex? (acc * 16 + (← hexValue? c)) rest

end TemplateTree.Text
