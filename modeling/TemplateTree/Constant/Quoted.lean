import TemplateTree.Constant.Number
import TemplateTree.Text.Name
import TemplateTree.Text.Search

/-!
# Quoted strings

A string stands between quotes, or between quotes written three times, and then it
may go over several lines. Letters before it say that it holds bytes or that its
backslashes are no escapes.
-/

namespace TemplateTree.Constant

open Text (Chars)

structure Quoting where
  bytes : Bool
  raw : Bool
  deriving DecidableEq, Repr

def Quoting.ofLetters? (letters : Chars) : Option Quoting :=
  match letters.map Char.toLower with
  | [] => some ⟨false, false⟩
  | ['u'] => some ⟨false, false⟩
  | ['r'] => some ⟨false, true⟩
  | ['b'] => some ⟨true, false⟩
  | ['b', 'r'] => some ⟨true, true⟩
  | ['r', 'b'] => some ⟨true, true⟩
  | _ => none

def isQuote (c : Char) : Bool := c == '\x27' || c == '\x22'

/-- The inside of a string and what follows it. A quote behind a backslash does not
end it. -/
def takeInside? (quote : Char) (long : Bool) : Chars → Option (Chars × Chars)
  | [] => none
  | '\\' :: c :: rest =>
    (takeInside? quote long rest).map fun (inside, after) => ('\\' :: c :: inside, after)
  | c :: rest =>
    if c == quote && !long then some ([], rest)
    else if c == quote && rest.take 2 == [quote, quote] then some ([], rest.drop 2)
    else if c == '\n' && !long then none
    else (takeInside? quote long rest).map fun (inside, after) => (c :: inside, after)

def takeQuoted? (quote : Char) (text : Chars) : Option (Chars × Chars) :=
  if text.take 2 == [quote, quote] then takeInside? quote true (text.drop 2)
  else takeInside? quote false text

def hexAhead? (count : Nat) (text : Chars) : Option Nat :=
  let digits := text.take count
  if digits.length == count then Text.readHex? 0 digits else none

def startsName : Chars → Bool
  | '\x7b' :: rest =>
    match Text.cutAt? ['\x7d'] rest with
    | some (name, _) => Text.isCharName name
    | none => false
  | _ => false

/-- Whether the escapes of a string can be read. An escape with a fixed number of
digits must have them all and stand for a character, and a name must be known; a
backslash before any other character is no mistake. -/
def readableEscapes (bytes : Bool) : Chars → Bool
  | '\\' :: c :: rest =>
    (match c with
    | 'x' => (hexAhead? 2 rest).isSome
    | 'u' => bytes || (hexAhead? 4 rest).isSome
    | 'U' => bytes || (hexAhead? 8 rest).any (· ≤ 0x10ffff)
    | 'N' => bytes || startsName rest
    | _ => true) && readableEscapes bytes rest
  | _ :: rest => readableEscapes bytes rest
  | [] => true

def Quoting.isReadable (quoting : Quoting) (inside : Chars) : Bool :=
  (!quoting.bytes || inside.all fun c => c.toNat < 128)
    && (quoting.raw || readableEscapes quoting.bytes inside)

end TemplateTree.Constant
