import TemplateTree.Number.Reading
import TemplateTree.Text.Quoted

/-!
# Configuration data

The values that a configuration can be written with, and how they are shown in
messages.
-/

namespace TemplateTree

open Text (Codes)

/-- `halves` is a text that holds halves of characters, by its codes. `other` is a
value known only by how it is shown: inside other values, and on its own. `moment` is
a time of a known zone, shown likewise; its instant is counted in millionths of a
second. -/
inductive Data where
  | null
  | bool (value : Bool)
  | int (value : Int)
  | float (value : Binary64)
  | str (value : String)
  | halves (codes : Codes)
  | bytes (value : List UInt8)
  | list (items : List Data)
  | tuple (items : List Data)
  | set (items : List Data)
  | dict (entries : List (Data × Data))
  | moment (instant : Int) (inside alone : String)
  | other (inside alone : String)
  deriving Repr

namespace Data

mutual

/-- How a value is shown inside other values and in messages. -/
def display : Data → String
  | null => "None"
  | bool true => "True"
  | bool false => "False"
  | int i => toString i
  | float x => x.text
  | str s => String.ofList (Text.quoted s.toList)
  | halves codes => String.ofList (Text.quotedCodes codes)
  | bytes b => String.ofList (Text.quotedBytes b)
  | list items => "[" ++ ", ".intercalate (displayList items) ++ "]"
  | tuple [item] => "(" ++ item.display ++ ",)"
  | tuple items => "(" ++ ", ".intercalate (displayList items) ++ ")"
  | set [] => "set()"
  | set items => "\x7b" ++ ", ".intercalate (displayList items) ++ "\x7d"
  | dict entries => "\x7b" ++ ", ".intercalate (displayEntries entries) ++ "\x7d"
  | moment _ inside _ | other inside _ => inside

def displayList : List Data → List String
  | [] => []
  | item :: rest => item.display :: displayList rest

def displayEntry : Data × Data → String
  | (key, value) => key.display ++ ": " ++ value.display

def displayEntries : List (Data × Data) → List String
  | [] => []
  | entry :: rest => displayEntry entry :: displayEntries rest

end

def codes? : Data → Option Codes
  | str s => some (.ofString s)
  | halves codes => some codes
  | _ => none

/-- How a value is shown on its own: a text without quotes. -/
def text : Data → Codes
  | str s => .ofString s
  | halves codes => codes
  | moment _ _ alone | other _ alone => .ofString alone
  | value => .ofString value.display

mutual

/-- Whether a value can be shown: its integers may not be too long. -/
def isShowable : Data → Bool
  | int i => i.natAbs < Nat.pow 10 maxDigits
  | list items | tuple items | set items => allShowable items
  | dict entries => entriesShowable entries
  | _ => true

def allShowable : List Data → Bool
  | [] => true
  | item :: rest => item.isShowable && allShowable rest

def entryShowable : Data × Data → Bool
  | (key, value) => key.isShowable && value.isShowable

def entriesShowable : List (Data × Data) → Bool
  | [] => true
  | entry :: rest => entryShowable entry && entriesShowable rest

end

/-- Null, false, zero and everything empty count as absent. -/
def isAbsent : Data → Bool
  | null => true
  | bool b => !b
  | int i => i == 0
  | float x => x.isZero
  | str s => s.isEmpty
  | halves codes => codes.isEmpty
  | bytes b => b.isEmpty
  | list items | tuple items | set items => items.isEmpty
  | dict entries => entries.isEmpty
  | moment .. | other .. => false

def isNull : Data → Bool
  | null => true
  | _ => false

/-- A number as `m · 2 ^ q`; truth values are the numbers one and zero. -/
def number? : Data → Option (Int × Int)
  | bool b => some (if b then 1 else 0, 0)
  | int i => some (i, 0)
  | float x =>
    if x.isNaN || x.isInfinite then none
    else some ((if x.negative then -1 else 1) * (x.significand : Int), x.exponent)
  | _ => none

def sameNumber (a b : Int × Int) : Bool :=
  let low := min a.2 b.2
  a.1 * Nat.pow 2 (a.2 - low).toNat == b.1 * Nat.pow 2 (b.2 - low).toNat

/-- The one undefined number that is the same as itself: the one with a name. -/
def namedNaN : Binary64 := ⟨0xfff8000000000000⟩

/-- Whether two keys are the same key: equal numbers are, and times of one instant. -/
def sameKey (a b : Data) : Bool :=
  match a.number?, b.number? with
  | some x, some y => sameNumber x y
  | some _, none => false
  | none, some _ => false
  | none, none =>
    match a, b with
    | str s, str t => s == t
    | float x, float y => x == y && (!x.isNaN || x == namedNaN)
    | moment i _ _, moment j _ _ => i == j
    | _, _ => a.display == b.display

def insertEntry {α : Type} (entries : List (Data × α)) (key : Data) (value : α) :
    List (Data × α) :=
  match entries with
  | [] => [(key, value)]
  | (k, v) :: rest =>
    if k.sameKey key then (k, value) :: rest else (k, v) :: insertEntry rest key value

end Data

end TemplateTree
