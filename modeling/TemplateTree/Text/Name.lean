import TemplateTree.Text.Blank
import TemplateTree.Text.Digit
import TemplateTree.Text.NameTable
import TemplateTree.Text.Search

/-!
# Character names

Ideographs are named by their code points and the syllables of Hangul by their
sounds. All other names are in a table, and there capital and small letters do not
differ.
-/

namespace TemplateTree.Text

/-- Reads one word of the table of names. `state` holds the names before the last
one, and the words of the last one so far. -/
def readName (state : List (List Chars) × List Chars) (word : Chars) :
    List (List Chars) × List Chars :=
  let (names, last) := state
  match word with
  | [] => state
  | c :: letters =>
    if c.isLower then (last :: names, last.take (c.toNat - 'a'.toNat) ++ [letters])
    else (names, last ++ [word])

def namesOf (table : String) : List (List Chars) :=
  let (names, last) := (words table.toList).foldl readName ([], [])
  last :: names

def isTableName (name : Chars) : Bool :=
  !name.isEmpty && (namesOf nameTable).contains (splitAt ' ' (name.map Char.toUpper))

def ideographBorders : List Nat := [
  0x3400, 0x4dc0, 0x4e00, 0xa000, 0x20000, 0x2a6e0, 0x2a700, 0x2b739, 0x2b740, 0x2b81e, 0x2b820,
  0x2cea2, 0x2ceb0, 0x2ebe1, 0x30000, 0x3134b]

/-- Whether four or five digits are the code point of an ideograph. -/
def isIdeographCode (digits : Chars) : Bool :=
  (digits.length == 4 || digits.length == 5) && digits.all (!Char.isLower ·)
    && (readHex? 0 digits).any (within ideographBorders)

def leadingSounds : List String :=
  [ "G", "GG", "N", "D", "DD", "R", "M", "B", "BB", "S", "SS", "", "J", "JJ", "C", "K", "T", "P"
  , "H" ]

def middleSounds : List String :=
  [ "A", "AE", "YA", "YAE", "EO", "E", "YEO", "YE", "O", "WA", "WAE", "OE", "YO", "U", "WEO", "WE"
  , "WI", "YU", "EU", "YI", "I" ]

def trailingSounds : List String :=
  [ "", "G", "GG", "GS", "N", "NJ", "NH", "D", "L", "LG", "LM", "LB", "LS", "LT", "LP", "LH", "M"
  , "B", "BS", "S", "SS", "NG", "J", "C", "K", "T", "P", "H" ]

def skipSound? (sounds : List String) (text : Chars) : Option Chars :=
  let lengths := (sounds.filter (·.toList.isPrefixOf text)).map (·.toList.length)
  if lengths.isEmpty then none else some (text.drop (lengths.foldl max 0))

def isSyllable (sounds : Chars) : Bool :=
  (do
    let rest ← skipSound? leadingSounds sounds
    let rest ← skipSound? middleSounds rest
    skipSound? trailingSounds rest) == some []

def isCharName (name : Chars) : Bool :=
  let ideograph := "CJK UNIFIED IDEOGRAPH-".toList
  let syllable := "HANGUL SYLLABLE ".toList
  if ideograph.isPrefixOf name then isIdeographCode (name.drop ideograph.length)
  else if syllable.isPrefixOf name then isSyllable (name.drop syllable.length)
  else isTableName name

end TemplateTree.Text
