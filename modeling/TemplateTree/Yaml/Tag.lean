import TemplateTree.Text.Search
import TemplateTree.Yaml.Scalar

/-!
# Tags

What a scalar stands for when nothing else is said follows from its text: truth
values, numbers, dates, null, and text for all the rest.
-/

namespace TemplateTree.Yaml

open Text (Chars Codes)

inductive Tag where
  | null
  | bool
  | int
  | float
  | timestamp
  | merge
  | value
  | str
  | seq
  | map
  | binary
  | set
  | omap
  | pairs
  | unknown (name : Chars)
  deriving DecidableEq, Repr

def standardPart : String := "tag:yaml.org,2002:"

def Tag.ofName (name : Chars) : Tag :=
  let known : List (String × Tag) :=
    [ ("null", .null), ("bool", .bool), ("int", .int), ("float", .float)
    , ("timestamp", .timestamp), ("merge", .merge), ("value", .value), ("str", .str)
    , ("seq", .seq), ("map", .map), ("binary", .binary), ("set", .set), ("omap", .omap)
    , ("pairs", .pairs) ]
  let standard := standardPart.toList
  if standard.isPrefixOf name then
    (known.lookup (String.ofList (name.drop standard.length))).getD (.unknown name)
  else .unknown name

def truthWords : List (String × Bool) :=
  [ ("yes", true), ("no", false), ("true", true), ("false", false), ("on", true), ("off", false) ]

def asciiLower (text : Chars) : Chars := text.map Char.toLower

/-- Spellings of a word in one case, or with a capital first letter. -/
def spellings (word : String) : List Chars :=
  let small := word.toList
  [small, word.capitalize.toList, small.map Char.toUpper]

def isTruth (text : Chars) : Bool := truthWords.any fun (word, _) => (spellings word).contains text

def isNull (text : Chars) : Bool :=
  text.isEmpty || text == ['~'] || (spellings "null").contains text

def dropSign : Chars → Chars
  | '-' :: rest => rest
  | '+' :: rest => rest
  | text => text

def isDigitOr_ (c : Char) : Bool := c.isDigit || c == '_'

def allOf (p : Char → Bool) (text : Chars) : Bool := !text.isEmpty && text.all p

def isSixty : Chars → Bool
  | [c] => c.isDigit
  | [c, d] => '0' ≤ c && c ≤ '5' && d.isDigit
  | _ => false

/-- Groups of digits to the base sixty, two at least, the first one as given. -/
def isSexagesimal (first : Chars → Bool) (text : Chars) : Bool :=
  match Text.splitAt ':' text with
  | head :: more => first head && !more.isEmpty && more.all isSixty
  | [] => false

def isInteger (text : Chars) : Bool :=
  let startsPositive (text : Chars) : Bool :=
    match text with
    | c :: rest => '1' ≤ c && c ≤ '9' && rest.all isDigitOr_
    | [] => false
  let body := dropSign text
  match body with
  | '0' :: 'b' :: rest => allOf (fun c => c == '0' || c == '1' || c == '_') rest
  | '0' :: 'x' :: rest => allOf (fun c => (Text.hexValue? c).isSome || c == '_') rest
  | ['0'] => true
  | '0' :: rest => allOf (fun c => ('0' ≤ c && c ≤ '7') || c == '_') rest
  | body => startsPositive body || isSexagesimal startsPositive body

/-- An exponent with its sign, or nothing. -/
def isExponent : Chars → Bool
  | [] => true
  | e :: sign :: digits =>
    (e == 'e' || e == 'E') && (sign == '-' || sign == '+') && allOf Char.isDigit digits
  | _ => false

def isFloat (text : Chars) : Bool :=
  let body := dropSign text
  let startsWithDigit (text : Chars) : Bool :=
    match text with
    | c :: rest => c.isDigit && rest.all isDigitOr_
    | [] => false
  let whole := body.takeWhile (· != '.')
  let behind := (body.dropWhile (· != '.')).drop 1
  let hasPoint := body.contains '.'
  let fractionEnds := isExponent (behind.dropWhile isDigitOr_)
  hasPoint &&
    ((startsWithDigit whole && fractionEnds)
    || (whole.isEmpty && body == text && behind.head?.any Char.isDigit && fractionEnds)
    || (isSexagesimal startsWithDigit whole && behind.all isDigitOr_)
    || (whole.isEmpty && (spellings "inf").contains behind)
    || (text == ".nan".toList || text == ".NaN".toList || text == ".NAN".toList))

structure DateText where
  year : Chars
  month : Chars
  day : Chars
  rest : Chars

def readDate? (text : Chars) : Option DateText :=
  match Text.splitAt '-' (text.take 8) with
  | year :: _ =>
    if year.length == 4 && year.all Char.isDigit && text[4]? == some '-' then
      let behind := text.drop 5
      let month := behind.takeWhile Char.isDigit
      let behind := behind.drop month.length
      if (month.length == 1 || month.length == 2) && behind.head? == some '-' then
        let behind := behind.drop 1
        let day := (behind.takeWhile Char.isDigit)
        if day.length == 1 || day.length == 2 then
          some ⟨year, month, day, behind.drop day.length⟩
        else none
      else none
    else none
  | [] => none

structure TimeText where
  hour : Chars
  minute : Chars
  second : Chars
  fraction : Chars
  zone : Option Chars

def isZone : Chars → Bool
  | ['Z'] => true
  | sign :: rest =>
    let hour := rest.takeWhile Char.isDigit
    (sign == '-' || sign == '+') && (hour.length == 1 || hour.length == 2) &&
      match rest.drop hour.length with
      | [] => true
      | [':', a, b] => a.isDigit && b.isDigit
      | _ => false
  | [] => false

def readTime? (text : Chars) : Option TimeText :=
  let isGap (c : Char) : Bool := c == ' ' || c == '\t'
  let body :=
    match text with
    | 'T' :: rest => some rest
    | 't' :: rest => some rest
    | c :: rest => if isGap c then some (rest.dropWhile isGap) else none
    | [] => none
  match body with
  | none => none
  | some body =>
    let hour := body.takeWhile Char.isDigit
    match body.drop hour.length with
    | ':' :: a :: b :: ':' :: c :: d :: rest =>
      if (hour.length == 1 || hour.length == 2) && [a, b, c, d].all Char.isDigit then
        let fraction :=
          match rest with
          | '.' :: more => more.takeWhile Char.isDigit
          | _ => []
        let behind :=
          match rest with
          | '.' :: more => more.dropWhile Char.isDigit
          | rest => rest
        let zone := behind.dropWhile isGap
        if behind.isEmpty then some ⟨hour, [a, b], [c, d], fraction, none⟩
        else if isZone zone then some ⟨hour, [a, b], [c, d], fraction, some zone⟩
        else none
      else none
    | _ => none

def isTimestamp (text : Chars) : Bool :=
  match readDate? text with
  | none => false
  | some date =>
    if date.rest.isEmpty then date.month.length == 2 && date.day.length == 2
    else (readTime? date.rest).isSome

/-- A text without the line feed at its end, unless that is all of it. -/
def dropLineFeed (text : Chars) : Chars :=
  if text.getLast? == some '\n' && text != ['\n'] then text.dropLast else text

/-- The tag of a plain scalar without one. A line feed at its end does not count. -/
def Tag.ofText (text : Chars) : Tag :=
  let text := dropLineFeed text
  if isTruth text then .bool
  else if isFloat text then .float
  else if isInteger text then .int
  else if text == ['<', '<'] then .merge
  else if isNull text then .null
  else if isTimestamp text then .timestamp
  else if text == ['='] then .value
  else if text == ['!'] || text == ['&'] || text == ['*'] then .unknown text
  else .str

def Tag.ofCodes (codes : Codes) : Tag :=
  match codes.chars? with
  | some text => .ofText text
  | none => .str

end TemplateTree.Yaml
