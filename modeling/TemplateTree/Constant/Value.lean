import TemplateTree.Constant.Token

/-!
# Constants

A constant is written out: a number, a string, a truth value, nothing, or a tuple,
a set or a dictionary of constants. It names nothing and computes nothing, save that
a number may have a sign and that a real and an imaginary number may be added to
give a complex one.
-/

namespace TemplateTree.Constant

open Text (Chars)

/-- What counts of a constant for what may be made of it. -/
inductive Shape where
  /-- A number without a sign. -/
  | number (kind : NumberKind)
  | signedReal
  /-- The name of the function that makes an empty set; no constant by itself. -/
  | setMaker
  /-- Everything else. What is `fixed` never changes, so that it may be an element
  of a set or a key of a dictionary. -/
  | other (fixed : Bool)
  deriving DecidableEq, Repr

def Shape.isReal : Shape → Bool
  | number .real => true
  | signedReal => true
  | _ => false

/-- Whether a constant is fixed; `none` if it is none. -/
def Shape.isFixed? : Shape → Option Bool
  | setMaker => none
  | other fixed => some fixed
  | _ => some true

/-- Letters that count as the same letter of a name, by code points. -/
def lettersLike : List (Char × List Nat) :=
  [ ('s', [0x73, 0x17f, 0x2e2, 0x209b, 0xff53, 0x1d42c, 0x1d460, 0x1d494, 0x1d4c8, 0x1d4fc
    , 0x1d530, 0x1d564, 0x1d598, 0x1d5cc, 0x1d600, 0x1d634, 0x1d668, 0x1d69c])
  , ('e', [0x65, 0x1d49, 0x2091, 0x212f, 0x2147, 0xff45, 0x1d41e, 0x1d452, 0x1d486, 0x1d4ee
    , 0x1d522, 0x1d556, 0x1d58a, 0x1d5be, 0x1d5f2, 0x1d626, 0x1d65a, 0x1d68e])
  , ('t', [0x74, 0x1d57, 0x209c, 0xff54, 0x1d42d, 0x1d461, 0x1d495, 0x1d4c9, 0x1d4fd, 0x1d531
    , 0x1d565, 0x1d599, 0x1d5cd, 0x1d601, 0x1d635, 0x1d669, 0x1d69d]) ]

def plainLetter (c : Char) : Char :=
  ((lettersLike.find? fun (_, like) => like.contains c.toNat).map (·.1)).getD c

def isSetMaker (word : Chars) : Bool := word.map plainLetter == "set".toList

def isNamedConstant (word : Chars) : Bool :=
  ["True", "False", "None"].any (·.toList == word)

abbrev Reader (α : Type) := List Token → Option (α × List Token)

/-- Items behind commas up to the closing bracket, before which one more comma may
stand; tells whether all are fixed. The number bounds the items. -/
def following (item : Reader Bool) (closing : Char) : Nat → Reader Bool
  | 0, _ => none
  | n + 1, tokens =>
    match tokens with
    | .mark c :: rest =>
      if c == closing then some (true, rest)
      else if c != ',' then none
      else if rest.head? == some (.mark closing) then some (true, rest.tail)
      else do
        let (first, rest) ← item rest
        let (others, rest) ← following item closing n rest
        some (first && others, rest)
    | _ => none

def signed (operand : Reader Shape) : Reader Shape
  | .mark c :: rest =>
    if c == '+' || c == '-' then
      match operand rest with
      | some (.number .real, rest) => some (.signedReal, rest)
      | some (.number .imaginary, rest) => some (.other true, rest)
      | _ => none
    else operand (.mark c :: rest)
  | tokens => operand tokens

def sum (operand : Reader Shape) : Reader Shape := fun tokens => do
  let (left, rest) ← signed operand tokens
  match rest with
  | .mark c :: behind =>
    if c == '+' || c == '-' then
      match operand behind with
      | some (.number .imaginary, rest) => if left.isReal then some (.other true, rest) else none
      | _ => none
    else some (left, rest)
  | _ => some (left, rest)

def member (value : Reader Shape) : Reader Bool := fun tokens => do
  let (shape, rest) ← value tokens
  let fixed ← shape.isFixed?
  some (fixed, rest)

def fixedMember (value : Reader Shape) : Reader Bool := fun tokens => do
  let (fixed, rest) ← member value tokens
  if fixed then some (true, rest) else none

def valueOfKey (value : Reader Shape) : Reader Bool
  | .mark ':' :: rest => member value rest
  | _ => none

def entry (value : Reader Shape) : Reader Bool := fun tokens => do
  let (_, rest) ← fixedMember value tokens
  valueOfKey value rest

/-- A tuple behind its opening parenthesis. One item without a comma behind it is
that item alone. -/
def group (value : Reader Shape) : Reader Shape
  | .mark ')' :: rest => some (.other true, rest)
  | tokens => do
    let (first, rest) ← value tokens
    match rest with
    | .mark ')' :: rest => some (first, rest)
    | rest =>
      let fixed ← first.isFixed?
      let (others, rest) ← following (member value) ')' (rest.length + 1) rest
      some (.other (fixed && others), rest)

def collection (value : Reader Shape) : Reader Shape
  | .mark '\x7d' :: rest => some (.other false, rest)
  | tokens => do
    let (_, rest) ← fixedMember value tokens
    match rest with
    | .mark ':' :: _ =>
      let (_, rest) ← valueOfKey value rest
      let (_, rest) ← following (entry value) '\x7d' (rest.length + 1) rest
      some (.other false, rest)
    | rest =>
      let (_, rest) ← following (fixedMember value) '\x7d' (rest.length + 1) rest
      some (.other false, rest)

def skipStrings? (bytes : Bool) : List Token → Option (List Token)
  | .string other :: rest => if other == bytes then skipStrings? bytes rest else none
  | rest => some rest

def atom (value : Reader Shape) : Reader Shape
  | .number kind :: rest => some (.number kind, rest)
  | .ellipsis :: rest => some (.other true, rest)
  | .string bytes :: rest => (skipStrings? bytes rest).map (.other true, ·)
  | .name word :: rest =>
    if isNamedConstant word then some (.other true, rest)
    else if isSetMaker word then some (.setMaker, rest)
    else none
  | .mark '(' :: rest => group value rest
  | .mark '\x7b' :: rest => collection value rest
  | _ => none

/-- An atom or an empty set, with brackets no deeper than the first argument. -/
def operand : Nat → Reader Shape
  | 0, _ => none
  | depth + 1, tokens => do
    let (shape, rest) ← atom (sum (operand depth)) tokens
    match shape, rest with
    | .setMaker, .mark '(' :: .mark ')' :: rest => some (.other false, rest)
    | shape, rest => some (shape, rest)

/-- Whether a text is a constant. At the top a tuple needs no parentheses. -/
def isConstant (text : Chars) : Bool :=
  match tokens? text with
  | none => false
  | some tokens =>
    match group (sum (operand (tokens.length + 1))) (tokens ++ [.mark ')']) with
    | some (shape, []) => shape.isFixed?.isSome && !tokens.isEmpty
    | _ => false

end TemplateTree.Constant
