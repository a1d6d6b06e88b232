import TemplateTree.Expression.Lexer

/-!
# Parsing expressions

One function per level of the grammar, from the loosest to the tightest: pipes,
conditionals, six levels of binary operators, negation, and chains of reads and
calls on a primary. Each takes the tokens that are left and returns those it did
not use. The first argument bounds the depth of the calls; `depthFor` gives a
bound that suffices.
-/

namespace TemplateTree.Expression

open Text (Chars)

/-- An expression and the offsets of its outermost tokens, its own parentheses
included. -/
structure Parsed where
  expr : Expr
  start : Int
  stop : Int
  deriving Repr

abbrev Attempt := Except Rejection

/-- The cause for refusing the first of the tokens left. -/
def refuse (ending : Ending) : List Token → Rejection
  | [] => ending.rejection
  | _ :: _ => .unexpectedToken

def Parsed.binary (op : BinaryOp) (left right : Parsed) : Parsed :=
  ⟨.binary ⟨left.start, right.stop⟩ op left.expr right.expr, left.start, right.stop⟩

def Parsed.conditional (condition whenTrue whenFalse : Parsed) : Parsed :=
  ⟨.conditional ⟨condition.start, whenFalse.stop⟩ condition.expr whenTrue.expr whenFalse.expr,
    condition.start, whenFalse.stop⟩

def Parsed.not (start : Int) (operand : Parsed) : Parsed :=
  ⟨.not ⟨start, operand.stop⟩ operand.expr, start, operand.stop⟩

def Parsed.property (receiver : Parsed) (name : Chars) (stop : Int) : Parsed :=
  ⟨.propertyRead ⟨receiver.start, stop⟩ receiver.expr name, receiver.start, stop⟩

def Parsed.keyed (receiver key : Parsed) (stop : Int) : Parsed :=
  ⟨.keyedRead ⟨receiver.start, stop⟩ receiver.expr key.expr, receiver.start, stop⟩

def Parsed.call (receiver : Parsed) (args : List Expr) (stop : Int) : Parsed :=
  ⟨.call ⟨receiver.start, stop⟩ receiver.expr args, receiver.start, stop⟩

def Parsed.pipe (operand : Parsed) (name : Chars) (args : List Expr) (stop : Int) : Parsed :=
  ⟨.pipe ⟨operand.start, stop⟩ operand.expr name args, operand.start, stop⟩

def Parsed.literal (start stop : Int) (value : Literal) : Parsed :=
  ⟨.literal ⟨start, stop⟩ value, start, stop⟩

def decimalValue (whole fraction : Chars) : Binary64 :=
  .ofScaled false (Text.readDigits 0 (whole ++ fraction)) (-(fraction.length : Int))

mutual

def parsePipe (ending : Ending) : Nat → List Token → Attempt (Parsed × List Token)
  | 0, _ => .error .unexpectedToken
  | n + 1, tokens => do
    let (operand, tokens) ← parseConditional ending n tokens
    parsePipes ending n operand tokens

def parsePipes (ending : Ending) : Nat → Parsed → List Token → Attempt (Parsed × List Token)
  | 0, _, _ => .error .unexpectedToken
  | n + 1, operand, tokens =>
    match tokens with
    | ⟨.bar, _, _⟩ :: ⟨.name name, _, stop⟩ :: rest => do
      let ((args, stop), rest) ← parsePipeArgs ending n stop rest
      parsePipes ending n (operand.pipe name args stop) rest
    | ⟨.bar, _, _⟩ :: rest => .error (refuse ending rest)
    | _ => .ok (operand, tokens)

def parsePipeArgs (ending : Ending) :
    Nat → Int → List Token → Attempt ((List Expr × Int) × List Token)
  | 0, _, _ => .error .unexpectedToken
  | n + 1, stop, tokens =>
    match tokens with
    | ⟨.colon, _, _⟩ :: rest => do
      let (arg, rest) ← parseConditional ending n rest
      let ((more, stop), rest) ← parsePipeArgs ending n arg.stop rest
      .ok ((arg.expr :: more, stop), rest)
    | _ => .ok (([], stop), tokens)

def parseConditional (ending : Ending) : Nat → List Token → Attempt (Parsed × List Token)
  | 0, _ => .error .unexpectedToken
  | n + 1, tokens => do
    let (condition, tokens) ← parseBinary ending n 0 tokens
    match tokens with
    | ⟨.question, _, _⟩ :: rest =>
      let (whenTrue, rest) ← parseConditional ending n rest
      match rest with
      | ⟨.colon, _, _⟩ :: rest =>
        let (whenFalse, rest) ← parseConditional ending n rest
        .ok (.conditional condition whenTrue whenFalse, rest)
      | rest => .error (refuse ending rest)
    | tokens => .ok (condition, tokens)

/-- Operators of this level or tighter ones. -/
def parseBinary (ending : Ending) : Nat → Nat → List Token → Attempt (Parsed × List Token)
  | 0, _, _ => .error .unexpectedToken
  | n + 1, level, tokens =>
    if level < BinaryOp.topLevel then do
      let (left, tokens) ← parseBinary ending n (level + 1) tokens
      parseOperators ending n level left tokens
    else parseNegation ending n tokens

def parseOperators (ending : Ending) :
    Nat → Nat → Parsed → List Token → Attempt (Parsed × List Token)
  | 0, _, _, _ => .error .unexpectedToken
  | n + 1, level, left, tokens =>
    match tokens with
    | ⟨.operator op, start, stop⟩ :: rest =>
      if op.level = level then do
        let (right, rest) ← parseBinary ending n (level + 1) rest
        parseOperators ending n level (.binary op left right) rest
      else .ok (left, ⟨.operator op, start, stop⟩ :: rest)
    | tokens => .ok (left, tokens)

def parseNegation (ending : Ending) : Nat → List Token → Attempt (Parsed × List Token)
  | 0, _ => .error .unexpectedToken
  | n + 1, tokens =>
    match tokens with
    | ⟨.bang, start, _⟩ :: rest => do
      let (operand, rest) ← parseNegation ending n rest
      .ok (.not start operand, rest)
    | tokens => do
      let (primary, tokens) ← parsePrimary ending n tokens
      parseChain ending n primary tokens

def parseChain (ending : Ending) : Nat → Parsed → List Token → Attempt (Parsed × List Token)
  | 0, _, _ => .error .unexpectedToken
  | n + 1, receiver, tokens =>
    match tokens with
    | ⟨.dot, _, _⟩ :: ⟨.name name, _, stop⟩ :: rest =>
      parseChain ending n (receiver.property name stop) rest
    | ⟨.dot, _, _⟩ :: rest => .error (refuse ending rest)
    | ⟨.openBracket, _, _⟩ :: rest => do
      let (key, rest) ← parsePipe ending n rest
      match rest with
      | ⟨.closeBracket, _, stop⟩ :: rest => parseChain ending n (receiver.keyed key stop) rest
      | rest => .error (refuse ending rest)
    | ⟨.openParen, _, _⟩ :: ⟨.closeParen, _, stop⟩ :: rest =>
      parseChain ending n (receiver.call [] stop) rest
    | ⟨.openParen, _, _⟩ :: rest => do
      let (args, rest) ← parseArgs ending n rest
      match rest with
      | ⟨.closeParen, _, stop⟩ :: rest => parseChain ending n (receiver.call args stop) rest
      | rest => .error (refuse ending rest)
    | tokens => .ok (receiver, tokens)

def parseArgs (ending : Ending) : Nat → List Token → Attempt (List Expr × List Token)
  | 0, _ => .error .unexpectedToken
  | n + 1, tokens => do
    let (arg, tokens) ← parsePipe ending n tokens
    match tokens with
    | ⟨.comma, _, _⟩ :: rest =>
      let (more, rest) ← parseArgs ending n rest
      .ok (arg.expr :: more, rest)
    | tokens => .ok ([arg.expr], tokens)

def parsePrimary (ending : Ending) : Nat → List Token → Attempt (Parsed × List Token)
  | 0, _ => .error .unexpectedToken
  | n + 1, tokens =>
    match tokens with
    | ⟨.name name, start, stop⟩ :: rest => .ok (⟨.ofName ⟨start, stop⟩ name, start, stop⟩, rest)
    | ⟨.integer digits, start, stop⟩ :: rest =>
      .ok (.literal start stop (.int (Text.readDigits 0 digits)), rest)
    | ⟨.decimal whole fraction, start, stop⟩ :: rest =>
      .ok (.literal start stop (.float (decimalValue whole fraction)), rest)
    | ⟨.string _ body, start, stop⟩ :: rest => .ok (.literal start stop (.string body), rest)
    | ⟨.openParen, start, _⟩ :: rest => do
      let (inner, rest) ← parsePipe ending n rest
      match rest with
      | ⟨.closeParen, _, stop⟩ :: rest => .ok (⟨inner.expr, start, stop⟩, rest)
      | rest => .error (refuse ending rest)
    | tokens => .error (refuse ending tokens)

end

/-- A token costs one call on each level above it. -/
def depthFor (tokens : List Token) : Nat := 16 * (tokens.length + 1)

def parseTokens (tokens : List Token) (ending : Ending) : Attempt Expr := do
  let (parsed, rest) ← parsePipe ending (depthFor tokens) tokens
  match rest, ending with
  | [], .complete => .ok parsed.expr
  | rest, ending => .error (refuse ending rest)

/-- Integer literals longer than this are refused. -/
def maxIntegerDigits : Nat := 4300

def Terminal.oversized : Terminal → Bool
  | integer digits => maxIntegerDigits < digits.length
  | _ => false

end TemplateTree.Expression
