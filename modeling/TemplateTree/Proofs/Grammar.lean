import TemplateTree.Expression.Binding

/-!
# The grammar of expressions

The language of bindings as a grammar: which rows of tokens form an expression,
and which one. Levels run from the loosest to the tightest, and each binary
operator belongs to one of six levels between conditionals and negations. A node
spans its tokens from the first to the last, so parentheses count for what is
around them and not for what is inside.
-/

namespace TemplateTree.Expression

open Text (Chars)

-- ---------------------------------------------------------------------------
-- Attempts
-- ---------------------------------------------------------------------------

theorem bind_eq_ok {ε α β : Type} {x : Except ε α} {f : α → Except ε β} {b : β} :
    x >>= f = .ok b ↔ ∃ a, x = .ok a ∧ f a = .ok b := by
  cases x with
  | error e => simp [bind, Except.bind]
  | ok a => simp [bind, Except.bind]

theorem bind_eq_error {ε α β : Type} {x : Except ε α} {f : α → Except ε β} {e : ε} :
    x >>= f = .error e ↔ x = .error e ∨ ∃ a, x = .ok a ∧ f a = .error e := by
  cases x with
  | error e => simp [bind, Except.bind]
  | ok a => simp [bind, Except.bind]

theorem exists_ok_of_isOk {ε α : Type} {x : Except ε α} (h : x.isOk = true) : ∃ a, x = .ok a := by
  cases x with
  | error e => cases h
  | ok a => exact ⟨a, rfl⟩

-- ---------------------------------------------------------------------------
-- Texts as rows of tokens
-- ---------------------------------------------------------------------------

def Terminal.Formed : Terminal → Prop
  | name [] => False
  | name (c :: rest) => isNameStart c = true ∧ ∀ d ∈ rest, isNameChar d = true
  | integer digits => digits ≠ [] ∧ ∀ c ∈ digits, Text.isDigit c = true
  | decimal whole fraction =>
    (whole ≠ [] ∧ ∀ c ∈ whole, Text.isDigit c = true) ∧
      fraction ≠ [] ∧ ∀ c ∈ fraction, Text.isDigit c = true
  | string quote body => isQuote quote = true ∧ quote ∉ body
  | _ => True

def Ignored (gap : Chars) : Prop := ∀ c ∈ gap, isIgnored c = true

inductive Cuts : Int → Chars → List Token → Prop
  | done {pos gap} : Ignored gap → Cuts pos gap []
  | token {pos gap terminal rest tokens} :
      Ignored gap → terminal.Formed →
      Cuts (pos + gap.length + terminal.written.length) rest tokens →
      Cuts pos (gap ++ (terminal.written ++ rest))
        (⟨terminal, pos + gap.length, pos + gap.length + terminal.written.length⟩ :: tokens)

-- ---------------------------------------------------------------------------
-- Derivations
-- ---------------------------------------------------------------------------

def startOf (tokens : List Token) : Int := (tokens.head?.map Token.start).getD 0

def stopOf (tokens : List Token) : Int := (tokens.getLast?.map Token.stop).getD 0

def extent (tokens : List Token) : OffsetSpan := ⟨startOf tokens, stopOf tokens⟩

inductive Level where
  | pipe
  | conditional
  | binary (level : Nat)
  | negation
  | chain
  | primary
  deriving DecidableEq, Repr

structure Argument where
  mark : Token
  tokens : List Token
  expr : Expr

def Argument.all (arg : Argument) : List Token := arg.mark :: arg.tokens

def argumentTokens (args : List Argument) : List Token := args.flatMap Argument.all

/-- `Derives level tokens expr`: the grammar makes `expr` of the tokens. -/
inductive Derives : Level → List Token → Expr → Prop
  -- pipe: conditional | pipe "|" name (":" conditional)*
  | bare {ts e} : Derives .conditional ts e → Derives .pipe ts e
  | piped {ts e bar name text args} :
      Derives .pipe ts e → bar.terminal = .bar → name.terminal = .name text →
      (∀ arg ∈ args, arg.mark.terminal = .colon) →
      (∀ arg ∈ args, Derives .conditional arg.tokens arg.expr) →
      Derives .pipe (ts ++ bar :: name :: argumentTokens args)
        (.pipe (extent (ts ++ bar :: name :: argumentTokens args)) e text
          (args.map Argument.expr))
  -- conditional: binary | binary "?" conditional ":" conditional
  | plain {ts e} : Derives (.binary 0) ts e → Derives .conditional ts e
  | choice {condition yes no c y n question colon} :
      Derives (.binary 0) condition c → question.terminal = .question →
      Derives .conditional yes y → colon.terminal = .colon → Derives .conditional no n →
      Derives .conditional (condition ++ question :: (yes ++ colon :: no))
        (.conditional (extent (condition ++ question :: (yes ++ colon :: no))) c y n)
  -- one level of operators: tighter | this operator tighter
  | tighter {level ts e} : level < BinaryOp.topLevel →
      Derives (.binary (level + 1)) ts e → Derives (.binary level) ts e
  | operator {op left right l r sign} :
      Derives (.binary op.level) left l → sign.terminal = .operator op →
      Derives (.binary (op.level + 1)) right r →
      Derives (.binary op.level) (left ++ sign :: right)
        (.binary (extent (left ++ sign :: right)) op l r)
  | operand {ts e} : Derives .negation ts e → Derives (.binary BinaryOp.topLevel) ts e
  -- negation: chain | "!" negation
  | positive {ts e} : Derives .chain ts e → Derives .negation ts e
  | negated {bang ts e} : bang.terminal = .bang → Derives .negation ts e →
      Derives .negation (bang :: ts) (.not (extent (bang :: ts)) e)
  -- chain: primary | chain "." name | chain "[" pipe "]" | chain "(" [pipe ("," pipe)*] ")"
  | single {ts e} : Derives .primary ts e → Derives .chain ts e
  | property {ts e dot name text} :
      Derives .chain ts e → dot.terminal = .dot → name.terminal = .name text →
      Derives .chain (ts ++ [dot, name]) (.propertyRead (extent (ts ++ [dot, name])) e text)
  | keyed {ts e key k opening closing} :
      Derives .chain ts e → opening.terminal = .openBracket →
      Derives .pipe key k → closing.terminal = .closeBracket →
      Derives .chain (ts ++ opening :: (key ++ [closing]))
        (.keyedRead (extent (ts ++ opening :: (key ++ [closing]))) e k)
  | called {ts e opening closing} :
      Derives .chain ts e → opening.terminal = .openParen → closing.terminal = .closeParen →
      Derives .chain (ts ++ [opening, closing]) (.call (extent (ts ++ [opening, closing])) e [])
  | calledWith {ts e first f args opening closing} :
      Derives .chain ts e → opening.terminal = .openParen → Derives .pipe first f →
      (∀ arg ∈ args, arg.mark.terminal = .comma) →
      (∀ arg ∈ args, Derives .pipe arg.tokens arg.expr) → closing.terminal = .closeParen →
      Derives .chain (ts ++ opening :: (first ++ (argumentTokens args ++ [closing])))
        (.call (extent (ts ++ opening :: (first ++ (argumentTokens args ++ [closing])))) e
          (f :: args.map Argument.expr))
  -- primary: name | number | string | "(" pipe ")"
  | name {token text} : token.terminal = .name text →
      Derives .primary [token] (.ofName (extent [token]) text)
  | integer {token digits} : token.terminal = .integer digits →
      Derives .primary [token] (.literal (extent [token]) (.int (Text.readDigits 0 digits)))
  | decimal {token whole fraction} : token.terminal = .decimal whole fraction →
      Derives .primary [token] (.literal (extent [token]) (.float (decimalValue whole fraction)))
  | string {token quote body} : token.terminal = .string quote body →
      Derives .primary [token] (.literal (extent [token]) (.string body))
  | parens {ts e opening closing} :
      opening.terminal = .openParen → Derives .pipe ts e → closing.terminal = .closeParen →
      Derives .primary (opening :: (ts ++ [closing])) e

def Forms (source : Chars) (offset : Int) (tokens : List Token) (expr : Expr) : Prop :=
  Cuts offset source tokens ∧ Derives .pipe tokens expr

def HasOversized (tokens : List Token) : Prop :=
  ∃ token ∈ tokens, ∃ digits, token.terminal = .integer digits ∧ maxIntegerDigits < digits.length

-- ---------------------------------------------------------------------------
-- Extents
-- ---------------------------------------------------------------------------

@[simp] theorem argumentTokens_nil : argumentTokens [] = [] := rfl

@[simp] theorem argumentTokens_cons (arg : Argument) (args : List Argument) :
    argumentTokens (arg :: args) = arg.mark :: (arg.tokens ++ argumentTokens args) := rfl

theorem Derives.ne_nil {level : Level} {tokens : List Token} {expr : Expr}
    (h : Derives level tokens expr) : tokens ≠ [] := by
  induction h with
  | bare _ ih | plain _ ih | tighter _ _ ih | operand _ ih | positive _ ih | single _ ih => exact ih
  | _ => simp

theorem startOf_append {xs ys : List Token} (h : xs ≠ []) : startOf (xs ++ ys) = startOf xs := by
  cases xs with
  | nil => exact absurd rfl h
  | cons token rest => rfl

theorem stopOf_append {xs ys : List Token} (h : ys ≠ []) : stopOf (xs ++ ys) = stopOf ys := by
  simp [stopOf, List.getLast?_append, List.getLast?_eq_some_getLast h]

@[simp] theorem startOf_cons (token : Token) (rest : List Token) :
    startOf (token :: rest) = token.start := rfl

@[simp] theorem stopOf_singleton (token : Token) : stopOf [token] = token.stop := rfl

theorem stopOf_cons {token : Token} {rest : List Token} (h : rest ≠ []) :
    stopOf (token :: rest) = stopOf rest :=
  (stopOf_append h : stopOf ([token] ++ rest) = stopOf rest)

def Parsed.of (tokens : List Token) (expr : Expr) : Parsed :=
  ⟨expr, startOf tokens, stopOf tokens⟩

section
variable {ts left right yes no q : List Token} {t m z : Token}

theorem Parsed.binary_of (op : BinaryOp) (l r : Expr) (hl : left ≠ []) (hr : right ≠ []) :
    Parsed.binary op (.of left l) (.of right r) =
      .of (left ++ m :: right) (.binary (extent (left ++ m :: right)) op l r) := by
  simp [Parsed.binary, Parsed.of, extent, startOf_append hl, stopOf_append, stopOf_cons hr]

theorem Parsed.conditional_of (c y n : Expr) (hl : left ≠ []) (hn : no ≠ []) :
    Parsed.conditional (.of left c) (.of yes y) (.of no n) =
      .of (left ++ m :: (yes ++ t :: no))
        (.conditional (extent (left ++ m :: (yes ++ t :: no))) c y n) := by
  simp [Parsed.conditional, Parsed.of, extent, startOf_append hl, stopOf_append, stopOf_cons hn,
    stopOf_cons (List.append_ne_nil_of_right_ne_nil yes (List.cons_ne_nil t no))]

theorem Parsed.not_of (e : Expr) (ht : ts ≠ []) :
    Parsed.not t.start (.of ts e) = .of (t :: ts) (.not (extent (t :: ts)) e) := by
  simp [Parsed.not, Parsed.of, extent, stopOf_cons ht]

theorem Parsed.property_of (e : Expr) (text : Chars) (ht : ts ≠ []) :
    Parsed.property (.of ts e) text t.stop =
      .of (ts ++ [m, t]) (.propertyRead (extent (ts ++ [m, t])) e text) := by
  simp [Parsed.property, Parsed.of, extent, startOf_append ht, stopOf_append, stopOf_cons]

theorem Parsed.keyed_of (e k : Expr) (ht : ts ≠ []) :
    Parsed.keyed (.of ts e) (.of q k) z.stop =
      .of (ts ++ m :: (q ++ [z]))
        (.keyedRead (extent (ts ++ m :: (q ++ [z]))) e k) := by
  simp [Parsed.keyed, Parsed.of, extent, startOf_append ht, stopOf_append, stopOf_cons]

theorem Parsed.call_of (e : Expr) (args : List Expr) (ht : ts ≠ []) :
    Parsed.call (.of ts e) args z.stop =
      .of (ts ++ m :: (q ++ [z]))
        (.call (extent (ts ++ m :: (q ++ [z]))) e args) := by
  simp [Parsed.call, Parsed.of, extent, startOf_append ht, stopOf_append, stopOf_cons]

theorem Parsed.pipe_of (e : Expr) (text : Chars) (args : List Expr) (ht : ts ≠ []) :
    Parsed.pipe (.of ts e) text args (stopOf (t :: right)) =
      .of (ts ++ m :: t :: right)
        (.pipe (extent (ts ++ m :: t :: right)) e text args) := by
  simp [Parsed.pipe, Parsed.of, extent, startOf_append ht, stopOf_append, stopOf_cons]

theorem Parsed.parens_of (e : Expr) :
    (⟨e, t.start, z.stop⟩ : Parsed) = .of (t :: (ts ++ [z])) e := by
  simp [Parsed.of, stopOf_append, stopOf_cons]

end

end TemplateTree.Expression
