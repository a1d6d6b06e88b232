import TemplateTree.Text.Digit
import TemplateTree.Expression.Basic

/-!
# Tokens of expressions

What may come next depends on what came before: an operand is expected at the
start and after an operator or an opening bracket, an operator after an operand.
So `!` starts a negation in the first case and `!=` is one token in the second.
Each token keeps the text it was written as.
-/

namespace TemplateTree.Expression

open Text (Chars)

inductive Terminal where
  | name (text : Chars)
  | integer (digits : Chars)
  | decimal (whole fraction : Chars)
  | string (quote : Char) (body : Chars)
  | bang
  | openParen
  | closeParen
  | openBracket
  | closeBracket
  | dot
  | comma
  | colon
  | question
  | bar
  | operator (op : BinaryOp)
  deriving DecidableEq, Repr

def Terminal.written : Terminal → Chars
  | name text => text
  | integer digits => digits
  | decimal whole fraction => whole ++ '.' :: fraction
  | string quote body => quote :: body ++ [quote]
  | bang => ['!']
  | openParen => ['(']
  | closeParen => [')']
  | openBracket => ['[']
  | closeBracket => [']']
  | dot => ['.']
  | comma => [',']
  | colon => [':']
  | question => ['?']
  | bar => ['|']
  | operator op => op.symbol.toList

structure Token where
  terminal : Terminal
  start : Int
  stop : Int
  deriving DecidableEq, Repr

def isNameStart (c : Char) : Bool := c.isAlpha || c == '_' || c == '$'

def isNameChar (c : Char) : Bool := c.isAlphanum || c == '_' || c == '$'

def isIgnored (c : Char) : Bool :=
  c == ' ' || c == '\t' || c == '\x0c' || c == '\r' || c == '\n'

def isQuote (c : Char) : Bool := c == '\x27' || c == '\x22'

def takeNumber (text : Chars) : Terminal × Chars :=
  let whole := text.takeWhile Text.isDigit
  match text.dropWhile Text.isDigit with
  | '.' :: rest =>
    let fraction := rest.takeWhile Text.isDigit
    if fraction.isEmpty then (.integer whole, '.' :: rest)
    else (.decimal whole fraction, rest.dropWhile Text.isDigit)
  | rest => (.integer whole, rest)

def takeString? (quote : Char) (text : Chars) : Option (Terminal × Chars) :=
  match text.dropWhile (· != quote) with
  | [] => none
  | _ :: rest => some (.string quote (text.takeWhile (· != quote)), rest)

/-- The token in front of a text where an operand is expected. A closing
parenthesis is among them, since a call may have no arguments. -/
def operandToken? : Chars → Option (Terminal × Chars)
  | [] => none
  | c :: rest =>
    if isNameStart c then
      some (.name (c :: rest.takeWhile isNameChar), rest.dropWhile isNameChar)
    else if Text.isDigit c then some (takeNumber (c :: rest))
    else if isQuote c then takeString? c rest
    else
      match c with
      | '!' => some (.bang, rest)
      | '(' => some (.openParen, rest)
      | ')' => some (.closeParen, rest)
      | _ => none

/-- The token in front of a text where an operator is expected: the longest one
that fits. -/
def operatorToken? : Chars → Option (Terminal × Chars)
  | '.' :: rest => some (.dot, rest)
  | '[' :: rest => some (.openBracket, rest)
  | ']' :: rest => some (.closeBracket, rest)
  | '(' :: rest => some (.openParen, rest)
  | ')' :: rest => some (.closeParen, rest)
  | ',' :: rest => some (.comma, rest)
  | ':' :: rest => some (.colon, rest)
  | '?' :: rest => some (.question, rest)
  | '|' :: '|' :: rest => some (.operator .or, rest)
  | '|' :: rest => some (.bar, rest)
  | '&' :: '&' :: rest => some (.operator .and, rest)
  | '=' :: '=' :: '=' :: rest => some (.operator .identical, rest)
  | '!' :: '=' :: '=' :: rest => some (.operator .notIdentical, rest)
  | '=' :: '=' :: rest => some (.operator .equal, rest)
  | '!' :: '=' :: rest => some (.operator .notEqual, rest)
  | '<' :: '=' :: rest => some (.operator .lessEqual, rest)
  | '>' :: '=' :: rest => some (.operator .greaterEqual, rest)
  | '<' :: rest => some (.operator .less, rest)
  | '>' :: rest => some (.operator .greater, rest)
  | '+' :: rest => some (.operator .plus, rest)
  | '-' :: rest => some (.operator .minus, rest)
  | '*' :: rest => some (.operator .times, rest)
  | '/' :: rest => some (.operator .divide, rest)
  | '%' :: rest => some (.operator .modulo, rest)
  | _ => none

/-- What the next token may be. -/
inductive Expects where
  | operand
  | operator
  deriving DecidableEq, Repr

def Expects.token? : Expects → Chars → Option (Terminal × Chars)
  | operand => operandToken?
  | operator => operatorToken?

/-- An operator follows an operand and a closing bracket; all else is followed by
an operand. -/
def Terminal.next : Terminal → Expects
  | name _ | integer _ | decimal _ _ | string _ _ | closeParen | closeBracket => .operator
  | _ => .operand

theorem takeNumber_written (text : Chars) :
    (takeNumber text).1.written ++ (takeNumber text).2 = text := by
  have h := List.takeWhile_append_dropWhile (p := Text.isDigit) (l := text)
  unfold takeNumber
  dsimp only
  split
  · rename_i rest hr
    split
    · simpa [Terminal.written, hr] using h
    · simpa [Terminal.written, hr] using h
  · simp [Terminal.written]

theorem takeString?_written {quote : Char} {text rest : Chars} {t : Terminal}
    (h : takeString? quote text = some (t, rest)) : t.written ++ rest = quote :: text := by
  have hs := List.takeWhile_append_dropWhile (p := (· != quote)) (l := text)
  unfold takeString? at h
  split at h
  · simp at h
  · rename_i c tail hd
    have hc : c = quote := by
      have := List.head?_dropWhile_not (· != quote) text
      simpa [hd] using this
    obtain ⟨rfl, rfl⟩ := Prod.mk.inj (Option.some.inj h)
    simp only [Terminal.written, List.cons_append, List.append_assoc, List.nil_append,
      List.cons.injEq, true_and]
    rw [hd, hc] at hs
    exact hs

theorem operandToken?_written {text rest : Chars} {t : Terminal}
    (h : operandToken? text = some (t, rest)) : t.written ++ rest = text := by
  unfold operandToken? at h
  split at h
  · simp at h
  · split at h
    · obtain ⟨rfl, rfl⟩ := Prod.mk.inj (Option.some.inj h)
      simp [Terminal.written]
    · split at h
      · rename_i c tail _ _
        have hn := takeNumber_written (c :: tail)
        rw [Option.some.inj h] at hn
        exact hn
      · split at h
        · exact takeString?_written h
        · split at h <;> simp_all [Terminal.written]
          all_goals (obtain ⟨rfl, rfl⟩ := h; simp)

theorem operatorToken?_written {text rest : Chars} {t : Terminal}
    (h : operatorToken? text = some (t, rest)) : t.written ++ rest = text := by
  unfold operatorToken? at h
  split at h <;>
    first
    | (simp at h; done)
    | (obtain ⟨rfl, rfl⟩ := Prod.mk.inj (Option.some.inj h)
       simp [Terminal.written, BinaryOp.symbol])

theorem operandToken?_shorter {text rest : Chars} {t : Terminal}
    (h : operandToken? text = some (t, rest)) : rest.length < text.length := by
  have hw := congrArg List.length (operandToken?_written h)
  suffices 0 < t.written.length by
    rw [List.length_append] at hw
    omega
  unfold operandToken? at h
  split at h
  · simp at h
  · split at h
    · simp [← (Prod.mk.inj (Option.some.inj h)).1, Terminal.written]
    · split at h
      · rename_i c tail _ hd
        have ht : t = (takeNumber (c :: tail)).1 := (congrArg Prod.fst (Option.some.inj h)).symm
        rw [ht]
        unfold takeNumber
        dsimp only
        split
        · split <;> simp [Terminal.written, hd]
        · simp [Terminal.written, hd]
      · split at h
        · unfold takeString? at h
          split at h
          · simp at h
          · simp [← (Prod.mk.inj (Option.some.inj h)).1, Terminal.written]
        · split at h <;> simp_all [Terminal.written]
          all_goals simp [← h.1]

theorem operatorToken?_shorter {text rest : Chars} {t : Terminal}
    (h : operatorToken? text = some (t, rest)) : rest.length < text.length := by
  unfold operatorToken? at h
  split at h <;>
    first
    | (simp at h; done)
    | (rw [← (Prod.mk.inj (Option.some.inj h)).2]
       simp only [List.length_cons]
       omega)

theorem Expects.token?_written {expects : Expects} {text rest : Chars} {t : Terminal}
    (h : expects.token? text = some (t, rest)) : t.written ++ rest = text := by
  cases expects with
  | operand => exact operandToken?_written h
  | operator => exact operatorToken?_written h

theorem Expects.token?_shorter {expects : Expects} {text rest : Chars} {t : Terminal}
    (h : expects.token? text = some (t, rest)) : rest.length < text.length := by
  cases expects with
  | operand => exact operandToken?_shorter h
  | operator => exact operatorToken?_shorter h

end TemplateTree.Expression
