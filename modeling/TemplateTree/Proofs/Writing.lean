import Mathlib.Algebra.Group.Nat.Defs
import TemplateTree.Proofs.Within

/-!
# Writing expressions

An expression is written with a pair of parentheses around each operand whose level
is looser than the one its place asks for, and nowhere else. Reading what was
written gives the expression back, at other offsets (`Expr.parse_print`).
-/

namespace TemplateTree

open Text (Chars)

-- ---------------------------------------------------------------------------
-- The terminals of an expression
-- ---------------------------------------------------------------------------

namespace Expression

/-- The quote that is put around a string: a single one, unless it is in the string. -/
def quoteFor (body : Chars) : Char := if '\x27' ∈ body then '\x22' else '\x27'

end Expression

open Expression

/-- Numbers with a fraction are not written. -/
def Literal.terminals : Literal → List Terminal
  | null => [.name "null".toList]
  | bool true => [.name "true".toList]
  | bool false => [.name "false".toList]
  | int value => [.integer (Nat.toDigits 10 value)]
  | float _ => []
  | string body => [.string (quoteFor body) body]

namespace Expr

def level : Expr → Level
  | empty _ | implicitReceiver _ | thisReceiver _ | literal _ _
  | propertyRead _ (implicitReceiver _) _ => .primary
  | propertyRead _ _ _ | keyedRead _ _ _ | call _ _ _ => .chain
  | binary _ op _ _ => .binary op.level
  | conditional _ _ _ _ => .conditional
  | not _ _ => .negation
  | pipe _ _ _ _ => .pipe

end Expr

/-- What one level makes, put where another one is asked for. -/
def Expression.Level.enclose (own asked : Level) (written : List Terminal) : List Terminal :=
  if own.rank < asked.rank then .openParen :: (written ++ [.closeParen]) else written

namespace Expr

mutual

def terminals : Expr → List Terminal
  | empty _ | implicitReceiver _ => []
  | thisReceiver _ => [.name "this".toList]
  | literal _ value => value.terminals
  | propertyRead _ (implicitReceiver _) name => [.name name]
  | propertyRead _ receiver name =>
    receiver.level.enclose .chain receiver.terminals ++ [.dot, .name name]
  | keyedRead _ receiver key =>
    receiver.level.enclose .chain receiver.terminals ++
      .openBracket :: (key.terminals ++ [.closeBracket])
  | call _ receiver [] =>
    receiver.level.enclose .chain receiver.terminals ++ [.openParen, .closeParen]
  | call _ receiver (first :: more) =>
    receiver.level.enclose .chain receiver.terminals ++
      .openParen :: (first.terminals ++ (argumentTerminals .pipe .comma more ++ [.closeParen]))
  | binary _ op left right =>
    left.level.enclose (.binary op.level) left.terminals ++
      .operator op :: right.level.enclose (.binary (op.level + 1)) right.terminals
  | conditional _ condition whenTrue whenFalse =>
    condition.level.enclose (.binary 0) condition.terminals ++
      .question :: (whenTrue.level.enclose .conditional whenTrue.terminals ++
        .colon :: whenFalse.level.enclose .conditional whenFalse.terminals)
  | not _ operand => .bang :: operand.level.enclose .negation operand.terminals
  | pipe _ operand name args =>
    operand.terminals ++ .bar :: .name name :: argumentTerminals .conditional .colon args

def argumentTerminals (asked : Level) (mark : Terminal) : List Expr → List Terminal
  | [] => []
  | arg :: rest =>
    mark :: (arg.level.enclose asked arg.terminals ++ argumentTerminals asked mark rest)

end

def print (e : Expr) : Chars := e.terminals.flatMap Terminal.written

mutual

def unplaced : Expr → Expr
  | empty _ => empty ⟨0, 0⟩
  | implicitReceiver _ => implicitReceiver ⟨0, 0⟩
  | thisReceiver _ => thisReceiver ⟨0, 0⟩
  | literal _ value => literal ⟨0, 0⟩ value
  | propertyRead _ receiver name => propertyRead ⟨0, 0⟩ receiver.unplaced name
  | keyedRead _ receiver key => keyedRead ⟨0, 0⟩ receiver.unplaced key.unplaced
  | call _ receiver args => call ⟨0, 0⟩ receiver.unplaced (unplacedAll args)
  | binary _ op left right => binary ⟨0, 0⟩ op left.unplaced right.unplaced
  | conditional _ condition whenTrue whenFalse =>
    conditional ⟨0, 0⟩ condition.unplaced whenTrue.unplaced whenFalse.unplaced
  | not _ operand => not ⟨0, 0⟩ operand.unplaced
  | pipe _ operand name args => pipe ⟨0, 0⟩ operand.unplaced name (unplacedAll args)

def unplacedAll : List Expr → List Expr
  | [] => []
  | e :: rest => e.unplaced :: unplacedAll rest

end

end Expr

-- ---------------------------------------------------------------------------
-- What can be written
-- ---------------------------------------------------------------------------

/-- Bare names that are not read as properties. -/
def Expression.keywords : List Chars :=
  ["true", "false", "null", "undefined", "this"].map String.toList

/-- A string is written if one of the quotes is not in it, an integer if it is short
enough to be read again. -/
def Literal.Writable : Literal → Prop
  | null | bool _ => True
  | int value => value < 10 ^ maxIntegerDigits
  | float _ => False
  | string body => '\x27' ∉ body ∨ '\x22' ∉ body

/-- Expressions that can be written. The receiver of a bare name has no place of its own. -/
inductive Expr.Writable : Expr → Prop
  | name {span receiver text} : (Terminal.name text).Formed → text ∉ keywords →
      Writable (.propertyRead span (.implicitReceiver receiver) text)
  | this {span} : Writable (.thisReceiver span)
  | literal {span value} : value.Writable → Writable (.literal span value)
  | property {span receiver text} : Writable receiver → (Terminal.name text).Formed →
      Writable (.propertyRead span receiver text)
  | keyed {span receiver key} : Writable receiver → Writable key →
      Writable (.keyedRead span receiver key)
  | call {span receiver args} : Writable receiver → (∀ arg ∈ args, Writable arg) →
      Writable (.call span receiver args)
  | binary {span op left right} : Writable left → Writable right →
      Writable (.binary span op left right)
  | conditional {span condition whenTrue whenFalse} : Writable condition →
      Writable whenTrue → Writable whenFalse →
      Writable (.conditional span condition whenTrue whenFalse)
  | not {span operand} : Writable operand → Writable (.not span operand)
  | pipe {span operand text args} : Writable operand → (Terminal.name text).Formed →
      (∀ arg ∈ args, Writable arg) → Writable (.pipe span operand text args)

namespace Expr

theorem Writable.not_isImplicit {e : Expr} (h : e.Writable) : ¬ e.IsImplicit := by
  rintro ⟨_, rfl⟩
  cases h

theorem terminals_property {receiver : Expr} (h : ¬ receiver.IsImplicit) (span : OffsetSpan)
    (text : Chars) :
    (propertyRead span receiver text).level = .chain ∧
      (propertyRead span receiver text).terminals =
        receiver.level.enclose .chain receiver.terminals ++ [.dot, .name text] := by
  cases receiver with
  | implicitReceiver span => exact absurd ⟨span, rfl⟩ h
  | _ => exact ⟨rfl, rfl⟩

theorem unplaced_ofName {span : OffsetSpan} {text : Chars} (h : text ∉ keywords) :
    (ofName span text).unplaced =
      .propertyRead ⟨0, 0⟩ (.implicitReceiver ⟨0, 0⟩) text := by
  have hne : ∀ word : String, word.toList ∈ keywords → String.ofList text ≠ word := by
    rintro word hw rfl
    exact h (by simpa using hw)
  unfold ofName
  split
  case h_6 => rfl
  all_goals exact absurd ‹_› (hne _ (by decide))

end Expr

namespace Expression

section
variable {level own asked tight loose : Level} {written : List Terminal} {span : OffsetSpan}
  {e : Expr}

-- ---------------------------------------------------------------------------
-- Reading what was written
-- ---------------------------------------------------------------------------

/-- Tokens with these terminals derive the expression, whatever their offsets. -/
def Reads (level : Level) (written : List Terminal) (e : Expr) : Prop :=
  ∀ ts : List Token, ts.map Token.terminal = written →
    ∃ read, Derives level ts read ∧ read.unplaced = e.unplaced

theorem Reads.loosen (h : Reads tight written e) (hl : loose.IsLevel)
    (hr : loose.rank ≤ tight.rank) : Reads loose written e := fun ts hts => by
  obtain ⟨read, hd, hread⟩ := h ts hts
  exact ⟨read, hd.loosen hl hr, hread⟩

theorem Reads.whole (h : Reads tight written e) : Reads .pipe written e :=
  h.loosen trivial (Nat.zero_le _)

theorem Reads.parens (h : Reads .pipe written e) :
    Reads .primary (.openParen :: (written ++ [.closeParen])) e := fun ts hts => by
  obtain ⟨opening, rest, rfl, ho, hrest⟩ := List.map_eq_cons_iff.mp hts
  obtain ⟨inner, last, rfl, hinner, hlast⟩ := List.map_eq_append_iff.mp hrest
  obtain ⟨closing, rfl, hc⟩ := List.map_eq_singleton_iff.mp hlast
  obtain ⟨read, hd, hread⟩ := h inner hinner
  exact ⟨read, .parens ho hd hc, hread⟩

theorem Reads.enclose (h : Reads own written e) (asked : Level) (hl : asked.IsLevel) :
    Reads asked (own.enclose asked written) e := by
  unfold Level.enclose
  split
  · exact h.whole.parens.loosen hl (Level.rank_le hl)
  · exact h.loosen hl (by omega)

theorem reads_token {terminal : Terminal}
    (h : ∀ token : Token, token.terminal = terminal →
      ∃ read, Derives level [token] read ∧ read.unplaced = e.unplaced) :
    Reads level [terminal] e := fun ts hts => by
  obtain ⟨token, rfl, ht⟩ := List.map_eq_singleton_iff.mp hts
  exact h token ht

theorem reads_arguments {mark : Terminal} {args : List Expr}
    (h : ∀ arg ∈ args, Reads asked (arg.level.enclose asked arg.terminals) arg)
    {ts : List Token} (hts : ts.map Token.terminal = Expr.argumentTerminals asked mark args) :
    ∃ read : List Argument, ts = argumentTokens read ∧
      (∀ arg ∈ read, arg.mark.terminal = mark) ∧
      (∀ arg ∈ read, Derives asked arg.tokens arg.expr) ∧
      Expr.unplacedAll (read.map Argument.expr) = Expr.unplacedAll args := by
  induction args generalizing ts with
  | nil => exact ⟨[], List.map_eq_nil_iff.mp hts, by simp, by simp, rfl⟩
  | cons arg rest ih =>
    rw [List.forall_mem_cons] at h
    obtain ⟨sign, behind, rfl, hmark, hbehind⟩ := List.map_eq_cons_iff.mp hts
    obtain ⟨first, more, rfl, hfirst, hmore⟩ := List.map_eq_append_iff.mp hbehind
    obtain ⟨e, hd, he⟩ := h.1 first hfirst
    obtain ⟨read, rfl, hmarks, hds, hread⟩ := ih h.2 hmore
    exact ⟨⟨sign, first, e⟩ :: read, rfl, List.forall_mem_cons.mpr ⟨hmark, hmarks⟩,
      List.forall_mem_cons.mpr ⟨hd, hds⟩, congrArg₂ List.cons he hread⟩

theorem digitValue?_of_isDigit {c : Char} (h : c.isDigit = true) :
    Text.digitValue? c = some (c.toNat - 48) := by
  obtain ⟨hlo, hhi⟩ : 48 ≤ c.toNat ∧ c.toNat ≤ 57 := by
    simpa [Char.isDigit, UInt32.le_iff_toNat_le] using h
  simp [Text.digitValue?, Text.zeroDigits, hlo, show c.toNat < 58 by omega]

theorem readDigits_of_isDigit {digits : Chars} (h : ∀ c ∈ digits, c.isDigit = true) (acc : Nat) :
    Text.readDigits acc digits = Nat.ofDigitChars 10 digits acc := by
  induction digits generalizing acc with
  | nil => rfl
  | cons c rest ih =>
    rw [List.forall_mem_cons] at h
    rw [Text.readDigits, digitValue?_of_isDigit h.1, ih h.2, Nat.ofDigitChars_cons, Nat.mul_comm]
    rfl

theorem readDigits_toDigits (n : Nat) : Text.readDigits 0 (Nat.toDigits 10 n) = n := by
  rw [readDigits_of_isDigit fun c => Nat.isDigit_of_mem_toDigits (by decide) (by decide)]
  exact Nat.ofDigitChars_ten_toDigits

theorem reads_literal {value : Literal} (h : value.Writable) :
    Reads .primary value.terminals (.literal span value) := by
  cases value with
  | null => exact reads_token fun token ht => ⟨_, .name ht, rfl⟩
  | bool value => cases value <;> exact reads_token fun token ht => ⟨_, .name ht, rfl⟩
  | int value =>
    refine reads_token fun token ht => ⟨_, .integer ht, ?_⟩
    rw [readDigits_toDigits]
    rfl
  | float value => exact h.elim
  | string body => exact reads_token fun token ht => ⟨_, .string ht, rfl⟩

theorem Reads.property {text : Chars} (h : Reads .chain written e) :
    Reads .chain (written ++ [.dot, .name text]) (.propertyRead span e text) := fun ts hts => by
  obtain ⟨receiver, behind, rfl, hreceiver, hbehind⟩ := List.map_eq_append_iff.mp hts
  obtain ⟨dot, rest, rfl, hdot, hrest⟩ := List.map_eq_cons_iff.mp hbehind
  obtain ⟨name, rfl, hname⟩ := List.map_eq_singleton_iff.mp hrest
  obtain ⟨read, hd, hread⟩ := h receiver hreceiver
  exact ⟨_, .property hd hdot hname, by simp only [Expr.unplaced, hread]⟩

theorem Reads.keyed {inner : List Terminal} {key : Expr}
    (h : Reads .chain written e) (hk : Reads .pipe inner key) :
    Reads .chain (written ++ .openBracket :: (inner ++ [.closeBracket]))
      (.keyedRead span e key) := fun ts hts => by
  obtain ⟨receiver, behind, rfl, hreceiver, hbehind⟩ := List.map_eq_append_iff.mp hts
  obtain ⟨opening, rest, rfl, ho, hrest⟩ := List.map_eq_cons_iff.mp hbehind
  obtain ⟨middle, last, rfl, hmiddle, hlast⟩ := List.map_eq_append_iff.mp hrest
  obtain ⟨closing, rfl, hc⟩ := List.map_eq_singleton_iff.mp hlast
  obtain ⟨read, hd, hread⟩ := h receiver hreceiver
  obtain ⟨k, hdk, hreadk⟩ := hk middle hmiddle
  exact ⟨_, .keyed hd ho hdk hc, by simp only [Expr.unplaced, hread, hreadk]⟩

theorem Reads.called (h : Reads .chain written e) :
    Reads .chain (written ++ [.openParen, .closeParen]) (.call span e []) := fun ts hts => by
  obtain ⟨receiver, behind, rfl, hreceiver, hbehind⟩ := List.map_eq_append_iff.mp hts
  obtain ⟨opening, rest, rfl, ho, hrest⟩ := List.map_eq_cons_iff.mp hbehind
  obtain ⟨closing, rfl, hc⟩ := List.map_eq_singleton_iff.mp hrest
  obtain ⟨read, hd, hread⟩ := h receiver hreceiver
  exact ⟨_, .called hd ho hc, by simp only [Expr.unplaced, hread]⟩

theorem Reads.calledWith {inner : List Terminal} {first : Expr} {args : List Expr}
    (h : Reads .chain written e) (hf : Reads .pipe inner first)
    (ha : ∀ arg ∈ args, Reads .pipe (arg.level.enclose .pipe arg.terminals) arg) :
    Reads .chain
      (written ++ .openParen ::
        (inner ++ (Expr.argumentTerminals .pipe .comma args ++ [.closeParen])))
      (.call span e (first :: args)) := fun ts hts => by
  obtain ⟨receiver, behind, rfl, hreceiver, hbehind⟩ := List.map_eq_append_iff.mp hts
  obtain ⟨opening, rest, rfl, ho, hrest⟩ := List.map_eq_cons_iff.mp hbehind
  obtain ⟨front, tail, rfl, hfront, htail⟩ := List.map_eq_append_iff.mp hrest
  obtain ⟨more, last, rfl, hmore, hlast⟩ := List.map_eq_append_iff.mp htail
  obtain ⟨closing, rfl, hc⟩ := List.map_eq_singleton_iff.mp hlast
  obtain ⟨read, hd, hread⟩ := h receiver hreceiver
  obtain ⟨f, hdf, hreadf⟩ := hf front hfront
  obtain ⟨others, rfl, hmarks, hds, hothers⟩ := reads_arguments ha hmore
  exact ⟨_, .calledWith hd ho hdf hmarks hds hc,
    by simp only [Expr.unplaced, Expr.unplacedAll, hread, hreadf, hothers]⟩

theorem Reads.binary {op : BinaryOp} {written' : List Terminal} {e' : Expr}
    (hl : Reads (.binary op.level) written e) (hr : Reads (.binary (op.level + 1)) written' e') :
    Reads (.binary op.level) (written ++ .operator op :: written')
      (.binary span op e e') := fun ts hts => by
  obtain ⟨left, behind, rfl, hleft, hbehind⟩ := List.map_eq_append_iff.mp hts
  obtain ⟨sign, right, rfl, hsign, hright⟩ := List.map_eq_cons_iff.mp hbehind
  obtain ⟨l, hdl, hreadl⟩ := hl left hleft
  obtain ⟨r, hdr, hreadr⟩ := hr right hright
  exact ⟨_, .operator hdl hsign hdr, by simp only [Expr.unplaced, hreadl, hreadr]⟩

theorem Reads.conditional {written₁ written₂ : List Terminal} {e₁ e₂ : Expr}
    (h : Reads (.binary 0) written e) (h₁ : Reads .conditional written₁ e₁)
    (h₂ : Reads .conditional written₂ e₂) :
    Reads .conditional (written ++ .question :: (written₁ ++ .colon :: written₂))
      (.conditional span e e₁ e₂) := fun ts hts => by
  obtain ⟨condition, behind, rfl, hcondition, hbehind⟩ := List.map_eq_append_iff.mp hts
  obtain ⟨question, rest, rfl, hq, hrest⟩ := List.map_eq_cons_iff.mp hbehind
  obtain ⟨yes, tail, rfl, hyes, htail⟩ := List.map_eq_append_iff.mp hrest
  obtain ⟨colon, no, rfl, hc, hno⟩ := List.map_eq_cons_iff.mp htail
  obtain ⟨c, hdc, hreadc⟩ := h condition hcondition
  obtain ⟨y, hdy, hready⟩ := h₁ yes hyes
  obtain ⟨n, hdn, hreadn⟩ := h₂ no hno
  exact ⟨_, .choice hdc hq hdy hc hdn, by simp only [Expr.unplaced, hreadc, hready, hreadn]⟩

theorem Reads.not (h : Reads .negation written e) :
    Reads .negation (.bang :: written) (.not span e) := fun ts hts => by
  obtain ⟨bang, rest, rfl, hb, hrest⟩ := List.map_eq_cons_iff.mp hts
  obtain ⟨read, hd, hread⟩ := h rest hrest
  exact ⟨_, .negated hb hd, by simp only [Expr.unplaced, hread]⟩

theorem Reads.pipe {text : Chars} {args : List Expr} (h : Reads .pipe written e)
    (ha : ∀ arg ∈ args, Reads .conditional (arg.level.enclose .conditional arg.terminals) arg) :
    Reads .pipe
      (written ++ .bar :: .name text :: Expr.argumentTerminals .conditional .colon args)
      (.pipe span e text args) := fun ts hts => by
  obtain ⟨operand, behind, rfl, hoperand, hbehind⟩ := List.map_eq_append_iff.mp hts
  obtain ⟨bar, rest, rfl, hb, hrest⟩ := List.map_eq_cons_iff.mp hbehind
  obtain ⟨name, more, rfl, hname, hmore⟩ := List.map_eq_cons_iff.mp hrest
  obtain ⟨read, hd, hread⟩ := h operand hoperand
  obtain ⟨others, rfl, hmarks, hds, hothers⟩ := reads_arguments ha hmore
  exact ⟨_, .piped hd hb hname hmarks hds, by simp only [Expr.unplaced, hread, hothers]⟩

theorem reads_terminals (h : e.Writable) : Reads e.level e.terminals e := by
  induction h with
  | name _ hk => exact reads_token fun token ht => ⟨_, .name ht, Expr.unplaced_ofName hk⟩
  | this => exact reads_token fun token ht => ⟨_, .name ht, rfl⟩
  | literal h => exact reads_literal h
  | property hr _ ih =>
    obtain ⟨hlevel, hterminals⟩ := Expr.terminals_property hr.not_isImplicit _ _
    rw [hlevel, hterminals]
    exact (ih.enclose .chain trivial).property
  | keyed _ _ ihr ihk => exact (ihr.enclose .chain trivial).keyed ihk.whole
  | @call _ _ args _ _ ihr iha =>
    have hreceiver := ihr.enclose .chain trivial
    cases args with
    | nil => exact hreceiver.called
    | cons first more =>
      rw [List.forall_mem_cons] at iha
      exact hreceiver.calledWith iha.1.whole fun arg harg => (iha.2 arg harg).enclose .pipe trivial
  | @binary _ op _ _ _ _ ihl ihr =>
    exact (ihl.enclose (.binary op.level) (Nat.le_of_lt op.level_lt_topLevel)).binary
      (ihr.enclose (.binary (op.level + 1)) op.level_lt_topLevel)
  | conditional _ _ _ ihc ihy ihn =>
    exact (ihc.enclose (.binary 0) (Nat.zero_le _)).conditional
      (ihy.enclose .conditional trivial) (ihn.enclose .conditional trivial)
  | not _ ih => exact (ih.enclose .negation trivial).not
  | pipe _ _ _ ih iha =>
    exact ih.whole.pipe fun arg harg => (iha arg harg).enclose .conditional trivial

-- ---------------------------------------------------------------------------
-- The text of the terminals
-- ---------------------------------------------------------------------------

def Terminal.Legible (t : Terminal) : Prop := t.Formed ∧ t.oversized = false

theorem forall_mem_enclose (h : ∀ t ∈ written, t.Legible) :
    ∀ t ∈ own.enclose asked written, t.Legible := by
  unfold Level.enclose
  split
  · simp only [List.forall_mem_cons, List.forall_mem_append]
    exact ⟨⟨trivial, rfl⟩, h, ⟨trivial, rfl⟩, by simp⟩
  · exact h

theorem legible_arguments {args : List Expr} (h : ∀ arg ∈ args, ∀ t ∈ arg.terminals, t.Legible)
    (mark : Terminal) (hm : mark.Legible) :
    ∀ t ∈ Expr.argumentTerminals asked mark args, t.Legible := by
  induction args with
  | nil => simp [Expr.argumentTerminals]
  | cons arg rest ih =>
    rw [List.forall_mem_cons] at h
    simp only [Expr.argumentTerminals, List.forall_mem_cons, List.forall_mem_append]
    exact ⟨hm, forall_mem_enclose h.1, ih h.2⟩

theorem legible_keyword {word : Chars} (h : word ∈ keywords) : (Terminal.name word).Legible := by
  have hall : ∀ word ∈ keywords, ∃ c rest, word = c :: rest ∧ isNameStart c = true ∧
      rest.all isNameChar = true := by
    simp [keywords, isNameStart, isNameChar]
  obtain ⟨c, rest, rfl, hc, hrest⟩ := hall word h
  exact ⟨⟨hc, List.all_eq_true.mp hrest⟩, rfl⟩

theorem legible_literal {value : Literal} (h : value.Writable) :
    ∀ t ∈ value.terminals, t.Legible := by
  cases value with
  | null => exact List.forall_mem_singleton.mpr (legible_keyword (by decide))
  | bool value =>
    cases value <;> exact List.forall_mem_singleton.mpr (legible_keyword (by decide))
  | int value =>
    refine List.forall_mem_singleton.mpr ⟨⟨Nat.toDigits_ne_nil, fun c hc => ?_⟩, ?_⟩
    · have hdigit := Nat.isDigit_of_mem_toDigits (by decide) (by decide) hc
      rw [Text.isDigit, digitValue?_of_isDigit hdigit]
      rfl
    · exact decide_eq_false
        (Nat.not_lt.mpr ((Nat.length_toDigits_le_iff (by decide) (by decide)).mpr h))
  | float value => exact h.elim
  | string body =>
    refine List.forall_mem_singleton.mpr ⟨?_, rfl⟩
    unfold quoteFor
    split
    · rename_i hq
      exact ⟨rfl, h.resolve_left (not_not_intro hq)⟩
    · rename_i hq
      exact ⟨rfl, hq⟩

theorem legible_terminals (h : e.Writable) : ∀ t ∈ e.terminals, t.Legible := by
  induction h with
  | name hf _ => exact List.forall_mem_singleton.mpr ⟨hf, rfl⟩
  | this => exact List.forall_mem_singleton.mpr (legible_keyword (by decide))
  | literal h => exact legible_literal h
  | property hr hf ih =>
    rw [(Expr.terminals_property hr.not_isImplicit _ _).2]
    simp only [List.forall_mem_append, List.forall_mem_cons]
    exact ⟨forall_mem_enclose ih, ⟨trivial, rfl⟩, ⟨hf, rfl⟩, by simp⟩
  | keyed _ _ ihr ihk =>
    simp only [Expr.terminals, List.forall_mem_append, List.forall_mem_cons]
    exact ⟨forall_mem_enclose ihr, ⟨trivial, rfl⟩, ihk, ⟨trivial, rfl⟩, by simp⟩
  | @call _ _ args _ _ ihr iha =>
    cases args with
    | nil =>
      simp only [Expr.terminals, List.forall_mem_append, List.forall_mem_cons]
      exact ⟨forall_mem_enclose ihr, ⟨trivial, rfl⟩, ⟨trivial, rfl⟩, by simp⟩
    | cons first more =>
      rw [List.forall_mem_cons] at iha
      simp only [Expr.terminals, List.forall_mem_append, List.forall_mem_cons]
      exact ⟨forall_mem_enclose ihr, ⟨trivial, rfl⟩, iha.1,
        legible_arguments iha.2 .comma ⟨trivial, rfl⟩, ⟨trivial, rfl⟩, by simp⟩
  | binary _ _ ihl ihr =>
    simp only [Expr.terminals, List.forall_mem_append, List.forall_mem_cons]
    exact ⟨forall_mem_enclose ihl, ⟨trivial, rfl⟩, forall_mem_enclose ihr⟩
  | conditional _ _ _ ihc ihy ihn =>
    simp only [Expr.terminals, List.forall_mem_append, List.forall_mem_cons]
    exact ⟨forall_mem_enclose ihc, ⟨trivial, rfl⟩, forall_mem_enclose ihy, ⟨trivial, rfl⟩,
      forall_mem_enclose ihn⟩
  | not _ ih =>
    simp only [Expr.terminals, List.forall_mem_cons]
    exact ⟨⟨trivial, rfl⟩, forall_mem_enclose ih⟩
  | pipe _ hf _ ih iha =>
    simp only [Expr.terminals, List.forall_mem_append, List.forall_mem_cons]
    exact ⟨ih, ⟨trivial, rfl⟩, ⟨hf, rfl⟩, legible_arguments iha .colon ⟨trivial, rfl⟩⟩

/-- Terminals right behind one another are cut where they meet. -/
theorem exists_cuts (h : ∀ t ∈ written, t.Legible) (pos : Int) :
    ∃ ts, Cuts pos (written.flatMap Terminal.written) ts ∧ ts.map Token.terminal = written := by
  induction written generalizing pos with
  | nil => exact ⟨[], .done (by simp [Ignored]), rfl⟩
  | cons t rest ih =>
    rw [List.forall_mem_cons] at h
    obtain ⟨ts, hc, hts⟩ := ih h.2 (pos + ([] : Chars).length + t.written.length)
    exact ⟨_, .token (by simp [Ignored]) h.1.1 hc, congrArg (List.cons t) hts⟩

-- ---------------------------------------------------------------------------
-- No parentheses too many
-- ---------------------------------------------------------------------------

theorem enclose_of_rank (h : asked.rank ≤ own.rank) : own.enclose asked written = written :=
  if_neg (Nat.not_lt.mpr h)

theorem enclose_self : own.enclose own written = written := enclose_of_rank (Nat.le_refl _)

theorem enclose_pipe : own.enclose .pipe written = written :=
  enclose_of_rank (Nat.zero_le _)

theorem length_enclose_le : (own.enclose asked written).length ≤ written.length + 2 := by
  unfold Level.enclose
  split <;> simp

theorem length_enclose_mono (h : loose.rank ≤ tight.rank) :
    (own.enclose loose written).length ≤ (own.enclose tight written).length := by
  by_cases hr : own.rank < tight.rank
  · have htight : (own.enclose tight written).length = written.length + 2 := by
      simp [Level.enclose, hr]
    exact htight ▸ length_enclose_le
  · rw [enclose_of_rank (Nat.not_lt.mp hr), enclose_of_rank (h.trans (Nat.not_lt.mp hr))]

theorem length_arguments {args : List Argument}
    (h : ∀ arg ∈ args,
      (arg.expr.level.enclose asked arg.expr.terminals).length ≤ arg.tokens.length)
    (mark : Terminal) :
    (Expr.argumentTerminals asked mark (args.map Argument.expr)).length ≤
      (argumentTokens args).length := by
  induction args with
  | nil => exact Nat.le_refl _
  | cons arg rest ih =>
    rw [List.forall_mem_cons] at h
    have hfirst := h.1
    have hrest := ih h.2
    simp only [List.map_cons, Expr.argumentTerminals, argumentTokens_cons, List.length_cons,
      List.length_append]
    omega

theorem enclose_ofName (span : OffsetSpan) (text : Chars) :
    ((Expr.ofName span text).level.enclose .primary (Expr.ofName span text).terminals).length =
      1 := by
  unfold Expr.ofName
  split <;> rfl

theorem length_own {n : Nat} (hl : e.level = level) (h : e.terminals.length ≤ n) :
    (e.level.enclose level e.terminals).length ≤ n := by
  rwa [hl, enclose_self]

theorem Derives.length_le {ts : List Token} (h : Derives level ts e) :
    (e.level.enclose level e.terminals).length ≤ ts.length := by
  induction h with
  | bare _ ih | plain _ ih | positive _ ih | single _ ih | operand _ ih =>
    exact (length_enclose_mono (by decide)).trans ih
  | tighter _ _ ih => exact (length_enclose_mono (by simp [Level.rank])).trans ih
  | piped _ _ _ _ _ ih iha =>
    have hargs := length_arguments iha .colon
    rw [enclose_pipe] at ih
    refine length_own rfl ?_
    simp only [Expr.terminals, List.length_append, List.length_cons]
    omega
  | choice _ _ _ _ _ ihc ihy ihn =>
    refine length_own rfl ?_
    simp only [Expr.terminals, List.length_append, List.length_cons]
    omega
  | operator _ _ _ ihl ihr =>
    refine length_own rfl ?_
    simp only [Expr.terminals, List.length_append, List.length_cons]
    omega
  | negated _ _ ih => exact length_own rfl (Nat.succ_le_succ ih)
  | property hd _ _ ih =>
    obtain ⟨hlevel, hterminals⟩ := Expr.terminals_property hd.not_isImplicit _ _
    refine length_own hlevel ?_
    rw [hterminals, List.length_append, List.length_append]
    exact Nat.add_le_add_right ih 2
  | keyed _ _ _ _ ihr ihk =>
    rw [enclose_pipe] at ihk
    refine length_own rfl ?_
    simp only [Expr.terminals, List.length_append, List.length_cons, List.length_nil]
    omega
  | called _ _ _ ih =>
    refine length_own rfl ?_
    simp only [Expr.terminals, List.length_append]
    exact Nat.add_le_add_right ih 2
  | calledWith _ _ _ _ _ _ ihr ihf iha =>
    have hargs := length_arguments iha .comma
    rw [enclose_pipe] at ihf
    refine length_own rfl ?_
    simp only [Expr.terminals, List.length_append, List.length_cons, List.length_nil]
    omega
  | name _ => exact (enclose_ofName _ _).le
  | integer _ | string _ => exact Nat.le_refl 1
  | decimal _ => exact Nat.zero_le 1
  | @parens ts e opening closing _ _ _ ih =>
    rw [enclose_pipe] at ih
    calc (e.level.enclose .primary e.terminals).length
      _ ≤ e.terminals.length + 2 := length_enclose_le
      _ ≤ ts.length + 2 := Nat.add_le_add_right ih 2
      _ = (opening :: (ts ++ [closing])).length := by simp

end

end Expression

namespace Expr

theorem isImplicit_unplaced {e : Expr} (h : e.unplaced.IsImplicit) : e.IsImplicit := by
  obtain ⟨_, h⟩ := h
  cases e with
  | implicitReceiver span => exact ⟨span, rfl⟩
  | _ => cases h

theorem level_unplaced (e : Expr) : e.unplaced.level = e.level := by
  cases e with
  | propertyRead _ receiver _ => cases receiver <;> rfl
  | _ => rfl

mutual

theorem terminals_unplaced : ∀ e : Expr, e.unplaced.terminals = e.terminals
  | empty _ | implicitReceiver _ | thisReceiver _ | literal _ _ => rfl
  | propertyRead span receiver name => by
    by_cases h : receiver.IsImplicit
    · obtain ⟨_, rfl⟩ := h
      rfl
    · rw [unplaced, (terminals_property h span name).2,
        (terminals_property (mt isImplicit_unplaced h) ⟨0, 0⟩ name).2, level_unplaced,
        terminals_unplaced receiver]
  | keyedRead _ receiver key => by
    simp only [unplaced, terminals, level_unplaced, terminals_unplaced receiver,
      terminals_unplaced key]
  | call _ receiver [] => by
    simp only [unplaced, unplacedAll, terminals, level_unplaced, terminals_unplaced receiver]
  | call _ receiver (first :: more) => by
    simp only [unplaced, unplacedAll, terminals, level_unplaced, terminals_unplaced receiver,
      terminals_unplaced first, argumentTerminals_unplacedAll .pipe .comma more]
  | binary _ op left right => by
    simp only [unplaced, terminals, level_unplaced, terminals_unplaced left,
      terminals_unplaced right]
  | conditional _ condition whenTrue whenFalse => by
    simp only [unplaced, terminals, level_unplaced, terminals_unplaced condition,
      terminals_unplaced whenTrue, terminals_unplaced whenFalse]
  | not _ operand => by
    simp only [unplaced, terminals, level_unplaced, terminals_unplaced operand]
  | pipe _ operand name args => by
    simp only [unplaced, terminals, terminals_unplaced operand,
      argumentTerminals_unplacedAll .conditional .colon args]

theorem argumentTerminals_unplacedAll (asked : Level) (mark : Terminal) : ∀ args : List Expr,
    argumentTerminals asked mark (unplacedAll args) = argumentTerminals asked mark args
  | [] => rfl
  | arg :: rest => by
    simp only [unplacedAll, argumentTerminals, level_unplaced, terminals_unplaced arg,
      argumentTerminals_unplacedAll asked mark rest]

end

theorem parse_of_cuts {e : Expr} (h : e.Writable) {text : Chars} {offset : Int} {ts : List Token}
    (hc : Cuts offset text ts) (hts : ts.map Token.terminal = e.terminals) :
    ∃ read, Expr.parse text offset = .ok read ∧ read.unplaced = e.unplaced := by
  obtain ⟨read, hd, hread⟩ := (reads_terminals h).whole ts hts
  have hbig : ts.any (·.terminal.oversized) = false := List.any_eq_false.mpr fun token ht => by
    simp [(legible_terminals h token.terminal (hts ▸ List.mem_map_of_mem ht)).2]
  refine ⟨read, ?_, hread⟩
  rw [parse_of_forms (hc.not_allBlank hd.ne_nil) ⟨hc, hd⟩, hbig]
  rfl

/-- Parsing what was written gives the expression back at other offsets, also if
ignored characters stand between its terminals. No text with fewer tokens gives it,
so none of the parentheses is written in vain. -/
theorem parse_print {e : Expr} (h : e.Writable) (offset : Int) :
    (∃ read, Expr.parse e.print offset = .ok read ∧ read.unplaced = e.unplaced) ∧
    (∀ text ts, Cuts offset text ts → ts.map Token.terminal = e.terminals →
      ∃ read, Expr.parse text offset = .ok read ∧ read.unplaced = e.unplaced) ∧
    ∀ text ts read, Forms text offset ts read → read.unplaced = e.unplaced →
      e.terminals.length ≤ ts.length := by
  obtain ⟨ts, hc, hts⟩ := exists_cuts (legible_terminals h) offset
  refine ⟨parse_of_cuts h hc hts, fun text ts => parse_of_cuts h, fun text ts read hf hread => ?_⟩
  have hlength := hf.2.length_le
  rwa [enclose_pipe, ← terminals_unplaced, hread, terminals_unplaced] at hlength

/-- Of the operands here only the pipe and the sum are looser than their places ask for. -/
theorem parse_print_operands :
    let s : OffsetSpan := ⟨0, 0⟩
    let bare (c : Char) : Expr := .propertyRead s (.implicitReceiver s) [c]
    let piped : Expr := .pipe s (bare 'a') ['b']
      [.conditional s (bare 'c') (.literal s (.string ['x'])) (.literal s (.int 50))]
    let sum : Expr := .binary s .plus (bare 'e') (bare 'f')
    let product : Expr := .binary s .times (.not s sum) (bare 'g')
    let e : Expr := .call s (.keyedRead s (.propertyRead s piped ['d']) product)
      [.literal s (.string "it's".toList), .literal s .null]
    e.Writable ∧ e.print = "(a|b:c?'x':50).d[!(e+f)*g](\"it's\",null)".toList ∧
      ∃ read, Expr.parse e.print 7 = .ok read ∧ read.unplaced = e.unplaced := by
  intro s bare piped sum product e
  have hname (c : Char) (hc : isNameStart c = true) : (Terminal.name [c]).Formed :=
    ⟨hc, by simp⟩
  have hbare (c : Char) (hc : isNameStart c = true) : (bare c).Writable :=
    .name (hname c hc) (by simp [keywords])
  have hint : (50 : Nat) < 10 ^ maxIntegerDigits :=
    Nat.lt_of_lt_of_le (by decide : 50 < 10 ^ 2) (Nat.pow_le_pow_right (by decide) (by decide))
  have hpiped : piped.Writable :=
    .pipe (hbare _ rfl) (hname _ rfl) (List.forall_mem_singleton.mpr
      (.conditional (hbare _ rfl) (.literal (.inl (by decide))) (.literal hint)))
  have hproduct : product.Writable :=
    .binary (.not (.binary (hbare _ rfl) (hbare _ rfl))) (hbare _ rfl)
  have he : e.Writable :=
    .call (.keyed (.property hpiped (hname _ rfl)) hproduct) (List.forall_mem_cons.mpr
      ⟨.literal (.inr (by decide)), List.forall_mem_singleton.mpr (.literal trivial)⟩)
  exact ⟨he, by cbv, (parse_print he 7).1⟩

end Expr

end TemplateTree
