import Mathlib.Data.List.TakeWhile
import TemplateTree.Proofs.Grammar

/-!
# The tokens of a text

Reading tokens from left to right, always the longest that fits, cuts a text
into terminals (`tokens_cuts`). Where a text can be cut into terminals that
follow one another as the grammar lets them, this is the cut that is found
(`Cuts.tokens_eq`), so no expression is lost to the order of reading.
-/

namespace TemplateTree.Expression

open Text (Chars)

-- ---------------------------------------------------------------------------
-- Terminals that are read have their form
-- ---------------------------------------------------------------------------

theorem takeNumber_formed {c : Char} {rest : Chars} (hc : Text.isDigit c = true) :
    (takeNumber (c :: rest)).1.Formed := by
  have hwhole : ∀ d ∈ (c :: rest).takeWhile Text.isDigit, Text.isDigit d = true :=
    fun d hd => List.mem_takeWhile_imp hd
  have hne : (c :: rest).takeWhile Text.isDigit ≠ [] := by simp [hc]
  unfold takeNumber
  dsimp only
  split
  · split
    · exact ⟨hne, hwhole⟩
    · rename_i hf
      exact ⟨⟨hne, hwhole⟩, by simpa using hf, fun d hd => List.mem_takeWhile_imp hd⟩
  · exact ⟨hne, hwhole⟩

theorem takeString?_formed {quote : Char} {text rest : Chars} {t : Terminal}
    (hq : isQuote quote = true) (h : takeString? quote text = some (t, rest)) : t.Formed := by
  unfold takeString? at h
  split at h
  · cases h
  · obtain ⟨rfl, rfl⟩ := Prod.mk.inj (Option.some.inj h)
    exact ⟨hq, fun hm => by simpa using List.mem_takeWhile_imp hm⟩

theorem operandToken?_formed {text rest : Chars} {t : Terminal}
    (h : operandToken? text = some (t, rest)) : t.Formed := by
  unfold operandToken? at h
  split at h
  · cases h
  · split at h
    · rename_i hc
      obtain ⟨rfl, rfl⟩ := Prod.mk.inj (Option.some.inj h)
      exact ⟨hc, fun d hd => List.mem_takeWhile_imp hd⟩
    · split at h
      · rename_i c tail _ hd
        have ht : (takeNumber (c :: tail)).1 = t := congrArg Prod.fst (Option.some.inj h)
        exact ht ▸ takeNumber_formed hd
      · split at h
        · rename_i hq
          exact takeString?_formed hq h
        · split at h
          all_goals cases h
          all_goals trivial

theorem operatorToken?_formed {text rest : Chars} {t : Terminal}
    (h : operatorToken? text = some (t, rest)) : t.Formed := by
  unfold operatorToken? at h
  split at h
  all_goals cases h
  all_goals trivial

theorem Expects.token?_formed {expects : Expects} {text rest : Chars} {t : Terminal}
    (h : expects.token? text = some (t, rest)) : t.Formed := by
  cases expects with
  | operand => exact operandToken?_formed h
  | operator => exact operatorToken?_formed h

theorem endingAt_complete {text : Chars} : endingAt text = .complete ↔ text = [] := by
  cases text <;> simp [endingAt]

theorem ignored_takeWhile (text : Chars) : Ignored (text.takeWhile isIgnored) :=
  fun _ hc => List.mem_takeWhile_imp hc

theorem tokens_of_none {expects : Expects} {pos : Int} {text body : Chars}
    (hd : text.dropWhile isIgnored = body) (h : expects.token? body = none) :
    tokens expects pos text = ([], endingAt body) := by
  subst hd
  rw [tokens]
  split
  · rfl
  · rename_i ht
    rw [h] at ht
    cases ht

theorem tokens_of_some {expects : Expects} {pos : Int} {text body rest : Chars} {t : Terminal}
    (hd : text.dropWhile isIgnored = body) (h : expects.token? body = some (t, rest)) :
    tokens expects pos text =
      let start := pos + (text.takeWhile isIgnored).length
      let stop := start + t.written.length
      (⟨t, start, stop⟩ :: (tokens t.next stop rest).1, (tokens t.next stop rest).2) := by
  subst hd
  rw [tokens]
  split
  · rename_i ht
    rw [h] at ht
    cases ht
  · rename_i ht
    rw [h] at ht
    cases ht
    rfl

theorem tokens_cuts {expects : Expects} {pos : Int} {text : Chars} {ts : List Token}
    (h : tokens expects pos text = (ts, .complete)) : Cuts pos text ts := by
  fun_induction tokens expects pos text generalizing ts with
  | case1 expects pos text body =>
    obtain ⟨rfl, he⟩ := Prod.mk.inj h
    have hsplit := List.takeWhile_append_dropWhile (p := isIgnored) (l := text)
    rw [show text.dropWhile isIgnored = [] from endingAt_complete.mp he, List.append_nil] at hsplit
    exact hsplit ▸ .done (ignored_takeWhile text)
  | case2 expects pos text start body terminal rest ht stop more ending hr =>
    rename_i ih
    obtain ⟨rfl, rfl⟩ := Prod.mk.inj h
    have hw : terminal.written ++ rest = text.dropWhile isIgnored := Expects.token?_written ht
    have hcut : Cuts pos _ _ :=
      .token (ignored_takeWhile text) (Expects.token?_formed ht) (ih hr)
    rw [hw, List.takeWhile_append_dropWhile] at hcut
    exact hcut

-- ---------------------------------------------------------------------------
-- What may follow what
-- ---------------------------------------------------------------------------

/-- What the grammar awaits behind a token. A name alone may follow a dot or a bar. -/
inductive Awaits where
  | operand
  | operator
  | name
  deriving DecidableEq, Repr

namespace Awaits

def expects : Awaits → Expects
  | operator => .operator
  | operand | name => .operand

def admits : Awaits → Terminal → Bool
  | operand, .name _ | operand, .integer _ | operand, .decimal _ _ | operand, .string _ _
  | operand, .bang | operand, .openParen | operand, .closeParen => true
  | operator, .dot | operator, .openBracket | operator, .closeBracket | operator, .openParen
  | operator, .closeParen | operator, .comma | operator, .colon | operator, .question
  | operator, .bar | operator, .operator _ => true
  | name, .name _ => true
  | _, _ => false

def after : Terminal → Awaits
  | .name _ | .integer _ | .decimal _ _ | .string _ _ | .closeParen | .closeBracket => operator
  | .dot | .bar => name
  | _ => operand

def run : Awaits → List Token → Option Awaits
  | awaits, [] => some awaits
  | awaits, token :: rest =>
    if awaits.admits token.terminal then (after token.terminal).run rest else none

theorem expects_after (t : Terminal) : (after t).expects = t.next := by
  cases t <;> rfl

theorem run_append (awaits : Awaits) (xs ys : List Token) :
    awaits.run (xs ++ ys) = (awaits.run xs).bind (·.run ys) := by
  induction xs generalizing awaits with
  | nil => rfl
  | cons token rest ih =>
    simp only [List.cons_append, run]
    split
    · exact ih _
    · rfl

theorem of_run_cons {awaits : Awaits} {token : Token} {rest : List Token}
    (h : (awaits.run (token :: rest)).isSome) :
    awaits.admits token.terminal = true ∧ ((after token.terminal).run rest).isSome := by
  simp only [run] at h
  split at h
  · rename_i ha
    exact ⟨ha, h⟩
  · cases h

theorem run_arguments {args : List Argument} {mark : Terminal}
    (hm : operator.admits mark = true) (ha : after mark = operand)
    (hmarks : ∀ arg ∈ args, arg.mark.terminal = mark)
    (hargs : ∀ arg ∈ args, operand.run arg.tokens = some operator) :
    operator.run (argumentTokens args) = some operator := by
  induction args with
  | nil => rfl
  | cons arg rest ih =>
    have hfirst : operator.run arg.all = some operator := by
      simp [Argument.all, run, hmarks arg (.head _), hm, ha, hargs arg (.head _)]
    have hrest := ih (fun a h => hmarks a (.tail _ h)) (fun a h => hargs a (.tail _ h))
    rw [argumentTokens, List.flatMap_cons, run_append, hfirst]
    exact hrest

end Awaits

/-- The tokens of an expression follow one another, and an operator may come next. -/
theorem Derives.run_tokens {level : Level} {ts : List Token} {e : Expr} (h : Derives level ts e) :
    Awaits.operand.run ts = some .operator := by
  induction h with
  | bare _ ih | plain _ ih | tighter _ _ ih | operand _ ih | positive _ ih | single _ ih => exact ih
  | piped _ hb hn hm _ ih iha =>
    have hargs := Awaits.run_arguments rfl rfl hm iha
    simp [Awaits.run_append, ih, Awaits.run, hb, hn, Awaits.admits, Awaits.after, hargs]
  | choice _ hq _ hc _ ihc ihy ihn =>
    simp [Awaits.run_append, ihc, ihy, ihn, Awaits.run, hq, hc, Awaits.admits, Awaits.after]
  | operator _ hs _ ihl ihr =>
    simp [Awaits.run_append, ihl, ihr, Awaits.run, hs, Awaits.admits, Awaits.after]
  | negated hb _ ih => simp [Awaits.run, hb, Awaits.admits, Awaits.after, ih]
  | property _ hd hn ih =>
    simp [Awaits.run_append, ih, Awaits.run, hd, hn, Awaits.admits, Awaits.after]
  | keyed _ ho _ hc ih ihk =>
    simp [Awaits.run_append, ih, ihk, Awaits.run, ho, hc, Awaits.admits, Awaits.after]
  | called _ ho hc ih =>
    simp [Awaits.run_append, ih, Awaits.run, ho, hc, Awaits.admits, Awaits.after]
  | calledWith _ ho _ hm _ hc ih ihf iha =>
    have hargs := Awaits.run_arguments rfl rfl hm iha
    simp [Awaits.run_append, ih, ihf, hargs, Awaits.run, ho, hc, Awaits.admits, Awaits.after]
  | parens ho _ hc ih =>
    simp [Awaits.run_append, ih, Awaits.run, ho, hc, Awaits.admits, Awaits.after]
  | name h | integer h | decimal h | string h =>
    simp [Awaits.run, h, Awaits.admits, Awaits.after]

-- ---------------------------------------------------------------------------
-- Characters that tell tokens apart
-- ---------------------------------------------------------------------------

theorem isDigit_range {c : Char} (h : Text.isDigit c = true) :
    (48 ≤ c.toNat ∧ c.toNat ≤ 57) ∨ 1632 ≤ c.toNat := by
  have hrows : ∀ origin ∈ Text.zeroDigits, origin = 48 ∨ 1632 ≤ origin := by decide
  simp only [Text.isDigit, Text.digitValue?, Option.isSome_map, List.find?_isSome,
    Bool.and_eq_true, decide_eq_true_eq] at h
  obtain ⟨origin, hm, hlo, hhi⟩ := h
  have := hrows origin hm
  omega

theorem isNameStart_range {c : Char} (h : isNameStart c = true) :
    c.toNat = 36 ∨ (65 ≤ c.toNat ∧ c.toNat ≤ 122) := by
  have halpha : c.isAlpha = (c.isUpper || c.isLower) := rfl
  simp only [isNameStart, halpha, Bool.or_eq_true, beq_iff_eq] at h
  rcases h with ((hu | hl) | rfl) | rfl
  · obtain ⟨h₁, h₂⟩ : 'A'.val ≤ c.val ∧ c.val ≤ 'Z'.val := of_decide_eq_true hu
    exact .inr ⟨UInt32.le_iff_toNat_le.mp h₁,
      Nat.le_trans (UInt32.le_iff_toNat_le.mp h₂) (by decide)⟩
  · obtain ⟨h₁, h₂⟩ := Bool.and_eq_true_iff.mp hl
    exact .inr ⟨Nat.le_trans (by decide) (UInt32.le_iff_toNat_le.mp (of_decide_eq_true h₁)),
      UInt32.le_iff_toNat_le.mp (of_decide_eq_true h₂)⟩
  · exact .inr (by decide)
  · exact .inl rfl

theorem isNameStart_of_isDigit {c : Char} (h : Text.isDigit c = true) : isNameStart c = false := by
  by_contra hn
  have hd := isDigit_range h
  have hn := isNameStart_range (by simpa using hn)
  omega

theorem isIgnored_cases {c : Char} (h : isIgnored c = true) :
    isNameChar c = false ∧ Text.isDigit c = false := by
  simp only [isIgnored, Bool.or_eq_true, beq_iff_eq] at h
  rcases h with (((rfl | rfl) | rfl) | rfl) | rfl <;> decide

def Awaits.starts : Awaits → Char → Bool
  | .operator, c => ".[](),:?|&=!<>+-*/%".toList.contains c
  | .operand, c => isNameStart c || Text.isDigit c || "'\"!()".toList.contains c
  | .name, c => isNameStart c

theorem Awaits.starts_operator {c : Char} (h : Awaits.operator.starts c = true) :
    isNameChar c = false ∧ Text.isDigit c = false ∧ isIgnored c = false := by
  have hall : ".[](),:?|&=!<>+-*/%".toList.all (fun d =>
      !isNameChar d && (!Text.isDigit d && !isIgnored d)) = true := by decide
  simpa using List.all_eq_true.mp hall c (List.contains_iff_mem.mp h)

theorem Awaits.starts_operand {c : Char} (h : Awaits.operand.starts c = true) :
    c ≠ '=' ∧ c ≠ '|' ∧ isIgnored c = false := by
  have hcode : c.toNat ≠ 61 ∧ c.toNat ≠ 124 ∧ c.toNat ≠ 32 ∧ 13 < c.toNat := by
    simp only [starts, Bool.or_eq_true] at h
    rcases h with (hn | hd) | hs
    · have := isNameStart_range hn
      omega
    · have := isDigit_range hd
      omega
    · have hall : "'\"!()".toList.all (fun d =>
          d.toNat ≠ 61 ∧ d.toNat ≠ 124 ∧ d.toNat ≠ 32 ∧ 13 < d.toNat) = true := by decide
      exact of_decide_eq_true (List.all_eq_true.mp hall c (List.contains_iff_mem.mp hs))
  obtain ⟨heq, hbar, hspace, hlow⟩ := hcode
  refine ⟨fun he => heq (he ▸ rfl), fun he => hbar (he ▸ rfl), ?_⟩
  by_contra hi
  simp only [isIgnored, Bool.not_eq_false, Bool.or_eq_true, beq_iff_eq] at hi
  rcases hi with (((rfl | rfl) | rfl) | rfl) | rfl
  · exact hspace rfl
  all_goals exact absurd hlow (by decide)

theorem Awaits.starts_name {c : Char} (h : Awaits.name.starts c = true) :
    Awaits.operand.starts c = true := by
  simp only [starts] at h ⊢
  simp [h]

theorem Awaits.not_ignored {awaits : Awaits} {c : Char} (h : awaits.starts c = true) :
    isIgnored c = false := by
  cases awaits with
  | operand => exact (starts_operand h).2.2
  | operator => exact (starts_operator h).2.2
  | name => exact (starts_operand (starts_name h)).2.2

theorem Awaits.starts_of_admits {awaits : Awaits} {t : Terminal} (ha : awaits.admits t = true)
    (hf : t.Formed) : ∃ c tail, t.written = c :: tail ∧ awaits.starts c = true := by
  cases t with
  | name text =>
    cases text with
    | nil => exact hf.elim
    | cons c rest =>
      refine ⟨c, rest, rfl, ?_⟩
      cases awaits with
      | operator => cases ha
      | operand => simp [starts, hf.1]
      | name => exact hf.1
  | integer digits =>
    cases digits with
    | nil => exact (hf.1 rfl).elim
    | cons c rest =>
      refine ⟨c, rest, rfl, ?_⟩
      cases awaits with
      | operand => simp [starts, hf.2 c (.head _)]
      | operator | name => cases ha
  | decimal whole fraction =>
    cases whole with
    | nil => exact (hf.1.1 rfl).elim
    | cons c rest =>
      refine ⟨c, _, rfl, ?_⟩
      cases awaits with
      | operand => simp [starts, hf.1.2 c (.head _)]
      | operator | name => cases ha
  | string quote body =>
    refine ⟨quote, _, rfl, ?_⟩
    cases awaits with
    | operand =>
      have hq := hf.1
      simp only [isQuote, Bool.or_eq_true, beq_iff_eq] at hq
      rcases hq with rfl | rfl <;> rfl
    | operator | name => cases ha
  | operator op =>
    cases awaits with
    | operator => cases op <;> exact ⟨_, _, rfl, rfl⟩
    | operand | name => cases ha
  | _ =>
    cases awaits
    all_goals first | exact ⟨_, _, rfl, rfl⟩ | cases ha

-- ---------------------------------------------------------------------------
-- The longest token that fits is the right one
-- ---------------------------------------------------------------------------

theorem takeWhile_append_stop {p : Char → Bool} {x y : Chars} (hx : ∀ c ∈ x, p c = true)
    (hy : ∀ c ∈ y.head?, p c = false) :
    (x ++ y).takeWhile p = x ∧ (x ++ y).dropWhile p = y := by
  rw [List.takeWhile_append_of_pos hx, List.dropWhile_append_of_pos hx]
  cases y with
  | nil => simp
  | cons c rest => simp [hy c rfl]

/-- What stands behind a terminal does not make it longer. -/
def Terminal.EndsBefore (rest : Chars) : Terminal → Prop
  | name _ => ∀ c ∈ rest.head?, isNameChar c = false
  | integer _ => (∀ c ∈ rest.head?, Text.isDigit c = false) ∧
      ∀ c tail, rest = '.' :: c :: tail → Text.isDigit c = false
  | decimal _ _ => ∀ c ∈ rest.head?, Text.isDigit c = false
  | bar => rest.head? ≠ some '|'
  | operator _ => rest.head? ≠ some '='
  | _ => True

theorem takeNumber_integer {digits rest : Chars} (hf : (Terminal.integer digits).Formed)
    (he : (Terminal.integer digits).EndsBefore rest) :
    takeNumber (digits ++ rest) = (.integer digits, rest) := by
  obtain ⟨ht, hd⟩ := takeWhile_append_stop hf.2 he.1
  simp only [takeNumber, ht, hd]
  split
  · rename_i tail
    have hfraction : tail.takeWhile Text.isDigit = [] := by
      cases tail with
      | nil => rfl
      | cons c more => simp [he.2 c more rfl]
    simp [hfraction]
  · rfl

theorem takeNumber_decimal {whole fraction rest : Chars}
    (hf : (Terminal.decimal whole fraction).Formed)
    (he : (Terminal.decimal whole fraction).EndsBefore rest) :
    takeNumber (whole ++ '.' :: (fraction ++ rest)) = (.decimal whole fraction, rest) := by
  have hdot : ∀ c ∈ ('.' :: (fraction ++ rest)).head?, Text.isDigit c = false := by
    rintro c ⟨⟩
    decide
  obtain ⟨ht, hd⟩ := takeWhile_append_stop hf.1.2 hdot
  obtain ⟨ht', hd'⟩ := takeWhile_append_stop hf.2.2 he
  simp [takeNumber, ht, hd, ht', hd', hf.2.1]

theorem takeString?_string {quote : Char} {body : Chars} (hb : quote ∉ body) (rest : Chars) :
    takeString? quote (body ++ quote :: rest) = some (.string quote body, rest) := by
  have hx : ∀ c ∈ body, (c != quote) = true := by
    intro c hc
    simp only [bne_iff_ne]
    rintro rfl
    exact hb hc
  obtain ⟨ht, hd⟩ := takeWhile_append_stop (y := quote :: rest) hx (by rintro c ⟨⟩; simp)
  simp [takeString?, ht, hd]

theorem token?_written_append {awaits : Awaits} {t : Terminal} {rest : Chars}
    (ha : awaits.admits t = true) (hf : t.Formed) (he : t.EndsBefore rest) :
    awaits.expects.token? (t.written ++ rest) = some (t, rest) := by
  cases t with
  | name text =>
    cases text with
    | nil => exact hf.elim
    | cons c tail =>
      obtain ⟨ht, hd⟩ := takeWhile_append_stop hf.2 he
      have hread : operandToken? (c :: (tail ++ rest)) = some (.name (c :: tail), rest) := by
        simp [operandToken?, hf.1, ht, hd]
      cases awaits with
      | operator => cases ha
      | operand | name => exact hread
  | integer digits =>
    cases digits with
    | nil => exact (hf.1 rfl).elim
    | cons c tail =>
      have hc := hf.2 c (.head _)
      have hn := takeNumber_integer hf he
      cases awaits with
      | operator | name => cases ha
      | operand =>
        simp only [Awaits.expects, Expects.token?, Terminal.written, List.cons_append] at hn ⊢
        simp [operandToken?, isNameStart_of_isDigit hc, hc, hn]
  | decimal whole fraction =>
    cases whole with
    | nil => exact (hf.1.1 rfl).elim
    | cons c tail =>
      have hc := hf.1.2 c (.head _)
      have hn := takeNumber_decimal hf he
      cases awaits with
      | operator | name => cases ha
      | operand =>
        simp only [Awaits.expects, Expects.token?, Terminal.written, List.cons_append] at hn ⊢
        simp [operandToken?, isNameStart_of_isDigit hc, hc, hn]
  | string quote body =>
    have hread := takeString?_string hf.2 rest
    have hq := hf.1
    cases awaits with
    | operator | name => cases ha
    | operand =>
      have hn : isNameStart quote = false ∧ Text.isDigit quote = false := by
        simp only [isQuote, Bool.or_eq_true, beq_iff_eq] at hq
        rcases hq with rfl | rfl <;> decide
      simp [Awaits.expects, Expects.token?, Terminal.written, operandToken?, hn.1, hn.2, hq, hread]
  | bar =>
    cases awaits with
    | operand | name => cases ha
    | operator =>
      cases rest with
      | nil => rfl
      | cons c more =>
        have hc : c ≠ '|' := by simpa [Terminal.EndsBefore] using he
        simp [Awaits.expects, Expects.token?, Terminal.written, operatorToken?, hc]
  | operator op =>
    cases awaits with
    | operand | name => cases ha
    | operator =>
      cases rest with
      | nil => cases op <;> rfl
      | cons c more =>
        have hc : c ≠ '=' := by simpa [Terminal.EndsBefore] using he
        cases op <;>
          simp [Awaits.expects, Expects.token?, Terminal.written, BinaryOp.symbol,
            operatorToken?, hc]
  | _ =>
    cases awaits
    all_goals first | rfl | cases ha

theorem Cuts.head_starts {pos : Int} {text : Chars} {ts : List Token} {awaits : Awaits}
    (h : Cuts pos text ts) (hr : (awaits.run ts).isSome) :
    ∀ c ∈ text.head?, isIgnored c = true ∨ awaits.starts c = true := by
  intro c hc
  cases h with
  | done hgap => exact .inl (hgap c (List.mem_of_mem_head? hc))
  | @token _ gap terminal rest tokens hgap hf hcut =>
    cases gap with
    | cons d more =>
      cases hc
      exact .inl (hgap c (.head _))
    | nil =>
      obtain ⟨d, tail, hw, hd⟩ := Awaits.starts_of_admits (Awaits.of_run_cons hr).1 hf
      rw [hw] at hc
      cases hc
      exact .inr hd

/-- Only a dot starts with a point where an operator is awaited, and a name follows it. -/
theorem Cuts.behind_point {pos : Int} {rest : Chars} {ts : List Token}
    (h : Cuts pos ('.' :: rest) ts) (hr : (Awaits.operator.run ts).isSome) :
    ∃ pos' ts', Cuts pos' rest ts' ∧ (Awaits.name.run ts').isSome := by
  generalize htext : '.' :: rest = text at h
  cases h with
  | done hgap =>
    subst htext
    exact absurd (hgap '.' (.head _)) (by decide)
  | @token _ gap terminal after tokens hgap hf hcut =>
    cases gap with
    | cons d more =>
      obtain ⟨rfl, -⟩ := List.cons.inj htext
      exact absurd (hgap '.' (.head _)) (by decide)
    | nil =>
      cases terminal with
      | dot =>
        obtain ⟨-, rfl⟩ := List.cons.inj htext
        exact ⟨_, _, hcut, hr⟩
      | operator op => cases op <;> simp [Terminal.written, BinaryOp.symbol] at htext
      | _ => simp [Terminal.written, Awaits.run, Awaits.admits] at htext hr

/-- Behind a token of a cut text stands nothing that would make it longer. -/
theorem Cuts.endsBefore {pos : Int} {rest : Chars} {ts : List Token} {t : Terminal}
    (h : Cuts pos rest ts) (hr : ((Awaits.after t).run ts).isSome) : t.EndsBefore rest := by
  have hstart := h.head_starts hr
  cases t with
  | name text =>
    intro c hc
    rcases hstart c hc with hi | hs
    · exact (isIgnored_cases hi).1
    · exact (Awaits.starts_operator hs).1
  | integer digits =>
    refine ⟨?_, ?_⟩
    · intro c hc
      rcases hstart c hc with hi | hs
      · exact (isIgnored_cases hi).2
      · exact (Awaits.starts_operator hs).2.1
    · rintro c tail rfl
      obtain ⟨_, _, hcut, hname⟩ := h.behind_point hr
      rcases hcut.head_starts hname c rfl with hi | hs
      · exact (isIgnored_cases hi).2
      · by_contra hd
        have hn := isNameStart_of_isDigit (by simpa using hd)
        exact absurd hs (by simp [Awaits.starts, hn])
  | decimal whole fraction =>
    intro c hc
    rcases hstart c hc with hi | hs
    · exact (isIgnored_cases hi).2
    · exact (Awaits.starts_operator hs).2.1
  | bar =>
    intro hc
    rcases hstart '|' hc with hi | hs
    · exact absurd hi (by decide)
    · exact absurd hs (by decide)
  | operator op =>
    intro hc
    rcases hstart '=' hc with hi | hs
    · exact absurd hi (by decide)
    · exact (Awaits.starts_operand hs).1 rfl
  | _ => trivial

/-- A cut of a text whose tokens follow one another is the one that is read. -/
theorem Cuts.tokens_eq {pos : Int} {text : Chars} {ts : List Token} {awaits : Awaits}
    (h : Cuts pos text ts) (hr : (awaits.run ts).isSome) :
    tokens awaits.expects pos text = (ts, .complete) := by
  induction h generalizing awaits with
  | @done pos gap hgap =>
    have hd : gap.dropWhile isIgnored = [] := List.dropWhile_eq_nil_iff.mpr hgap
    exact tokens_of_none hd (by cases awaits <;> rfl)
  | @token pos gap terminal rest tokens hgap hf hcut ih =>
    obtain ⟨ha, hrest⟩ := Awaits.of_run_cons hr
    have hread := token?_written_append ha hf (hcut.endsBefore hrest)
    obtain ⟨c, tail, hw, hc⟩ := Awaits.starts_of_admits ha hf
    obtain ⟨ht, hd⟩ := takeWhile_append_stop (y := terminal.written ++ rest) hgap (by
      rw [hw]
      rintro _ ⟨⟩
      exact Awaits.not_ignored hc)
    have hmore := ih hrest
    rw [Awaits.expects_after] at hmore
    simp only [tokens_of_some hd hread, ht, hmore]

end TemplateTree.Expression
