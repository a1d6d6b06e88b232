import Mathlib.Data.List.DropRight
import TemplateTree.Markup.Directive
import TemplateTree.Proofs.Accepted

/-!
# Delimiters and blanks around expressions

Expressions are cut out of a template before their tokens are known. The marks at
which this is done stand in no token but a string, so a cut inside an expression
leaves a quote open (`Cuts.odd_quotes`) and nothing comes of it. Blanks at both
ends of an expression can be cut off (`Expr.parse_trim`), and no expression starts
like a clause of a directive (`Cuts.plain_clause`).
-/

namespace TemplateTree.Expression

open Text (Chars isBlank)

-- ---------------------------------------------------------------------------
-- The characters of tokens
-- ---------------------------------------------------------------------------

def isTokenChar (c : Char) : Bool :=
  isNameChar c || Text.isDigit c || ".[](),:?|&=!<>+-*/%".toList.contains c

/-- Marks at which expressions are cut out of a template. -/
def isDelimiter (c : Char) : Bool := c == ';' || c == '\x7d'

theorem isNameChar_eq (c : Char) : isNameChar c = (isNameStart c || c.isDigit) := by
  unfold isNameChar isNameStart Char.isAlphanum
  cases c.isAlpha <;> cases c.isDigit <;> simp

theorem Terminal.Formed.isTokenChar {t : Terminal} (h : t.Formed) :
    (∃ quote body, t = .string quote body) ∨ ∀ c ∈ t.written, isTokenChar c = true := by
  cases t with
  | string quote body => exact .inl ⟨quote, body, rfl⟩
  | name text =>
    cases text with
    | nil => exact h.elim
    | cons c rest =>
      refine .inr (List.forall_mem_cons.mpr ⟨?_, fun d hd => ?_⟩)
      · simp [Expression.isTokenChar, isNameChar_eq, h.1]
      · simp [Expression.isTokenChar, h.2 d hd]
  | integer digits => exact .inr fun c hc => by simp [Expression.isTokenChar, h.2 c hc]
  | decimal whole fraction =>
    refine .inr fun c hc => ?_
    rcases List.mem_append.mp hc with hc | hc
    · simp [Expression.isTokenChar, h.1.2 c hc]
    · rcases List.mem_cons.mp hc with rfl | hc
      · rfl
      · simp [Expression.isTokenChar, h.2.2 c hc]
  | operator op => exact .inr (List.all_eq_true.mp (by cases op <;> decide))
  | _ => exact .inr (List.all_eq_true.mp (by decide))

theorem isBlank_of_isIgnored {c : Char} (h : isIgnored c = true) : isBlank c = true := by
  simp only [isIgnored, Bool.or_eq_true, beq_iff_eq] at h
  rcases h with (((rfl | rfl) | rfl) | rfl) | rfl <;> decide

theorem not_isBlank_of_isDigit {c : Char} (h : Text.isDigit c = true) : isBlank c = false := by
  have hrows : ∀ origin ∈ Text.zeroDigits, ∀ k < 10,
      Text.within Text.blankBorders (origin + k) = false := by decide +kernel
  simp only [Text.isDigit, Text.digitValue?, Option.isSome_map, List.find?_isSome,
    Bool.and_eq_true, decide_eq_true_eq] at h
  obtain ⟨origin, hm, hlo, hhi⟩ := h
  have := hrows origin hm (c.toNat - origin) (by omega)
  rwa [Nat.add_sub_cancel' hlo] at this

theorem not_isBlank_of_range {c : Char} (h : 33 ≤ c.toNat ∧ c.toNat ≤ 126) : isBlank c = false := by
  have hall : ∀ n ≤ 126, 33 ≤ n → Text.within Text.blankBorders n = false := by decide +kernel
  exact hall c.toNat h.2 h.1

theorem isNameChar_range {c : Char} (h : isNameChar c = true) :
    c.toNat = 36 ∨ (48 ≤ c.toNat ∧ c.toNat ≤ 57) ∨ (65 ≤ c.toNat ∧ c.toNat ≤ 122) := by
  rw [isNameChar_eq, Bool.or_eq_true] at h
  rcases h with hs | hd
  · have := isNameStart_range hs
    omega
  · obtain ⟨h₁, h₂⟩ := Bool.and_eq_true_iff.mp hd
    exact .inr (.inl ⟨UInt32.le_iff_toNat_le.mp (of_decide_eq_true h₁),
      UInt32.le_iff_toNat_le.mp (of_decide_eq_true h₂)⟩)

theorem isTokenChar_solid {c : Char} (h : isTokenChar c = true) :
    isBlank c = false ∧ isQuote c = false ∧ isDelimiter c = false := by
  have hcode : c.toNat ≠ 34 ∧ c.toNat ≠ 39 ∧ c.toNat ≠ 59 ∧ c.toNat ≠ 125 ∧ isBlank c = false := by
    simp only [isTokenChar, Bool.or_eq_true] at h
    rcases h with (hn | hd) | hs
    · have hrange := isNameChar_range hn
      refine ⟨by omega, by omega, by omega, by omega, not_isBlank_of_range (by omega)⟩
    · have hrange := isDigit_range hd
      refine ⟨by omega, by omega, by omega, by omega, not_isBlank_of_isDigit hd⟩
    · have hall : ".[](),:?|&=!<>+-*/%".toList.all (fun d =>
          d.toNat ≠ 34 ∧ d.toNat ≠ 39 ∧ d.toNat ≠ 59 ∧ d.toNat ≠ 125 ∧
            isBlank d = false) = true := by
        decide
      exact of_decide_eq_true (List.all_eq_true.mp hall c (List.contains_iff_mem.mp hs))
  obtain ⟨hdouble, hsingle, hsemicolon, hbrace, hblank⟩ := hcode
  refine ⟨hblank, ?_, ?_⟩
  · simp only [isQuote, Bool.or_eq_false_iff, beq_eq_false_iff_ne]
    exact ⟨fun he => hsingle (he ▸ rfl), fun he => hdouble (he ▸ rfl)⟩
  · simp only [isDelimiter, Bool.or_eq_false_iff, beq_eq_false_iff_ne]
    exact ⟨fun he => hsemicolon (he ▸ rfl), fun he => hbrace (he ▸ rfl)⟩

theorem isQuote_solid {c : Char} (h : isQuote c = true) :
    isBlank c = false ∧ isDelimiter c = false := by
  simp only [isQuote, Bool.or_eq_true, beq_iff_eq] at h
  rcases h with rfl | rfl <;> decide

theorem isIgnored_solid {c : Char} (h : isIgnored c = true) :
    isQuote c = false ∧ isDelimiter c = false := by
  simp only [isIgnored, Bool.or_eq_true, beq_iff_eq] at h
  rcases h with (((rfl | rfl) | rfl) | rfl) | rfl <;> decide

-- ---------------------------------------------------------------------------
-- Quotes
-- ---------------------------------------------------------------------------

theorem append_eq_append_cons {xs ys before after : Chars} {c : Char}
    (h : xs ++ ys = before ++ c :: after) :
    (∃ more, xs = before ++ c :: more ∧ after = more ++ ys) ∨
      ∃ more, before = xs ++ more ∧ ys = more ++ c :: after := by
  rcases List.append_eq_append_iff.mp h with ⟨more, hb, hy⟩ | ⟨more, hx, hc⟩
  · exact .inr ⟨more, hb, hy⟩
  · rcases List.cons_eq_append_iff.mp hc with ⟨rfl, hy⟩ | ⟨rest, rfl, ha⟩
    · exact .inr ⟨[], by simpa using hx.symm, hy⟩
    · exact .inl ⟨rest, hx, ha⟩

theorem eq_single_of_isQuote {quote : Char} (h : isQuote quote = true) (hd : quote ≠ '\x22') :
    quote = '\x27' := by
  simpa [isQuote, hd] using h

theorem Ignored.count_quote {gap : Chars} (h : Ignored gap) : gap.count '\x27' = 0 :=
  List.count_eq_zero.mpr fun hm => absurd (isIgnored_solid (h _ hm)).1 (by decide)

section
variable {t : Terminal} (h : t.Formed) (hq : '\x22' ∉ t.written)
include h hq

theorem Terminal.Formed.even_quotes : t.written.count '\x27' % 2 = 0 := by
  rcases h.isTokenChar with ⟨quote, body, rfl⟩ | hchars
  · obtain rfl : quote = '\x27' := eq_single_of_isQuote h.1 fun he => hq (he ▸ .head _)
    simp [written, List.count_eq_zero.mpr h.2]
  · have hnone : '\x27' ∉ t.written :=
      fun hm => absurd (isTokenChar_solid (hchars _ hm)).2.1 (by decide)
    rw [List.count_eq_zero.mpr hnone]

/-- A delimiter in a token is between the quotes of a string. -/
theorem Terminal.Formed.odd_quotes {before after : Chars} {c : Char} (hc : isDelimiter c = true)
    (hw : t.written = before ++ c :: after) : before.count '\x27' % 2 = 1 := by
  rcases h.isTokenChar with ⟨quote, body, rfl⟩ | hchars
  · have hne : c ≠ quote := by
      rintro rfl
      rw [(isQuote_solid h.1).2] at hc
      cases hc
    obtain rfl : quote = '\x27' := eq_single_of_isQuote h.1 fun he => hq (he ▸ .head _)
    cases before with
    | nil => exact absurd (List.cons.inj hw).1.symm hne
    | cons d more =>
      obtain ⟨rfl, hbody⟩ := List.cons.inj hw
      have hmore : '\x27' ∉ more := by
        rcases append_eq_append_cons hbody with ⟨rest, hb, -⟩ | ⟨rest, -, hb⟩
        · exact fun hm => h.2 (hb ▸ List.mem_append_left _ hm)
        · rcases List.append_eq_singleton_iff.mp hb.symm with ⟨-, he⟩ | ⟨-, he⟩
          · exact absurd (List.cons.inj he).1 hne
          · cases he
      simp [List.count_eq_zero.mpr hmore]
  · have hsolid := (isTokenChar_solid (hchars c (by simp [hw]))).2.2
    rw [hc] at hsolid
    cases hsolid

end

section
variable {pos : Int} {text : Chars} {ts : List Token}

theorem Cuts.even_quotes (h : Cuts pos text ts) (hq : '\x22' ∉ text) :
    text.count '\x27' % 2 = 0 := by
  induction h with
  | done hgap => rw [hgap.count_quote]
  | token hgap hf _ ih =>
    simp only [List.mem_append, not_or] at hq
    have hwritten := hf.even_quotes hq.2.1
    have hrest := ih hq.2.2
    rw [List.count_append, List.count_append, hgap.count_quote]
    omega

/-- A delimiter in a text that is cut into tokens stands behind a quote that is still open. -/
theorem Cuts.odd_quotes (h : Cuts pos text ts) (hq : '\x22' ∉ text) {before after : Chars}
    {c : Char} (hc : isDelimiter c = true) (htext : text = before ++ c :: after) :
    before.count '\x27' % 2 = 1 := by
  induction h generalizing before with
  | done hgap =>
    have hsolid := (isIgnored_solid (hgap c (by simp [htext]))).2
    rw [hc] at hsolid
    cases hsolid
  | @token pos gap terminal rest tokens hgap hf _ ih =>
    simp only [List.mem_append, not_or] at hq
    rcases append_eq_append_cons htext with ⟨more, hg, -⟩ | ⟨more, rfl, hwritten⟩
    · have hsolid := (isIgnored_solid (hgap c (by simp [hg]))).2
      rw [hc] at hsolid
      cases hsolid
    · rw [List.count_append, hgap.count_quote, Nat.zero_add]
      rcases append_eq_append_cons hwritten with ⟨_, hw, -⟩ | ⟨behind, rfl, hrest⟩
      · exact hf.odd_quotes hq.2.1 hc hw
      · have hwhole := hf.even_quotes hq.2.1
        have hbehind := ih hq.2.2 hrest
        rw [List.count_append]
        omega

end

-- ---------------------------------------------------------------------------
-- Blanks at the ends
-- ---------------------------------------------------------------------------

theorem Terminal.Formed.written_ne_nil {t : Terminal} (h : t.Formed) : t.written ≠ [] := by
  cases t with
  | name text =>
    rintro rfl
    exact h
  | integer digits => exact h.1
  | operator op => cases op <;> decide
  | _ => simp [written]

theorem Terminal.Formed.solid_ends {t : Terminal} (h : t.Formed) :
    (∃ c tail, t.written = c :: tail ∧ isBlank c = false) ∧
      ∃ init c, t.written = init ++ [c] ∧ isBlank c = false := by
  rcases h.isTokenChar with ⟨quote, body, rfl⟩ | hchars
  · have hquote := (isQuote_solid h.1).1
    exact ⟨⟨quote, _, rfl, hquote⟩, quote :: body, quote, rfl, hquote⟩
  · have hsolid : ∀ c ∈ t.written, isBlank c = false :=
      fun c hc => (isTokenChar_solid (hchars c hc)).1
    obtain ⟨c, tail, hw⟩ := List.exists_cons_of_ne_nil h.written_ne_nil
    exact ⟨⟨c, tail, hw, hsolid c (by simp [hw])⟩, _, _,
      (List.dropLast_concat_getLast h.written_ne_nil).symm, hsolid _ (List.getLast_mem _)⟩

theorem trimLeft_gap {gap rest : Chars} {t : Terminal} (hgap : Ignored gap) (hf : t.Formed) :
    Text.trimLeft (gap ++ (t.written ++ rest)) = t.written ++ rest := by
  obtain ⟨c, tail, hw, hc⟩ := hf.solid_ends.1
  refine (takeWhile_append_stop (fun c hc => isBlank_of_isIgnored (hgap c hc)) ?_).2
  rw [hw]
  rintro _ ⟨⟩
  exact hc

theorem trimRight_append (init rest : Chars) {c : Char} (hc : isBlank c = false) :
    Text.trimRight (init ++ c :: rest) = init ++ c :: Text.trimRight rest := by
  have hdrop : (rest.reverse ++ c :: init.reverse).dropWhile isBlank =
      rest.reverse.dropWhile isBlank ++ c :: init.reverse := by
    rw [List.dropWhile_append]
    split
    · rename_i hnil
      rw [List.isEmpty_iff.mp hnil, List.dropWhile_cons_of_neg (by simp [hc]), List.nil_append]
    · rfl
  simp [Text.trimRight, hdrop]

section
variable {pos : Int} {text : Chars} {ts : List Token}

theorem Cuts.trimRight (h : Cuts pos text ts) : Cuts pos (Text.trimRight text) ts := by
  induction h with
  | @done pos gap hgap =>
    have hsub : Text.trimRight gap <+: gap := List.rdropWhile_prefix isBlank gap
    exact .done fun c hc => hgap c (hsub.subset hc)
  | @token pos gap terminal rest tokens hgap hf _ ih =>
    obtain ⟨init, c, hw, hc⟩ := hf.solid_ends.2
    have htrim : Text.trimRight (gap ++ (terminal.written ++ rest)) =
        gap ++ (terminal.written ++ Text.trimRight rest) := by
      simpa [hw] using trimRight_append (gap ++ init) rest hc
    rw [htrim]
    exact .token hgap hf ih

theorem Cuts.trimLeft (h : Cuts pos text ts) (hne : ts ≠ []) :
    Cuts (pos + (text.length - (Text.trimLeft text).length : Nat)) (Text.trimLeft text) ts := by
  cases h with
  | done hgap => exact absurd rfl hne
  | @token _ gap terminal rest tokens hgap hf hcut =>
    have hlead : (gap ++ (terminal.written ++ rest)).length - (terminal.written ++ rest).length =
        gap.length := by
      rw [List.length_append]
      omega
    rw [trimLeft_gap hgap hf, hlead]
    have hfirst := @Cuts.token (pos + gap.length) [] terminal rest tokens (by simp [Ignored]) hf
      (by simpa using hcut)
    simpa using hfirst

theorem Cuts.not_allBlank (h : Cuts pos text ts) (hne : ts ≠ []) : Text.allBlank text = false := by
  cases h with
  | done hgap => exact absurd rfl hne
  | @token _ gap terminal rest tokens hgap hf hcut =>
    obtain ⟨c, tail, hw, hc⟩ := hf.solid_ends.1
    simp [Text.allBlank, hw, hc]

end

-- ---------------------------------------------------------------------------
-- Clauses of directives
-- ---------------------------------------------------------------------------

open Markup

theorem isIdentifierChar_cases {c : Char} (h : isIdentifierChar c = true) :
    isIgnored c = false ∧ Awaits.operator.starts c = false ∧ isQuote c = false := by
  refine ⟨Bool.eq_false_iff.mpr fun hi => ?_, Bool.eq_false_iff.mpr fun hs => ?_,
    Bool.eq_false_iff.mpr fun hq => ?_⟩
  · simp only [isIgnored, Bool.or_eq_true, beq_iff_eq] at hi
    rcases hi with (((rfl | rfl) | rfl) | rfl) | rfl <;> exact absurd h (by decide)
  · have hall : ".[](),:?|&=!<>+-*/%".toList.all (fun d => !isIdentifierChar d) = true := by decide
    have hnot := List.all_eq_true.mp hall c (List.contains_iff_mem.mp hs)
    simp [h] at hnot
  · simp only [isQuote, Bool.or_eq_true, beq_iff_eq] at hq
    rcases hq with rfl | rfl <;> exact absurd h (by decide)

section
variable {pos : Int} {text word behind after : Chars} {ts : List Token}

theorem Cuts.trimLeft_starts {awaits : Awaits} (h : Cuts pos text ts)
    (hr : (awaits.run ts).isSome) : ∀ c ∈ (Text.trimLeft text).head?, awaits.starts c = true := by
  cases h with
  | @done _ gap hgap =>
    have hnil : Text.trimLeft text = [] :=
      List.dropWhile_eq_nil_iff.mpr fun c hc => isBlank_of_isIgnored (hgap c hc)
    simp [hnil]
  | @token _ gap terminal rest tokens hgap hf hcut =>
    obtain ⟨c, tail, hw, hc⟩ := Awaits.starts_of_admits (Awaits.of_run_cons hr).1 hf
    rw [trimLeft_gap hgap hf, hw]
    rintro _ ⟨⟩
    exact hc

/-- An operand that starts like a word is a name or a number: an operator follows it,
and it has no blanks. -/
theorem Terminal.Formed.of_identifier {t : Terminal} {w : Char} {tail : Chars} (hf : t.Formed)
    (ha : Awaits.operand.admits t = true) (hw : t.written = w :: tail)
    (hid : isIdentifierChar w = true) :
    Awaits.after t = .operator ∧ ∀ c ∈ t.written, isBlank c = false := by
  constructor
  · cases t with
    | bang | openParen =>
      obtain ⟨rfl, -⟩ := List.cons.inj hw
      exact absurd hid (by decide)
    | name _ | integer _ | decimal _ _ | string _ _ | closeParen => rfl
    | _ => cases ha
  · rcases hf.isTokenChar with ⟨quote, body, rfl⟩ | hchars
    · obtain ⟨rfl, -⟩ := List.cons.inj hw
      have hquote := (isIdentifierChar_cases hid).2.2
      rw [hf.1] at hquote
      cases hquote
    · exact fun c hc => (isTokenChar_solid (hchars c hc)).1

theorem Cuts.behind_word (h : Cuts pos (word ++ behind) ts)
    (hr : (Awaits.operand.run ts).isSome) (hne : word ≠ [])
    (hword : ∀ c ∈ word, isIdentifierChar c = true) (hb : behind.head?.any isBlank = true) :
    ∀ c ∈ (Text.trimLeft behind).head?, Awaits.operator.starts c = true := by
  obtain ⟨w, more, rfl⟩ := List.exists_cons_of_ne_nil hne
  have hgapless := (isIdentifierChar_cases (hword w (.head _))).1
  generalize htext : w :: more ++ behind = text at h
  cases h with
  | done hgap =>
    subst htext
    rw [hgap w (.head _)] at hgapless
    cases hgapless
  | @token _ gap terminal rest tokens hgap hf hcut =>
    cases gap with
    | cons d gap =>
      obtain ⟨rfl, -⟩ := List.cons.inj htext
      rw [hgap w (.head _)] at hgapless
      cases hgapless
    | nil =>
      rw [List.nil_append] at htext
      obtain ⟨ha, hrest⟩ := Awaits.of_run_cons hr
      obtain ⟨first, tail, hw⟩ := List.exists_cons_of_ne_nil hf.written_ne_nil
      obtain rfl : w = first := by
        rw [hw] at htext
        exact (List.cons.inj htext).1
      obtain ⟨hafter, hsolid⟩ := hf.of_identifier ha hw (hword w (.head _))
      rw [hafter] at hrest
      -- The token ends where the word does.
      have hsame : behind = rest := by
        rcases List.append_eq_append_iff.mp htext with ⟨split, hw, hbehind⟩ | ⟨split, hw, hbehind⟩
        · cases split with
          | nil => exact hbehind
          | cons d _ =>
            have hd := hsolid d (by simp [hw])
            simp [hbehind, hd] at hb
        · cases split with
          | nil => exact hbehind.symm
          | cons d _ =>
            obtain ⟨hignored, hstarts, -⟩ := isIdentifierChar_cases (hword d (by simp [hw]))
            rcases hcut.head_starts hrest d (by simp [hbehind]) with hd | hd
            · rw [hignored] at hd
              cases hd
            · rw [hstarts] at hd
              cases hd
      subst hsame
      exact hcut.trimLeft_starts hrest

theorem Cuts.not_identifier_behind (h : Cuts pos (word ++ (behind ++ after)) ts)
    (hr : (Awaits.operand.run ts).isSome) (hne : word ≠ [])
    (hword : ∀ c ∈ word, isIdentifierChar c = true) {rest : Chars}
    (hb : readBlanks? behind = some rest) : ∀ c ∈ rest.head?, isIdentifierChar c = false := by
  intro c hc
  unfold readBlanks? at hb
  split at hb
  · rename_i hblank
    obtain rfl := Option.some.inj hb
    obtain ⟨d, more, rfl⟩ : ∃ d more, behind = d :: more := by
      cases behind with
      | nil => cases hblank
      | cons d more => exact ⟨d, more, rfl⟩
    have htrim : c ∈ (Text.trimLeft (d :: more ++ after)).head? := by
      obtain ⟨tail, htail⟩ := List.head?_eq_some_iff.mp hc
      rw [Text.trimLeft, List.dropWhile_append, htail]
      rfl
    have hstarts := h.behind_word hr hne hword hblank c htrim
    by_contra hn
    rw [(isIdentifierChar_cases (by simpa using hn)).2.1] at hstarts
    cases hstarts
  · cases hb

theorem readWord?_eq_some {rest : Chars} (h : readWord? word text = some rest) :
    text = word ++ rest := by
  unfold readWord? at h
  split at h
  · rename_i hp
    obtain ⟨tail, rfl⟩ := List.isPrefixOf_iff_prefix.mp hp
    obtain rfl := Option.some.inj h
    simp
  · cases h

theorem readIdentifier?_eq_some {rest : Chars} (h : readIdentifier? text = some (word, rest)) :
    word ≠ [] ∧ (∀ c ∈ word, isIdentifierChar c = true) ∧ text = word ++ rest := by
  unfold readIdentifier? at h
  split at h
  · cases h
  · rename_i hne
    obtain ⟨rfl, rfl⟩ := Prod.mk.inj (Option.some.inj h)
    exact ⟨hne, fun c hc => List.mem_takeWhile_imp hc, List.takeWhile_append_dropWhile.symm⟩

/-- The start of an expression declares no variable: it is an expression itself
or none. -/
theorem Cuts.plain_clause (h : Cuts pos (text ++ after) ts)
    (hr : (Awaits.operand.run ts).isSome) : Clause.ofText true text = .plain := by
  have hlet : ∀ {behind rest name tail}, readWord? "let".toList text = some behind →
      readBlanks? behind = some rest → readIdentifier? rest ≠ some (name, tail) := by
    intro behind rest name tail hw hb hi
    rw [readWord?_eq_some hw, List.append_assoc] at h
    obtain ⟨hne, hname, rfl⟩ := readIdentifier?_eq_some hi
    obtain ⟨c, more, rfl⟩ := List.exists_cons_of_ne_nil hne
    have hnot := h.not_identifier_behind hr (by decide) (List.all_eq_true.mp (by decide)) hb c rfl
    rw [hname c (.head _)] at hnot
    cases hnot
  have hassign : readAssign? text = none := by
    by_contra hn
    obtain ⟨clause, hc⟩ := Option.ne_none_iff_exists'.mp hn
    simp only [readAssign?, Option.bind_eq_bind, Option.bind_eq_some_iff, Prod.exists] at hc
    obtain ⟨_, hw, _, hb, _, _, hi, -⟩ := hc
    exact hlet hw hb hi
  have hforEach : readForEach? text = none := by
    by_contra hn
    obtain ⟨clause, hc⟩ := Option.ne_none_iff_exists'.mp hn
    simp only [readForEach?, Option.bind_eq_bind, Option.bind_eq_some_iff, Prod.exists] at hc
    obtain ⟨_, hw, _, hb, _, _, hi, -⟩ := hc
    exact hlet hw hb hi
  have halias : readAlias? text = none := by
    by_contra hn
    obtain ⟨clause, hc⟩ := Option.ne_none_iff_exists'.mp hn
    simp only [readAlias?, Option.bind_eq_bind, Option.bind_eq_some_iff, Prod.exists] at hc
    obtain ⟨key, behind, hk, rest, hb, _, hw, -⟩ := hc
    obtain ⟨hne, hkey, rfl⟩ := readIdentifier?_eq_some hk
    rw [List.append_assoc] at h
    have hnot := h.not_identifier_behind hr hne hkey hb 'a' (by rw [readWord?_eq_some hw]; rfl)
    revert hnot
    decide
  simp [Clause.ofText, hassign, hforEach, halias]

end

end TemplateTree.Expression

namespace TemplateTree

open Text (Chars)
open Expression

section
variable {source : Chars} (hb : Text.allBlank source = false) (h : Accepted source)
include hb h

theorem exists_forms (offset : Int) : ∃ ts e, Forms source offset ts e := by
  by_contra hn
  obtain ⟨cause, he⟩ := Expr.parse_of_not_forms hb hn
  obtain ⟨e, hp⟩ := (exists_parse_eq_ok source offset).mpr h
  rw [he] at hp
  cases hp

/-- Blanks around an expression do not matter to what is read, nor to where it
is found. -/
theorem Expr.parse_trim (offset : Int) :
    Expr.parse (Text.trim source)
        (offset + (source.length - (Text.trimLeft source).length : Nat)) =
      Expr.parse source offset := by
  obtain ⟨ts, e, hc, hd⟩ := exists_forms hb h offset
  have htrim : Cuts _ (Text.trim source) ts := (hc.trimLeft hd.ne_nil).trimRight
  rw [Expr.parse_of_forms hb ⟨hc, hd⟩,
    Expr.parse_of_forms (htrim.not_allBlank hd.ne_nil) ⟨htrim, hd⟩]

end

theorem not_accepted_of_odd_quotes {source : Chars} (hq : '\x22' ∉ source)
    (hodd : source.count '\x27' % 2 = 1) : ¬ Accepted source := by
  intro h
  cases hb : Text.allBlank source with
  | true =>
    have hnone : '\x27' ∉ source := by
      intro hm
      have := List.all_eq_true.mp hb _ hm
      revert this
      decide
    rw [List.count_eq_zero.mpr hnone] at hodd
    cases hodd
  | false =>
    obtain ⟨ts, e, hc, -⟩ := exists_forms hb h 0
    have := hc.even_quotes hq
    omega

end TemplateTree
