import Mathlib.Tactic.Choose
import TemplateTree.Proofs.Parsing

/-!
# Accepted sources

Whether a text is accepted as an expression does not depend on the offset it
stands at: the grammar looks at terminals only.
-/

namespace TemplateTree.Expression

open Text (Chars)

-- ---------------------------------------------------------------------------
-- Moving tokens
-- ---------------------------------------------------------------------------

def Token.shift (d : Int) (token : Token) : Token :=
  { token with start := token.start + d, stop := token.stop + d }

theorem Cuts.shift {pos : Int} {text : Chars} {ts : List Token} (h : Cuts pos text ts) (d : Int) :
    Cuts (pos + d) text (ts.map (Token.shift d)) := by
  induction h with
  | done hg => exact .done hg
  | @token pos gap terminal rest tokens hg hf _ ih =>
    rw [List.map_cons]
    have hstart : pos + gap.length + d = pos + d + gap.length := by omega
    have hstop : pos + gap.length + terminal.written.length + d =
        pos + d + gap.length + terminal.written.length := by omega
    rw [hstop] at ih
    simp only [Token.shift, hstart, hstop]
    exact .token hg hf ih

theorem argumentTokens_map (f : Token → Token) (g : Argument → Expr) (args : List Argument) :
    argumentTokens (args.map fun arg => ⟨f arg.mark, arg.tokens.map f, g arg⟩) =
      (argumentTokens args).map f := by
  induction args with
  | nil => rfl
  | cons arg args ih => simp [ih]

theorem Derives.map {f : Token → Token} (hf : ∀ token, (f token).terminal = token.terminal)
    {level : Level} {ts : List Token} {e : Expr} (h : Derives level ts e) :
    ∃ e', Derives level (ts.map f) e' := by
  induction h with
  | bare _ ih =>
    obtain ⟨e', ih⟩ := ih
    exact ⟨e', .bare ih⟩
  | @piped ts e bar name text args _ hb hn hm _ ih ihs =>
    obtain ⟨e', ih⟩ := ih
    have : Nonempty Expr := ⟨e⟩
    choose! g hg using ihs
    rw [List.map_append, List.map_cons, List.map_cons, ← argumentTokens_map f g]
    refine ⟨_, .piped ih ((hf bar).trans hb) ((hf name).trans hn) ?_ ?_⟩
    · simpa [hf] using hm
    · simpa using hg
  | plain _ ih =>
    obtain ⟨e', ih⟩ := ih
    exact ⟨e', .plain ih⟩
  | choice _ hq _ hc _ ihc ihy ihn =>
    obtain ⟨c, ihc⟩ := ihc
    obtain ⟨y, ihy⟩ := ihy
    obtain ⟨n, ihn⟩ := ihn
    simp only [List.map_append, List.map_cons]
    exact ⟨_, .choice ihc (by rw [hf, hq]) ihy (by rw [hf, hc]) ihn⟩
  | tighter hl _ ih =>
    obtain ⟨e', ih⟩ := ih
    exact ⟨e', .tighter hl ih⟩
  | operator _ hs _ ihl ihr =>
    obtain ⟨l, ihl⟩ := ihl
    obtain ⟨r, ihr⟩ := ihr
    simp only [List.map_append, List.map_cons]
    exact ⟨_, .operator ihl (by rw [hf, hs]) ihr⟩
  | operand _ ih =>
    obtain ⟨e', ih⟩ := ih
    exact ⟨e', .operand ih⟩
  | positive _ ih =>
    obtain ⟨e', ih⟩ := ih
    exact ⟨e', .positive ih⟩
  | negated hb _ ih =>
    obtain ⟨e', ih⟩ := ih
    exact ⟨_, .negated (by rw [hf, hb]) ih⟩
  | single _ ih =>
    obtain ⟨e', ih⟩ := ih
    exact ⟨e', .single ih⟩
  | property _ hd hn ih =>
    obtain ⟨e', ih⟩ := ih
    rw [List.map_append]
    exact ⟨_, .property ih (by rw [hf, hd]) (by rw [hf, hn])⟩
  | keyed _ ho _ hc ih ihk =>
    obtain ⟨e', ih⟩ := ih
    obtain ⟨k, ihk⟩ := ihk
    simp only [List.map_append, List.map_cons]
    exact ⟨_, .keyed ih (by rw [hf, ho]) ihk (by rw [hf, hc])⟩
  | called _ ho hc ih =>
    obtain ⟨e', ih⟩ := ih
    rw [List.map_append]
    exact ⟨_, .called ih (by rw [hf, ho]) (by rw [hf, hc])⟩
  | @calledWith ts e first _ args opening closing _ ho _ hm _ hc ih ihf ihs =>
    obtain ⟨e', ih⟩ := ih
    obtain ⟨first', ihf⟩ := ihf
    have : Nonempty Expr := ⟨e⟩
    choose! g hg using ihs
    simp only [List.map_append, List.map_cons, ← argumentTokens_map f g]
    refine ⟨_, .calledWith ih ?_ ihf ?_ ?_ ?_⟩
    · rw [hf, ho]
    · simpa [hf] using hm
    · simpa using hg
    · rw [hf, hc]
  | name ht => exact ⟨_, .name (by rw [hf, ht])⟩
  | integer ht => exact ⟨_, .integer (by rw [hf, ht])⟩
  | decimal ht => exact ⟨_, .decimal (by rw [hf, ht])⟩
  | string ht => exact ⟨_, .string (by rw [hf, ht])⟩
  | parens ho _ hc ih =>
    obtain ⟨e', ih⟩ := ih
    simp only [List.map_append, List.map_cons]
    exact ⟨_, .parens (by rw [hf, ho]) ih (by rw [hf, hc])⟩

theorem Forms.shift {source : Chars} {offset : Int} {ts : List Token} {e : Expr}
    (h : Forms source offset ts e) (d : Int) :
    ∃ e', Forms source (offset + d) (ts.map (Token.shift d)) e' := by
  obtain ⟨e', hd⟩ := h.2.map (f := Token.shift d) fun _ => rfl
  exact ⟨e', h.1.shift d, hd⟩

end TemplateTree.Expression

namespace TemplateTree

open Text (Chars)
open Expression

-- ---------------------------------------------------------------------------
-- Outcomes at any offset
-- ---------------------------------------------------------------------------

def Accepted (source : Chars) : Prop := ∃ e, Expr.parse source 0 = .ok e

def TooLong (source : Chars) : Prop := Expr.parse source 0 = .error .oversizedInteger

theorem accepted_of_allBlank {source : Chars} (hb : Text.allBlank source = true) :
    Accepted source := by
  simp [Accepted, Expr.parse, hb]

theorem any_oversized_shift (d : Int) (ts : List Token) :
    (ts.map (Token.shift d)).any (·.terminal.oversized) = ts.any (·.terminal.oversized) := by
  rw [List.any_map]
  rfl

/-- The outcome of parsing is of the same sort at every offset. -/
theorem Expr.parse_cases (source : Chars) (offset : Int) :
    ((∃ e, Expr.parse source offset = .ok e) ∧ Accepted source) ∨
    (Expr.parse source offset = .error .oversizedInteger ∧ TooLong source) ∨
    ((∃ error, Expr.parse source offset = .error (.binding error)) ∧ ¬ Accepted source) := by
  by_cases hb : Text.allBlank source = true
  · exact .inl ⟨by simp [Expr.parse, hb], accepted_of_allBlank hb⟩
  have hb : Text.allBlank source = false := by simpa using hb
  by_cases h : ∃ ts e, Forms source 0 ts e
  · obtain ⟨ts, e, hf⟩ := h
    obtain ⟨e', hf'⟩ := hf.shift offset
    rw [Int.zero_add] at hf'
    have hp := Expr.parse_of_forms hb hf
    have hp' := Expr.parse_of_forms hb hf'
    rw [any_oversized_shift] at hp'
    split at hp
    · rename_i hbig
      rw [if_pos hbig] at hp'
      exact .inr (.inl ⟨hp', hp⟩)
    · rename_i hbig
      rw [if_neg hbig] at hp'
      exact .inl ⟨⟨e', hp'⟩, e, hp⟩
  · have h' : ¬ ∃ ts e, Forms source offset ts e := by
      rintro ⟨ts, e, hf⟩
      obtain ⟨e', hf'⟩ := hf.shift (-offset)
      rw [Int.add_right_neg] at hf'
      exact h ⟨_, e', hf'⟩
    obtain ⟨cause, hp⟩ := Expr.parse_of_not_forms hb h
    obtain ⟨cause', hp'⟩ := Expr.parse_of_not_forms hb h'
    refine .inr (.inr ⟨⟨_, hp'⟩, ?_⟩)
    rintro ⟨e, he⟩
    rw [hp] at he
    cases he

theorem exists_parse_eq_ok (source : Chars) (offset : Int) :
    (∃ e, Expr.parse source offset = .ok e) ↔ Accepted source := by
  rcases Expr.parse_cases source offset with ⟨h, ha⟩ | ⟨h, hl⟩ | ⟨⟨error, h⟩, hn⟩
  · exact iff_of_true h ha
  · refine iff_of_false (by simp [h]) ?_
    rintro ⟨e, he⟩
    rw [hl] at he
    cases he
  · exact iff_of_false (by simp [h]) hn

theorem tooLong_of_parse {source : Chars} {offset : Int}
    (h : Expr.parse source offset = .error .oversizedInteger) : TooLong source := by
  rcases Expr.parse_cases source offset with ⟨⟨e, he⟩, -⟩ | ⟨-, hl⟩ | ⟨⟨error, he⟩, -⟩
  · rw [he] at h
    cases h
  · exact hl
  · rw [he] at h
    cases h

end TemplateTree
