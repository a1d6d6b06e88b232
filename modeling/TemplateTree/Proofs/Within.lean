import TemplateTree.Proofs.Delimiters

/-!
# Expressions within expressions

What a node of an expression was made of stands in one stretch of the tokens, from
the first to the last, and these derive the node again (`Derives.within`). So the
text that a node spans is an expression in its own right and parses to that node
(`Expr.parse_within`).
-/

namespace TemplateTree

open Text (Chars)

namespace Expr

def parts : Expr → List Expr
  | empty _ | implicitReceiver _ | thisReceiver _ | literal _ _ => []
  | propertyRead _ receiver _ => [receiver]
  | keyedRead _ receiver key => [receiver, key]
  | call _ receiver args => receiver :: args
  | binary _ _ left right => [left, right]
  | conditional _ condition whenTrue whenFalse => [condition, whenTrue, whenFalse]
  | not _ operand => [operand]
  | pipe _ operand _ args => operand :: args

/-- The first expression is the second or stands in it, at any depth. -/
inductive Within : Expr → Expr → Prop
  | refl (e : Expr) : Within e e
  | part {node part e : Expr} : part ∈ e.parts → Within node part → Within node e

/-- The receiver of a bare name, which is not written. -/
def IsImplicit (e : Expr) : Prop := ∃ span, e = implicitReceiver span

end Expr

theorem Expr.Within.eq_of_parts {node e : Expr} (h : node.Within e) (hp : e.parts = []) :
    node = e := by
  cases h with
  | refl => rfl
  | part hm _ =>
    rw [hp] at hm
    cases hm

def OffsetSpan.textIn (span : OffsetSpan) (source : Chars) (offset : Int) : Chars :=
  (source.take (span.stop - offset).toNat).drop (span.start - offset).toNat

namespace Expression

-- ---------------------------------------------------------------------------
-- Levels
-- ---------------------------------------------------------------------------

def Level.tighter : Level → Level
  | pipe => conditional
  | conditional => binary 0
  | binary level => if level < BinaryOp.topLevel then binary (level + 1) else negation
  | negation => chain
  | chain | primary => primary

def Level.rank : Level → Nat
  | pipe => 0
  | conditional => 1
  | binary level => level + 2
  | negation => BinaryOp.topLevel + 3
  | chain => BinaryOp.topLevel + 4
  | primary => BinaryOp.topLevel + 5

def Level.IsLevel : Level → Prop
  | binary level => level ≤ BinaryOp.topLevel
  | _ => True

section
variable {level tight loose : Level} {ts : List Token} {e p : Expr}

theorem Level.tighter_binary {n : Nat} (h : n < BinaryOp.topLevel) :
    (binary n).tighter = binary (n + 1) := if_pos h

theorem Level.binary_cases {n : Nat} (h : (binary n).IsLevel) :
    n < BinaryOp.topLevel ∨ n = BinaryOp.topLevel := Nat.lt_or_eq_of_le h

theorem Level.rank_le (h : level.IsLevel) : level.rank ≤ Level.primary.rank := by
  cases level with
  | binary n => exact Nat.add_le_add h (by decide)
  | _ => decide

theorem Level.rank_tighter (h : level.IsLevel) (hne : level ≠ .primary) :
    level.tighter.IsLevel ∧ level.tighter.rank = level.rank + 1 := by
  cases level with
  | primary => exact absurd rfl hne
  | binary n =>
    rcases Level.binary_cases h with hn | rfl
    · rw [Level.tighter_binary hn]
      exact ⟨hn, rfl⟩
    · exact ⟨trivial, rfl⟩
  | conditional => exact ⟨Nat.zero_le _, rfl⟩
  | _ => exact ⟨trivial, rfl⟩

theorem Level.eq_of_rank (h : loose.IsLevel) (h' : tight.IsLevel) (hr : loose.rank = tight.rank) :
    loose = tight := by
  have htop : BinaryOp.topLevel = 6 := rfl
  cases loose <;> cases tight <;> simp only [Level.IsLevel, Level.rank, htop] at h h' hr <;>
    first
    | rfl
    | omega
    | rw [Nat.add_right_cancel hr]

theorem Derives.isLevel (h : Derives level ts e) : level.IsLevel := by
  cases h with
  | tighter hl _ => exact Nat.le_of_lt hl
  | @operator op => exact Nat.le_of_lt op.level_lt_topLevel
  | operand _ => exact Nat.le_refl _
  | _ => trivial

theorem Derives.of_tighter (hl : loose.IsLevel) (h : Derives loose.tighter ts e) :
    Derives loose ts e := by
  cases loose with
  | pipe => exact .bare h
  | conditional => exact .plain h
  | binary n =>
    rcases Level.binary_cases hl with hn | rfl
    · exact .tighter hn (Level.tighter_binary hn ▸ h)
    · exact .operand h
  | negation => exact .positive h
  | chain => exact .single h
  | primary => exact h

theorem Derives.loosen (h : Derives tight ts e) (hl : loose.IsLevel)
    (hr : loose.rank ≤ tight.rank) : Derives loose ts e := by
  obtain ⟨steps, hsteps⟩ := Nat.exists_eq_add_of_le hr
  induction steps generalizing loose with
  | zero => exact Level.eq_of_rank hl h.isLevel hsteps.symm ▸ h
  | succ steps ih =>
    have hne : loose ≠ .primary := by
      rintro rfl
      have := Level.rank_le h.isLevel
      omega
    obtain ⟨htight, hrank⟩ := Level.rank_tighter hl hne
    exact .of_tighter hl (ih htight (by omega) (by omega))

-- ---------------------------------------------------------------------------
-- The tokens of a node
-- ---------------------------------------------------------------------------

/-- A stretch of the tokens, from the first to the last that a node spans, derives it. -/
def Holds (ts : List Token) (e : Expr) : Prop :=
  ∃ used, used <:+: ts ∧ Derives .pipe used e ∧ e.span = extent used

theorem Holds.mono {more : List Token} (h : Holds ts e) (hm : ts <:+: more) : Holds more e := by
  obtain ⟨used, hu, hd, hs⟩ := h
  exact ⟨used, hu.trans hm, hd, hs⟩

theorem Derives.holds_of_span (h : Derives level ts e) (hs : e.span = extent ts) : Holds ts e :=
  ⟨ts, List.infix_rfl, h.loosen trivial (Nat.zero_le _), hs⟩

theorem span_ofName (span : OffsetSpan) (text : Chars) : (Expr.ofName span text).span = span := by
  unfold Expr.ofName
  split <;> rfl

/-- A node spans the tokens it was made of, its own parentheses apart. -/
theorem Derives.holds (h : Derives level ts e) : Holds ts e := by
  induction h with
  | bare _ ih | plain _ ih | tighter _ _ ih | operand _ ih | positive _ ih | single _ ih => exact ih
  | piped hd hb hn hm hds _ _ => exact Derives.holds_of_span (.piped hd hb hn hm hds) rfl
  | choice hc hq hy hcolon hn _ _ _ =>
    exact Derives.holds_of_span (.choice hc hq hy hcolon hn) rfl
  | operator hl hs hr _ _ => exact Derives.holds_of_span (.operator hl hs hr) rfl
  | negated hb hd _ => exact Derives.holds_of_span (.negated hb hd) rfl
  | property hd hdot hn _ => exact Derives.holds_of_span (.property hd hdot hn) rfl
  | keyed hd ho hk hc _ _ => exact Derives.holds_of_span (.keyed hd ho hk hc) rfl
  | called hd ho hc _ => exact Derives.holds_of_span (.called hd ho hc) rfl
  | calledWith hd ho hf hm hds hc _ _ _ =>
    exact Derives.holds_of_span (.calledWith hd ho hf hm hds hc) rfl
  | name ht => exact Derives.holds_of_span (.name ht) (span_ofName _ _)
  | integer ht => exact Derives.holds_of_span (.integer ht) rfl
  | decimal ht => exact Derives.holds_of_span (.decimal ht) rfl
  | string ht => exact Derives.holds_of_span (.string ht) rfl
  | @parens ts e opening closing _ _ _ ih => exact ih.mono ⟨[opening], [closing], by simp⟩

theorem infix_argumentTokens {args : List Argument} {arg : Argument} (h : arg ∈ args) :
    arg.tokens <:+: argumentTokens args := by
  obtain ⟨front, back, rfl⟩ := List.append_of_mem h
  refine ⟨argumentTokens front ++ [arg.mark], argumentTokens back, ?_⟩
  simp [argumentTokens, Argument.all]

theorem holds_argument {args : List Argument} (hd : ∀ arg ∈ args, Derives level arg.tokens arg.expr)
    (hp : p ∈ args.map Argument.expr) : Holds (argumentTokens args) p := by
  obtain ⟨arg, harg, rfl⟩ := List.mem_map.mp hp
  exact (hd arg harg).holds.mono (infix_argumentTokens harg)

theorem parts_ofName {span : OffsetSpan} {text : Chars} (h : p ∈ (Expr.ofName span text).parts) :
    p = .implicitReceiver ⟨span.start, span.start⟩ ∧
      Expr.ofName span text = .propertyRead span p text := by
  unfold Expr.ofName at h ⊢
  split at h <;> simp_all [Expr.parts]

theorem not_isImplicit_ofName (span : OffsetSpan) (text : Chars) :
    ¬ (Expr.ofName span text).IsImplicit := by
  rintro ⟨other, h⟩
  unfold Expr.ofName at h
  split at h <;> cases h

theorem Derives.not_isImplicit (h : Derives level ts e) : ¬ e.IsImplicit := by
  induction h with
  | bare _ ih | plain _ ih | tighter _ _ ih | operand _ ih | positive _ ih | single _ ih
  | parens _ _ _ ih => exact ih
  | name _ => exact not_isImplicit_ofName _ _
  | _ =>
    rintro ⟨_, h⟩
    cases h

/-- The receiver of a bare name, at the start of its node. -/
def IsBareReceiver (p e : Expr) : Prop :=
  p = .implicitReceiver ⟨e.span.start, e.span.start⟩ ∧ ∃ text, e = .propertyRead e.span p text

theorem Derives.part (h : Derives level ts e) (hp : p ∈ e.parts) :
    IsBareReceiver p e ∨ Holds ts p := by
  induction h with
  | bare _ ih | plain _ ih | tighter _ _ ih | operand _ ih | positive _ ih | single _ ih =>
    exact ih hp
  | @piped ts e bar name text args hd _ _ _ hds _ _ =>
    rcases List.mem_cons.mp hp with rfl | hp
    · exact .inr (hd.holds.mono (List.infix_append' [] _ _))
    · refine .inr ((holds_argument hds hp).mono ?_)
      exact ⟨ts ++ [bar, name], [], by simp⟩
  | @choice condition yes no c y n question colon hc _ hy _ hn _ _ _ =>
    simp only [Expr.parts, List.mem_cons, List.not_mem_nil, or_false] at hp
    rcases hp with rfl | rfl | rfl
    · exact .inr (hc.holds.mono (List.infix_append' [] _ _))
    · exact .inr (hy.holds.mono ⟨condition ++ [question], colon :: no, by simp⟩)
    · exact .inr (hn.holds.mono ⟨condition ++ question :: yes ++ [colon], [], by simp⟩)
  | @operator op left right l r sign hl _ hr _ _ =>
    simp only [Expr.parts, List.mem_cons, List.not_mem_nil, or_false] at hp
    rcases hp with rfl | rfl
    · exact .inr (hl.holds.mono (List.infix_append' [] _ _))
    · exact .inr (hr.holds.mono ⟨left ++ [sign], [], by simp⟩)
  | @negated bang ts e _ hd _ =>
    obtain rfl := List.mem_singleton.mp hp
    exact .inr (hd.holds.mono ⟨[bang], [], by simp⟩)
  | property hd _ _ _ =>
    obtain rfl := List.mem_singleton.mp hp
    exact .inr (hd.holds.mono (List.infix_append' [] _ _))
  | @keyed ts e key k opening closing hd _ hk _ _ _ =>
    simp only [Expr.parts, List.mem_cons, List.not_mem_nil, or_false] at hp
    rcases hp with rfl | rfl
    · exact .inr (hd.holds.mono (List.infix_append' [] _ _))
    · exact .inr (hk.holds.mono ⟨ts ++ [opening], [closing], by simp⟩)
  | called hd _ _ _ =>
    obtain rfl := List.mem_singleton.mp hp
    exact .inr (hd.holds.mono (List.infix_append' [] _ _))
  | @calledWith ts e first f args opening closing hd _ hf _ hds _ _ _ _ =>
    simp only [Expr.parts, List.mem_cons] at hp
    rcases hp with rfl | rfl | hp
    · exact .inr (hd.holds.mono (List.infix_append' [] _ _))
    · exact .inr (hf.holds.mono ⟨ts ++ [opening], argumentTokens args ++ [closing], by simp⟩)
    · refine .inr ((holds_argument hds hp).mono ?_)
      exact ⟨ts ++ opening :: first, [closing], by simp⟩
  | name _ =>
    obtain ⟨rfl, he⟩ := parts_ofName hp
    rw [he]
    exact .inl ⟨rfl, _, rfl⟩
  | integer _ | decimal _ | string _ => cases hp
  | @parens ts e opening closing _ _ _ ih =>
    exact (ih hp).imp_right fun h => h.mono ⟨[opening], [closing], by simp⟩

/-- Every node of a derived expression is derived from some of the tokens, or is the
receiver of a bare name. -/
theorem Derives.within (h : Derives level ts e) {node : Expr} (hn : node.Within e) :
    node.IsImplicit ∨ Holds ts node := by
  induction hn generalizing level ts with
  | refl => exact .inr h.holds
  | part hp hn ih =>
    rcases h.part hp with ⟨rfl, -⟩ | ⟨used, hu, hd, -⟩
    · exact .inl ⟨_, hn.eq_of_parts rfl⟩
    · exact (ih hd).imp_right fun h => h.mono hu

-- ---------------------------------------------------------------------------
-- The text of a stretch of tokens
-- ---------------------------------------------------------------------------

theorem Cuts.drop {pos : Int} {text : Chars} {front back : List Token} {t : Token}
    (h : Cuts pos text (front ++ t :: back)) :
    ∃ lead rest, text = lead ++ rest ∧ t.start = pos + lead.length ∧
      Cuts t.start rest (t :: back) := by
  induction front generalizing pos text with
  | nil =>
    cases h with
    | @token _ gap terminal rest _ hg hf hc =>
      refine ⟨gap, terminal.written ++ rest, rfl, rfl, ?_⟩
      have hcut := @Cuts.token (pos + gap.length) [] terminal rest _ (by simp [Ignored]) hf
        (by simpa using hc)
      simpa using hcut
  | cons first front ih =>
    cases h with
    | @token _ gap terminal rest _ hg hf hc =>
      obtain ⟨lead, rest', rfl, hs, hcut⟩ := ih hc
      refine ⟨gap ++ (terminal.written ++ lead), rest', by simp, ?_, hcut⟩
      rw [hs]
      simp only [List.length_append]
      omega

theorem Cuts.take {pos : Int} {text : Chars} {front back : List Token}
    (h : Cuts pos text (front ++ back)) (hne : front ≠ []) :
    ∃ used rest, text = used ++ rest ∧ stopOf front = pos + used.length ∧ Cuts pos used front := by
  induction front generalizing pos text with
  | nil => exact absurd rfl hne
  | cons first front ih =>
    cases h with
    | @token _ gap terminal rest _ hg hf hc =>
      by_cases hfront : front = []
      · subst hfront
        refine ⟨gap ++ terminal.written, rest, by simp, ?_, ?_⟩
        · simp only [stopOf_singleton, List.length_append]
          omega
        · have hdone : Cuts (pos + gap.length + terminal.written.length) [] [] :=
            .done (by simp [Ignored])
          simpa using Cuts.token hg hf hdone
      · obtain ⟨used, rest', rfl, hs, hcut⟩ := ih hc hfront
        refine ⟨gap ++ (terminal.written ++ used), rest', by simp, ?_, .token hg hf hcut⟩
        rw [stopOf_cons hfront, hs]
        simp only [List.length_append]
        omega

/-- A stretch of tokens stands between the start of its first and the stop of its
last, and is cut there on its own. -/
theorem Cuts.infix {pos : Int} {text : Chars} {ts used : List Token} (h : Cuts pos text ts)
    (hu : used <:+: ts) (hne : used ≠ []) :
    ∃ before body after, text = before ++ (body ++ after) ∧
      startOf used = pos + before.length ∧ stopOf used = startOf used + body.length ∧
      Cuts (startOf used) body used := by
  obtain ⟨front, back, rfl⟩ := hu
  obtain ⟨t, more, rfl⟩ := List.exists_cons_of_ne_nil hne
  rw [List.append_assoc] at h
  obtain ⟨lead, rest, rfl, hs, hcut⟩ := h.drop
  have hfront : Cuts t.start rest ((t :: more) ++ back) := hcut
  obtain ⟨body, after, rfl, hstop, hbody⟩ := hfront.take hne
  exact ⟨lead, body, after, rfl, hs, hstop, hbody⟩

theorem Forms.within {source : Chars} {offset : Int} (h : Forms source offset ts e) {node : Expr}
    (hn : node.Within e) (hw : ¬ node.IsImplicit) :
    offset ≤ node.span.start ∧ node.span.start ≤ node.span.stop ∧
      node.span.stop ≤ offset + source.length ∧
      ∃ used, used <:+: ts ∧
        Forms (node.span.textIn source offset) node.span.start used node := by
  obtain ⟨hc, hd⟩ := h
  obtain ⟨used, hu, hused, hspan⟩ := (hd.within hn).resolve_left hw
  obtain ⟨before, body, after, rfl, hfirst, hlast, hbody⟩ := hc.infix hu hused.ne_nil
  have hstart : node.span.start = startOf used := congrArg OffsetSpan.start hspan
  have hstop : node.span.stop = stopOf used := congrArg OffsetSpan.stop hspan
  have htext : node.span.textIn (before ++ (body ++ after)) offset = body := by
    have htake : (node.span.stop - offset).toNat = before.length + body.length := by omega
    have hdrop : (node.span.start - offset).toNat = before.length := by omega
    rw [OffsetSpan.textIn, htake, hdrop, ← List.append_assoc, ← List.length_append,
      List.take_left, List.drop_left]
  rw [htext, hstart, hstop, List.length_append, List.length_append]
  exact ⟨by omega, by omega, by omega, used, hu, hbody, hused⟩

/-- A node without text is the receiver of a bare name. -/
theorem Derives.bare_of_within (h : Derives level ts e) {node : Expr} (hn : node.Within e)
    (hp : p ∈ node.parts) (hi : p.IsImplicit) : IsBareReceiver p node := by
  rcases h.within hn with ⟨_, rfl⟩ | ⟨used, -, hd, -⟩
  · cases hp
  · exact (hd.part hp).resolve_right fun ⟨_, _, hd, _⟩ => hd.not_isImplicit hi

end

end Expression

open Expression

-- ---------------------------------------------------------------------------
-- Parsing again
-- ---------------------------------------------------------------------------

theorem Expr.forms_of_parse {source : Chars} {offset : Int} {e : Expr}
    (hb : Text.allBlank source = false) (h : Expr.parse source offset = .ok e) :
    ∃ ts, Forms source offset ts e ∧ ts.any (·.terminal.oversized) = false := by
  obtain ⟨ts, e', hf⟩ := exists_forms hb ((exists_parse_eq_ok source offset).mp ⟨e, h⟩) offset
  rw [Expr.parse_of_forms hb hf] at h
  split at h
  · cases h
  · rename_i hbig
    cases h
    exact ⟨ts, hf, by simpa using hbig⟩

/-- Every node of a parsed expression, other than the receiver of a bare name, spans
a part of the source that parses to the node. The receivers of bare names take up no
text at the start of their nodes. -/
theorem Expr.parse_within {source : Chars} {offset : Int} {e : Expr}
    (h : Expr.parse source offset = .ok e) :
    (∀ node, node.Within e → ¬ node.IsImplicit →
      offset ≤ node.span.start ∧ node.span.start ≤ node.span.stop ∧
        node.span.stop ≤ offset + source.length ∧
        Expr.parse (node.span.textIn source offset) node.span.start = .ok node) ∧
    ¬ e.IsImplicit ∧
    ∀ node, node.Within e → ∀ part ∈ node.parts, part.IsImplicit → IsBareReceiver part node := by
  cases hb : Text.allBlank source with
  | true =>
    simp only [Expr.parse, hb, ↓reduceIte, Except.ok.injEq] at h
    subst h
    refine ⟨fun node hn _ => ?_, ?_, fun node hn part hp => ?_⟩
    · obtain rfl := hn.eq_of_parts rfl
      refine ⟨Int.le_add_of_nonneg_right (Int.natCast_nonneg _), Int.le_refl _, Int.le_refl _, ?_⟩
      simp [Expr.span, OffsetSpan.textIn, Expr.parse, Text.allBlank]
    · rintro ⟨_, h⟩
      cases h
    · obtain rfl := hn.eq_of_parts rfl
      cases hp
  | false =>
    obtain ⟨ts, hf, hbig⟩ := Expr.forms_of_parse hb h
    refine ⟨fun node hn hw => ?_, hf.2.not_isImplicit, fun node hn part hp hi =>
      hf.2.bare_of_within hn hp hi⟩
    obtain ⟨hstart, hle, hstop, used, hu, hforms⟩ := hf.within hn hw
    refine ⟨hstart, hle, hstop, ?_⟩
    have hused : used.any (·.terminal.oversized) = false := by
      rw [List.any_eq_false] at hbig ⊢
      exact fun t ht => hbig t (hu.subset ht)
    rw [Expr.parse_of_forms (hforms.1.not_allBlank hforms.2.ne_nil) hforms, hused]
    rfl

/-- Parentheses count for the call around them and not for the sum inside. -/
theorem Expr.parse_within_parens :
    let bare (start stop : Int) (name : Chars) : Expr :=
      .propertyRead ⟨start, stop⟩ (.implicitReceiver ⟨start, start⟩) name
    let sum : Expr := .binary ⟨9, 14⟩ .plus (bare 9 10 ['a']) (bare 13 14 ['b'])
    let call : Expr := .call ⟨8, 24⟩ (.propertyRead ⟨8, 17⟩ sum ['c'])
      [.pipe ⟨18, 23⟩ (bare 18 19 ['d']) ['e'] []]
    Expr.parse "!(a + b).c(d | e)".toList 7 = .ok (.not ⟨7, 24⟩ call) ∧
      Expr.parse "(a + b).c(d | e)".toList 8 = .ok call ∧
      Expr.parse "a + b".toList 9 = .ok sum := by
  intro bare sum call
  let ts : List Token :=
    [ ⟨.bang, 7, 8⟩, ⟨.openParen, 8, 9⟩, ⟨.name ['a'], 9, 10⟩, ⟨.operator .plus, 11, 12⟩
    , ⟨.name ['b'], 13, 14⟩, ⟨.closeParen, 14, 15⟩, ⟨.dot, 15, 16⟩, ⟨.name ['c'], 16, 17⟩
    , ⟨.openParen, 17, 18⟩, ⟨.name ['d'], 18, 19⟩, ⟨.bar, 20, 21⟩, ⟨.name ['e'], 22, 23⟩
    , ⟨.closeParen, 23, 24⟩ ]
  have hts : tokens .operand 7 "!(a + b).c(d | e)".toList = (ts, .complete) := by decide +kernel
  have h : Expr.parse "!(a + b).c(d | e)".toList 7 = .ok (.not ⟨7, 24⟩ call) := by
    unfold Expr.parse
    rw [if_neg (by decide +kernel), hts]
    rfl
  have hcall : call.Within (.not ⟨7, 24⟩ call) := .part (.head _) (.refl _)
  have hsum : sum.Within (.not ⟨7, 24⟩ call) :=
    .part (.head _) (.part (.head _) (.part (.head _) (.refl _)))
  have hwritten : ¬ call.IsImplicit ∧ ¬ sum.IsImplicit := by
    constructor <;> simp [call, sum, Expr.IsImplicit]
  exact ⟨h, ((Expr.parse_within h).1 call hcall hwritten.1).2.2.2,
    ((Expr.parse_within h).1 sum hsum hwritten.2).2.2.2⟩

end TemplateTree
