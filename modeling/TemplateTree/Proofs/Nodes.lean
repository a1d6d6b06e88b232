import TemplateTree.Proofs.Within

/-!
# The spans within a node

The tokens of a node are those it spans, with parentheses around them, and its parts
are held by disjoint stretches of them (`Derives.spread`). So the spans of the parts
lie inside the node and follow one another, the text between two operands is their
operator, and the text of a node begins or ends with the mark of its kind
(`Expr.parse_laidOut`).
-/

namespace TemplateTree

open Text (Chars)

theorem OffsetSpan.textIn_append {before body after : Chars} {offset : Int} {span : OffsetSpan}
    (hstart : span.start = offset + before.length) (hstop : span.stop = span.start + body.length) :
    span.textIn (before ++ (body ++ after)) offset = body := by
  have htake : (span.stop - offset).toNat = (before ++ body).length := by
    rw [List.length_append]
    omega
  have hdrop : (span.start - offset).toNat = before.length := by omega
  rw [textIn, htake, hdrop, ← List.append_assoc, List.take_left, List.drop_left]

namespace Expression

-- ---------------------------------------------------------------------------
-- Tokens follow one another
-- ---------------------------------------------------------------------------

structure Apart (ts : List Token) : Prop where
  forward : ∀ t ∈ ts, t.start ≤ t.stop
  inOrder : ts.Pairwise fun a b => a.stop ≤ b.start

section
variable {ts xs ys used : List Token} {t : Token} {pos : Int} {text : Chars} {e : Expr}

theorem Cuts.start_ge (h : Cuts pos text ts) (ht : t ∈ ts) : pos ≤ t.start := by
  induction h with
  | done _ => cases ht
  | token _ _ _ ih =>
    rcases List.mem_cons.mp ht with rfl | ht
    · exact Int.le_add_of_nonneg_right (Int.natCast_nonneg _)
    · have := ih ht
      omega

theorem Cuts.apart (h : Cuts pos text ts) : Apart ts := by
  induction h with
  | done _ => exact ⟨by simp, .nil⟩
  | token _ _ hc ih =>
    refine ⟨List.forall_mem_cons.mpr ⟨?_, ih.forward⟩,
      List.pairwise_cons.mpr ⟨fun t ht => hc.start_ge ht, ih.inOrder⟩⟩
    exact Int.le_add_of_nonneg_right (Int.natCast_nonneg _)

theorem Apart.of_infix (h : Apart ts) (hu : used <:+: ts) : Apart used :=
  ⟨fun t ht => h.forward t (hu.subset ht), h.inOrder.sublist hu.sublist⟩

theorem Apart.stopOf_le_startOf (h : Apart (xs ++ ys)) (hx : xs ≠ []) (hy : ys ≠ []) :
    stopOf xs ≤ startOf ys := by
  obtain ⟨b, ys, rfl⟩ := List.exists_cons_of_ne_nil hy
  rw [stopOf, List.getLast?_eq_some_getLast hx]
  exact (List.pairwise_append.mp h.inOrder).2.2 _ (List.getLast_mem hx) _ (.head _)

theorem Holds.ne_nil (h : Holds ts e) : ts ≠ [] := by
  obtain ⟨used, hu, hd, -⟩ := h
  rintro rfl
  exact hd.ne_nil (List.infix_nil.mp hu)

theorem exists_startOf (h : ts ≠ []) : ∃ t ∈ ts, startOf ts = t.start := by
  obtain ⟨t, rest, rfl⟩ := List.exists_cons_of_ne_nil h
  exact ⟨t, .head _, rfl⟩

theorem exists_stopOf (h : ts ≠ []) : ∃ t ∈ ts, stopOf ts = t.stop := by
  refine ⟨ts.getLast h, List.getLast_mem h, ?_⟩
  rw [stopOf, List.getLast?_eq_some_getLast h]
  rfl

theorem Apart.startOf_le (h : Apart ts) (ht : t ∈ ts) : startOf ts ≤ t.start := by
  cases ts with
  | nil => cases ht
  | cons first rest =>
    rcases List.mem_cons.mp ht with rfl | ht
    · exact Int.le_refl _
    · exact Int.le_trans (h.forward first (.head _)) ((List.pairwise_cons.mp h.inOrder).1 t ht)

theorem Apart.le_stopOf (h : Apart ts) (ht : t ∈ ts) : t.stop ≤ stopOf ts := by
  obtain ⟨init, last, rfl⟩ := (List.eq_nil_or_concat' ts).resolve_left (List.ne_nil_of_mem ht)
  rw [stopOf_append (List.cons_ne_nil last []), stopOf_singleton]
  rcases List.mem_append.mp ht with ht | ht
  · have hlast := (List.pairwise_append.mp h.inOrder).2.2 t ht last (.head _)
    exact Int.le_trans hlast (h.forward last (by simp))
  · obtain rfl := List.mem_singleton.mp ht
    exact Int.le_refl _

theorem Apart.bounds (h : Apart ts) (hu : used <:+: ts) (hne : used ≠ []) :
    startOf ts ≤ startOf used ∧ startOf used ≤ stopOf used ∧ stopOf used ≤ stopOf ts := by
  obtain ⟨first, hfirst, hstart⟩ := exists_startOf hne
  obtain ⟨last, hlast, hstop⟩ := exists_stopOf hne
  refine ⟨?_, ?_, ?_⟩
  · rw [hstart]
    exact h.startOf_le (hu.subset hfirst)
  · have hown := (h.of_infix hu).startOf_le hlast
    rw [hstop]
    exact Int.le_trans hown (h.forward last (hu.subset hlast))
  · rw [hstop]
    exact h.le_stopOf (hu.subset hlast)

end

-- ---------------------------------------------------------------------------
-- Parts side by side
-- ---------------------------------------------------------------------------

/-- Disjoint stretches of the tokens hold these expressions, in this order. -/
inductive Spread : List Token → List Expr → Prop
  | done {ts} : Spread ts []
  | next {front own back e parts} :
      Holds own e → Spread back parts → Spread (front ++ (own ++ back)) (e :: parts)

section
variable {ts : List Token} {e : Expr} {parts : List Expr} {level : Level}

theorem Holds.bounds (h : Holds ts e) (ha : Apart ts) :
    startOf ts ≤ e.span.start ∧ e.span.start ≤ e.span.stop ∧ e.span.stop ≤ stopOf ts := by
  obtain ⟨used, hu, hd, hs⟩ := h
  rw [hs]
  exact ha.bounds hu hd.ne_nil

theorem Spread.holds (h : Spread ts parts) : ∀ p ∈ parts, Holds ts p := by
  induction h with
  | done => simp
  | @next front own back e parts he _ ih =>
    refine List.forall_mem_cons.mpr ⟨he.mono ⟨front, back, by simp⟩, fun p hp => ?_⟩
    exact (ih p hp).mono ⟨front ++ own, [], by simp⟩

theorem Spread.inOrder (h : Spread ts parts) (ha : Apart ts) :
    parts.Pairwise fun a b => a.span.stop ≤ b.span.start := by
  induction h with
  | done => exact .nil
  | @next front own back e parts he hs ih =>
    have hback : Apart back := ha.of_infix ⟨front ++ own, [], by simp⟩
    have hown : Apart (own ++ back) := ha.of_infix ⟨front, [], by simp⟩
    refine List.pairwise_cons.mpr ⟨fun p hp => ?_, ih hback⟩
    have hp' := hs.holds p hp
    have hfirst := (he.bounds (hown.of_infix (List.prefix_append own back).isInfix)).2.2
    have hsecond := (hp'.bounds hback).1
    exact Int.le_trans hfirst (Int.le_trans (hown.stopOf_le_startOf he.ne_nil hp'.ne_nil) hsecond)

theorem Spread.first {own back : List Token} (he : Holds own e) (h : Spread back parts) :
    Spread (own ++ back) (e :: parts) :=
  (Spread.next he h : Spread ([] ++ (own ++ back)) (e :: parts))

theorem Spread.only (he : Holds ts e) : Spread ts [e] := by
  simpa using Spread.first he (.done : Spread [] [])

theorem Spread.behind (front : List Token) (h : Spread ts parts) : Spread (front ++ ts) parts := by
  cases h with
  | done => exact .done
  | @next more own back e parts he h =>
    rw [← List.append_assoc]
    exact .next he h

theorem Spread.arguments {args : List Argument}
    (h : ∀ arg ∈ args, Derives level arg.tokens arg.expr) (behind : List Token) :
    Spread (argumentTokens args ++ behind) (args.map Argument.expr) := by
  induction args with
  | nil => exact .done
  | cons arg args ih =>
    obtain ⟨harg, hargs⟩ := List.forall_mem_cons.mp h
    have hrest := Spread.first harg.holds (ih hargs)
    simpa using hrest.behind [arg.mark]

end

-- ---------------------------------------------------------------------------
-- The tokens of a node
-- ---------------------------------------------------------------------------

def Marked (own : List Token) : Expr → Prop
  | .propertyRead _ _ name => ∃ front last, own = front ++ [last] ∧ last.terminal = .name name
  | .keyedRead _ _ _ => ∃ front last, own = front ++ [last] ∧ last.terminal = .closeBracket
  | .call _ _ _ => ∃ front last, own = front ++ [last] ∧ last.terminal = .closeParen
  | .not _ _ => ∃ first back, own = first :: back ∧ first.terminal = .bang
  | .binary _ op left right => ∃ before sign after, own = before ++ sign :: after ∧
      sign.terminal = .operator op ∧
      (∃ level, Derives level before left) ∧ ∃ level, Derives level after right
  | _ => True

structure Core (own : List Token) (e : Expr) : Prop where
  ne_nil : own ≠ []
  span : e.span = extent own
  parts : Spread own e.parts ∨ ∃ p, IsBareReceiver p e
  marked : Marked own e

def HasCore (ts : List Token) (e : Expr) : Prop :=
  ∃ opens own closes, ts = opens ++ (own ++ closes) ∧ Core own e ∧
    (∀ t ∈ opens, t.terminal = .openParen) ∧ ∀ t ∈ closes, t.terminal = .closeParen

section
variable {ts : List Token} {e : Expr} {level : Level} {token : Token} {text : Chars}

theorem Core.hasCore (h : Core ts e) : HasCore ts e := ⟨[], ts, [], by simp, h, by simp, by simp⟩

theorem core_ofName (h : token.terminal = .name text) :
    Core [token] (.ofName (extent [token]) text) := by
  refine ⟨by simp, span_ofName _ _, ?_, ?_⟩
  · unfold Expr.ofName
    split
    case h_6 => exact .inr ⟨_, rfl, text, rfl⟩
    all_goals exact .inl .done
  · unfold Expr.ofName
    split
    case h_6 => exact ⟨[], token, rfl, h⟩
    all_goals trivial

theorem Derives.hasCore (h : Derives level ts e) : HasCore ts e := by
  induction h with
  | bare _ ih | plain _ ih | tighter _ _ ih | operand _ ih | positive _ ih | single _ ih => exact ih
  | @piped ts e bar name text args hd _ _ _ hds _ _ =>
    refine Core.hasCore ⟨by simp, rfl, .inl (.first hd.holds ?_), trivial⟩
    simpa using (Spread.arguments hds []).behind [bar, name]
  | @choice condition yes no c y n question colon hc _ hy _ hn _ _ _ =>
    have hrest := (Spread.first hy.holds ((Spread.only hn.holds).behind [colon])).behind [question]
    exact Core.hasCore ⟨by simp, rfl, .inl (.first hc.holds hrest), trivial⟩
  | @operator op left right l r sign hl hsign hr _ _ =>
    exact Core.hasCore ⟨by simp, rfl, .inl (.first hl.holds ((Spread.only hr.holds).behind [sign])),
      left, sign, right, rfl, hsign, ⟨_, hl⟩, _, hr⟩
  | @negated bang ts e hbang hd _ =>
    exact Core.hasCore ⟨by simp, rfl, .inl ((Spread.only hd.holds).behind [bang]),
      bang, ts, rfl, hbang⟩
  | @property ts e dot name text hd _ hname _ =>
    exact Core.hasCore ⟨by simp, rfl, .inl (.first hd.holds .done),
      ts ++ [dot], name, by simp, hname⟩
  | @keyed ts e key k opening closing hd _ hk hclosing _ _ =>
    exact Core.hasCore ⟨by simp, rfl,
      .inl (.first hd.holds ((Spread.first hk.holds .done).behind [opening])),
      ts ++ opening :: key, closing, by simp, hclosing⟩
  | @called ts e opening closing hd _ hclosing _ =>
    exact Core.hasCore ⟨by simp, rfl, .inl (.first hd.holds .done),
      ts ++ [opening], closing, by simp, hclosing⟩
  | @calledWith ts e first f args opening closing hd _ hf _ hds hclosing _ _ _ =>
    have hargs := (Spread.first hf.holds (Spread.arguments hds [closing])).behind [opening]
    exact Core.hasCore ⟨by simp, rfl, .inl (.first hd.holds hargs),
      ts ++ opening :: (first ++ argumentTokens args), closing, by simp, hclosing⟩
  | name ht => exact (core_ofName ht).hasCore
  | integer _ | decimal _ | string _ => exact Core.hasCore ⟨by simp, rfl, .inl .done, trivial⟩
  | @parens ts e opening closing hopening _ hclosing ih =>
    obtain ⟨opens, own, closes, rfl, hcore, hopens, hcloses⟩ := ih
    refine ⟨opening :: opens, own, closes ++ [closing], by simp, hcore,
      List.forall_mem_cons.mpr ⟨hopening, hopens⟩, ?_⟩
    rw [List.forall_mem_append]
    exact ⟨hcloses, by simpa using hclosing⟩

end

-- ---------------------------------------------------------------------------
-- The text of a node
-- ---------------------------------------------------------------------------

section
variable {ts front own mid other back xs ys : List Token} {t : Token} {pos : Int} {text : Chars}

theorem Cuts.split (h : Cuts pos text (xs ++ t :: ys)) :
    ∃ before after, text = before ++ (t.terminal.written ++ after) ∧
      t.start = pos + before.length ∧ t.stop = t.start + t.terminal.written.length ∧
      Cuts pos before xs ∧ Cuts t.stop after ys := by
  induction xs generalizing pos text with
  | nil =>
    cases h with
    | @token _ gap terminal rest _ hg hf hc => exact ⟨gap, rest, rfl, rfl, rfl, .done hg, hc⟩
  | cons x xs ih =>
    cases h with
    | @token _ gap terminal rest _ hg hf hc =>
      obtain ⟨before, after, rfl, hstart, hstop, hbefore, hafter⟩ := ih hc
      refine ⟨gap ++ (terminal.written ++ before), after, by simp, ?_, hstop,
        .token hg hf hbefore, hafter⟩
      rw [hstart]
      simp only [List.length_append]
      omega

theorem Cuts.mem_cases (h : Cuts pos text ts) {c : Char} (hc : c ∈ text) :
    isIgnored c = true ∨ ∃ t ∈ ts, c ∈ t.terminal.written := by
  induction h with
  | done hg => exact .inl (hg c hc)
  | @token pos gap terminal rest tokens hg hf hcut ih =>
    rcases List.mem_append.mp hc with hc | hc
    · exact .inl (hg c hc)
    · rcases List.mem_append.mp hc with hc | hc
      · exact .inr ⟨_, .head _, hc⟩
      · refine (ih hc).imp_right ?_
        rintro ⟨t, ht, hmem⟩
        exact ⟨t, .tail _ ht, hmem⟩

theorem Cuts.between (h : Cuts pos text (front ++ (own ++ (mid ++ (other ++ back)))))
    (hown : own ≠ []) (hother : other ≠ []) :
    Cuts (stopOf own) (OffsetSpan.textIn ⟨stopOf own, startOf other⟩ text pos) mid := by
  obtain ⟨init, last, rfl⟩ := (List.eq_nil_or_concat' own).resolve_left hown
  obtain ⟨first, more, rfl⟩ := List.exists_cons_of_ne_nil hother
  have hsplit : Cuts pos text ((front ++ init) ++ last :: (mid ++ first :: (more ++ back))) := by
    simpa using h
  obtain ⟨before, behind, rfl, hlast, hstop, -, hbehind⟩ := hsplit.split
  obtain ⟨body, after, rfl, hfirst, -, hbody, -⟩ := hbehind.split
  have htext : OffsetSpan.textIn ⟨last.stop, first.start⟩ ((before ++ last.terminal.written) ++
      (body ++ (first.terminal.written ++ after))) pos = body := by
    refine OffsetSpan.textIn_append ?_ hfirst
    rw [List.length_append]
    dsimp only
    omega
  rw [List.append_assoc] at htext
  rwa [stopOf_append (List.cons_ne_nil last []), stopOf_singleton, startOf_cons, htext]

theorem Cuts.starts_text (h : Cuts pos text (t :: ys)) (hstart : t.start = pos) :
    t.terminal.written <+: text := by
  have hsplit : Cuts pos text ([] ++ t :: ys) := h
  obtain ⟨before, after, rfl, hbefore, -⟩ := hsplit.split
  obtain rfl : before = [] := List.eq_nil_of_length_eq_zero (by omega)
  exact ⟨after, rfl⟩

theorem Cuts.last_suffix (h : Cuts pos text (xs ++ [t])) (hstop : t.stop = pos + text.length) :
    t.terminal.written <:+ text := by
  obtain ⟨before, after, rfl, hbefore, hafter, -⟩ := h.split
  simp only [List.length_append] at hstop
  obtain rfl : after = [] := List.eq_nil_of_length_eq_zero (by omega)
  exact ⟨before, by simp⟩

end

end Expression

open Expression

/-- How a node and its parts are written: the parts lie inside the node and follow
one another, and the marks of its kind stand where they belong. -/
structure Expr.LaidOut (source : Chars) (offset : Int) (node : Expr) : Prop where
  inside : ∀ part ∈ node.parts, node.span.start ≤ part.span.start ∧
    part.span.start ≤ part.span.stop ∧ part.span.stop ≤ node.span.stop
  inOrder : node.parts.Pairwise fun a b => a.span.stop ≤ b.span.start
  operation : ∀ span op left right, node = .binary span op left right →
    ∃ before after, OffsetSpan.textIn ⟨left.span.stop, right.span.start⟩ source offset =
        before ++ (op.symbol.toList ++ after) ∧
      (∀ c ∈ before, isIgnored c = true ∨ c = ')') ∧ ∀ c ∈ after, isIgnored c = true ∨ c = '('
  property : ∀ span receiver name, node = .propertyRead span receiver name →
    name <:+ node.span.textIn source offset
  keyed : ∀ span receiver key, node = .keyedRead span receiver key →
    [']'] <:+ node.span.textIn source offset
  call : ∀ span receiver args, node = .call span receiver args →
    [')'] <:+ node.span.textIn source offset
  negation : ∀ span operand, node = .not span operand → ['!'] <+: node.span.textIn source offset

namespace Expression

section
variable {source : Chars} {offset pos : Int} {ts own : List Token} {node left right : Expr}
variable {op : BinaryOp} {text : Chars} {mark : Char}

theorem Cuts.mem_of_same (h : Cuts pos text ts) {terminal : Terminal}
    (hts : ∀ t ∈ ts, t.terminal = terminal) (hw : terminal.written = [mark]) :
    ∀ c ∈ text, isIgnored c = true ∨ c = mark := by
  intro c hc
  refine (h.mem_cases hc).imp_right ?_
  rintro ⟨t, ht, hm⟩
  rw [hts t ht, hw] at hm
  exact List.mem_singleton.mp hm

theorem Cuts.operation {front before after back : List Token} {sign : Token}
    (h : Cuts offset source (front ++ ((before ++ sign :: after) ++ back)))
    (hsign : sign.terminal = .operator op) (hl : HasCore before left) (hr : HasCore after right) :
    ∃ lead rest, OffsetSpan.textIn ⟨left.span.stop, right.span.start⟩ source offset =
        lead ++ (op.symbol.toList ++ rest) ∧
      (∀ c ∈ lead, isIgnored c = true ∨ c = ')') ∧ ∀ c ∈ rest, isIgnored c = true ∨ c = '(' := by
  obtain ⟨opens, own, closes, rfl, hcore, -, hcloses⟩ := hl
  obtain ⟨opens', own', closes', rfl, hcore', hopens', -⟩ := hr
  have hmid : Cuts offset source ((front ++ opens) ++
      (own ++ ((closes ++ sign :: opens') ++ (own' ++ (closes' ++ back))))) := by
    simpa using h
  obtain ⟨lead, rest, htext, -, -, hlead, hrest⟩ :=
    (hmid.between hcore.ne_nil hcore'.ne_nil).split
  rw [hcore.span, hcore'.span]
  refine ⟨lead, rest, ?_, hlead.mem_of_same hcloses rfl, hrest.mem_of_same hopens' rfl⟩
  rw [hsign] at htext
  exact htext

theorem Core.inside (h : Core own node) (ha : Apart own) :
    (∀ part ∈ node.parts, node.span.start ≤ part.span.start ∧
      part.span.start ≤ part.span.stop ∧ part.span.stop ≤ node.span.stop) ∧
    node.parts.Pairwise fun a b => a.span.stop ≤ b.span.start := by
  rw [h.span]
  rcases h.parts with hs | ⟨part, rfl, text, hnode⟩
  · exact ⟨fun part hp => (hs.holds part hp).bounds ha, hs.inOrder ha⟩
  · -- The receiver of a bare name stands at the start of its node.
    rw [h.span] at hnode
    rw [hnode]
    refine ⟨fun part hp => ?_, List.pairwise_singleton _ _⟩
    obtain rfl := List.mem_singleton.mp hp
    exact ⟨Int.le_refl _, Int.le_refl _, (ha.bounds List.infix_rfl h.ne_nil).2.1⟩

theorem Core.laidOut (h : Core own node) (hown : own <:+: ts) (hc : Cuts offset source ts) :
    node.LaidOut source offset := by
  obtain ⟨before, body, after, hsource, hstart, hstop, hbody⟩ := hc.infix hown h.ne_nil
  have hspan : node.span.start = startOf own ∧ node.span.stop = stopOf own := by
    rw [h.span]
    exact ⟨rfl, rfl⟩
  have htext : node.span.textIn source offset = body := by
    rw [hsource]
    exact OffsetSpan.textIn_append (by omega) (by omega)
  have hlast : ∀ front last, own = front ++ [last] → last.terminal.written <:+ body := by
    rintro front last rfl
    rw [stopOf_append (List.cons_ne_nil last []), stopOf_singleton] at hstop
    exact hbody.last_suffix hstop
  rw [← htext] at hlast
  have hinside := h.inside (hc.apart.of_infix hown)
  refine ⟨hinside.1, hinside.2, ?_, ?_, ?_, ?_, ?_⟩
  · rintro span op left right rfl
    obtain ⟨before, sign, after, rfl, hsign, ⟨_, hl⟩, _, hr⟩ := h.marked
    obtain ⟨front, back, rfl⟩ := hown
    rw [List.append_assoc] at hc
    exact hc.operation hsign hl.hasCore hr.hasCore
  · rintro span receiver name rfl
    obtain ⟨front, last, hsplit, hname⟩ := h.marked
    simpa [hname, Terminal.written] using hlast front last hsplit
  · rintro span receiver key rfl
    obtain ⟨front, last, hsplit, hclose⟩ := h.marked
    simpa [hclose, Terminal.written] using hlast front last hsplit
  · rintro span receiver args rfl
    obtain ⟨front, last, hsplit, hclose⟩ := h.marked
    simpa [hclose, Terminal.written] using hlast front last hsplit
  · rintro span operand rfl
    obtain ⟨first, back, rfl, hbang⟩ := h.marked
    rw [htext]
    simpa [hbang, Terminal.written] using hbody.starts_text rfl

end

end Expression

/-- In a parsed expression the spans of the parts of each node lie inside the node and
follow one another; between two operands stands their operator, with nothing but
ignored blanks and parentheses around it; and the text of a node begins or ends with
the mark of its kind. -/
theorem Expr.parse_laidOut {source : Chars} {offset : Int} {e node : Expr}
    (h : Expr.parse source offset = .ok e) (hn : node.Within e) : node.LaidOut source offset := by
  have hplain : ∀ span, (Expr.empty span).LaidOut source offset ∧
      (Expr.implicitReceiver span).LaidOut source offset := by
    intro span
    constructor <;> exact ⟨by simp [Expr.parts], .nil, by simp, by simp, by simp, by simp, by simp⟩
  cases hb : Text.allBlank source with
  | true =>
    simp only [Expr.parse, hb, ↓reduceIte, Except.ok.injEq] at h
    subst h
    rw [hn.eq_of_parts rfl]
    exact (hplain _).1
  | false =>
    obtain ⟨ts, ⟨hc, hd⟩, -⟩ := Expr.forms_of_parse hb h
    rcases hd.within hn with ⟨span, rfl⟩ | ⟨used, hu, hused, -⟩
    · exact (hplain span).2
    · obtain ⟨opens, own, closes, rfl, hcore, -⟩ := hused.hasCore
      exact hcore.laidOut ((List.infix_append opens own closes).trans (by simpa using hu)) hc

/-- A sum of a pipe and a negation, each in its parentheses: the pipe ends behind the
parentheses of its argument. -/
theorem Expr.parse_laidOut_sum :
    let bare (start stop : Int) (name : Chars) : Expr :=
      .propertyRead ⟨start, stop⟩ (.implicitReceiver ⟨start, start⟩) name
    let piped : Expr := .pipe ⟨8, 15⟩ (bare 8 9 ['a']) ['b'] [bare 13 14 ['c']]
    let negated : Expr := .not ⟨22, 28⟩
      (.call ⟨23, 28⟩ (.propertyRead ⟨23, 26⟩ (bare 23 24 ['d']) ['e']) [])
    let sum : Expr := .binary ⟨7, 29⟩ .plus piped negated
    let source := "(a|b:(c) ) + ( !d.e())".toList
    Expr.parse source 7 = .ok sum ∧ sum.LaidOut source 7 ∧ piped.LaidOut source 7 ∧
      negated.LaidOut source 7 := by
  intro bare piped negated sum source
  let ts : List Token :=
    [ ⟨.openParen, 7, 8⟩, ⟨.name ['a'], 8, 9⟩, ⟨.bar, 9, 10⟩, ⟨.name ['b'], 10, 11⟩
    , ⟨.colon, 11, 12⟩, ⟨.openParen, 12, 13⟩, ⟨.name ['c'], 13, 14⟩, ⟨.closeParen, 14, 15⟩
    , ⟨.closeParen, 16, 17⟩, ⟨.operator .plus, 18, 19⟩, ⟨.openParen, 20, 21⟩, ⟨.bang, 22, 23⟩
    , ⟨.name ['d'], 23, 24⟩, ⟨.dot, 24, 25⟩, ⟨.name ['e'], 25, 26⟩, ⟨.openParen, 26, 27⟩
    , ⟨.closeParen, 27, 28⟩, ⟨.closeParen, 28, 29⟩ ]
  have hts : tokens .operand 7 source = (ts, .complete) := by decide +kernel
  have h : Expr.parse source 7 = .ok sum := by
    unfold Expr.parse
    rw [if_neg (by decide +kernel), hts]
    rfl
  exact ⟨h, Expr.parse_laidOut h (.refl _), Expr.parse_laidOut h (.part (.head _) (.refl _)),
    Expr.parse_laidOut h (.part (.tail _ (.head _)) (.refl _))⟩

end TemplateTree
