import TemplateTree.Proofs.Lexing

/-!
# Parsing is the grammar

What the parser returns is derived from the tokens it used (`sound`), and what
the grammar derives is what the parser returns (`Derives.complete`), whatever
comes behind it. Together with the reading of tokens this fixes the outcome of
parsing for every text.
-/

namespace TemplateTree.Expression

open Text (Chars)

-- ---------------------------------------------------------------------------
-- Soundness
-- ---------------------------------------------------------------------------

def Takes (level : Level) (tokens : List Token) (p : Parsed) (rest : List Token) : Prop :=
  ∃ used e, tokens = used ++ rest ∧ Derives level used e ∧ p = .of used e

def TakesArguments (level : Level) (mark : Terminal) (tokens : List Token) (exprs : List Expr)
    (args : List Argument) (rest : List Token) : Prop :=
  tokens = argumentTokens args ++ rest ∧ (∀ arg ∈ args, arg.mark.terminal = mark) ∧
    (∀ arg ∈ args, Derives level arg.tokens arg.expr) ∧ exprs = args.map Argument.expr

/-- Whatever parsing at this depth returns is derived. The functions that go on
behind an operand are told what was made of the tokens before it. -/
structure Sound (ending : Ending) (n : Nat) : Prop where
  pipe : ∀ {tokens p rest}, parsePipe ending n tokens = .ok (p, rest) →
    Takes .pipe tokens p rest
  pipes : ∀ {before e tokens p rest}, Derives .pipe before e →
    parsePipes ending n (.of before e) tokens = .ok (p, rest) →
    Takes .pipe (before ++ tokens) p rest
  pipeArgs : ∀ {b tokens exprs stop rest},
    parsePipeArgs ending n (stopOf b) tokens = .ok ((exprs, stop), rest) →
    ∃ args, TakesArguments .conditional .colon tokens exprs args rest ∧
      stop = stopOf (b ++ argumentTokens args)
  conditional : ∀ {tokens p rest}, parseConditional ending n tokens = .ok (p, rest) →
    Takes .conditional tokens p rest
  binary : ∀ {level tokens p rest}, level ≤ BinaryOp.topLevel →
    parseBinary ending n level tokens = .ok (p, rest) → Takes (.binary level) tokens p rest
  operators : ∀ {level before e tokens p rest}, Derives (.binary level) before e →
    parseOperators ending n level (.of before e) tokens = .ok (p, rest) →
    Takes (.binary level) (before ++ tokens) p rest
  negation : ∀ {tokens p rest}, parseNegation ending n tokens = .ok (p, rest) →
    Takes .negation tokens p rest
  chain : ∀ {before e tokens p rest}, Derives .chain before e →
    parseChain ending n (.of before e) tokens = .ok (p, rest) →
    Takes .chain (before ++ tokens) p rest
  args : ∀ {tokens exprs rest}, parseArgs ending n tokens = .ok (exprs, rest) →
    ∃ first f more args, Derives .pipe first f ∧ exprs = f :: more ∧
      ∃ behind, tokens = first ++ behind ∧ TakesArguments .pipe .comma behind more args rest
  primary : ∀ {tokens p rest}, parsePrimary ending n tokens = .ok (p, rest) →
    Takes .primary tokens p rest

section
variable {ending : Ending} {n : Nat} {tokens rest before : List Token} {p : Parsed} {e : Expr}

theorem parsePipe_sound (s : Sound ending n) (h : parsePipe ending (n + 1) tokens = .ok (p, rest)) :
    Takes .pipe tokens p rest := by
  simp only [parsePipe, bind_eq_ok] at h
  obtain ⟨⟨_, behind⟩, hc, hp⟩ := h
  obtain ⟨used, e, rfl, hd, rfl⟩ := s.conditional hc
  exact s.pipes (.bare hd) hp

theorem parsePipes_sound (s : Sound ending n) (hb : Derives .pipe before e)
    (h : parsePipes ending (n + 1) (.of before e) tokens = .ok (p, rest)) :
    Takes .pipe (before ++ tokens) p rest := by
  unfold parsePipes at h
  split at h
  · rename_i start stop name start' stop' behind
    simp only [bind_eq_ok] at h
    obtain ⟨⟨⟨exprs, last⟩, _⟩, ha, h⟩ := h
    obtain ⟨args, ⟨rfl, hm, hd, rfl⟩, rfl⟩ := s.pipeArgs (b := [⟨.name name, start', stop'⟩]) ha
    rw [List.singleton_append, Parsed.pipe_of (m := ⟨.bar, start, stop⟩) _ _ _ hb.ne_nil] at h
    have ht := s.pipes (.piped hb rfl rfl hm hd) h
    simpa using ht
  · cases h
  · cases h
    exact ⟨before, e, rfl, hb, rfl⟩

theorem parsePipeArgs_sound (s : Sound ending n) {exprs : List Expr} {stop : Int}
    (h : parsePipeArgs ending (n + 1) (stopOf before) tokens = .ok ((exprs, stop), rest)) :
    ∃ args, TakesArguments .conditional .colon tokens exprs args rest ∧
      stop = stopOf (before ++ argumentTokens args) := by
  unfold parsePipeArgs at h
  split at h
  · rename_i start stop' behind
    simp only [bind_eq_ok] at h
    obtain ⟨⟨_, _⟩, hc, ⟨⟨more, _⟩, _⟩, ha, h⟩ := h
    cases h
    obtain ⟨used, e, rfl, hd, rfl⟩ := s.conditional hc
    obtain ⟨args, ⟨rfl, hm, hds, rfl⟩, rfl⟩ := s.pipeArgs ha
    refine ⟨⟨⟨.colon, start, stop'⟩, used, e⟩ :: args, ⟨?_, ?_, ?_, rfl⟩, ?_⟩
    · simp
    · exact List.forall_mem_cons.mpr ⟨rfl, hm⟩
    · exact List.forall_mem_cons.mpr ⟨hd, hds⟩
    · have hne : used ++ argumentTokens args ≠ [] := by simp [hd.ne_nil]
      rw [argumentTokens_cons, stopOf_append (List.cons_ne_nil _ _), stopOf_cons hne]
  · cases h
    exact ⟨[], ⟨rfl, by simp, by simp, rfl⟩, by simp⟩

theorem parseConditional_sound (s : Sound ending n)
    (h : parseConditional ending (n + 1) tokens = .ok (p, rest)) :
    Takes .conditional tokens p rest := by
  simp only [parseConditional, bind_eq_ok] at h
  obtain ⟨⟨_, behind⟩, hc, h⟩ := h
  obtain ⟨used, c, rfl, hd, rfl⟩ := s.binary (Nat.zero_le _) hc
  dsimp only at h
  split at h
  · rename_i start stop after
    simp only [bind_eq_ok] at h
    obtain ⟨⟨_, _⟩, hy, h⟩ := h
    obtain ⟨yes, y, rfl, hdy, rfl⟩ := s.conditional hy
    dsimp only at h
    split at h
    · rename_i start' stop' last
      simp only [bind_eq_ok] at h
      obtain ⟨⟨_, _⟩, hn, h⟩ := h
      obtain ⟨no, f, rfl, hdn, rfl⟩ := s.conditional hn
      cases h
      refine ⟨used ++ ⟨.question, start, stop⟩ :: (yes ++ ⟨.colon, start', stop'⟩ :: no), _, ?_,
        .choice hd rfl hdy rfl hdn, Parsed.conditional_of c y f hd.ne_nil hdn.ne_nil⟩
      simp
    · cases h
  · cases h
    exact ⟨used, c, rfl, .plain hd, rfl⟩

theorem parseBinary_sound (s : Sound ending n) {level : Nat} (hl : level ≤ BinaryOp.topLevel)
    (h : parseBinary ending (n + 1) level tokens = .ok (p, rest)) :
    Takes (.binary level) tokens p rest := by
  unfold parseBinary at h
  split at h
  · rename_i hlt
    simp only [bind_eq_ok] at h
    obtain ⟨⟨_, _⟩, hb, h⟩ := h
    obtain ⟨used, e, rfl, hd, rfl⟩ := s.binary hlt hb
    exact s.operators (.tighter hlt hd) h
  · rename_i hge
    obtain ⟨used, e, rfl, hd, rfl⟩ := s.negation h
    have hlevel : level = BinaryOp.topLevel := by omega
    exact ⟨used, e, rfl, hlevel ▸ .operand hd, rfl⟩

theorem parseOperators_sound (s : Sound ending n) {level : Nat} (hb : Derives (.binary level) before e)
    (h : parseOperators ending (n + 1) level (.of before e) tokens = .ok (p, rest)) :
    Takes (.binary level) (before ++ tokens) p rest := by
  unfold parseOperators at h
  split at h
  · rename_i op start stop behind
    split at h
    · rename_i hop
      subst hop
      simp only [bind_eq_ok] at h
      obtain ⟨⟨_, _⟩, hr, h⟩ := h
      obtain ⟨right, r, rfl, hd, rfl⟩ := s.binary op.level_lt_topLevel hr
      rw [Parsed.binary_of (m := ⟨.operator op, start, stop⟩) _ _ _ hb.ne_nil hd.ne_nil] at h
      have ht := s.operators (.operator hb rfl hd) h
      simpa using ht
    · cases h
      exact ⟨before, e, rfl, hb, rfl⟩
  · cases h
    exact ⟨before, e, rfl, hb, rfl⟩

theorem parseNegation_sound (s : Sound ending n)
    (h : parseNegation ending (n + 1) tokens = .ok (p, rest)) : Takes .negation tokens p rest := by
  unfold parseNegation at h
  split at h
  · rename_i start stop behind
    simp only [bind_eq_ok] at h
    obtain ⟨⟨_, _⟩, hn, h⟩ := h
    obtain ⟨used, e, rfl, hd, rfl⟩ := s.negation hn
    cases h
    exact ⟨⟨.bang, start, stop⟩ :: used, _, rfl, .negated rfl hd,
      Parsed.not_of (t := ⟨.bang, start, stop⟩) e hd.ne_nil⟩
  · simp only [bind_eq_ok] at h
    obtain ⟨⟨_, _⟩, hp, h⟩ := h
    obtain ⟨used, e, rfl, hd, rfl⟩ := s.primary hp
    obtain ⟨used', e', heq, hd', rfl⟩ := s.chain (.single hd) h
    exact ⟨used', e', heq, .positive hd', rfl⟩

theorem parseChain_sound (s : Sound ending n) (hb : Derives .chain before e)
    (h : parseChain ending (n + 1) (.of before e) tokens = .ok (p, rest)) :
    Takes .chain (before ++ tokens) p rest := by
  unfold parseChain at h
  split at h
  · rename_i start stop name start' stop' behind
    rw [Parsed.property_of (m := ⟨.dot, start, stop⟩) (t := ⟨.name name, start', stop'⟩)
      _ _ hb.ne_nil] at h
    have ht := s.chain (.property hb rfl rfl) h
    simpa using ht
  · cases h
  · rename_i start stop behind
    simp only [bind_eq_ok] at h
    obtain ⟨⟨_, _⟩, hk, h⟩ := h
    obtain ⟨key, k, rfl, hd, rfl⟩ := s.pipe hk
    dsimp only at h
    split at h
    · rename_i start' stop' last
      rw [Parsed.keyed_of (m := ⟨.openBracket, start, stop⟩)
        (z := ⟨.closeBracket, start', stop'⟩) _ _ hb.ne_nil] at h
      have ht := s.chain (.keyed hb rfl hd rfl) h
      simpa using ht
    · cases h
  · rename_i start stop start' stop' behind
    rw [Parsed.call_of (m := ⟨.openParen, start, stop⟩) (q := [])
      (z := ⟨.closeParen, start', stop'⟩) _ _ hb.ne_nil] at h
    have ht := s.chain (.called hb rfl rfl) h
    simpa using ht
  · rename_i start stop behind hnot
    simp only [bind_eq_ok] at h
    obtain ⟨⟨_, remaining⟩, ha, h⟩ := h
    obtain ⟨first, f, more, args, hf, rfl, _, rfl, rfl, hm, hd, rfl⟩ := s.args ha
    dsimp only at h
    split at h
    · rename_i start' stop' last
      rw [Parsed.call_of (m := ⟨.openParen, start, stop⟩) (q := first ++ argumentTokens args)
        (z := ⟨.closeParen, start', stop'⟩) _ _ hb.ne_nil, List.append_assoc] at h
      have ht := s.chain (.calledWith hb rfl hf hm hd rfl) h
      simpa using ht
    · cases h
  · cases h
    exact ⟨before, e, rfl, hb, rfl⟩

theorem parseArgs_sound (s : Sound ending n) {exprs : List Expr}
    (h : parseArgs ending (n + 1) tokens = .ok (exprs, rest)) :
    ∃ first f more args, Derives .pipe first f ∧ exprs = f :: more ∧
      ∃ behind, tokens = first ++ behind ∧ TakesArguments .pipe .comma behind more args rest := by
  simp only [parseArgs, bind_eq_ok] at h
  obtain ⟨⟨_, behind⟩, hp, h⟩ := h
  obtain ⟨first, f, rfl, hd, rfl⟩ := s.pipe hp
  dsimp only at h
  split at h
  · rename_i start stop after
    simp only [bind_eq_ok] at h
    obtain ⟨⟨more, _⟩, ha, h⟩ := h
    cases h
    obtain ⟨second, g, others, args, hg, rfl, _, rfl, rfl, hm, hds, rfl⟩ := s.args ha
    refine ⟨first, f, _, ⟨⟨.comma, start, stop⟩, second, g⟩ :: args, hd, rfl, _, rfl, ?_, ?_, ?_, rfl⟩
    · simp
    · exact List.forall_mem_cons.mpr ⟨rfl, hm⟩
    · exact List.forall_mem_cons.mpr ⟨hg, hds⟩
  · cases h
    exact ⟨first, f, [], [], hd, rfl, _, rfl, rfl, by simp, by simp, rfl⟩

theorem parsePrimary_sound (s : Sound ending n)
    (h : parsePrimary ending (n + 1) tokens = .ok (p, rest)) : Takes .primary tokens p rest := by
  unfold parsePrimary at h
  split at h
  · cases h
    exact ⟨[_], _, rfl, .name rfl, rfl⟩
  · cases h
    exact ⟨[_], _, rfl, .integer rfl, rfl⟩
  · cases h
    exact ⟨[_], _, rfl, .decimal rfl, rfl⟩
  · cases h
    exact ⟨[_], _, rfl, .string rfl, rfl⟩
  · rename_i start stop behind
    simp only [bind_eq_ok] at h
    obtain ⟨⟨_, _⟩, hp, h⟩ := h
    obtain ⟨used, e, rfl, hd, rfl⟩ := s.pipe hp
    dsimp only at h
    split at h
    · rename_i start' stop' last
      cases h
      refine ⟨⟨.openParen, start, stop⟩ :: (used ++ [⟨.closeParen, start', stop'⟩]), e, by simp,
        .parens rfl hd rfl, ?_⟩
      exact Parsed.parens_of (t := ⟨.openParen, start, stop⟩)
        (z := ⟨.closeParen, start', stop'⟩) e
    · cases h
  · cases h

end

theorem sound (ending : Ending) (n : Nat) : Sound ending n := by
  induction n with
  | zero =>
    -- No function returns anything without depth.
    constructor
    all_goals intros; simp_all [parsePipe, parsePipes, parsePipeArgs, parseConditional, parseBinary,
      parseOperators, parseNegation, parseChain, parseArgs, parsePrimary]
  | succ n ih =>
    exact ⟨parsePipe_sound ih, parsePipes_sound ih, parsePipeArgs_sound ih,
      parseConditional_sound ih, parseBinary_sound ih, parseOperators_sound ih,
      parseNegation_sound ih, parseChain_sound ih, parseArgs_sound ih, parsePrimary_sound ih⟩

-- ---------------------------------------------------------------------------
-- Completeness
-- ---------------------------------------------------------------------------

def Level.goesOn : Level → Terminal → Bool
  | .primary, _ => false
  | _, .dot | _, .openBracket | _, .openParen => true
  | .binary level, .operator op => level ≤ op.level
  | .conditional, .operator _ | .conditional, .question => true
  | .pipe, .operator _ | .pipe, .question | .pipe, .colon | .pipe, .bar => true
  | _, _ => false

def Stops (level : Level) (rest : List Token) : Prop :=
  ∀ token ∈ rest.head?, level.goesOn token.terminal = false

def StopsOrPipes (rest : List Token) : Prop :=
  ∀ token ∈ rest.head?, Level.pipe.goesOn token.terminal = false ∨ token.terminal = .bar

theorem Stops.weaken {loose tight : Level} {rest : List Token} (h : Stops loose rest)
    (hw : ∀ t, tight.goesOn t = true → loose.goesOn t = true) : Stops tight rest := by
  intro token ht
  by_contra hg
  have := hw token.terminal (by simpa using hg)
  rw [h token ht] at this
  cases this

theorem goesOn_binary_succ (level : Nat) (t : Terminal)
    (h : (Level.binary (level + 1)).goesOn t = true) : (Level.binary level).goesOn t = true := by
  cases t with
  | operator op =>
    simp only [Level.goesOn, decide_eq_true_eq] at h ⊢
    omega
  | _ => exact h

theorem goesOn_chain_binary (level : Nat) (t : Terminal)
    (h : Level.chain.goesOn t = true) : (Level.binary level).goesOn t = true := by
  cases t <;> simp_all [Level.goesOn]

theorem goesOn_binary_conditional (t : Terminal)
    (h : (Level.binary 0).goesOn t = true) : Level.conditional.goesOn t = true := by
  cases t <;> simp_all [Level.goesOn]

theorem goesOn_conditional_pipe (t : Terminal)
    (h : Level.conditional.goesOn t = true) : Level.pipe.goesOn t = true ∧ t ≠ .bar := by
  cases t <;> simp_all [Level.goesOn]

theorem StopsOrPipes.stops_conditional {rest : List Token} (h : StopsOrPipes rest) :
    Stops .conditional rest := by
  intro token ht
  by_contra hg
  obtain ⟨hp, hb⟩ := goesOn_conditional_pipe token.terminal (by simpa using hg)
  rcases h token ht with hs | hs
  · rw [hp] at hs
    cases hs
  · exact hb hs

section
variable {ending : Ending} {m : Nat} {p : Parsed} {rest : List Token}

theorem parseChain_stops (h : Stops .chain rest) (hm : 0 < m) :
    parseChain ending m p rest = .ok (p, rest) := by
  obtain ⟨n, rfl⟩ : ∃ n, m = n + 1 := ⟨m - 1, by omega⟩
  cases rest with
  | nil => rfl
  | cons token rest =>
    obtain ⟨t, start, stop⟩ := token
    have ht := h _ rfl
    cases t <;> first | rfl | cases ht

theorem parseOperators_stops {level : Nat} (h : Stops (.binary level) rest) (hm : 0 < m) :
    parseOperators ending m level p rest = .ok (p, rest) := by
  obtain ⟨n, rfl⟩ : ∃ n, m = n + 1 := ⟨m - 1, by omega⟩
  cases rest with
  | nil => rfl
  | cons token rest =>
    obtain ⟨t, start, stop⟩ := token
    have ht := h _ rfl
    cases t with
    | operator op =>
      have hlevel : op.level ≠ level := by
        simp only [Level.goesOn, decide_eq_false_iff_not] at ht
        omega
      simp [parseOperators, hlevel]
    | _ => rfl

theorem parsePipes_stops (h : Stops .pipe rest) (hm : 0 < m) :
    parsePipes ending m p rest = .ok (p, rest) := by
  obtain ⟨n, rfl⟩ : ∃ n, m = n + 1 := ⟨m - 1, by omega⟩
  cases rest with
  | nil => rfl
  | cons token rest =>
    obtain ⟨t, start, stop⟩ := token
    have ht := h _ rfl
    cases t <;> first | rfl | cases ht

end

/-- Goes on behind an expression of one level of operators; the top level has none. -/
def resumeBinary (ending : Ending) (m level : Nat) (p : Parsed) (rest : List Token) :
    Attempt (Parsed × List Token) :=
  if level < BinaryOp.topLevel then parseOperators ending m level p rest else .ok (p, rest)

theorem resumeBinary_stops {ending : Ending} {m level : Nat} {p : Parsed} {rest : List Token}
    (h : Stops (.binary level) rest) (hm : 0 < m) :
    resumeBinary ending m level p rest = .ok (p, rest) := by
  unfold resumeBinary
  split
  · exact parseOperators_stops h hm
  · rfl

/-- Parsing the tokens with enough depth gives the expression. Where a level is
left-recursive, parsing arrives at the loop that goes on behind the expression,
with at most one call spent for each token. -/
def Completes (ending : Ending) : Level → List Token → Expr → Prop
  | .primary, ts, e | .chain, ts, e => ∀ {n r}, 16 * ts.length + 1 ≤ n →
      ∃ m, n ≤ m + ts.length ∧
        parseNegation ending n (ts ++ r) = parseChain ending m (.of ts e) r
  | .negation, ts, e => ∀ {n r}, 16 * ts.length + 1 ≤ n → Stops .chain r →
      parseNegation ending n (ts ++ r) = .ok (.of ts e, r)
  | .binary level, ts, e => ∀ {n r}, 16 * ts.length + 8 ≤ n + level →
      Stops (.binary (level + 1)) r → ∃ m, n ≤ m + ts.length ∧
        parseBinary ending n level (ts ++ r) = resumeBinary ending m level (.of ts e) r
  | .conditional, ts, e => ∀ {n r}, 16 * ts.length + 9 ≤ n → Stops .conditional r →
      parseConditional ending n (ts ++ r) = .ok (.of ts e, r)
  | .pipe, ts, e => ∀ {n r}, 16 * ts.length + 10 ≤ n → StopsOrPipes r →
      ∃ m, n ≤ m + ts.length ∧
        parsePipe ending n (ts ++ r) = parsePipes ending m (.of ts e) r

section
variable {ending : Ending} {ts left right key first : List Token} {e l r k f : Expr}
variable {opening closing mark : Token}

theorem Completes.parsePipe_eq (h : Completes ending .pipe ts e) (hne : ts ≠ []) {n : Nat}
    {r : List Token} (hn : 16 * ts.length + 10 ≤ n) (hs : Stops .pipe r) :
    parsePipe ending n (ts ++ r) = .ok (.of ts e, r) := by
  obtain ⟨m, hm, hp⟩ := h hn fun token ht => .inl (hs token ht)
  have hlen := List.length_pos_iff.mpr hne
  rw [hp, parsePipes_stops hs (by omega)]

theorem Completes.parseBinary_eq {level : Nat} (h : Completes ending (.binary level) ts e)
    (hne : ts ≠ []) (hl : level ≤ BinaryOp.topLevel) {n : Nat} {r : List Token}
    (hn : 16 * ts.length + 8 ≤ n + level) (hs : Stops (.binary level) r) :
    parseBinary ending n level (ts ++ r) = .ok (.of ts e, r) := by
  obtain ⟨m, hm, hp⟩ := h hn (hs.weaken (goesOn_binary_succ level))
  have hlen := List.length_pos_iff.mpr hne
  have htop : BinaryOp.topLevel = 6 := rfl
  rw [hp, resumeBinary_stops hs (by omega)]

theorem complete_operand (hd : ts ≠ []) (ih : Completes ending .negation ts e) :
    Completes ending (.binary BinaryOp.topLevel) ts e := by
  intro n rest hn hs
  have htop : BinaryOp.topLevel = 6 := rfl
  have hlen := List.length_pos_iff.mpr hd
  obtain ⟨k, rfl⟩ : ∃ k, n = k + 1 := ⟨n - 1, by omega⟩
  refine ⟨k + 1, by omega, ?_⟩
  rw [parseBinary, if_neg (Nat.lt_irrefl _), resumeBinary, if_neg (Nat.lt_irrefl _)]
  exact ih (by omega) (hs.weaken (goesOn_chain_binary _))

theorem complete_tighter {level : Nat} (hl : level < BinaryOp.topLevel) (hd : ts ≠ [])
    (ih : Completes ending (.binary (level + 1)) ts e) :
    Completes ending (.binary level) ts e := by
  intro n rest hn hs
  have hlen := List.length_pos_iff.mpr hd
  have htop : BinaryOp.topLevel = 6 := rfl
  obtain ⟨k, rfl⟩ : ∃ k, n = k + 1 := ⟨n - 1, by omega⟩
  refine ⟨k, by omega, ?_⟩
  have hp := ih.parseBinary_eq hd hl (n := k) (by omega) hs
  simp only [parseBinary, if_pos hl, hp, resumeBinary]
  rfl

theorem complete_operator {op : BinaryOp} (hm : mark.terminal = .operator op) (hl : left ≠ [])
    (hr : right ≠ []) (ihl : Completes ending (.binary op.level) left l)
    (ihr : Completes ending (.binary (op.level + 1)) right r) :
    Completes ending (.binary op.level) (left ++ mark :: right)
      (.binary (extent (left ++ mark :: right)) op l r) := by
  intro n rest hn hs
  obtain ⟨terminal, start, stop⟩ := mark
  cases hm
  have hlt := op.level_lt_topLevel
  have htop : BinaryOp.topLevel = 6 := rfl
  simp only [List.length_append, List.length_cons] at hn
  have hsign : Stops (.binary (op.level + 1)) (⟨.operator op, start, stop⟩ :: (right ++ rest)) := by
    rintro token ⟨⟩
    simp [Level.goesOn]
  obtain ⟨m, hm, hp⟩ := ihl (n := n) (by omega) hsign
  obtain ⟨k, rfl⟩ : ∃ k, m = k + 1 := ⟨m - 1, by omega⟩
  have hq := ihr.parseBinary_eq hr hlt (n := k) (by omega) hs
  refine ⟨k, by simp only [List.length_append, List.length_cons]; omega, ?_⟩
  rw [List.append_assoc, List.cons_append, hp, resumeBinary, if_pos hlt, resumeBinary, if_pos hlt,
    ← Parsed.binary_of op l r hl hr]
  simp only [parseOperators, if_pos, hq]
  rfl

theorem complete_positive (hd : ts ≠ []) (ih : Completes ending .chain ts e) :
    Completes ending .negation ts e := by
  intro n rest hn hs
  have hlen := List.length_pos_iff.mpr hd
  obtain ⟨m, hm, hp⟩ := ih hn (r := rest)
  rw [hp, parseChain_stops hs (by omega)]

theorem complete_negated (hm : mark.terminal = .bang) (hd : ts ≠ [])
    (ih : Completes ending .negation ts e) :
    Completes ending .negation (mark :: ts) (.not (extent (mark :: ts)) e) := by
  intro n rest hn hs
  obtain ⟨terminal, start, stop⟩ := mark
  cases hm
  simp only [List.length_cons] at hn
  obtain ⟨k, rfl⟩ : ∃ k, n = k + 1 := ⟨n - 1, by omega⟩
  have hp := ih (n := k) (by omega) hs
  rw [List.cons_append, parseNegation, hp, ← Parsed.not_of e hd]
  rfl

theorem complete_conditional (hd : ts ≠ []) (ih : Completes ending (.binary 0) ts e) :
    Completes ending .conditional ts e := by
  intro n rest hn hs
  obtain ⟨k, rfl⟩ : ∃ k, n = k + 1 := ⟨n - 1, by omega⟩
  have hp := ih.parseBinary_eq hd (Nat.zero_le _) (n := k) (by omega)
    (hs.weaken goesOn_binary_conditional)
  simp only [parseConditional, hp]
  cases rest with
  | nil => rfl
  | cons token rest =>
    obtain ⟨t, start, stop⟩ := token
    have ht := hs _ rfl
    cases t <;> first | rfl | cases ht

theorem complete_choice {condition yes no : List Token} {c y n : Expr} {question colon : Token}
    (hq : question.terminal = .question) (hc : colon.terminal = .colon) (hdc : condition ≠ [])
    (hdn : no ≠ []) (ihc : Completes ending (.binary 0) condition c)
    (ihy : Completes ending .conditional yes y) (ihn : Completes ending .conditional no n) :
    Completes ending .conditional (condition ++ question :: (yes ++ colon :: no))
      (.conditional (extent (condition ++ question :: (yes ++ colon :: no))) c y n) := by
  intro depth rest hn hs
  obtain ⟨t, start, stop⟩ := question
  cases hq
  obtain ⟨t', start', stop'⟩ := colon
  cases hc
  simp only [List.length_append, List.length_cons] at hn
  obtain ⟨k, rfl⟩ : ∃ k, depth = k + 1 := ⟨depth - 1, by omega⟩
  have hcond := ihc.parseBinary_eq hdc (Nat.zero_le _) (n := k)
    (r := ⟨.question, start, stop⟩ :: (yes ++ ⟨.colon, start', stop'⟩ :: (no ++ rest)))
    (by omega) (by rintro token ⟨⟩; rfl)
  have hyes := ihy (n := k) (r := ⟨.colon, start', stop'⟩ :: (no ++ rest)) (by omega)
    (by rintro token ⟨⟩; rfl)
  have hno := ihn (n := k) (r := rest) (by omega) hs
  rw [← Parsed.conditional_of c y n hdc hdn]
  simp only [List.append_assoc, List.cons_append, parseConditional, hcond]
  simp only [bind, Except.bind, hyes, hno]

theorem complete_bare (hd : ts ≠ []) (ih : Completes ending .conditional ts e) :
    Completes ending .pipe ts e := by
  intro n rest hn hs
  have hlen := List.length_pos_iff.mpr hd
  obtain ⟨k, rfl⟩ : ∃ k, n = k + 1 := ⟨n - 1, by omega⟩
  refine ⟨k, by omega, ?_⟩
  rw [parsePipe, ih (by omega) hs.stops_conditional]
  rfl

theorem parsePipeArgs_complete {args : List Argument} {b rest : List Token} {n : Nat}
    (hm : ∀ arg ∈ args, arg.mark.terminal = .colon)
    (hd : ∀ arg ∈ args, arg.tokens ≠ [])
    (ih : ∀ arg ∈ args, Completes ending .conditional arg.tokens arg.expr)
    (hn : 16 * (argumentTokens args).length + 1 ≤ n) (hs : StopsOrPipes rest) :
    parsePipeArgs ending n (stopOf b) (argumentTokens args ++ rest) =
      .ok ((args.map Argument.expr, stopOf (b ++ argumentTokens args)), rest) := by
  induction args generalizing b n with
  | nil =>
    obtain ⟨k, rfl⟩ : ∃ k, n = k + 1 := ⟨n - 1, by omega⟩
    cases rest with
    | nil => simp [parsePipeArgs]
    | cons token rest =>
      obtain ⟨t, start, stop⟩ := token
      have ht := hs _ rfl
      cases t <;> simp_all [parsePipeArgs, Level.goesOn]
  | cons arg args iha =>
    obtain ⟨k, rfl⟩ : ∃ k, n = k + 1 := ⟨n - 1, by omega⟩
    obtain ⟨⟨t, start, stop⟩, tokens, e⟩ := arg
    simp only [List.forall_mem_cons] at hm hd ih
    obtain ⟨⟨⟩, hms⟩ := hm
    obtain ⟨hne, hds⟩ := hd
    obtain ⟨ihe, ihs⟩ := ih
    simp only [argumentTokens_cons, List.length_cons, List.length_append] at hn
    have hnext : Stops .conditional (argumentTokens args ++ rest) := by
      cases args with
      | nil => exact hs.stops_conditional
      | cons next others =>
        rintro token ⟨⟩
        rw [hms next (.head _)]
        rfl
    have hfirst := ihe (n := k) (by omega) hnext
    have hrest := iha (b := tokens) (n := k) hms hds ihs (by omega)
    have hstop : stopOf (b ++ ⟨.colon, start, stop⟩ :: (tokens ++ argumentTokens args)) =
        stopOf (tokens ++ argumentTokens args) := by
      rw [stopOf_append (List.cons_ne_nil _ _), stopOf_cons (by simp [hne])]
    simp only [argumentTokens_cons, List.cons_append, List.append_assoc, parsePipeArgs, hfirst]
    simp only [bind, Except.bind, Parsed.of, hrest, hstop, List.map_cons]

theorem complete_piped {name : Token} {text : Chars} {args : List Argument}
    (hb : mark.terminal = .bar) (hname : name.terminal = .name text) (hd : ts ≠ [])
    (hm : ∀ arg ∈ args, arg.mark.terminal = .colon) (hds : ∀ arg ∈ args, arg.tokens ≠ [])
    (ih : Completes ending .pipe ts e)
    (iha : ∀ arg ∈ args, Completes ending .conditional arg.tokens arg.expr) :
    Completes ending .pipe (ts ++ mark :: name :: argumentTokens args)
      (.pipe (extent (ts ++ mark :: name :: argumentTokens args)) e text
        (args.map Argument.expr)) := by
  intro n rest hn hs
  obtain ⟨t, start, stop⟩ := mark
  cases hb
  obtain ⟨t', start', stop'⟩ := name
  cases hname
  simp only [List.length_append, List.length_cons] at hn
  obtain ⟨m, hm', hp⟩ := ih (n := n) (r := ⟨.bar, start, stop⟩ :: ⟨.name text, start', stop'⟩ ::
    (argumentTokens args ++ rest)) (by omega) (by rintro token ⟨⟩; exact .inr rfl)
  obtain ⟨k, rfl⟩ : ∃ k, m = k + 1 := ⟨m - 1, by omega⟩
  have hargs := parsePipeArgs_complete (b := [⟨.name text, start', stop'⟩]) (n := k) hm hds iha
    (by omega) hs
  refine ⟨k, by simp only [List.length_append, List.length_cons]; omega, ?_⟩
  rw [← Parsed.pipe_of e text _ hd]
  simp only [List.append_assoc, List.cons_append, hp, parsePipes]
  simp only [stopOf_singleton, List.singleton_append] at hargs
  rw [hargs]
  rfl

theorem parseArgs_complete {args : List Argument} {r : List Token} {n : Nat}
    (hd : first ≠ []) (hm : ∀ arg ∈ args, arg.mark.terminal = .comma)
    (hds : ∀ arg ∈ args, arg.tokens ≠ []) (ih : Completes ending .pipe first f)
    (iha : ∀ arg ∈ args, Completes ending .pipe arg.tokens arg.expr)
    (hn : 16 * (first.length + (argumentTokens args).length) + 11 ≤ n)
    (hc : closing.terminal = .closeParen) :
    parseArgs ending n (first ++ (argumentTokens args ++ closing :: r)) =
      .ok (f :: args.map Argument.expr, closing :: r) := by
  induction args generalizing first f n with
  | nil =>
    obtain ⟨k, rfl⟩ : ∃ k, n = k + 1 := ⟨n - 1, by omega⟩
    have hfirst := ih.parsePipe_eq hd (n := k) (r := closing :: r) (by simp at hn; omega)
      (by rintro token ⟨⟩; rw [hc]; rfl)
    obtain ⟨t, start, stop⟩ := closing
    cases hc
    simp only [argumentTokens_nil, List.nil_append, parseArgs, hfirst]
    rfl
  | cons arg args ihargs =>
    obtain ⟨k, rfl⟩ : ∃ k, n = k + 1 := ⟨n - 1, by omega⟩
    obtain ⟨⟨t, start, stop⟩, tokens, g⟩ := arg
    simp only [List.forall_mem_cons] at hm hds iha
    obtain ⟨⟨⟩, hms⟩ := hm
    obtain ⟨hne, hds'⟩ := hds
    obtain ⟨ihg, ihs⟩ := iha
    simp only [argumentTokens_cons, List.length_cons, List.length_append] at hn
    have hfirst := ih.parsePipe_eq hd (n := k)
      (r := ⟨.comma, start, stop⟩ :: (tokens ++ (argumentTokens args ++ closing :: r)))
      (by omega) (by rintro token ⟨⟩; rfl)
    have hrest := ihargs (n := k) hne hms hds' ihg ihs (by omega)
    simp only [argumentTokens_cons, List.cons_append, List.append_assoc, parseArgs, hfirst]
    simp only [bind, Except.bind, hrest, Parsed.of, List.map_cons]

theorem complete_property {name : Token} {text : Chars} (hm : mark.terminal = .dot)
    (hname : name.terminal = .name text) (hd : ts ≠ []) (ih : Completes ending .chain ts e) :
    Completes ending .chain (ts ++ [mark, name])
      (.propertyRead (extent (ts ++ [mark, name])) e text) := by
  intro n rest hn
  obtain ⟨t, start, stop⟩ := mark
  cases hm
  obtain ⟨t', start', stop'⟩ := name
  cases hname
  simp only [List.length_append, List.length_cons, List.length_nil] at hn
  obtain ⟨m, hm, hp⟩ := ih (n := n) (by omega)
    (r := ⟨.dot, start, stop⟩ :: ⟨.name text, start', stop'⟩ :: rest)
  obtain ⟨k, rfl⟩ : ∃ k, m = k + 1 := ⟨m - 1, by omega⟩
  refine ⟨k, by simp only [List.length_append, List.length_cons, List.length_nil]; omega, ?_⟩
  rw [← Parsed.property_of e text hd]
  simp only [List.append_assoc, List.cons_append, List.nil_append, hp, parseChain]

theorem complete_keyed (ho : opening.terminal = .openBracket)
    (hc : closing.terminal = .closeBracket) (hd : ts ≠ []) (hk : key ≠ [])
    (ih : Completes ending .chain ts e) (ihk : Completes ending .pipe key k) :
    Completes ending .chain (ts ++ opening :: (key ++ [closing]))
      (.keyedRead (extent (ts ++ opening :: (key ++ [closing]))) e k) := by
  intro n rest hn
  obtain ⟨t, start, stop⟩ := opening
  cases ho
  obtain ⟨t', start', stop'⟩ := closing
  cases hc
  simp only [List.length_append, List.length_cons, List.length_nil] at hn
  obtain ⟨m, hm, hp⟩ := ih (n := n) (by omega)
    (r := ⟨.openBracket, start, stop⟩ :: (key ++ ⟨.closeBracket, start', stop'⟩ :: rest))
  obtain ⟨d, rfl⟩ : ∃ d, m = d + 1 := ⟨m - 1, by omega⟩
  have hkey := ihk.parsePipe_eq hk (n := d) (r := ⟨.closeBracket, start', stop'⟩ :: rest)
    (by omega) (by rintro token ⟨⟩; rfl)
  refine ⟨d, by simp only [List.length_append, List.length_cons, List.length_nil]; omega, ?_⟩
  rw [← Parsed.keyed_of e k hd]
  simp only [List.append_assoc, List.cons_append, List.nil_append, hp, parseChain, hkey]
  rfl

theorem complete_called (ho : opening.terminal = .openParen)
    (hc : closing.terminal = .closeParen) (hd : ts ≠ []) (ih : Completes ending .chain ts e) :
    Completes ending .chain (ts ++ [opening, closing])
      (.call (extent (ts ++ [opening, closing])) e []) := by
  intro n rest hn
  obtain ⟨t, start, stop⟩ := opening
  cases ho
  obtain ⟨t', start', stop'⟩ := closing
  cases hc
  simp only [List.length_append, List.length_cons, List.length_nil] at hn
  obtain ⟨m, hm, hp⟩ := ih (n := n) (by omega)
    (r := ⟨.openParen, start, stop⟩ :: ⟨.closeParen, start', stop'⟩ :: rest)
  obtain ⟨d, rfl⟩ : ∃ d, m = d + 1 := ⟨m - 1, by omega⟩
  refine ⟨d, by simp only [List.length_append, List.length_cons, List.length_nil]; omega, ?_⟩
  have hcall := Parsed.call_of (m := ⟨.openParen, start, stop⟩) (q := [])
    (z := ⟨.closeParen, start', stop'⟩) e [] hd
  simp only [List.nil_append] at hcall
  rw [← hcall]
  simp only [List.append_assoc, List.cons_append, List.nil_append, hp, parseChain]

def Terminal.opens : Terminal → Bool
  | .name _ | .integer _ | .decimal _ _ | .string _ _ | .openParen | .bang => true
  | _ => false

theorem Derives.opens_head {level : Level} (h : Derives level ts e) :
    ∀ token ∈ ts.head?, token.terminal.opens = true := by
  induction h with
  | bare _ ih | plain _ ih | tighter _ _ ih | operand _ ih | positive _ ih | single _ ih => exact ih
  | piped hd _ _ _ _ ih | operator hd _ _ ih | property hd _ _ ih | called hd _ _ ih =>
    rw [List.head?_append, Option.or_of_isSome (by simp [hd.ne_nil])]
    exact ih
  | choice hd _ _ _ _ ih | keyed hd _ _ _ ih | calledWith hd _ _ _ _ _ ih =>
    rw [List.head?_append, Option.or_of_isSome (by simp [hd.ne_nil])]
    exact ih
  | negated ht | name ht | integer ht | decimal ht | string ht | parens ht =>
    rintro token ⟨⟩
    rw [ht]
    rfl

theorem complete_calledWith {args : List Argument} (ho : opening.terminal = .openParen)
    (hc : closing.terminal = .closeParen) (hd : ts ≠ []) (hf : Derives .pipe first f)
    (hm : ∀ arg ∈ args, arg.mark.terminal = .comma) (hds : ∀ arg ∈ args, arg.tokens ≠ [])
    (ih : Completes ending .chain ts e) (ihf : Completes ending .pipe first f)
    (iha : ∀ arg ∈ args, Completes ending .pipe arg.tokens arg.expr) :
    Completes ending .chain (ts ++ opening :: (first ++ (argumentTokens args ++ [closing])))
      (.call (extent (ts ++ opening :: (first ++ (argumentTokens args ++ [closing])))) e
        (f :: args.map Argument.expr)) := by
  intro n rest hn
  obtain ⟨t, start, stop⟩ := opening
  cases ho
  simp only [List.length_append, List.length_cons, List.length_nil] at hn
  obtain ⟨m, hm', hp⟩ := ih (n := n) (by omega)
    (r := ⟨.openParen, start, stop⟩ :: (first ++ (argumentTokens args ++ closing :: rest)))
  obtain ⟨d, rfl⟩ : ∃ d, m = d + 1 := ⟨m - 1, by omega⟩
  have hargs := parseArgs_complete (n := d) (r := rest) hf.ne_nil hm hds ihf iha (by omega) hc
  obtain ⟨t', start', stop'⟩ := closing
  cases hc
  refine ⟨d, by simp only [List.length_append, List.length_cons, List.length_nil]; omega, ?_⟩
  rw [← List.append_assoc first, ← Parsed.call_of e _ hd]
  simp only [List.append_assoc, List.cons_append, List.nil_append, hp]
  obtain ⟨head, tail, rfl⟩ := List.exists_cons_of_ne_nil hf.ne_nil
  have hhead := hf.opens_head head rfl
  obtain ⟨t, start, stop⟩ := head
  -- What an expression begins with is not taken for the end of an empty list.
  cases t with
  | closeParen => cases hhead
  | _ =>
    simp only [List.cons_append] at hargs ⊢
    simp only [parseChain, hargs]
    rfl

theorem complete_name {token : Token} {text : Chars} (ht : token.terminal = .name text) :
    Completes ending .primary [token] (.ofName (extent [token]) text) := by
  intro n rest hn
  obtain ⟨t, start, stop⟩ := token
  cases ht
  obtain ⟨k, rfl⟩ : ∃ k, n = k + 2 := ⟨n - 2, by simp at hn; omega⟩
  exact ⟨k + 1, Nat.le_refl _, rfl⟩

theorem complete_literal {token : Token} {value : Literal}
    (ht : ∀ {n rest}, parsePrimary ending (n + 1) (token :: rest) =
      .ok (.literal token.start token.stop value, rest)) (hb : token.terminal ≠ .bang) :
    Completes ending .primary [token] (.literal (extent [token]) value) := by
  intro n rest hn
  obtain ⟨k, rfl⟩ : ∃ k, n = k + 2 := ⟨n - 2, by simp at hn; omega⟩
  refine ⟨k + 1, Nat.le_refl _, ?_⟩
  rw [List.singleton_append, parseNegation, ht]
  · rfl
  · rintro start stop tail ⟨rfl, rfl⟩
    exact hb rfl

theorem complete_parens (ho : opening.terminal = .openParen)
    (hc : closing.terminal = .closeParen) (hd : ts ≠ []) (ih : Completes ending .pipe ts e) :
    Completes ending .primary (opening :: (ts ++ [closing])) e := by
  intro n rest hn
  obtain ⟨t, start, stop⟩ := opening
  cases ho
  obtain ⟨t', start', stop'⟩ := closing
  cases hc
  simp only [List.length_append, List.length_cons, List.length_nil] at hn
  obtain ⟨k, rfl⟩ : ∃ k, n = k + 2 := ⟨n - 2, by omega⟩
  have hp := ih.parsePipe_eq hd (n := k) (r := ⟨.closeParen, start', stop'⟩ :: rest)
    (by omega) (by rintro token ⟨⟩; rfl)
  refine ⟨k + 1, by simp only [List.length_append, List.length_cons]; omega, ?_⟩
  rw [← Parsed.parens_of e]
  simp only [List.cons_append, List.append_assoc, List.nil_append, parseNegation, parsePrimary, hp]
  rfl

end

theorem Derives.complete {ending : Ending} {level : Level} {ts : List Token} {e : Expr}
    (h : Derives level ts e) : Completes ending level ts e := by
  induction h with
  | bare hd ih => exact complete_bare hd.ne_nil ih
  | piped hd hb hn hm hds ih ihs =>
    exact complete_piped hb hn hd.ne_nil hm (fun arg ha => (hds arg ha).ne_nil) ih ihs
  | plain hd ih => exact complete_conditional hd.ne_nil ih
  | choice hc hq _ hcolon hn ihc ihy ihn =>
    exact complete_choice hq hcolon hc.ne_nil hn.ne_nil ihc ihy ihn
  | tighter hl hd ih => exact complete_tighter hl hd.ne_nil ih
  | operator hl hs hr ihl ihr => exact complete_operator hs hl.ne_nil hr.ne_nil ihl ihr
  | operand hd ih => exact complete_operand hd.ne_nil ih
  | positive hd ih => exact complete_positive hd.ne_nil ih
  | negated hb hd ih => exact complete_negated hb hd.ne_nil ih
  | single _ ih => exact ih
  | property hd hdot hn ih => exact complete_property hdot hn hd.ne_nil ih
  | keyed hd ho hk hc ih ihk => exact complete_keyed ho hc hd.ne_nil hk.ne_nil ih ihk
  | called hd ho hc ih => exact complete_called ho hc hd.ne_nil ih
  | calledWith hd ho hf hm hds hc ih ihf ihs =>
    exact complete_calledWith ho hc hd.ne_nil hf hm (fun arg ha => (hds arg ha).ne_nil) ih ihf ihs
  | name ht => exact complete_name ht
  | @integer token _ ht | @decimal token _ _ ht | @string token _ _ ht =>
    obtain ⟨t, start, stop⟩ := token
    cases ht
    exact complete_literal rfl (by simp)
  | parens ho hd hc ih => exact complete_parens ho hc hd.ne_nil ih

-- ---------------------------------------------------------------------------
-- Outcomes
-- ---------------------------------------------------------------------------

theorem parseTokens_eq_ok {tokens : List Token} {ending : Ending} {e : Expr} :
    parseTokens tokens ending = .ok e ↔ ending = .complete ∧ Derives .pipe tokens e := by
  constructor
  · intro h
    simp only [parseTokens, bind_eq_ok] at h
    obtain ⟨⟨p, rest⟩, hp, h⟩ := h
    obtain ⟨used, e, rfl, hd, rfl⟩ := (sound ending _).pipe hp
    dsimp only at h
    split at h
    · cases h
      exact ⟨rfl, by simpa [Parsed.of] using hd⟩
    · cases h
  · rintro ⟨rfl, hd⟩
    have hc : Completes .complete .pipe tokens e := hd.complete
    have hp := Completes.parsePipe_eq hc hd.ne_nil (n := depthFor tokens) (r := [])
      (by unfold depthFor; omega) (by simp [Stops])
    rw [List.append_nil] at hp
    simp only [parseTokens, hp]
    rfl

theorem forms_iff {source : Chars} {offset : Int} {ts : List Token} {e : Expr} :
    Forms source offset ts e ↔
      tokens .operand offset source = (ts, .complete) ∧ Derives .pipe ts e := by
  constructor
  · rintro ⟨hc, hd⟩
    have hr : (Awaits.operand.run ts).isSome := by simp [hd.run_tokens]
    exact ⟨hc.tokens_eq hr, hd⟩
  · rintro ⟨ht, hd⟩
    exact ⟨tokens_cuts ht, hd⟩

theorem Derives.unique {ts : List Token} {e e' : Expr} (h : Derives .pipe ts e)
    (h' : Derives .pipe ts e') : e = e' := by
  have hp := parseTokens_eq_ok.mpr ⟨rfl, h⟩
  have hp' := parseTokens_eq_ok.mpr ⟨rfl, h'⟩
  exact Except.ok.inj (hp.symm.trans hp')

theorem Forms.unique {source : Chars} {offset : Int} {ts ts' : List Token} {e e' : Expr}
    (h : Forms source offset ts e) (h' : Forms source offset ts' e') : ts = ts' ∧ e = e' := by
  obtain ⟨ht, hd⟩ := forms_iff.mp h
  obtain ⟨ht', hd'⟩ := forms_iff.mp h'
  obtain ⟨rfl, -⟩ := Prod.mk.inj (ht.symm.trans ht')
  exact ⟨rfl, hd.unique hd'⟩

theorem any_oversized {ts : List Token} :
    ts.any (·.terminal.oversized) = true ↔ HasOversized ts := by
  simp only [List.any_eq_true, HasOversized]
  refine exists_congr fun token => and_congr_right fun _ => ?_
  cases token.terminal <;> simp [Terminal.oversized]

end TemplateTree.Expression

namespace TemplateTree

open Text (Chars)
open Expression

theorem Expr.parse_of_forms {source : Chars} {offset : Int} {ts : List Token} {e : Expr}
    (hb : Text.allBlank source = false) (h : Forms source offset ts e) :
    Expr.parse source offset =
      if ts.any (·.terminal.oversized) then .error .oversizedInteger else .ok e := by
  obtain ⟨ht, hd⟩ := forms_iff.mp h
  simp only [Expr.parse, hb, ht, parseTokens_eq_ok.mpr ⟨rfl, hd⟩]
  rfl

theorem Expr.parse_of_not_forms {source : Chars} {offset : Int}
    (hb : Text.allBlank source = false) (h : ¬ ∃ ts e, Forms source offset ts e) :
    ∃ cause, Expr.parse source offset = .error (.binding ⟨.invalid cause, source, offset⟩) := by
  rcases ht : tokens .operand offset source with ⟨ts, ending⟩
  cases hp : parseTokens ts ending with
  | ok e =>
    obtain ⟨rfl, hd⟩ := parseTokens_eq_ok.mp hp
    exact absurd ⟨ts, e, forms_iff.mpr ⟨ht, hd⟩⟩ h
  | error cause =>
    refine ⟨cause, ?_⟩
    simp only [Expr.parse, hb, ht, hp]
    rfl

/-- Parsing a text that is not blank accepts what the grammar derives and gives
the one expression it derives; a literal that is too long is refused as such, and
every other text is refused with the text and its offset. -/
theorem Expr.parse_iff_derives (source : Chars) (offset : Int)
    (hb : Text.allBlank source = false) :
    (∀ e, Expr.parse source offset = .ok e ↔
      ∃ ts, Forms source offset ts e ∧ ¬ HasOversized ts) ∧
    (∀ ts ts' e e', Forms source offset ts e → Forms source offset ts' e' → ts = ts' ∧ e = e') ∧
    (Expr.parse source offset = .error .oversizedInteger ↔
      ∃ ts e, Forms source offset ts e ∧ HasOversized ts) ∧
    ((∃ cause, Expr.parse source offset = .error (.binding ⟨.invalid cause, source, offset⟩)) ↔
      ¬ ∃ ts e, Forms source offset ts e) := by
  have hunique : ∀ ts ts' e e', Forms source offset ts e → Forms source offset ts' e' →
      ts = ts' ∧ e = e' := fun _ _ _ _ h h' => h.unique h'
  by_cases h : ∃ ts e, Forms source offset ts e
  · obtain ⟨ts, e, hf⟩ := h
    have hp := Expr.parse_of_forms hb hf
    have hex : ∃ ts e, Forms source offset ts e := ⟨ts, e, hf⟩
    by_cases hbig : HasOversized ts
    · rw [if_pos (any_oversized.mpr hbig)] at hp
      refine ⟨fun e' => ?_, hunique, ?_, ?_⟩
      · constructor
        · intro h
          rw [hp] at h
          cases h
        · rintro ⟨ts', h', hn⟩
          obtain ⟨rfl, -⟩ := h'.unique hf
          exact absurd hbig hn
      · exact iff_of_true hp ⟨ts, e, hf, hbig⟩
      · simp [hp, hex]
    · rw [if_neg (mt any_oversized.mp hbig)] at hp
      refine ⟨fun e' => ?_, hunique, ?_, ?_⟩
      · constructor
        · intro h
          rw [hp] at h
          cases h
          exact ⟨ts, hf, hbig⟩
        · rintro ⟨ts', h', -⟩
          obtain ⟨-, rfl⟩ := h'.unique hf
          exact hp
      · refine iff_of_false (by simp [hp]) ?_
        rintro ⟨ts', e', h', hbig'⟩
        obtain ⟨rfl, -⟩ := h'.unique hf
        exact hbig hbig'
      · simp [hp, hex]
  · obtain ⟨cause, hp⟩ := Expr.parse_of_not_forms hb h
    refine ⟨fun e => ?_, hunique, ?_, iff_of_true ⟨cause, hp⟩ h⟩
    · exact iff_of_false (by simp [hp]) fun ⟨ts, hf, _⟩ => h ⟨ts, e, hf⟩
    · exact iff_of_false (by simp [hp]) fun ⟨ts, e, hf, _⟩ => h ⟨ts, e, hf⟩

theorem Expr.parse_iff_derives_piped :
    let source := "(a || !b) | c:1".toList
    ∃ e, Expr.parse source 7 = .ok e ∧ ∃ ts, Forms source 7 ts e ∧ ¬ HasOversized ts := by
  obtain ⟨e, he⟩ : ∃ e, Expr.parse "(a || !b) | c:1".toList 7 = .ok e :=
    exists_ok_of_isOk (by decide +kernel)
  exact ⟨e, he, ((Expr.parse_iff_derives _ 7 (by decide +kernel)).1 e).mp he⟩

end TemplateTree
