import TemplateTree.Text.Search

/-!
# Patterns

Patterns over texts, matched from left to right with second thoughts: the outcomes of
a pattern in front of a text are all the ways to match there, the preferred ones first
(`Pattern.mem_outcomes`). The matches found in a text are the first outcomes, each from
where the one before it ended.
-/

namespace TemplateTree.Text

/-- A pattern. A choice tries its first side first; `many` prefers another round and
`few` prefers to stop; a group notes what it has matched. -/
inductive Pattern where
  | nothing
  | char (allowed : Char → Bool)
  | seq (first second : Pattern)
  | either (first second : Pattern)
  | many (item : Pattern)
  | few (item : Pattern)
  | group (name : String) (inner : Pattern)

/-- What the groups have matched, in the order in which they opened. -/
abbrev Groups := List (String × Chars)

structure Outcome where
  matched : Chars
  groups : Groups
  rest : Chars
  deriving DecidableEq, Repr

def Outcome.followedBy (a b : Outcome) : Outcome :=
  ⟨a.matched ++ b.matched, a.groups ++ b.groups, b.rest⟩

def Outcome.named (name : String) (a : Outcome) : Outcome :=
  { a with groups := (name, a.matched) :: a.groups }

namespace Pattern

def rounds (item : Chars → List Outcome) (eager : Bool) (text : Chars) : List Outcome :=
  let more := (item text).flatMap fun first =>
    if _h : first.rest.length < text.length then
      (rounds item eager first.rest).map first.followedBy
    else []
  if eager then more ++ [⟨[], [], text⟩] else ⟨[], [], text⟩ :: more
termination_by text.length

/-- All ways to match in front of a text, the preferred ones first. -/
def outcomes : Pattern → Chars → List Outcome
  | nothing, text => [⟨[], [], text⟩]
  | char _, [] => []
  | char allowed, c :: rest => if allowed c then [⟨[c], [], rest⟩] else []
  | seq p q, text => (p.outcomes text).flatMap fun a => (q.outcomes a.rest).map a.followedBy
  | either p q, text => p.outcomes text ++ q.outcomes text
  | many p, text => rounds p.outcomes true text
  | few p, text => rounds p.outcomes false text
  | group name p, text => (p.outcomes text).map (Outcome.named name)

def oneOrMore (p : Pattern) : Pattern := seq p (many p)

def optional (p : Pattern) : Pattern := either p nothing

def word : Chars → Pattern
  | [] => nothing
  | c :: rest => seq (char (· == c)) (word rest)

def first? (p : Pattern) (text : Chars) : Option Outcome :=
  (p.outcomes text).head?.filter fun a => a.rest.length < text.length

structure Found extends Outcome where
  before : Chars
  deriving DecidableEq, Repr

/-- The matches in a text from left to right; `before` holds what was passed over
since the last one, backwards. -/
def findFrom (p : Pattern) (before text : Chars) : List Found :=
  match _h : p.first? text with
  | some a => ⟨a, before.reverse⟩ :: findFrom p [] a.rest
  | none =>
    match text with
    | [] => []
    | c :: rest => findFrom p (c :: before) rest
termination_by text.length
decreasing_by
  · simpa [first?] using (Option.filter_eq_some_iff.mp _h).2
  · simp

def findAll (p : Pattern) (text : Chars) : List Found := p.findFrom [] text

-- ---------------------------------------------------------------------------
-- All ways to match
-- ---------------------------------------------------------------------------

def Covers : Pattern → Chars → Groups → Prop
  | nothing, matched, groups => matched = [] ∧ groups = []
  | char allowed, matched, groups => ∃ c, allowed c = true ∧ matched = [c] ∧ groups = []
  | seq p q, matched, groups => ∃ front back inFront behind,
      p.Covers front inFront ∧ q.Covers back behind ∧
        matched = front ++ back ∧ groups = inFront ++ behind
  | either p q, matched, groups => p.Covers matched groups ∨ q.Covers matched groups
  | many p, matched, groups | few p, matched, groups => ∃ parts : List (Chars × Groups),
      (∀ part ∈ parts, part.1 ≠ [] ∧ p.Covers part.1 part.2) ∧
        matched = parts.flatMap Prod.fst ∧ groups = parts.flatMap Prod.snd
  | group name p, matched, groups => ∃ inner,
      p.Covers matched inner ∧ groups = (name, matched) :: inner

section
variable {p q : Pattern} {text : Chars} {a b o : Outcome}
variable {item : Chars → List Outcome} {eager : Bool}

theorem mem_rounds : o ∈ rounds item eager text ↔ o = ⟨[], [], text⟩ ∨
    ∃ first ∈ item text, first.rest.length < text.length ∧
      ∃ more ∈ rounds item eager first.rest, o = first.followedBy more := by
  have hmore : (o ∈ (item text).flatMap fun first =>
      if first.rest.length < text.length then (rounds item eager first.rest).map first.followedBy
      else []) ↔ ∃ first ∈ item text, first.rest.length < text.length ∧
        ∃ more ∈ rounds item eager first.rest, o = first.followedBy more := by
    simp only [List.mem_flatMap]
    refine exists_congr fun first => and_congr_right fun _ => ?_
    split
    · rename_i hlt
      simp [hlt, eq_comm]
    · rename_i hge
      simp [hge]
  rw [rounds]
  simp only [dite_eq_ite]
  cases eager
  · rw [if_neg (by decide), List.mem_cons, hmore]
  · rw [if_pos rfl, List.mem_append, hmore, List.mem_singleton, or_comm]

theorem mem_rounds_iff {covers : Chars → Groups → Prop}
    (h : ∀ text o, o ∈ item text ↔ covers o.matched o.groups ∧ o.matched ++ o.rest = text) :
    o ∈ rounds item eager text ↔ (∃ parts : List (Chars × Groups),
      (∀ part ∈ parts, part.1 ≠ [] ∧ covers part.1 part.2) ∧
        o.matched = parts.flatMap Prod.fst ∧ o.groups = parts.flatMap Prod.snd) ∧
      o.matched ++ o.rest = text := by
  induction hlen : text.length using Nat.strongRecOn generalizing text o with
  | ind n ih =>
    subst hlen
    rw [mem_rounds]
    constructor
    · rintro (rfl | ⟨first, hfirst, hlt, more, hmore, rfl⟩)
      · exact ⟨⟨[], by simp, rfl, rfl⟩, rfl⟩
      · obtain ⟨hcovers, htext⟩ := (h _ _).mp hfirst
        obtain ⟨⟨parts, hparts, hm, hg⟩, hrest⟩ := (ih _ hlt rfl).mp hmore
        have hne : first.matched ≠ [] := by
          intro hnil
          rw [← htext, hnil, List.nil_append] at hlt
          exact Nat.lt_irrefl _ hlt
        refine ⟨⟨(first.matched, first.groups) :: parts,
          List.forall_mem_cons.mpr ⟨⟨hne, hcovers⟩, hparts⟩, ?_, ?_⟩, ?_⟩
        · rw [Outcome.followedBy, hm, List.flatMap_cons]
        · rw [Outcome.followedBy, hg, List.flatMap_cons]
        · rw [Outcome.followedBy, List.append_assoc, hrest, htext]
    · rintro ⟨⟨parts, hparts, hm, hg⟩, rfl⟩
      obtain ⟨matched, groups, rest⟩ := o
      dsimp only at hm hg
      subst hm hg
      cases parts with
      | nil => exact .inl rfl
      | cons part parts =>
        obtain ⟨⟨hne, hcovers⟩, hparts⟩ := List.forall_mem_cons.mp hparts
        have hlt : (parts.flatMap Prod.fst ++ rest).length <
            ((part :: parts).flatMap Prod.fst ++ rest).length := by
          have := List.length_pos_iff.mpr hne
          simp only [List.flatMap_cons, List.length_append]
          omega
        refine .inr ⟨⟨part.1, part.2, parts.flatMap Prod.fst ++ rest⟩,
          (h _ _).mpr ⟨hcovers, by simp⟩, hlt,
          ⟨parts.flatMap Prod.fst, parts.flatMap Prod.snd, rest⟩,
          (ih _ hlt rfl).mpr ⟨⟨parts, hparts, rfl, rfl⟩, rfl⟩, ?_⟩
        simp [Outcome.followedBy]

theorem mem_outcomes : o ∈ p.outcomes text ↔
    p.Covers o.matched o.groups ∧ o.matched ++ o.rest = text := by
  induction p generalizing text o with
  | nothing =>
    obtain ⟨matched, groups, rest⟩ := o
    simp only [outcomes, List.mem_singleton, Outcome.mk.injEq, Covers]
    constructor
    · rintro ⟨rfl, rfl, rfl⟩
      exact ⟨⟨rfl, rfl⟩, rfl⟩
    · rintro ⟨⟨rfl, rfl⟩, rfl⟩
      exact ⟨rfl, rfl, rfl⟩
  | char allowed =>
    obtain ⟨matched, groups, rest⟩ := o
    cases text with
    | nil =>
      simp only [outcomes, List.not_mem_nil, Covers, false_iff]
      rintro ⟨⟨c, -, rfl, -⟩, ht⟩
      cases ht
    | cons c text =>
      by_cases hc : allowed c = true
      · simp only [outcomes, hc, ↓reduceIte, List.mem_singleton, Outcome.mk.injEq, Covers]
        constructor
        · rintro ⟨rfl, rfl, rfl⟩
          exact ⟨⟨c, hc, rfl, rfl⟩, rfl⟩
        · rintro ⟨⟨d, -, rfl, rfl⟩, ht⟩
          obtain ⟨rfl, rfl⟩ := List.cons.inj ht
          exact ⟨rfl, rfl, rfl⟩
      · simp only [outcomes, hc, Bool.false_eq_true, ↓reduceIte, List.not_mem_nil, Covers,
          false_iff]
        rintro ⟨⟨d, hd, rfl, rfl⟩, ht⟩
        exact hc ((List.cons.inj ht).1 ▸ hd)
  | seq p q ihp ihq =>
    simp only [outcomes, List.mem_flatMap, List.mem_map, Covers]
    constructor
    · rintro ⟨a, ha, b, hb, rfl⟩
      obtain ⟨hp, rfl⟩ := ihp.mp ha
      obtain ⟨hq, hrest⟩ := ihq.mp hb
      refine ⟨⟨_, _, _, _, hp, hq, rfl, rfl⟩, ?_⟩
      rw [Outcome.followedBy, List.append_assoc, hrest]
    · obtain ⟨matched, groups, rest⟩ := o
      rintro ⟨⟨front, back, inFront, behind, hp, hq, rfl, rfl⟩, rfl⟩
      exact ⟨⟨front, inFront, back ++ rest⟩, ihp.mpr ⟨hp, by simp⟩,
        ⟨back, behind, rest⟩, ihq.mpr ⟨hq, rfl⟩, rfl⟩
  | either p q ihp ihq =>
    simp only [outcomes, List.mem_append, ihp, ihq, Covers, or_and_right]
  | many p ih | few p ih => exact mem_rounds_iff fun _ _ => ih
  | group name p ih =>
    obtain ⟨matched, groups, rest⟩ := o
    simp only [outcomes, List.mem_map, Covers]
    constructor
    · rintro ⟨a, ha, hnamed⟩
      obtain ⟨rfl, rfl, rfl⟩ := Outcome.mk.inj hnamed
      obtain ⟨hp, ht⟩ := ih.mp ha
      exact ⟨⟨a.groups, hp, rfl⟩, ht⟩
    · rintro ⟨⟨inner, hp, rfl⟩, ht⟩
      exact ⟨⟨matched, inner, rest⟩, ih.mpr ⟨hp, ht⟩, rfl⟩

theorem covers_char_eq {c : Char} {matched : Chars} {groups : Groups} :
    (char (· == c)).Covers matched groups ↔ matched = [c] ∧ groups = [] := by
  simp [Covers]

theorem covers_many_char {allowed : Char → Bool} {matched : Chars} {groups : Groups} :
    (many (char allowed)).Covers matched groups ↔
      (∀ c ∈ matched, allowed c = true) ∧ groups = [] := by
  constructor
  · rintro ⟨parts, hparts, rfl, rfl⟩
    constructor
    · intro c hc
      obtain ⟨part, hpart, hc⟩ := List.mem_flatMap.mp hc
      obtain ⟨-, d, hd, hone, -⟩ := hparts part hpart
      rw [hone, List.mem_singleton] at hc
      exact hc ▸ hd
    · refine List.flatMap_eq_nil_iff.mpr fun part hpart => ?_
      obtain ⟨-, d, -, -, hnone⟩ := hparts part hpart
      exact hnone
  · rintro ⟨hall, rfl⟩
    refine ⟨matched.map fun c => ([c], []), ?_, ?_, ?_⟩
    · simpa [Covers] using hall
    · simp [List.flatMap_map]
    · simp [List.flatMap_map]

theorem covers_oneOrMore_char {allowed : Char → Bool} {matched : Chars} {groups : Groups} :
    (oneOrMore (char allowed)).Covers matched groups ↔
      matched ≠ [] ∧ (∀ c ∈ matched, allowed c = true) ∧ groups = [] := by
  constructor
  · rintro ⟨_, back, _, behind, ⟨c, hc, rfl, rfl⟩, hmany, rfl, rfl⟩
    obtain ⟨hback, rfl⟩ := covers_many_char.mp hmany
    exact ⟨by simp, List.forall_mem_cons.mpr ⟨hc, hback⟩, rfl⟩
  · rintro ⟨hne, hall, rfl⟩
    obtain ⟨c, back, rfl⟩ := List.exists_cons_of_ne_nil hne
    obtain ⟨hc, hback⟩ := List.forall_mem_cons.mp hall
    exact ⟨[c], back, [], [], ⟨c, hc, rfl, rfl⟩, covers_many_char.mpr ⟨hback, rfl⟩, rfl, rfl⟩

theorem covers_word {letters matched : Chars} {groups : Groups} :
    (word letters).Covers matched groups ↔ matched = letters ∧ groups = [] := by
  induction letters generalizing matched groups with
  | nil => rfl
  | cons c letters ih =>
    constructor
    · rintro ⟨_, _, _, _, hc, hletters, rfl, rfl⟩
      obtain ⟨rfl, rfl⟩ := covers_char_eq.mp hc
      obtain ⟨rfl, rfl⟩ := ih.mp hletters
      exact ⟨rfl, rfl⟩
    · rintro ⟨rfl, rfl⟩
      exact ⟨[c], letters, [], [], covers_char_eq.mpr ⟨rfl, rfl⟩, ih.mpr ⟨rfl, rfl⟩, rfl, rfl⟩

theorem outcomes_eq_nil (h : ∀ matched groups rest, p.Covers matched groups →
    matched ++ rest ≠ text) : p.outcomes text = [] := by
  rw [List.eq_nil_iff_forall_not_mem]
  intro o ho
  obtain ⟨hp, ht⟩ := mem_outcomes.mp ho
  exact h _ _ _ hp ht

-- ---------------------------------------------------------------------------
-- The preferred way
-- ---------------------------------------------------------------------------

theorem head?_seq : ((seq p q).outcomes text).head? =
    (p.outcomes text).findSome? fun a => ((q.outcomes a.rest).head?).map a.followedBy := by
  simp only [outcomes, List.head?_flatMap, List.head?_map]

theorem head?_seq_of_head? (hp : (p.outcomes text).head? = some a)
    (hq : (q.outcomes a.rest).head? = some b) :
    ((seq p q).outcomes text).head? = some (a.followedBy b) := by
  obtain ⟨more, hmore⟩ := List.head?_eq_some_iff.mp hp
  rw [head?_seq, hmore, List.findSome?_cons, hq]
  rfl

theorem head?_seq_of_singleton (hp : p.outcomes text = [a]) :
    ((seq p q).outcomes text).head? = (q.outcomes a.rest).head?.map a.followedBy := by
  rw [head?_seq, hp, List.findSome?_singleton]

theorem outcomes_seq_of_nil (hp : p.outcomes text = []) : (seq p q).outcomes text = [] := by
  rw [outcomes, hp, List.flatMap_nil]

theorem head?_either : ((either p q).outcomes text).head? =
    (p.outcomes text).head?.or (q.outcomes text).head? := by
  rw [outcomes, List.head?_append]

theorem head?_either_left (h : (p.outcomes text).head? = some a) :
    ((either p q).outcomes text).head? = some a := by
  rw [head?_either, h, Option.some_or]

theorem outcomes_either_right (h : p.outcomes text = []) :
    (either p q).outcomes text = q.outcomes text := by
  rw [outcomes, h, List.nil_append]

theorem outcomes_group (name : String) :
    (group name p).outcomes text = (p.outcomes text).map (Outcome.named name) := by
  rw [outcomes]

theorem head?_group (name : String) (h : (p.outcomes text).head? = some a) :
    ((group name p).outcomes text).head? = some (a.named name) := by
  rw [outcomes_group, List.head?_map, h]
  rfl

theorem head?_many_step (hp : (p.outcomes text).head? = some a) (hlt : a.rest.length < text.length)
    (hm : ((many p).outcomes a.rest).head? = some b) :
    ((many p).outcomes text).head? = some (a.followedBy b) := by
  obtain ⟨more, hmore⟩ := List.head?_eq_some_iff.mp hp
  obtain ⟨others, hothers⟩ := List.head?_eq_some_iff.mp hm
  rw [outcomes] at hothers
  rw [outcomes, rounds]
  simp [hmore, hlt, hothers]

theorem outcomes_many_of_nil (h : p.outcomes text = []) :
    (many p).outcomes text = [⟨[], [], text⟩] := by
  rw [outcomes, rounds]
  simp [h]

theorem head?_many_char (allowed : Char → Bool) (text : Chars) :
    ((many (char allowed)).outcomes text).head? =
      some ⟨text.takeWhile allowed, [], text.dropWhile allowed⟩ := by
  induction text with
  | nil => rw [outcomes_many_of_nil rfl]; rfl
  | cons c rest ih =>
    by_cases hc : allowed c = true
    · have hchar : ((char allowed).outcomes (c :: rest)).head? = some ⟨[c], [], rest⟩ := by
        simp [outcomes, hc]
      rw [head?_many_step hchar (by simp) ih, List.takeWhile_cons_of_pos hc,
        List.dropWhile_cons_of_pos hc]
      rfl
    · have hchar : (char allowed).outcomes (c :: rest) = [] := by simp [outcomes, hc]
      rw [outcomes_many_of_nil hchar, List.takeWhile_cons_of_neg hc, List.dropWhile_cons_of_neg hc]
      rfl

theorem head?_char {allowed : Char → Bool} {c : Char} (hc : allowed c = true) (rest : Chars) :
    ((char allowed).outcomes (c :: rest)).head? = some ⟨[c], [], rest⟩ := by
  simp [outcomes, hc]

theorem head?_oneOrMore_char {allowed : Char → Bool} {c : Char} (hc : allowed c = true)
    (rest : Chars) : ((oneOrMore (char allowed)).outcomes (c :: rest)).head? =
      some ⟨c :: rest.takeWhile allowed, [], rest.dropWhile allowed⟩ :=
  head?_seq_of_head? (head?_char hc rest) (head?_many_char allowed rest)

theorem head?_oneOrMore_takeWhile {allowed : Char → Bool} (h : text.takeWhile allowed ≠ []) :
    ((oneOrMore (char allowed)).outcomes text).head? =
      some ⟨text.takeWhile allowed, [], text.dropWhile allowed⟩ := by
  cases text with
  | nil => exact absurd rfl h
  | cons c rest =>
    by_cases hc : allowed c = true
    · rw [List.takeWhile_cons_of_pos hc, List.dropWhile_cons_of_pos hc]
      exact head?_oneOrMore_char hc rest
    · exact absurd (List.takeWhile_cons_of_neg hc) h

theorem outcomes_word_append (letters rest : Chars) :
    (word letters).outcomes (letters ++ rest) = [⟨letters, [], rest⟩] := by
  induction letters with
  | nil => rfl
  | cons c letters ih => simp [word, outcomes, ih, Outcome.followedBy]

theorem outcomes_word_eq_nil {letters : Chars} (h : ¬ letters <+: text) :
    (word letters).outcomes text = [] := by
  apply outcomes_eq_nil
  rintro matched groups rest hword rfl
  rw [(covers_word.mp hword).1] at h
  exact h (List.prefix_append _ _)

theorem head?_word (letters text : Chars) : ((word letters).outcomes text).head? =
    if letters.isPrefixOf text then some ⟨letters, [], text.drop letters.length⟩ else none := by
  split
  · rename_i hprefix
    obtain ⟨rest, rfl⟩ := List.isPrefixOf_iff_prefix.mp hprefix
    rw [List.drop_left, outcomes_word_append, List.head?_cons]
  · rename_i hprefix
    rw [outcomes_word_eq_nil fun hp => hprefix (List.isPrefixOf_iff_prefix.mpr hp),
      List.head?_nil]

theorem outcomes_few_any (c : Char) (rest : Chars) :
    (few (char fun _ => true)).outcomes (c :: rest) =
      ⟨[], [], c :: rest⟩ ::
        ((few (char fun _ => true)).outcomes rest).map (Outcome.followedBy ⟨[c], [], rest⟩) := by
  rw [outcomes, rounds]
  simp [outcomes]

theorem find?_few_any (letters text : Chars) :
    ((few (char fun _ => true)).outcomes text).find? (fun a => letters.isPrefixOf a.rest) =
      (cutAt? letters text).map fun cut => ⟨cut.1, [], letters ++ cut.2⟩ := by
  induction text with
  | nil => cases letters <;> simp [outcomes, rounds, cutAt?]
  | cons c rest ih =>
    rw [outcomes_few_any, cutAt?]
    by_cases hprefix : letters.isPrefixOf (c :: rest) = true
    · obtain ⟨more, hmore⟩ := List.isPrefixOf_iff_prefix.mp hprefix
      rw [List.find?_cons_of_pos (by simpa using hprefix), if_pos hprefix, ← hmore, List.drop_left]
      rfl
    · rw [List.find?_cons_of_neg (by simpa using hprefix), if_neg hprefix, List.find?_map]
      change Option.map _ (List.find? (fun a : Outcome => letters.isPrefixOf a.rest) _) = _
      rw [ih, Option.map_map, Option.map_map]
      rfl

/-- A fixed text is found at its first place if as little as possible may stand before it. -/
theorem head?_upTo (name : String) (letters text : Chars) :
    ((seq (group name (few (char fun _ => true))) (word letters)).outcomes text).head? =
      (cutAt? letters text).map fun cut => ⟨cut.1 ++ letters, [(name, cut.1)], cut.2⟩ := by
  let whole (a : Outcome) : Outcome :=
    (a.named name).followedBy ⟨letters, [], a.rest.drop letters.length⟩
  have hword : ∀ a : Outcome,
      (((word letters).outcomes (a.named name).rest).head?.map (a.named name).followedBy) =
        (Option.guard (fun a : Outcome => letters.isPrefixOf a.rest) a).map whole := by
    intro a
    rw [head?_word, Option.guard_eq_ite, Option.map_if, Option.map_if]
    rfl
  rw [head?_seq, outcomes_group, List.findSome?_map]
  simp only [Function.comp_def, hword]
  rw [← Function.comp_def, ← List.map_findSome?, List.findSome?_guard, find?_few_any,
    Option.map_map]
  congr 1
  funext cut
  simp [whole, Outcome.named, Outcome.followedBy]

end

-- ---------------------------------------------------------------------------
-- Searching
-- ---------------------------------------------------------------------------

section
variable {p : Pattern} {before text : Chars} {a : Outcome} {found : Found}

theorem findFrom_of_some (h : p.first? text = some a) :
    p.findFrom before text = ⟨a, before.reverse⟩ :: p.findFrom [] a.rest := by
  rw [findFrom]
  split
  · rename_i hsome
    rw [h] at hsome
    cases hsome
    rfl
  · rename_i hnone
    rw [h] at hnone
    cases hnone

theorem findFrom_nil : p.findFrom before [] = [] := by
  rw [findFrom]
  split
  · rename_i hsome
    simp [first?] at hsome
  · rfl

theorem findFrom_cons {c : Char} (h : p.first? (c :: text) = none) :
    p.findFrom before (c :: text) = p.findFrom (c :: before) text := by
  rw [findFrom]
  split
  · rename_i hsome
    rw [h] at hsome
    cases hsome
  · rfl

theorem exists_suffix_of_mem_findFrom (h : found ∈ p.findFrom before text) :
    ∃ suffix, suffix <:+ text ∧ p.first? suffix = some found.toOutcome := by
  fun_induction findFrom p before text with
  | case1 before text a ha ih =>
    rcases List.mem_cons.mp h with rfl | h
    · exact ⟨text, List.suffix_refl _, ha⟩
    · obtain ⟨suffix, hsuffix, hfirst⟩ := ih h
      have hrest : a.rest <:+ text := by
        obtain ⟨hhead, -⟩ := Option.filter_eq_some_iff.mp ha
        exact ⟨a.matched, (mem_outcomes.mp (List.mem_of_head? hhead)).2⟩
      exact ⟨suffix, hsuffix.trans hrest, hfirst⟩
  | case2 => cases h
  | case3 before c rest ha ih =>
    obtain ⟨suffix, hsuffix, hfirst⟩ := ih h
    exact ⟨suffix, hsuffix.trans (List.suffix_cons _ _), hfirst⟩

end

end Pattern

end TemplateTree.Text
