import Mathlib.Data.List.Infix
import Mathlib.Data.List.TakeWhile
import TemplateTree.Command.Report

/-!
# What the console shows of plain texts

A text that means nothing to the console is shown as it is, alone and beside
styled texts. A drawing fails on the markup of its labels or cells and on nothing
else.
-/

namespace TemplateTree.Console

open Text (Chars)

/-- No part of the text means anything to the console: no bracket opens a tag or
has a backslash before it, no name stands for an emoji, and no character is
dropped. -/
structure IsPlain (text : Chars) : Prop where
  untagged : ∀ rest, '[' :: rest <:+ text → readTag? rest = none
  unescaped : ¬ ['\\', '['] <:+: text
  unnamed : replaceEmoji text = text
  visible : ∀ c ∈ text, isStripped c = false

-- ---------------------------------------------------------------------------
-- Emoji names
-- ---------------------------------------------------------------------------

theorem takeWhile_stops_iff {p : Char → Bool} {text inside rest : Chars} {stop : Char}
    (hstop : p stop = false) :
    text.takeWhile p = inside ∧ text.drop (text.takeWhile p).length = stop :: rest ↔
      text = inside ++ stop :: rest ∧ ∀ c ∈ inside, p c = true := by
  constructor
  · rintro ⟨rfl, hrest⟩
    refine ⟨?_, fun c hc => List.mem_takeWhile_imp hc⟩
    have hsplit := List.take_append_drop (text.takeWhile p).length text
    rw [← List.prefix_iff_eq_take.mp (List.takeWhile_prefix p), hrest] at hsplit
    exact hsplit.symm
  · rintro ⟨rfl, hall⟩
    rw [List.takeWhile_append_of_pos hall, List.takeWhile_cons_of_neg (by simp [hstop])]
    simp

section
variable {behind text inside rest : Chars} {find? : Chars → Option Chars}

theorem betweenColons?_eq_some : betweenColons? text = some (inside, rest) ↔
    text = inside ++ ':' :: rest ∧ ∀ c ∈ inside, (!(c == ':' || Text.isBlank c)) = true := by
  rw [← takeWhile_stops_iff (by simp)]
  unfold betweenColons?
  dsimp only
  split
  · rename_i after hdrop
    rw [hdrop]
    simp [eq_comm]
  · rename_i hdrop
    simpa using fun _ => hdrop rest

theorem betweenColons?_append_blank (text more : Chars) :
    betweenColons? (text ++ ' ' :: more) =
      (betweenColons? text).map fun (inside, rest) => (inside, rest ++ ' ' :: more) := by
  cases h : betweenColons? text with
  | some parts =>
    obtain ⟨inside, rest⟩ := parts
    obtain ⟨rfl, hinside⟩ := betweenColons?_eq_some.mp h
    exact betweenColons?_eq_some.mpr ⟨by simp, hinside⟩
  | none =>
    refine Option.eq_none_iff_forall_ne_some.mpr fun ⟨inside, rest⟩ hsome => ?_
    obtain ⟨heq, hinside⟩ := betweenColons?_eq_some.mp hsome
    rcases List.append_eq_append_iff.mp heq with ⟨tail, rfl, htail⟩ | ⟨tail, rfl, htail⟩
    · cases tail with
      | nil => simp at htail
      | cons c tail =>
        obtain ⟨rfl, -⟩ := List.cons.inj htail
        exact absurd (hinside ' ' (by simp)) (by decide)
    · cases tail with
      | nil => simp at htail
      | cons c tail =>
        obtain ⟨rfl, -⟩ := List.cons.inj htail
        rw [betweenColons?_eq_some.mpr ⟨rfl, hinside⟩] at h
        cases h

theorem replaceNames_cons {c : Char} (hc : c ≠ ':') :
    replaceNames find? (c :: behind) = c :: replaceNames find? behind := by
  rw [replaceNames, if_neg hc]

theorem replaceNames_of_none (h : betweenColons? behind = none) :
    replaceNames find? (':' :: behind) = ':' :: replaceNames find? behind := by
  rw [replaceNames, if_pos rfl]
  split
  · rfl
  · rename_i hsome
    rw [h] at hsome
    cases hsome

theorem replaceNames_of_some (h : betweenColons? behind = some (inside, rest)) :
    replaceNames find? (':' :: behind) =
      ((find? (emojiParts inside).1).map (· ++ (emojiParts inside).2)).getD
        (':' :: inside ++ [':']) ++ replaceNames find? rest := by
  rw [replaceNames, if_pos rfl]
  split
  · rename_i hnone
    rw [h] at hnone
    cases hnone
  · rename_i hsome
    rw [h] at hsome
    cases hsome
    dsimp only
    cases find? (emojiParts inside).1 <;> simp

theorem replaceNames_append_blank (text more : Chars) :
    replaceNames find? (text ++ ' ' :: more) =
      replaceNames find? text ++ ' ' :: replaceNames find? more := by
  fun_induction replaceNames find? text with
  | case1 => exact replaceNames_cons (by decide)
  | case2 behind h ih =>
    rw [List.cons_append, replaceNames_of_none (by rw [betweenColons?_append_blank, h]; rfl), ih,
      List.cons_append]
  | case3 behind inside rest h name form hparts picture hfind ih =>
    rw [List.cons_append, replaceNames_of_some (by rw [betweenColons?_append_blank, h]; rfl), ih]
    simp [hparts, hfind]
  | case4 behind inside rest h name form hparts hfind ih =>
    rw [List.cons_append, replaceNames_of_some (by rw [betweenColons?_append_blank, h]; rfl), ih]
    simp [hparts, hfind]
  | case5 c behind hc ih => rw [List.cons_append, replaceNames_cons hc, ih, List.cons_append]

theorem replaceNames_of_not_mem (h : ':' ∉ text) : replaceNames find? text = text := by
  induction text with
  | nil => rw [replaceNames]
  | cons c rest ih =>
    rw [List.mem_cons, not_or] at h
    rw [replaceNames_cons (Ne.symm h.1), ih h.2]

end

-- ---------------------------------------------------------------------------
-- Plain texts
-- ---------------------------------------------------------------------------

section
variable {text more : Chars}

theorem plainBrackets_eq_self (h : ¬ ['\\', '['] <:+: text) : plainBrackets text = text := by
  fun_induction plainBrackets text with
  | case1 rest => exact absurd ⟨[], rest, rfl⟩ h
  | case2 c rest _ ih => rw [ih fun hi => h (List.infix_cons hi)]
  | case3 => rfl

theorem IsPlain.shown_eq (h : IsPlain text) : shown (plainBrackets text) = text := by
  rw [plainBrackets_eq_self h.unescaped, shown, h.unnamed, List.filter_eq_self]
  simpa using h.visible

theorem IsPlain.cons (h : IsPlain text) {c : Char}
    (hc : c ≠ '[' ∧ c ≠ ':' ∧ c ≠ '\\' ∧ isStripped c = false) : IsPlain (c :: text) where
  untagged rest hs := by
    rcases List.suffix_cons_iff.mp hs with heq | hs
    · exact absurd (List.cons.inj heq).1.symm hc.1
    · exact h.untagged rest hs
  unescaped hi := by
    rcases List.infix_cons_iff.mp hi with hp | hi
    · exact absurd (List.cons_prefix_cons.mp hp).1.symm hc.2.2.1
    · exact h.unescaped hi
  unnamed := (replaceNames_cons hc.2.1).trans (congrArg (c :: ·) h.unnamed)
  visible := List.forall_mem_cons.mpr ⟨hc.2.2.2, h.visible⟩

/-- A bracket may stand before what does not read as the inside of a tag. -/
theorem IsPlain.bracket (h : IsPlain text) (ht : readTag? text = none) :
    IsPlain ('[' :: text) where
  untagged rest hs := by
    rcases List.suffix_cons_iff.mp hs with heq | hs
    · rw [(List.cons.inj heq).2]
      exact ht
    · exact h.untagged rest hs
  unescaped hi := by
    rcases List.infix_cons_iff.mp hi with hp | hi
    · exact absurd (List.cons_prefix_cons.mp hp).1 (by decide)
    · exact h.unescaped hi
  unnamed := (replaceNames_cons (by decide)).trans (congrArg ('[' :: ·) h.unnamed)
  visible := List.forall_mem_cons.mpr ⟨by decide, h.visible⟩

theorem infix_append_blank (hi : ['\\', '['] <:+: text ++ ' ' :: more) :
    ['\\', '['] <:+: text ∨ ['\\', '['] <:+: more := by
  obtain ⟨front, rest, heq⟩ := hi
  rw [List.append_assoc] at heq
  rcases List.append_eq_append_iff.mp heq with ⟨part, rfl, hpart⟩ | ⟨part, -, hpart⟩
  · rcases part with - | ⟨c, - | ⟨d, part⟩⟩
    · simp at hpart
    · simp at hpart
    · obtain ⟨rfl, rfl, -⟩ : '\\' = c ∧ '[' = d ∧ rest = part ++ ' ' :: more := by
        simpa using hpart
      exact .inl ⟨front, part, by simp⟩
  · rcases part with - | ⟨c, part⟩
    · simp at hpart
    · exact .inr ⟨part, rest, by simpa using (List.cons.inj hpart).2.symm⟩

theorem isPlain_of_forall (h : ∀ c ∈ text, c ≠ '[' ∧ c ≠ ':' ∧ isStripped c = false) :
    IsPlain text where
  untagged _ hs := absurd rfl (h '[' (hs.subset (.head _))).1
  unescaped hi := absurd rfl (h '[' (hi.subset (.tail _ (.head _)))).1
  unnamed := replaceNames_of_not_mem fun hm => absurd rfl (h ':' hm).2.1
  visible c hc := (h c hc).2.2

theorem isPlain_nil : IsPlain [] := isPlain_of_forall (by simp)

end

-- ---------------------------------------------------------------------------
-- Tags
-- ---------------------------------------------------------------------------

def OpensFirst (text : Chars) : Prop := ∀ front rest, text = front ++ ']' :: rest → '[' ∈ front

def Untagged (text tail : Chars) : Prop :=
  ∀ rest, '[' :: rest <:+ text → readTag? (rest ++ tail) = none

section
variable {text tail more before inside rest : Chars} {c : Char}

theorem opensFirst_nil : OpensFirst [] := by
  intro front rest h
  simp at h

theorem opensFirst_bracket (rest : Chars) : OpensFirst ('[' :: rest) := by
  intro front after h
  cases front with
  | nil => simp at h
  | cons c front =>
    obtain ⟨rfl, -⟩ := List.cons.inj h
    exact .head _

theorem OpensFirst.cons (h : OpensFirst text) (hc : c ≠ ']') : OpensFirst (c :: text) := by
  intro front after heq
  cases front with
  | nil => exact absurd (List.cons.inj heq).1 hc
  | cons d front => exact .tail _ (h front after (List.cons.inj heq).2)

theorem readTag?_eq_some : readTag? text = some (inside, rest) ↔
    text = inside ++ ']' :: rest ∧ ∃ c name, inside = c :: name ∧ startsTag c = true ∧
      ∀ d ∈ name, (!(d == '[' || d == ']')) = true := by
  cases text with
  | nil => simp [readTag?]
  | cons first behind =>
    rw [readTag?]
    by_cases hfirst : startsTag first = true
    · rw [if_pos hfirst]
      have hstops {name : Chars} := @takeWhile_stops_iff (fun d => !(d == '[' || d == ']')) behind
        name rest ']' (by decide)
      dsimp only
      constructor
      · intro h
        split at h
        · rename_i after hdrop
          cases h
          obtain ⟨hbehind, hname⟩ := hstops.mp ⟨rfl, hdrop⟩
          exact ⟨congrArg (first :: ·) hbehind, first, _, rfl, hfirst, hname⟩
        · cases h
      · rintro ⟨heq, c, name, rfl, -, hname⟩
        obtain ⟨rfl, hbehind⟩ := List.cons.inj heq
        obtain ⟨htake, hdrop⟩ := hstops.mpr ⟨hbehind, hname⟩
        rw [hdrop, htake]
        rfl
    · rw [if_neg hfirst]
      simp only [reduceCtorEq, false_iff]
      rintro ⟨heq, c, name, rfl, hc, -⟩
      obtain ⟨rfl, -⟩ := List.cons.inj heq
      exact hfirst hc

/-- What follows a text makes no tag of it, if it does not begin with the end of one. -/
theorem readTag?_append_of_none (h : readTag? text = none) (ht : OpensFirst tail) :
    readTag? (text ++ tail) = none := by
  refine Option.eq_none_iff_forall_ne_some.mpr fun ⟨inside, rest⟩ hsome => ?_
  obtain ⟨heq, c, name, rfl, hc, hname⟩ := readTag?_eq_some.mp hsome
  rcases List.append_eq_append_iff.mp heq with ⟨part, hpart, rfl⟩ | ⟨part, rfl, hpart⟩
  · have hm : '[' ∈ c :: name := hpart ▸ List.mem_append_right _ (ht part rest rfl)
    rcases List.mem_cons.mp hm with rfl | hm
    · cases hc
    · exact absurd (hname '[' hm) (by decide)
  · cases part with
    | nil => cases ht [] rest hpart.symm
    | cons d part =>
      obtain ⟨rfl, -⟩ := List.cons.inj hpart
      rw [readTag?_eq_some.mpr ⟨rfl, c, name, rfl, hc, hname⟩] at h
      cases h

theorem IsPlain.untagged_append (h : IsPlain text) (ht : OpensFirst tail) : Untagged text tail :=
  fun rest hs => readTag?_append_of_none (h.untagged rest hs) ht

/-- Plain texts with a blank between them make no tag if the second begins none that
the first could have opened. -/
theorem IsPlain.join (h : IsPlain text) (hm : IsPlain more) (ho : OpensFirst more) :
    IsPlain (text ++ ' ' :: more) where
  untagged rest hs := by
    obtain ⟨front, heq⟩ := hs
    rcases List.append_eq_append_iff.mp heq with ⟨part, rfl, hpart⟩ | ⟨part, -, hpart⟩
    · cases part with
      | nil => cases hpart
      | cons c part =>
        obtain ⟨rfl, hrest⟩ := List.cons.inj hpart
        rw [hrest]
        exact readTag?_append_of_none (h.untagged part (List.suffix_append _ _))
          (ho.cons (by decide))
    · cases part with
      | nil => cases hpart
      | cons c part =>
        refine hm.untagged rest ?_
        rw [(List.cons.inj hpart).2]
        exact List.suffix_append _ _
  unescaped hi := (infix_append_blank hi).elim h.unescaped hm.unescaped
  unnamed := by
    rw [replaceEmoji, replaceNames_append_blank]
    exact congrArg₂ (· ++ ' ' :: ·) h.unnamed hm.unnamed
  visible := List.forall_mem_append.mpr
    ⟨h.visible, List.forall_mem_cons.mpr ⟨by decide, hm.visible⟩⟩

theorem Untagged.of_cons (h : Untagged (c :: text) tail) : Untagged text tail :=
  fun rest hs => h rest (hs.trans (List.suffix_cons _ _))

theorem piecesFrom_of_none {backslashes : Nat} (h : readTag? rest = none) :
    piecesFrom before backslashes ('[' :: rest) =
      piecesFrom ('[' :: (List.replicate backslashes '\\' ++ before)) 0 rest := by
  rw [piecesFrom, if_neg (by decide), if_pos rfl]
  split
  · rename_i hsome
    rw [h] at hsome
    cases hsome
  · rfl

theorem piecesFrom_of_some {backslashes : Nat} (h : readTag? rest = some (inside, more)) :
    piecesFrom before backslashes ('[' :: rest) =
      textBefore before ++ escapedTag backslashes inside ++ piecesFrom [] 0 more := by
  rw [piecesFrom, if_neg (by decide), if_pos rfl]
  split
  · rename_i hsome
    rw [h] at hsome
    cases hsome
    rfl
  · rename_i hnone
    rw [h] at hnone
    cases hnone

theorem piecesFrom_append {backslashes : Nat} (h : Untagged text tail)
    (ht : ∀ c ∈ tail.head?, c ≠ '\\' ∧ c ≠ '[') :
    piecesFrom before backslashes (text ++ tail) =
      piecesFrom (text.reverse ++ (List.replicate backslashes '\\' ++ before)) 0 tail := by
  induction text generalizing before backslashes with
  | nil =>
    cases tail with
    | nil => simp [piecesFrom]
    | cons c tail =>
      obtain ⟨hslash, hbracket⟩ := ht c rfl
      simp [piecesFrom, hslash, hbracket]
  | cons c rest ih =>
    rw [List.cons_append]
    by_cases hslash : c = '\\'
    · subst hslash
      rw [piecesFrom, if_pos rfl, ih h.of_cons, List.replicate_succ, List.reverse_cons]
      simp
    · by_cases hbracket : c = '['
      · subst hbracket
        rw [piecesFrom_of_none (h rest (List.suffix_refl _)), ih h.of_cons]
        simp
      · rw [piecesFrom, if_neg hslash, if_neg hbracket, ih h.of_cons]
        simp

end

-- ---------------------------------------------------------------------------
-- Rendering
-- ---------------------------------------------------------------------------

/-- The markup shows the text, and no style of it is faulty. -/
def Shows (markup text : Chars) : Prop := render markup = .ok ⟨text, []⟩

structure IsStyle (inside : Chars) : Prop where
  read : ∀ rest, readTag? (inside ++ ']' :: rest) = some (inside, rest)
  parts : tagParts inside = (inside, none)
  opens : ∀ rest, inside ≠ '/' :: rest
  name : ∃ name, normalName inside = .ok name ∧ Style.ofText name ≠ .error .missingNumber

section
variable {text more inside : Chars} {pos : Nat} {stack : List OpenTag} {pieces : List Piece}

theorem renderPieces_textBefore_map (h : shown (plainBrackets text) = text) :
    renderPieces pos stack (textBefore text.reverse ++ pieces) =
      (renderPieces (pos + text.length) stack pieces).map fun rest =>
        ⟨text ++ rest.text, rest.faults⟩ := by
  cases text with
  | nil =>
    rw [List.length_nil, Nat.add_zero]
    change renderPieces pos stack pieces = _
    cases renderPieces pos stack pieces <;> rfl
  | cons c rest =>
    rw [textBefore, if_neg (by simp), List.reverse_reverse, List.singleton_append, renderPieces, h]
    rfl

theorem renderPieces_textBefore (h : shown (plainBrackets text) = text)
    (hmore : renderPieces (pos + text.length) stack pieces = .ok ⟨more, []⟩) :
    renderPieces pos stack (textBefore text.reverse ++ pieces) = .ok ⟨text ++ more, []⟩ := by
  rw [renderPieces_textBefore_map h, hmore]
  rfl

theorem fault?_eq_none {name : Chars} (h : Style.ofText name ≠ .error .missingNumber)
    (start stop : Nat) : (OpenTag.mk name none start).fault? stop = none := by
  unfold OpenTag.fault?
  split
  · exact absurd ‹_› h
  · rfl

theorem renderPieces_open (hs : IsStyle inside) :
    ∃ name, Style.ofText name ≠ .error .missingNumber ∧
      renderPieces pos stack (.tag inside :: pieces) =
        renderPieces pos (⟨name, none, pos⟩ :: stack) pieces := by
  obtain ⟨name, hname, hstyle⟩ := hs.name
  refine ⟨name, hstyle, ?_⟩
  rw [renderPieces, hs.parts]
  dsimp only
  split
  · exact absurd rfl (hs.opens _)
  · rw [hname]
    rfl

theorem renderPieces_close {name : Chars} {start : Nat}
    (hname : Style.ofText name ≠ .error .missingNumber)
    (hmore : renderPieces pos stack pieces = .ok ⟨more, []⟩) :
    renderPieces pos (⟨name, none, start⟩ :: stack) (.tag ['/'] :: pieces) = .ok ⟨more, []⟩ := by
  have hclose : close [] (⟨name, none, start⟩ :: stack) = .ok (⟨name, none, start⟩, stack) := by
    have hreadable : (OpenTag.mk name none start).isReadable = true := by
      unfold OpenTag.isReadable
      split
      · cases ‹_ = some _›
      · rfl
    rw [close]
    simp [Text.trim, Text.trimLeft, Text.trimRight, hreadable, bind, Except.bind]
  rw [renderPieces]
  simp only [show tagParts ['/'] = (['/'], none) from rfl]
  rw [hclose]
  simp [bind, Except.bind, hmore, fault?_eq_none hname]

theorem renderPieces_styled (hs : IsStyle inside) (h : shown (plainBrackets text) = text)
    (hmore : renderPieces (pos + text.length) stack pieces = .ok ⟨more, []⟩) :
    renderPieces pos stack (.tag inside :: textBefore text.reverse ++ .tag ['/'] :: pieces) =
      .ok ⟨text ++ more, []⟩ := by
  obtain ⟨name, hname, hopen⟩ := @renderPieces_open inside pos stack
    (textBefore text.reverse ++ .tag ['/'] :: pieces) hs
  rw [List.cons_append, hopen]
  exact renderPieces_textBefore h (renderPieces_close hname hmore)

theorem IsPlain.shows (h : IsPlain text) : Shows text text := by
  have hpieces : piecesFrom [] 0 (text ++ []) = piecesFrom (text.reverse ++ []) 0 [] :=
    piecesFrom_append (h.untagged_append opensFirst_nil) (by simp)
  rw [List.append_nil, List.append_nil] at hpieces
  have hrender := @renderPieces_textBefore text [] 0 [] [] h.shown_eq rfl
  rw [List.append_nil, List.append_nil] at hrender
  rw [Shows, render, Console.pieces, hpieces, piecesFrom, List.replicate_zero, List.nil_append,
    hrender]

end

-- ---------------------------------------------------------------------------
-- Lines
-- ---------------------------------------------------------------------------

section
variable {styled : StyledText} {justify : Justify} {overflow : Overflow} {width : Nat}

theorem faults_expandTabs (h : styled.faults = []) : styled.expandTabs.faults = [] := by
  unfold StyledText.expandTabs
  split
  · simp [h]
  · exact h

theorem faults_pieces (h : styled.faults = []) {gap start : Nat} {parts : List Chars} :
    ∀ piece ∈ styled.pieces gap start parts, piece.faults = [] := by
  induction parts generalizing start with
  | nil => exact fun _ hm => nomatch hm
  | cons part rest ih => exact List.forall_mem_cons.mpr ⟨by simp [h], ih⟩

theorem faults_cut (h : styled.faults = []) {gap : Nat} {parts : List Chars} :
    ∀ piece ∈ styled.cut gap parts, piece.faults = [] := by
  unfold StyledText.cut
  split
  · exact List.forall_mem_singleton.mpr h
  · exact faults_pieces h

theorem faults_replace (h : styled.faults = []) (text : Chars) :
    (styled.replace text).faults = [] := by
  unfold StyledText.replace
  split
  · simp [h]
  · exact h

theorem faults_wrap (h : styled.faults = []) :
    ∀ line ∈ wrap justify overflow width styled, line.faults = [] := by
  intro line hm
  obtain ⟨whole, hwhole, hline⟩ := List.mem_flatMap.mp hm
  obtain ⟨part, hpart, rfl⟩ := List.mem_map.mp hline
  exact faults_replace (faults_replace (faults_replace
    (faults_cut (faults_expandTabs (faults_cut h whole hwhole)) part hpart) _) _) _

theorem exists_layOut (justify : Justify) (overflow : Overflow) (width : Nat)
    (h : styled.faults = []) : ∃ lines, layOut justify overflow width styled = .ok lines := by
  refine ⟨_, if_pos ?_⟩
  simpa using faults_wrap h

end

theorem Shows.exists_labelLines {markup text : Chars} (h : Shows markup text) (width : Nat) :
    ∃ lines, labelLines width markup = .ok lines := by
  unfold labelLines
  split
  · exact ⟨[], rfl⟩
  · rw [show render markup = .ok ⟨text, []⟩ from h]
    exact exists_layOut .none .fold width rfl

-- ---------------------------------------------------------------------------
-- Trees
-- ---------------------------------------------------------------------------

mutual

def Tree.labels : Tree → List Chars
  | .node label children => label :: forestLabels children

def forestLabels : List Tree → List Chars
  | [] => []
  | tree :: rest => tree.labels ++ forestLabels rest

end

mutual

theorem Tree.exists_draw (first below : Chars) :
    (tree : Tree) → (∀ label ∈ tree.labels, ∃ text, Shows label text) →
      ∃ lines, tree.draw first below = .ok lines
  | .node label children, h => by
    obtain ⟨⟨text, htext⟩, hchildren⟩ := List.forall_mem_cons.mp h
    obtain ⟨own, hown⟩ := htext.exists_labelLines (lineWidth - first.length)
    obtain ⟨rest, hrest⟩ := exists_drawForest below children hchildren
    rw [Tree.draw, hown, hrest]
    exact ⟨_, rfl⟩

theorem exists_drawForest (before : Chars) :
    (trees : List Tree) → (∀ label ∈ forestLabels trees, ∃ text, Shows label text) →
      ∃ lines, drawForest before trees = .ok lines
  | [], _ => ⟨[], rfl⟩
  | [tree], h => by
    rw [drawForest]
    exact tree.exists_draw _ _ fun label hm => h label (List.mem_append_left _ hm)
  | tree :: other :: more, h => by
    obtain ⟨htree, hmore⟩ := List.forall_mem_append.mp h
    obtain ⟨lines, hlines⟩ := tree.exists_draw (before ++ "├── ".toList) (before ++ "│   ".toList)
      htree
    obtain ⟨others, hothers⟩ := exists_drawForest before (other :: more) hmore
    rw [drawForest, hlines, hothers]
    · exact ⟨_, rfl⟩
    · simp

end

-- ---------------------------------------------------------------------------
-- Tables
-- ---------------------------------------------------------------------------

theorem exists_mapM {α β : Type} {f : α → Except MarkupError β} {xs : List α} {p : β → Prop}
    (h : ∀ x ∈ xs, ∃ y, f x = .ok y ∧ p y) :
    ∃ ys, xs.mapM f = .ok ys ∧ ∀ y ∈ ys, p y := by
  induction xs with
  | nil => exact ⟨[], rfl, by simp⟩
  | cons x rest ih =>
    obtain ⟨⟨y, hy, hp⟩, hrest⟩ := List.forall_mem_cons.mp h
    obtain ⟨ys, hys, hps⟩ := ih hrest
    refine ⟨y :: ys, ?_, List.forall_mem_cons.mpr ⟨hp, hps⟩⟩
    rw [List.mapM_cons, hy, hys]
    rfl

theorem exists_rowLines (edge : Char) (columns : List (Column × Nat)) {row : List StyledText}
    (h : ∀ text ∈ row, text.faults = []) : ∃ lines, rowLines edge columns row = .ok lines := by
  have hcells : ∀ cell ∈ columns.zip row, ∃ lines : Nat × List Chars,
      (do
        let lines ← layOut cell.1.1.justify .ellipsis cell.1.2 cell.2
        .ok (cell.1.2, lines) : Except MarkupError (Nat × List Chars)) = .ok lines ∧ True := by
    rintro ⟨⟨column, width⟩, text⟩ hm
    obtain ⟨lines, hlines⟩ := exists_layOut column.justify .ellipsis width
      (h text (List.of_mem_zip hm).2)
    exact ⟨(width, lines), by rw [hlines]; rfl, trivial⟩
  obtain ⟨cells, hcells, -⟩ := exists_mapM hcells
  unfold rowLines
  rw [show (columns.zip row).mapM _ = .ok cells from hcells]
  exact ⟨_, rfl⟩

theorem Table.exists_lines {table : Table} (htitle : ∃ text, Shows table.title text)
    (hhead : ∀ column ∈ table.columns, ∃ text, Shows column.header text)
    (hrows : ∀ row ∈ table.rows, ∀ cell ∈ row, ∃ text, Shows cell text) :
    ∃ lines, table.lines = .ok lines := by
  have hshown {markup : Chars} (h : ∃ text, Shows markup text) :
      ∃ styled, render markup = .ok styled ∧ styled.faults = [] := by
    obtain ⟨text, htext⟩ := h
    exact ⟨⟨text, []⟩, htext, rfl⟩
  obtain ⟨title, htitle, hplain⟩ := hshown htitle
  obtain ⟨head, hhead, hheads⟩ := exists_mapM fun column hm => hshown (hhead column hm)
  obtain ⟨rows, hrows, hcells⟩ := exists_mapM fun row hm =>
    exists_mapM fun cell hc => hshown (hrows row hm cell hc)
  unfold Table.lines
  simp only [htitle, hhead, hrows, bind, Except.bind]
  generalize (List.range table.columns.length).map (columnWidth (head :: rows)) = widths
  obtain ⟨lines, hlines⟩ := exists_layOut .center .fold (widths.foldl (· + · + 3) 1) hplain
  obtain ⟨top, htop⟩ := exists_rowLines '┃' (table.columns.zip widths) hheads
  obtain ⟨body, hbody, -⟩ := exists_mapM (p := fun _ => True) fun row hm =>
    (exists_rowLines '│' (table.columns.zip widths) (hcells row hm)).imp fun _ h => ⟨h, trivial⟩
  rw [hlines, htop, hbody]
  exact ⟨_, rfl⟩

end TemplateTree.Console
