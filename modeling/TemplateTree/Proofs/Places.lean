import Mathlib.Data.Int.ConditionallyCompleteOrder
import Mathlib.Data.List.DropRight
import Mathlib.Data.Prod.Lex
import Mathlib.Order.ConditionallyCompleteLattice.Basic
import TemplateTree.Proofs.Source

/-!
# Lines and columns

The table of line starts, cut at an offset, is the table of the text before that
offset (`takeWhile_lineStartsFrom`). So a place counts the line feeds before it and
the characters behind the last of them (`Source.locate_eq`), and a binary search of
the table, which is sorted, finds the same place (`Source.locate_eq_searched`).
-/

namespace TemplateTree

open Text (Chars)

-- ---------------------------------------------------------------------------
-- The table of line starts
-- ---------------------------------------------------------------------------

section
variable {start offset : Nat} {text more : Chars}

theorem lt_of_mem_lineStartsFrom (h : offset ∈ lineStartsFrom start text) : start < offset := by
  induction text generalizing start with
  | nil => cases h
  | cons c rest ih =>
    rw [lineStartsFrom] at h
    split at h
    · rcases List.mem_cons.mp h with rfl | h
      · exact Nat.lt_succ_self start
      · exact Nat.lt_of_succ_lt (ih h)
    · exact Nat.lt_of_succ_lt (ih h)

theorem pairwise_lineStartsFrom (start : Nat) (text : Chars) :
    (lineStartsFrom start text).Pairwise (· < ·) := by
  induction text generalizing start with
  | nil => exact .nil
  | cons c rest ih =>
    rw [lineStartsFrom]
    split
    · exact .cons (fun _ h => lt_of_mem_lineStartsFrom h) (ih _)
    · exact ih _

theorem takeWhile_lineStartsFrom (start length : Nat) (text : Chars) :
    (lineStartsFrom start text).takeWhile (· ≤ start + length) =
      lineStartsFrom start (text.take length) := by
  induction length generalizing start text with
  | zero =>
    rw [List.take_zero, lineStartsFrom, List.takeWhile_eq_nil_iff]
    intro hpos
    simpa using lt_of_mem_lineStartsFrom (List.getElem_mem hpos)
  | succ length ih =>
    cases text with
    | nil => rfl
    | cons c rest =>
      have hih := ih (start + 1) rest
      rw [show start + 1 + length = start + (length + 1) by omega] at hih
      rw [List.take_succ_cons, lineStartsFrom, lineStartsFrom]
      split
      · rw [List.takeWhile_cons_of_pos (by simp), hih]
      · exact hih

theorem length_lineStartsFrom (start : Nat) (text : Chars) :
    (lineStartsFrom start text).length = text.count '\n' := by
  induction text generalizing start with
  | nil => rfl
  | cons c rest ih =>
    rw [lineStartsFrom]
    split
    · rename_i hc
      rw [List.length_cons, ih, hc, List.count_cons_self]
    · rename_i hc
      rw [ih, List.count_cons_of_ne hc]

theorem lineStartsFrom_append (start : Nat) (text more : Chars) :
    lineStartsFrom start (text ++ more) =
      lineStartsFrom start text ++ lineStartsFrom (start + text.length) more := by
  induction text generalizing start with
  | nil => rfl
  | cons c rest ih =>
    have hlen : start + (c :: rest).length = start + 1 + rest.length := by
      rw [List.length_cons]
      omega
    rw [List.cons_append, lineStartsFrom, lineStartsFrom, ih, hlen]
    split <;> rfl

end

-- ---------------------------------------------------------------------------
-- The last line
-- ---------------------------------------------------------------------------

def lastLine (text : Chars) : Chars := text.rtakeWhile (· ≠ '\n')

section
variable {text more : Chars}

theorem lastLine_snoc (text : Chars) (c : Char) :
    lastLine (text ++ [c]) = if c = '\n' then [] else lastLine text ++ [c] := by
  simp only [lastLine, List.rtakeWhile_concat, decide_eq_true_eq, ne_eq, ite_not]

theorem lastLine_append (text : Chars) (h : '\n' ∉ more) :
    lastLine (text ++ more) = lastLine text ++ more := by
  induction more using List.reverseRecOn with
  | nil => simp
  | append_singleton more c ih =>
    rw [List.mem_append, not_or, List.mem_singleton] at h
    rw [← List.append_assoc, lastLine_snoc, if_neg (Ne.symm h.2), ih h.1, List.append_assoc]

theorem getLastD_lineStartsFrom (start : Nat) (text : Chars) :
    (lineStartsFrom start text).getLastD start + (lastLine text).length = start + text.length := by
  induction text using List.reverseRecOn with
  | nil => rfl
  | append_singleton text c ih =>
    rw [lineStartsFrom_append, lastLine_snoc, List.length_append, List.length_singleton]
    by_cases hc : c = '\n'
    · simp only [lineStartsFrom, if_pos hc, List.getLastD_concat, List.length_nil]
      omega
    · simp only [lineStartsFrom, if_neg hc, List.append_nil, List.length_append,
        List.length_singleton]
      omega

end

-- ---------------------------------------------------------------------------
-- Binary search
-- ---------------------------------------------------------------------------

/-- Where the entries above a key begin in a sorted table, searched by halving the
stretch from `lo` up to `hi`. -/
def upperBound (table : List Nat) (key lo hi : Nat) : Nat :=
  if lo < hi then
    let middle := (lo + hi) / 2
    if key < table[middle]?.getD 0 then upperBound table key lo middle
    else upperBound table key (middle + 1) hi
  else lo
termination_by hi - lo

section
variable {table : List Nat} {key lo hi i : Nat}

theorem getElem_le_iff_lt_length_takeWhile (key : Nat) (h : table.Pairwise (· < ·))
    (hi : i < table.length) :
    table[i] ≤ key ↔ i < (table.takeWhile (· ≤ key)).length := by
  induction table generalizing i with
  | nil => cases hi
  | cons first rest ih =>
    obtain ⟨hfirst, hrest⟩ := List.pairwise_cons.mp h
    by_cases hkey : first ≤ key
    · rw [List.takeWhile_cons_of_pos (by simpa using hkey)]
      cases i with
      | zero => simpa using hkey
      | succ i => simpa using ih hrest (Nat.lt_of_succ_lt_succ hi)
    · rw [List.takeWhile_cons_of_neg (by simpa using hkey)]
      cases i with
      | zero => simpa using hkey
      | succ i =>
        have hlt := hfirst _ (List.getElem_mem (Nat.lt_of_succ_lt_succ hi))
        simp only [List.getElem_cons_succ, List.length_nil, Nat.not_lt_zero, iff_false]
        omega

/-- All entries below `lo` are at most the key, and all from `hi` on above it: this
stays true of the stretch that is searched. -/
theorem upperBound_eq (h : table.Pairwise (· < ·))
    (hlo : lo ≤ (table.takeWhile (· ≤ key)).length)
    (hhi : (table.takeWhile (· ≤ key)).length ≤ hi) (hlen : hi ≤ table.length) :
    upperBound table key lo hi = (table.takeWhile (· ≤ key)).length := by
  fun_induction upperBound table key lo hi with
  | case1 lo hi hlt middle hkey ih =>
    have hm : middle < table.length := by omega
    rw [List.getElem?_eq_getElem hm, Option.getD_some] at hkey
    have hside := (getElem_le_iff_lt_length_takeWhile key h hm).not.mp (by omega)
    exact ih hlo (by omega) (by omega)
  | case2 lo hi hlt middle hkey ih =>
    have hm : middle < table.length := by omega
    rw [List.getElem?_eq_getElem hm, Option.getD_some] at hkey
    have hside := (getElem_le_iff_lt_length_takeWhile key h hm).mp (by omega)
    exact ih (by omega) hhi hlen
  | case3 lo hi hge => omega

end

-- ---------------------------------------------------------------------------
-- Places
-- ---------------------------------------------------------------------------

def Location.position (place : Location) : Nat ×ₗ Nat := toLex (place.line, place.column)

namespace Source

variable {source : Source}

/-- The location of an offset, its line found by binary search. -/
def searched (source : Source) (offset : Int) : Location :=
  let inside := source.clamp offset
  let line := upperBound source.lineStarts inside 0 source.lineStarts.length - 1
  { offset := inside, line, column := inside - source.lineStarts[line]?.getD 0 }

theorem clamp_eq_max (source : Source) (offset : Int) :
    (source.clamp offset : Int) = max 0 (min offset source.text.length) := by
  unfold clamp
  omega

theorem clamp_le (source : Source) (offset : Int) : source.clamp offset ≤ source.text.length :=
  Nat.min_le_right _ _

theorem takeWhile_lineStarts (source : Source) (inside : Nat) :
    source.lineStarts.takeWhile (· ≤ inside) = 0 :: lineStartsFrom 0 (source.text.take inside) := by
  have hcut := takeWhile_lineStartsFrom 0 inside source.text
  rw [Nat.zero_add] at hcut
  rw [source.lineStarts_eq, List.takeWhile_cons_of_pos (by simp), hcut]

/-- A place counts the line feeds before it, and what stands behind the last of them. -/
theorem locate_eq (source : Source) (offset : Int) :
    source.locate offset =
      ⟨source.clamp offset, (source.text.take (source.clamp offset)).count '\n',
        (lastLine (source.text.take (source.clamp offset))).length⟩ := by
  have hlast := getLastD_lineStartsFrom 0 (source.text.take (source.clamp offset))
  have hlen : (source.text.take (source.clamp offset)).length = source.clamp offset :=
    List.length_take_of_le (source.clamp_le offset)
  simp only [locate, takeWhile_lineStarts, List.length_cons, length_lineStartsFrom,
    Nat.add_sub_cancel, List.getLastD_cons, Location.mk.injEq, true_and]
  omega

theorem pairwise_lineStarts (source : Source) : source.lineStarts.Pairwise (· < ·) := by
  rw [source.lineStarts_eq]
  exact .cons (fun _ h => lt_of_mem_lineStartsFrom h) (pairwise_lineStartsFrom 0 _)

theorem locate_eq_searched (source : Source) (offset : Int) :
    source.locate offset = source.searched offset := by
  obtain ⟨passed, hpassed⟩ :
      ∃ passed, source.lineStarts.takeWhile (· ≤ source.clamp offset) = passed := ⟨_, rfl⟩
  have hprefix : passed <+: source.lineStarts := hpassed ▸ List.takeWhile_prefix _
  have hbound : upperBound source.lineStarts (source.clamp offset) 0 source.lineStarts.length =
      passed.length := by
    rw [← hpassed] at hprefix ⊢
    exact upperBound_eq source.pairwise_lineStarts (Nat.zero_le _) hprefix.length_le (Nat.le_refl _)
  have hpos : 0 < passed.length := by
    rw [← hpassed, takeWhile_lineStarts, List.length_cons]
    exact Nat.succ_pos _
  have hentry : source.lineStarts[passed.length - 1]?.getD 0 = passed.getLastD 0 := by
    obtain ⟨rest, hrest⟩ := hprefix
    rw [← hrest, List.getElem?_append_left (by omega), List.getLastD_eq_getLast?,
      List.getLast?_eq_getElem?]
  simp only [locate, searched, hpassed, hbound, hentry]

section
variable {i j : Nat}

theorem locate_natCast (h : i ≤ source.text.length) :
    source.locate i =
      ⟨i, (source.text.take i).count '\n', (lastLine (source.text.take i)).length⟩ := by
  rw [locate_eq, clamp_of_le h]

/-- Between two offsets a line feed either comes, and the line grows, or it does not,
and the column grows by the distance. -/
theorem locate_step (hij : i ≤ j) (hj : j ≤ source.text.length) :
    (source.locate i).line < (source.locate j).line ∨
      (source.locate i).line = (source.locate j).line ∧
        (source.locate j).column = (source.locate i).column + (j - i) := by
  have hsplit : source.text.take j =
      source.text.take i ++ (source.text.drop i).take (j - i) := by
    rw [← List.take_add, Nat.add_sub_cancel' hij]
  have hlen : ((source.text.drop i).take (j - i)).length = j - i := by
    rw [List.length_take, List.length_drop]
    omega
  rw [locate_natCast (hij.trans hj), locate_natCast hj]
  dsimp only
  rw [hsplit, List.count_append]
  by_cases hfeed : '\n' ∈ (source.text.drop i).take (j - i)
  · have hpos := List.count_pos_iff.mpr hfeed
    exact .inl (by omega)
  · refine .inr ⟨by rw [List.count_eq_zero.mpr hfeed, Nat.add_zero], ?_⟩
    rw [lastLine_append _ hfeed, List.length_append, hlen]

theorem position_lt (hij : i < j) (hj : j ≤ source.text.length) :
    (source.locate i).position < (source.locate j).position := by
  rw [Location.position, Location.position, Prod.Lex.toLex_lt_toLex]
  rcases locate_step (Nat.le_of_lt hij) hj with hline | ⟨hline, hcolumn⟩
  · exact .inl hline
  · exact .inr ⟨hline, by omega⟩

theorem column_sub_column (hi : i ≤ source.text.length) (hj : j ≤ source.text.length)
    (h : (source.locate i).line = (source.locate j).line) :
    (j : Int) - i = (source.locate j).column - (source.locate i).column := by
  rcases Nat.le_total i j with hij | hij
  · rcases locate_step hij hj with hline | ⟨-, hcolumn⟩
    · exact absurd h (Nat.ne_of_lt hline)
    · omega
  · rcases locate_step hij hi with hline | ⟨-, hcolumn⟩
    · exact absurd h (Nat.ne_of_gt hline)
    · omega

theorem strictMonoOn_position (source : Source) :
    StrictMonoOn (fun offset : Int => (source.locate offset).position)
      (Set.Icc 0 source.text.length) := by
  rintro a ⟨ha, -⟩ b ⟨hb, hlen⟩ hab
  lift a to Nat using ha
  lift b to Nat using hb
  exact position_lt (Int.ofNat_lt.mp hab) (Int.ofNat_le.mp hlen)

end

/-- Any integer is located at the nearest offset inside the text. The line counts the
line feeds before that offset, the column what stands behind the last of them, and a
binary search of the line starts gives the same. So inside the text the place grows
with the offset, and on one line columns measure distances. -/
theorem locate_exact (source : Source) :
    (∀ offset : Int,
      let place := source.locate offset
      let before := source.text.take place.offset
      (place.offset : Int) = max 0 (min offset source.text.length) ∧
        place.line = before.count '\n' ∧ place.column = (before.rtakeWhile (· ≠ '\n')).length ∧
        place = source.searched offset) ∧
    StrictMonoOn (fun offset : Int => (source.locate offset).position)
      (Set.Icc 0 source.text.length) ∧
    Set.InjOn (fun offset : Int => (source.locate offset).position)
      (Set.Icc 0 source.text.length) ∧
    ∀ a ∈ Set.Icc (0 : Int) source.text.length, ∀ b ∈ Set.Icc (0 : Int) source.text.length,
      (source.locate a).line = (source.locate b).line →
        b - a = (source.locate b).column - (source.locate a).column := by
  refine ⟨fun offset => ?_, source.strictMonoOn_position, source.strictMonoOn_position.injOn, ?_⟩
  · have hplace := source.locate_eq offset
    refine ⟨source.clamp_eq_max offset, ?_, ?_, source.locate_eq_searched offset⟩
    · rw [locate_offset, hplace]
    · rw [locate_offset, hplace, lastLine]
  · rintro a ⟨ha, hla⟩ b ⟨hb, hlb⟩ hline
    lift a to Nat using ha
    lift b to Nat using hb
    exact column_sub_column (Int.ofNat_le.mp hla) (Int.ofNat_le.mp hlb) hline

/-- A text that begins and ends with an empty line, located at the start of its second
line, at its end, and far outside. -/
theorem locate_exact_feeds :
    let source := Source.ofText "\nab\n".toList "t.html"
    source.locate 1 = ⟨1, 1, 0⟩ ∧ source.locate (2 ^ 70) = ⟨4, 2, 0⟩ ∧
      source.locate (-(2 ^ 70)) = ⟨0, 0, 0⟩ ∧ source.locate 3 = source.searched 3 ∧
      (source.locate 1).position < (source.locate 4).position ∧
      (3 : Int) - 1 = (source.locate 3).column - (source.locate 1).column := by
  intro source
  obtain ⟨hcount, hmono, -, hline⟩ := source.locate_exact
  exact ⟨by decide +kernel, by decide +kernel, by decide +kernel, (hcount 3).2.2.2,
    hmono ⟨by decide, by decide⟩ ⟨by decide, by decide⟩ (by decide),
    hline 1 ⟨by decide, by decide⟩ 3 ⟨by decide, by decide⟩ (by decide +kernel)⟩

end Source

end TemplateTree
