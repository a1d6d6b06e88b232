import TemplateTree.Proofs.Acceptance
import TemplateTree.Proofs.Pieces
import TemplateTree.Proofs.Placement

/-!
# Where pieces stand

A piece stands behind what is written before it. The scanner takes the leftmost
construct each time, so no construct starts inside a text piece; in particular
an opened comment inside one is never closed.
-/

namespace TemplateTree.Markup

open Text (Chars)

def Occurs (code : Chars) (pos : Nat) (piece : Piece) : Prop :=
  ∃ before after, pieces code = before ++ piece :: after ∧
    (before.flatMap Piece.written).length = pos

section
variable {code : Chars} {pos : Nat} {piece : Piece}

theorem Occurs.formed (h : Occurs code pos piece) : piece.Formed := by
  obtain ⟨before, after, hp, -⟩ := h
  exact formed_pieces (hp ▸ List.mem_append_right _ (.head _))

theorem Occurs.hasAt {source : Source} (h : Occurs source.text pos piece) :
    source.HasAt pos piece.written := by
  obtain ⟨before, after, hp, hpos⟩ := h
  refine ⟨before.flatMap Piece.written, after.flatMap Piece.written, ?_, hpos⟩
  rw [← written_pieces source.text, hp]
  simp

end

-- ---------------------------------------------------------------------------
-- No construct starts inside a text piece
-- ---------------------------------------------------------------------------

/-- No construct starts in a text that is followed by `rest`. -/
def Silent (text rest : Chars) : Prop :=
  ∀ front back, text = front ++ back → back ≠ [] → Construct.read? (back ++ rest) = none

theorem silent_nil (rest : Chars) : Silent [] rest := by
  intro front back h hb
  exact absurd (List.append_eq_nil_iff.mp h.symm).2 hb

theorem Silent.snoc {text rest : Chars} {c : Char} (h : Silent text (c :: rest))
    (hc : Construct.read? (c :: rest) = none) : Silent (text ++ [c]) rest := by
  intro front back heq hb
  rcases List.eq_nil_or_concat back with rfl | ⟨back, d, rfl⟩
  · exact absurd rfl hb
  · rw [List.concat_eq_append, ← List.append_assoc] at heq
    obtain ⟨hfront, hlast⟩ := List.append_inj' heq rfl
    cases hlast
    cases back with
    | nil => exact hc
    | cons b back =>
      have := h front (b :: back) hfront (List.cons_ne_nil _ _)
      simpa using this

theorem suffix_textPiece {value first : Chars} {after more : List Piece}
    (h : .text value :: after <:+ textPiece first ++ more) :
    (value = first ∧ after = more) ∨ .text value :: after <:+ more := by
  unfold textPiece at h
  split at h
  · exact .inr h
  · rcases List.suffix_cons_iff.mp h with heq | hs
    · cases heq
      exact .inl ⟨rfl, rfl⟩
    · exact .inr hs

theorem silent_of_suffix_piecesFrom {before text value : Chars} {after : List Piece}
    (hb : Silent before.reverse text) (h : .text value :: after <:+ piecesFrom before text) :
    Silent value (after.flatMap Piece.written) := by
  fun_induction piecesFrom before text with
  | case1 before text construct rest hread ih =>
    rcases suffix_textPiece h with ⟨rfl, rfl⟩ | hs
    · rw [List.flatMap_cons, written_piecesFrom]
      exact (Construct.read?_written hread).symm ▸ hb
    · rcases List.suffix_cons_iff.mp hs with heq | hs
      · cases heq
      · exact ih (silent_nil _) hs
  | case2 before hread =>
    rw [← List.append_nil (textPiece _)] at h
    rcases suffix_textPiece h with ⟨rfl, rfl⟩ | hs
    · exact hb
    · cases List.suffix_nil.mp hs
  | case3 before c rest hread ih =>
    refine ih ?_ h
    rw [List.reverse_cons]
    exact hb.snoc hread

theorem Occurs.read?_eq_none {code value front back : Chars} {pos : Nat}
    (h : Occurs code pos (.text value)) (hcode : code = front ++ back) (hlow : pos ≤ front.length)
    (hhigh : front.length < pos + value.length) : Construct.read? back = none := by
  obtain ⟨before, after, hp, rfl⟩ := h
  have hnil : Silent ([] : Chars).reverse code := silent_nil code
  have hsilent := silent_of_suffix_piecesFrom hnil ⟨before, hp.symm⟩
  have hw := written_pieces code
  rw [hp, hcode, List.flatMap_append, List.flatMap_cons, Piece.written] at hw
  -- What stands before `back` ends inside the text piece.
  obtain ⟨inside, rfl⟩ : before.flatMap Piece.written <+: front :=
    List.prefix_of_prefix_length_le ⟨_, hw⟩ (List.prefix_append _ _) hlow
  rw [List.append_assoc, List.append_cancel_left_eq] at hw
  rw [List.length_append, Nat.add_lt_add_iff_left] at hhigh
  obtain ⟨part, rfl⟩ : inside <+: value :=
    List.prefix_of_prefix_length_le ⟨_, hw.symm⟩ (List.prefix_append _ _) hhigh.le
  rw [List.append_assoc, List.append_cancel_left_eq] at hw
  rw [← hw]
  refine hsilent inside part rfl ?_
  rintro rfl
  simp at hhigh

/-- An opened comment that is not a construct is closed nowhere behind it. -/
theorem not_closed_of_read?_eq_none {rest : Chars}
    (h : Construct.read? (commentOpening ++ rest) = none) : ¬ commentClosing <:+: rest := by
  have hcut : Text.cutAt? commentClosing rest = none := by
    simpa [Construct.read?, commentOpening] using h
  rw [← contains_iff_infix, Text.contains, hcut]
  simp

end TemplateTree.Markup
