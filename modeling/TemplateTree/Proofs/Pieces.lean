import Mathlib.Data.List.TakeWhile
import TemplateTree.Markup.Syntax

/-!
# The pieces of a template

The scanner loses nothing: written one after another, the pieces of a text are
the text. No piece is empty, and every tag among them has the form of a tag.
-/

namespace TemplateTree

open Text (Chars)

theorem Text.not_infix_of_cutAt? {pattern text before after : Chars} (hp : pattern ≠ [])
    (h : Text.cutAt? pattern text = some (before, after)) : ¬ pattern <:+: before := by
  induction text generalizing before with
  | nil => simp [Text.cutAt?, hp] at h
  | cons c rest ih =>
    have hwhole := Text.cutAt?_eq_some h
    rw [Text.cutAt?] at h
    split at h
    · obtain ⟨rfl, -⟩ := Prod.mk.inj (Option.some.inj h)
      simpa using hp
    · rename_i hfirst
      obtain ⟨⟨front, back⟩, hcut, heq⟩ := Option.map_eq_some_iff.mp h
      obtain ⟨rfl, rfl⟩ := Prod.mk.inj heq
      rw [List.infix_cons_iff, not_or]
      refine ⟨fun hpre => hfirst ?_, ih hcut⟩
      rw [List.isPrefixOf_iff_prefix, hwhole, List.append_assoc]
      exact hpre.trans (List.prefix_append _ _)

end TemplateTree

namespace TemplateTree.Markup

open Text (Chars isBlank)

def IsTagName : Chars → Prop
  | [] => False
  | c :: rest => isTagStart c = true ∧ ∀ d ∈ rest, isTagChar d = true

def Construct.Formed : Construct → Prop
  | comment _ => True
  | endTag name tail => IsTagName name ∧ ∀ c ∈ tail, isBlank c = true
  | startTag tag => IsTagName tag.name

def Piece.Formed : Piece → Prop
  | text value => value ≠ []
  | construct c => c.Formed

theorem Piece.Formed.written_ne_nil {piece : Piece} (h : piece.Formed) : piece.written ≠ [] := by
  cases piece with
  | text value => exact h
  | construct c => exact c.written_ne_nil

-- ---------------------------------------------------------------------------
-- What the readers accept
-- ---------------------------------------------------------------------------

theorem readTagName?_isTagName {text name rest : Chars}
    (h : readTagName? text = some (name, rest)) : IsTagName name := by
  unfold readTagName? at h
  split at h
  · cases h
  · rename_i c tail
    split at h
    · rename_i hc
      obtain ⟨rfl, rfl⟩ := Prod.mk.inj (Option.some.inj h)
      exact ⟨hc, fun d hd => List.mem_takeWhile_imp hd⟩
    · cases h

theorem readEndTag?_formed {text rest : Chars} {construct : Construct}
    (h : readEndTag? text = some (construct, rest)) : construct.Formed := by
  simp only [readEndTag?, Option.bind_eq_bind, Option.bind_eq_some_iff, Prod.exists] at h
  obtain ⟨name, behind, hn, h⟩ := h
  split at h
  · obtain ⟨rfl, rfl⟩ := Prod.mk.inj (Option.some.inj h)
    exact ⟨readTagName?_isTagName hn, fun c hc => List.mem_takeWhile_imp hc⟩
  · cases h

theorem readStartTag?_formed {text rest : Chars} {tag : StartTag}
    (h : readStartTag? text = some (tag, rest)) : IsTagName tag.name := by
  simp only [readStartTag?, Option.bind_eq_bind, Option.bind_eq_some_iff, Option.pure_def,
    Option.some.injEq, Prod.mk.injEq, Prod.exists] at h
  obtain ⟨name, _, hn, _, _, _, _, _, _, _, rfl, rfl⟩ := h
  exact readTagName?_isTagName hn

theorem Construct.read?_formed {text rest : Chars} {construct : Construct}
    (h : Construct.read? text = some (construct, rest)) : construct.Formed := by
  unfold Construct.read? at h
  split at h
  · obtain ⟨_, _, he⟩ := Option.map_eq_some_iff.mp h
    obtain ⟨rfl, rfl⟩ := Prod.mk.inj he
    trivial
  · exact readEndTag?_formed h
  · obtain ⟨_, ht, he⟩ := Option.map_eq_some_iff.mp h
    obtain ⟨rfl, rfl⟩ := Prod.mk.inj he
    exact readStartTag?_formed ht
  · cases h

theorem Construct.read?_cases {text rest : Chars} {construct : Construct}
    (h : Construct.read? text = some (construct, rest)) :
    (∃ value body, construct = .comment value ∧
      Text.cutAt? commentClosing body = some (value, rest)) ∨
    (∃ name tail, construct = .endTag name tail) ∨
    ∃ tag body, construct = .startTag tag ∧ readStartTag? body = some (tag, rest) := by
  unfold Construct.read? at h
  split at h
  · obtain ⟨_, hc, he⟩ := Option.map_eq_some_iff.mp h
    cases he
    exact .inl ⟨_, _, rfl, hc⟩
  · simp only [readEndTag?, Option.bind_eq_bind, Option.bind_eq_some_iff] at h
    obtain ⟨_, -, h⟩ := h
    split at h
    · cases h
      exact .inr (.inl ⟨_, _, rfl⟩)
    · cases h
  · obtain ⟨_, ht, he⟩ := Option.map_eq_some_iff.mp h
    cases he
    exact .inr (.inr ⟨_, _, rfl, ht⟩)
  · cases h

theorem readAttributes?_named {text rest : Chars} {attributes : List Attribute}
    (h : readAttributes? text = some (attributes, rest)) :
    ∀ attr ∈ attributes, attr.name ≠ [] := by
  fun_induction readAttributes? text generalizing attributes rest with
  | case1 text hb =>
    cases h
    simp
  | case2 => simp at h
  | case3 text gap c behind hb hc value after ha =>
    rename_i ih
    obtain ⟨⟨more, r⟩, hm, he⟩ := Option.map_eq_some_iff.mp h
    cases he
    exact List.forall_mem_cons.mpr ⟨List.cons_ne_nil _ _, ih hm⟩
  | case4 =>
    cases h
    simp

-- ---------------------------------------------------------------------------
-- All pieces together
-- ---------------------------------------------------------------------------

@[simp] theorem written_textPiece (value : Chars) :
    (textPiece value).flatMap Piece.written = value := by
  cases value <;> simp [textPiece, Piece.written]

theorem formed_textPiece {value : Chars} {piece : Piece} (h : piece ∈ textPiece value) :
    piece.Formed := by
  unfold textPiece at h
  split at h
  · cases h
  · rename_i hv
    rw [List.mem_singleton.mp h]
    simpa [Piece.Formed] using hv

theorem written_piecesFrom (before text : Chars) :
    (piecesFrom before text).flatMap Piece.written = before.reverse ++ text := by
  fun_induction piecesFrom before text with
  | case1 before text construct rest h ih =>
    have hw := Construct.read?_written h
    simp only [List.flatMap_append, written_textPiece, List.flatMap_cons, Piece.written, ih,
      List.reverse_nil, List.nil_append, hw]
  | case2 before h => simp
  | case3 before c rest h ih => simp [ih]

theorem written_pieces (text : Chars) : (pieces text).flatMap Piece.written = text :=
  written_piecesFrom [] text

theorem formed_piecesFrom {before text : Chars} {piece : Piece}
    (hp : piece ∈ piecesFrom before text) : piece.Formed := by
  fun_induction piecesFrom before text with
  | case1 before text construct rest h ih =>
    rcases List.mem_append.mp hp with ht | hc
    · exact formed_textPiece ht
    · rcases List.mem_cons.mp hc with rfl | hr
      · exact Construct.read?_formed h
      · exact ih hr
  | case2 before h => exact formed_textPiece hp
  | case3 before c rest h ih => exact ih hp

theorem formed_pieces {text : Chars} {piece : Piece} (h : piece ∈ pieces text) : piece.Formed :=
  formed_piecesFrom h

theorem exists_read?_of_mem_piecesFrom {before text : Chars} {construct : Construct}
    (h : .construct construct ∈ piecesFrom before text) :
    ∃ front rest, Construct.read? front = some (construct, rest) := by
  have htext : ∀ value, Piece.construct construct ∉ textPiece value := by
    intro value hm
    unfold textPiece at hm
    split at hm <;> simp at hm
  fun_induction piecesFrom before text with
  | case1 before text first rest hread ih =>
    rcases List.mem_append.mp h with ht | hc
    · exact absurd ht (htext _)
    · rcases List.mem_cons.mp hc with heq | hr
      · cases heq
        exact ⟨text, rest, hread⟩
      · exact ih hr
  | case2 before hread => exact absurd h (htext _)
  | case3 before c rest hread ih => exact ih h

theorem not_closed_of_mem_pieces {code value : Chars}
    (h : .construct (.comment value) ∈ pieces code) : ¬ commentClosing <:+: value := by
  obtain ⟨_, _, hread⟩ := exists_read?_of_mem_piecesFrom h
  rcases Construct.read?_cases hread with ⟨_, _, ⟨⟩, hcut⟩ | ⟨_, _, ⟨⟩⟩ | ⟨_, _, ⟨⟩, -⟩
  exact Text.not_infix_of_cutAt? (by decide) hcut

theorem named_of_mem_pieces {code : Chars} {tag : StartTag}
    (h : .construct (.startTag tag) ∈ pieces code) : ∀ attr ∈ tag.attributes, attr.name ≠ [] := by
  obtain ⟨_, _, hread⟩ := exists_read?_of_mem_piecesFrom h
  rcases Construct.read?_cases hread with ⟨_, _, ⟨⟩, -⟩ | ⟨_, _, ⟨⟩⟩ | ⟨_, _, ⟨⟩, htag⟩
  simp only [readStartTag?, Option.bind_eq_bind, Option.bind_eq_some_iff, Option.pure_def,
    Option.some.injEq, Prod.mk.injEq, Prod.exists] at htag
  obtain ⟨_, _, -, _, _, ha, _, _, _, -, rfl, rfl⟩ := htag
  exact readAttributes?_named ha

end TemplateTree.Markup
