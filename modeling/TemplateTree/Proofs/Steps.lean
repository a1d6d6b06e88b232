import TemplateTree.Markup.Template
import TemplateTree.Proofs.Grammar
import TemplateTree.Proofs.Pieces
import TemplateTree.Proofs.Source

/-!
# What one step of a scan can do

Each piece of a template changes the state of the scan in one of a few ways.
The lemmas here say which, so that no later proof has to open the step functions,
and `run_invariant` carries what a step keeps through a whole scan.
-/

namespace TemplateTree.Markup

open Text (Chars)
open Expression (bind_eq_ok)

variable {source : Source} {options : ParseOptions} {pos : Nat} {state state' : State}

def textNode (options : ParseOptions) (text : Chars) (span : Span) : Option Binding → Node
  | some binding => .boundText binding span
  | none => .text (if options.preserveLineEndings then text else Text.unixLines text) span

def StartTag.element (tag : StartTag) (source : Source) (pos : Nat) (entries : Entries) :
    OpenElement :=
  { name := tag.name, opening := source.span pos (pos + tag.written.length), entries }

def StartTag.isLeaf (tag : StartTag) : Bool := tag.selfClosing || isVoid tag.name

theorem addText_cases {text : Chars} (h : state.addText source options pos text = .ok state') :
    (Text.contains commentOpening text = true ∧
      state' = state.report [⟨.unterminatedComment, source.span pos (pos + text.length)⟩]) ∨
    (Text.contains commentOpening text = false ∧ options.preserveWhitespaces = false ∧
      Text.allBlank text = true ∧ state' = state) ∨
    (Text.contains commentOpening text = false ∧ ∃ binding problems,
      interpolateAt source text pos = .ok (binding, problems) ∧
      state' = (state.report problems).append
        (textNode options text (source.span pos (pos + text.length)) binding)) := by
  unfold State.addText at h
  split at h
  · rename_i hc
    exact .inl ⟨hc, (Except.ok.inj h).symm⟩
  · rename_i hc
    have hc : Text.contains commentOpening text = false := by simpa using hc
    split at h
    · rename_i hb
      simp only [Bool.and_eq_true, Bool.not_eq_true'] at hb
      exact .inr (.inl ⟨hc, hb.1, hb.2, (Except.ok.inj h).symm⟩)
    · obtain ⟨⟨binding, problems⟩, hi, h⟩ := bind_eq_ok.mp h
      refine .inr (.inr ⟨hc, binding, problems, hi, ?_⟩)
      cases binding with
      | none => exact (Except.ok.inj h).symm
      | some binding => exact (Except.ok.inj h).symm

theorem openElement_cases {tag : StartTag} (h : state.openElement source pos tag = .ok state') :
    ∃ entries problems,
      tagEntries source (pos + 1 + tag.name.length) tag.attributes = .ok (entries, problems) ∧
      ((tag.isLeaf = true ∧
        state' = ((state.report problems).report
          ((tag.element source pos entries).finish source none).2).append
            ((tag.element source pos entries).finish source none).1) ∨
      (tag.isLeaf = false ∧
        state' = { state.report problems with
          stack := tag.element source pos entries :: state.stack })) := by
  unfold State.openElement at h
  obtain ⟨⟨entries, problems⟩, he, h⟩ := bind_eq_ok.mp h
  refine ⟨entries, problems, he, ?_⟩
  dsimp only at h
  split at h
  · rename_i hl
    exact .inl ⟨hl, (Except.ok.inj h).symm⟩
  · rename_i hl
    exact .inr ⟨by simpa [StartTag.isLeaf] using hl, (Except.ok.inj h).symm⟩

theorem closeElement_cases (state : State) (source : Source) (name : Chars) (closing : Span) :
    (∃ top rest, state.stack = top :: rest ∧ Text.lower top.name = Text.lower name ∧
      state.closeElement source name closing =
        ({ state with stack := rest }.report (top.finish source (some closing)).2).append
          (top.finish source (some closing)).1) ∨
    ((∀ top ∈ state.stack.head?, Text.lower top.name ≠ Text.lower name) ∧
      state.closeElement source name closing =
        state.report [⟨.unexpectedClosingTag name, closing⟩]) := by
  unfold State.closeElement
  split
  · rename_i hs
    exact .inr ⟨by simp [hs], rfl⟩
  · rename_i top rest hs
    split
    · rename_i hn
      exact .inl ⟨top, rest, hs, hn, rfl⟩
    · rename_i hn
      refine .inr ⟨?_, rfl⟩
      intro other ho
      rw [hs] at ho
      cases ho
      exact hn

theorem step_endTag (name tail : Chars) :
    state.step source options pos (.construct (.endTag name tail)) =
      .ok (state.closeElement source name
        (source.span pos (pos + (Construct.endTag name tail).written.length))) := by
  simp only [State.step, Int.natCast_add]

theorem step_comment (value : Chars) :
    state.step source options pos (.construct (.comment value)) =
      .ok { state with comments := state.comments ++
        [⟨value, source.span pos (pos + (Construct.comment value).written.length)⟩] } := by
  simp only [State.step, Int.natCast_add]

-- ---------------------------------------------------------------------------
-- Problems
-- ---------------------------------------------------------------------------

theorem State.report_nil (state : State) : state.report [] = state := by
  simp [State.report]

@[simp] theorem State.problems_report (state : State) (problems : List Problem) :
    (state.report problems).problems = state.problems ++ problems := rfl

@[simp] theorem State.problems_append (state : State) (node : Node) :
    (state.append node).problems = state.problems := by
  unfold State.append
  split <;> rfl

theorem closeElement_problems (state : State) (source : Source) (name : Chars) (closing : Span) :
    state.problems <+: (state.closeElement source name closing).problems := by
  rcases closeElement_cases state source name closing with ⟨_, _, -, -, he⟩ | ⟨-, he⟩
  · simp [he]
  · simp [he]

theorem step_problems {piece : Piece} (h : state.step source options pos piece = .ok state') :
    state.problems <+: state'.problems := by
  cases piece with
  | text value =>
    rcases addText_cases h with ⟨-, rfl⟩ | ⟨-, -, -, rfl⟩ | ⟨-, _, _, -, rfl⟩
    · exact List.prefix_append _ _
    · exact List.prefix_rfl
    · simp
  | construct c =>
    cases c with
    | comment value =>
      cases h
      exact List.prefix_rfl
    | endTag name tail =>
      cases h
      exact closeElement_problems state source name _
    | startTag tag =>
      obtain ⟨_, _, -, ⟨-, rfl⟩ | ⟨-, rfl⟩⟩ := openElement_cases h <;> simp

theorem run_problems {pieces : List Piece} (h : state.run source options pos pieces = .ok state') :
    state.problems <+: state'.problems := by
  induction pieces generalizing pos state with
  | nil =>
    cases h
    exact List.prefix_rfl
  | cons piece rest ih =>
    obtain ⟨mid, hs, hr⟩ := bind_eq_ok.mp h
    exact (step_problems hs).trans (ih hr)

-- ---------------------------------------------------------------------------
-- Invariants
-- ---------------------------------------------------------------------------

/-- What every step without a problem keeps is kept by a run without problems. -/
theorem run_invariant {P : Nat → State → Prop} {pieces : List Piece}
    (hstep : ∀ {pos state state'} {piece : Piece}, piece ∈ pieces →
      source.HasAt pos piece.written → State.step source options pos state piece = .ok state' →
      state'.problems = [] → P pos state → P (pos + piece.written.length) state')
    (hat : source.HasAt pos (pieces.flatMap Piece.written))
    (h : state.run source options pos pieces = .ok state') (hp : state'.problems = [])
    (hstart : P pos state) : P (pos + (pieces.flatMap Piece.written).length) state' := by
  induction pieces generalizing pos state with
  | nil =>
    cases h
    exact hstart
  | cons piece rest ih =>
    obtain ⟨mid, hs, hr⟩ := bind_eq_ok.mp h
    obtain ⟨hat₁, hat₂⟩ := Source.HasAt.of_append (List.flatMap_cons ▸ hat)
    have hmid : mid.problems = [] := List.prefix_nil.mp (hp ▸ run_problems hr)
    rw [List.flatMap_cons, List.length_append, ← Nat.add_assoc]
    exact ih (fun hm => hstep (.tail _ hm)) hat₂ hr (hstep (.head _) hat₁ hs hmid hstart)

end TemplateTree.Markup

namespace TemplateTree

open Text (Chars)
open Markup

theorem parseTemplate_ok_iff {code : Chars} {url : String} {options : ParseOptions}
    {parsed : ParsedTemplate} :
    parseTemplate code url options = .ok parsed ↔
      ∃ state, State.run (Source.ofText code url) options 0 {} (pieces code) = .ok state ∧
        state.problems = [] ∧ state.stack = [] ∧
        parsed = ⟨state.roots, if options.collectComments then some state.comments else none,
          Source.ofText code url⟩ := by
  cases hrun : State.run (Source.ofText code url) options 0 {} (pieces code) with
  | error oversized =>
    cases oversized
    simp [parseTemplate, hrun]
  | ok state =>
    have hfinish : state.finish.problems = [] ↔ state.problems = [] ∧ state.stack = [] := by
      simp [State.finish]
    simp only [parseTemplate, hrun, List.isEmpty_iff, hfinish]
    constructor
    · intro h
      split at h
      · rename_i hp
        exact ⟨state, rfl, hp.1, hp.2, (Except.ok.inj h).symm⟩
      · cases h
    · rintro ⟨_, ⟨⟩, hp, hs, rfl⟩
      rw [if_pos ⟨hp, hs⟩]
      rfl

theorem parseTemplate_invariant {code : Chars} {url : String} {options : ParseOptions}
    {parsed : ParsedTemplate} {P : Nat → State → Prop}
    (h : parseTemplate code url options = .ok parsed)
    (hstep : ∀ {pos state state'} {piece : Piece}, piece ∈ pieces code →
      (Source.ofText code url).HasAt pos piece.written →
      State.step (Source.ofText code url) options pos state piece = .ok state' →
      state'.problems = [] → P pos state → P (pos + piece.written.length) state')
    (hstart : P 0 {}) :
    ∃ state, P code.length state ∧ state.stack = [] ∧ parsed.nodes = state.roots := by
  obtain ⟨state, hrun, hp, hst, rfl⟩ := parseTemplate_ok_iff.mp h
  have hlast := run_invariant hstep ⟨[], [], by simp [written_pieces, Source.ofText], rfl⟩ hrun hp
    hstart
  rw [written_pieces, List.length_nil, Nat.zero_add] at hlast
  exact ⟨state, hlast, hst, rfl⟩

end TemplateTree
