import Mathlib.Data.List.Nodup
import TemplateTree.Proofs.Source
import TemplateTree.Proofs.Pieces
import TemplateTree.Proofs.Steps

/-!
# Nodes and comments tile the text

Every piece of an accepted template is kept: as a text, as a tag of an element,
or as a comment. The spans of all of these follow one another without a gap from
the start of the text to its end. The invariant of the scan is `Covers`: what
was taken up so far tiles the text before the scanner's position.
-/

namespace TemplateTree

open Text (Chars isBlank)
open Expression (bind_eq_ok exists_ok_of_isOk)
open Markup

-- ---------------------------------------------------------------------------
-- Tilings
-- ---------------------------------------------------------------------------

/-- The spans cover the offsets from `lo` up to `hi`: none is empty, and each
starts where the one before it stops. -/
def Tiles : Nat → List Span → Nat → Prop
  | lo, [], hi => lo = hi
  | lo, span :: rest, hi =>
    span.start.offset = lo ∧ lo < span.stop.offset ∧ Tiles span.stop.offset rest hi

theorem Tiles.snoc {lo mid : Nat} {spans : List Span} {span : Span} (h : Tiles lo spans mid)
    (hs : span.start.offset = mid) (hlt : mid < span.stop.offset) :
    Tiles lo (spans ++ [span]) span.stop.offset := by
  induction spans generalizing lo with
  | nil =>
    cases h
    exact ⟨hs, hlt, rfl⟩
  | cons first rest ih => exact ⟨h.1, h.2.1, ih h.2.2⟩

theorem Tiles.bounds {lo hi : Nat} {spans : List Span} (h : Tiles lo spans hi) :
    lo ≤ hi ∧ ∀ span ∈ spans,
      lo ≤ span.start.offset ∧ span.start.offset < span.stop.offset ∧ span.stop.offset ≤ hi := by
  induction spans generalizing lo with
  | nil =>
    cases h
    exact ⟨Nat.le_refl _, fun _ hm => (nomatch hm)⟩
  | cons first rest ih =>
    obtain ⟨hs, hlt, ht⟩ := h
    obtain ⟨hle, hin⟩ := ih ht
    refine ⟨by omega, ?_⟩
    intro span hm
    rcases List.mem_cons.mp hm with rfl | hr
    · omega
    · have := hin span hr
      omega

def Span.Precedes (a b : Span) : Prop := a.stop.offset ≤ b.start.offset

theorem Tiles.starts_increasing {lo hi : Nat} {spans : List Span} (h : Tiles lo spans hi) :
    spans.Pairwise fun a b => a.start.offset < b.start.offset := by
  induction spans generalizing lo with
  | nil => exact .nil
  | cons first rest ih =>
    obtain ⟨hs, hlt, ht⟩ := h
    refine .cons ?_ (ih ht)
    intro span hm
    have := ht.bounds.2 span hm
    omega

def sortSpans (spans : List Span) : List Span :=
  spans.mergeSort fun a b => a.start.offset ≤ b.start.offset

theorem Tiles.sortSpans_eq {lo hi : Nat} {spans other : List Span} (h : Tiles lo spans hi)
    (hp : spans.Perm other) : sortSpans other = spans := by
  have hinc := h.starts_increasing
  have hsorted : (sortSpans other).Pairwise fun a b => a.start.offset ≤ b.start.offset := by
    have : (sortSpans other).Pairwise fun a b => decide (a.start.offset ≤ b.start.offset) :=
      List.pairwise_mergeSort (fun a b c hab hbc => by simp at *; omega)
        (fun a b => by simp; omega) other
    exact this.imp fun hab => of_decide_eq_true hab
  have hperm : (sortSpans other).Perm spans := (List.mergeSort_perm _ _).trans hp.symm
  have hnodup : (spans.map fun span => span.start.offset).Nodup :=
    List.pairwise_map.mpr (hinc.imp fun hab => Nat.ne_of_lt hab)
  refine hperm.eq_of_pairwise ?_ hsorted (hinc.imp fun hab => Nat.le_of_lt hab)
  intro a b ha hb hab hba
  exact List.inj_on_of_nodup_map hnodup (hperm.mem_iff.mp ha) hb (Nat.le_antisymm hab hba)

-- ---------------------------------------------------------------------------
-- What nodes cover
-- ---------------------------------------------------------------------------

/-- A template made for a directive stands for the element it is written on. -/
def TemplateHead.isWrapper (head : TemplateHead) : Bool := head.tagName ≠ templateTag

mutual

/-- The spans of the texts and tags of a node in document order: its start tag,
what its children cover, its end tag. A wrapper adds nothing to its element. -/
def Node.ownSpans : Node → List Span
  | .text _ span => [span]
  | .boundText _ span => [span]
  | .element head children =>
    head.spans.opening :: (Node.ownSpansOf children ++ head.spans.closing.toList)
  | .template head children =>
    if head.isWrapper then Node.ownSpansOf children
    else head.spans.opening :: (Node.ownSpansOf children ++ head.spans.closing.toList)

def Node.ownSpansOf : List Node → List Span
  | [] => []
  | node :: rest => node.ownSpans ++ Node.ownSpansOf rest

end

def IsClosingTag (name text : Chars) : Prop :=
  ∃ written blanks, IsTagName written ∧ (∀ c ∈ blanks, isBlank c = true) ∧
    Text.lower written = Text.lower name ∧ text = '<' :: '/' :: (written ++ (blanks ++ ['>']))

structure TagSpans.Fit (source : Source) (name : Chars) (spans : TagSpans) : Prop where
  whole : spans.whole = ⟨spans.opening.start, (spans.closing.getD spans.opening).stop⟩
  opening : '<' :: name <+: source.textOf spans.opening
  closing : ∀ span ∈ spans.closing, IsClosingTag name (source.textOf span)

mutual

def Node.SpansFit (source : Source) : Node → Prop
  | .text _ _ => True
  | .boundText _ _ => True
  | .element head children => head.spans.Fit source head.name ∧ Node.AllSpansFit source children
  | .template head children =>
    head.spans.Fit source head.tagName ∧ Node.AllSpansFit source children ∧
      (head.isWrapper → ∃ inner kids, children = [.element inner kids] ∧
        inner.name = head.tagName ∧ inner.spans = head.spans)

def Node.AllSpansFit (source : Source) : List Node → Prop
  | [] => True
  | node :: rest => node.SpansFit source ∧ Node.AllSpansFit source rest

end

theorem Node.ownSpansOf_snoc (nodes : List Node) (node : Node) :
    ownSpansOf (nodes ++ [node]) = ownSpansOf nodes ++ node.ownSpans := by
  induction nodes with
  | nil => simp [ownSpansOf]
  | cons first rest ih => simp [ownSpansOf, ih]

theorem Node.allSpansFit_snoc {source : Source} {nodes : List Node} {node : Node}
    (h : AllSpansFit source nodes) (hn : node.SpansFit source) :
    AllSpansFit source (nodes ++ [node]) := by
  induction nodes with
  | nil => exact ⟨hn, trivial⟩
  | cons first rest ih => exact ⟨h.1, ih h.2⟩

namespace Markup

def OpenElement.ownSpans (element : OpenElement) : List Span :=
  element.opening :: Node.ownSpansOf element.children

def State.ownSpans (state : State) : List Span :=
  Node.ownSpansOf state.roots ++ state.stack.reverse.flatMap OpenElement.ownSpans

theorem State.ownSpans_append (state : State) (node : Node) :
    (state.append node).ownSpans = state.ownSpans ++ node.ownSpans := by
  obtain ⟨stack, roots, comments, problems⟩ := state
  cases stack with
  | nil => simp [State.append, State.ownSpans, Node.ownSpansOf_snoc]
  | cons top rest =>
    simp [State.append, State.ownSpans, OpenElement.ownSpans, Node.ownSpansOf_snoc]

structure OpenElement.Fit (source : Source) (element : OpenElement) : Prop where
  located : ∃ start stop, element.opening = source.span start stop
  opening : '<' :: element.name <+: source.textOf element.opening
  children : Node.AllSpansFit source element.children

section
variable {source : Source} {element : OpenElement} {closing : Option Span}

theorem OpenElement.ownSpans_finish :
    (element.finish source closing).1.ownSpans = element.ownSpans ++ closing.toList := by
  unfold OpenElement.finish
  split
  · rename_i hn
    simp [Node.ownSpans, TemplateHead.isWrapper, hn, ownSpans]
  · rename_i hn
    dsimp only
    split
    · simp [Node.ownSpans, ownSpans]
    · simp [Node.ownSpans, Node.ownSpansOf, TemplateHead.isWrapper, hn, ownSpans]

theorem OpenElement.Fit.spansFit_finish (h : element.Fit source)
    (hc : ∀ span ∈ closing, (∃ start stop, span = source.span start stop) ∧
      IsClosingTag element.name (source.textOf span)) :
    (element.finish source closing).1.SpansFit source := by
  obtain ⟨start, stop, ho⟩ := h.located
  -- The offsets of both ends were located before, so the whole span keeps their places.
  have hend : ∃ offset, (closing.getD element.opening).stop = source.locate offset := by
    cases closing with
    | none => exact ⟨stop, by simp [ho, Source.span]⟩
    | some span =>
      obtain ⟨⟨a, b, rfl⟩, -⟩ := hc span rfl
      exact ⟨b, rfl⟩
  obtain ⟨offset, hend⟩ := hend
  have hstart : element.opening.start = source.locate start := by rw [ho]; rfl
  have hfit : TagSpans.Fit source element.name
      ⟨source.span element.opening.start.offset (closing.getD element.opening).stop.offset,
        element.opening, closing⟩ := by
    refine ⟨?_, h.opening, fun span hs => (hc span hs).2⟩
    simp only [Source.span, hend, hstart, Source.locate_locate_offset]
  unfold OpenElement.finish
  split
  · rename_i hn
    exact ⟨hfit, h.children, fun hw => absurd hn (by simpa [TemplateHead.isWrapper] using hw)⟩
  · dsimp only
    split
    · exact ⟨hfit, h.children⟩
    · exact ⟨hfit, ⟨⟨hfit, h.children⟩, trivial⟩, fun _ => ⟨_, _, rfl, rfl, rfl⟩⟩

end

-- ---------------------------------------------------------------------------
-- The invariant of the scan
-- ---------------------------------------------------------------------------

/-- Nodes and comments so far tile the text before `pos`, the nodes in order. -/
structure State.Covers (state : State) (pos : Nat) : Prop where
  tiled : ∃ spans, Tiles 0 spans pos ∧
    spans.Perm (state.ownSpans ++ state.comments.map Comment.span)
  ordered : state.ownSpans.Pairwise Span.Precedes

structure State.Fit (source : Source) (state : State) : Prop where
  roots : Node.AllSpansFit source state.roots
  stack : ∀ element ∈ state.stack, element.Fit source
  comments : ∀ comment ∈ state.comments,
    source.textOf comment.span = (Construct.comment comment.value).written

section
variable {source : Source} {options : ParseOptions} {pos : Nat} {state state' : State}

theorem State.Covers.extend {span : Span} (h : state.Covers pos) (hs : span.start.offset = pos)
    (hlt : pos < span.stop.offset)
    (hn : (state'.ownSpans = state.ownSpans ++ [span] ∧ state'.comments = state.comments) ∨
      (state'.ownSpans = state.ownSpans ∧
        ∃ value, state'.comments = state.comments ++ [⟨value, span⟩])) :
    state'.Covers span.stop.offset := by
  obtain ⟨⟨spans, ht, hp⟩, ho⟩ := h
  have ht' := ht.snoc hs hlt
  have hbefore : ∀ other ∈ state.ownSpans, other.Precedes span := by
    intro other hm
    have := ht.bounds.2 other (hp.mem_iff.mpr (List.mem_append_left _ hm))
    simp only [Span.Precedes]
    omega
  rcases hn with ⟨hown, hcom⟩ | ⟨hown, value, hcom⟩
  · refine ⟨⟨_, ht', ?_⟩, ?_⟩
    · rw [hown, hcom, List.append_assoc]
      refine (hp.append_right _).trans ?_
      rw [List.append_assoc]
      exact List.perm_append_comm.append_left _
    · rw [hown, List.pairwise_append]
      exact ⟨ho, List.pairwise_singleton _ _, fun a ha b hb => by
        rw [List.mem_singleton.mp hb]; exact hbefore a ha⟩
  · refine ⟨⟨_, ht', ?_⟩, ?_⟩
    · rw [hown, hcom, List.map_append, ← List.append_assoc]
      exact hp.append_right _
    · rw [hown]
      exact ho

theorem State.Fit.report (h : state.Fit source) (problems : List Problem) :
    (state.report problems).Fit source := ⟨h.roots, h.stack, h.comments⟩

theorem State.Fit.append {node : Node} (h : state.Fit source) (hn : node.SpansFit source) :
    (state.append node).Fit source := by
  obtain ⟨stack, roots, comments, problems⟩ := state
  cases stack with
  | nil => exact ⟨Node.allSpansFit_snoc h.roots hn, h.stack, h.comments⟩
  | cons top rest =>
    refine ⟨h.roots, ?_, h.comments⟩
    intro element hm
    rcases List.mem_cons.mp hm with rfl | hr
    · have ht := h.stack top (.head _)
      exact ⟨ht.located, ht.opening, Node.allSpansFit_snoc ht.children hn⟩
    · exact h.stack element (.tail _ hr)

@[simp] theorem State.comments_append (state : State) (node : Node) :
    (state.append node).comments = state.comments := by
  unfold State.append
  split <;> rfl

/-- One step takes up the stretch of the text that its piece is written as. -/
theorem step_covers {piece : Piece} (hw : options.preserveWhitespaces = true)
    (hf : piece.Formed) (hat : source.HasAt pos piece.written)
    (h : state.step source options pos piece = .ok state') (hp : state'.problems = [])
    (hc : state.Covers pos) : state'.Covers (pos + piece.written.length) := by
  have hlen : 0 < piece.written.length := List.length_pos_iff.mpr hf.written_ne_nil
  have hs := hat.span_start (pos + piece.written.length)
  have he := hat.span_stop pos
  rw [← he]
  refine hc.extend hs (by omega) ?_
  cases piece with
  | text value =>
    rcases addText_cases h with ⟨-, rfl⟩ | ⟨-, hw', -⟩ | ⟨-, binding, _, -, rfl⟩
    · simp at hp
    · rw [hw] at hw'
      cases hw'
    · refine .inl ⟨?_, by simp [State.report]⟩
      rw [State.ownSpans_append]
      cases binding <;> rfl
  | construct c =>
    cases c with
    | comment value =>
      rw [step_comment] at h
      cases h
      exact .inr ⟨rfl, value, rfl⟩
    | endTag name tail =>
      rw [step_endTag] at h
      cases h
      rcases closeElement_cases state source name
        (source.span pos (pos + (Construct.endTag name tail).written.length)) with
        ⟨top, rest, hst, -, heq⟩ | ⟨-, heq⟩
      · refine .inl ⟨?_, by simp [heq, State.report]⟩
        rw [heq, State.ownSpans_append, OpenElement.ownSpans_finish]
        simp [State.ownSpans, hst, State.report, Piece.written]
      · simp [heq] at hp
    | startTag tag =>
      obtain ⟨entries, _, -, ⟨-, rfl⟩ | ⟨-, rfl⟩⟩ := openElement_cases h
      · refine .inl ⟨?_, by simp [State.report]⟩
        rw [State.ownSpans_append, OpenElement.ownSpans_finish]
        rfl
      · refine .inl ⟨?_, rfl⟩
        simp [State.ownSpans, State.report, OpenElement.ownSpans, StartTag.element,
          Node.ownSpansOf, Piece.written, Construct.written]

theorem StartTag.element_fit {tag : StartTag} {entries : Entries}
    (hat : source.HasAt pos tag.written) : (tag.element source pos entries).Fit source := by
  refine ⟨⟨_, _, rfl⟩, ?_, trivial⟩
  rw [StartTag.element, hat.textOf_span, StartTag.written, ← List.cons_append]
  exact List.prefix_append _ _

theorem step_fit {piece : Piece} (hf : piece.Formed) (hat : source.HasAt pos piece.written)
    (h : state.step source options pos piece = .ok state') (hfit : state.Fit source) :
    state'.Fit source := by
  cases piece with
  | text value =>
    rcases addText_cases h with ⟨-, rfl⟩ | ⟨-, -, -, rfl⟩ | ⟨-, binding, _, -, rfl⟩
    · exact hfit.report _
    · exact hfit
    · refine (hfit.report _).append ?_
      cases binding <;> trivial
  | construct c =>
    cases c with
    | comment value =>
      rw [step_comment] at h
      cases h
      refine ⟨hfit.roots, hfit.stack, ?_⟩
      intro comment hm
      rcases List.mem_append.mp hm with ho | hn
      · exact hfit.comments comment ho
      · rw [List.mem_singleton.mp hn]
        exact hat.textOf_span
    | endTag name tail =>
      rw [step_endTag] at h
      cases h
      rcases closeElement_cases state source name
        (source.span pos (pos + (Construct.endTag name tail).written.length)) with
        ⟨top, rest, hst, hn, heq⟩ | ⟨-, heq⟩
      · have htop := hfit.stack top (hst ▸ .head _)
        have hrest : { state with stack := rest }.Fit source :=
          ⟨hfit.roots, fun element hm => hfit.stack element (hst ▸ .tail _ hm), hfit.comments⟩
        rw [heq]
        refine (hrest.report _).append (htop.spansFit_finish ?_)
        rintro span ⟨⟩
        refine ⟨⟨_, _, rfl⟩, name, tail, hf.1, hf.2, hn.symm, ?_⟩
        exact hat.textOf_span
      · rw [heq]
        exact hfit.report _
    | startTag tag =>
      obtain ⟨entries, _, -, ⟨-, rfl⟩ | ⟨-, rfl⟩⟩ := openElement_cases h
      · refine ((hfit.report _).report _).append ?_
        exact (StartTag.element_fit hat).spansFit_finish (by simp)
      · refine ⟨hfit.roots, ?_, hfit.comments⟩
        intro element hm
        rcases List.mem_cons.mp hm with rfl | hr
        · exact StartTag.element_fit hat
        · exact hfit.stack element hr

theorem run_covers {pieces : List Piece} (hw : options.preserveWhitespaces = true)
    (hf : ∀ piece ∈ pieces, piece.Formed) (hat : source.HasAt pos (pieces.flatMap Piece.written))
    (h : state.run source options pos pieces = .ok state') (hp : state'.problems = [])
    (hc : state.Covers pos) (hfit : state.Fit source) :
    state'.Covers (pos + (pieces.flatMap Piece.written).length) ∧ state'.Fit source := by
  refine run_invariant (P := fun pos state => state.Covers pos ∧ state.Fit source) ?_ hat h hp
    ⟨hc, hfit⟩
  rintro pos state state' piece hm hat hs hp ⟨hc, hfit⟩
  exact ⟨step_covers hw (hf piece hm) hat hs hp hc, step_fit (hf piece hm) hat hs hfit⟩

end

end Markup

/-- The nodes and comments of a template account for its text. -/
structure ParsedTemplate.AccountsFor (parsed : ParsedTemplate) (source : Source)
    (comments : List Comment) : Prop where
  /-- Sorted, the spans of texts, tags and comments run from one end to the other. -/
  tiles : Tiles 0 (sortSpans (Node.ownSpansOf parsed.nodes ++ comments.map Comment.span))
    source.text.length
  /-- The nodes list their spans in document order. -/
  ordered : (Node.ownSpansOf parsed.nodes).Pairwise Span.Precedes
  fit : Node.AllSpansFit source parsed.nodes
  comments : ∀ comment ∈ comments,
    source.textOf comment.span = commentOpening ++ comment.value ++ commentClosing

/-- Nothing of an accepted template is lost: its texts, tags and comments cover
the text from its start to its end. -/
theorem parseTemplate_lossless {code : Chars} {url : String} {options : ParseOptions}
    {parsed : ParsedTemplate} (hw : options.preserveWhitespaces = true)
    (hc : options.collectComments = true) (h : parseTemplate code url options = .ok parsed) :
    ∃ comments, parsed.comments = some comments ∧
      parsed.AccountsFor (Source.ofText code url) comments := by
  obtain ⟨state, hrun, hp, hst, rfl⟩ := parseTemplate_ok_iff.mp h
  obtain ⟨hcov, hfit⟩ := run_covers hw (fun piece hm => formed_pieces hm)
    ⟨[], [], by simp [written_pieces, Source.ofText], rfl⟩ hrun hp
    ⟨⟨[], rfl, .nil⟩, .nil⟩ ⟨trivial, by simp, by simp⟩
  obtain ⟨⟨spans, ht, hperm⟩, hord⟩ := hcov
  have hown : state.ownSpans = Node.ownSpansOf state.roots := by simp [State.ownSpans, hst]
  rw [written_pieces, List.length_nil, Nat.zero_add] at ht
  rw [hown] at hperm hord
  refine ⟨state.comments, by simp [hc], ?_, hord, hfit.roots, hfit.comments⟩
  rw [ht.sortSpans_eq hperm]
  exact ht

/-- A wrapped element with a lone bracket, a marker, a void tag and a comment in
it, closed in the other case, and an empty template behind it. -/
theorem parseTemplate_lossless_nested :
    ∃ parsed comments,
      parseTemplate
        "<P *a=\"let b of c\">\r\n< \x7b\x7bd\x7d\x7d<br><!-- > --></p ><ng-template let-x/>".toList
        "t.html" {} = .ok parsed ∧ parsed.comments = some comments ∧
      parsed.AccountsFor (Source.ofText
        "<P *a=\"let b of c\">\r\n< \x7b\x7bd\x7d\x7d<br><!-- > --></p ><ng-template let-x/>".toList
        "t.html") comments := by
  obtain ⟨parsed, h⟩ : ∃ parsed, parseTemplate
      "<P *a=\"let b of c\">\r\n< \x7b\x7bd\x7d\x7d<br><!-- > --></p ><ng-template let-x/>".toList
      "t.html" {} = .ok parsed :=
    exists_ok_of_isOk (by decide +kernel)
  obtain ⟨comments, hc, ha⟩ := parseTemplate_lossless rfl rfl h
  exact ⟨parsed, comments, h, hc, ha⟩

end TemplateTree
