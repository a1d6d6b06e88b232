import TemplateTree.Proofs.Placement
import TemplateTree.Proofs.Tiling

/-!
# Nodes in a row

The top nodes of an accepted template stand in a row from one end of its text to
the other. Around them and between them lies only what becomes no node: comments,
and blanks where these are dropped. The invariant of the scan is `InRow`: the
closed nodes stand in a row before the outermost element that is open.
-/

namespace TemplateTree

open Text (Chars)
open Markup

-- ---------------------------------------------------------------------------
-- Margins
-- ---------------------------------------------------------------------------

/-- Comments one after another, with blanks between them where these are dropped. -/
inductive Margin (dropsBlanks : Bool) : Chars → Prop
  | nil : Margin dropsBlanks []
  | comment {value rest : Chars} : ¬ commentClosing <:+: value → Margin dropsBlanks rest →
      Margin dropsBlanks (commentOpening ++ value ++ commentClosing ++ rest)
  | blanks {text rest : Chars} : dropsBlanks = true → Text.allBlank text = true →
      Margin dropsBlanks rest → Margin dropsBlanks (text ++ rest)

def Markup.Piece.Skipped (code : Chars) (dropsBlanks : Bool) (piece : Piece) : Prop :=
  piece ∈ pieces code ∧
    ((∃ value, piece = .construct (.comment value)) ∨
      dropsBlanks = true ∧ ∃ value, piece = .text value ∧ Text.allBlank value = true)

theorem margin_of_skipped {code : Chars} {dropsBlanks : Bool} {skipped : List Piece}
    (h : ∀ piece ∈ skipped, piece.Skipped code dropsBlanks) :
    Margin dropsBlanks (skipped.flatMap Piece.written) := by
  induction skipped with
  | nil => exact .nil
  | cons piece rest ih =>
    obtain ⟨hpiece, hrest⟩ := List.forall_mem_cons.mp h
    rw [List.flatMap_cons]
    obtain ⟨hm, ⟨value, rfl⟩ | ⟨hd, value, rfl, hb⟩⟩ := hpiece
    · exact .comment (not_closed_of_mem_pieces hm) (ih hrest)
    · exact .blanks hd hb (ih hrest)

-- ---------------------------------------------------------------------------
-- Rows of nodes
-- ---------------------------------------------------------------------------

def Gap (source : Source) (skips : Piece → Prop) (lo hi : Nat) : Prop :=
  ∃ skipped : List Piece, (∀ piece ∈ skipped, skips piece) ∧
    source.HasAt lo (skipped.flatMap Piece.written) ∧
    lo + (skipped.flatMap Piece.written).length = hi

/-- The nodes stand one after another between two offsets, with gaps around them. -/
def Node.Row (source : Source) (skips : Piece → Prop) : Nat → List Node → Nat → Prop
  | lo, [], hi => Gap source skips lo hi
  | lo, node :: rest, hi => Gap source skips lo node.span.start.offset ∧
      (∃ start stop, node.span = source.span start stop) ∧
      node.span.start.offset < node.span.stop.offset ∧
      Node.Row source skips node.span.stop.offset rest hi

section
variable {source : Source} {skips : Piece → Prop} {lo mid hi : Nat}

theorem gap_self (h : lo ≤ source.text.length) : Gap source skips lo lo :=
  ⟨[], by simp, ⟨source.text.take lo, source.text.drop lo, by simp, by simp [h]⟩, rfl⟩

theorem Gap.le (h : Gap source skips lo hi) : lo ≤ hi := by
  obtain ⟨skipped, -, -, rfl⟩ := h
  exact Nat.le_add_right _ _

theorem Gap.snoc {piece : Piece} (h : Gap source skips lo mid) (hs : skips piece)
    (hat : source.HasAt mid piece.written) : Gap source skips lo (mid + piece.written.length) := by
  obtain ⟨skipped, hskip, hlo, rfl⟩ := h
  have hwritten : (skipped ++ [piece]).flatMap Piece.written =
      skipped.flatMap Piece.written ++ piece.written := by simp
  refine ⟨skipped ++ [piece], ?_, ?_, ?_⟩
  · simpa [or_imp, forall_and] using ⟨hskip, hs⟩
  · rw [hwritten]
    exact hlo.append hat
  · rw [hwritten, List.length_append, Nat.add_assoc]

theorem Gap.eq (h : Gap source skips lo hi) (hs : ∀ piece, ¬ skips piece) : lo = hi := by
  obtain ⟨skipped, hskip, -, rfl⟩ := h
  rw [List.eq_nil_iff_forall_not_mem.mpr fun piece hm => hs piece (hskip piece hm)]
  rfl

theorem Gap.margin_before {code : Chars} {dropsBlanks : Bool}
    (h : Gap source (Piece.Skipped code dropsBlanks) 0 hi) :
    Margin dropsBlanks (source.text.take hi) := by
  obtain ⟨skipped, hskip, ⟨before, after, ht, hlen⟩, rfl⟩ := h
  rw [List.length_eq_zero_iff.mp hlen, List.nil_append] at ht
  rw [ht, Nat.zero_add, List.take_left]
  exact margin_of_skipped hskip

theorem Gap.margin_after {code : Chars} {dropsBlanks : Bool}
    (h : Gap source (Piece.Skipped code dropsBlanks) lo source.text.length) :
    Margin dropsBlanks (source.text.drop lo) := by
  obtain ⟨skipped, hskip, ⟨before, after, ht, rfl⟩, hlen⟩ := h
  have hafter : after = [] := by
    rw [ht] at hlen
    simp only [List.length_append] at hlen
    exact List.length_eq_zero_iff.mp (by omega)
  rw [ht, hafter, List.append_nil, List.drop_left]
  exact margin_of_skipped hskip

variable {nodes : List Node} {node : Node}

theorem Node.Row.skip {piece : Piece} (h : Row source skips lo nodes mid) (hs : skips piece)
    (hat : source.HasAt mid piece.written) :
    Row source skips lo nodes (mid + piece.written.length) := by
  induction nodes generalizing lo with
  | nil => exact Gap.snoc h hs hat
  | cons first rest ih => exact ⟨h.1, h.2.1, h.2.2.1, ih h.2.2.2⟩

theorem Node.row_snoc : Row source skips lo (nodes ++ [node]) hi ↔
    Row source skips lo nodes node.span.start.offset ∧
      (∃ start stop, node.span = source.span start stop) ∧
      node.span.start.offset < node.span.stop.offset ∧
      Gap source skips node.span.stop.offset hi := by
  induction nodes generalizing lo with
  | nil => rfl
  | cons first rest ih => simp only [List.cons_append, Row, ih, and_assoc]

theorem Node.Row.bounds (h : Row source skips lo nodes hi) :
    lo ≤ hi ∧ ∀ node ∈ nodes, lo ≤ node.span.start.offset ∧
      node.span.start.offset < node.span.stop.offset ∧ node.span.stop.offset ≤ hi := by
  induction nodes generalizing lo with
  | nil => exact ⟨Gap.le h, by simp⟩
  | cons first rest ih =>
    obtain ⟨hgap, -, hlt, hrest⟩ := h
    have hle := hgap.le
    obtain ⟨hhi, hin⟩ := ih hrest
    refine ⟨by omega, List.forall_mem_cons.mpr ⟨⟨hle, hlt, hhi⟩, ?_⟩⟩
    intro node hm
    have := hin node hm
    omega

theorem Node.Row.ends {first last : Node} (h : Row source skips lo nodes hi)
    (hfirst : nodes.head? = some first) (hlast : nodes.getLast? = some last) :
    Gap source skips lo first.span.start.offset ∧ Gap source skips last.span.stop.offset hi ∧
      first.span.start.offset < last.span.stop.offset ∧
      source.locate first.span.start.offset = first.span.start ∧
      source.locate last.span.stop.offset = last.span.stop := by
  obtain ⟨rest, hrest⟩ := List.head?_eq_some_iff.mp hfirst
  obtain ⟨front, hfront⟩ := List.getLast?_eq_some_iff.mp hlast
  have hmem : last ∈ nodes := hfront ▸ List.mem_append_right _ (.head _)
  obtain ⟨-, ⟨_, stop, ht⟩, -, hafter⟩ := Node.row_snoc.mp (hfront ▸ h)
  rw [hrest] at h hmem
  obtain ⟨hbefore, ⟨start, _, hs⟩, hlt, hrest⟩ := h
  refine ⟨hbefore, hafter, ?_, ?_, ?_⟩
  · rcases List.mem_cons.mp hmem with rfl | hm
    · exact hlt
    · have := hrest.bounds.2 last hm
      omega
  · rw [hs]
    exact Source.locate_locate_offset start
  · rw [ht]
    exact Source.locate_locate_offset stop

end

-- ---------------------------------------------------------------------------
-- The invariant of the scan
-- ---------------------------------------------------------------------------

namespace Markup

def State.openings (state : State) : List Span := state.stack.map OpenElement.opening

/-- The closed nodes stand in a row, up to `pos` or to the outermost open element. -/
structure State.InRow (source : Source) (skips : Piece → Prop) (state : State) (pos : Nat) :
    Prop where
  closed : state.stack = [] → Node.Row source skips 0 state.roots pos
  opened : ∀ opening ∈ state.openings.getLast?,
    Node.Row source skips 0 state.roots opening.start.offset ∧ opening.start.offset < pos

section
variable {source : Source} {options : ParseOptions} {skips : Piece → Prop} {pos stop : Nat}
variable {state state' : State} {node : Node} {piece : Piece}

theorem State.openings_append (state : State) (node : Node) :
    (state.append node).openings = state.openings := by
  obtain ⟨stack, roots, comments, problems⟩ := state
  cases stack <;> rfl

theorem State.InRow.skip (h : state.InRow source skips pos) (hs : skips piece)
    (hat : source.HasAt pos piece.written) :
    state.InRow source skips (pos + piece.written.length) := by
  refine ⟨fun hst => (h.closed hst).skip hs hat, fun opening ho => ?_⟩
  obtain ⟨hrow, hlt⟩ := h.opened opening ho
  exact ⟨hrow, Nat.lt_add_right _ hlt⟩

/-- A new node ends the row, unless an element is open. -/
theorem State.InRow.append {start stop : Nat} (hspan : node.span = source.span start stop)
    (hle : stop ≤ source.text.length)
    (hclosed : state.stack = [] → Node.Row source skips 0 state.roots start ∧ start < stop)
    (hopened : ∀ opening ∈ state.openings.getLast?,
      Node.Row source skips 0 state.roots opening.start.offset ∧ opening.start.offset < stop) :
    (state.append node).InRow source skips stop := by
  obtain ⟨stack, roots, comments, problems⟩ := state
  cases stack with
  | nil =>
    obtain ⟨hrow, hlt⟩ := hclosed rfl
    have hstart : node.span.start.offset = start := by
      rw [hspan]
      exact Source.clamp_of_le (by omega)
    have hstop : node.span.stop.offset = stop := by
      rw [hspan]
      exact Source.clamp_of_le hle
    refine ⟨fun _ => ?_, by simp [State.openings, State.append]⟩
    refine Node.row_snoc.mpr ⟨?_, ⟨_, _, hspan⟩, ?_, ?_⟩
    · rw [hstart]
      exact hrow
    · rw [hstart, hstop]
      exact hlt
    · rw [hstop]
      exact gap_self hle
  | cons top rest =>
    refine ⟨by simp [State.append], ?_⟩
    rw [State.openings_append]
    exact hopened

theorem OpenElement.span_finish (element : OpenElement) (source : Source)
    (closing : Option Span) : (element.finish source closing).1.span =
      source.span element.opening.start.offset
        (closing.getD element.opening).stop.offset := by
  unfold OpenElement.finish
  split
  · rfl
  · dsimp only
    split <;> rfl

theorem step_inRow (hf : piece.Formed) (hat : source.HasAt pos piece.written)
    (hskip : ∀ {value}, piece = .construct (.comment value) ∨
      options.preserveWhitespaces = false ∧ piece = .text value ∧ Text.allBlank value = true →
        skips piece)
    (h : state.step source options pos piece = .ok state') (hp : state'.problems = [])
    (hrow : state.InRow source skips pos) :
    state'.InRow source skips (pos + piece.written.length) := by
  have hlt : pos < pos + piece.written.length :=
    Nat.lt_add_of_pos_right (List.length_pos_iff.mpr hf.written_ne_nil)
  have hclosed : state.stack = [] → Node.Row source skips 0 state.roots pos ∧
      pos < pos + piece.written.length := fun hst => ⟨hrow.closed hst, hlt⟩
  have hopened : ∀ opening ∈ state.openings.getLast?,
      Node.Row source skips 0 state.roots opening.start.offset ∧
        opening.start.offset < pos + piece.written.length := fun opening ho =>
    ⟨(hrow.opened opening ho).1, (hrow.opened opening ho).2.trans hlt⟩
  have hle := hat.le_length
  cases piece with
  | text value =>
    rcases addText_cases h with ⟨-, rfl⟩ | ⟨-, hw, hb, rfl⟩ | ⟨-, binding, problems, -, rfl⟩
    · simp at hp
    · exact hrow.skip (hskip (.inr ⟨hw, rfl, hb⟩)) hat
    · refine State.InRow.append ?_ hle hclosed hopened
      cases binding <;> rfl
  | construct c =>
    change source.HasAt pos c.written at hat
    cases c with
    | comment value =>
      rw [step_comment] at h
      cases h
      have hnext := hrow.skip (hskip (.inl rfl)) hat
      exact ⟨hnext.closed, hnext.opened⟩
    | endTag name tail =>
      rw [step_endTag] at h
      cases h
      rcases closeElement_cases state source name
        (source.span pos (pos + (Construct.endTag name tail).written.length)) with
        ⟨top, rest, hst, -, heq⟩ | ⟨-, heq⟩
      · have hspan := top.span_finish source
          (some (source.span pos (pos + (Construct.endTag name tail).written.length)))
        rw [Option.getD_some, hat.span_stop pos] at hspan
        rw [heq]
        -- With the last element closed, the row goes on where it was opened.
        cases rest with
        | nil =>
          have hroots := hopened top.opening (by simp [State.openings, hst])
          exact State.InRow.append hspan hle (fun _ => hroots)
            (by simp [State.openings, State.report])
        | cons next rest =>
          rw [State.openings, hst, List.map_cons, List.map_cons, List.getLast?_cons_cons] at hopened
          exact State.InRow.append hspan hle (by simp [State.report]) hopened
      · simp [heq] at hp
    | startTag tag =>
      obtain ⟨entries, _, -, ⟨-, rfl⟩ | ⟨-, rfl⟩⟩ := openElement_cases h
      · refine State.InRow.append ?_ hle hclosed hopened
        have hstop : (tag.element source pos entries).opening.stop.offset =
            pos + tag.written.length := hat.span_stop pos
        rw [OpenElement.span_finish, Option.getD_none, hstop, StartTag.element, hat.span_start]
        rfl
      · refine ⟨by simp, fun opening ho => ?_⟩
        cases hst : state.stack with
        | nil =>
          have hopening : opening = source.span pos (pos + tag.written.length) := by
            simpa [State.openings, State.report, hst, StartTag.element, eq_comm] using ho
          rw [hopening, hat.span_start]
          exact hclosed hst
        | cons top rest =>
          refine hopened opening ?_
          simpa [State.openings, State.report, hst] using ho

end

end Markup

/-- The top nodes of an accepted template stand in a row from one end of its text
to the other, and their spans fit. -/
theorem parseTemplate_row {code : Chars} {url : String} {options : ParseOptions}
    {parsed : ParsedTemplate} (h : parseTemplate code url options = .ok parsed) :
    Node.Row (Source.ofText code url) (Piece.Skipped code (!options.preserveWhitespaces)) 0
        parsed.nodes code.length ∧
      Node.AllSpansFit (Source.ofText code url) parsed.nodes := by
  have hskip : ∀ {piece : Piece} {value : Chars}, piece ∈ pieces code →
      (piece = .construct (.comment value) ∨
        options.preserveWhitespaces = false ∧ piece = .text value ∧ Text.allBlank value = true) →
      piece.Skipped code (!options.preserveWhitespaces) := by
    rintro piece value hm (rfl | ⟨hw, rfl, hb⟩)
    · exact ⟨hm, .inl ⟨value, rfl⟩⟩
    · exact ⟨hm, .inr ⟨by simp [hw], value, rfl, hb⟩⟩
  obtain ⟨state, ⟨hrow, hfit⟩, hst, hnodes⟩ := parseTemplate_invariant
    (P := fun pos state => state.InRow (Source.ofText code url)
      (Piece.Skipped code (!options.preserveWhitespaces)) pos ∧
        state.Fit (Source.ofText code url)) h
    (fun hm hat hs hp ⟨hrow, hfit⟩ =>
      ⟨step_inRow (formed_pieces hm) hat (hskip hm) hs hp hrow,
        step_fit (formed_pieces hm) hat hs hfit⟩)
    ⟨⟨fun _ => gap_self (Nat.zero_le _), by simp [State.openings]⟩, trivial, by simp, by simp⟩
  rw [hnodes]
  exact ⟨hrow.closed hst, hfit.roots⟩

end TemplateTree
