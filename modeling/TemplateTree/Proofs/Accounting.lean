import TemplateTree.Proofs.Reports
import TemplateTree.Proofs.Tiling

/-!
# Every tag is accounted for

A start tag that waits for an end tag gets one, or its element is reported in the
end; an end tag closes the innermost open element, or it is reported itself. What
a piece does to the open elements, to the number of the closed ones and to the
reports on tags is said once, in `step_tally`, whether the tags before it are
nested or not.
-/

namespace TemplateTree

open Text (Chars)
open Expression (bind_eq_ok exists_ok_of_isOk)
open Markup

-- ---------------------------------------------------------------------------
-- Closed elements
-- ---------------------------------------------------------------------------

mutual

/-- How many elements and templates in a node have an end tag. A wrapper counts
together with its element. -/
def Node.closedCount : Node → Nat
  | .text _ _ => 0
  | .boundText _ _ => 0
  | .element head children => head.spans.closing.isSome.toNat + Node.closedCountOf children
  | .template head children =>
    if head.isWrapper then Node.closedCountOf children
    else head.spans.closing.isSome.toNat + Node.closedCountOf children

def Node.closedCountOf : List Node → Nat
  | [] => 0
  | node :: rest => node.closedCount + Node.closedCountOf rest

end

theorem Node.closedCountOf_append (nodes more : List Node) :
    closedCountOf (nodes ++ more) = closedCountOf nodes + closedCountOf more := by
  induction nodes with
  | nil => simp [closedCountOf]
  | cons first rest ih => simp [closedCountOf, ih, Nat.add_assoc]

namespace Markup

variable {source : Source} {options : ParseOptions} {pos : Nat} {state state' : State}
variable {problems : List Problem} {piece : Piece}

theorem OpenElement.closedCount_finish (element : OpenElement) (source : Source)
    (closing : Option Span) : (element.finish source closing).1.closedCount =
      closing.isSome.toNat + Node.closedCountOf element.children := by
  unfold OpenElement.finish
  split
  · rename_i hn
    simp [Node.closedCount, TemplateHead.isWrapper, hn]
  · rename_i hn
    dsimp only
    split
    · simp [Node.closedCount]
    · simp [Node.closedCount, Node.closedCountOf, TemplateHead.isWrapper, hn]

/-- The elements closed so far, also those inside open ones. -/
def State.closedCount (state : State) : Nat :=
  Node.closedCountOf (state.roots ++ state.stack.flatMap OpenElement.children)

theorem State.closedCount_append (state : State) (node : Node) :
    (state.append node).closedCount = state.closedCount + node.closedCount := by
  obtain ⟨stack, roots, comments, problems⟩ := state
  cases stack with
  | nil =>
    simp [State.append, State.closedCount, Node.closedCountOf_append, Node.closedCountOf]
  | cons top rest =>
    simp [State.append, State.closedCount, Node.closedCountOf_append, Node.closedCountOf]
    omega

-- ---------------------------------------------------------------------------
-- Tags without a counterpart
-- ---------------------------------------------------------------------------

def Bracket.opens : Bracket → Bool
  | opening _ => true
  | closing _ => false

@[simp] theorem Bracket.opens_opening (name : Chars) : (opening name).opens = true := rfl

@[simp] theorem Bracket.opens_closing (name : Chars) : (closing name).opens = false := rfl

def Cause.bracket? : Cause → Option Bracket
  | unclosedElement name => some (.opening name)
  | unexpectedClosingTag name => some (.closing name)
  | unterminatedComment => none
  | misplacedVariable => none
  | binding _ => none

def unpaired (problems : List Problem) : List Bracket :=
  problems.filterMap fun problem => problem.cause.bracket?

theorem unpaired_append (problems others : List Problem) :
    unpaired (problems ++ others) = unpaired problems ++ unpaired others :=
  List.filterMap_append ..

theorem unpaired_eq_nil (h : ∀ problem ∈ problems, problem.cause.bracket? = none) :
    unpaired problems = [] := List.filterMap_eq_nil_iff.mpr h

theorem unpaired_finish (element : OpenElement) (closing : Option Span) :
    unpaired (element.finish source closing).2 = [] := by
  rw [finish_problems_eq]
  split
  · rfl
  · split <;> rfl

-- Reading texts and attributes finds fault with bindings only.

theorem unpaired_markerProblems (text : Chars) :
    unpaired (markerProblems source pos text) = [] := by
  refine unpaired_eq_nil fun problem hp => ?_
  obtain ⟨error, -, rfl⟩ := List.mem_map.mp hp
  rfl

theorem unpaired_bindAt {text : Chars} {binding : Binding}
    (h : bindAt source text pos = .ok (binding, problems)) : unpaired problems = [] := by
  unfold bindAt at h
  dsimp only at h
  split at h <;> cases h <;> rfl

theorem unpaired_collect {α : Type} {f : α → Check (Entries × List Problem)} {xs : List α}
    {entries : Entries}
    (hf : ∀ x ∈ xs, ∀ {entries problems}, f x = .ok (entries, problems) → unpaired problems = [])
    (h : collect f xs = .ok (entries, problems)) : unpaired problems = [] := by
  refine unpaired_eq_nil (collect_problems ?_ h)
  intro x hx e ps he
  exact List.filterMap_eq_nil_iff.mp (hf x hx he)

theorem unpaired_clauseEntries {directive : Chars} {attr : PlacedAttribute}
    {clause : Nat × Nat × Chars} {entries : Entries}
    (h : clauseEntries source directive attr clause = .ok (entries, problems)) :
    unpaired problems = [] := by
  obtain ⟨index, start, run⟩ := clause
  rcases clauseEntries_eq source directive attr index start run with
    ⟨-, _, -, he⟩ | ⟨text, -, offset, _, -, he⟩
  · rw [he] at h
    cases h
    rfl
  · rw [he] at h
    obtain ⟨⟨binding, problems⟩, hb, h⟩ := bind_eq_ok.mp h
    cases h
    exact unpaired_bindAt hb

theorem unpaired_directiveEntries {directive : Chars} {attr : PlacedAttribute} {entries : Entries}
    (h : directiveEntries source directive attr = .ok (entries, problems)) :
    unpaired problems = [] := by
  unfold directiveEntries at h
  split at h
  · obtain ⟨⟨binding, problems⟩, hb, h⟩ := bind_eq_ok.mp h
    cases h
    exact unpaired_bindAt hb
  · exact unpaired_collect (fun _ _ => unpaired_clauseEntries) h

theorem unpaired_attributeEntries {attr : PlacedAttribute} {entries : Entries}
    (h : attributeEntries source attr = .ok (entries, problems)) : unpaired problems = [] := by
  have hplain := attributeEntries_plain (h := h)
  unfold attributeEntries at h
  cases hf : Form.ofName attr.name with
  | twoWay name =>
    rw [hf] at h
    obtain ⟨⟨value, problems⟩, hv, h⟩ := bind_eq_ok.mp h
    obtain ⟨⟨handler, others⟩, hh, h⟩ := bind_eq_ok.mp h
    cases h
    rw [unpaired_append, unpaired_bindAt hv, unpaired_bindAt hh, List.append_nil]
  | property name | event name =>
    rw [hf] at h
    obtain ⟨⟨value, problems⟩, hv, h⟩ := bind_eq_ok.mp h
    cases h
    exact unpaired_bindAt hv
  | directive name =>
    rw [hf] at h
    exact unpaired_directiveEntries h
  | reference name | letVariable name =>
    rw [hf] at h
    cases h
    rfl
  | plain =>
    rw [hplain hf]
    exact unpaired_markerProblems _

theorem unpaired_tagEntries {attributes : List Attribute} {entries : Entries}
    (h : tagEntries source pos attributes = .ok (entries, problems)) : unpaired problems = [] :=
  unpaired_collect (fun _ _ => unpaired_attributeEntries) h

-- ---------------------------------------------------------------------------
-- One step
-- ---------------------------------------------------------------------------

/-- What became of the tags so far: open elements, the number of closed ones, and
tags reported to have no counterpart. -/
structure Tally where
  waiting : List OpenElement
  closed : Nat
  unpaired : List Bracket

def State.tally (state : State) : Tally :=
  ⟨state.heads, state.closedCount, Markup.unpaired state.problems⟩

theorem State.tally_report (state : State) (h : unpaired problems = []) :
    (state.report problems).tally = state.tally := by
  simp only [State.tally, State.heads_report, State.problems_report, unpaired_append, h,
    List.append_nil]
  rfl

theorem State.tally_append (state : State) (node : Node) : (state.append node).tally =
    { state.tally with closed := state.tally.closed + node.closedCount } := by
  simp only [State.tally, State.heads_append, State.closedCount_append, State.problems_append]

theorem tally_addText {text : Chars} (h : state.addText source options pos text = .ok state') :
    state'.tally = state.tally := by
  rcases addText_cases h with ⟨-, rfl⟩ | ⟨-, -, -, rfl⟩ | ⟨-, binding, problems, hi, rfl⟩
  · exact state.tally_report rfl
  · rfl
  · have hnone : unpaired problems = [] := by
      rw [interpolateAt_problems hi]
      exact unpaired_markerProblems text
    rw [State.tally_append, State.tally_report _ hnone]
    cases binding <;> rfl

theorem tally_openElement {tag : StartTag} (h : state.openElement source pos tag = .ok state') :
    (tag.isLeaf = true ∧ state'.tally = state.tally) ∨
    (tag.isLeaf = false ∧ ∃ element : OpenElement,
      element.opening = source.span pos (pos + tag.written.length) ∧
      state'.tally = { state.tally with waiting := element :: state.tally.waiting }) := by
  obtain ⟨entries, problems, he, ⟨hleaf, rfl⟩ | ⟨hleaf, rfl⟩⟩ := openElement_cases h
  · refine .inl ⟨hleaf, ?_⟩
    rw [State.tally_append, State.tally_report _ (unpaired_finish _ _),
      State.tally_report _ (unpaired_tagEntries he), OpenElement.closedCount_finish]
    rfl
  · refine .inr ⟨hleaf, tag.element source pos entries, rfl, ?_⟩
    have hreport := state.tally_report (unpaired_tagEntries he)
    rw [← hreport]
    simp [State.tally, State.heads, State.closedCount, State.report, StartTag.element,
      OpenElement.head]

theorem tally_closeElement (state : State) (source : Source) (name : Chars) (closing : Span) :
    (∃ top rest, state.tally.waiting = top :: rest ∧ Text.lower top.name = Text.lower name ∧
      (state.closeElement source name closing).tally =
        { state.tally with waiting := rest, closed := state.tally.closed + 1 }) ∨
    ((∀ top ∈ state.tally.waiting.head?, Text.lower top.name ≠ Text.lower name) ∧
      (state.closeElement source name closing).tally =
        { state.tally with unpaired := state.tally.unpaired ++ [.closing name] }) := by
  rcases closeElement_cases state source name closing with ⟨top, rest, hs, hn, he⟩ | ⟨hn, he⟩
  · have hwaiting : state.tally.waiting = top.head :: rest.map OpenElement.head := by
      simp [State.tally, State.heads, hs]
    refine .inl ⟨_, _, hwaiting, hn, ?_⟩
    rw [he, State.tally_append, State.tally_report _ (unpaired_finish _ _),
      OpenElement.closedCount_finish]
    simp only [State.tally, State.heads, State.closedCount, hs, List.flatMap_cons,
      Node.closedCountOf_append, Option.isSome_some, Bool.toNat_true, Tally.mk.injEq, true_and,
      and_true]
    omega
  · refine .inr ⟨?_, ?_⟩
    · intro head hh
      obtain ⟨top, ht, rfl⟩ : ∃ top ∈ state.stack.head?, top.head = head := by
        simpa [State.tally, State.heads] using hh
      exact hn top ht
    · rw [he]
      simp only [State.tally, State.heads_report, State.problems_report, unpaired_append]
      rfl

/-- A piece opens an element, closes the innermost one, is reported as an end tag
without a counterpart, or is none of these tags and changes nothing. -/
theorem step_tally (h : state.step source options pos piece = .ok state') :
    (piece.bracket? = none ∧ state'.tally = state.tally) ∨
    (∃ name, ∃ element : OpenElement, piece.bracket? = some (.opening name) ∧
      element.opening = source.span pos (pos + piece.written.length) ∧
      state'.tally = { state.tally with waiting := element :: state.tally.waiting }) ∨
    (∃ name top rest, piece.bracket? = some (.closing name) ∧
      state.tally.waiting = top :: rest ∧
      state'.tally = { state.tally with waiting := rest, closed := state.tally.closed + 1 }) ∨
    (∃ name, piece.bracket? = some (.closing name) ∧
      state'.tally = { state.tally with unpaired := state.tally.unpaired ++ [.closing name] }) := by
  cases piece with
  | text value => exact .inl ⟨rfl, tally_addText h⟩
  | construct c =>
    cases c with
    | comment value =>
      cases h
      exact .inl ⟨rfl, rfl⟩
    | startTag tag =>
      rcases tally_openElement h with ⟨hleaf, ht⟩ | ⟨hleaf, element, ho, ht⟩
      · exact .inl ⟨by simp [Piece.bracket?, hleaf], ht⟩
      · exact .inr (.inl ⟨tag.name, element, by simp [Piece.bracket?, hleaf], ho, ht⟩)
    | endTag name tail =>
      rw [step_endTag] at h
      cases h
      rcases tally_closeElement state source name
        (source.span pos (pos + (Construct.endTag name tail).written.length)) with
        ⟨top, rest, hw, -, ht⟩ | ⟨-, ht⟩
      · exact .inr (.inr (.inl ⟨name, top, rest, rfl, hw, ht⟩))
      · exact .inr (.inr (.inr ⟨name, rfl, ht⟩))

-- ---------------------------------------------------------------------------
-- Counting
-- ---------------------------------------------------------------------------

structure Tally.Balanced (tags : List Bracket) (tally : Tally) : Prop where
  opened : tags.countP Bracket.opens = tally.closed + tally.waiting.length
  ended : tags.countP (!·.opens) = tally.closed + tally.unpaired.length
  unexpected : ∀ tag ∈ tally.unpaired, tag.opens = false

theorem step_balanced {tags : List Bracket}
    (h : state.step source options pos piece = .ok state') (hb : state.tally.Balanced tags) :
    state'.tally.Balanced (tags ++ piece.bracket?.toList) := by
  obtain ⟨hopened, hended, hunexpected⟩ := hb
  rcases step_tally h with ⟨hp, ht⟩ | ⟨name, element, hp, -, ht⟩ | ⟨name, top, rest, hp, hw, ht⟩ |
    ⟨name, hp, ht⟩
  · rw [hp, ht]
    exact ⟨by simpa using hopened, by simpa using hended, hunexpected⟩
  · rw [hp, ht]
    refine ⟨?_, ?_, hunexpected⟩
    · simp [hopened, Nat.add_assoc]
    · simpa using hended
  · rw [hp, ht]
    rw [hw, List.length_cons] at hopened
    refine ⟨?_, ?_, hunexpected⟩
    · simp [hopened]
      omega
    · simp [hended]
      omega
  · rw [hp, ht]
    refine ⟨?_, ?_, List.forall_mem_append.mpr ⟨hunexpected, ?_⟩⟩
    · simpa using hopened
    · simp [hended, Nat.add_assoc]
    · simp

theorem run_balanced {tags : List Bracket} {pieces : List Piece}
    (h : state.run source options pos pieces = .ok state') (hb : state.tally.Balanced tags) :
    state'.tally.Balanced (tags ++ pieces.filterMap Piece.bracket?) := by
  induction pieces generalizing pos state tags with
  | nil =>
    cases h
    simpa using hb
  | cons piece rest ih =>
    obtain ⟨mid, hs, hr⟩ := bind_eq_ok.mp h
    have hcons : (piece :: rest).filterMap Piece.bracket? =
        piece.bracket?.toList ++ rest.filterMap Piece.bracket? := by
      cases hp : piece.bracket? <;> simp [hp]
    rw [hcons, ← List.append_assoc]
    exact ih hr (step_balanced hs hb)

-- ---------------------------------------------------------------------------
-- Open elements stand in order
-- ---------------------------------------------------------------------------

/-- Each open element starts behind those that it is in, and before `pos`. -/
structure Tally.Stacked (pos : Nat) (tally : Tally) : Prop where
  before : ∀ element ∈ tally.waiting, element.opening.start.offset < pos
  inward : tally.waiting.Pairwise fun inner outer =>
    outer.opening.start.offset < inner.opening.start.offset

theorem step_stacked (hf : piece.Formed) (hat : source.HasAt pos piece.written)
    (h : state.step source options pos piece = .ok state') (hs : state.tally.Stacked pos) :
    state'.tally.Stacked (pos + piece.written.length) := by
  have hlen : 0 < piece.written.length := List.length_pos_iff.mpr hf.written_ne_nil
  have hbefore : ∀ element ∈ state.tally.waiting,
      element.opening.start.offset < pos + piece.written.length :=
    fun element he => (hs.before element he).trans_le (Nat.le_add_right _ _)
  rcases step_tally h with ⟨-, ht⟩ | ⟨_, element, -, ho, ht⟩ | ⟨_, top, rest, -, hw, ht⟩ |
    ⟨_, -, ht⟩
  · exact ht ▸ ⟨hbefore, hs.inward⟩
  · have hstart : element.opening.start.offset = pos := ho ▸ hat.span_start _
    rw [ht]
    refine ⟨List.forall_mem_cons.mpr ⟨by omega, hbefore⟩, List.pairwise_cons.mpr ⟨?_, hs.inward⟩⟩
    exact fun outer ho => (hs.before outer ho).trans_eq hstart.symm
  · have hin := hs.inward
    rw [hw] at hin hbefore
    rw [ht]
    exact ⟨fun element he => hbefore element (.tail _ he), hin.of_cons⟩
  · rw [ht]
    exact ⟨hbefore, hs.inward⟩

theorem run_stacked {pieces : List Piece} (hf : ∀ piece ∈ pieces, piece.Formed)
    (hat : source.HasAt pos (pieces.flatMap Piece.written))
    (h : state.run source options pos pieces = .ok state') (hs : state.tally.Stacked pos) :
    state'.tally.Stacked (pos + (pieces.flatMap Piece.written).length) := by
  induction pieces generalizing pos state with
  | nil =>
    cases h
    exact hs
  | cons piece rest ih =>
    obtain ⟨mid, hstep, hr⟩ := bind_eq_ok.mp h
    obtain ⟨hfirst, hrest⟩ := List.forall_mem_cons.mp hf
    obtain ⟨hat₁, hat₂⟩ := Source.HasAt.of_append (List.flatMap_cons ▸ hat)
    rw [List.flatMap_cons, List.length_append, ← Nat.add_assoc]
    exact ih hrest hat₂ hr (step_stacked hfirst hat₁ hstep hs)

/-- Each open element was opened by a tag of the source that is no leaf, and starts
behind those that it is in. -/
structure State.WellStacked (source : Source) (state : State) : Prop where
  opened : ∀ element ∈ state.stack, ∃ tag : StartTag,
    (Piece.construct (.startTag tag)).IsAt source element.opening ∧ tag.name = element.name ∧
      tag.isLeaf = false
  notVoid : ∀ element ∈ state.stack, isVoid element.name = false
  inward : state.stack.Pairwise fun inner outer =>
    outer.opening.start.offset < inner.opening.start.offset

/-- A scan can stop behind any piece. -/
theorem wellStacked_of_run {before after : List Piece}
    (hp : pieces source.text = before ++ after)
    (h : ({} : State).run source options 0 before = .ok state) : state.WellStacked source := by
  have hgrounded : ∀ element ∈ state.heads, element.Grounded source := by
    have hempty : ∀ element ∈ ({} : State).heads, element.Grounded source := by
      simp [State.heads]
    exact fun element he =>
      ((run_reports (show pieces source.text = [] ++ _ from hp) rfl hempty h).stack element he).1
  have hopened : ∀ element ∈ state.stack, ∃ tag : StartTag,
      (Piece.construct (.startTag tag)).IsAt source element.opening ∧ tag.name = element.name ∧
        tag.isLeaf = false := by
    intro element he
    obtain ⟨tag, ho, hleaf⟩ := hgrounded element.head (List.mem_map_of_mem he)
    exact ⟨tag, ho.opening, ho.name.symm, hleaf⟩
  have hat : source.HasAt 0 (before.flatMap Piece.written) :=
    ⟨[], after.flatMap Piece.written, by rw [← written_pieces source.text, hp]; simp, rfl⟩
  have hstacked := run_stacked (fun piece hm => formed_pieces (hp ▸ List.mem_append_left _ hm)) hat
    h ⟨by simp [State.tally, State.heads], .nil⟩
  refine ⟨hopened, fun element he => ?_, List.pairwise_map.mp hstacked.inward⟩
  obtain ⟨tag, -, hname, hleaf⟩ := hopened element he
  rw [← hname]
  exact (Bool.or_eq_false_iff.mp hleaf).2

theorem closeElement_of_isVoid {name : Chars} (hs : state.WellStacked source)
    (hv : isVoid name = true) (closing : Span) :
    state.closeElement source name closing =
      state.report [⟨.unexpectedClosingTag name, closing⟩] := by
  rcases closeElement_cases state source name closing with ⟨top, rest, hst, hn, -⟩ | ⟨-, he⟩
  · have htop := hs.notVoid top (hst ▸ .head _)
    rw [isVoid, hn, ← isVoid, hv] at htop
    cases htop
  · exact he

end Markup

-- ---------------------------------------------------------------------------
-- Issues
-- ---------------------------------------------------------------------------

def Issue.startsWith (words : String) (issue : Issue) : Bool :=
  words.toList.isPrefixOf issue.message.toList

theorem Issue.startsWith_of_message {words : String} {issue : Issue} (more : String)
    (h : issue.message = words ++ more) : issue.startsWith words = true := by
  rw [startsWith, List.isPrefixOf_iff_prefix, h, String.toList_append]
  exact List.prefix_append _ _

namespace Markup

theorem Problem.startsWith_eq_false {problem : Problem} {words : String}
    (hlen : 3 ≤ words.toList.length) (h : problem.cause.initials ≠ words.toList.take 3) :
    problem.toIssue.startsWith words = false := by
  refine Bool.eq_false_iff.mpr fun hs => h ?_
  obtain ⟨rest, hrest⟩ := List.isPrefixOf_iff_prefix.mp hs
  have hmessage : problem.cause.message.toList = words.toList ++ rest := hrest.symm
  rw [← Cause.take_message, hmessage, List.take_append_of_le_length hlen]

theorem Problem.startsWith_unclosed (problem : Problem) :
    problem.toIssue.startsWith "Unclosed element <" =
      (problem.cause.bracket?.map Bracket.opens).getD false := by
  obtain ⟨cause, span⟩ := problem
  rcases cause with name | name | _ | _ | ⟨_ | _, _, _⟩
  · exact Issue.startsWith_of_message (String.ofList name ++ ">") (String.append_assoc ..)
  all_goals exact startsWith_eq_false (by decide) (by simp [Cause.initials])

theorem Problem.startsWith_unexpected (problem : Problem) :
    problem.toIssue.startsWith "Unexpected closing tag </" =
      (problem.cause.bracket?.map (!·.opens)).getD false := by
  obtain ⟨cause, span⟩ := problem
  rcases cause with name | name | _ | _ | ⟨_ | _, _, _⟩
  · exact startsWith_eq_false (by decide) (by simp [Cause.initials])
  · exact Issue.startsWith_of_message (String.ofList name ++ ">") (String.append_assoc ..)
  all_goals exact startsWith_eq_false (by decide) (by simp [Cause.initials])

theorem countP_startsWith_unclosed (problems : List Problem) :
    (problems.map Problem.toIssue).countP (Issue.startsWith "Unclosed element <") =
      (unpaired problems).countP Bracket.opens := by
  rw [List.countP_map, unpaired, List.countP_filterMap]
  exact List.countP_congr fun problem _ => by
    rw [Function.comp_apply, Problem.startsWith_unclosed]

theorem countP_startsWith_unexpected (problems : List Problem) :
    (problems.map Problem.toIssue).countP (Issue.startsWith "Unexpected closing tag </") =
      (unpaired problems).countP (!·.opens) := by
  rw [List.countP_map, unpaired, List.countP_filterMap]
  exact List.countP_congr fun problem _ => by
    rw [Function.comp_apply, Problem.startsWith_unexpected]

/-- In the end, one element is reported for each that is open, and no other was before. -/
theorem unpaired_finish_problems {state : State}
    (hu : ∀ tag ∈ unpaired state.problems, tag.opens = false) :
    (unpaired state.finish.problems).countP Bracket.opens = state.stack.length ∧
    (unpaired state.finish.problems).countP (!·.opens) = (unpaired state.problems).length := by
  have hopen : unpaired (state.stack.map fun element =>
      ⟨.unclosedElement element.name, element.opening⟩) =
        state.stack.map fun element => .opening element.name := by
    simp [unpaired, Cause.bracket?]
  have hnone : (unpaired state.problems).countP Bracket.opens = 0 :=
    List.countP_eq_zero.mpr fun tag ht => by simp [hu tag ht]
  have hall : (unpaired state.problems).countP (!·.opens) = (unpaired state.problems).length :=
    List.countP_eq_length.mpr fun tag ht => by simp [hu tag ht]
  rw [State.finish, State.problems_report, unpaired_append, List.countP_append, List.countP_append,
    hopen, hnone, hall]
  constructor
  · simp [Function.comp_def]
  · simp [Function.comp_def]

end Markup

/-- Once a template is scanned, each start tag that is no leaf belongs to a closed
element or to an issue, and so does each end tag. Elements left open are reported at
the end, from the innermost one on. Wherever the scan stands, open elements are stacked
in the order of their start tags; an end tag closes the innermost of them or only adds
an issue, and that of a void element always does. -/
theorem scan_accounts_for_tags {code : Chars} {url : String} {options : ParseOptions}
    {state : State}
    (h : State.run (Source.ofText code url) options 0 {} (pieces code) = .ok state) :
    let source := Source.ofText code url
    let tags := (pieces code).filterMap Piece.bracket?
    let issues := state.finish.problems.map Problem.toIssue
    (issues? (parseTemplate code url options)).getD [] = issues ∧
    tags.countP Bracket.opens =
      state.closedCount + issues.countP (Issue.startsWith "Unclosed element <") ∧
    tags.countP (!·.opens) =
      state.closedCount + issues.countP (Issue.startsWith "Unexpected closing tag </") ∧
    (∃ earlier, issues = earlier ++ state.stack.map (fun element =>
        ⟨(Cause.unclosedElement element.name).message, some element.opening⟩) ∧
      (∀ issue ∈ earlier, issue.startsWith "Unclosed element <" = false) ∧
      state.stack.Pairwise fun inner outer =>
        outer.opening.start.offset < inner.opening.start.offset) ∧
    (∀ before after mid, pieces code = before ++ after →
      State.run source options 0 {} before = .ok mid →
      mid.WellStacked source ∧
      ∀ name tail rest, after = .construct (.endTag name tail) :: rest →
        let pos := (before.flatMap Piece.written).length
        let closing := source.span pos (pos + (Construct.endTag name tail).written.length)
        ∃ next, mid.step source options pos (.construct (.endTag name tail)) = .ok next ∧
          ((∃ top outer, mid.stack = top :: outer ∧ Text.lower top.name = Text.lower name ∧
            next = ({ mid with stack := outer }.report (top.finish source (some closing)).2).append
              (top.finish source (some closing)).1) ∨
          (∀ top ∈ mid.stack.head?, Text.lower top.name ≠ Text.lower name) ∧
            next = mid.report [⟨.unexpectedClosingTag name, closing⟩])) ∧
    (∀ pos name tail, Occurs code pos (.construct (.endTag name tail)) → isVoid name = true →
      ⟨(Cause.unexpectedClosingTag name).message,
        some (source.span pos (pos + (Construct.endTag name tail).written.length))⟩ ∈ issues) := by
  intro source tags issues
  have hstart : ({} : State).tally.Balanced [] := ⟨rfl, rfl, by simp [State.tally, unpaired]⟩
  have hbalanced : state.tally.Balanced tags := run_balanced h hstart
  obtain ⟨hunclosed, hunexpected⟩ := unpaired_finish_problems hbalanced.unexpected
  refine ⟨?_, ?_, ?_, ?_, ?_, ?_⟩
  · simp only [parseTemplate, h]
    split
    · rename_i hnone
      simp [issues, List.isEmpty_iff.mp hnone, issues?]
    · rfl
  · rw [countP_startsWith_unclosed, hunclosed]
    simpa [State.tally, State.heads] using hbalanced.opened
  · rw [countP_startsWith_unexpected, hunexpected]
    exact hbalanced.ended
  · have hstacked : state.WellStacked source :=
      wellStacked_of_run (List.append_nil (pieces code)).symm h
    refine ⟨state.problems.map Problem.toIssue, ?_, fun issue hi => ?_, hstacked.inward⟩
    · simp [issues, State.finish, Problem.toIssue, Function.comp_def]
    · obtain ⟨problem, hp, rfl⟩ := List.mem_map.mp hi
      rw [Problem.startsWith_unclosed]
      cases hb : problem.cause.bracket? with
      | none => rfl
      | some tag => exact hbalanced.unexpected tag (List.mem_filterMap.mpr ⟨problem, hp, hb⟩)
  · intro before after mid hp hrun
    refine ⟨wellStacked_of_run hp hrun, ?_⟩
    rintro name tail rest rfl pos closing
    exact ⟨_, step_endTag name tail, closeElement_cases mid source name closing⟩
  · rintro _ name tail ⟨before, after, hp, rfl⟩ hv
    rw [hp, run_append, bind_eq_ok] at h
    obtain ⟨mid, hbefore, hrest⟩ := h
    obtain ⟨next, hnext, hafter⟩ := bind_eq_ok.mp hrest
    rw [step_endTag, closeElement_of_isVoid (wellStacked_of_run hp hbefore) hv] at hnext
    cases hnext
    have hkept := (run_problems hafter).subset (List.mem_append_right _ (.head _))
    rw [Nat.zero_add] at hkept
    exact List.mem_map.mpr ⟨_, List.mem_append_left _ hkept, rfl⟩

/-- Crossing tags, an end tag of a void element, and one in the other case. -/
theorem scan_accounts_for_tags_crossed :
    let code := "<p><br></BR><b><I>x</i ></p><ul>".toList
    ∃ state, State.run (Source.ofText code "") {} 0 {} (pieces code) = .ok state ∧
      let issues := state.finish.problems.map Problem.toIssue
      state.closedCount = 1 ∧ issues.countP (Issue.startsWith "Unclosed element <") = 3 ∧
        issues.countP (Issue.startsWith "Unexpected closing tag </") = 2 ∧
        state.WellStacked (Source.ofText code "") := by
  intro code
  obtain ⟨state, h⟩ : ∃ state,
      State.run (Source.ofText code "") {} 0 {} (pieces code) = .ok state :=
    exists_ok_of_isOk (by decide +kernel)
  have hclosed : (State.run (Source.ofText code "") {} 0 {} (pieces code)).toOption.map
      State.closedCount = some 1 := by decide +kernel
  rw [h] at hclosed
  have hclosed : state.closedCount = 1 := Option.some.inj hclosed
  have htags : (((pieces code).filterMap Piece.bracket?).countP Bracket.opens,
      ((pieces code).filterMap Piece.bracket?).countP (!·.opens)) = (4, 3) := by decide +kernel
  obtain ⟨hopens, hends⟩ := Prod.mk.inj htags
  obtain ⟨-, hopened, hended, -, hstacked, -⟩ := scan_accounts_for_tags h
  rw [hopens, hclosed] at hopened
  rw [hends, hclosed] at hended
  exact ⟨state, h, hclosed, by omega, by omega,
    (hstacked _ [] state (List.append_nil _).symm h).1⟩

end TemplateTree
