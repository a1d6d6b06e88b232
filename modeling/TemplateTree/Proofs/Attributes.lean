import TemplateTree.Proofs.Acceptance
import TemplateTree.Proofs.Declared
import TemplateTree.Proofs.Tiling

/-!
# Attributes are kept

The start tags of an accepted template and the nodes made for them correspond one
to one, in document order. A node keeps the attributes of its tag: each of them is
the span of an entry, and no entry has another span. The exception are directives
whose values have no clause but semicolons: they leave no entry, and do not wrap
their element.
-/

namespace TemplateTree

open Text (Chars)
open Expression (bind_eq_ok exists_ok_of_isOk)
open Markup

-- ---------------------------------------------------------------------------
-- The nodes of tags
-- ---------------------------------------------------------------------------

/-- The node that was made for a start tag, together with the template around it if
there is one: the spans of its entries, list by list. -/
structure TagNode where
  name : Chars
  opening : Span
  wrapped : Bool
  attributes : List Span
  inputs : List Span
  outputs : List Span
  references : List Span
  templateAttrs : List Span
  vars : List Span
  deriving DecidableEq, Repr

def ElementHead.tagNode (head : ElementHead) : TagNode :=
  { name := head.name
    opening := head.spans.opening
    wrapped := false
    attributes := head.attributes.map (·.span)
    inputs := head.inputs.map (·.span)
    outputs := head.outputs.map (·.span)
    references := head.references.map (·.span)
    templateAttrs := []
    vars := [] }

def TemplateHead.tagNode (head : TemplateHead) : TagNode :=
  { name := head.tagName
    opening := head.spans.opening
    wrapped := false
    attributes := head.attributes.map (·.span)
    inputs := head.inputs.map (·.span)
    outputs := head.outputs.map (·.span)
    references := head.references.map (·.span)
    templateAttrs := head.templateAttrs.map (·.span)
    vars := head.vars.map (·.span) }

/-- An element in a wrapper: what stands in either of them counts. -/
def TagNode.wrap (outer inner : TagNode) : TagNode :=
  { inner with
    wrapped := true
    attributes := outer.attributes ++ inner.attributes
    inputs := outer.inputs ++ inner.inputs
    outputs := outer.outputs ++ inner.outputs
    references := outer.references ++ inner.references
    templateAttrs := outer.templateAttrs ++ inner.templateAttrs
    vars := outer.vars ++ inner.vars }

def TagNode.wrapFirst (outer : TagNode) : List TagNode → List TagNode
  | [] => [outer]
  | inner :: rest => outer.wrap inner :: rest

mutual

def Node.tagNodes : Node → List TagNode
  | .text _ _ => []
  | .boundText _ _ => []
  | .element head children => head.tagNode :: Node.tagNodesOf children
  | .template head children =>
    if head.isWrapper then head.tagNode.wrapFirst (Node.tagNodesOf children)
    else head.tagNode :: Node.tagNodesOf children

def Node.tagNodesOf : List Node → List TagNode
  | [] => []
  | node :: rest => node.tagNodes ++ Node.tagNodesOf rest

end

theorem Node.tagNodesOf_snoc (nodes : List Node) (node : Node) :
    tagNodesOf (nodes ++ [node]) = tagNodesOf nodes ++ node.tagNodes := by
  induction nodes with
  | nil => simp [tagNodesOf]
  | cons first rest ih => simp [tagNodesOf, ih]

namespace Markup

def startTags (pos : Nat) : List Piece → List (Nat × StartTag)
  | [] => []
  | .construct (.startTag tag) :: rest => (pos, tag) :: startTags (pos + tag.written.length) rest
  | piece :: rest => startTags (pos + piece.written.length) rest

def OpenElement.tagNode (element : OpenElement) : TagNode :=
  let entries := element.entries
  let spans := entries.spansIn
  let isTemplate := element.name = templateTag
  { name := element.name
    opening := element.opening
    wrapped := !isTemplate && !(entries.templateAttrs.isEmpty && entries.templateVariables.isEmpty)
    attributes := spans .attributes
    inputs := spans .inputs
    outputs := spans .outputs
    references := spans .references
    templateAttrs := spans .templateAttrs
    vars := (if isTemplate then spans .vars else []) ++ spans .templateVariables }

def OpenElement.tagNodes (element : OpenElement) : List TagNode :=
  element.tagNode :: Node.tagNodesOf element.children

/-- The nodes of the start tags so far, the open elements from the outermost on. -/
def State.tagNodes (state : State) : List TagNode :=
  Node.tagNodesOf state.roots ++ state.stack.reverse.flatMap OpenElement.tagNodes

section
variable {source : Source} {options : ParseOptions} {pos : Nat} {state state' : State}

@[simp] theorem State.tagNodes_report (state : State) (problems : List Problem) :
    (state.report problems).tagNodes = state.tagNodes := rfl

theorem State.tagNodes_append (state : State) (node : Node) :
    (state.append node).tagNodes = state.tagNodes ++ node.tagNodes := by
  obtain ⟨stack, roots, comments, problems⟩ := state
  cases stack with
  | nil => simp [State.append, State.tagNodes, Node.tagNodesOf_snoc]
  | cons top rest =>
    simp [State.append, State.tagNodes, OpenElement.tagNodes, OpenElement.tagNode,
      Node.tagNodesOf_snoc]

theorem OpenElement.tagNodes_finish (element : OpenElement) (source : Source)
    (closing : Option Span) :
    (element.finish source closing).1.tagNodes = element.tagNodes := by
  unfold OpenElement.finish
  split
  · rename_i hn
    simp [Node.tagNodes, TemplateHead.isWrapper, hn, OpenElement.tagNodes, OpenElement.tagNode,
      TemplateHead.tagNode, Entries.spansIn]
  · rename_i hn
    dsimp only
    split
    · rename_i he
      simp_all [Node.tagNodes, OpenElement.tagNodes, OpenElement.tagNode, ElementHead.tagNode,
        Entries.spansIn]
    · rename_i he
      simp_all [Node.tagNodes, Node.tagNodesOf, TemplateHead.isWrapper, TagNode.wrapFirst,
        TagNode.wrap, OpenElement.tagNodes, OpenElement.tagNode, ElementHead.tagNode,
        TemplateHead.tagNode, Entries.spansIn]
      exact not_and_or.mp (not_and.mpr he)

theorem step_tagNodes {piece : Piece} (h : state.step source options pos piece = .ok state') :
    (∃ tag entries problems, piece = .construct (.startTag tag) ∧
      tagEntries source (pos + 1 + tag.name.length) tag.attributes = .ok (entries, problems) ∧
      state'.tagNodes = state.tagNodes ++ [(tag.element source pos entries).tagNode]) ∨
    (∀ tag, piece ≠ .construct (.startTag tag)) ∧ state'.tagNodes = state.tagNodes := by
  cases piece with
  | text value =>
    refine .inr ⟨by simp, ?_⟩
    rcases addText_cases h with ⟨-, rfl⟩ | ⟨-, -, -, rfl⟩ | ⟨-, binding, _, -, rfl⟩
    · rfl
    · rfl
    · rw [State.tagNodes_append]
      cases binding <;> exact List.append_nil _
  | construct c =>
    cases c with
    | comment value =>
      cases h
      exact .inr ⟨by simp, rfl⟩
    | endTag name tail =>
      rw [step_endTag] at h
      cases h
      refine .inr ⟨by simp, ?_⟩
      rcases closeElement_cases state source name
        (source.span pos (pos + (Construct.endTag name tail).written.length)) with
        ⟨top, rest, hst, -, heq⟩ | ⟨-, heq⟩
      · rw [heq, State.tagNodes_append, OpenElement.tagNodes_finish]
        simp [State.tagNodes, State.report, hst]
      · rw [heq, State.tagNodes_report]
    | startTag tag =>
      obtain ⟨entries, problems, he, ⟨-, rfl⟩ | ⟨-, rfl⟩⟩ := openElement_cases h
      · refine .inl ⟨tag, entries, problems, rfl, he, ?_⟩
        rw [State.tagNodes_append, OpenElement.tagNodes_finish]
        rfl
      · refine .inl ⟨tag, entries, problems, rfl, he, ?_⟩
        simp [State.tagNodes, State.report, OpenElement.tagNodes, StartTag.element,
          Node.tagNodesOf]

end

end Markup

-- ---------------------------------------------------------------------------
-- Keeping attributes
-- ---------------------------------------------------------------------------

def TagNode.spans (node : TagNode) : List Span :=
  [node.attributes, node.inputs, node.outputs, node.references, node.templateAttrs,
    node.vars].flatten

def Markup.StartTag.placed (tag : StartTag) (source : Source) (pos : Nat) :
    List PlacedAttribute :=
  placeAttributes source (pos + 1 + tag.name.length) tag.attributes

structure TagNode.Keeps (source : Source) (pos : Nat) (tag : StartTag) (node : TagNode) :
    Prop where
  name : node.name = tag.name
  opening : node.opening = source.span pos (pos + tag.written.length)
  /-- The attributes stand where they are written. -/
  placed : List.Forall₂ (fun attr placed => placed.name = attr.name ∧
      placed.value = attr.valueText.1 ∧
      source.textOf placed.span = attr.name ++ (attr.value.map Assignment.written).getD [])
    tag.attributes (tag.placed source pos)
  kept : ∀ attr ∈ tag.placed source pos, (attr.span ∈ node.spans ↔ attr.isHollow = false)
  only : ∀ span ∈ node.spans, ∃ attr ∈ tag.placed source pos, span = attr.span
  ordered : ∀ list ∈ [node.attributes, node.inputs, node.outputs, node.references,
    node.templateAttrs], list.Pairwise InOrder
  /-- Variables of the tag come first, then those of directives. -/
  vars : ∃ lets stars, node.vars = lets ++ stars ∧
    lets.Pairwise InOrder ∧ stars.Pairwise InOrder ∧
    (∀ span ∈ lets, ∃ attr ∈ tag.placed source pos, span = attr.span ∧ isLet attr.name = true) ∧
    (∀ span ∈ stars, ∃ attr ∈ tag.placed source pos,
      span = attr.span ∧ isDirective attr.name = true) ∧
    (tag.name ≠ templateTag → lets = [])
  /-- Directives wrap elements, but not templates. -/
  wrapped : node.wrapped = true ↔ tag.name ≠ templateTag ∧
    ∃ attr ∈ tag.placed source pos, isDirective attr.name = true ∧ attr.isHollow = false

namespace Markup

structure StartTag.Regular (tag : StartTag) : Prop where
  named : ∀ attr ∈ tag.attributes, attr.name ≠ []
  declares : tag.DeclaresVariables → tag.name = templateTag

section
variable {source : Source} {options : ParseOptions} {pos : Nat} {state state' : State}
variable {tag : StartTag} {entries : Entries} {problems : List Problem}

theorem mem_spans_tagNode {element : OpenElement} (h : element.WellPlaced) {span : Span} :
    span ∈ element.tagNode.spans ↔ ∃ list, span ∈ element.entries.spansIn list := by
  have hvars : span ∈ element.tagNode.vars ↔ span ∈ element.entries.spansIn .vars ∨
      span ∈ element.entries.spansIn .templateVariables := by
    rw [OpenElement.tagNode]
    rcases h with hv | hn
    · have : element.entries.spansIn .vars = [] := by simp [Entries.spansIn, hv]
      simp [this]
    · simp [hn]
  simp only [TagNode.spans, List.mem_flatten, List.mem_cons, List.not_mem_nil, or_false,
    exists_eq_or_imp, exists_eq_left, hvars]
  constructor
  · rintro (h | h | h | h | h | h | h)
    exacts [⟨.attributes, h⟩, ⟨.inputs, h⟩, ⟨.outputs, h⟩, ⟨.references, h⟩, ⟨.templateAttrs, h⟩,
      ⟨.vars, h⟩, ⟨.templateVariables, h⟩]
  · rintro ⟨list, h⟩
    cases list
    · exact .inl h
    · exact .inr (.inl h)
    · exact .inr (.inr (.inl h))
    · exact .inr (.inr (.inr (.inl h)))
    · exact .inr (.inr (.inr (.inr (.inr (.inl h)))))
    · exact .inr (.inr (.inr (.inr (.inl h))))
    · exact .inr (.inr (.inr (.inr (.inr (.inr h)))))

theorem wrapped_tagNode (element : OpenElement) : element.tagNode.wrapped = true ↔
    element.name ≠ templateTag ∧
      ∃ list, list.isTemplate = true ∧ element.entries.spansIn list ≠ [] := by
  have hlists : (∃ list : EntryList, list.isTemplate = true ∧ element.entries.spansIn list ≠ []) ↔
      ¬ (element.entries.templateAttrs = [] ∧ element.entries.templateVariables = []) := by
    constructor
    · rintro ⟨list, hl, hne⟩ ⟨ha, hv⟩
      cases list <;> simp_all [EntryList.isTemplate, Entries.spansIn]
    · intro hne
      rcases not_and_or.mp hne with ha | hv
      · exact ⟨.templateAttrs, rfl, by simpa [Entries.spansIn] using ha⟩
      · exact ⟨.templateVariables, rfl, by simpa [Entries.spansIn] using hv⟩
  rw [hlists, not_and_or]
  simp [OpenElement.tagNode]

theorem StartTag.element_keeps (hr : tag.Regular) (hat : source.HasAt pos tag.written)
    (h : tagEntries source (pos + 1 + tag.name.length) tag.attributes = .ok (entries, problems)) :
    (tag.element source pos entries).tagNode.Keeps source pos tag := by
  have hattributes := tag.hasAt_attributes hat
  have hlt := placeAttributes_increasing hr.named hattributes
  have hd : entries.Declare (tag.placed source pos) := collect_declare hlt h
  have hplaced : (tag.element source pos entries).WellPlaced := by
    by_cases hv : tag.DeclaresVariables
    · exact .inr (hr.declares hv)
    · exact .inl ((tagEntries_vars h).mpr hv)
  refine ⟨rfl, rfl, placeAttributes_cover hattributes, ?_, ?_, ?_, ?_, ?_⟩
  · intro attr ha
    rw [mem_spans_tagNode hplaced]
    constructor
    · rintro ⟨list, hs⟩
      obtain ⟨other, ho, heq, -, hh⟩ := hd.only list _ hs
      -- Attributes with the same span are the same, as they stand one behind another.
      have hsame : attr = other := by
        have hnodup : ((tag.placed source pos).map fun a => a.span.start.offset).Nodup :=
          List.pairwise_map.mpr (hlt.imp fun hab => Nat.ne_of_lt hab)
        exact List.inj_on_of_nodup_map hnodup ha ho (by rw [heq])
      rw [hsame]
      exact hh
    · intro hh
      obtain ⟨list, hs, -⟩ := hd.kept attr ha hh
      exact ⟨list, hs⟩
  · intro span hs
    obtain ⟨list, hs⟩ := (mem_spans_tagNode hplaced).mp hs
    obtain ⟨attr, ha, heq, -⟩ := hd.only list span hs
    exact ⟨attr, ha, heq⟩
  · simp only [List.mem_cons, List.not_mem_nil, or_false, forall_eq_or_imp, forall_eq]
    exact ⟨hd.ordered .attributes, hd.ordered .inputs, hd.ordered .outputs,
      hd.ordered .references, hd.ordered .templateAttrs⟩
  · refine ⟨if tag.name = templateTag then entries.spansIn .vars else [],
      entries.spansIn .templateVariables, rfl, ?_, hd.ordered _, ?_, ?_, fun hn => if_neg hn⟩
    · split
      · exact hd.ordered .vars
      · exact .nil
    · intro span hs
      split at hs
      · obtain ⟨attr, ha, heq, hl, -⟩ := hd.only .vars span hs
        exact ⟨attr, ha, heq, hl.2 rfl⟩
      · cases hs
    · intro span hs
      obtain ⟨attr, ha, heq, hl, -⟩ := hd.only .templateVariables span hs
      exact ⟨attr, ha, heq, hl.1.mp rfl⟩
  · rw [wrapped_tagNode]
    refine and_congr_right fun _ => ?_
    constructor
    · rintro ⟨list, hl, hne⟩
      obtain ⟨span, hs⟩ := List.exists_mem_of_ne_nil _ hne
      obtain ⟨attr, ha, -, hallows, hh⟩ := hd.only list span hs
      exact ⟨attr, ha, hallows.1.mp hl, hh⟩
    · rintro ⟨attr, ha, hdirective, hh⟩
      obtain ⟨list, hs, hallows⟩ := hd.kept attr ha hh
      exact ⟨list, hallows.1.mpr hdirective, List.ne_nil_of_mem hs⟩

/-- A run makes one node for each start tag, which keeps its attributes. -/
theorem run_tagNodes {pieces : List Piece}
    (hr : ∀ tag, .construct (.startTag tag) ∈ pieces → tag.Regular)
    (hat : source.HasAt pos (pieces.flatMap Piece.written))
    (h : state.run source options pos pieces = .ok state') :
    ∃ more, state'.tagNodes = state.tagNodes ++ more ∧
      List.Forall₂ (fun start node => node.Keeps source start.1 start.2)
        (startTags pos pieces) more := by
  induction pieces generalizing pos state with
  | nil =>
    cases h
    exact ⟨[], by simp, .nil⟩
  | cons piece rest ih =>
    obtain ⟨mid, hs, hrun⟩ := bind_eq_ok.mp h
    obtain ⟨hfirst, hrest⟩ := Source.HasAt.of_append (List.flatMap_cons ▸ hat)
    obtain ⟨more, hmore, hkeeps⟩ := ih (fun tag hm => hr tag (.tail _ hm)) hrest hrun
    rcases step_tagNodes hs with ⟨tag, entries, problems, rfl, he, hstep⟩ | ⟨hother, hstep⟩
    · refine ⟨(tag.element source pos entries).tagNode :: more, by simp [hmore, hstep], ?_⟩
      exact .cons (StartTag.element_keeps (hr tag (.head _)) hfirst he) hkeeps
    · refine ⟨more, by rw [hmore, hstep], ?_⟩
      have htags : startTags pos (piece :: rest) =
          startTags (pos + piece.written.length) rest := by
        rw [startTags]
        exact hother
      rw [htags]
      exact hkeeps

end

end Markup

/-- No attribute of an accepted template is lost, save directives that have
nothing between their semicolons: the nodes of its start tags keep them all. -/
theorem parseTemplate_keeps_attributes {code : Chars} {url : String} {options : ParseOptions}
    {parsed : ParsedTemplate} (h : parseTemplate code url options = .ok parsed) :
    List.Forall₂ (fun start node => node.Keeps (Source.ofText code url) start.1 start.2)
      (startTags 0 (pieces code)) (Node.tagNodesOf parsed.nodes) := by
  have hacceptable := (exists_parseTemplate_eq_ok code url options).mp ⟨parsed, h⟩
  obtain ⟨state, hrun, -, hst, rfl⟩ := parseTemplate_ok_iff.mp h
  obtain ⟨more, hmore, hkeeps⟩ := run_tagNodes
    (fun tag hm => ⟨named_of_mem_pieces hm, hacceptable.declarations tag hm⟩)
    ⟨[], [], by simp [written_pieces, Source.ofText], rfl⟩ hrun
  have hnodes : Node.tagNodesOf state.roots = more := by
    simpa [State.tagNodes, hst, Node.tagNodesOf] using hmore
  rw [hnodes]
  exact hkeeps

/-- An element in its wrapper, a template with variables of both kinds, and a
directive that leaves no trace. -/
theorem parseTemplate_keeps_attributes_wrapped :
    let code := ("<p a [(b)]=\"c\" #d *e=\"let f of g; h as i\" j=\"\x7b\x7bk\x7d\x7d\"></p>" ++
      "<ng-template *l=\"let m = n\" let-o/><b *q=\" ; \">r</b>").toList
    ∃ parsed, parseTemplate code "t.html" {} = .ok parsed ∧
      (Node.tagNodesOf parsed.nodes).map (fun node => (node.wrapped, node.spans.length)) =
        [(true, 8), (false, 2), (false, 0)] ∧
      List.Forall₂ (fun start node => node.Keeps (Source.ofText code "t.html") start.1 start.2)
        (startTags 0 (pieces code)) (Node.tagNodesOf parsed.nodes) := by
  intro code
  have hnodes : (parseTemplate code "t.html" {}).toOption.map (fun parsed =>
      (Node.tagNodesOf parsed.nodes).map fun node => (node.wrapped, node.spans.length)) =
      some [(true, 8), (false, 2), (false, 0)] := by decide +kernel
  obtain ⟨parsed, h⟩ : ∃ parsed, parseTemplate code "t.html" {} = .ok parsed :=
    exists_ok_of_isOk (by decide +kernel)
  rw [h] at hnodes
  exact ⟨parsed, h, Option.some.inj hnodes, parseTemplate_keeps_attributes h⟩

end TemplateTree
