import TemplateTree.Proofs.Bindings
import TemplateTree.Proofs.Steps

/-!
# What the options take away

The options of a parse change nothing but its result. A template is read as if
everything were kept; blank texts, line endings and comments are then taken out
of what was read. The scan itself, its problems and its offsets stay the same.
-/

namespace TemplateTree

open Text (Chars)

def ParseOptions.keepAll : ParseOptions :=
  { preserveWhitespaces := true, preserveLineEndings := true, collectComments := true }

-- ---------------------------------------------------------------------------
-- Taking away
-- ---------------------------------------------------------------------------

mutual

/-- What the options leave of a node: nothing of a dropped blank text, else the
node with its texts and its children restricted. -/
def Node.restrict (options : ParseOptions) : Node → List Node
  | .text value span =>
    if !options.preserveWhitespaces && Text.allBlank value then []
    else [.text (if options.preserveLineEndings then value else Text.unixLines value) span]
  | .boundText value span => [.boundText value span]
  | .element head children => [.element head (Node.restrictAll options children)]
  | .template head children => [.template head (Node.restrictAll options children)]

def Node.restrictAll (options : ParseOptions) : List Node → List Node
  | [] => []
  | node :: rest => node.restrict options ++ Node.restrictAll options rest

end

def ParsedTemplate.restrict (options : ParseOptions) (parsed : ParsedTemplate) : ParsedTemplate :=
  { nodes := Node.restrictAll options parsed.nodes
    comments := if options.collectComments then parsed.comments else none
    source := parsed.source }

variable {options : ParseOptions}

theorem Node.restrictAll_append (nodes more : List Node) :
    restrictAll options (nodes ++ more) =
      restrictAll options nodes ++ restrictAll options more := by
  induction nodes with
  | nil => simp [restrictAll]
  | cons node rest ih => simp [restrictAll, ih]

theorem Node.restrictAll_singleton (node : Node) :
    restrictAll options [node] = node.restrict options := by
  simp [restrictAll]

namespace Markup

def OpenElement.restrict (options : ParseOptions) (element : OpenElement) : OpenElement :=
  { element with children := Node.restrictAll options element.children }

def State.restrict (options : ParseOptions) (state : State) : State :=
  { state with
    stack := state.stack.map (OpenElement.restrict options)
    roots := Node.restrictAll options state.roots }

section
variable {source : Source} {pos : Nat} {state : State}

@[simp] theorem State.restrict_report (problems : List Problem) :
    (state.report problems).restrict options = (state.restrict options).report problems := rfl

theorem State.restrict_append {node left : Node} (h : node.restrict options = [left]) :
    (state.append node).restrict options = (state.restrict options).append left := by
  obtain ⟨stack, roots, comments, problems⟩ := state
  cases stack <;>
    simp [append, restrict, OpenElement.restrict, Node.restrictAll_append,
      Node.restrictAll_singleton, h]

/-- A node of which nothing is left might as well not be added. -/
theorem State.restrict_append_of_nil {node : Node} (h : node.restrict options = []) :
    (state.append node).restrict options = state.restrict options := by
  obtain ⟨stack, roots, comments, problems⟩ := state
  cases stack <;>
    simp [append, restrict, OpenElement.restrict, Node.restrictAll_append,
      Node.restrictAll_singleton, h]

-- ---------------------------------------------------------------------------
-- One step
-- ---------------------------------------------------------------------------

theorem OpenElement.restrict_finish_problems (element : OpenElement) (closing : Option Span) :
    ((element.restrict options).finish source closing).2 = (element.finish source closing).2 := by
  unfold finish restrict
  dsimp only
  split
  · rfl
  · split <;> rfl

theorem OpenElement.restrict_finish_node (element : OpenElement) (closing : Option Span) :
    (element.finish source closing).1.restrict options =
      [((element.restrict options).finish source closing).1] := by
  unfold finish restrict
  dsimp only
  split
  · simp only [Node.restrict]
  · split
    · simp only [Node.restrict]
    · simp only [Node.restrict, Node.restrictAll_singleton]

/-- An element is finished alike before and after its children are restricted. -/
theorem State.restrict_finishElement (state : State) (element : OpenElement)
    (closing : Option Span) :
    ((state.report (element.finish source closing).2).append
        (element.finish source closing).1).restrict options =
      ((state.restrict options).report ((element.restrict options).finish source closing).2).append
        ((element.restrict options).finish source closing).1 := by
  rw [restrict_append (element.restrict_finish_node closing), restrict_report,
    element.restrict_finish_problems closing]

/-- A blank text has no marker, so dropping it unread hides no problem. -/
theorem interpolateAt_of_allBlank {text : Chars} (h : Text.allBlank text = true) :
    interpolateAt source text pos = .ok (none, []) := by
  simp [interpolateAt, Binding.parseInterpolation, sources_of_allBlank h, pure, Except.pure]

theorem addText_eq {text : Chars} (hc : Text.contains commentOpening text = false)
    (hb : (!options.preserveWhitespaces && Text.allBlank text) = false) :
    state.addText source options pos text =
      (interpolateAt source text pos).map fun (binding, problems) =>
        (state.report problems).append
          (textNode options text (source.span pos (pos + text.length)) binding) := by
  simp only [State.addText, hc, hb]
  cases interpolateAt source text pos with
  | error e => rfl
  | ok result =>
    obtain ⟨binding, problems⟩ := result
    cases binding <;> rfl

theorem restrict_textNode {text : Chars} (span : Span) (binding : Option Binding)
    (hb : (!options.preserveWhitespaces && Text.allBlank text) = false) :
    (textNode .keepAll text span binding).restrict options =
      [textNode options text span binding] := by
  cases binding with
  | none =>
    simp only [textNode, ParseOptions.keepAll, Node.restrict, hb, if_true]
    rfl
  | some binding => simp only [textNode, Node.restrict]

theorem restrict_addText (text : Chars) :
    (state.restrict options).addText source options pos text =
      (state.addText source .keepAll pos text).map (State.restrict options) := by
  cases hc : Text.contains commentOpening text with
  | true =>
    simp only [State.addText, hc]
    rfl
  | false =>
    have hkept : (!ParseOptions.keepAll.preserveWhitespaces && Text.allBlank text) = false := rfl
    rw [addText_eq hc hkept]
    cases hb : !options.preserveWhitespaces && Text.allBlank text with
    | true =>
      have hblank : Text.allBlank text = true := (Bool.and_eq_true_iff.mp hb).2
      simp only [State.addText, hc, hb, interpolateAt_of_allBlank hblank, Except.map,
        State.report_nil]
      rw [State.restrict_append_of_nil]
      · rfl
      · simp only [textNode, ParseOptions.keepAll, if_true, Node.restrict, hb]
    | false =>
      rw [addText_eq hc hb]
      cases interpolateAt source text pos with
      | error e => rfl
      | ok result =>
        simp only [Except.map, State.restrict_append (restrict_textNode _ _ hb),
          State.restrict_report]

theorem restrict_openElement (tag : StartTag) :
    (state.restrict options).openElement source pos tag =
      (state.openElement source pos tag).map (State.restrict options) := by
  unfold State.openElement
  cases tagEntries source (pos + 1 + tag.name.length) tag.attributes with
  | error e => rfl
  | ok result =>
    simp only [bind, Except.bind]
    split
    · exact congrArg Except.ok (State.restrict_finishElement (state.report result.2)
        (tag.element source pos result.1) none).symm
    · rfl

theorem restrict_closeElement (name : Chars) (closing : Span) :
    (state.restrict options).closeElement source name closing =
      (state.closeElement source name closing).restrict options := by
  obtain ⟨stack, roots, comments, problems⟩ := state
  cases stack with
  | nil => rfl
  | cons top rest =>
    simp only [State.closeElement, State.restrict, List.map_cons, OpenElement.restrict]
    split
    · exact (State.restrict_finishElement ⟨rest, roots, comments, problems⟩ top
        (some closing)).symm
    · rfl

theorem restrict_step (piece : Piece) :
    (state.restrict options).step source options pos piece =
      (state.step source .keepAll pos piece).map (State.restrict options) := by
  cases piece with
  | text value => exact restrict_addText value
  | construct c =>
    cases c with
    | comment value => rfl
    | endTag name tail =>
      rw [step_endTag, step_endTag, restrict_closeElement]
      rfl
    | startTag tag => exact restrict_openElement tag

theorem restrict_run (source : Source) (options : ParseOptions) (pos : Nat) (state : State)
    (pieces : List Piece) :
    (state.restrict options).run source options pos pieces =
      (state.run source .keepAll pos pieces).map (State.restrict options) := by
  induction pieces generalizing pos state with
  | nil => rfl
  | cons piece rest ih =>
    simp only [State.run, restrict_step]
    cases state.step source .keepAll pos piece with
    | error e => rfl
    | ok next => exact ih _ next

end

end Markup

end TemplateTree
