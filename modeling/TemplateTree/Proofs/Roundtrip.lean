import TemplateTree.Proofs.Printing
import TemplateTree.Proofs.Source

/-!
# Parsing undoes printing

A printed forest parses to the nodes of its items: each element, text and
comment in its place, with the span at which it was printed. The scan follows
the derivation of the nodes item by item.
-/

namespace TemplateTree

open Text (Chars)
open Expression (bind_eq_ok)

def Source.spanAt (source : Source) (pos : Nat) (body : Chars) : Span :=
  source.span pos (pos + body.length)

namespace Markup

variable {source : Source} {pos : Nat}

-- ---------------------------------------------------------------------------
-- The nodes of a forest
-- ---------------------------------------------------------------------------

def placePrinted (source : Source) (pos : Nat) : List (Chars × Chars) → List PlacedAttribute
  | [] => []
  | (name, value) :: rest =>
    { name
      value
      valueStart := pos + 1 + name.length + 2
      span := source.spanAt (pos + 1) (printAttribute (name, value))
      keySpan := source.spanAt (pos + 1) name } ::
    placePrinted source (pos + 1 + (printAttribute (name, value)).length) rest

/-- The node of an element. One with directives stands inside a template that
takes these. -/
def elementNode (name : Chars) (spans : TagSpans) (entries : Entries) (children : List Node) :
    Node :=
  if name = templateTag then
    .template
      { tagName := name
        spans
        attributes := entries.attributes
        inputs := entries.inputs
        outputs := entries.outputs
        templateAttrs := entries.templateAttrs
        references := entries.references
        vars := entries.vars ++ entries.templateVariables } children
  else
    let element : Node :=
      .element
        { name
          spans
          attributes := entries.attributes
          inputs := entries.inputs
          outputs := entries.outputs
          references := entries.references } children
    if entries.templateAttrs.isEmpty && entries.templateVariables.isEmpty then element
    else
      .template
        { tagName := name
          spans
          templateAttrs := entries.templateAttrs
          vars := entries.templateVariables } [element]

def printedSpans (source : Source) (pos : Nat) (name : Chars) (attributes : List (Chars × Chars))
    (selfClosing : Bool) (children : List Item) : TagSpans :=
  { whole := source.spanAt pos (Item.element name attributes selfClosing children).print
    opening := source.spanAt pos (printStartTag name attributes selfClosing)
    closing :=
      if selfClosing || isVoid name then none
      else some (source.spanAt (pos + (printStartTag name attributes selfClosing).length +
        (Item.printAll children).length) (printEndTag name)) }

/-- `Yields source pos items nodes comments`: these are the nodes and comments of
a forest that is printed at `pos`. -/
inductive Yields (source : Source) : Nat → List Item → List Node → List Comment → Prop
  | nil {pos : Nat} : Yields source pos [] [] []
  | text {pos : Nat} {value : Chars} {rest : List Item} {nodes : List Node}
      {comments : List Comment} :
      Binding.parseInterpolation value (source.locationName pos) pos = .ok none →
      Yields source (pos + value.length) rest nodes comments →
      Yields source pos (.text value :: rest)
        (.text value (source.spanAt pos value) :: nodes) comments
  | boundText {pos : Nat} {value : Chars} {rest : List Item} {binding : Binding}
      {nodes : List Node} {comments : List Comment} :
      Binding.parseInterpolation value (source.locationName pos) pos = .ok (some binding) →
      Yields source (pos + value.length) rest nodes comments →
      Yields source pos (.text value :: rest)
        (.boundText binding (source.spanAt pos value) :: nodes) comments
  | comment {pos : Nat} {value : Chars} {rest : List Item} {nodes : List Node}
      {comments : List Comment} :
      Yields source (pos + (Item.comment value).print.length) rest nodes comments →
      Yields source pos (.comment value :: rest) nodes
        (⟨value, source.spanAt pos (Item.comment value).print⟩ :: comments)
  -- The attributes stand behind the bracket and the name, the children behind the tag.
  | element {pos : Nat} {name : Chars} {attributes : List (Chars × Chars)} {selfClosing : Bool}
      {children rest : List Item} {entries : Entries} {inner nodes : List Node}
      {innerComments comments : List Comment} :
      collect (attributeEntries source) (placePrinted source (pos + 1 + name.length) attributes) =
        .ok (entries, []) →
      Yields source (pos + (printStartTag name attributes selfClosing).length) children inner
        innerComments →
      Yields source (pos + (Item.element name attributes selfClosing children).print.length) rest
        nodes comments →
      Yields source pos (.element name attributes selfClosing children :: rest)
        (elementNode name (printedSpans source pos name attributes selfClosing children) entries
          inner :: nodes) (innerComments ++ comments)

-- ---------------------------------------------------------------------------
-- Accepted forests have nodes
-- ---------------------------------------------------------------------------

theorem placeAttributes_printed (source : Source) (pos : Nat) (attributes : List (Chars × Chars)) :
    placeAttributes source pos (attributes.map printedAttribute) =
      placePrinted source pos attributes := by
  induction attributes generalizing pos with
  | nil => rfl
  | cons attr rest ih =>
    obtain ⟨name, value⟩ := attr
    have hlen : pos + (printedAttribute (name, value)).written.length =
        pos + 1 + (printAttribute (name, value)).length := by
      rw [written_printedAttribute, List.length_cons]
      omega
    rw [List.map_cons, placeAttributes, placePrinted, hlen, ih, Attribute.place, hlen]
    simp [printedAttribute, Attribute.valueText, Source.spanAt, Quoting.marks]

theorem passes_printedTag (source : Source) (pos : Nat) {name : Chars}
    {attributes : List (Chars × Chars)} {selfClosing : Bool} {children : List Item}
    (h : (Item.element name attributes selfClosing children).Accepted) :
    Passes (tagEntries source pos (printedTag name attributes selfClosing).attributes) := by
  rw [passes_tagEntries]
  simp only [StartTag.bindings, StartTag.markers, printedTag, List.flatMap_map,
    List.forall_mem_flatMap]
  refine ⟨fun attr ha s hs => ?_, fun attr ha s hs => (h.1 attr ha).2.1 s hs⟩
  rcases (h.1 attr ha).1 s hs with hb | hs
  · exact accepted_of_allBlank hb
  · exact hs

theorem declares_printedTag {name : Chars} {attributes : List (Chars × Chars)}
    {selfClosing : Bool} {children : List Item}
    (h : (Item.element name attributes selfClosing children).Accepted) :
    (printedTag name attributes selfClosing).DeclaresVariables → name = templateTag := by
  rintro ⟨attr, ha, hd⟩
  obtain ⟨printed, hp, rfl⟩ := List.mem_map.mp ha
  exact (h.1 printed hp).2.2 hd

theorem exists_yields (source : Source) (pos : Nat) (items : List Item)
    (h : Item.AllAccepted items) : ∃ nodes comments, Yields source pos items nodes comments := by
  match items with
  | [] => exact ⟨[], [], .nil⟩
  | .text value :: rest =>
    obtain ⟨nodes, comments, hrest⟩ := exists_yields source (pos + value.length) rest h.2
    obtain ⟨binding, hb⟩ :=
      (exists_parseInterpolation_eq_ok value (source.locationName pos) pos).mpr h.1
    cases binding with
    | none => exact ⟨_, _, .text hb hrest⟩
    | some binding => exact ⟨_, _, .boundText hb hrest⟩
  | .comment value :: rest =>
    obtain ⟨nodes, comments, hrest⟩ :=
      exists_yields source (pos + (Item.comment value).print.length) rest h.2
    exact ⟨_, _, .comment hrest⟩
  | .element name attributes selfClosing children :: rest =>
    obtain ⟨inner, innerComments, hinner⟩ := exists_yields source
      (pos + (printStartTag name attributes selfClosing).length) children h.1.2
    obtain ⟨nodes, comments, hrest⟩ := exists_yields source
      (pos + (Item.element name attributes selfClosing children).print.length) rest h.2
    obtain ⟨entries, he⟩ := passes_printedTag source (pos + 1 + name.length) h.1
    rw [tagEntries, printedTag, placeAttributes_printed] at he
    exact ⟨_, _, .element he hinner hrest⟩

-- ---------------------------------------------------------------------------
-- Taking up nodes
-- ---------------------------------------------------------------------------

def State.take (state : State) (nodes : List Node) (comments : List Comment) : State :=
  match state.stack with
  | [] => { state with roots := state.roots ++ nodes, comments := state.comments ++ comments }
  | top :: rest =>
    { state with
      stack := { top with children := top.children ++ nodes } :: rest
      comments := state.comments ++ comments }

section
variable {state : State}

theorem State.take_nil (state : State) : state.take [] [] = state := by
  obtain ⟨stack, roots, comments, problems⟩ := state
  cases stack <;> simp [State.take]

theorem State.take_take (nodes more : List Node) (comments others : List Comment) :
    (state.take nodes comments).take more others =
      state.take (nodes ++ more) (comments ++ others) := by
  obtain ⟨stack, roots, _, problems⟩ := state
  cases stack <;> simp [State.take]

theorem State.append_eq_take (node : Node) : state.append node = state.take [node] [] := by
  obtain ⟨stack, roots, comments, problems⟩ := state
  cases stack <;> simp [State.append, State.take]

theorem finish_eq_elementNode {name : Chars} {entries : Entries} {children : List Node}
    {start mid stop : Int} (closing : Option Span)
    (hc : (closing.getD (source.span start mid)).stop = source.locate stop) :
    (OpenElement.finish ⟨name, source.span start mid, entries, children⟩ source closing).1 =
      elementNode name ⟨source.span start stop, source.span start mid, closing⟩ entries
        children := by
  have hwhole : source.span (source.span start mid).start.offset
      (closing.getD (source.span start mid)).stop.offset = source.span start stop := by
    rw [hc]
    simp only [Source.span, Source.locate_locate_offset]
  unfold OpenElement.finish elementNode
  dsimp only
  rw [hwhole]
  split
  · rfl
  · split <;> rfl

end

-- ---------------------------------------------------------------------------
-- Scanning printed items
-- ---------------------------------------------------------------------------

section
variable {state mid : State} {value name : Chars} {attributes : List (Chars × Chars)}
variable {selfClosing : Bool} {children : List Item} {entries : Entries}

theorem run_cons {options : ParseOptions} {piece : Piece} {rest : List Piece}
    (h : state.step source options pos piece = .ok mid) :
    state.run source options pos (piece :: rest) =
      mid.run source options (pos + piece.written.length) rest := by
  simp only [State.run, h]
  rfl

theorem step_printedText {binding : Option Binding} (h : '<' ∉ value)
    (hb : Binding.parseInterpolation value (source.locationName pos) pos = .ok binding) :
    state.step source {} pos (.text value) =
      .ok (state.take [textNode {} value (source.spanAt pos value) binding] []) := by
  have hcomment : Text.contains commentOpening value = false := by
    rw [← Bool.not_eq_true, contains_iff_infix]
    intro hi
    exact h (hi.subset (by simp [commentOpening]))
  simp only [State.step, State.addText, hcomment, interpolateAt, hb]
  cases binding with
  | none =>
    rw [← State.append_eq_take]
    simp [textNode, State.report_nil, Source.spanAt, bind, Except.bind, pure, Except.pure]
  | some binding =>
    rw [← State.append_eq_take]
    simp [textNode, State.report_nil, Source.spanAt, bind, Except.bind, pure, Except.pure]

theorem step_printedComment :
    state.step source {} pos (.construct (.comment value)) =
      .ok (state.take [] [⟨value, source.spanAt pos (Item.comment value).print⟩]) := by
  rw [step_comment]
  obtain ⟨stack, roots, comments, problems⟩ := state
  cases stack <;> simp [State.take, Source.spanAt, Construct.written, Item.print]

def printedElement (source : Source) (pos : Nat) (name : Chars)
    (attributes : List (Chars × Chars)) (selfClosing : Bool) (entries : Entries)
    (children : List Node) : OpenElement :=
  ⟨name, source.spanAt pos (printStartTag name attributes selfClosing), entries, children⟩

section
variable (h : (Item.element name attributes selfClosing children).Accepted)
variable (he : collect (attributeEntries source)
  (placePrinted source (pos + 1 + name.length) attributes) = .ok (entries, []))
include he

theorem tagEntries_printedTag :
    tagEntries source (pos + 1 + (printedTag name attributes selfClosing).name.length)
      (printedTag name attributes selfClosing).attributes = .ok (entries, []) := by
  rw [tagEntries, printedTag, placeAttributes_printed]
  exact he

include h

theorem wellPlaced_printedElement (inner : List Node) :
    (printedElement source pos name attributes selfClosing entries inner).WellPlaced := by
  have hplaced : ((printedTag name attributes selfClosing).element source pos
      entries).WellPlaced :=
    (wellPlaced_element (tagEntries_printedTag he)).mpr (declares_printedTag h)
  -- Only the name and the entries of an element decide its place.
  unfold OpenElement.WellPlaced at hplaced ⊢
  exact hplaced

theorem openElement_printed (state : State) : state.step source {} pos
      (.construct (.startTag (printedTag name attributes selfClosing))) =
    .ok (if selfClosing || isVoid name then
        state.append
          ((printedElement source pos name attributes selfClosing entries []).finish source none).1
      else { state with
        stack := printedElement source pos name attributes selfClosing entries [] ::
          state.stack }) := by
  have hfinish :
      ((printedElement source pos name attributes selfClosing entries []).finish source none).2 =
        [] := finish_problems.mpr (wellPlaced_printedElement h he [])
  have helement : (printedTag name attributes selfClosing).element source pos entries =
      printedElement source pos name attributes selfClosing entries [] := by
    simp [StartTag.element, printedElement, Source.spanAt, printedTag, ← written_printedTag]
  rw [State.step, openElement_of_passes (tagEntries_printedTag he), helement, hfinish,
    State.report_nil, State.report_nil]
  rfl

theorem closeElement_printed (stop : Nat) (inner : List Node) :
    State.step source {} stop { state with
        stack := printedElement source pos name attributes selfClosing entries inner ::
          state.stack } (.construct (.endTag name [])) =
      .ok (state.append
        ((printedElement source pos name attributes selfClosing entries inner).finish
          source (some (source.spanAt stop (printEndTag name)))).1) := by
  have hspan : source.span stop (stop + (Construct.endTag name []).written.length) =
      source.spanAt stop (printEndTag name) := by
    simp [Construct.written, printEndTag, Source.spanAt]
  have hfinish : ((printedElement source pos name attributes selfClosing entries inner).finish
      source (some (source.spanAt stop (printEndTag name)))).2 = [] :=
    finish_problems.mpr (wellPlaced_printedElement h he inner)
  have hname : Text.lower (printedElement source pos name attributes selfClosing entries
      inner).name = Text.lower name := rfl
  rw [step_endTag, hspan, State.closeElement]
  dsimp only
  rw [if_pos hname, hfinish, State.report_nil]

end

theorem finish_printedLeaf (hleaf : (selfClosing || isVoid name) = true)
    (children : List Item) :
    ((printedElement source pos name attributes selfClosing entries []).finish source none).1 =
      elementNode name (printedSpans source pos name attributes selfClosing children) entries
        [] := by
  have hprint : (Item.element name attributes selfClosing children).print =
      printStartTag name attributes selfClosing := by
    simp [Item.print, hleaf]
  unfold printedElement Source.spanAt
  rw [finish_eq_elementNode none rfl]
  simp [printedSpans, hprint, hleaf, Source.spanAt]

theorem finish_printedElement {inner : List Node} (hleaf : (selfClosing || isVoid name) = false) :
    ((printedElement source pos name attributes selfClosing entries inner).finish source
        (some (source.spanAt (pos + (printStartTag name attributes selfClosing).length +
          (Item.printAll children).length) (printEndTag name)))).1 =
      elementNode name (printedSpans source pos name attributes selfClosing children) entries
        inner := by
  have hprint : (Item.element name attributes selfClosing children).print =
      printStartTag name attributes selfClosing ++
        (Item.printAll children ++ printEndTag name) := by
    simp [Item.print, hleaf]
  unfold printedElement Source.spanAt
  rw [finish_eq_elementNode (some _) rfl]
  simp [printedSpans, hprint, hleaf, Source.spanAt, Int.add_assoc]

end

section
variable {name : Chars} {attributes : List (Chars × Chars)} {selfClosing : Bool}
variable {children : List Item} {entries : Entries}

theorem written_startTagPiece :
    (Piece.construct (.startTag (printedTag name attributes selfClosing))).written =
      printStartTag name attributes selfClosing := by
  simp [Piece.written, Construct.written]

variable (h : (Item.element name attributes selfClosing children).Accepted)
variable (he : collect (attributeEntries source)
  (placePrinted source (pos + 1 + name.length) attributes) = .ok (entries, []))
include h he

theorem run_printedLeaf (hleaf : (selfClosing || isVoid name) = true) (state : State)
    (rest : List Piece) :
    state.run source {} pos ((Item.element name attributes selfClosing children).pieces ++ rest) =
      (state.take [elementNode name
        (printedSpans source pos name attributes selfClosing children) entries []] []).run source {}
        (pos + (Item.element name attributes selfClosing children).print.length) rest := by
  have hopen := openElement_printed h he state
  rw [if_pos hleaf, finish_printedLeaf hleaf children, State.append_eq_take] at hopen
  rw [Item.pieces, if_pos hleaf, List.singleton_append, run_cons hopen, written_startTagPiece,
    Item.print, if_pos hleaf, List.append_nil]

theorem run_printedElement {inner : List Node} {innerComments : List Comment}
    (hleaf : (selfClosing || isVoid name) = false)
    (hinner : ∀ (state : State) (rest : List Piece),
      state.run source {} (pos + (printStartTag name attributes selfClosing).length)
          (Item.piecesOf children ++ rest) =
        (state.take inner innerComments).run source {}
          (pos + (printStartTag name attributes selfClosing).length +
            (Item.printAll children).length) rest)
    (state : State) (rest : List Piece) :
    state.run source {} pos ((Item.element name attributes selfClosing children).pieces ++ rest) =
      (state.take [elementNode name
        (printedSpans source pos name attributes selfClosing children) entries inner]
          innerComments).run source {}
        (pos + (Item.element name attributes selfClosing children).print.length) rest := by
  have hneg : ¬ (selfClosing || isVoid name) = true := by simp [hleaf]
  have hopen := openElement_printed h he state
  rw [if_neg hneg] at hopen
  have hinside : State.take { state with
        stack := printedElement source pos name attributes selfClosing entries [] ::
          state.stack } inner innerComments =
      { state.take [] innerComments with
        stack := printedElement source pos name attributes selfClosing entries inner ::
          (state.take [] innerComments).stack } := by
    obtain ⟨stack, roots, _, problems⟩ := state
    cases stack <;> simp [State.take, printedElement]
  have hwritten : (Piece.construct (.endTag name [])).written = printEndTag name := by
    simp [Piece.written, Construct.written, printEndTag]
  rw [Item.pieces, if_neg hneg, List.cons_append, run_cons hopen, written_startTagPiece,
    List.append_assoc, hinner, hinside, List.singleton_append,
    run_cons (closeElement_printed h he _ _), finish_printedElement hleaf, hwritten,
    State.append_eq_take, State.take_take, Item.print, if_neg hneg, List.length_append,
    List.length_append, ← Nat.add_assoc, ← Nat.add_assoc]
  simp

end

theorem Yields.run_eq {items : List Item} {nodes : List Node} {comments : List Comment}
    (h : Yields source pos items nodes comments) (hf : Item.AllFormed items)
    (ha : Item.AllAccepted items) (state : State) (rest : List Piece) :
    state.run source {} pos (Item.piecesOf items ++ rest) =
      (state.take nodes comments).run source {} (pos + (Item.printAll items).length) rest := by
  induction h generalizing state rest with
  | nil =>
    rw [State.take_nil]
    rfl
  | @text pos value more nodes comments hb _ ih
  | @boundText pos value more _ nodes comments hb _ ih =>
    obtain ⟨⟨-, hv⟩, -, hmore⟩ := hf
    rw [Item.piecesOf, Item.pieces, List.singleton_append, List.cons_append,
      run_cons (step_printedText hv hb), Piece.written, ih hmore ha.2, State.take_take,
      Item.printAll, Item.print, List.length_append, Nat.add_assoc]
    rfl
  | @comment pos value more nodes comments _ ih =>
    obtain ⟨-, -, hmore⟩ := hf
    have hwritten : (Piece.construct (.comment value)).written = (Item.comment value).print := by
      simp [Piece.written, Construct.written, Item.print]
    rw [Item.piecesOf, Item.pieces, List.singleton_append, List.cons_append,
      run_cons step_printedComment, hwritten, ih hmore ha.2, State.take_take, Item.printAll,
      List.length_append, Nat.add_assoc]
    rfl
  | @element pos name attributes selfClosing children more entries inner nodes innerComments
      comments he hinner _ ihi ih =>
    obtain ⟨⟨-, -, hnone, hchildren⟩, -, hmore⟩ := hf
    rw [Item.piecesOf, List.append_assoc, Item.printAll, List.length_append, ← Nat.add_assoc]
    cases hleaf : (selfClosing || isVoid name) with
    | true =>
      obtain rfl := hnone hleaf
      cases hinner
      rw [run_printedLeaf ha.1 he hleaf, ih hmore ha.2, State.take_take]
      rfl
    | false =>
      rw [run_printedElement ha.1 he hleaf (ihi hchildren ha.1.2), ih hmore ha.2, State.take_take]
      rfl

end Markup

open Markup

/-- A printed forest is accepted, and its nodes and comments are those that the
forest yields. -/
theorem parseTemplate_printAll (items : List Item) (url : String) (hf : Item.AllFormed items)
    (ha : Item.AllAccepted items) :
    (∃ nodes comments,
      Yields (Source.ofText (Item.printAll items) url) 0 items nodes comments) ∧
    ∀ nodes comments, Yields (Source.ofText (Item.printAll items) url) 0 items nodes comments →
      parseTemplate (Item.printAll items) url {} =
        .ok ⟨nodes, some comments, Source.ofText (Item.printAll items) url⟩ := by
  refine ⟨exists_yields _ 0 items ha, fun nodes comments h => ?_⟩
  have hrun := h.run_eq hf ha {} []
  rw [List.append_nil] at hrun
  rw [parseTemplate_ok_iff, pieces_printAll hf, hrun]
  exact ⟨_, rfl, rfl, rfl, by simp [State.take]⟩

theorem parseTemplate_printAll_nested :
    let items : List Item :=
      [.text "a > \r\n".toList,
        .element "P".toList [("*x".toList, "let y of z".toList),
            ("b".toList, "<--> \x7b\x7b c \x7d\x7d '".toList)] false
          [.comment "-- <p".toList, .element "br".toList [] false [],
            .text "\x7b\x7b d | e \x7d\x7d".toList],
        .element "ng-template".toList [("let-e".toList, [])] true []]
    Item.AllFormed items ∧ Item.AllAccepted items ∧
    ∃ nodes comments, Yields (Source.ofText (Item.printAll items) "u") 0 items nodes comments ∧
      parseTemplate (Item.printAll items) "u" {} =
        .ok ⟨nodes, some comments, Source.ofText (Item.printAll items) "u"⟩ := by
  intro items
  have hf : Item.AllFormed items := by decide +kernel
  have ha : Item.AllAccepted items := by decide +kernel
  obtain ⟨⟨nodes, comments, hy⟩, hparse⟩ := parseTemplate_printAll items "u" hf ha
  exact ⟨hf, ha, nodes, comments, hy, hparse nodes comments hy⟩

end TemplateTree
