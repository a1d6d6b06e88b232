import TemplateTree.Proofs.Layout

/-!
# Template nodes follow the schema

Every expression, binding and node of a template builds as a record of its class,
and so does the document.
-/

namespace TemplateTree

open Text (Chars)

theorem builds_text (value : Chars) : Builds .plain (.text value) := builds_str _

theorem builds_optionalSpan (span : Option Span) : Builds .place (.optionalSpan span) := by
  cases span with
  | none => exact builds_here (fun _ => rfl) fun _ _ => .nowhere
  | some span => exact builds_span span

theorem OffsetSpan.builds (span : OffsetSpan) : Builds .place span.blueprint :=
  builds_offsetSpan _ _

theorem Literal.builds (value : Literal) : Builds .plain value.blueprint := by
  cases value <;> exact builds_here (fun _ => rfl) fun _ _ => .plain rfl

mutual

theorem Expr.builds : (e : Expr) → Builds .expression e.blueprint
  | .empty span => builds_node (by decide) rfl (.cons span.builds .nil)
  | .implicitReceiver span => builds_node (by decide) rfl (.cons span.builds .nil)
  | .thisReceiver span => builds_node (by decide) rfl (.cons span.builds .nil)
  | .literal span value =>
    builds_node (by decide) rfl (.cons span.builds <| .cons value.builds .nil)
  | .propertyRead span receiver name =>
    builds_node (by decide) rfl
      (.cons span.builds <| .cons receiver.builds <| .cons (builds_text name) .nil)
  | .keyedRead span receiver key =>
    builds_node (by decide) rfl
      (.cons span.builds <| .cons receiver.builds <| .cons key.builds .nil)
  | .call span receiver args =>
    builds_node (by decide) rfl
      (.cons span.builds <| .cons receiver.builds <| .cons (builds_list (builds_exprs args)) .nil)
  | .binary span op left right =>
    builds_node (by decide) rfl
      (.cons span.builds <| .cons (builds_str op.symbol) <| .cons left.builds <|
        .cons right.builds .nil)
  | .conditional span condition whenTrue whenFalse =>
    builds_node (by decide) rfl
      (.cons span.builds <| .cons condition.builds <| .cons whenTrue.builds <|
        .cons whenFalse.builds .nil)
  | .not span operand =>
    builds_node (by decide) rfl (.cons span.builds <| .cons operand.builds .nil)
  | .pipe span operand name args =>
    builds_node (by decide) rfl
      (.cons span.builds <| .cons operand.builds <| .cons (builds_text name) <|
        .cons (builds_list (builds_exprs args)) .nil)

theorem builds_exprs : (es : List Expr) → ∀ b ∈ exprBlueprints es, Builds .expression b
  | [] => fun _ h => nomatch h
  | e :: rest => List.forall_mem_cons.mpr ⟨e.builds, builds_exprs rest⟩

end

theorem Builds.widen {classes more : List String} {blueprint : Blueprint}
    (h : Builds (.one classes) blueprint) (hc : classes ⊆ more) : Builds (.one more) blueprint := by
  intro site
  obtain ⟨value, records, hb, hl⟩ := h site
  cases hl with
  | one hn hs hl => exact ⟨_, _, hb, .one (hc hn) hs hl⟩

theorem Bound.builds (bound : Bound) :
    Builds (.one ("Interpolation" :: plainExpressions)) bound.blueprint := by
  cases bound with
  | expression e => exact e.builds.widen (List.subset_cons_self _ _)
  | interpolation span strings expressions =>
    refine builds_node (.head _) rfl (.cons span.builds <| .cons (builds_plainList ?_) <|
      .cons (builds_list (builds_exprs expressions)) .nil)
    simp only [List.forall_mem_map]
    exact fun s _ => builds_text s

theorem Binding.builds (binding : Binding) : Builds .binding binding.blueprint :=
  builds_node (.head _) rfl (.cons binding.span.builds <| .cons binding.bound.builds <|
    .cons (builds_text binding.source) <| .cons (builds_str binding.location) <|
      .cons (builds_int binding.offset) .nil)

theorem BindingKind.builds (kind : BindingKind) : Builds (.enum "BindingKind") kind.blueprint := by
  cases kind <;> exact builds_enum _ _ _

theorem EventKind.builds (kind : EventKind) : Builds (.enum "EventKind") kind.blueprint := by
  cases kind <;> exact builds_enum _ _ _

theorem TextAttribute.builds (a : TextAttribute) : Builds (.one ["TextAttribute"]) a.blueprint :=
  builds_node (.head _) rfl (.cons (builds_text a.name) <| .cons (builds_text a.value) <|
    .cons (builds_span a.span) <| .cons (builds_optionalSpan a.valueSpan) .nil)

theorem BoundAttribute.builds (a : BoundAttribute) : Builds (.one ["BoundAttribute"]) a.blueprint :=
  builds_node (.head _) rfl (.cons (builds_text a.name) <| .cons a.kind.builds <|
    .cons a.value.builds <| .cons (builds_span a.span) <|
    .cons (builds_optionalSpan a.keySpan) .nil)

theorem BoundEvent.builds (e : BoundEvent) : Builds (.one ["BoundEvent"]) e.blueprint :=
  builds_node (.head _) rfl (.cons (builds_text e.name) <| .cons e.kind.builds <|
    .cons e.handler.builds <| .cons (builds_span e.span) <|
      .cons (builds_optionalSpan e.keySpan) .nil)

theorem Reference.builds (r : Reference) : Builds (.one ["Reference"]) r.blueprint :=
  builds_node (.head _) rfl (.cons (builds_text r.name) <| .cons (builds_text r.value) <|
    .cons (builds_span r.span) .nil)

theorem Variable.builds (v : Variable) : Builds (.one ["Variable"]) v.blueprint :=
  builds_node (.head _) rfl (.cons (builds_text v.name) <| .cons (builds_text v.value) <|
    .cons (builds_span v.span) .nil)

theorem builds_mapped {α : Type} {classes : List String} {blueprint : α → Blueprint}
    (h : ∀ x, Builds (.one classes) (blueprint x)) (xs : List α) :
    Builds (.many classes) (.list (xs.map blueprint)) := by
  refine builds_list ?_
  simp only [List.forall_mem_map]
  exact fun x _ => h x

mutual

theorem Node.builds : (node : Node) → Builds (.one contentClasses) node.blueprint
  | .text value span =>
    builds_node (by decide) rfl (.cons (builds_text value) <| .cons (builds_span span) .nil)
  | .boundText value span =>
    builds_node (by decide) rfl (.cons value.builds <| .cons (builds_span span) .nil)
  | .element head children =>
    builds_node (by decide) rfl
      (.cons (builds_text head.name) <| .cons (builds_span head.spans.whole) <|
        .cons (builds_span head.spans.opening) <| .cons (builds_optionalSpan head.spans.closing) <|
        .cons (builds_mapped TextAttribute.builds head.attributes) <|
        .cons (builds_mapped BoundAttribute.builds head.inputs) <|
        .cons (builds_mapped BoundEvent.builds head.outputs) <|
        .cons (builds_list (builds_nodes children)) <|
        .cons (builds_mapped Reference.builds head.references) .nil)
  | .template head children =>
    builds_node (by decide) rfl
      (.cons (builds_text head.tagName) <| .cons (builds_span head.spans.whole) <|
        .cons (builds_span head.spans.opening) <| .cons (builds_optionalSpan head.spans.closing) <|
        .cons (builds_mapped TextAttribute.builds head.attributes) <|
        .cons (builds_mapped BoundAttribute.builds head.inputs) <|
        .cons (builds_mapped BoundEvent.builds head.outputs) <|
        .cons (builds_mapped BoundAttribute.builds head.templateAttrs) <|
        .cons (builds_list (builds_nodes children)) <|
        .cons (builds_mapped Reference.builds head.references) <|
        .cons (builds_mapped Variable.builds head.vars) .nil)

theorem builds_nodes :
    (nodes : List Node) → ∀ b ∈ nodeBlueprints nodes, Builds (.one contentClasses) b
  | [] => fun _ h => nomatch h
  | node :: rest => List.forall_mem_cons.mpr ⟨node.builds, builds_nodes rest⟩

end

theorem builds_range (first last : Int) : Builds .plains (.tuple [.int first, .int last]) := by
  refine builds_plainTuple ?_
  simp only [List.mem_cons, List.not_mem_nil, or_false, forall_eq_or_imp, forall_eq]
  exact ⟨builds_int first, builds_int last⟩

theorem CommentToken.builds (token : CommentToken) : Builds (.one ["Token"]) token.blueprint :=
  builds_node (.head _) rfl (.cons (builds_constant _) <| .cons (builds_text token.text) <|
    .cons (builds_loc token.loc) <| .cons (builds_range _ _) .nil)

theorem Program.buildsFields (program : Program) :
    ∃ slots fields, schema.lookup (.node "Program") = some slots ∧
      program.blueprint = .node "Program" fields ∧ BuildsFields slots fields :=
  ⟨_, _, rfl, rfl, .cons (builds_text program.text) <|
    .cons (builds_list (builds_nodes program.nodes)) <|
    .cons (builds_mapped CommentToken.builds program.comments) <|
    .cons (builds_plainList (by simp)) <| .cons (builds_range _ _) <|
    .cons (builds_loc program.loc) <| .cons (builds_constant "Program") .nil⟩

theorem Program.builds (program : Program) : Builds (.one ["Program"]) program.blueprint := by
  obtain ⟨slots, fields, hs, hb, hf⟩ := program.buildsFields
  rw [hb]
  exact builds_node (.head _) hs hf

end TemplateTree
