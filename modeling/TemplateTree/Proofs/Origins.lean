import TemplateTree.Proofs.Extents

/-!
# Where the nodes of a graph come from

Every node in the graph of a document shows the fields of a part of the document.
What is known of the fields of all parts is therefore known of all nodes.
-/

namespace TemplateTree

open Text (Chars)

def Graph.ShowsFields (graph : Graph) : List (String × Blueprint) → Fields → Prop :=
  List.Forall₂ fun field value => field.1 = value.1 ∧ graph.Shows field.2 value.2

def Graph.Stems (graph : Graph) (p : List (String × Blueprint) → Prop) (records : List Record) :
    Prop :=
  ∀ record ∈ records, ∀ name, record.type = .node name →
    ∃ fields, p fields ∧ graph.ShowsFields fields record.fields

/-- Wherever the blueprint is built, all nodes that it adds show fields that meet a
condition. -/
def Blueprint.Stems (p : List (String × Blueprint) → Prop) (blueprint : Blueprint) : Prop :=
  ∀ site : Site, ∃ value records, site.build blueprint = (value, site.extend records) ∧
    ∀ graph : Graph, graph.HasAt site.graph.size records → graph.Stems p records

section
variable {graph : Graph} {p : List (String × Blueprint) → Prop} {records more : List Record}
variable {fields : List (String × Blueprint)} {items : List Blueprint} {blueprint : Blueprint}

theorem Graph.stems_nil : graph.Stems p [] := fun _ hm => nomatch hm

theorem Graph.Stems.append (h : graph.Stems p records) (hm : graph.Stems p more) :
    graph.Stems p (records ++ more) := List.forall_mem_append.mpr ⟨h, hm⟩

theorem stems_here (hb : ∀ site : Site, ∃ value, site.build blueprint = (value, site)) :
    blueprint.Stems p := by
  intro site
  obtain ⟨value, hvalue⟩ := hb site
  exact ⟨value, [], by rw [hvalue, Site.extend_nil], fun _ _ => Graph.stems_nil⟩

theorem stems_str (s : String) : (Blueprint.str s).Stems p := stems_here fun _ => ⟨_, rfl⟩

theorem stems_int (n : Int) : (Blueprint.int n).Stems p := stems_here fun _ => ⟨_, rfl⟩

theorem stems_enum (type member : String) (number : Int) :
    (Blueprint.enum type member number).Stems p :=
  stems_here fun _ => ⟨_, rfl⟩

/-- Where something stands is built from records that are no nodes. -/
theorem stems_of_builds (h : Builds .place blueprint) : blueprint.Stems p := by
  intro site
  obtain ⟨value, records, hb, hl⟩ := h site
  refine ⟨value, records, hb, fun graph _ record hm name ht => ?_⟩
  cases hl with
  | nowhere => cases hm
  | offsetSpan | span | loc =>
    simp only [List.mem_cons, List.not_mem_nil, or_false] at hm
    rcases hm with rfl | rfl | rfl <;> cases ht

theorem buildList_stems (h : ∀ item ∈ items, item.Stems p) (site : Site) :
    ∃ values records, site.buildList items = (values, site.extend records) ∧
      ∀ graph : Graph, graph.HasAt site.graph.size records → graph.Stems p records := by
  induction items generalizing site with
  | nil => exact ⟨[], [], by simp [Site.buildList], fun _ _ => Graph.stems_nil⟩
  | cons item rest ih =>
    obtain ⟨hitem, hrest⟩ := List.forall_mem_cons.mp h
    obtain ⟨value, records, hb, hs⟩ := hitem site
    obtain ⟨values, more, hbs, hss⟩ := ih hrest (site.extend records)
    rw [Site.size_extend] at hss
    refine ⟨value :: values, records ++ more, ?_, fun graph hat => ?_⟩
    · simp [Site.buildList, hb, hbs]
    · exact (hs graph hat.left).append (hss graph hat.right)

theorem stems_list (h : ∀ item ∈ items, item.Stems p) : (Blueprint.list items).Stems p := by
  intro site
  obtain ⟨values, records, hb, hs⟩ := buildList_stems h site
  exact ⟨.list values, records, by simp [Site.build, hb], hs⟩

theorem stems_tuple (h : ∀ item ∈ items, item.Stems p) : (Blueprint.tuple items).Stems p := by
  intro site
  obtain ⟨values, records, hb, hs⟩ := buildList_stems h site
  exact ⟨.tuple values, records, by simp [Site.build, hb], hs⟩

theorem stems_mapped {α : Type} {toBlueprint : α → Blueprint} (h : ∀ x, (toBlueprint x).Stems p)
    (xs : List α) : (Blueprint.list (xs.map toBlueprint)).Stems p := by
  refine stems_list ?_
  simp only [List.forall_mem_map]
  exact fun x _ => h x

theorem buildFields_stems (h : ∀ field ∈ fields, field.2.Stems p) (site : Site)
    (type : RecordClass) (done : Fields) (records : List Record)
    (hd : (done.map Prod.fst ++ fields.map Prod.fst).Nodup) :
    ∃ values more, (site.extend (⟨type, done⟩ :: records)).buildFields site.graph.size fields =
        site.extend (⟨type, done ++ values⟩ :: (records ++ more)) ∧
      ∀ graph : Graph, graph.HasAt (site.graph.size + 1 + records.length) more →
        graph.ShowsFields fields values ∧ graph.Stems p more := by
  induction fields generalizing done records with
  | nil => exact ⟨[], [], by simp [Site.buildFields], fun _ _ => ⟨.nil, Graph.stems_nil⟩⟩
  | cons field fields ih =>
    obtain ⟨name, blueprint⟩ := field
    obtain ⟨hfirst, hrest⟩ := List.forall_mem_cons.mp h
    obtain ⟨value, more, hb, hs⟩ := hfirst (site.extend (⟨type, done⟩ :: records))
    have hnew : name ∉ done.map Prod.fst := fun hm =>
      (List.nodup_append.mp hd).2.2 _ hm _ (.head _) rfl
    obtain ⟨values, others, hbs, hss⟩ := ih hrest (done ++ [(name, value)]) (records ++ more)
      (by simpa using hd)
    have hsize : (site.extend (⟨type, done⟩ :: records)).graph.size =
        site.graph.size + 1 + records.length := by
      rw [Site.size_extend, List.length_cons]
      omega
    rw [List.length_append, ← Nat.add_assoc] at hss
    refine ⟨(name, value) :: values, more ++ others, ?_, fun graph hat => ?_⟩
    · rw [Site.buildFields, Site.buildField_extend hb hnew, hbs]
      simp only [List.append_assoc, List.singleton_append]
    · obtain ⟨hshows, hothers⟩ := hss graph hat.right
      have hleft := hat.left
      rw [← hsize] at hleft
      exact ⟨.cons ⟨rfl, _, more, hb, hleft⟩ hshows, (hs graph hleft).append hothers⟩

theorem stems_node {name : String} (hp : p fields) (hd : (fields.map Prod.fst).Nodup)
    (h : ∀ field ∈ fields, field.2.Stems p) : (Blueprint.node name fields).Stems p := by
  intro site
  obtain ⟨values, records, hb, hs⟩ := buildFields_stems h site (.node name) [] [] hd
  have hreserve : site.reserve none name = (site.graph.size, site.extend [⟨.node name, []⟩]) := by
    simp [Site.reserve, Graph.alloc, Site.extend]
  refine ⟨.ref site.graph.size, ⟨.node name, values⟩ :: records, ?_, fun graph hat => ?_⟩
  · simpa [Blueprint.node, Site.build, hreserve] using hb
  · obtain ⟨hshows, hstems⟩ := hs graph hat.tail
    exact List.forall_mem_cons.mpr ⟨fun _ _ => ⟨fields, hp, hshows⟩, hstems⟩

theorem Graph.ShowsFields.exists_lookup {values : Fields} {key : String} {value : Value}
    (h : graph.ShowsFields fields values) (hl : values.lookup key = some value) :
    ∃ blueprint, fields.lookup key = some blueprint ∧ graph.Shows blueprint value := by
  induction h with
  | nil => cases hl
  | @cons field entry fields values hfirst _ ih =>
    obtain ⟨name, first⟩ := field
    obtain ⟨_, held⟩ := entry
    obtain ⟨rfl, hshows⟩ := hfirst
    rw [List.lookup_cons] at hl ⊢
    cases hname : key == name with
    | true =>
      rw [hname] at hl
      cases hl
      exact ⟨first, rfl, hshows⟩
    | false =>
      rw [hname] at hl
      exact ih hl

end

-- ---------------------------------------------------------------------------
-- Parts of a document
-- ---------------------------------------------------------------------------

def kindMembers : List String :=
  ["PROPERTY", "ATTRIBUTE", "CLASS", "STYLE", "TWO_WAY", "REGULAR"]

inductive TellsKind : Option Blueprint → Prop
  | none : TellsKind .none
  | text (text : String) : TellsKind (some (.str text))
  | member {type member : String} {number : Int} :
      member ∈ kindMembers → TellsKind (some (.enum type member number))

inductive TellsSpan : Option Blueprint → Prop
  | none : TellsSpan .none
  | span (span : Span) : TellsSpan (some (.span span))
  | offsetSpan (first last : Int) : TellsSpan (some (.offsetSpan first last))

structure TellLabel (fields : List (String × Blueprint)) : Prop where
  kind : TellsKind (fields.lookup "kind")
  span : TellsSpan (fields.lookup "source_span")

theorem stems_text (value : Chars) : (Blueprint.text value).Stems TellLabel := stems_str _

theorem stems_span (span : Span) : (Blueprint.span span).Stems TellLabel :=
  stems_of_builds (builds_span span)

theorem stems_optionalSpan (span : Option Span) :
    (Blueprint.optionalSpan span).Stems TellLabel := stems_of_builds (builds_optionalSpan span)

theorem OffsetSpan.stems (span : OffsetSpan) : span.blueprint.Stems TellLabel :=
  stems_of_builds span.builds

theorem Literal.stems (value : Literal) : value.blueprint.Stems TellLabel := by
  cases value <;> exact stems_here fun _ => ⟨_, rfl⟩

mutual

theorem Expr.stems : (e : Expr) → e.blueprint.Stems TellLabel
  | .empty span | .implicitReceiver span | .thisReceiver span =>
    stems_node ⟨.none, .offsetSpan _ _⟩ (by simp) (by simp [span.stems])
  | .literal span value =>
    stems_node ⟨.none, .offsetSpan _ _⟩ (by simp) (by simp [span.stems, value.stems])
  | .propertyRead span receiver name =>
    stems_node ⟨.none, .offsetSpan _ _⟩ (by simp)
      (by simp [span.stems, receiver.stems, stems_text])
  | .keyedRead span receiver key =>
    stems_node ⟨.none, .offsetSpan _ _⟩ (by simp)
      (by simp [span.stems, receiver.stems, key.stems])
  | .call span receiver args =>
    stems_node ⟨.none, .offsetSpan _ _⟩ (by simp)
      (by simp [span.stems, receiver.stems, stems_list (stems_exprs args)])
  | .binary span op left right =>
    stems_node ⟨.none, .offsetSpan _ _⟩ (by simp)
      (by simp [span.stems, stems_str, left.stems, right.stems])
  | .conditional span condition whenTrue whenFalse =>
    stems_node ⟨.none, .offsetSpan _ _⟩ (by simp)
      (by simp [span.stems, condition.stems, whenTrue.stems, whenFalse.stems])
  | .not span operand =>
    stems_node ⟨.none, .offsetSpan _ _⟩ (by simp) (by simp [span.stems, operand.stems])
  | .pipe span operand name args =>
    stems_node ⟨.none, .offsetSpan _ _⟩ (by simp)
      (by simp [span.stems, operand.stems, stems_text, stems_list (stems_exprs args)])

theorem stems_exprs : (es : List Expr) → ∀ b ∈ exprBlueprints es, b.Stems TellLabel
  | [] => fun _ h => nomatch h
  | e :: rest => List.forall_mem_cons.mpr ⟨e.stems, stems_exprs rest⟩

end

theorem Bound.stems (bound : Bound) : bound.blueprint.Stems TellLabel := by
  cases bound with
  | expression e => exact e.stems
  | interpolation span strings expressions =>
    exact stems_node ⟨.none, .offsetSpan _ _⟩ (by simp)
      (by simp [span.stems, stems_mapped stems_text, stems_list (stems_exprs expressions)])

theorem Binding.stems (binding : Binding) : binding.blueprint.Stems TellLabel :=
  stems_node ⟨.none, .offsetSpan _ _⟩ (by simp)
    (by simp [binding.span.stems, binding.bound.stems, stems_text, stems_str, stems_int])

theorem TextAttribute.stems (a : TextAttribute) : a.blueprint.Stems TellLabel :=
  stems_node ⟨.none, .span _⟩ (by simp) (by simp [stems_text, stems_span, stems_optionalSpan])

theorem BoundAttribute.stems (a : BoundAttribute) : a.blueprint.Stems TellLabel := by
  have hkind : TellsKind (some a.kind.blueprint) ∧ a.kind.blueprint.Stems TellLabel := by
    cases a.kind <;> exact ⟨.member (by decide), stems_enum _ _ _⟩
  exact stems_node ⟨hkind.1, .span _⟩ (by simp)
    (by simp [stems_text, hkind.2, a.value.stems, stems_span, stems_optionalSpan])

theorem BoundEvent.stems (e : BoundEvent) : e.blueprint.Stems TellLabel := by
  have hkind : TellsKind (some e.kind.blueprint) ∧ e.kind.blueprint.Stems TellLabel := by
    cases e.kind <;> exact ⟨.member (by decide), stems_enum _ _ _⟩
  exact stems_node ⟨hkind.1, .span _⟩ (by simp)
    (by simp [stems_text, hkind.2, e.handler.stems, stems_span, stems_optionalSpan])

theorem Reference.stems (r : Reference) : r.blueprint.Stems TellLabel :=
  stems_node ⟨.none, .span _⟩ (by simp) (by simp [stems_text, stems_span])

theorem Variable.stems (v : Variable) : v.blueprint.Stems TellLabel :=
  stems_node ⟨.none, .span _⟩ (by simp) (by simp [stems_text, stems_span])

mutual

theorem Node.stems : (node : Node) → node.blueprint.Stems TellLabel
  | .text value span =>
    stems_node ⟨.none, .span _⟩ (by simp) (by simp [stems_text, stems_span])
  | .boundText value span =>
    stems_node ⟨.none, .span _⟩ (by simp) (by simp [value.stems, stems_span])
  | .element head children =>
    stems_node ⟨.none, .span _⟩ (by simp [TagSpans.fields])
      (by simp [stems_text, TagSpans.fields, stems_span, stems_optionalSpan,
        stems_mapped TextAttribute.stems, stems_mapped BoundAttribute.stems,
        stems_mapped BoundEvent.stems, stems_mapped Reference.stems,
        stems_list (stems_nodes children)])
  | .template head children =>
    stems_node ⟨.none, .span _⟩ (by simp [TagSpans.fields])
      (by simp [stems_text, TagSpans.fields, stems_span, stems_optionalSpan,
        stems_mapped TextAttribute.stems, stems_mapped BoundAttribute.stems,
        stems_mapped BoundEvent.stems, stems_mapped Reference.stems,
        stems_mapped Variable.stems, stems_list (stems_nodes children)])

theorem stems_nodes : (nodes : List Node) → ∀ b ∈ nodeBlueprints nodes, b.Stems TellLabel
  | [] => fun _ h => nomatch h
  | node :: rest => List.forall_mem_cons.mpr ⟨node.stems, stems_nodes rest⟩

end

theorem CommentToken.stems (token : CommentToken) : token.blueprint.Stems TellLabel :=
  stems_node ⟨.text _, .none⟩ (by simp)
    (by simp [stems_str, stems_text, stems_of_builds (builds_loc token.loc), stems_tuple,
      stems_int])

theorem Program.stems (program : Program) : program.blueprint.Stems TellLabel :=
  stems_node ⟨.text _, .none⟩ (by simp)
    (by simp [stems_text, stems_list (stems_nodes program.nodes), stems_mapped CommentToken.stems,
      stems_list, stems_tuple, stems_int, stems_of_builds (builds_loc program.loc), stems_str])

theorem Program.exists_fields {source : Source} {program : Program} {value : Value} {site : Site}
    (hb : (Site.ofSource source).build program.blueprint = (value, site)) {i : RecordId}
    {record : Record} {name : String} (hr : site.graph.records[i]? = some record)
    (ht : record.type = .node name) :
    ∃ fields, TellLabel fields ∧ site.graph.ShowsFields fields record.fields := by
  obtain ⟨first, htype, -, -, hsource⟩ := Site.ofSource_eq source
  obtain ⟨_, records, hb', hs⟩ := program.stems (Site.ofSource source)
  rw [hb] at hb'
  cases hb'
  rw [hsource] at hr hs ⊢
  cases i with
  | zero =>
    have hfirst : first = record := by simpa [Site.extend] using hr
    rw [← hfirst, htype] at ht
    cases ht
  | succ i =>
    have hget : records[i]? = some record := by
      simpa [Site.extend, Array.getElem?_append] using hr
    exact hs _ (Site.hasAt_extend _ records) record (List.mem_of_getElem? hget) name ht

end TemplateTree
