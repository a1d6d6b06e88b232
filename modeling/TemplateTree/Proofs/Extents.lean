import TemplateTree.Proofs.Analysis
import TemplateTree.Proofs.Rows

/-!
# The extent of a document

A document is measured from its first to its last node: what lies outside are
margins of comments and dropped blanks. The record at the root of an analyzed
tree tells this place.
-/

namespace TemplateTree

open Text (Chars)
open Expression (exists_ok_of_isOk)
open Markup

-- ---------------------------------------------------------------------------
-- Measuring a row
-- ---------------------------------------------------------------------------

theorem foldl_earlier {best : Span} {spans : List Span}
    (h : ∀ span ∈ spans, best.start.offset ≤ span.start.offset) :
    spans.foldl earlier (some best) = some best := by
  induction spans with
  | nil => rfl
  | cons span rest ih =>
    obtain ⟨hspan, hrest⟩ := List.forall_mem_cons.mp h
    rw [List.foldl_cons, earlier, if_neg (Nat.not_lt.mpr hspan), ih hrest]

theorem mem_of_foldl_later {best : Option Span} {spans : List Span} {span : Span}
    (h : spans.foldl later best = some span) : span ∈ spans ∨ best = some span := by
  induction spans generalizing best with
  | nil => exact .inr h
  | cons first rest ih =>
    rcases ih h with hm | hb
    · exact .inl (.tail _ hm)
    · cases best with
      | none =>
        cases hb
        exact .inl (.head _)
      | some best =>
        rw [later] at hb
        split at hb
        · cases hb
          exact .inl (.head _)
        · exact .inr hb

theorem foldl_later_snoc {last : Span} {spans : List Span}
    (h : ∀ span ∈ spans, span.stop.offset < last.stop.offset) :
    (spans ++ [last]).foldl later none = some last := by
  rw [List.foldl_append, List.foldl_cons, List.foldl_nil]
  cases hbest : spans.foldl later none with
  | none => rfl
  | some best =>
    rcases mem_of_foldl_later hbest with hm | hnone
    · rw [later, if_pos (h best hm)]
    · cases hnone

section
variable {source : Source} {skips : Piece → Prop} {lo hi : Nat} {nodes : List Node}
variable {node first last : Node}

theorem Node.AllSpansFit.of_mem (h : AllSpansFit source nodes) (hm : node ∈ nodes) :
    node.SpansFit source := by
  induction nodes with
  | nil => cases hm
  | cons first rest ih =>
    rcases List.mem_cons.mp hm with rfl | hr
    · exact h.1
    · exact ih h.2 hr

theorem TagSpans.Fit.exposes {name : Chars} {spans : TagSpans} (h : spans.Fit source name) :
    (∃ span, spans.exposed.startSpan? = some span ∧ span.start = spans.whole.start) ∧
      ∃ span, spans.exposed.stopSpan? = some span ∧ span.stop = spans.whole.stop := by
  refine ⟨⟨spans.opening, rfl, by rw [h.whole]⟩, ?_⟩
  cases hc : spans.closing with
  | none => exact ⟨spans.whole, by simp [TagSpans.exposed, Exposed.stopSpan?, hc], rfl⟩
  | some closing =>
    refine ⟨closing, by simp [TagSpans.exposed, Exposed.stopSpan?, hc], ?_⟩
    rw [h.whole, hc]
    rfl

theorem Node.SpansFit.exposes (h : node.SpansFit source) :
    (∃ span, node.exposed.startSpan? = some span ∧ span.start = node.span.start) ∧
      ∃ span, node.exposed.stopSpan? = some span ∧ span.stop = node.span.stop := by
  cases node with
  | text value span | boundText value span => exact ⟨⟨span, rfl, rfl⟩, span, rfl, rfl⟩
  | element head children => exact TagSpans.Fit.exposes h.1
  | template head children => exact TagSpans.Fit.exposes h.1

theorem earliestSpan?_of_row (hrow : Node.Row source skips lo (first :: nodes) hi)
    (hfit : Node.AllSpansFit source (first :: nodes)) :
    ∃ span, earliestSpan? ((first :: nodes).map Node.exposed) = some span ∧
      span.start = first.span.start := by
  obtain ⟨span, hspan, hstart⟩ := (hfit.of_mem (.head _)).exposes.1
  refine ⟨span, ?_, hstart⟩
  rw [earliestSpan?, List.map_cons, List.filterMap_cons_some hspan]
  refine foldl_earlier fun other ho => ?_
  obtain ⟨_, hm, hother⟩ := List.mem_filterMap.mp ho
  obtain ⟨node, hnode, rfl⟩ := List.mem_map.mp hm
  obtain ⟨_, hexp, hs⟩ := (hfit.of_mem (.tail _ hnode)).exposes.1
  cases hother.symm.trans hexp
  rw [hs, hstart]
  have hlater := (hrow.2.2.2.bounds.2 node hnode).1
  have hlt := hrow.2.2.1
  omega

theorem latestSpan?_of_row (hrow : Node.Row source skips lo (nodes ++ [last]) hi)
    (hfit : Node.AllSpansFit source (nodes ++ [last])) :
    ∃ span, latestSpan? ((nodes ++ [last]).map Node.exposed) = some span ∧
      span.stop = last.span.stop := by
  have hlast : last ∈ nodes ++ [last] := List.mem_append_right _ (.head _)
  obtain ⟨span, hspan, hstop⟩ := (hfit.of_mem hlast).exposes.2
  obtain ⟨hbefore, -, hlt, -⟩ := Node.row_snoc.mp hrow
  refine ⟨span, ?_, hstop⟩
  rw [latestSpan?, List.map_append, List.filterMap_append, List.map_singleton,
    List.filterMap_cons_some hspan, List.filterMap_nil]
  refine foldl_later_snoc fun other ho => ?_
  obtain ⟨_, hm, hother⟩ := List.mem_filterMap.mp ho
  obtain ⟨node, hnode, rfl⟩ := List.mem_map.mp hm
  obtain ⟨_, hexp, hs⟩ := (hfit.of_mem (List.mem_append_left _ hnode)).exposes.2
  cases hother.symm.trans hexp
  rw [hs, hstop]
  have hearlier := (hbefore.bounds.2 node hnode).2.2
  omega

end

/-- The document is measured from its first to its last node, and what lies
outside are margins. -/
structure Program.Measured (program : Program) (source : Source) (dropsBlanks : Bool) : Prop where
  empty : program.nodes = [] → program.range = (0, 0) ∧ program.loc = ⟨⟨0, 0⟩, ⟨0, 0⟩⟩
  ends : ∀ first ∈ program.nodes.head?, ∀ last ∈ program.nodes.getLast?,
    program.range = (first.span.start.offset, last.span.stop.offset)
  bounded : program.nodes ≠ [] →
    program.range.1 < program.range.2 ∧ program.range.2 ≤ source.text.length
  located : program.nodes ≠ [] → program.loc =
    ⟨(source.locate program.range.1).toPosition, (source.locate program.range.2).toPosition⟩
  before : Margin dropsBlanks (source.text.take program.range.1)
  after : Margin dropsBlanks (source.text.drop program.range.2)
  whole : dropsBlanks = false → (∀ value, .construct (.comment value) ∉ pieces source.text) →
    source.text ≠ [] → program.range = (0, source.text.length)

theorem Extent.ofNodes?_of_row {source : Source} {skips : Piece → Prop} {lo hi : Nat}
    {nodes : List Node} {first last : Node} (hrow : Node.Row source skips lo nodes hi)
    (hfit : Node.AllSpansFit source nodes) (hfirst : nodes.head? = some first)
    (hlast : nodes.getLast? = some last) :
    ∃ extent, Extent.ofNodes? (nodes.map Node.exposed) = some extent ∧
      extent.first.start = first.span.start ∧ extent.last.stop = last.span.stop := by
  obtain ⟨rest, hr⟩ := List.head?_eq_some_iff.mp hfirst
  obtain ⟨front, hf⟩ := List.getLast?_eq_some_iff.mp hlast
  obtain ⟨start, hs, hstart⟩ := earliestSpan?_of_row (hr ▸ hrow) (hr ▸ hfit)
  obtain ⟨stop, ht, hstop⟩ := latestSpan?_of_row (hf ▸ hrow) (hf ▸ hfit)
  rw [← hr] at hs
  rw [← hf] at ht
  exact ⟨⟨start, stop⟩, by simp [Extent.ofNodes?, hs, ht], hstart, hstop⟩

theorem Program.measured {code : Chars} {url : String} {options : ParseOptions}
    {parsed : ParsedTemplate} (h : parseTemplate code url options = .ok parsed) :
    (Program.ofTemplate code parsed).Measured (Source.ofText code url)
      (!options.preserveWhitespaces) := by
  obtain ⟨hrow, hfit⟩ := parseTemplate_row h
  have hnone : (!options.preserveWhitespaces) = false →
      (∀ value, .construct (.comment value) ∉ pieces code) →
      ∀ piece : Piece, ¬ piece.Skipped code (!options.preserveWhitespaces) := by
    rintro hw hc piece ⟨hm, ⟨value, rfl⟩ | ⟨hd, -⟩⟩
    · exact hc value hm
    · rw [hw] at hd
      cases hd
  by_cases hempty : parsed.nodes = []
  · have hprogram : Program.ofTemplate code parsed =
        ⟨code, [], CommentToken.ofComments (parsed.comments.getD []), (0, 0), {}⟩ := by
      simp only [Program.ofTemplate, hempty]
      rfl
    rw [hempty] at hrow
    rw [hprogram]
    refine ⟨fun _ => ⟨rfl, rfl⟩, by simp, by simp, by simp, .nil, Gap.margin_after hrow, ?_⟩
    intro hw hc hne
    exact absurd (Gap.eq hrow (hnone hw hc)).symm (by simpa [Source.ofText] using hne)
  · obtain ⟨first, hfirst⟩ := Option.isSome_iff_exists.mp (List.isSome_head?.mpr hempty)
    obtain ⟨last, hlast⟩ := Option.isSome_iff_exists.mp (List.getLast?_isSome.mpr hempty)
    obtain ⟨extent, hextent, hstart, hstop⟩ := Extent.ofNodes?_of_row hrow hfit hfirst hlast
    obtain ⟨hbefore, hafter, hlt, hlfirst, hllast⟩ := hrow.ends hfirst hlast
    have hprogram : Program.ofTemplate code parsed =
        ⟨code, parsed.nodes, CommentToken.ofComments (parsed.comments.getD []),
          (first.span.start.offset, last.span.stop.offset),
          ⟨first.span.start.toPosition, last.span.stop.toPosition⟩⟩ := by
      simp only [Program.ofTemplate, hextent, Option.map_some, Option.getD_some, Extent.range,
        Extent.loc, hstart, hstop]
    rw [hprogram]
    refine ⟨fun hn => absurd hn hempty, ?_, fun _ => ⟨hlt, hafter.le⟩, fun _ => ?_,
      hbefore.margin_before, hafter.margin_after, fun hw hc _ => ?_⟩
    · rw [hfirst, hlast]
      rintro _ ⟨⟩ _ ⟨⟩
      rfl
    · rw [hlfirst, hllast]
    · rw [← hbefore.eq (hnone hw hc), hafter.eq (hnone hw hc)]
      rfl

-- ---------------------------------------------------------------------------
-- The record of a document
-- ---------------------------------------------------------------------------

def Graph.IsPosition (graph : Graph) (value : Value) (position : Position) : Prop :=
  graph.get value "line" = .int position.line ∧ graph.get value "column" = .int position.column

structure Graph.TellsPlace (graph : Graph) (root : Value) (program : Program) : Prop where
  nodes : ∃ items, graph.get root "template_nodes" = .list items ∧
    items.length = program.nodes.length
  range : graph.get root "range" = .tuple [.int program.range.1, .int program.range.2]
  start : graph.IsPosition (graph.get (graph.get root "loc") "start") program.loc.start
  stop : graph.IsPosition (graph.get (graph.get root "loc") "end") program.loc.stop

theorem exists_lookup_of_shows {graph : Graph} {fields : List (String × Blueprint)}
    {values : Fields} {name : String} {blueprint : Blueprint}
    (h : List.Forall₂ (fun field value => field.1 = value.1 ∧ graph.Shows field.2 value.2)
      fields values) (hl : fields.lookup name = some blueprint) :
    ∃ value, values.lookup name = some value ∧ graph.Shows blueprint value := by
  induction h with
  | nil => cases hl
  | @cons field value fields values hfirst _ ih =>
    obtain ⟨key, first⟩ := field
    obtain ⟨_, value⟩ := value
    obtain ⟨rfl, hshows⟩ := hfirst
    by_cases hname : name = key
    · subst hname
      rw [List.lookup_cons_self] at hl ⊢
      cases hl
      exact ⟨value, rfl, hshows⟩
    · rw [List.lookup_cons, beq_false_of_ne hname] at hl ⊢
      exact ih hl

theorem length_buildList (items : List Blueprint) (site : Site) :
    (site.buildList items).1.length = items.length := by
  induction items generalizing site with
  | nil => rfl
  | cons item rest ih => simp [Site.buildList, ih]

theorem length_nodeBlueprints (nodes : List Node) :
    (nodeBlueprints nodes).length = nodes.length := by
  induction nodes with
  | nil => rfl
  | cons node rest ih => simp [nodeBlueprints, ih]

theorem Site.hasAt_extend (site : Site) (records : List Record) :
    (site.extend records).graph.HasAt site.graph.size records := by
  intro i record hi
  simpa [Site.extend, Graph.size, Array.getElem?_append] using hi

theorem Site.extend_inj {site : Site} {records more : List Record}
    (h : site.extend records = site.extend more) : records = more := by
  have hlist := congrArg (fun site : Site => site.graph.records.toList) h
  simpa [Site.extend] using hlist

section
variable {graph after : Graph} {value : Value}

theorem Graph.Shows.list {items : List Blueprint} (h : graph.Shows (.list items) value) :
    ∃ values, value = .list values ∧ values.length = items.length := by
  obtain ⟨site, records, hb, -⟩ := h
  exact ⟨(site.buildList items).1, (congrArg Prod.fst hb).symm, length_buildList items site⟩

theorem Graph.Shows.range {first last : Int}
    (h : graph.Shows (.tuple [.int first, .int last]) value) :
    value = .tuple [.int first, .int last] := by
  obtain ⟨site, records, hb, -⟩ := h
  exact (congrArg Prod.fst hb).symm

theorem Graph.Shows.loc {loc : Loc} (h : graph.Shows (.loc loc) value) :
    graph.IsPosition (graph.get value "start") loc.start ∧
      graph.IsPosition (graph.get value "end") loc.stop := by
  obtain ⟨site, records, hb, hat⟩ := h
  rw [Site.build_loc] at hb
  obtain ⟨rfl, hextend⟩ := Prod.mk.inj hb
  rw [← Site.extend_inj hextend] at hat
  have hstart := Graph.get_of_get hat.tail.tail.head "start"
  have hstop := Graph.get_of_get hat.tail.tail.head "end"
  refine ⟨?_, ?_⟩
  · rw [hstart]
    exact ⟨Graph.get_of_get hat.head "line", Graph.get_of_get hat.head "column"⟩
  · rw [hstop]
    exact ⟨Graph.get_of_get hat.tail.head "line", Graph.get_of_get hat.tail.head "column"⟩

theorem Graph.Extends.get_eq (h : Graph.Extends graph after) {name : String} (hk : name ≠ "kind")
    (ho : name ≠ "original_kind") (value : Value) : after.get value name = graph.get value name := by
  cases value with
  | ref id =>
    have hfields : (after.fields id).lookup name = (graph.fields id).lookup name := by
      rcases h id with heq | heq
      · simp only [Graph.fields, heq]
      · simp only [Graph.fields, heq]
        cases graph.records[id]? with
        | none => rfl
        | some record => exact Record.lookup_stamp_of_ne hk ho
    simp only [Graph.get, Graph.fieldsOf, hfields]
  | _ => rfl

theorem Graph.TellsPlace.extends {program : Program} {root : Value}
    (ht : graph.TellsPlace root program) (h : Graph.Extends graph after) :
    after.TellsPlace root program := by
  have hget : ∀ name ∈ ["template_nodes", "range", "loc", "start", "end", "line", "column"],
      ∀ value, after.get value name = graph.get value name := by
    intro name hm value
    refine h.get_eq ?_ ?_ value <;> rintro rfl <;> revert hm <;> decide
  constructor
  · simpa only [hget "template_nodes" (by decide)] using ht.nodes
  · simpa only [hget "range" (by decide)] using ht.range
  · simpa only [Graph.IsPosition, hget "loc" (by decide), hget "start" (by decide),
      hget "line" (by decide), hget "column" (by decide)] using ht.start
  · simpa only [Graph.IsPosition, hget "loc" (by decide), hget "end" (by decide),
      hget "line" (by decide), hget "column" (by decide)] using ht.stop

end

theorem Program.tellsPlace (program : Program) (site : Site) :
    ∃ site', site.build program.blueprint = (.ref site.graph.size, site') ∧
      site'.graph.TellsPlace (.ref site.graph.size) program := by
  obtain ⟨slots, fields, hs, hb, hf⟩ := program.buildsFields
  obtain ⟨values, records, hbuild, -, hshows⟩ := build_node hs hf site
  have hat := site.hasAt_extend (⟨.node "Program", values⟩ :: records)
  have hlookup : ∀ name blueprint, fields.lookup name = some blueprint →
      (site.extend (⟨.node "Program", values⟩ :: records)).graph.Shows blueprint
        ((site.extend (⟨.node "Program", values⟩ :: records)).graph.get
          (.ref site.graph.size) name) := by
    intro name blueprint hl
    obtain ⟨value, hv, hshow⟩ := exists_lookup_of_shows (hshows _ hat.tail) hl
    rw [Graph.get_of_get hat.head, hv]
    exact hshow
  cases hb
  refine ⟨_, hbuild, ?_, ?_, ?_, ?_⟩
  · obtain ⟨items, hitems, hlen⟩ := (hlookup "template_nodes" _ rfl).list
    exact ⟨items, hitems, hlen.trans (length_nodeBlueprints _)⟩
  · exact (hlookup "range" _ rfl).range
  · exact (hlookup "loc" _ rfl).loc.1
  · exact (hlookup "loc" _ rfl).loc.2

/-- The document range is the extent of the template: an analyzed template is
measured from its first to its last node, and its record tells this place. -/
theorem analyze_measured {code : Chars} {path : String} {config : Config} {analysis : Analysis}
    (h : analyze code path config = .ok analysis) :
    analysis.program.Measured (Source.ofText code path) (!config.preserveWhitespaces) ∧
      analysis.graph.TellsPlace analysis.root analysis.program := by
  cases hparse : parseTemplate code path config.parseOptions with
  | error error => simp [analyze, hparse] at h
  | ok parsed =>
    obtain ⟨site, hbuild, hshaped⟩ := Program.shaped parsed.source (Program.ofTemplate code parsed)
    obtain ⟨site', hbuild', htells⟩ := (Program.ofTemplate code parsed).tellsPlace
      (Site.ofSource parsed.source)
    rw [hbuild] at hbuild'
    cases hbuild'
    obtain ⟨after, hdone, hs⟩ := hshaped.exists_done config.missingChild
    rw [analyze, hparse] at h
    simp only [Analysis.ofTemplate_of_done hbuild hdone] at h
    cases h
    exact ⟨Program.measured hparse, htells.extends hs.grown⟩

/-- Blanks and comments around a wrapped element and a void one. -/
theorem analyze_measured_margins :
    let code := " <!-- > --> <p *a=\"b\">\n</p><br> <!---->".toList
    let config : Config := { preserveWhitespaces := false, collectComments := false }
    ∃ analysis, analyze code "t.html" config = .ok analysis ∧
      analysis.program.range = (12, 31) ∧
      analysis.program.Measured (Source.ofText code "t.html") true ∧
      analysis.graph.TellsPlace analysis.root analysis.program := by
  intro code config
  have hrange : (analyze code "t.html" config).toOption.map (·.program.range) =
      some (12, 31) := by decide +kernel
  obtain ⟨analysis, h⟩ : ∃ analysis, analyze code "t.html" config = .ok analysis :=
    exists_ok_of_isOk (by decide +kernel)
  rw [h] at hrange
  obtain ⟨hmeasured, htells⟩ := analyze_measured h
  exact ⟨analysis, h, Option.some.inj hrange, hmeasured, htells⟩

end TemplateTree
