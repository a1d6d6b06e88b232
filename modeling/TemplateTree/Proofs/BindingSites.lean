import TemplateTree.Proofs.Delimiters
import TemplateTree.Proofs.Offsets
import TemplateTree.Proofs.Options
import TemplateTree.Proofs.Roundtrip

/-!
# Expressions at their sites

An expression is read alike wherever it may stand in a template: as the value of
a property, of an event or of a directive, between the markers of a plain value
or between those of a text. What differs is the mark that ends it there.
-/

namespace TemplateTree

open Text (Chars isBlank)
open Expression

-- ---------------------------------------------------------------------------
-- Between markers
-- ---------------------------------------------------------------------------

def marked (source : Chars) : Chars := Segments.opening ++ (source ++ Segments.closing)

theorem marked_ne_nil (source : Chars) : marked source ≠ [] := List.cons_ne_nil _ _

theorem not_mem_marked {source : Chars} {c : Char} (h : c ∉ source)
    (hc : c ∉ Segments.opening ++ Segments.closing) : c ∉ marked source := by
  simp only [marked, List.mem_append, not_or] at hc ⊢
  exact ⟨hc.1, h, hc.2⟩

section
variable {source before rest : Chars} {pos : Int} {ts : List Token}

theorem Segments.ofText_marked
    (h : Text.cutAt? Segments.closing (source ++ Segments.closing) = some (before, rest)) :
    Segments.ofText (marked source) = .marker [] before (Segments.ofText rest) := by
  have hopen : Text.cutAt? Segments.opening (marked source) =
      some ([], source ++ Segments.closing) := by
    simp [marked, Segments.opening, Text.cutAt?]
  exact Segments.ofText_of_cuts hopen h

/-- The closing mark behind a text is found there, unless the text ends with half of
one or has one inside. -/
theorem cutAt?_closing (source : Chars) : ∃ before rest,
    Text.cutAt? Segments.closing (source ++ Segments.closing) = some (before, rest) ∧
      (before = source ∧ rest = [] ∨ source = before ++ ['\x7d'] ∨
        ∃ after, source = before ++ (Segments.closing ++ after)) := by
  have hsome : Text.contains Segments.closing (source ++ Segments.closing) = true :=
    Markup.contains_iff_infix.mpr (List.suffix_append _ _).isInfix
  obtain ⟨⟨before, rest⟩, hcut⟩ := Option.isSome_iff_exists.mp hsome
  refine ⟨before, rest, hcut, ?_⟩
  have hwhole := Text.cutAt?_eq_some hcut
  rw [List.append_assoc] at hwhole
  rcases List.append_eq_append_iff.mp hwhole with ⟨split, hb, hc⟩ | ⟨split, hs, hc⟩
  · have hlen := congrArg List.length hc
    simp only [List.length_append] at hlen
    obtain rfl : split = [] := List.eq_nil_of_length_eq_zero (by omega)
    obtain rfl : rest = [] := List.eq_nil_of_length_eq_zero (by omega)
    exact .inl ⟨by simpa using hb, rfl⟩
  · rcases split with - | ⟨c, - | ⟨d, after⟩⟩
    · exact .inl ⟨by simpa using hs.symm, by simpa using hc⟩
    · obtain ⟨rfl, -⟩ := List.cons.inj hc
      exact .inr (.inl hs)
    · obtain ⟨rfl, htail⟩ := List.cons.inj hc
      obtain ⟨rfl, -⟩ := List.cons.inj htail
      exact .inr (.inr ⟨after, hs⟩)

theorem cutAt?_closing_cases (h : Cuts pos source ts) (hq : '\x22' ∉ source) :
    (¬ Segments.closing <:+: source ∧
      Text.cutAt? Segments.closing (source ++ Segments.closing) = some (source, [])) ∨
    (Segments.closing <:+: source ∧ ∃ before rest,
      Text.cutAt? Segments.closing (source ++ Segments.closing) = some (before, rest) ∧
        before <+: source ∧ before.count '\x27' % 2 = 1) := by
  obtain ⟨before, rest, hcut, ⟨rfl, rfl⟩ | hs | ⟨after, hs⟩⟩ := cutAt?_closing source
  · exact .inl ⟨Text.not_infix_of_cutAt? (by decide) hcut, hcut⟩
  · -- The quote that is open before the brace would never be closed.
    have hodd := h.odd_quotes hq (by decide) hs
    have heven := h.even_quotes hq
    rw [hs, List.count_append, List.count_singleton] at heven
    simp at heven
    omega
  · refine .inr ⟨⟨before, after, by simp [hs]⟩, before, rest, hcut, hs ▸ List.prefix_append _ _, ?_⟩
    exact h.odd_quotes hq (by decide) hs

end

namespace Markup

-- ---------------------------------------------------------------------------
-- Clauses
-- ---------------------------------------------------------------------------

theorem le_of_mem_clauseRuns (pos : Nat) (text : Chars) :
    ∀ run ∈ clauseRuns pos text, pos ≤ run.1 := by
  fun_induction clauseRuns pos text with
  | case1 => simp
  | case2 pos c rest _ ih => exact fun run hr => Nat.le_of_succ_le (ih run hr)
  | case3 pos c rest _ start run more heq _ ih =>
    rw [heq, List.forall_mem_cons] at ih
    exact List.forall_mem_cons.mpr ⟨Nat.le_refl pos, fun run hr => Nat.le_of_succ_le (ih.2 run hr)⟩
  | case4 pos c rest _ start run more heq _ ih =>
    rw [heq] at ih
    exact List.forall_mem_cons.mpr ⟨Nat.le_refl pos, fun run hr => Nat.le_of_succ_le (ih run hr)⟩
  | case5 => simp

theorem clauseRuns_append {run after : Chars} (hne : run ≠ []) (hrun : ';' ∉ run)
    (hafter : ∀ c ∈ after.head?, c = ';') (pos : Nat) :
    clauseRuns pos (run ++ after) = (pos, run) :: clauseRuns (pos + run.length) after := by
  induction run generalizing pos with
  | nil => exact absurd rfl hne
  | cons c rest ih =>
    rw [List.mem_cons, not_or] at hrun
    have hc : (c == ';') = false := by simpa using Ne.symm hrun.1
    cases rest with
    | nil =>
      rw [List.singleton_append, List.length_singleton, clauseRuns, hc]
      cases hnext : clauseRuns (pos + 1) after with
      | nil => rfl
      | cons next more =>
        obtain ⟨start, text⟩ := next
        -- The next run begins behind the semicolon.
        have hstart : pos + 1 < start := by
          cases after with
          | nil => cases hnext
          | cons d after =>
            obtain rfl : d = ';' := hafter d rfl
            have hruns : clauseRuns (pos + 1 + 1) after = (start, text) :: more := hnext
            have hle := le_of_mem_clauseRuns (pos + 1 + 1) after
            rw [hruns] at hle
            exact hle _ (.head _)
        have hapart : (start == pos + 1) = false := by simpa using Nat.ne_of_gt hstart
        simp [hapart]
    | cons d more =>
      rw [List.cons_append, clauseRuns, ih (by simp) hrun.2, hc]
      simp [Nat.add_comm, Nat.add_left_comm]

theorem count_dropWhile {c : Char} (hc : isBlank c = false) (text : Chars) :
    (text.dropWhile isBlank).count c = text.count c := by
  induction text with
  | nil => rfl
  | cons d rest ih =>
    rw [List.dropWhile_cons]
    split
    · rename_i hd
      have hne : d ≠ c := by
        rintro rfl
        rw [hc] at hd
        cases hd
      rw [ih, List.count_cons_of_ne hne]
    · rfl

theorem count_trim {c : Char} (hc : isBlank c = false) (text : Chars) :
    (Text.trim text).count c = text.count c := by
  rw [Text.trim, Text.trimRight, List.count_reverse, count_dropWhile hc, List.count_reverse,
    Text.trimLeft, count_dropWhile hc]

section
variable {offset : Int} {run after source : Chars} {ts : List Token} {e : Expr}

theorem plain_first (h : Forms (run ++ after) offset ts e) (hne : Text.trim run ≠ []) :
    Clause.ofText true (Text.trim run) = .plain := by
  have hleft : Text.trimLeft run ≠ [] := by
    intro hnil
    rw [Text.trim, hnil] at hne
    exact hne rfl
  obtain ⟨trail, htrail⟩ : Text.trim run <+: Text.trimLeft run := List.rdropWhile_prefix isBlank _
  have htext : Text.trimLeft (run ++ after) = Text.trim run ++ (trail ++ after) := by
    rw [Text.trimLeft, List.dropWhile_append, if_neg (by simpa [Text.trimLeft] using hleft),
      ← List.append_assoc, htrail]
    rfl
  have hcut := h.1.trimLeft h.2.ne_nil
  rw [htext] at hcut
  exact hcut.plain_clause (by simp [h.2.run_tokens])

theorem trim_ne_nil (h : Forms source offset ts e) : Text.trim source ≠ [] := by
  have hblank := ((h.1.trimLeft h.2.ne_nil).trimRight).not_allBlank h.2.ne_nil
  intro hnil
  rw [show Text.trimRight (Text.trimLeft source) = [] from hnil] at hblank
  cases hblank

theorem clauseRuns_of_not_mem (h : Forms source offset ts e) (hs : ';' ∉ source) :
    clauseRuns 0 source = [(0, source)] := by
  have hne : source ≠ [] := by
    rintro rfl
    exact trim_ne_nil h rfl
  have hruns := clauseRuns_append hne hs (by simp : ∀ c ∈ [].head?, c = ';') 0
  rwa [List.append_nil] at hruns

/-- A semicolon in an expression leaves a quote open in the clause before it. -/
theorem exists_open_source (h : Forms source offset ts e) (hq : '\x22' ∉ source)
    (hs : ';' ∈ source) :
    ∃ s ∈ directiveSources source, '\x22' ∉ s ∧ s.count '\x27' % 2 = 1 := by
  obtain ⟨run, after, rfl, hrun⟩ := List.eq_append_cons_of_mem hs
  have hodd : (Text.trim run).count '\x27' % 2 = 1 := by
    rw [count_trim (by decide)]
    exact h.1.odd_quotes hq (by decide) rfl
  have hdouble : '\x22' ∉ Text.trim run := by
    rw [← List.count_eq_zero, count_trim (by decide), List.count_eq_zero]
    exact fun hm => hq (List.mem_append_left _ hm)
  have htrim : Text.trim run ≠ [] := by
    intro hnil
    rw [hnil] at hodd
    cases hodd
  have hne : run ≠ [] := by
    rintro rfl
    exact htrim rfl
  refine ⟨Text.trim run, ?_, hdouble, hodd⟩
  rw [directiveSources, clauseRuns_append hne hrun (by simp), numbered, List.flatMap_cons]
  refine List.mem_append_left _ ?_
  simp [runSources, htrim, plain_first h htrim, Clause.sources]

end

-- ---------------------------------------------------------------------------
-- Entries
-- ---------------------------------------------------------------------------

section
variable {source : Source} {value : Chars} {pos : Nat} {expr : Expr}

theorem bindAt_of_parse (h : Expr.parse value pos = .ok expr) :
    ∃ binding, bindAt source value pos = .ok (binding, []) ∧ binding.bound = .expression expr := by
  refine ⟨⟨⟨pos, pos + value.length⟩, .expression expr, value, source.locationName pos, pos⟩, ?_,
    rfl⟩
  simp only [bindAt, Binding.parse, h]
  rfl

theorem directiveEntries_of_parse {attr : PlacedAttribute} (directive : Chars)
    (hb : Text.allBlank attr.value = false) (hs : ';' ∉ attr.value)
    (h : Expr.parse attr.value attr.valueStart = .ok expr) :
    ∃ binding, binding.bound = .expression expr ∧ directiveEntries source directive attr =
      .ok ({ templateAttrs := [⟨directive, .property, binding, attr.span, none⟩] }, []) := by
  have ha : Accepted attr.value := (exists_parse_eq_ok _ _).mp ⟨expr, h⟩
  obtain ⟨ts, e, hf⟩ := exists_forms hb ha attr.valueStart
  rw [← Expr.parse_trim hb ha, ← Int.natCast_add] at h
  obtain ⟨binding, hbind, hbound⟩ := @bindAt_of_parse source _ _ _ h
  refine ⟨binding, hbound, ?_⟩
  have hplain : Clause.ofText true (Text.trim attr.value) = .plain :=
    plain_first (by rwa [List.append_nil]) (trim_ne_nil hf)
  have hclause : clauseEntries source directive attr (0, 0, attr.value) =
      .ok ({ templateAttrs := [⟨directive, .property, binding, attr.span, none⟩] }, []) := by
    have htrim : (Text.trim attr.value).isEmpty = false := by simpa using trim_ne_nil hf
    simp only [clauseEntries, htrim, beq_self_eq_true, hplain, Nat.add_zero, hbind]
    rfl
  rw [directiveEntries, if_neg (by simp [hb]), clauseRuns_of_not_mem hf hs]
  simp only [numbered, collect, hclause]
  rfl

def Form.BindsWhole (value : Chars) : Form → Prop
  | .property _ | .event _ => True
  | .directive _ => ';' ∉ value
  | .twoWay _ | .reference _ | .letVariable _ | .plain => False

theorem attributeEntries_of_bindsWhole {attr : PlacedAttribute}
    (hform : (Form.ofName attr.name).BindsWhole attr.value)
    (hb : Text.allBlank attr.value = false)
    (h : Expr.parse attr.value attr.valueStart = .ok expr) :
    ∃ entries : Entries, attributeEntries source attr = .ok (entries, []) ∧
      entries.bindings.map (·.2.bound) = [.expression expr] := by
  obtain ⟨binding, hbind, hbound⟩ := @bindAt_of_parse source _ _ _ h
  unfold attributeEntries
  cases hname : Form.ofName attr.name with
  | property name | event name =>
    dsimp only
    rw [hbind]
    exact ⟨_, rfl, by simp [Entries.bindings, hbound]⟩
  | directive name =>
    rw [hname] at hform
    obtain ⟨binding, hbound, hentries⟩ := @directiveEntries_of_parse source _ attr name hb hform h
    exact ⟨_, hentries, by simp [Entries.bindings, hbound]⟩
  | twoWay name | reference name | letVariable name | plain =>
    rw [hname] at hform
    exact hform.elim

theorem parseInterpolation_marked {location : String} (hb : Text.allBlank value = false)
    (hcut : Text.cutAt? Segments.closing (value ++ Segments.closing) = some (value, []))
    (h : Expr.parse value (pos + 2 : Nat) = .ok expr) :
    ∃ binding, Binding.parseInterpolation (marked value) location pos = .ok (some binding) ∧
      binding.bound =
        .interpolation ⟨pos, (pos + 2 : Nat) + value.length + 2⟩ [[], []] [expr] := by
  have hlast : Segments.ofText [] = .last [] := by
    rw [Segments.ofText]
    rfl
  have hsegments := Segments.ofText_marked hcut
  rw [hlast] at hsegments
  have hmarkers : Binding.parseMarkers pos [(value, 0 + ([] : Chars).length + 2)] = .ok [expr] := by
    have hread : Expr.parse value ((pos : Int) + (0 + ([] : Chars).length + 2 : Nat)) =
        .ok expr := by
      simpa using h
    simp only [Binding.parseMarkers, hb, hread]
    rfl
  have hstop : (pos : Int) + (marked value).length = (pos + 2 : Nat) + value.length + 2 := by
    simp [marked, Segments.opening, Segments.closing]
    omega
  refine ⟨⟨⟨pos, pos + (marked value).length⟩, _, marked value, location, pos⟩, ?_, rfl⟩
  simp only [Binding.parseInterpolation, hsegments, Segments.sources, Segments.strings, hmarkers,
    hstop]
  rfl

theorem attributeEntries_marked {attr : PlacedAttribute} (hform : Form.ofName attr.name = .plain)
    (hvalue : attr.value = marked value) (hb : Text.allBlank value = false)
    (hcut : Text.cutAt? Segments.closing (value ++ Segments.closing) = some (value, []))
    (h : Expr.parse value (attr.valueStart + 2 : Nat) = .ok expr) :
    ∃ entries : Entries, attributeEntries source attr = .ok (entries, []) ∧
      entries.bindings.map (·.2.bound) = [.interpolation
        ⟨attr.valueStart, (attr.valueStart + 2 : Nat) + value.length + 2⟩ [[], []] [expr]] := by
  obtain ⟨binding, hi, hbound⟩ :=
    @parseInterpolation_marked _ _ _ (source.locationName attr.valueStart) hb hcut h
  unfold attributeEntries interpolateAt
  rw [hform, hvalue]
  dsimp only
  rw [hi]
  exact ⟨_, rfl, by simp [Entries.bindings, hbound]⟩

end

-- ---------------------------------------------------------------------------
-- Bindings of printed items
-- ---------------------------------------------------------------------------

theorem bindings_elementNode (name : Chars) (spans : TagSpans) (entries : Entries)
    (children : List Node) :
    (elementNode name spans entries children).bindings.Perm
      (entries.bindings ++ Node.bindingsOf children) := by
  unfold elementNode
  split
  · simp [Node.bindings, Entries.bindings]
  · dsimp only
    split
    · rename_i hnone
      have hattrs : entries.templateAttrs = [] := by
        simp only [Bool.and_eq_true, List.isEmpty_iff] at hnone
        exact hnone.1
      simp [Node.bindings, Entries.bindings, hattrs]
    · simp only [Node.bindings, Node.bindingsOf, Entries.bindings, List.map_nil, List.nil_append,
        List.append_nil]
      rw [← List.append_assoc]
      exact List.perm_append_comm.append_right _

end Markup

theorem Node.bindingsOf_append (nodes more : List Node) :
    bindingsOf (nodes ++ more) = bindingsOf nodes ++ bindingsOf more := by
  induction nodes with
  | nil => simp [bindingsOf]
  | cons node rest ih => simp [bindingsOf, ih]

mutual

theorem Node.bindings_restrict (options : ParseOptions) (node : Node) :
    Node.bindingsOf (node.restrict options) = node.bindings := by
  match node with
  | .text value span =>
    rw [Node.restrict]
    split <;> simp [Node.bindingsOf, Node.bindings]
  | .boundText value span => simp [Node.restrict, Node.bindingsOf, Node.bindings]
  | .element head children | .template head children =>
    simp [Node.restrict, Node.bindingsOf, Node.bindings, Node.bindings_restrictAll options children]

theorem Node.bindings_restrictAll (options : ParseOptions) (nodes : List Node) :
    Node.bindingsOf (Node.restrictAll options nodes) = Node.bindingsOf nodes := by
  match nodes with
  | [] => rfl
  | node :: rest =>
    rw [Node.restrictAll, Node.bindingsOf_append, Node.bindings_restrict options node,
      Node.bindings_restrictAll options rest, Node.bindingsOf]

end

open Markup

theorem exists_parseTemplate_of_yields {items : List Item} {nodes : List Node}
    {comments : List Comment} {url : String} (hf : Item.AllFormed items)
    (ha : Item.AllAccepted items)
    (h : Yields (Source.ofText (Item.printAll items) url) 0 items nodes comments)
    (options : ParseOptions) :
    ∃ parsed, parseTemplate (Item.printAll items) url options = .ok parsed ∧
      Node.bindingsOf parsed.nodes = Node.bindingsOf nodes := by
  have hkept : State.run (Source.ofText (Item.printAll items) url) .keepAll 0 {}
      (pieces (Item.printAll items)) = .ok (({} : State).take nodes comments) := by
    have hrun := h.run_eq hf ha {} []
    rwa [List.append_nil, ← pieces_printAll hf] at hrun
  have hrun := restrict_run (Source.ofText (Item.printAll items) url) options 0 {}
    (pieces (Item.printAll items))
  rw [hkept] at hrun
  exact ⟨_, parseTemplate_ok_iff.mpr ⟨_, hrun, rfl, rfl, rfl⟩,
    Node.bindings_restrictAll options nodes⟩

-- ---------------------------------------------------------------------------
-- One element
-- ---------------------------------------------------------------------------

theorem exists_parseTemplate_element {name : Chars} {attributes : List (Chars × Chars)}
    {selfClosing : Bool} {children : List Item} {entries : Entries} {inner : List Node}
    {comments : List Comment} {code : Chars} {url : String}
    (hcode : Item.printAll [.element name attributes selfClosing children] = code)
    (hf : Item.AllFormed [.element name attributes selfClosing children])
    (ha : Item.AllAccepted [.element name attributes selfClosing children])
    (he : collect (attributeEntries (Source.ofText code url))
      (placePrinted (Source.ofText code url) (0 + 1 + name.length) attributes) = .ok (entries, []))
    (hy : Yields (Source.ofText code url)
      (0 + (printStartTag name attributes selfClosing).length) children inner comments)
    (options : ParseOptions) :
    ∃ parsed, parseTemplate code url options = .ok parsed ∧
      (Node.bindingsOf parsed.nodes).Perm (entries.bindings ++ Node.bindingsOf inner) := by
  subst hcode
  obtain ⟨parsed, hparse, hnodes⟩ :=
    exists_parseTemplate_of_yields hf ha (.element he hy .nil) options
  refine ⟨parsed, hparse, ?_⟩
  rw [hnodes, Node.bindingsOf, Node.bindingsOf, List.append_nil]
  exact bindings_elementNode _ _ _ _

theorem Markup.Entries.append_empty (entries : Entries) : entries.append {} = entries := by
  simp [Entries.append]

section
variable {name value : Chars} {bound : Bound}

theorem formed_attribute (hchars : name ≠ [] ∧ name.all isAttributeChar = true)
    (hq : '\x22' ∉ value) : Item.AllFormed [.element "p".toList [(name, value)] false []] :=
  ⟨⟨by decide, List.forall_mem_singleton.mpr ⟨hchars.1, List.all_eq_true.mp hchars.2, hq⟩,
      by simp, trivial⟩,
    by simp [Item.isText], trivial⟩

theorem formed_text (hne : value ≠ []) (hl : '<' ∉ value) :
    Item.AllFormed [.element "p".toList [] false [.text value]] :=
  ⟨⟨by decide, by simp, fun hv => absurd hv (by decide), ⟨hne, hl⟩, by simp, trivial⟩,
    by simp [Item.isText], trivial⟩

theorem exists_parseTemplate_attribute
    (hchars : name ≠ [] ∧ name.all isAttributeChar = true)
    (hq : '\x22' ∉ value) (hlet : ¬ DeclaresVariable name)
    (h : ∀ (source : Source) (attr : PlacedAttribute), attr.name = name → attr.value = value →
      attr.valueStart = 5 + name.length → ∃ entries : Entries,
        attributeEntries source attr = .ok (entries, []) ∧
          entries.bindings.map (·.2.bound) = [bound])
    (url : String) (options : ParseOptions) :
    ∃ parsed, parseTemplate (Item.printAll [.element "p".toList [(name, value)] false []]) url
        options = .ok parsed ∧
      (Node.bindingsOf parsed.nodes).map (·.2.bound) = [bound] := by
  generalize hcode : Item.printAll [.element "p".toList [(name, value)] false []] = code
  obtain ⟨attr, hplaced, hname, hvalue, hstart⟩ : ∃ attr : PlacedAttribute,
      placePrinted (Source.ofText code url) (0 + 1 + "p".toList.length) [(name, value)] = [attr] ∧
        attr.name = name ∧ attr.value = value ∧ attr.valueStart = 5 + name.length :=
    ⟨_, rfl, rfl, rfl, by simp; omega⟩
  obtain ⟨entries, he, hb⟩ := h (Source.ofText code url) attr hname hvalue hstart
  have hcollect : collect (attributeEntries (Source.ofText code url))
      (placePrinted (Source.ofText code url) (0 + 1 + "p".toList.length) [(name, value)]) =
        .ok (entries, []) := by
    simp only [hplaced, collect, he]
    exact congrArg (fun entries => Except.ok (entries, [])) entries.append_empty
  have haccepted : Item.AllAccepted [.element "p".toList [(name, value)] false []] := by
    obtain ⟨hbindings, hmarkers⟩ := passes_attributeEntries.mp ⟨entries, he⟩
    rw [hname, hvalue] at hbindings hmarkers
    refine ⟨⟨List.forall_mem_singleton.mpr ⟨?_, hmarkers, fun hd => absurd hd hlet⟩, trivial⟩,
      trivial⟩
    exact fun s hs => .inr (hbindings s hs)
  obtain ⟨parsed, hparse, hperm⟩ :=
    exists_parseTemplate_element hcode (formed_attribute hchars hq) haccepted hcollect .nil options
  refine ⟨parsed, hparse, ?_⟩
  rw [Node.bindingsOf, List.append_nil] at hperm
  exact List.perm_singleton.mp (hb ▸ hperm.map (·.2.bound))

theorem exists_parseTemplate_whole {expr : Expr}
    (hchars : name ≠ [] ∧ name.all isAttributeChar = true) (hq : '\x22' ∉ value)
    (hform : (Form.ofName name).BindsWhole value) (hb : Text.allBlank value = false)
    (he : Expr.parse value (5 + name.length : Nat) = .ok expr) (url : String)
    (options : ParseOptions) :
    ∃ parsed, parseTemplate (Item.printAll [.element "p".toList [(name, value)] false []]) url
        options = .ok parsed ∧
      (Node.bindingsOf parsed.nodes).map (·.2.bound) = [.expression expr] := by
  have hlet : ¬ DeclaresVariable name := by
    rintro ⟨v, hv⟩
    rw [hv] at hform
    exact hform
  refine exists_parseTemplate_attribute hchars hq hlet ?_ url options
  rintro _ attr rfl rfl hstart
  exact attributeEntries_of_bindsWhole hform hb (by rwa [hstart])

theorem exists_parseTemplate_text (hne : value ≠ []) (hl : '<' ∉ value)
    (h : ∀ location, ∃ binding,
      Binding.parseInterpolation value location (3 : Nat) = .ok (some binding) ∧
        binding.bound = bound)
    (url : String) (options : ParseOptions) :
    ∃ parsed, parseTemplate (Item.printAll [.element "p".toList [] false [.text value]]) url
        options = .ok parsed ∧
      (Node.bindingsOf parsed.nodes).map (·.2.bound) = [bound] := by
  generalize hcode : Item.printAll [.element "p".toList [] false [.text value]] = code
  obtain ⟨binding, hb, rfl⟩ := h ((Source.ofText code url).locationName (3 : Nat))
  have haccepted : Item.AllAccepted [.element "p".toList [] false [.text value]] :=
    ⟨⟨by simp, (exists_parseInterpolation_eq_ok _ _ _).mp ⟨_, hb⟩, trivial⟩, trivial⟩
  obtain ⟨parsed, hparse, hperm⟩ :=
    exists_parseTemplate_element hcode (formed_text hne hl) haccepted rfl (.boundText hb .nil)
      options
  exact ⟨parsed, hparse, List.perm_singleton.mp (hperm.map (·.2.bound))⟩

end

-- ---------------------------------------------------------------------------
-- Sites
-- ---------------------------------------------------------------------------

inductive BindingSite where
  | property
  | event
  | directive
  | value
  | text
  deriving DecidableEq, Repr

namespace BindingSite

def before : BindingSite → Chars
  | property => "<p [x]=\"".toList
  | event => "<p (x)=\"".toList
  | directive => "<p *x=\"".toList
  | value => "<p x=\"\x7b\x7b".toList
  | text => "<p>\x7b\x7b".toList

def after : BindingSite → Chars
  | property | event | directive => "\"></p>".toList
  | value => "\x7d\x7d\"></p>".toList
  | text => "\x7d\x7d</p>".toList

def template (site : BindingSite) (source : Chars) : Chars :=
  site.before ++ (source ++ site.after)

def offset (site : BindingSite) : Nat := site.before.length

/-- The expression is not cut short: the mark that ends it here does not occur in
it, not even in a string. -/
def Holds (source : Chars) : BindingSite → Prop
  | property | event => True
  | directive => ';' ∉ source
  | value | text => ¬ Segments.closing <:+: source

def bound (site : BindingSite) (source : Chars) (expr : Expr) : Bound :=
  match site with
  | property | event | directive => .expression expr
  | value | text =>
    .interpolation ⟨site.offset - 2, site.offset + source.length + 2⟩ [[], []] [expr]

def item (source : Chars) : BindingSite → Item
  | property => .element "p".toList [("[x]".toList, source)] false []
  | event => .element "p".toList [("(x)".toList, source)] false []
  | directive => .element "p".toList [("*x".toList, source)] false []
  | value => .element "p".toList [("x".toList, marked source)] false []
  | text => .element "p".toList [] false [.text (marked source)]

theorem printAll_item (site : BindingSite) (source : Chars) :
    Item.printAll [site.item source] = site.template source := by
  have hp : (false || isVoid "p".toList) = false := by decide
  have hattribute : ∀ name value : Chars,
      Item.printAll [.element "p".toList [(name, value)] false []] =
        "<p ".toList ++ (name ++ "=\"".toList ++ (value ++ "\"></p>".toList)) := by
    intro name value
    rw [Item.printAll, Item.print, hp]
    simp [printStartTag, printAttributes, printAttribute, printEndTag, Item.printAll]
  have hmarked : ∀ tail : Chars,
      marked source ++ tail = Segments.opening ++ (source ++ (Segments.closing ++ tail)) := by
    simp [marked]
  cases site with
  | property | event | directive => exact hattribute _ _
  | value =>
    rw [item, hattribute, hmarked]
    rfl
  | text =>
    rw [item, Item.printAll, Item.print, hp]
    simp only [Item.printAll, Item.print, Bool.false_eq_true, if_false, List.append_nil]
    rw [hmarked]
    rfl

section
variable {site : BindingSite} {source : Chars} (hq : '\x22' ∉ source)
include hq

theorem formed_item (hl : '<' ∉ source) : Item.AllFormed [site.item source] := by
  cases site with
  | property | event | directive => exact formed_attribute (by decide) hq
  | value => exact formed_attribute (by decide) (not_mem_marked hq (by decide))
  | text => exact formed_text (marked_ne_nil source) (not_mem_marked hl (by decide))

/-- An expression that is not cut short is bound, and nothing else is. -/
theorem exists_parseTemplate_of_holds (hb : Text.allBlank source = false) (hl : '<' ∉ source)
    {expr : Expr} (he : Expr.parse source site.offset = .ok expr) (h : site.Holds source)
    (url : String) (options : ParseOptions) :
    ∃ parsed, parseTemplate (site.template source) url options = .ok parsed ∧
      (Node.bindingsOf parsed.nodes).map (·.2.bound) = [site.bound source expr] := by
  obtain ⟨ts, e, hf⟩ := exists_forms hb ((exists_parse_eq_ok _ _).mp ⟨expr, he⟩) site.offset
  have hcut : ¬ Segments.closing <:+: source →
      Text.cutAt? Segments.closing (source ++ Segments.closing) = some (source, []) := by
    intro hn
    rcases cutAt?_closing_cases hf.1 hq with ⟨-, hcut⟩ | ⟨hi, -⟩
    · exact hcut
    · exact absurd hi hn
  rw [← printAll_item]
  cases site with
  | property | event =>
    refine exists_parseTemplate_whole (by decide) hq ?_ hb ?_ url options
    · trivial
    · exact he
  | directive =>
    refine exists_parseTemplate_whole (by decide) hq ?_ hb ?_ url options
    · exact h
    · exact he
  | value =>
    refine exists_parseTemplate_attribute (by decide)
      (not_mem_marked hq (by decide)) (by decide) ?_ url options
    intro _ attr hname hvalue hstart
    obtain ⟨entries, hentries, hbound⟩ :=
      attributeEntries_marked (by rw [hname]; decide) hvalue hb (hcut h) (by rw [hstart]; exact he)
    rw [hstart] at hbound
    exact ⟨entries, hentries, hbound⟩
  | text =>
    refine exists_parseTemplate_text (marked_ne_nil source) (not_mem_marked hl (by decide)) ?_ url
      options
    exact fun location => parseInterpolation_marked hb (hcut h) he

/-- An expression that is cut short leaves a quote open. -/
theorem not_acceptable_of_not_holds {offset : Int} {ts : List Token} {e : Expr}
    (hf : Forms source offset ts e) (h : ¬ site.Holds source) :
    ¬ Acceptable (Item.piecesOf [site.item source]) := by
  intro hacc
  have hmarker : Segments.closing <:+: source →
      ∃ s ∈ markers (marked source), ¬ Accepted s := by
    intro hi
    rcases cutAt?_closing_cases hf.1 hq with ⟨hn, -⟩ | ⟨-, before, rest, hcut, hpre, hodd⟩
    · exact absurd hi hn
    · refine ⟨before, ?_, not_accepted_of_odd_quotes (fun hm => hq (hpre.subset hm)) hodd⟩
      rw [markers, Segments.ofText_marked hcut]
      exact .head _
  cases site with
  | property | event => exact h trivial
  | directive =>
    obtain ⟨s, hs, hdouble, hodd⟩ := exists_open_source hf hq (not_not.mp h)
    have hrejected := not_accepted_of_odd_quotes hdouble hodd
    have hmem : s ∈ (Item.piecesOf [directive.item source]).flatMap Piece.bindings :=
      List.mem_flatMap.mpr ⟨_, .head _, List.mem_flatMap.mpr ⟨_, .head _, hs⟩⟩
    rcases hacc.bindings s hmem with hblank | haccepted
    · exact hrejected (accepted_of_allBlank hblank)
    · exact hrejected haccepted
  | value =>
    obtain ⟨s, hs, hrejected⟩ := hmarker (not_not.mp h)
    refine hrejected (hacc.markers s ?_).2
    exact List.mem_flatMap.mpr ⟨_, .head _, List.mem_flatMap.mpr ⟨_, .head _, hs⟩⟩
  | text =>
    obtain ⟨s, hs, hrejected⟩ := hmarker (not_not.mp h)
    refine hrejected (hacc.markers s ?_).2
    exact List.mem_flatMap.mpr ⟨_, .tail _ (.head _), hs⟩

end

end BindingSite

/-- An expression may stand at every site, wherever no mark inside one of its
strings ends it early. Such a template is accepted, it has one binding, and the
expression there is the one that is read from the source at its offset. -/
theorem parseTemplate_bindingSite (site : BindingSite) (source : Chars) (url : String)
    (options : ParseOptions) (hb : Text.allBlank source = false) (hq : '\x22' ∉ source)
    (hl : '<' ∉ source) (ha : Accepted source) :
    ((∃ parsed, parseTemplate (site.template source) url options = .ok parsed) ↔
      site.Holds source) ∧
    ∀ parsed, parseTemplate (site.template source) url options = .ok parsed →
      ∃ expr, Expr.parse source site.offset = .ok expr ∧
        (Node.bindingsOf parsed.nodes).map (·.2.bound) = [site.bound source expr] := by
  obtain ⟨expr, he⟩ := (exists_parse_eq_ok source site.offset).mpr ha
  obtain ⟨ts, e, hf⟩ := exists_forms hb ha 0
  have hholds : (∃ parsed, parseTemplate (site.template source) url options = .ok parsed) →
      site.Holds source := by
    rw [exists_parseTemplate_eq_ok, ← site.printAll_item, pieces_printAll (site.formed_item hq hl)]
    intro hacc
    by_contra hn
    exact BindingSite.not_acceptable_of_not_holds hq hf hn hacc
  have hparse := fun h => BindingSite.exists_parseTemplate_of_holds hq hb hl he h url options
  refine ⟨⟨hholds, fun h => ?_⟩, fun parsed hp => ⟨expr, he, ?_⟩⟩
  · obtain ⟨parsed, hp, -⟩ := hparse h
    exact ⟨parsed, hp⟩
  · obtain ⟨parsed', hp', hbound⟩ := hparse (hholds ⟨parsed, hp⟩)
    rw [hp] at hp'
    cases hp'
    exact hbound

theorem parseTemplate_bindingSite_string :
    let quoted := " f('a; \x7d\x7d') ".toList
    let spaced := "\n as ? let : g | h: 'b as c' ".toList
    (∃ parsed expr, parseTemplate (BindingSite.event.template quoted) "u" {} = .ok parsed ∧
      Expr.parse quoted 8 = .ok expr ∧
      (Node.bindingsOf parsed.nodes).map (·.2.bound) = [.expression expr]) ∧
    ∃ parsed expr, parseTemplate (BindingSite.directive.template spaced) "u" {} = .ok parsed ∧
      Expr.parse spaced 7 = .ok expr ∧
      (Node.bindingsOf parsed.nodes).map (·.2.bound) = [.expression expr] := by
  intro quoted spaced
  obtain ⟨hholds, hbound⟩ := parseTemplate_bindingSite .event quoted "u" {} (by decide) (by decide)
    (by decide) (by decide +kernel)
  obtain ⟨parsed, hparse⟩ := hholds.mpr trivial
  obtain ⟨expr, he, hnodes⟩ := hbound parsed hparse
  obtain ⟨hholds', hbound'⟩ := parseTemplate_bindingSite .directive spaced "u" {} (by decide)
    (by decide) (by decide) (by decide +kernel)
  obtain ⟨parsed', hparse'⟩ := hholds'.mpr (by decide : ';' ∉ spaced)
  obtain ⟨expr', he', hnodes'⟩ := hbound' parsed' hparse'
  exact ⟨⟨parsed, expr, hparse, he, hnodes⟩, parsed', expr', hparse', he', hnodes'⟩

/-- Two expressions that are accepted, but not at every site: a mark in a string
ends them early. -/
theorem bindingSite_cuts_strings :
    let semicolon := "'a;b'".toList
    let braces := "'a\x7d\x7db'".toList
    (Text.allBlank semicolon = false ∧ '\x22' ∉ semicolon ∧ '<' ∉ semicolon ∧
      Accepted semicolon ∧
      ∀ parsed, parseTemplate (BindingSite.directive.template semicolon) "t.html" {} ≠
        .ok parsed) ∧
    (Text.allBlank braces = false ∧ '\x22' ∉ braces ∧ '<' ∉ braces ∧
      Accepted braces ∧
      ∀ parsed, parseTemplate (BindingSite.text.template braces) "t.html" {} ≠ .ok parsed) := by
  intro semicolon braces
  have hdirective : (parseTemplate (BindingSite.directive.template semicolon) "t.html" {}).isOk =
      false := by decide +kernel
  have htext : (parseTemplate (BindingSite.text.template braces) "t.html" {}).isOk = false := by
    decide +kernel
  refine ⟨⟨by decide, by decide, by decide, by decide +kernel, fun parsed h => ?_⟩,
    by decide, by decide, by decide, by decide +kernel, fun parsed h => ?_⟩
  · rw [h] at hdirective
    cases hdirective
  · rw [h] at htext
    cases htext

end TemplateTree
