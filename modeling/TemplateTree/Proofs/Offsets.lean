import Mathlib.Data.List.Forall2
import TemplateTree.Proofs.Bindings
import TemplateTree.Proofs.Pieces
import TemplateTree.Proofs.Placement
import TemplateTree.Proofs.Steps

/-!
# Bindings stand where they say

Every binding of an accepted template names the stretch of the text that it was
read from, and holds what the expression parser makes of that stretch. The
invariant of the scan is that all bindings taken up so far are `Exact`.
-/

namespace TemplateTree

open Text (Chars)
open Expression (bind_eq_ok exists_ok_of_isOk)
open Markup

def Source.slice (source : Source) (span : OffsetSpan) : Chars :=
  (source.text.take span.stop.toNat).drop span.start.toNat

theorem Source.HasAt.slice_eq {source : Source} {pos : Nat} {body : Chars}
    (h : source.HasAt pos body) : source.slice ⟨pos, pos + body.length⟩ = body := by
  obtain ⟨before, after, ht, rfl⟩ := h
  rw [slice, ht, ← Int.natCast_add, Int.toNat_natCast, Int.toNat_natCast]
  simp [List.take_append]

-- ---------------------------------------------------------------------------
-- Exact bindings
-- ---------------------------------------------------------------------------

/-- Span, text and place of a binding agree with each other and with the source. -/
structure Binding.Anchored (source : Source) (binding : Binding) : Prop where
  inside : 0 ≤ binding.offset ∧ binding.offset + binding.source.length ≤ source.text.length
  span : binding.span = ⟨binding.offset, binding.offset + binding.source.length⟩
  text : source.slice binding.span = binding.source
  location : binding.location = source.url ++ "@" ++
    toString (source.locate binding.offset).line ++ ":" ++
    toString (source.locate binding.offset).column

def Binding.HoldsExpression (binding : Binding) : Prop :=
  ∃ expr, binding.bound = .expression expr ∧ Expr.parse binding.source binding.offset = .ok expr

/-- The binding holds one expression for each marker of its text, read from where
the marker stands in the source. -/
def Binding.HoldsInterpolation (source : Source) (binding : Binding) : Prop :=
  (Segments.ofText binding.source).sources 0 ≠ [] ∧
  ∃ expressions, binding.bound =
      .interpolation binding.span (Segments.ofText binding.source).strings expressions ∧
    List.Forall₂ (fun marker expr => Expr.parse
        (source.slice ⟨binding.offset + marker.2, binding.offset + marker.2 + marker.1.length⟩)
        (binding.offset + marker.2) = .ok expr)
      ((Segments.ofText binding.source).sources 0) expressions

inductive Holder where
  | text
  | input (keySpan : Option Span)
  | directive
  | event
  deriving DecidableEq, Repr

/-- Texts hold interpolations, and so do inputs that are written without a mark
in their name; all else holds expressions. -/
def Holder.Suits (source : Source) (binding : Binding) : Holder → Prop
  | text => binding.HoldsInterpolation source
  | input keySpan => ∃ span ∈ keySpan,
    if Form.ofName (source.textOf span) = .plain then binding.HoldsInterpolation source
    else binding.HoldsExpression
  | directive | event => binding.HoldsExpression

def Exact (source : Source) (bound : Holder × Binding) : Prop :=
  bound.2.Anchored source ∧ bound.1.Suits source bound.2

mutual

def Node.bindings : Node → List (Holder × Binding)
  | .text _ _ => []
  | .boundText value _ => [(.text, value)]
  | .element head children =>
    head.inputs.map (fun a => (.input a.keySpan, a.value)) ++
    head.outputs.map (fun e => (.event, e.handler)) ++ Node.bindingsOf children
  | .template head children =>
    head.inputs.map (fun a => (.input a.keySpan, a.value)) ++
    head.outputs.map (fun e => (.event, e.handler)) ++
    head.templateAttrs.map (fun a => (.directive, a.value)) ++ Node.bindingsOf children

def Node.bindingsOf : List Node → List (Holder × Binding)
  | [] => []
  | node :: rest => node.bindings ++ Node.bindingsOf rest

end

theorem Node.bindingsOf_snoc (nodes : List Node) (node : Node) :
    bindingsOf (nodes ++ [node]) = bindingsOf nodes ++ node.bindings := by
  induction nodes with
  | nil => simp [bindingsOf]
  | cons first rest ih => simp [bindingsOf, ih]

namespace Markup

variable {source : Source} {pos : Nat}

-- ---------------------------------------------------------------------------
-- Reading at an offset
-- ---------------------------------------------------------------------------

theorem anchored_of_hasAt {text : Chars} (h : source.HasAt pos text) (bound : Bound) :
    (⟨⟨pos, pos + text.length⟩, bound, text, source.locationName pos, pos⟩ : Binding).Anchored
      source := by
  refine ⟨⟨Int.natCast_nonneg _, ?_⟩, rfl, h.slice_eq, rfl⟩
  have := h.le_length
  show ((pos : Int) + (text.length : Int)) ≤ _
  omega

theorem bindAt_exact {text : Chars} {binding : Binding} (hat : source.HasAt pos text)
    (h : bindAt source text pos = .ok (binding, [])) :
    binding.Anchored source ∧ binding.HoldsExpression := by
  unfold bindAt at h
  dsimp only at h
  split at h
  · rename_i parsed hp
    cases h
    obtain ⟨expr, he, hb⟩ := bind_eq_ok.mp hp
    cases hb
    exact ⟨anchored_of_hasAt hat _, expr, rfl, he⟩
  · cases h
  · cases h

theorem parseMarkers_reads {offset : Int} {sources : List (Chars × Nat)} {expressions : List Expr}
    (h : Binding.parseMarkers offset sources = .ok expressions) :
    List.Forall₂ (fun marker expr => Expr.parse marker.1 (offset + marker.2) = .ok expr)
      sources expressions := by
  induction sources generalizing expressions with
  | nil =>
    cases h
    exact .nil
  | cons marker rest ih =>
    obtain ⟨text, start⟩ := marker
    unfold Binding.parseMarkers at h
    split at h
    · cases h
    · obtain ⟨expr, he, h⟩ := bind_eq_ok.mp h
      obtain ⟨more, hm, h⟩ := bind_eq_ok.mp h
      cases h
      exact .cons he (ih hm)

theorem interpolateAt_exact {text : Chars} {binding : Binding} {problems : List Problem}
    (hat : source.HasAt pos text)
    (h : interpolateAt source text pos = .ok (some binding, problems)) :
    binding.Anchored source ∧ binding.HoldsInterpolation source := by
  unfold interpolateAt at h
  split at h
  · rename_i parsed hp
    cases h
    unfold Binding.parseInterpolation at hp
    dsimp only at hp
    split at hp
    · cases hp
    · rename_i hne
      obtain ⟨expressions, he, hb⟩ := bind_eq_ok.mp hp
      cases hb
      refine ⟨anchored_of_hasAt hat _, hne, expressions, rfl, ?_⟩
      rw [← Segments.written_ofText text] at hat
      have hmarkers : ∀ marker ∈ (Segments.ofText text).sources 0,
          source.HasAt (pos + marker.2) marker.1 := Segments.hasAt_source hat
      refine List.forall₂_iff_zip.mpr ⟨(parseMarkers_reads he).length_eq, ?_⟩
      intro marker expr hz
      have hread := (List.forall₂_iff_zip.mp (parseMarkers_reads he)).2 hz
      have hslice := (hmarkers marker (List.of_mem_zip hz).1).slice_eq
      rw [Int.natCast_add] at hslice
      rw [hslice]
      exact hread
  · cases h
  · cases h

-- ---------------------------------------------------------------------------
-- Entries
-- ---------------------------------------------------------------------------

def Entries.bindings (entries : Entries) : List (Holder × Binding) :=
  entries.inputs.map (fun a => (.input a.keySpan, a.value)) ++
  entries.outputs.map (fun e => (.event, e.handler)) ++
  entries.templateAttrs.map (fun a => (.directive, a.value))

def Entries.AllExact (source : Source) (entries : Entries) : Prop :=
  ∀ bound ∈ entries.bindings, Exact source bound

theorem Entries.AllExact.append {a b : Entries} (ha : a.AllExact source) (hb : b.AllExact source) :
    (a.append b).AllExact source := by
  intro bound hm
  simp only [bindings, Entries.append, List.map_append, List.mem_append] at hm
  have hcases : bound ∈ a.bindings ∨ bound ∈ b.bindings := by
    simp only [bindings, List.mem_append]
    tauto
  exact hcases.elim (ha bound) (hb bound)

/-- Nothing is wrong with a list only if nothing is wrong with its elements. -/
theorem collect_exact {α : Type} {f : α → Check (Entries × List Problem)} {xs : List α}
    {entries : Entries} (hf : ∀ x ∈ xs, ∀ {e}, f x = .ok (e, []) → e.AllExact source)
    (h : collect f xs = .ok (entries, [])) : entries.AllExact source := by
  induction xs generalizing entries with
  | nil =>
    cases h
    intro bound hm
    cases hm
  | cons x xs ih =>
    obtain ⟨hx, hxs⟩ := List.forall_mem_cons.mp hf
    simp only [collect, bind_eq_ok] at h
    obtain ⟨⟨e, ps⟩, he, ⟨more, others⟩, hm, h⟩ := h
    obtain ⟨rfl, hp⟩ := Prod.mk.inj (Except.ok.inj h)
    obtain ⟨rfl, rfl⟩ := List.append_eq_nil_iff.mp hp
    exact (hx he).append (ih hxs hm)

/-- The binding of a clause stands behind the semicolon, the blanks and the words
before its expression. -/
theorem clauseEntries_exact {directive run : Chars} {attr : PlacedAttribute} {index start : Nat}
    {entries : Entries} (hat : source.HasAt (attr.valueStart + start) run)
    (h : clauseEntries source directive attr (index, start, run) = .ok (entries, [])) :
    entries.AllExact source := by
  have htext := hat.trim
  have hends := Clause.ofText_endsIn (index == 0) (Text.trim run)
  unfold clauseEntries at h
  dsimp only at h
  generalize attr.valueStart + start + (run.length - (Text.trimLeft run).length) = offset
    at h htext
  split at h
  · cases h
    intro bound hm
    cases hm
  · cases hc : Clause.ofText (index == 0) (Text.trim run) with
    | assign name value | renamed key name =>
      rw [hc] at h
      cases h
      intro bound hm
      cases hm
    | forEach name key expression shift | keyed key expression shift =>
      rw [hc] at h hends
      obtain ⟨hsuffix, hshift⟩ := hends expression shift rfl
      have hexpr := htext.of_suffix hsuffix
      rw [← hshift] at hexpr
      obtain ⟨⟨input, problems⟩, hi, h⟩ := bind_eq_ok.mp h
      obtain ⟨⟨binding, _⟩, hb, hi⟩ := bind_eq_ok.mp hi
      cases hi
      cases h
      intro bound hm
      rw [List.mem_singleton.mp hm]
      exact bindAt_exact hexpr hb
    | plain =>
      rw [hc] at h
      obtain ⟨⟨input, problems⟩, hi, h⟩ := bind_eq_ok.mp h
      obtain ⟨⟨binding, _⟩, hb, hi⟩ := bind_eq_ok.mp hi
      cases hi
      cases h
      intro bound hm
      rw [List.mem_singleton.mp hm]
      exact bindAt_exact htext hb

theorem directiveEntries_exact {directive : Chars} {attr : PlacedAttribute} {entries : Entries}
    (hat : attr.Stands source)
    (h : directiveEntries source directive attr = .ok (entries, [])) :
    entries.AllExact source := by
  unfold directiveEntries at h
  split at h
  · obtain ⟨⟨binding, problems⟩, hb, h⟩ := bind_eq_ok.mp h
    cases h
    have hvalue : source.HasAt attr.valueStart ([] ++ attr.value) := hat.value
    have hnone : source.HasAt attr.valueStart [] := hvalue.of_append.1
    intro bound hm
    rw [List.mem_singleton.mp hm]
    exact bindAt_exact hnone hb
  · refine collect_exact ?_ h
    rintro ⟨index, start, run⟩ hr e he
    have hvalue : source.HasAt (attr.valueStart + 0) attr.value := hat.value
    exact clauseEntries_exact (hasAt_clauseRuns hvalue (mem_of_mem_numbered hr)) he

theorem attributeEntries_exact {attr : PlacedAttribute} {entries : Entries}
    (hat : attr.Stands source) (h : attributeEntries source attr = .ok (entries, [])) :
    entries.AllExact source := by
  unfold attributeEntries at h
  cases hf : Form.ofName attr.name with
  | twoWay name =>
    rw [hf] at h
    obtain ⟨⟨value, problems⟩, hv, h⟩ := bind_eq_ok.mp h
    obtain ⟨⟨handler, others⟩, hh, h⟩ := bind_eq_ok.mp h
    obtain ⟨rfl, hp⟩ := Prod.mk.inj (Except.ok.inj h)
    obtain ⟨rfl, rfl⟩ := List.append_eq_nil_iff.mp hp
    obtain ⟨hva, hve⟩ := bindAt_exact hat.value hv
    obtain ⟨hha, hhe⟩ := bindAt_exact hat.value hh
    intro bound hm
    simp only [Entries.bindings, List.map_cons, List.map_nil, List.append_nil, List.mem_append,
      List.mem_singleton] at hm
    rcases hm with rfl | rfl
    · exact ⟨hva, attr.keySpan, rfl, by simpa [hat.key, hf] using hve⟩
    · exact ⟨hha, hhe⟩
  | property name =>
    rw [hf] at h
    obtain ⟨⟨value, problems⟩, hv, h⟩ := bind_eq_ok.mp h
    cases h
    obtain ⟨hva, hve⟩ := bindAt_exact hat.value hv
    intro bound hm
    rw [List.mem_singleton.mp hm]
    exact ⟨hva, attr.keySpan, rfl, by simpa [hat.key, hf] using hve⟩
  | event name =>
    rw [hf] at h
    obtain ⟨⟨handler, problems⟩, hh, h⟩ := bind_eq_ok.mp h
    cases h
    intro bound hm
    rw [List.mem_singleton.mp hm]
    exact bindAt_exact hat.value hh
  | directive name =>
    rw [hf] at h
    exact directiveEntries_exact hat h
  | reference name | letVariable name =>
    rw [hf] at h
    cases h
    intro bound hm
    cases hm
  | plain =>
    rw [hf] at h
    obtain ⟨⟨binding, problems⟩, hi, h⟩ := bind_eq_ok.mp h
    cases binding with
    | none =>
      cases h
      intro bound hm
      cases hm
    | some binding =>
      cases h
      obtain ⟨ha, hm⟩ := interpolateAt_exact hat.value hi
      intro bound hb
      rw [List.mem_singleton.mp hb]
      exact ⟨ha, attr.keySpan, rfl, by simpa [hat.key, hf] using hm⟩

theorem tagEntries_exact {attributes : List Attribute} {entries : Entries}
    (hat : source.HasAt pos (writtenAttributes attributes))
    (h : tagEntries source pos attributes = .ok (entries, [])) : entries.AllExact source :=
  collect_exact (fun attr ha _ he =>
    attributeEntries_exact (placeAttributes_stand hat attr ha) he) h

-- ---------------------------------------------------------------------------
-- The scan
-- ---------------------------------------------------------------------------

def OpenElement.bindings (element : OpenElement) : List (Holder × Binding) :=
  element.entries.bindings ++ Node.bindingsOf element.children

def State.bindings (state : State) : List (Holder × Binding) :=
  Node.bindingsOf state.roots ++ state.stack.flatMap OpenElement.bindings

section
variable {options : ParseOptions} {state state' : State} {bound : Holder × Binding}

theorem State.mem_bindings_append {node : Node} :
    bound ∈ (state.append node).bindings ↔ bound ∈ state.bindings ∨ bound ∈ node.bindings := by
  obtain ⟨stack, roots, comments, problems⟩ := state
  cases stack with
  | nil => simp [State.append, State.bindings, Node.bindingsOf_snoc]
  | cons top rest =>
    simp only [State.append, State.bindings, OpenElement.bindings, Node.bindingsOf_snoc,
      List.flatMap_cons, List.mem_append]
    tauto

theorem OpenElement.mem_bindings_finish {element : OpenElement} {closing : Option Span}
    (h : bound ∈ (element.finish source closing).1.bindings) : bound ∈ element.bindings := by
  unfold OpenElement.finish at h
  split at h
  · simpa [Node.bindings, OpenElement.bindings, Entries.bindings] using h
  · dsimp only at h
    split at h
    · simp only [Node.bindings, List.mem_append] at h
      simp only [OpenElement.bindings, Entries.bindings, List.mem_append]
      tauto
    · simp only [Node.bindings, Node.bindingsOf, List.map_nil, List.nil_append, List.append_nil,
        List.mem_append] at h
      simp only [OpenElement.bindings, Entries.bindings, List.mem_append]
      tauto

theorem step_exact {piece : Piece} (hat : source.HasAt pos piece.written)
    (h : state.step source options pos piece = .ok state') (hp : state'.problems = [])
    (hb : ∀ bound ∈ state.bindings, Exact source bound) :
    ∀ bound ∈ state'.bindings, Exact source bound := by
  intro bound hm
  cases piece with
  | text value =>
    rcases addText_cases h with ⟨-, rfl⟩ | ⟨-, -, -, rfl⟩ | ⟨-, binding, _, hi, rfl⟩
    · exact hb bound hm
    · exact hb bound hm
    · rcases State.mem_bindings_append.mp hm with hm | hm
      · exact hb bound hm
      · cases binding with
        | none => cases hm
        | some binding =>
          rw [List.mem_singleton.mp hm]
          exact interpolateAt_exact hat hi
  | construct c =>
    cases c with
    | comment value =>
      rw [step_comment] at h
      cases h
      exact hb bound hm
    | endTag name tail =>
      rw [step_endTag] at h
      cases h
      rcases closeElement_cases state source name
        (source.span pos (pos + (Construct.endTag name tail).written.length)) with
        ⟨top, rest, hst, -, heq⟩ | ⟨-, heq⟩
      · rw [heq] at hm
        refine hb bound ?_
        rcases State.mem_bindings_append.mp hm with hm | hm
        · simp only [State.bindings, State.report, List.mem_append] at hm
          simp only [State.bindings, hst, List.flatMap_cons, List.mem_append]
          tauto
        · have htop := OpenElement.mem_bindings_finish hm
          simp [State.bindings, hst, htop]
      · rw [heq] at hm
        exact hb bound hm
    | startTag tag =>
      obtain ⟨entries, problems, he, hstep⟩ := openElement_cases h
      have hproblems : problems = [] := by
        rcases hstep with ⟨-, rfl⟩ | ⟨-, rfl⟩
        · simp only [State.problems_append, State.problems_report, List.append_eq_nil_iff] at hp
          exact hp.1.2
        · exact (List.append_eq_nil_iff.mp hp).2
      subst hproblems
      have hexact := tagEntries_exact (StartTag.hasAt_attributes hat) he
      have helement : ∀ bound ∈ (tag.element source pos entries).bindings, Exact source bound := by
        intro bound hm
        exact hexact bound
          (by simpa [OpenElement.bindings, StartTag.element, Node.bindingsOf] using hm)
      rcases hstep with ⟨-, rfl⟩ | ⟨-, rfl⟩
      · rcases State.mem_bindings_append.mp hm with hm | hm
        · exact hb bound hm
        · exact helement bound (OpenElement.mem_bindings_finish hm)
      · simp only [State.bindings, State.report, List.flatMap_cons, List.mem_append] at hm
        rcases hm with hm | hm | hm
        · exact hb bound (List.mem_append_left _ hm)
        · exact helement bound hm
        · exact hb bound (List.mem_append_right _ hm)

theorem run_exact {pieces : List Piece} (hat : source.HasAt pos (pieces.flatMap Piece.written))
    (h : state.run source options pos pieces = .ok state') (hp : state'.problems = [])
    (hb : ∀ bound ∈ state.bindings, Exact source bound) :
    ∀ bound ∈ state'.bindings, Exact source bound :=
  run_invariant (P := fun _ state => ∀ bound ∈ state.bindings, Exact source bound)
    (fun _ hat hs hp hb => step_exact hat hs hp hb) hat h hp hb

end

end Markup

/-- The bindings of an accepted template, at any depth, name the stretch of the
text they were read from, and hold what that stretch says. -/
theorem parseTemplate_bindings_exact {code : Chars} {url : String} {options : ParseOptions}
    {parsed : ParsedTemplate} (h : parseTemplate code url options = .ok parsed) :
    ∀ holder binding, (holder, binding) ∈ Node.bindingsOf parsed.nodes →
      binding.Anchored (Source.ofText code url) ∧
        holder.Suits (Source.ofText code url) binding := by
  intro holder binding hm
  obtain ⟨state, hrun, hp, -, rfl⟩ := parseTemplate_ok_iff.mp h
  have hexact := run_exact ⟨[], [], by simp [written_pieces, Source.ofText], rfl⟩ hrun hp
    (by simp [State.bindings, Node.bindingsOf])
  exact hexact (holder, binding) (List.mem_append_left _ hm)

/-- All ways to write a value, a directive with three bound clauses, and a text
with a line ending that is not kept. -/
theorem parseTemplate_bindings_exact_directive :
    let code := "<p *a=' b; let c of d ;e: f' [g] (h)=i x = \"\x7b\x7bj\x7d\x7d\">\r\n\x7b\x7b k \x7d\x7d</p>".toList
    ∃ parsed, parseTemplate code "t.html" { preserveLineEndings := false } = .ok parsed ∧
      (Node.bindingsOf parsed.nodes).length = 7 ∧
      ∀ bound ∈ Node.bindingsOf parsed.nodes, Exact (Source.ofText code "t.html") bound := by
  intro code
  obtain ⟨parsed, h⟩ : ∃ parsed,
      parseTemplate code "t.html" { preserveLineEndings := false } = .ok parsed :=
    exists_ok_of_isOk (by decide +kernel)
  have hcount : (parseTemplate code "t.html" { preserveLineEndings := false }).toOption.map
      (fun parsed => (Node.bindingsOf parsed.nodes).length) = some 7 := by decide +kernel
  rw [h] at hcount
  refine ⟨parsed, h, Option.some.inj hcount, ?_⟩
  rintro ⟨holder, binding⟩ hm
  exact parseTemplate_bindings_exact h holder binding hm

end TemplateTree
