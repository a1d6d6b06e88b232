import Mathlib.Data.List.MinMax
import TemplateTree.Source.Extent

/-!
# Spans of a row of nodes

The span with the least start and the one with the greatest end are those of the
first nodes that attain them (`argmin_filterMap_eq_some_iff`).
So the range of a row does not depend on its order, two rows together have the
joined range, and the extent of a single node is the location of an element.
-/

namespace TemplateTree

-- ---------------------------------------------------------------------------
-- The first of the least
-- ---------------------------------------------------------------------------

section
variable {α κ : Type} [LinearOrder κ] {f : α → κ} {xs ys : List α} {a b c : α}

theorem argmin_eq_some_iff_append : xs.argmin f = some a ↔
    ∃ front back, xs = front ++ a :: back ∧
      (∀ b ∈ front, f a < f b) ∧ ∀ b ∈ back, f a ≤ f b := by
  constructor
  · intro h
    induction xs with
    | nil => cases h
    | cons x xs ih =>
      rw [List.argmin_cons] at h
      cases hrest : xs.argmin f with
      | none =>
        rw [hrest] at h
        cases h
        exact ⟨[], xs, rfl, by simp, by simp [List.argmin_eq_none.mp hrest]⟩
      | some least =>
        rw [hrest] at h
        dsimp only at h
        split at h
        · rename_i hlt
          cases h
          obtain ⟨front, back, rfl, hfront, hback⟩ := ih hrest
          exact ⟨x :: front, back, rfl, List.forall_mem_cons.mpr ⟨hlt, hfront⟩, hback⟩
        · rename_i hge
          cases h
          exact ⟨[], xs, rfl, by simp, fun b hb =>
            (not_lt.mp hge).trans (List.le_of_mem_argmin hb hrest)⟩
  · rintro ⟨front, back, rfl, hfront, hback⟩
    induction front with
    | nil =>
      rw [List.nil_append, List.argmin_cons]
      cases hrest : back.argmin f with
      | none => rfl
      | some least => exact if_neg (not_lt.mpr (hback least (List.argmin_mem hrest)))
    | cons x front ih =>
      obtain ⟨hx, hfront⟩ := List.forall_mem_cons.mp hfront
      rw [List.cons_append, List.argmin_cons, ih hfront]
      exact if_pos hx

theorem map_argmin_perm (h : xs.Perm ys) : (xs.argmin f).map f = (ys.argmin f).map f := by
  cases hx : xs.argmin f with
  | none =>
    obtain rfl := List.argmin_eq_none.mp hx
    rw [List.nil_perm.mp h, List.argmin_nil]
  | some a =>
    cases hy : ys.argmin f with
    | none =>
      obtain rfl := List.argmin_eq_none.mp hy
      rw [List.perm_nil.mp h] at hx
      cases hx
    | some b =>
      exact congrArg some (le_antisymm
        (List.le_of_mem_argmin (h.mem_iff.mpr (List.argmin_mem hy)) hx)
        (List.le_of_mem_argmin (h.mem_iff.mp (List.argmin_mem hx)) hy))

theorem argmin_append (hx : xs.argmin f = some a) (hy : ys.argmin f = some b) :
    ∃ c, (xs ++ ys).argmin f = some c ∧ f c = min (f a) (f b) := by
  have hne : (xs ++ ys).argmin f ≠ none := by
    rw [ne_eq, List.argmin_eq_none, List.append_eq_nil_iff, not_and]
    rintro rfl
    cases hx
  obtain ⟨c, hc⟩ := Option.ne_none_iff_exists'.mp hne
  refine ⟨c, hc, le_antisymm ?_ ?_⟩
  · exact le_min (List.le_of_mem_argmin (List.mem_append_left _ (List.argmin_mem hx)) hc)
      (List.le_of_mem_argmin (List.mem_append_right _ (List.argmin_mem hy)) hc)
  · rcases List.mem_append.mp (List.argmin_mem hc) with hm | hm
    · exact (min_le_left _ _).trans (List.le_of_mem_argmin hm hx)
    · exact (min_le_right _ _).trans (List.le_of_mem_argmin hm hy)

end

-- ---------------------------------------------------------------------------
-- The first node with a span
-- ---------------------------------------------------------------------------

/-- The span of the first node than which none is better, of those that have one. -/
def IsFirstBest {ν : Type} (span? : ν → Option Span) (better : Span → Span → Prop)
    (nodes : List ν) (span : Span) : Prop :=
  ∃ front node back, nodes = front ++ node :: back ∧ span? node = some span ∧
    (∀ other ∈ front, ∀ found ∈ span? other, better span found) ∧
    ∀ other ∈ back, ∀ found ∈ span? other, ¬ better found span

section
variable {ν κ : Type} [LinearOrder κ] {span? : ν → Option Span} {key : Span → κ}
variable {nodes : List ν} {span : Span}

theorem argmin_filterMap_eq_some_iff : (nodes.filterMap span?).argmin key = some span ↔
    IsFirstBest span? (fun a b => key a < key b) nodes span := by
  rw [argmin_eq_some_iff_append]
  constructor
  · rintro ⟨before, behind, hsplit, hbefore, hbehind⟩
    obtain ⟨front, rest, rfl, rfl, hrest⟩ := List.filterMap_eq_append_iff.mp hsplit
    obtain ⟨blank, node, back, rfl, hblank, hnode, rfl⟩ := List.filterMap_eq_cons_iff.mp hrest
    refine ⟨front ++ blank, node, back, by simp, hnode, fun other hm found hf => ?_,
      fun other hm found hf => not_lt.mpr (hbehind found (List.mem_filterMap.mpr ⟨other, hm, hf⟩))⟩
    rcases List.mem_append.mp hm with hm | hm
    · exact hbefore found (List.mem_filterMap.mpr ⟨other, hm, hf⟩)
    · rw [hblank other hm] at hf
      cases hf
  · rintro ⟨front, node, back, rfl, hnode, hfront, hback⟩
    refine ⟨front.filterMap span?, back.filterMap span?, ?_, fun found hm => ?_, fun found hm => ?_⟩
    · rw [List.filterMap_append, List.filterMap_cons_some hnode]
    · obtain ⟨other, ho, hf⟩ := List.mem_filterMap.mp hm
      exact hfront other ho found hf
    · obtain ⟨other, ho, hf⟩ := List.mem_filterMap.mp hm
      exact not_lt.mp (hback other ho found hf)

end

-- ---------------------------------------------------------------------------
-- Rows of nodes
-- ---------------------------------------------------------------------------

def Span.StartsBefore (a b : Span) : Prop := a.start.offset < b.start.offset

def Span.EndsBehind (a b : Span) : Prop := b.stop.offset < a.stop.offset

section
variable {nodes : List Exposed}

theorem earliestSpan?_eq_argmin (nodes : List Exposed) :
    earliestSpan? nodes =
      (nodes.filterMap Exposed.startSpan?).argmin fun span => span.start.offset := by
  unfold earliestSpan? List.argmin
  congr 1
  funext best span
  cases best <;> rfl

/-- Under the reversed order the greatest end is the least. -/
theorem latestSpan?_eq_argmin (nodes : List Exposed) :
    latestSpan? nodes =
      (nodes.filterMap Exposed.stopSpan?).argmin fun span => OrderDual.toDual span.stop.offset := by
  unfold latestSpan? List.argmin
  congr 1
  funext best span
  cases best <;> rfl

theorem earliestSpan?_eq_none_iff :
    earliestSpan? nodes = none ↔ ∀ node ∈ nodes, node.startSpan? = none := by
  rw [earliestSpan?_eq_argmin, List.argmin_eq_none, List.filterMap_eq_nil_iff]

theorem latestSpan?_eq_none_iff :
    latestSpan? nodes = none ↔ ∀ node ∈ nodes, node.stopSpan? = none := by
  rw [latestSpan?_eq_argmin, List.argmin_eq_none, List.filterMap_eq_nil_iff]

end

namespace Extent

section
variable {nodes others : List Exposed} {extent more : Extent}

theorem ofNodes?_eq_some_iff : ofNodes? nodes = some extent ↔
    earliestSpan? nodes = some extent.first ∧ latestSpan? nodes = some extent.last := by
  obtain ⟨first, last⟩ := extent
  cases hfirst : earliestSpan? nodes <;> cases hlast : latestSpan? nodes <;>
    simp [ofNodes?, hfirst, hlast]

theorem ofNodes?_eq_none_iff :
    ofNodes? nodes = none ↔ earliestSpan? nodes = none ∨ latestSpan? nodes = none := by
  cases hfirst : earliestSpan? nodes <;> cases hlast : latestSpan? nodes <;>
    simp [ofNodes?, hfirst, hlast]

theorem map_range_ofNodes? (nodes : List Exposed) :
    (ofNodes? nodes).map range = do
      let start ← (earliestSpan? nodes).map (·.start.offset)
      let stop ← (latestSpan? nodes).map (·.stop.offset)
      return (start, stop) := by
  cases hfirst : earliestSpan? nodes <;> cases hlast : latestSpan? nodes <;>
    simp [ofNodes?, hfirst, hlast, range]

theorem map_range_ofNodes?_perm (h : nodes.Perm others) :
    (ofNodes? nodes).map range = (ofNodes? others).map range := by
  have hstart : (earliestSpan? nodes).map (·.start.offset) =
      (earliestSpan? others).map (·.start.offset) := by
    simp only [earliestSpan?_eq_argmin]
    exact map_argmin_perm (h.filterMap _)
  have hstop : (latestSpan? nodes).map (·.stop.offset) =
      (latestSpan? others).map (·.stop.offset) := by
    simp only [latestSpan?_eq_argmin]
    exact map_argmin_perm (f := fun span : Span => OrderDual.toDual span.stop.offset)
      (h.filterMap _)
  rw [map_range_ofNodes?, map_range_ofNodes?, hstart, hstop]

theorem ofNodes?_append (hnodes : ofNodes? nodes = some extent)
    (hothers : ofNodes? others = some more) :
    ∃ joined, ofNodes? (nodes ++ others) = some joined ∧ joined.range =
      (min extent.range.1 more.range.1, max extent.range.2 more.range.2) := by
  rw [ofNodes?_eq_some_iff, earliestSpan?_eq_argmin, latestSpan?_eq_argmin] at hnodes hothers
  obtain ⟨first, hfirst, hstart⟩ := argmin_append hnodes.1 hothers.1
  obtain ⟨last, hlast, hstop⟩ := argmin_append hnodes.2 hothers.2
  rw [← List.filterMap_append] at hfirst hlast
  have hjoined : (first.start.offset, last.stop.offset) =
      (min extent.range.1 more.range.1, max extent.range.2 more.range.2) :=
    Prod.ext hstart hstop
  refine ⟨⟨first, last⟩, ?_, hjoined⟩
  rw [ofNodes?_eq_some_iff, earliestSpan?_eq_argmin, latestSpan?_eq_argmin]
  exact ⟨hfirst, hlast⟩

end

theorem ofNodes?_singleton (node : Exposed) :
    ofNodes? [node] = do
      let first ← node.startSpan?
      let last ← node.stopSpan?
      return ⟨first, last⟩ := by
  cases hfirst : node.startSpan? <;> cases hlast : node.stopSpan? <;>
    simp [ofNodes?, earliestSpan?, latestSpan?, hfirst, hlast, earlier, later]

end Extent

-- ---------------------------------------------------------------------------
-- Elements
-- ---------------------------------------------------------------------------

namespace SpanField

variable {field other : SpanField}

theorem readOr_of_some {span : Span} (h : (field.span? <|> other.span?) = some span) :
    field.readOr other = .ok (some span) := by
  cases field <;> cases other <;> simp_all [readOr, read, span?]

theorem readOr_of_none (h : (field.span? <|> other.span?) = none) :
    (∃ cause, field.readOr other = .error cause) ∨ field.readOr other = .ok none := by
  cases field <;> cases other <;> simp_all [readOr, read, span?]

end SpanField

namespace SpanFields

variable {node : SpanFields} {first last : Span}

theorem loc_of_some (hfirst : node.exposed.startSpan? = some first)
    (hlast : node.exposed.stopSpan? = some last) :
    node.loc = .ok ⟨first.start.toPosition, last.stop.toPosition⟩ := by
  rw [loc, SpanField.readOr_of_some hfirst, SpanField.readOr_of_some hlast]
  rfl

theorem loc_of_none (h : node.exposed.startSpan? = none ∨ node.exposed.stopSpan? = none) :
    ∃ cause, node.loc = .error cause := by
  unfold loc
  rcases h with h | h
  · rcases SpanField.readOr_of_none h with ⟨cause, hread⟩ | hread
    · exact ⟨cause, by rw [hread]; rfl⟩
    · cases hstop : node.closing.readOr node.whole with
      | error cause => exact ⟨cause, by rw [hread]; rfl⟩
      | ok stop => exact ⟨.empty, by rw [hread]; rfl⟩
  · cases hstart : node.opening.readOr node.whole with
    | error cause => exact ⟨cause, rfl⟩
    | ok start =>
      rcases SpanField.readOr_of_none h with ⟨cause, hread⟩ | hread
      · exact ⟨cause, by rw [hread]; rfl⟩
      · exact ⟨.empty, by rw [hread]; cases start <;> rfl⟩

/-- An element has a location if it has an extent, and the extent has the same one. -/
theorem loc_eq (node : SpanFields) :
    ((∃ cause, node.loc = .error cause) ↔ Extent.ofNodes? [node.exposed] = none) ∧
      ∀ extent, Extent.ofNodes? [node.exposed] = some extent → node.loc = .ok extent.loc := by
  rw [Extent.ofNodes?_singleton]
  cases hfirst : node.exposed.startSpan? with
  | none => simpa using loc_of_none (.inl hfirst)
  | some first =>
    cases hlast : node.exposed.stopSpan? with
    | none => simpa using loc_of_none (.inr hlast)
    | some last => simp [loc_of_some hfirst hlast, Extent.loc]

end SpanFields

/-- A row of nodes is measured from the first span with the least start to the first
one with the greatest end, where each node may lack any of its spans. It has no extent
if one of the two is lacking; its range is the same in any order, and joins the ranges
of two rows. A single node has the location of an element, or neither is there. -/
theorem extent_first_wins (nodes : List SpanFields) :
    let exposed := nodes.map SpanFields.exposed
    (∀ span, earliestSpan? exposed = some span ↔
      IsFirstBest (fun node : SpanFields => node.exposed.startSpan?) Span.StartsBefore nodes span) ∧
    (earliestSpan? exposed = none ↔ ∀ node ∈ nodes, node.exposed.startSpan? = none) ∧
    (∀ span, latestSpan? exposed = some span ↔
      IsFirstBest (fun node : SpanFields => node.exposed.stopSpan?) Span.EndsBehind nodes span) ∧
    (latestSpan? exposed = none ↔ ∀ node ∈ nodes, node.exposed.stopSpan? = none) ∧
    (Extent.ofNodes? exposed = none ↔ earliestSpan? exposed = none ∨ latestSpan? exposed = none) ∧
    (∀ others : List SpanFields, nodes.Perm others →
      (Extent.ofNodes? exposed).map Extent.range =
        (Extent.ofNodes? (others.map SpanFields.exposed)).map Extent.range) ∧
    (∀ (others : List SpanFields) (extent more : Extent), Extent.ofNodes? exposed = some extent →
      Extent.ofNodes? (others.map SpanFields.exposed) = some more →
      ∃ joined, Extent.ofNodes? ((nodes ++ others).map SpanFields.exposed) = some joined ∧
        joined.range = (min extent.range.1 more.range.1, max extent.range.2 more.range.2)) ∧
    ∀ node : SpanFields,
      ((∃ cause, node.loc = .error cause) ↔ Extent.ofNodes? [node.exposed] = none) ∧
        ∀ extent, Extent.ofNodes? [node.exposed] = some extent → node.loc = .ok extent.loc := by
  refine ⟨fun span => ?_, ?_, fun span => ?_, ?_, Extent.ofNodes?_eq_none_iff, ?_, ?_,
    SpanFields.loc_eq⟩
  · rw [earliestSpan?_eq_argmin, List.filterMap_map]
    exact argmin_filterMap_eq_some_iff
  · rw [earliestSpan?_eq_none_iff, List.forall_mem_map]
  · rw [latestSpan?_eq_argmin, List.filterMap_map]
    exact argmin_filterMap_eq_some_iff
  · rw [latestSpan?_eq_none_iff, List.forall_mem_map]
  · exact fun others h => Extent.map_range_ofNodes?_perm (h.map _)
  · intro others extent more hnodes hothers
    rw [List.map_append]
    exact Extent.ofNodes?_append hnodes hothers

/-- The second and the third node start together, the third and the fourth end
together, the first exposes nothing, and the second no end. -/
theorem extent_first_wins_ties :
    let source := Source.ofText "ab\ncdef".toList "t.html"
    let opened : SpanFields := { opening := .span (source.span 2 3) }
    let bare : SpanFields := { whole := .span (source.span 2 5), closing := .empty }
    let closed : SpanFields :=
      { whole := .span (source.span 4 7), closing := .span (source.span 5 5) }
    let nodes : List SpanFields := [{}, opened, bare, closed]
    let others : List SpanFields := [{ whole := .span (source.span 0 4) }]
    IsFirstBest (fun node : SpanFields => node.exposed.startSpan?) Span.StartsBefore nodes
      (source.span 2 3) ∧
    IsFirstBest (fun node : SpanFields => node.exposed.stopSpan?) Span.EndsBehind nodes
      (source.span 2 5) ∧
    (Extent.ofNodes? (nodes.reverse.map SpanFields.exposed)).map Extent.range = some (2, 5) ∧
    (∃ joined, Extent.ofNodes? ((nodes ++ others).map SpanFields.exposed) = some joined ∧
      joined.range = (0, 5)) ∧
    (∃ cause, opened.loc = .error cause) ∧ closed.loc = .ok ⟨⟨2, 1⟩, ⟨2, 2⟩⟩ := by
  intro source opened bare closed nodes others
  obtain ⟨hfirst, -, hlast, -, -, hperm, hjoin, hloc⟩ := extent_first_wins nodes
  have hextent : Extent.ofNodes? (nodes.map SpanFields.exposed) =
      some ⟨source.span 2 3, source.span 2 5⟩ := by decide +kernel
  refine ⟨(hfirst _).mp (by decide +kernel), (hlast _).mp (by decide +kernel), ?_,
    hjoin others _ ⟨source.span 0 4, source.span 0 4⟩ hextent (by decide +kernel),
    (hloc opened).1.mpr (by decide +kernel),
    (hloc closed).2 ⟨source.span 4 7, source.span 5 5⟩ (by decide +kernel)⟩
  rw [← hperm _ nodes.reverse_perm.symm, hextent]
  rfl

end TemplateTree
