import Mathlib.Data.Finset.Card
import Mathlib.Data.Finset.Range
import Mathlib.Logic.Relation
import TemplateTree.Proofs.Visiting

/-!
# Walks that come to an end

A visit that comes to an end leaves no way to go in circles below what it
visited, although stamping makes new ways. So a walk over the graph ends too, and
it finds what can be reached.
-/

namespace TemplateTree.Graph

variable {graph mid after : Graph} {id i : RecordId} {record : Record}

-- ---------------------------------------------------------------------------
-- No circles
-- ---------------------------------------------------------------------------

def Below (graph : Graph) (child parent : RecordId) : Prop :=
  ∃ record, graph.records[parent]? = some record ∧ Leads graph record (.ref child) ∧
    graph.isNode (.ref child) = true

theorem isNode_congr (h : after.records[i]? = graph.records[i]?) :
    after.isNode (.ref i) = graph.isNode (.ref i) := by
  simp only [isNode, get, fieldsOf, fields, h]

/-- Descending still comes to an end after some records were stamped, if it does
below those. -/
theorem acc_of_extends (hc : ∀ i : RecordId, after.records[i]? ≠ graph.records[i]? →
    Acc after.Below i) (h : Acc graph.Below i) : Acc after.Below i := by
  induction h with
  | intro i _ ih =>
    by_cases hi : after.records[i]? = graph.records[i]?
    · refine .intro i fun child hb => ?_
      obtain ⟨record, hr, hl, hn⟩ := hb
      by_cases hchild : after.records[child]? = graph.records[child]?
      · have hn' : graph.isNode (.ref child) = true := isNode_congr hchild ▸ hn
        refine ih child ⟨record, hi ▸ hr, ?_, hn'⟩
        rcases hl.seen_before graph with hl | ⟨-, hb⟩
        · exact hl
        · rw [hn'] at hb
          cases hb
      · exact hc child hchild
    · exact hc i hi

theorem Visits.acc {values : List Value} (hw : graph.WellFormed) (h : Visits graph values after) :
    (∀ i : RecordId, after.records[i]? ≠ graph.records[i]? → Acc after.Below i) ∧
      ∀ i, .ref i ∈ values → after.isNode (.ref i) = true → Acc after.Below i := by
  induction h with
  | nil => simp
  | @leaf graph after value rest hn hrest ih =>
    obtain ⟨heq, hnone⟩ := assignKind_of_not_isNode hw hn
    rw [heq] at hrest ih
    obtain ⟨ihc, ihv⟩ := ih hw
    refine ⟨ihc, fun i hi hnode => ?_⟩
    rcases List.mem_cons.mp hi with rfl | hi
    · -- A leaf is no record, and stays none.
      obtain ⟨_, record, ⟨⟩, hr, -⟩ := isNode_iff.mp hnode
      have he := (hrest.extends hw) i
      simp [hr, hnone i rfl] at he
    · exact ihv i hi hnode
  | @node graph mid after value rest below hn hp hbelow hrest ihb ihr =>
    obtain ⟨n, _, rfl, -, -⟩ := isNode_iff.mp hn
    obtain ⟨record, hr, hu⟩ := usable_of_assignKind hw hn
    have hw₁ := (extends_assignKind graph (.ref n)).wellFormed hw
    have hext := hbelow.extends hw₁
    have hw₂ := hext.wellFormed hw₁
    obtain ⟨hchanged, htargets⟩ := ihb hw₁
    obtain ⟨hchanged', hvalues⟩ := ihr hw₂
    -- What is below the node was visited, or has been stamped since.
    have hmid : Acc mid.Below n := by
      refine .intro n fun child hb => ?_
      obtain ⟨_, hr', hl, hnode⟩ := hb
      rw [hext.get_usable hr hu] at hr'
      cases hr'
      rcases hl.seen_before (graph.assignKind (.ref n)) with hl | ⟨-, hb⟩
      · exact htargets child (hp.mem_iff.mpr ((mem_targets hw₁ hr).mpr hl)) hnode
      · exact hchanged child (changed_of_isNode hnode hb)
    have hafter := acc_of_extends hchanged' hmid
    refine ⟨fun i hi => ?_, fun i hi hnode => ?_⟩
    · by_cases hni : n = i
      · exact hni ▸ hafter
      · by_cases hmi : after.records[i]? = mid.records[i]?
        · refine acc_of_extends hchanged' (hchanged i ?_)
          rw [assignKind_get, if_neg hni, ← hmi]
          exact hi
        · exact hchanged' i hmi
    · rcases List.mem_cons.mp hi with hi | hi
      · cases hi
        exact hafter
      · exact hvalues i hi hnode

-- ---------------------------------------------------------------------------
-- Walks
-- ---------------------------------------------------------------------------

theorem mem_children_iff (hw : graph.WellFormed) {value : Value} :
    value ∈ graph.children (.ref id) ↔ ∃ child, value = .ref child ∧ graph.Below child id := by
  cases hr : graph.records[id]? with
  | none =>
    simp [children, childKeys, inferredKeys, get, fieldsOf, fields, hr, Value.str?, Below]
  | some record =>
    rw [mem_children hw hr]
    constructor
    · rintro ⟨hl, hn⟩
      obtain ⟨child, _, rfl, -, -⟩ := isNode_iff.mp hn
      exact ⟨child, rfl, record, hr, hl, hn⟩
    · rintro ⟨child, rfl, _, hr', hl, hn⟩
      rw [hr] at hr'
      cases hr'
      exact ⟨hl, hn⟩

theorem joinAll_cons_eq_some {α β : Type} {f : α → Option (List β)} {x : α} {xs : List α}
    {ys : List β} : joinAll f (x :: xs) = some ys ↔
      ∃ l, f x = some l ∧ ∃ more, joinAll f xs = some more ∧ ys = l ++ more := by
  simp [joinAll, Option.bind_eq_some_iff, @eq_comm _ ys]

theorem mem_joinAll {α β : Type} {f : α → Option (List β)} {xs : List α} {ys : List β} {y : β}
    (h : joinAll f xs = some ys) : y ∈ ys ↔ ∃ x ∈ xs, ∃ l, f x = some l ∧ y ∈ l := by
  induction xs generalizing ys with
  | nil =>
    cases h
    simp
  | cons x xs ih =>
    obtain ⟨l, hl, more, hm, rfl⟩ := joinAll_cons_eq_some.mp h
    simp [ih hm, hl]

theorem exists_joinAll {α β : Type} {f : α → Option (List β)} {xs : List α} :
    (∃ ys, joinAll f xs = some ys) ↔ ∀ x ∈ xs, ∃ l, f x = some l := by
  induction xs with
  | nil => simp [joinAll]
  | cons x xs ih =>
    rw [List.forall_mem_cons, ← ih]
    constructor
    · rintro ⟨_, h⟩
      obtain ⟨l, hl, more, hm, -⟩ := joinAll_cons_eq_some.mp h
      exact ⟨⟨l, hl⟩, more, hm⟩
    · rintro ⟨⟨l, hl⟩, more, hm⟩
      exact ⟨_, joinAll_cons_eq_some.mpr ⟨l, hl, more, hm, rfl⟩⟩

theorem walkWithin_eq_some {depth : Nat} {node : Value} {nodes : List Value} :
    graph.walkWithin (depth + 1) node = some nodes ↔
      ∃ below, joinAll (graph.walkWithin depth) (graph.children node) = some below ∧
        nodes = node :: below := by
  simp [walkWithin, Option.bind_eq_some_iff, @eq_comm _ nodes]

theorem mem_walkWithin (hw : graph.WellFormed) {depth : Nat} {nodes : List Value} {value : Value}
    (h : graph.walkWithin depth (.ref id) = some nodes) :
    value ∈ nodes ↔
      ∃ i, value = .ref i ∧ Relation.ReflTransGen (fun a b => graph.Below b a) id i := by
  induction depth generalizing id nodes with
  | zero => cases h
  | succ depth ih =>
    obtain ⟨below, hb, rfl⟩ := walkWithin_eq_some.mp h
    rw [List.mem_cons, mem_joinAll hb]
    constructor
    · rintro (rfl | ⟨_, hc, l, hl, hv⟩)
      · exact ⟨id, rfl, .refl⟩
      · obtain ⟨child, rfl, hbelow⟩ := (mem_children_iff hw).mp hc
        obtain ⟨i, rfl, hi⟩ := (ih hl).mp hv
        exact ⟨i, rfl, .head hbelow hi⟩
    · rintro ⟨i, rfl, hi⟩
      rcases Relation.ReflTransGen.cases_head hi with rfl | ⟨child, hbelow, hi⟩
      · exact .inl rfl
      · have hc := (mem_children_iff hw).mpr ⟨child, rfl, hbelow⟩
        obtain ⟨l, hl⟩ := exists_joinAll.mp ⟨below, hb⟩ _ hc
        exact .inr ⟨_, hc, l, hl, (ih hl).mpr ⟨i, rfl, hi⟩⟩

/-- A walk goes no deeper than a rank that is lower at each child. -/
theorem exists_walkWithin_of_rank {P : RecordId → Prop} (rank : RecordId → Nat)
    (hchild : ∀ {id}, P id → ∀ value ∈ graph.children (.ref id),
      ∃ child, value = .ref child ∧ P child ∧ rank child < rank id)
    {depth : Nat} (h : P id) (hd : rank id < depth) :
    ∃ nodes, graph.walkWithin depth (.ref id) = some nodes := by
  induction depth generalizing id with
  | zero => exact absurd hd (Nat.not_lt_zero _)
  | succ depth ih =>
    have hall : ∀ value ∈ graph.children (.ref id),
        ∃ l, graph.walkWithin depth value = some l := by
      intro value hv
      obtain ⟨child, rfl, hp, hlt⟩ := hchild h value hv
      exact ih hp (by omega)
    obtain ⟨below, hb⟩ := exists_joinAll.mpr hall
    exact ⟨.ref id :: below, walkWithin_eq_some.mpr ⟨below, hb, rfl⟩⟩

theorem not_rel_self_of_acc {α : Type} {r : α → α → Prop} {a : α} (h : Acc r a) : ¬ r a a := by
  induction h with
  | intro a _ ih => exact fun hr => ih a hr hr

section
open Classical

theorem card_reached_lt {r : Nat → Nat → Prop} {n a b : Nat} (hb : b < n) (hr : r a b)
    (hcircle : ¬ Relation.TransGen r b b) :
    ((Finset.range n).filter (Relation.TransGen r b)).card <
      ((Finset.range n).filter (Relation.TransGen r a)).card := by
  refine Finset.card_lt_card (Finset.ssubset_iff_of_subset ?_ |>.mpr ⟨b, ?_, ?_⟩)
  · intro i hi
    obtain ⟨hn, ht⟩ := Finset.mem_filter.mp hi
    exact Finset.mem_filter.mpr ⟨hn, .head hr ht⟩
  · exact Finset.mem_filter.mpr ⟨Finset.mem_range.mpr hb, .single hr⟩
  · exact fun hi => hcircle (Finset.mem_filter.mp hi).2

noncomputable def descendants (graph : Graph) (id : RecordId) : Finset RecordId :=
  (Finset.range graph.size).filter fun i => Relation.TransGen graph.Below i id

theorem card_descendants_le (graph : Graph) (id : RecordId) :
    (graph.descendants id).card ≤ graph.size := by
  have hle : (graph.descendants id).card ≤ (Finset.range graph.size).card :=
    Finset.card_le_card (Finset.filter_subset _ _)
  rwa [Finset.card_range] at hle

theorem card_descendants_lt {child : RecordId} (h : Acc graph.Below id)
    (hb : graph.Below child id) : (graph.descendants child).card < (graph.descendants id).card := by
  have hswap : ∀ id, graph.descendants id =
      (Finset.range graph.size).filter (Relation.TransGen (Function.swap graph.Below) id) :=
    fun id => Finset.filter_congr fun i _ => Relation.transGen_swap.symm
  have hlt : child < graph.size := by
    obtain ⟨_, record, ⟨⟩, hr, -⟩ := isNode_iff.mp hb.choose_spec.2.2
    rw [lt_size_iff, hr]
    rfl
  have hacc : Acc (Relation.TransGen graph.Below) child := (h.inv hb).transGen
  rw [hswap, hswap]
  exact card_reached_lt hlt hb fun hc => not_rel_self_of_acc hacc (Relation.transGen_swap.mp hc)

theorem exists_walkWithin (hw : graph.WellFormed) {depth : Nat} (h : Acc graph.Below id)
    (hd : (graph.descendants id).card < depth) :
    ∃ nodes, graph.walkWithin depth (.ref id) = some nodes := by
  refine exists_walkWithin_of_rank (fun id => (graph.descendants id).card) ?_ h hd
  intro id h value hv
  obtain ⟨child, rfl, hb⟩ := (mem_children_iff hw).mp hv
  exact ⟨child, rfl, h.inv hb, card_descendants_lt h hb⟩

theorem exists_walk (hw : graph.WellFormed) (h : Acc graph.Below id) :
    ∃ nodes, graph.walk? (.ref id) = some nodes := by
  refine exists_walkWithin hw h ?_
  have hle := graph.card_descendants_le id
  unfold walkDepth
  omega

end

end TemplateTree.Graph
