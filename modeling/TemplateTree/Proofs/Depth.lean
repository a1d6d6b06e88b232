import Mathlib.Algebra.Order.BigOperators.Group.Finset
import Mathlib.Algebra.Ring.Action.Basic
import TemplateTree.Proofs.Frame

/-!
# The depth of a normalization is no limit

A normalization is cut off at a depth, but only if it would never come to an end.
More depth changes nothing once it is enough. A record changes at most twice, and
as long as no record changes, a walk that comes back to a node repeats itself; so
the depth that is enough is bounded by the number of records.
-/

namespace TemplateTree

-- ---------------------------------------------------------------------------
-- How often a record can change
-- ---------------------------------------------------------------------------

theorem Fields.set_of_lookup {fields : Fields} {name : String} {value : Value}
    (h : fields.lookup name = some value) : fields.set name value = fields := by
  induction fields with
  | nil => cases h
  | cons field rest ih =>
    obtain ⟨key, old⟩ := field
    by_cases hk : key = name
    · subst hk
      rw [List.lookup_cons_self] at h
      cases h
      simp [Fields.set]
    · rw [List.lookup_cons, beq_false_of_ne (Ne.symm hk)] at h
      simp [Fields.set, hk, ih h]

namespace Record

/-- A class without a name gives an empty kind, which is stamped once more. -/
theorem stamp_stamp_stamp (record : Record) : record.stamp.stamp.stamp = record.stamp.stamp := by
  by_cases hn : record.type.name = ""
  · cases hu : record.isUsable with
    | true => simp only [stamp_of_usable hu]
    | false =>
      have hkind : ∀ {old : Record}, old.isUsable = false → old.type.name = "" →
          old.stamp.fields.lookup "kind" = some (.str "") := by
        intro old hold hname
        rw [(stampedAs_stamp hold).kind, hname]
      have hunusable : ∀ {old : Record}, old.fields.lookup "kind" = some (.str "") →
          old.isUsable = false := by
        intro old hk
        simp [isUsable, kind, hk, Value.str?]
      have hfirst := hkind hu hn
      have hu₁ := hunusable hfirst
      have hsecond := hkind hu₁ ((type_stamp record).symm ▸ hn)
      have hu₂ := hunusable hsecond
      have horiginal : record.stamp.stamp.fields.lookup "original_kind" = some (.str "") :=
        (stampedAs_stamp hu₁).shadowed _ hfirst rfl
      -- Both fields are set to what they hold already.
      have hk : record.stamp.stamp.kind = .str "" := by simp [kind, hsecond]
      have hname : record.stamp.stamp.type.name = "" := by simpa using hn
      have hset : ∀ {old : Record} {name : String} {value : Value},
          old.fields.lookup name = some value → old.set name value = old := by
        intro old name value h
        rw [Record.set, Fields.set_of_lookup h]
      rw [stamp_of_not_usable hu₂, hk, hname, if_neg (by simp [Value.isNull]), hset horiginal,
        hset hsecond]
  · rw [stamp_stamp hn, stamp_stamp hn]

open Classical in
noncomputable def pending (record : Record) : Nat :=
  if record.stamp = record then 0 else if record.stamp.stamp = record.stamp then 1 else 2

theorem pending_le (record : Record) : record.pending ≤ 2 := by
  unfold pending
  split
  · omega
  · split <;> omega

theorem pending_stamp_lt {record : Record} (h : record.stamp ≠ record) :
    record.stamp.pending < record.pending := by
  unfold pending
  rw [if_neg h, if_pos record.stamp_stamp_stamp]
  split <;> omega

end Record

namespace Graph

variable {graph mid after : Graph} {policy : MissingChild} {depth more : Nat} {node : Value}

noncomputable def pendingAt (graph : Graph) (i : RecordId) : Nat :=
  (graph.records[i]?.map Record.pending).getD 0

noncomputable def pending (graph : Graph) : Nat :=
  ∑ i ∈ Finset.range graph.size, graph.pendingAt i

theorem pending_le (graph : Graph) : graph.pending ≤ 2 * graph.size := by
  have hle : graph.pending ≤ (Finset.range graph.size).card • 2 := by
    refine Finset.sum_le_card_nsmul _ _ _ fun i _ => ?_
    unfold pendingAt
    cases graph.records[i]? with
    | none => exact Nat.zero_le _
    | some record => exact record.pending_le
  rwa [Finset.card_range, smul_eq_mul, Nat.mul_comm] at hle

structure Advances (graph after : Graph) : Prop where
  size : after.size = graph.size
  pending : after = graph ∨ after.pending < graph.pending

theorem Advances.refl (graph : Graph) : Advances graph graph := ⟨rfl, .inl rfl⟩

theorem Advances.trans (graph mid after : Graph) (h : Advances graph mid)
    (h' : Advances mid after) : Advances graph after := by
  refine ⟨h'.size.trans h.size, ?_⟩
  rcases h.pending with rfl | hlt
  · exact h'.pending
  · rcases h'.pending with rfl | hlt'
    · exact .inr hlt
    · exact .inr (hlt'.trans hlt)

theorem eq_of_records (h : ∀ i : RecordId, after.records[i]? = graph.records[i]?) :
    after = graph := by
  have hrecords : after.records = graph.records := Array.ext_getElem? h
  cases graph
  cases after
  cases hrecords
  rfl

theorem advances_assignKind (graph : Graph) (value : Value) :
    Advances graph (graph.assignKind value) := by
  have hsize := (extends_assignKind graph value).size_eq
  refine ⟨hsize, ?_⟩
  cases value with
  | ref id =>
    by_cases hsame : graph.records[id]?.map Record.stamp = graph.records[id]?
    · refine .inl (eq_of_records fun i => ?_)
      rw [assignKind_get]
      split
      · rename_i hi
        exact hi ▸ hsame
      · rfl
    · obtain ⟨record, hr⟩ : ∃ record, graph.records[id]? = some record := by
        cases hr : graph.records[id]? with
        | none => simp [hr] at hsame
        | some record => exact ⟨record, rfl⟩
      have hne : record.stamp ≠ record := by simpa [hr] using hsame
      have hget : ∀ i, (graph.assignKind (.ref id)).pendingAt i =
          if id = i then record.stamp.pending else graph.pendingAt i := by
        intro i
        unfold pendingAt
        rw [assignKind_get]
        split
        · rename_i hi
          subst hi
          simp [hr]
        · rfl
      have hat : graph.pendingAt id = record.pending := by simp [pendingAt, hr]
      right
      unfold pending
      rw [hsize]
      refine Finset.sum_lt_sum (fun i _ => ?_) ⟨id, ?_, ?_⟩
      · rw [hget]
        split
        · rename_i hi
          rw [← hi, hat]
          exact (Record.pending_stamp_lt hne).le
        · exact le_rfl
      · rw [Finset.mem_range, lt_size_iff, hr]
        rfl
      · rw [hget, if_pos rfl, hat]
        exact Record.pending_stamp_lt hne
  | _ => exact .inl rfl

-- ---------------------------------------------------------------------------
-- More depth
-- ---------------------------------------------------------------------------

/-- On the graphs that a first one can become, the second way of visiting gives
what the first one gives wherever that comes to an end. -/
def Agrees {α : Type} (first : Graph) (visit visit' : Graph → α → Outcome) : Prop :=
  ∀ graph x, Advances first graph → visit graph x ≠ .endless → visit' graph x = visit graph x

section
variable {first : Graph}

theorem visitAll_agrees {α : Type} {visit visit' : Graph → α → Outcome}
    (hk : ∀ graph x, (visit graph x).Keeps Advances graph) (h : Agrees first visit visit') :
    Agrees first (visitAll visit) (visitAll visit') := by
  intro graph xs hg hne
  induction xs generalizing graph with
  | nil => rfl
  | cons x rest ih =>
    unfold visitAll at hne ⊢
    have hx : visit graph x ≠ .endless := fun he => hne (by rw [he]; rfl)
    rw [h graph x hg hx]
    have hkept := hk graph x
    cases hv : visit graph x with
    | done mid =>
      rw [hv] at hne hkept
      exact ih mid (hg.trans _ _ _ (hkept mid rfl)) hne
    | missing mid kind field => rfl
    | endless => rfl

section
variable {descend descend' : Graph → Value → Outcome}
variable (hk : ∀ graph node, (descend graph node).Keeps Advances graph)
variable (h : ∀ graph node, Advances first graph → graph.isNode node = true →
  descend graph node ≠ .endless → descend' graph node = descend graph node)
include h

theorem visitChild_agrees : Agrees first (visitChild descend) (visitChild descend') := by
  intro graph child hg hne
  unfold visitChild at hne ⊢
  dsimp only at hne ⊢
  cases hn : (graph.assignKind child).isNode child with
  | true =>
    simp only [hn, ↓reduceIte] at hne ⊢
    exact h _ child (hg.trans _ _ _ (advances_assignKind graph child)) hn hne
  | false => rfl

include hk

theorem visitKey_agrees :
    Agrees first (visitKey policy descend node) (visitKey policy descend' node) := by
  intro graph key hg hne
  unfold visitKey at hne ⊢
  dsimp only at hne ⊢
  cases hnull : (graph.get node key).isNull with
  | true => rfl
  | false =>
    simp only [hnull, Bool.false_eq_true, ↓reduceIte] at hne ⊢
    cases hi : (graph.get node key).items? with
    | some items =>
      rw [hi] at hne
      refine visitAll_agrees (fun _ _ => ?_) (visitChild_agrees h) graph items hg hne
      exact visitChild_keeps Advances.trans advances_assignKind hk
    | none =>
      rw [hi] at hne
      exact visitChild_agrees h graph _ hg hne

end

theorem normalizeWithin_advances (policy : MissingChild) (depth : Nat) (graph : Graph)
    (node : Value) : (normalizeWithin policy depth graph node).Keeps Advances graph :=
  normalizeWithin_keeps Advances.refl Advances.trans advances_assignKind depth graph node

theorem normalizeWithin_succ_agrees
    (h : ∀ graph node, Advances first graph → graph.isNode node = true →
      normalizeWithin policy depth graph node ≠ .endless →
      normalizeWithin policy more graph node = normalizeWithin policy depth graph node) :
    Agrees first (normalizeWithin policy (depth + 1)) (normalizeWithin policy (more + 1)) := by
  intro graph node hg hne
  refine visitAll_agrees (fun _ _ => ?_)
    (visitKey_agrees (normalizeWithin_advances policy depth) h) graph _ hg hne
  exact visitKey_keeps Advances.refl Advances.trans advances_assignKind
    (normalizeWithin_advances policy depth)

theorem normalizeWithin_of_le (h : normalizeWithin policy depth graph node ≠ .endless)
    (hle : depth ≤ more) :
    normalizeWithin policy more graph node = normalizeWithin policy depth graph node := by
  induction depth generalizing graph node more with
  | zero => exact absurd rfl h
  | succ depth ih =>
    obtain ⟨more, rfl⟩ := Nat.exists_eq_add_of_le' (Nat.lt_of_lt_of_le depth.succ_pos hle)
    refine normalizeWithin_succ_agrees (fun _ _ _ _ hne => ih hne ?_) graph node (.refl graph) h
    omega

end

-- ---------------------------------------------------------------------------
-- Enough depth
-- ---------------------------------------------------------------------------

theorem exists_stable {n : Nat} {f : Nat → Finset Nat} (hf : ∀ k, f k ⊆ f (k + 1))
    (hn : ∀ k, f k ⊆ Finset.range n) : ∃ k ≤ n, f (k + 1) ⊆ f k := by
  by_contra hc
  have hgrows : ∀ k ≤ n + 1, k ≤ (f k).card := by
    intro k hk
    induction k with
    | zero => exact Nat.zero_le _
    | succ k ih =>
      have hss : f k ⊂ f (k + 1) := ⟨hf k, fun hs => hc ⟨k, by omega, hs⟩⟩
      have := Finset.card_lt_card hss
      have := ih (by omega)
      omega
  have hcard := Finset.card_le_card (hn (n + 1))
  have := hgrows (n + 1) le_rfl
  rw [Finset.card_range] at hcard
  omega

open Classical in
noncomputable def ending (policy : MissingChild) (graph : Graph) (depth : Nat) :
    Finset RecordId :=
  (Finset.range graph.size).filter fun i => normalizeWithin policy depth graph (.ref i) ≠ .endless

theorem mem_ending {i : RecordId} : i ∈ ending policy graph depth ↔
    i < graph.size ∧ normalizeWithin policy depth graph (.ref i) ≠ .endless := by
  simp [ending]

theorem ending_subset_range : ending policy graph depth ⊆ Finset.range graph.size :=
  fun _ hi => Finset.mem_range.mpr (mem_ending.mp hi).1

theorem ending_subset_succ : ending policy graph depth ⊆ ending policy graph (depth + 1) := by
  intro i hi
  obtain ⟨hi, hne⟩ := mem_ending.mp hi
  refine mem_ending.mpr ⟨hi, ?_⟩
  rw [normalizeWithin_of_le hne depth.le_succ]
  exact hne

/-- If going one deeper lets no further record come to an end, going deeper still
does not either. -/
theorem ends_of_stable {base k : Nat}
    (hlater : ∀ mid node, mid.size = graph.size → mid.pending < graph.pending → ∀ depth,
      normalizeWithin policy depth mid node ≠ .endless →
      normalizeWithin policy base mid node ≠ .endless)
    (hstable : ending policy graph (base + k + 1) ⊆ ending policy graph (base + k))
    (j : Nat) (h : normalizeWithin policy (base + k + j + 1) graph node ≠ .endless) :
    normalizeWithin policy (base + k + 1) graph node ≠ .endless := by
  induction j generalizing node with
  | zero => exact h
  | succ j ih =>
    have hbelow : ∀ mid child, Advances graph mid → mid.isNode child = true →
        normalizeWithin policy (base + k + (j + 1)) mid child ≠ .endless →
        normalizeWithin policy (base + k) mid child =
          normalizeWithin policy (base + k + (j + 1)) mid child := by
      intro mid child hm hn hne
      -- Either nothing has changed yet, or fewer changes are left and the base is enough.
      have hends : normalizeWithin policy (base + k) mid child ≠ .endless := by
        rcases hm.pending with rfl | hlt
        · obtain ⟨i, _, rfl, hr, -⟩ := isNode_iff.mp hn
          have hi : i < mid.size := by
            rw [lt_size_iff, hr]
            rfl
          exact (mem_ending.mp (hstable (mem_ending.mpr ⟨hi, ih hne⟩))).2
        · have hb := hlater mid child hm.size hlt _ hne
          rw [normalizeWithin_of_le hb (by omega)]
          exact hb
      exact (normalizeWithin_of_le hends (by omega)).symm
    rw [normalizeWithin_succ_agrees hbelow graph node (.refl graph) h]
    exact h

/-- The depth that is enough, by the changes that are left: the induction is on
their number, and between two changes the chain of ending records grows at most as
often as there are records. -/
theorem ends_of_pending (policy : MissingChild) (graph : Graph) (node : Value) (depth : Nat)
    (h : normalizeWithin policy depth graph node ≠ .endless) :
    normalizeWithin policy ((graph.pending + 1) * (graph.size + 1)) graph node ≠ .endless := by
  induction hm : graph.pending using Nat.strong_induction_on generalizing graph node depth with
  | _ m ih =>
    subst hm
    have hlater : ∀ mid node, mid.size = graph.size → mid.pending < graph.pending → ∀ depth,
        normalizeWithin policy depth mid node ≠ .endless →
        normalizeWithin policy (graph.pending * (graph.size + 1)) mid node ≠ .endless := by
      intro mid node hsize hlt depth hne
      have hb := ih mid.pending hlt mid node depth hne rfl
      rw [normalizeWithin_of_le hb]
      · exact hb
      · rw [hsize]
        exact Nat.mul_le_mul_right _ hlt
    generalize hbase : graph.pending * (graph.size + 1) = base at hlater
    obtain ⟨k, hk, hstable⟩ := exists_stable
      (f := fun k => ending policy graph (base + k)) (fun _ => ending_subset_succ)
      (fun _ => ending_subset_range)
    have hends : normalizeWithin policy (base + k + 1) graph node ≠ .endless := by
      refine ends_of_stable hlater hstable depth ?_
      rw [normalizeWithin_of_le h (by omega)]
      exact h
    rw [normalizeWithin_of_le hends]
    · exact hends
    · rw [Nat.add_mul, hbase]
      omega

theorem normalizeWithin_visitDepth (h : normalizeWithin policy depth graph node ≠ .endless) :
    normalizeWithin policy graph.visitDepth graph node =
      normalizeWithin policy depth graph node := by
  have hends := ends_of_pending policy graph node depth h
  have hle : (graph.pending + 1) * (graph.size + 1) ≤ graph.visitDepth := by
    refine Nat.mul_le_mul_right _ ?_
    have := graph.pending_le
    omega
  rw [normalizeWithin_of_le hends hle]
  rcases Nat.le_total depth ((graph.pending + 1) * (graph.size + 1)) with hd | hd
  · exact normalizeWithin_of_le h hd
  · exact (normalizeWithin_of_le hends hd).symm

end Graph

end TemplateTree
