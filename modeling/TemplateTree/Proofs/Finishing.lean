import TemplateTree.Proofs.Idempotence

/-!
# Normalizations that return

A normalization returns if the records it may visit come one after another: what
each of them leads to comes later, and none lacks a child.
-/

namespace TemplateTree.Graph

variable {before graph mid : Graph} {S : RecordId → Prop} {root i : RecordId} {record : Record}
variable {policy : MissingChild} {depth : Nat}

/-- Whatever was stamped in the set, its records are complete and lead to later
records of the set only. -/
structure Descending (before : Graph) (S : RecordId → Prop) : Prop where
  bounded : ∀ i : Nat, S i → i < before.size
  complete : ∀ {graph : Graph} {i : Nat} {record : Record}, StampedIn before S graph → S i →
    graph.records[i]? = some record → record.isUsable = true → record.Complete
  leads : ∀ {graph : Graph} {i : Nat} {record : Record} {value : Value},
    StampedIn before S graph → S i → graph.records[i]? = some record → record.isUsable = true →
    Leads graph record value → ∃ id : Nat, value = .ref id ∧ S id ∧ i < id

theorem StampedIn.refl (before : Graph) (S : RecordId → Prop) : StampedIn before S before :=
  ⟨.refl _, fun _ hi => absurd rfl hi⟩

theorem StampedIn.assignKind (hw : before.WellFormed) (h : StampedIn before S graph) (hi : S i) :
    StampedIn before S (graph.assignKind (.ref i)) := by
  refine ⟨h.grown.trans hw (extends_assignKind graph (.ref i)), fun j hj => ?_⟩
  rw [assignKind_get] at hj
  split at hj
  · rename_i hij
    exact hij ▸ hi
  · exact h.changed j hj

theorem visitAll_finishes {α : Type} {I : Graph → Prop} {visit : Graph → α → Outcome}
    {xs : List α} (h : ∀ x ∈ xs, ∀ graph, I graph → ∃ after, visit graph x = .done after ∧ I after)
    (hg : I graph) : ∃ after, visitAll visit graph xs = .done after ∧ I after := by
  induction xs generalizing graph with
  | nil => exact ⟨graph, rfl, hg⟩
  | cons x rest ih =>
    obtain ⟨hx, hrest⟩ := List.forall_mem_cons.mp h
    obtain ⟨mid, hmid, hI⟩ := hx graph hg
    obtain ⟨after, hafter, hI⟩ := ih hrest hI
    exact ⟨after, by simp only [visitAll, hmid, Outcome.andThen, hafter], hI⟩

/-- A walk from a record of the set is done if there is depth for all later ones. -/
def Finishes (before : Graph) (S : RecordId → Prop) (policy : MissingChild) (depth : Nat) : Prop :=
  ∀ {graph : Graph} {i : RecordId} {record : Record}, StampedIn before S graph → S i →
    graph.records[i]? = some record → record.isUsable = true → before.size < depth + i →
    ∃ after, normalizeWithin policy depth graph (.ref i) = .done after ∧ StampedIn before S after

section
variable (hw : before.WellFormed) (hd : Descending before S)
include hw hd

theorem visitChild_finishes (ih : Finishes before S policy depth) (hi : S i)
    (hdepth : before.size < depth + i) (h : StampedIn before S graph) :
    ∃ after, visitChild (normalizeWithin policy depth) graph (.ref i) = .done after ∧
      StampedIn before S after := by
  have hlt : i < graph.size := (hd.bounded i hi).trans_eq h.grown.size_eq.symm
  obtain ⟨stamped, hs, hu⟩ := usable_assignKind (h.grown.wellFormed hw) hlt
  simp only [visitChild, isNode_ref hs, isSome_of_isUsable hu, ↓reduceIte]
  exact ih (h.assignKind hw hi) hi hs hu hdepth

theorem visitKey_finishes (ih : Finishes before S policy depth) (h : StampedIn before S graph)
    (hi : S i) (hr : graph.records[i]? = some record) (hu : record.isUsable = true)
    (hdepth : before.size < depth + 1 + i) {key : String} (hk : key ∈ graph.childKeys (.ref i))
    (hm : StampedIn before S mid) (hrm : mid.records[i]? = some record) :
    ∃ after, visitKey policy (normalizeWithin policy depth) (.ref i) mid key = .done after ∧
      StampedIn before S after := by
  have hwg := h.grown.wellFormed hw
  have hnull := not_null_of_mem_childKeys hwg hr (hd.complete h hi hr hu) hk
  rw [← get_of_get hr] at hnull
  have hget : mid.get (.ref i) key = graph.get (.ref i) key := by
    rw [get_of_get hrm, get_of_get hr]
  have hchild : ∀ value ∈ graph.targetsAt (.ref i) key, ∀ mid, StampedIn before S mid →
      ∃ after, visitChild (normalizeWithin policy depth) mid value = .done after ∧
        StampedIn before S after := by
    intro value hv mid hm
    have hl := (mem_targets hwg hr).mp (List.mem_flatMap.mpr ⟨key, hk, hv⟩)
    obtain ⟨id, rfl, hid, hlt⟩ := hd.leads h hi hr hu hl
    exact visitChild_finishes hw hd ih hid (by omega) hm
  unfold targetsAt at hchild
  unfold visitKey
  dsimp only
  rw [hget]
  simp only [hnull, Bool.false_eq_true, ↓reduceIte] at hchild ⊢
  split
  · rename_i items hitems
    rw [hitems] at hchild
    exact visitAll_finishes hchild hm
  · rename_i hitems
    rw [hitems] at hchild
    exact hchild _ (.head _) mid hm

theorem finishes (policy : MissingChild) (depth : Nat) : Finishes before S policy depth := by
  induction depth with
  | zero =>
    intro graph i record _ hi _ _ hdepth
    have := hd.bounded i hi
    omega
  | succ depth ih =>
    intro graph i record h hi hr hu hdepth
    -- Between two fields the set is as stamped as before, and the record itself is kept.
    have hkey : ∀ key ∈ graph.childKeys (.ref i), ∀ mid,
        StampedIn before S mid ∧ mid.records[i]? = some record →
        ∃ after, visitKey policy (normalizeWithin policy depth) (.ref i) mid key = .done after ∧
          StampedIn before S after ∧ after.records[i]? = some record := by
      intro key hk mid ⟨hs, hm⟩
      obtain ⟨after, hdone, hstamped⟩ := visitKey_finishes hw hd ih h hi hr hu hdepth hk hs hm
      have hext := extends_of_visitKey (hs.grown.wellFormed hw) hdone
      exact ⟨after, hdone, hstamped, hext.get_usable hm hu⟩
    obtain ⟨after, hafter, hs, -⟩ := visitAll_finishes hkey ⟨h, hr⟩
    exact ⟨after, hafter, hs⟩

/-- Normalizing from a record of the set returns, and stamps records of the set
only. -/
theorem normalize_finishes (hroot : S root) (hr : before.records[root]? = some record)
    (hu : record.isUsable = true) :
    ∃ after, (normalize policy false before (.ref root)).2 = .done after ∧
      StampedIn before S after := by
  refine finishes hw hd policy before.visitDepth (.refl before S) hroot hr hu ?_
  have hlt := before.size_lt_visitDepth
  omega

end

end TemplateTree.Graph
