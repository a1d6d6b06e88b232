import TemplateTree.Config.Basic
import TemplateTree.Proofs.Reach

/-!
# Normalizing twice

A normalization that returns leaves nothing to do. Fields that were hidden from
it may be seen the second time, but whatever they hold has its kind by then, and
no way goes in circles. A listed field that is empty would have stopped the first
run already.
-/

namespace TemplateTree

/-- No field is empty that the table lists for the kind of the record. -/
def Record.Complete (record : Record) : Prop :=
  ∀ keys, record.listedKeys? = some keys → ∀ key ∈ keys,
    ((record.fields.lookup key).getD .null).isNull = false

namespace Graph

variable {before graph mid after : Graph} {root id i : RecordId} {record : Record}
variable {policy : MissingChild} {depth : Nat}

-- ---------------------------------------------------------------------------
-- Inside a finished run
-- ---------------------------------------------------------------------------

section
variable {α : Type} {visit : Graph → α → Outcome} {x : α} {xs : List α}
variable (hv : ∀ {graph after : Graph} {x : α}, graph.WellFormed → visit graph x = .done after →
  Extends graph after)
include hv

theorem extends_of_visitAll (hw : graph.WellFormed) (h : visitAll visit graph xs = .done after) :
    Extends graph after := by
  induction xs generalizing graph with
  | nil =>
    cases h
    exact .refl _
  | cons x rest ih =>
    obtain ⟨mid, hx, hrest⟩ := andThen_eq_done h
    have he := hv hw hx
    exact he.trans hw (ih (he.wellFormed hw) hrest)

theorem exists_visit_of_mem (hw : graph.WellFormed) (h : visitAll visit graph xs = .done after)
    (hx : x ∈ xs) :
    ∃ mid last, Extends graph mid ∧ visit mid x = .done last ∧ Extends last after := by
  induction xs generalizing graph with
  | nil => cases hx
  | cons y ys ih =>
    obtain ⟨mid, hy, hys⟩ := andThen_eq_done h
    have he := hv hw hy
    rcases List.mem_cons.mp hx with rfl | hx
    · exact ⟨graph, mid, .refl _, hy, extends_of_visitAll hv (he.wellFormed hw) hys⟩
    · obtain ⟨start, last, hs, hx, hl⟩ := ih (he.wellFormed hw) hys hx
      exact ⟨start, last, he.trans hw hs, hx, hl⟩

end

theorem extends_of_visitKey {node : Value} {key : String} (hw : graph.WellFormed)
    (h : visitKey policy (normalizeWithin policy depth) node graph key = .done after) :
    Extends graph after :=
  (visitKey_visits (descends_normalizeWithin policy depth) hw h).extends hw

theorem extends_of_visitChild {child : Value} (hw : graph.WellFormed)
    (h : visitChild (normalizeWithin policy depth) graph child = .done after) :
    Extends graph after :=
  (visitChild_visits (descends_normalizeWithin policy depth) hw h).extends hw

theorem usable_assignKind (hw : graph.WellFormed) (hid : id < graph.size) :
    ∃ record, (graph.assignKind (.ref id)).records[id]? = some record ∧
      record.isUsable = true := by
  obtain ⟨record, hr⟩ := Option.isSome_iff_exists.mp (lt_size_iff.mp hid)
  refine ⟨record.stamp, ?_, Record.isUsable_stamp (hw.named_of_get hr)⟩
  rw [assignKind_get, if_pos rfl, hr, Option.map_some]

/-- Inside a finished run, a run went down from every record that was seen. -/
def WentDown (policy : MissingChild) (before after : Graph) (id : RecordId) : Prop :=
  ∃ depth mid last record, Extends before mid ∧ mid.records[id]? = some record ∧
    record.isUsable = true ∧ normalizeWithin policy depth mid (.ref id) = .done last ∧
    Extends last after

theorem wentDown_of_visitChild (hw : graph.WellFormed) (hid : id < graph.size)
    (h : visitChild (normalizeWithin policy depth) graph (.ref id) = .done after) :
    WentDown policy graph after id := by
  obtain ⟨record, hr, hu⟩ := usable_assignKind hw hid
  unfold visitChild at h
  dsimp only at h
  rw [isNode_ref hr, if_pos (isSome_of_isUsable hu)] at h
  exact ⟨depth, _, after, record, extends_assignKind _ _, hr, hu, h, .refl _⟩

theorem WentDown.widen {first last : Graph} (hw : first.WellFormed) (he : Extends first graph)
    (h : WentDown policy graph after id) (hl : Extends after last) :
    WentDown policy first last id := by
  obtain ⟨depth, mid, stop, record, hg, hr, hu, hdone, hs⟩ := h
  have hgrown := he.trans hw hg
  have hstop := (descends_normalizeWithin policy depth (hgrown.wellFormed hw) hr hu hdone).extends
    (hgrown.wellFormed hw)
  have hwstop := (hgrown.trans hw hstop).wellFormed hw
  exact ⟨depth, mid, stop, record, hgrown, hr, hu, hdone, hs.trans hwstop hl⟩

theorem wentDown_of_leads (hw : graph.WellFormed) (hr : graph.records[i]? = some record)
    (hu : record.isUsable = true) (h : normalizeWithin policy depth graph (.ref i) = .done after)
    (hl : Leads graph record (.ref id)) (hid : id < graph.size) :
    WentDown policy graph after id := by
  cases depth with
  | zero => cases h
  | succ depth =>
    obtain ⟨key, hk, hmem⟩ := List.mem_flatMap.mp ((mem_targets hw hr).mpr hl)
    obtain ⟨mid, last, hm, hkey, hlast⟩ := exists_visit_of_mem extends_of_visitKey hw h hk
    have hwm := hm.wellFormed hw
    have hidm : id < mid.size := hid.trans_eq hm.size_eq.symm
    -- The record keeps its fields until the key is visited.
    have hget : mid.get (.ref i) key = graph.get (.ref i) key := by
      rw [get_of_get (hm.get_usable hr hu), get_of_get hr]
    refine WentDown.widen hw hm ?_ hlast
    unfold visitKey at hkey
    unfold targetsAt at hmem
    dsimp only at hkey
    rw [hget] at hkey
    split at hmem
    · cases hmem
    · rename_i hnull
      rw [if_neg hnull] at hkey
      cases hi : (graph.get (.ref i) key).items? with
      | none =>
        simp only [hi, Option.getD_none, List.mem_singleton] at hkey hmem
        rw [← hmem] at hkey
        exact wentDown_of_visitChild hwm hidm hkey
      | some items =>
        simp only [hi, Option.getD_some] at hkey hmem
        obtain ⟨start, stop, hs, hchild, hstop⟩ :=
          exists_visit_of_mem extends_of_visitChild hwm hkey hmem
        exact (wentDown_of_visitChild (hs.wellFormed hwm) (hidm.trans_eq hs.size_eq.symm)
          hchild).widen hwm hs hstop

/-- The run went down from the record that is there at the end. -/
theorem WentDown.run (hw : before.WellFormed) (h : WentDown policy before after id)
    (hr : after.records[id]? = some record) :
    ∃ depth mid last, Extends before mid ∧ mid.records[id]? = some record ∧
      record.isUsable = true ∧ normalizeWithin policy depth mid (.ref id) = .done last ∧
      Extends last after := by
  obtain ⟨depth, mid, last, old, hm, hold, hu, hdone, hlast⟩ := h
  have hwm := hm.wellFormed hw
  have hext := (descends_normalizeWithin policy depth hwm hold hu hdone).extends hwm
  have hsame := (hext.trans hwm hlast).get_usable hold hu
  rw [hr] at hsame
  cases hsame
  exact ⟨depth, mid, last, hm, hold, hu, hdone, hlast⟩

theorem wentDown_of_reaches (hw : before.WellFormed) (hv : Visits before [.ref root] after)
    (hr : before.records[root]? = some record) (hu : record.isUsable = true)
    (h : normalizeWithin policy depth before (.ref root) = .done after)
    (hi : Reaches before after root i) : WentDown policy before after i := by
  refine hi.mem_closed (P := WentDown policy before after)
    ⟨depth, before, after, record, .refl _, hr, hu, h, .refl _⟩ ?_
  intro parent id record hdown hrec hl hid
  obtain ⟨depth, mid, last, hm, hrm, hu, hdone, hlast⟩ := hdown.run hw hrec
  have hsize := (hv.extends hw).size_eq.trans hm.size_eq.symm
  exact (wentDown_of_leads (hm.wellFormed hw) hrm hu hdone (hl.mono hw hm)
    (hid.trans_eq hsize)).widen hw hm hlast

/-- The child fields of a record are not empty: listed ones if it is complete,
and inferred ones never are. -/
theorem not_null_of_mem_childKeys (hw : graph.WellFormed) (hr : graph.records[i]? = some record)
    (hc : record.Complete) {key : String} (hk : key ∈ graph.childKeys (.ref i)) :
    ((record.fields.lookup key).getD .null).isNull = false := by
  rw [childKeys_of_get hr] at hk
  cases hkeys : record.listedKeys? with
  | some keys =>
    rw [hkeys] at hk
    exact hc keys hkeys key hk
  | none =>
    rw [hkeys] at hk
    obtain ⟨⟨_, field⟩, hf, rfl⟩ := List.mem_map.mp hk
    obtain ⟨hf, hlooks⟩ := List.mem_filter.mp hf
    have hd := hw.distinct record (Array.mem_of_getElem? hr)
    rw [(lookup_eq_some_iff hd).mpr hf, Option.getD_some]
    exact not_null_of_looksLikeChild hlooks

theorem complete_of_done (hw : graph.WellFormed) (hr : graph.records[i]? = some record)
    (hu : record.isUsable = true)
    (h : normalizeWithin .error depth graph (.ref i) = .done after) : record.Complete := by
  cases depth with
  | zero => cases h
  | succ depth =>
    intro keys hkeys key hk
    have hmem : key ∈ graph.childKeys (.ref i) := by
      rw [childKeys_of_get hr, hkeys]
      exact hk
    obtain ⟨mid, last, hm, hkey, -⟩ := exists_visit_of_mem extends_of_visitKey hw h hmem
    unfold visitKey at hkey
    dsimp only at hkey
    split at hkey
    · cases hkey
    · rename_i hnull
      rw [get_of_get (hm.get_usable hr hu)] at hnull
      simpa using hnull

-- ---------------------------------------------------------------------------
-- A second run
-- ---------------------------------------------------------------------------

theorem visitAll_eq_done {α : Type} {visit : Graph → α → Outcome} {xs : List α}
    (h : ∀ x ∈ xs, visit graph x = .done graph) : visitAll visit graph xs = .done graph := by
  induction xs with
  | nil => rfl
  | cons x rest ih =>
    obtain ⟨hx, hrest⟩ := List.forall_mem_cons.mp h
    simp only [visitAll, hx, Outcome.andThen, ih hrest]

section
variable (hw : before.WellFormed) (hv : Visits before [.ref root] after)
variable (hroot : root < before.size)
include hw hv hroot

/-- A child of a reached record has its kind, so it is only passed through. -/
theorem visitChild_settled {value : Value}
    (ih : ∀ id, Reaches before after root id → after.Below id i →
      normalizeWithin policy depth after (.ref id) = .done after)
    (hi : Reaches before after root i) (hr : after.records[i]? = some record)
    (hl : Leads after record value) :
    visitChild (normalizeWithin policy depth) after value = .done after := by
  have hstamped : StampedIn before (Reaches before after root) after :=
    ⟨hv.extends hw, fun j hj => reaches_of_changed hw hv hj⟩
  have hwa := (hv.extends hw).wellFormed hw
  obtain ⟨_, hr', hu⟩ := usable_of_reaches hw hv hroot hi
  rw [hr] at hr'
  cases hr'
  cases hn : (after.assignKind value).isNode value with
  | false =>
    have hsame := (assignKind_of_not_isNode hwa hn).1
    rw [hsame] at hn
    simp [visitChild, hsame, hn]
  | true =>
    obtain ⟨id, _, rfl, -, -⟩ := isNode_iff.mp hn
    obtain ⟨_, hs, -⟩ := usable_of_assignKind hwa hn
    have hid : id < before.size := by
      rw [← ((hv.extends hw).trans hw (extends_assignKind after (.ref id))).size_eq,
        lt_size_iff, hs]
      rfl
    obtain ⟨hreach, hb⟩ := hstamped.below_of_leads hw hv hroot hi hr hu hl hid
    obtain ⟨child, hc, huc⟩ := usable_of_reaches hw hv hroot hreach
    simp only [visitChild, assignKind_of_usable hc huc, isNode_ref hc, isSome_of_isUsable huc,
      ↓reduceIte]
    exact ih id hreach hb

theorem normalizeWithin_settled
    (hcomplete : policy = .error → ∀ {i : RecordId} {record : Record},
      Reaches before after root i → after.records[i]? = some record → record.Complete)
    (hi : Reaches before after root i) (hd : (after.descendants i).card < depth) :
    normalizeWithin policy depth after (.ref i) = .done after := by
  induction depth generalizing i with
  | zero => exact absurd hd (Nat.not_lt_zero _)
  | succ depth ih =>
    have hwa := (hv.extends hw).wellFormed hw
    obtain ⟨record, hr, hu⟩ := usable_of_reaches hw hv hroot hi
    have hchild : ∀ value, Leads after record value →
        visitChild (normalizeWithin policy depth) after value = .done after := by
      intro value hl
      refine visitChild_settled hw hv hroot (fun id hreach hb => ih hreach ?_) hi hr hl
      have hlt := card_descendants_lt (acc_of_reaches hw hv hroot hi) hb
      omega
    refine visitAll_eq_done fun key hk => ?_
    have hleads : ∀ value ∈ after.targetsAt (.ref i) key, Leads after record value :=
      fun value hvalue => (mem_targets hwa hr).mp (List.mem_flatMap.mpr ⟨key, hk, hvalue⟩)
    unfold targetsAt at hleads
    unfold visitKey
    dsimp only
    split
    · rename_i hnull
      cases hp : policy with
      | skip => rfl
      | error =>
        have hne := not_null_of_mem_childKeys hwa hr (hcomplete hp hi hr) hk
        rw [← get_of_get hr, hnull] at hne
        cases hne
    · rename_i hnull
      rw [if_neg hnull] at hleads
      split
      · rename_i items hitems
        rw [hitems] at hleads
        exact visitAll_eq_done fun value hvalue => hchild value (hleads value hvalue)
      · rename_i hitems
        rw [hitems] at hleads
        exact hchild _ (hleads _ (.head _))

end

/-- Once a normalization in place has returned, a second one with the same policy
returns too and leaves every record as it is. -/
theorem normalize_idempotent (before after : Graph) (first second : Config) (root : RecordId)
    (hw : before.WellFormed)
    (hroot : ∃ kind, kind ≠ "" ∧ before.get (.ref root) "kind" = .str kind)
    (hfirst : first.copyTree = false) (hsecond : second.copyTree = false)
    (hpolicy : first.missingChild = second.missingChild)
    (h : (normalize first.missingChild first.copyTree before (.ref root)).2 = .done after) :
    normalize second.missingChild second.copyTree after (.ref root) = (.ref root, .done after) := by
  obtain ⟨record, hr, hu⟩ := usable_of_get hroot
  have hlt : root < before.size := by
    rw [lt_size_iff, hr]
    rfl
  rw [hfirst] at h
  have hv := normalize_visits hw hr hu h
  have hd : (after.descendants root).card < after.visitDepth :=
    (after.card_descendants_le root).trans_lt after.size_lt_visitDepth
  have hsettled : normalizeWithin second.missingChild after.visitDepth after (.ref root) =
      .done after := by
    refine normalizeWithin_settled hw hv hlt (fun hp i record hi hrec => ?_) .root hd
    rw [hpolicy, hp] at h
    obtain ⟨_, mid, _, hm, hrm, hum, hdone, -⟩ :=
      (wentDown_of_reaches hw hv hr hu h hi).run hw hrec
    exact complete_of_done (hm.wellFormed hw) hrm hum hdone
  rw [hsecond]
  exact congrArg (Prod.mk _) hsettled

/-- The first field of the root is seen in the second run only: what it holds gets
its kind through the other field. -/
theorem normalize_idempotent_hidden :
    let graph : Graph := ⟨#[
      ⟨.node "Root", [("kind", .str "Root"), ("first", .ref 1), ("all", .tuple [.ref 1, .null])]⟩,
      ⟨.node "PrefixNot", [("kind", .list [.ref 2]), ("expression", .ref 2)]⟩,
      ⟨.node "Deep", [("kind", .str "")]⟩]⟩
    ∃ after, (normalize .error false graph (.ref 0)).2 = .done after ∧
      normalize .error false after (.ref 0) = (.ref 0, .done after) := by
  intro graph
  obtain ⟨after, h⟩ : ∃ after, (normalize .error false graph (.ref 0)).2 = .done after :=
    exists_done_of_isDone (by decide +kernel)
  have hw : graph.WellFormed := by
    constructor <;> simp [graph, RecordClass.name]
  have hroot : graph.get (.ref 0) "kind" = .str "Root" := rfl
  exact ⟨after, h, normalize_idempotent graph after {} { preserveWhitespaces := false } 0 hw
    ⟨"Root", by decide, hroot⟩ rfl rfl rfl h⟩

end Graph

end TemplateTree
