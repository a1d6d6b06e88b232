import TemplateTree.Proofs.Stamping

/-!
# Visits in any order

What a record leads to is read off its own fields; the rest of the graph only
decides which fields are seen. A visit stamps a record and then visits what it
leads to, in any order, and normalization is such a visit.
-/

namespace TemplateTree

def Record.listedKeys? (record : Record) : Option (List String) :=
  record.kind.str?.bind (Graph.childKeyTable.lookup ·)

namespace Graph

variable {graph mid after : Graph} {id i : RecordId} {record : Record} {value : Value}

-- ---------------------------------------------------------------------------
-- What a record leads to
-- ---------------------------------------------------------------------------

/-- The value, or an element of it, stands in a field that is taken for a child
field when the graph is `view`. -/
def Leads (view : Graph) (record : Record) (value : Value) : Prop :=
  ∃ key field, (key, field) ∈ record.fields ∧ field.isNull = false ∧
    value ∈ field.items?.getD [field] ∧
    match record.listedKeys? with
    | some keys => key ∈ keys
    | none => view.looksLikeChild key field = true

def targetsAt (graph : Graph) (node : Value) (key : String) : List Value :=
  if (graph.get node key).isNull then []
  else (graph.get node key).items?.getD [graph.get node key]

def targets (graph : Graph) (node : Value) : List Value :=
  (graph.childKeys node).flatMap (graph.targetsAt node)

theorem looksLikeChild_iff {key : String} {field : Value} :
    graph.looksLikeChild key field = true ↔
      key ∉ excludedKeys ∧ (field.items?.isSome = true ∨ graph.isNode field = true) := by
  simp [looksLikeChild]

theorem not_null_of_looksLikeChild {key : String} {field : Value}
    (h : graph.looksLikeChild key field = true) : field.isNull = false := by
  cases field with
  | null => simp [looksLikeChild, isNode, get, fieldsOf, Value.items?, Value.str?] at h
  | _ => rfl

theorem mem_targetsAt (hw : graph.WellFormed) (hr : graph.records[id]? = some record)
    {key : String} : value ∈ graph.targetsAt (.ref id) key ↔
      ∃ field, (key, field) ∈ record.fields ∧ field.isNull = false ∧
        value ∈ field.items?.getD [field] := by
  have hd := hw.distinct record (Array.mem_of_getElem? hr)
  simp only [targetsAt, get_of_get hr, ← lookup_eq_some_iff hd]
  cases record.fields.lookup key with
  | none => simp [Value.isNull]
  | some field => cases hn : field.isNull <;> simp [hn]

theorem childKeys_of_get (hr : graph.records[id]? = some record) :
    graph.childKeys (.ref id) = record.listedKeys?.getD
      ((record.fields.filter fun (name, field) => graph.looksLikeChild name field).map (·.1)) := by
  unfold childKeys inferredKeys Record.listedKeys?
  rw [get_kind hr, fieldsOf, fields_of_get hr]
  cases record.kind.str?.bind (childKeyTable.lookup ·) <;> rfl

theorem mem_targets (hw : graph.WellFormed) (hr : graph.records[id]? = some record) :
    value ∈ graph.targets (.ref id) ↔ Leads graph record value := by
  have hd := hw.distinct record (Array.mem_of_getElem? hr)
  simp only [targets, List.mem_flatMap, mem_targetsAt hw hr, childKeys_of_get hr, Leads]
  cases record.listedKeys? with
  | some keys =>
    constructor
    · rintro ⟨key, hk, field, hf, hn, hv⟩
      exact ⟨key, field, hf, hn, hv, hk⟩
    · rintro ⟨key, field, hf, hn, hv, hk⟩
      exact ⟨key, hk, field, hf, hn, hv⟩
  | none =>
    constructor
    · rintro ⟨key, hk, field, hf, hn, hv⟩
      obtain ⟨⟨_, other⟩, ho, rfl⟩ := List.mem_map.mp hk
      obtain ⟨ho, hl⟩ := List.mem_filter.mp ho
      -- The name of a field determines its value.
      have heq : some other = some field :=
        ((lookup_eq_some_iff hd).mpr ho).symm.trans
          ((lookup_eq_some_iff hd).mpr hf)
      cases heq
      exact ⟨_, field, hf, hn, hv, hl⟩
    · rintro ⟨key, field, hf, hn, hv, hl⟩
      exact ⟨key, List.mem_map.mpr ⟨_, List.mem_filter.mpr ⟨hf, hl⟩, rfl⟩, field, hf, hn, hv⟩

theorem mem_children (hw : graph.WellFormed) (hr : graph.records[id]? = some record) :
    value ∈ graph.children (.ref id) ↔ Leads graph record value ∧ graph.isNode value = true := by
  rw [← mem_targets hw hr]
  simp only [children, targets, List.mem_flatMap, childrenAt, List.mem_filter, targetsAt]
  constructor
  · rintro ⟨key, hk, hv, hn⟩
    refine ⟨⟨key, hk, ?_⟩, hn⟩
    split
    · rename_i hnull
      cases hc : graph.get (.ref id) key with
      | null =>
        simp only [hc, Value.items?, Option.getD_none, List.mem_singleton] at hv
        rw [hv] at hn
        cases hn
      | _ =>
        rw [hc] at hnull
        cases hnull
    · exact hv
  · rintro ⟨⟨key, hk, hv⟩, hn⟩
    split at hv
    · cases hv
    · exact ⟨key, hk, hv, hn⟩

theorem Leads.mono (hw : graph.WellFormed) (he : Extends graph after)
    (h : Leads graph record value) : Leads after record value := by
  obtain ⟨key, field, hf, hn, hv, hk⟩ := h
  refine ⟨key, field, hf, hn, hv, ?_⟩
  cases hl : record.listedKeys? with
  | some keys =>
    rw [hl] at hk
    exact hk
  | none =>
    rw [hl] at hk
    have hk := looksLikeChild_iff.mp hk
    exact looksLikeChild_iff.mpr ⟨hk.1, hk.2.imp_right (he.isNode hw)⟩

/-- A field is newly seen only if its value has become a node. -/
theorem Leads.seen_before (h : Leads after record value) (graph : Graph) :
    Leads graph record value ∨ after.isNode value = true ∧ graph.isNode value = false := by
  obtain ⟨key, field, hf, hn, hv, hk⟩ := h
  cases hl : record.listedKeys? with
  | some keys =>
    rw [hl] at hk
    exact .inl ⟨key, field, hf, hn, hv, by rw [hl]; exact hk⟩
  | none =>
    rw [hl] at hk
    obtain ⟨hx, hk⟩ := looksLikeChild_iff.mp hk
    by_cases hb : field.items?.isSome = true ∨ graph.isNode field = true
    · exact .inl ⟨key, field, hf, hn, hv, by rw [hl]; exact looksLikeChild_iff.mpr ⟨hx, hb⟩⟩
    · rw [not_or] at hb
      have hi : field.items? = none := by simpa using hb.1
      simp only [hi, Option.getD_none, List.mem_singleton] at hv
      subst hv
      exact .inr ⟨hk.resolve_left hb.1, by simpa using hb.2⟩

-- ---------------------------------------------------------------------------
-- Visits
-- ---------------------------------------------------------------------------

/-- `Visits graph values after`: the values are given their kinds one after
another, and below each node its targets are visited in some order. -/
inductive Visits : Graph → List Value → Graph → Prop
  | nil {graph : Graph} : Visits graph [] graph
  | leaf {graph after : Graph} {value : Value} {rest : List Value} :
      (graph.assignKind value).isNode value = false →
      Visits (graph.assignKind value) rest after → Visits graph (value :: rest) after
  | node {graph mid after : Graph} {value : Value} {rest below : List Value} :
      (graph.assignKind value).isNode value = true →
      below.Perm ((graph.assignKind value).targets value) →
      Visits (graph.assignKind value) below mid → Visits mid rest after →
      Visits graph (value :: rest) after

theorem Visits.append {first rest : List Value} (h : Visits graph first mid)
    (h' : Visits mid rest after) : Visits graph (first ++ rest) after := by
  induction h with
  | nil => exact h'
  | leaf hn _ ih => exact .leaf hn (ih h')
  | node hn hp hb _ _ ih => exact .node hn hp hb (ih h')

theorem Visits.extends {values : List Value} (hw : graph.WellFormed)
    (h : Visits graph values after) : Extends graph after := by
  induction h with
  | nil => exact .refl _
  | @leaf graph _ value _ _ _ ih =>
    have he := extends_assignKind graph value
    exact he.trans hw (ih (he.wellFormed hw))
  | @node graph _ _ value _ _ _ _ _ _ ihb ihr =>
    have he := extends_assignKind graph value
    have hb := ihb (he.wellFormed hw)
    have hm := he.trans hw hb
    exact hm.trans hw (ihr (hm.wellFormed hw))

-- ---------------------------------------------------------------------------
-- Normalization is a visit
-- ---------------------------------------------------------------------------

theorem andThen_eq_done {outcome : Outcome} {next : Graph → Outcome}
    (h : outcome.andThen next = .done after) : ∃ mid, outcome = .done mid ∧ next mid = .done after := by
  cases outcome with
  | done mid => exact ⟨mid, rfl, h⟩
  | missing graph kind field => cases h
  | endless => cases h

def Descends (descend : Graph → Value → Outcome) : Prop :=
  ∀ {graph after : Graph} {id : RecordId} {record : Record}, graph.WellFormed → graph.records[id]? = some record →
    record.isUsable = true → descend graph (.ref id) = .done after →
    Visits graph (graph.targets (.ref id)) after

theorem visitChild_visits {descend : Graph → Value → Outcome} (hd : Descends descend)
    (hw : graph.WellFormed) {child : Value} (h : visitChild descend graph child = .done after) :
    Visits graph [child] after := by
  unfold visitChild at h
  dsimp only at h
  split at h
  · rename_i hn
    obtain ⟨id, _, rfl, -, -⟩ := isNode_iff.mp hn
    obtain ⟨record, hr, hu⟩ := usable_of_assignKind hw hn
    exact .node hn (.refl _) (hd ((extends_assignKind _ _).wellFormed hw) hr hu h) .nil
  · rename_i hn
    cases h
    exact .leaf (by simpa using hn) .nil

theorem visitAll_visitChild_visits {descend : Graph → Value → Outcome} (hd : Descends descend)
    {items : List Value} (hw : graph.WellFormed)
    (h : visitAll (visitChild descend) graph items = .done after) : Visits graph items after := by
  induction items generalizing graph with
  | nil =>
    cases h
    exact .nil
  | cons item rest ih =>
    obtain ⟨mid, hc, hr⟩ := andThen_eq_done h
    have hv := visitChild_visits hd hw hc
    exact hv.append (ih ((hv.extends hw).wellFormed hw) hr)

theorem visitKey_visits {policy : MissingChild} {descend : Graph → Value → Outcome}
    (hd : Descends descend) (hw : graph.WellFormed) {node : Value} {key : String}
    (h : visitKey policy descend node graph key = .done after) :
    Visits graph (graph.targetsAt node key) after := by
  unfold visitKey at h
  unfold targetsAt
  dsimp only at h
  split at h
  · rename_i hnull
    rw [if_pos hnull]
    cases policy with
    | skip =>
      cases h
      exact .nil
    | error => cases h
  · rename_i hnull
    rw [if_neg hnull]
    split at h
    · rename_i items hi
      rw [hi]
      exact visitAll_visitChild_visits hd hw h
    · rename_i hi
      rw [hi]
      exact visitChild_visits hd hw h

theorem visitAll_visitKey_visits {policy : MissingChild} {descend : Graph → Value → Outcome}
    (hd : Descends descend) {keys : List String} (hw : graph.WellFormed)
    (hr : graph.records[id]? = some record) (hu : record.isUsable = true)
    (h : visitAll (visitKey policy descend (.ref id)) graph keys = .done after) :
    Visits graph (keys.flatMap (graph.targetsAt (.ref id))) after := by
  -- The targets are those of the first graph, so they are carried along beside it.
  have hsame : ∀ {first : Graph}, first.records[id]? = some record →
      first.targetsAt (.ref id) = graph.targetsAt (.ref id) := by
    intro first hf
    funext key
    simp only [targetsAt, get_of_get hf, get_of_get hr]
  generalize graph.targetsAt (.ref id) = contributed at hsame ⊢
  induction keys generalizing graph with
  | nil =>
    cases h
    exact .nil
  | cons key rest ih =>
    obtain ⟨mid, hk, hrest⟩ := andThen_eq_done h
    have hv := visitKey_visits hd hw hk
    have he := hv.extends hw
    rw [hsame hr] at hv
    exact hv.append (ih (he.wellFormed hw) (he.get_usable hr hu) hrest)

theorem descends_normalizeWithin (policy : MissingChild) (depth : Nat) :
    Descends (normalizeWithin policy depth) := by
  induction depth with
  | zero =>
    intro _ _ _ _ _ _ _ h
    cases h
  | succ depth ih =>
    intro _ _ _ _ hw hr hu h
    exact visitAll_visitKey_visits ih hw hr hu h

theorem normalize_visits {policy : MissingChild} (hw : graph.WellFormed)
    (hr : graph.records[id]? = some record) (hu : record.isUsable = true)
    (h : (normalize policy false graph (.ref id)).2 = .done after) :
    Visits graph [.ref id] after := by
  have hv := descends_normalizeWithin policy _ hw hr hu h
  have ha := assignKind_of_usable hr hu
  refine .node ?_ (.refl _) (by rw [ha]; exact hv) .nil
  rw [ha, isNode_ref hr]
  exact isSome_of_isUsable hu

end Graph

end TemplateTree
