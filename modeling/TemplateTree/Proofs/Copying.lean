import Mathlib.Logic.Relation
import TemplateTree.Proofs.Depth

/-!
# Normalizing a copy

A normalization of a copy does to the copy what a normalization in place does to
the records themselves, which it leaves alone. Walking over the copy and walking
over the records go side by side: `beside` puts the copy behind the records, and
every step on the copy is the step on the records, put behind them.
-/

namespace TemplateTree

-- ---------------------------------------------------------------------------
-- Values and records under other numbers
-- ---------------------------------------------------------------------------

namespace Value

mutual

/-- The records that a value refers to, also inside lists, tuples and dictionaries. -/
def mentions : Value → List RecordId
  | ref id => [id]
  | list items => mentionsList items
  | tuple items => mentionsList items
  | dict entries => mentionsEntries entries
  | null | bool _ | int _ | float _ | str _ | bytes _ | enum _ _ _ => []

def mentionsList : List Value → List RecordId
  | [] => []
  | v :: rest => v.mentions ++ mentionsList rest

def mentionsEntry : Value × Value → List RecordId
  | (k, v) => k.mentions ++ v.mentions

def mentionsEntries : List (Value × Value) → List RecordId
  | [] => []
  | e :: rest => mentionsEntry e ++ mentionsEntries rest

end

variable (f : RecordId → RecordId)

mutual

theorem mentions_mapRefs : ∀ value : Value, (value.mapRefs f).mentions = value.mentions.map f
  | ref _ => rfl
  | list items => mentionsList_mapRefs items
  | tuple items => mentionsList_mapRefs items
  | dict entries => mentionsEntries_mapRefs entries
  | null | bool _ | int _ | float _ | str _ | bytes _ | enum _ _ _ => rfl

theorem mentionsList_mapRefs : ∀ items : List Value,
    mentionsList (mapRefsList f items) = (mentionsList items).map f
  | [] => rfl
  | v :: rest => by
    simp only [mapRefsList, mentionsList, List.map_append, mentions_mapRefs v,
      mentionsList_mapRefs rest]

theorem mentionsEntry_mapRefs : ∀ entry : Value × Value,
    mentionsEntry (mapRefsEntry f entry) = (mentionsEntry entry).map f
  | (k, v) => by
    simp only [mapRefsEntry, mentionsEntry, List.map_append, mentions_mapRefs k,
      mentions_mapRefs v]

theorem mentionsEntries_mapRefs : ∀ entries : List (Value × Value),
    mentionsEntries (mapRefsEntries f entries) = (mentionsEntries entries).map f
  | [] => rfl
  | e :: rest => by
    simp only [mapRefsEntries, mentionsEntries, List.map_append, mentionsEntry_mapRefs e,
      mentionsEntries_mapRefs rest]

end

theorem mapRefsList_eq (items : List Value) : mapRefsList f items = items.map (mapRefs f) := by
  induction items with
  | nil => rfl
  | cons v rest ih => simp [mapRefsList, ih]

@[simp] theorem isNull_mapRefs (value : Value) : (value.mapRefs f).isNull = value.isNull := by
  cases value <;> rfl

@[simp] theorem str?_mapRefs (value : Value) : (value.mapRefs f).str? = value.str? := by
  cases value <;> rfl

theorem items?_mapRefs (value : Value) :
    (value.mapRefs f).items? = value.items?.map (List.map (mapRefs f)) := by
  cases value <;> simp [mapRefs, items?, mapRefsList_eq]

end Value

section
variable (f : RecordId → RecordId)

theorem Fields.lookup_mapRefs (fields : Fields) (name : String) :
    (fields.map fun field => (field.1, field.2.mapRefs f)).lookup name =
      (fields.lookup name).map (Value.mapRefs f) := by
  induction fields with
  | nil => rfl
  | cons field rest ih =>
    rw [List.map_cons, List.lookup_cons, List.lookup_cons, ih]
    cases name == field.1 <;> rfl

theorem Fields.set_mapRefs (fields : Fields) (name : String) (value : Value) :
    Fields.set (fields.map fun field => (field.1, field.2.mapRefs f)) name (value.mapRefs f) =
      (fields.set name value).map fun field => (field.1, field.2.mapRefs f) := by
  induction fields with
  | nil => rfl
  | cons field rest ih =>
    obtain ⟨key, old⟩ := field
    by_cases hk : key = name
    · simp [Fields.set, hk]
    · simp [Fields.set, hk, ih]

namespace Record

theorem set_mapRefs (record : Record) (name : String) (value : Value) :
    (record.mapRefs f).set name (value.mapRefs f) = (record.set name value).mapRefs f := by
  simp only [Record.set, Record.mapRefs, Fields.set_mapRefs]

theorem kind_mapRefs (record : Record) : (record.mapRefs f).kind = record.kind.mapRefs f := by
  simp only [kind, mapRefs, Fields.lookup_mapRefs]
  cases record.fields.lookup "kind" <;> rfl

theorem stamp_mapRefs (record : Record) : (record.mapRefs f).stamp = record.stamp.mapRefs f := by
  have husable : (record.mapRefs f).isUsable = record.isUsable := by
    simp only [isUsable, kind_mapRefs, Value.str?_mapRefs]
  cases hu : record.isUsable with
  | true => rw [stamp_of_usable hu, stamp_of_usable (husable.trans hu)]
  | false =>
    rw [stamp_of_not_usable hu, stamp_of_not_usable (husable.trans hu), kind_mapRefs,
      Value.isNull_mapRefs, ← set_mapRefs]
    split
    · rfl
    · rw [← set_mapRefs]
      rfl

end Record

end

namespace Graph

variable {base graph : Graph} {policy : MissingChild} {id : RecordId}

-- ---------------------------------------------------------------------------
-- A graph beside another
-- ---------------------------------------------------------------------------

def shift (base : Graph) (id : RecordId) : RecordId := id + base.size

/-- The records of a graph behind those of `base`, under new numbers. -/
def beside (base graph : Graph) : Graph :=
  ⟨base.records ++ graph.records.map (Record.mapRefs base.shift)⟩

theorem get_beside_left (h : id < base.size) :
    (beside base graph).records[id]? = base.records[id]? :=
  Array.getElem?_append_left h

theorem get_beside_shift (base graph : Graph) (id : RecordId) :
    (beside base graph).records[base.shift id]? =
      graph.records[id]?.map (Record.mapRefs base.shift) := by
  show (base.records ++ graph.records.map (Record.mapRefs base.shift))[id + base.records.size]? = _
  rw [Array.getElem?_append_right (Nat.le_add_left _ _), Nat.add_sub_cancel, Array.getElem?_map]

theorem exists_shift (h : ¬ id < base.size) : ∃ old, base.shift old = id :=
  ⟨id - base.size, Nat.sub_add_cancel (Nat.le_of_not_lt h)⟩

theorem shift_injective {a b : RecordId} (h : base.shift a = base.shift b) : a = b :=
  Nat.add_right_cancel h

theorem fieldsOf_beside (base graph : Graph) (value : Value) :
    (beside base graph).fieldsOf (value.mapRefs base.shift) =
      (graph.fieldsOf value).map fun field => (field.1, field.2.mapRefs base.shift) := by
  cases value with
  | ref id =>
    simp only [Value.mapRefs, fieldsOf, fields, get_beside_shift]
    cases graph.records[id]? <;> rfl
  | _ => rfl

theorem get_beside (base graph : Graph) (value : Value) (name : String) :
    (beside base graph).get (value.mapRefs base.shift) name =
      (graph.get value name).mapRefs base.shift := by
  simp only [get, fieldsOf_beside, Fields.lookup_mapRefs]
  cases (graph.fieldsOf value).lookup name <;> rfl

theorem isNode_beside (base graph : Graph) (value : Value) :
    (beside base graph).isNode (value.mapRefs base.shift) = graph.isNode value := by
  simp only [isNode, get_beside, Value.str?_mapRefs]

theorem childKeys_beside (base graph : Graph) (value : Value) :
    (beside base graph).childKeys (value.mapRefs base.shift) = graph.childKeys value := by
  have hlooks : ∀ field : String × Value,
      (beside base graph).looksLikeChild field.1 (field.2.mapRefs base.shift) =
        graph.looksLikeChild field.1 field.2 := by
    intro field
    simp only [looksLikeChild, isNode_beside, Value.items?_mapRefs, Option.isSome_map]
  simp only [childKeys, inferredKeys, get_beside, Value.str?_mapRefs, fieldsOf_beside,
    List.filter_map, List.map_map, Function.comp_def, hlooks]

theorem assignKind_beside (base graph : Graph) (value : Value) :
    (beside base graph).assignKind (value.mapRefs base.shift) =
      beside base (graph.assignKind value) := by
  cases value with
  | ref id =>
    refine eq_of_records fun i => ?_
    rw [Value.mapRefs, assignKind_get]
    by_cases hi : i < base.size
    · have hne : base.shift id ≠ i := fun h => Nat.not_lt.mpr (h ▸ Nat.le_add_left _ _) hi
      rw [if_neg hne, get_beside_left hi, get_beside_left hi]
    · obtain ⟨old, rfl⟩ := exists_shift hi
      rw [get_beside_shift, get_beside_shift, assignKind_get]
      by_cases hold : id = old
      · simp only [hold, ↓reduceIte, Option.map_map, Function.comp_def, Record.stamp_mapRefs]
      · rw [if_neg hold, if_neg fun h => hold (shift_injective h)]
  | _ => rfl

-- ---------------------------------------------------------------------------
-- Two walks side by side
-- ---------------------------------------------------------------------------

def Outcome.map (f : Graph → Graph) : Outcome → Outcome
  | done graph => done (f graph)
  | missing graph kind field => missing (f graph) kind field
  | endless => endless

theorem visitAll_beside {α : Type} {visit visit' : Graph → α → Outcome} {m : α → α}
    (h : ∀ graph x, visit' (beside base graph) (m x) = (visit graph x).map (beside base))
    (graph : Graph) (xs : List α) :
    visitAll visit' (beside base graph) (xs.map m) =
      (visitAll visit graph xs).map (beside base) := by
  induction xs generalizing graph with
  | nil => rfl
  | cons x rest ih =>
    rw [List.map_cons, visitAll, visitAll, h]
    cases visit graph x with
    | done mid => exact ih mid
    | missing mid kind field => rfl
    | endless => rfl

section
variable {descend descend' : Graph → Value → Outcome}
variable (h : ∀ graph node, descend' (beside base graph) (node.mapRefs base.shift) =
  (descend graph node).map (beside base))
include h

theorem visitChild_beside (graph : Graph) (child : Value) :
    visitChild descend' (beside base graph) (child.mapRefs base.shift) =
      (visitChild descend graph child).map (beside base) := by
  simp only [visitChild, assignKind_beside, isNode_beside, h]
  split <;> rfl

theorem visitKey_beside (policy : MissingChild) (node : Value) (graph : Graph) (key : String) :
    visitKey policy descend' (node.mapRefs base.shift) (beside base graph) key =
      (visitKey policy descend node graph key).map (beside base) := by
  simp only [visitKey, get_beside, Value.isNull_mapRefs, Value.str?_mapRefs, Value.items?_mapRefs]
  split
  · cases policy <;> rfl
  · cases (graph.get node key).items? with
    | some items => exact visitAll_beside (visitChild_beside h) graph items
    | none => exact visitChild_beside h graph _

end

/-- A walk over the graph behind goes as the walk over the graph alone. -/
theorem normalizeWithin_beside (depth : Nat) (graph : Graph) (node : Value) :
    normalizeWithin policy depth (beside base graph) (node.mapRefs base.shift) =
      (normalizeWithin policy depth graph node).map (beside base) := by
  induction depth generalizing graph node with
  | zero => rfl
  | succ depth ih =>
    have hkeys := visitAll_beside (m := id) (visitKey_beside ih policy node) graph
      (graph.childKeys node)
    rw [List.map_id] at hkeys
    rw [normalizeWithin, childKeys_beside]
    exact hkeys

theorem normalize_copy_eq (policy : MissingChild) (graph : Graph) (root : Value) :
    normalize policy true graph root = (root.mapRefs graph.shift,
      (normalize policy false graph root).2.map (beside graph)) := by
  have hdepth : graph.visitDepth ≤ (beside graph graph).visitDepth := by
    have hsize : (beside graph graph).size = graph.size + graph.size := by
      simp [beside, size]
    unfold visitDepth
    rw [hsize]
    exact Nat.mul_le_mul (by omega) (by omega)
  have hsame : normalizeWithin policy (beside graph graph).visitDepth graph root =
      normalizeWithin policy graph.visitDepth graph root := by
    by_cases hends : normalizeWithin policy (beside graph graph).visitDepth graph root = .endless
    · rw [hends]
      by_contra hne
      rw [normalizeWithin_of_le (Ne.symm hne) hdepth] at hends
      exact hne hends.symm
    · exact (normalizeWithin_visitDepth hends).symm
  show (root.mapRefs graph.shift,
    normalizeWithin policy (beside graph graph).visitDepth (beside graph graph)
      (root.mapRefs graph.shift)) = _
  rw [normalizeWithin_beside, hsame]
  rfl

-- ---------------------------------------------------------------------------
-- Isomorphic graphs
-- ---------------------------------------------------------------------------

def Mentions (graph : Graph) (id other : RecordId) : Prop :=
  ∃ record, graph.records[id]? = some record ∧ ∃ field ∈ record.fields, other ∈ field.2.mentions

/-- What can be reached from a record through all its fields. -/
def Contains (graph : Graph) (root id : RecordId) : Prop :=
  Relation.ReflTransGen graph.Mentions root id

/-- Up to the numbers of the records, one root contains what the other does: the
same classes and fields, and the same record wherever the other has the same. -/
structure Isomorphism (graph : Graph) (root : RecordId) (other : Graph) (otherRoot : RecordId)
    (rename : RecordId → RecordId) : Prop where
  top : rename root = otherRoot
  injective : ∀ {a b}, graph.Contains root a → graph.Contains root b → rename a = rename b → a = b
  record : ∀ {id}, graph.Contains root id →
    other.records[rename id]? = graph.records[id]?.map (Record.mapRefs rename)
  onto : ∀ {id}, other.Contains otherRoot id → ∃ old, graph.Contains root old ∧ rename old = id

theorem contains_beside {root : RecordId} (h : (beside base graph).Contains (base.shift root) id) :
    ∃ old, graph.Contains root old ∧ base.shift old = id := by
  induction h with
  | refl => exact ⟨root, .refl, rfl⟩
  | @tail parent child _ hstep ih =>
    obtain ⟨old, hold, rfl⟩ := ih
    obtain ⟨_, hr, field, hf, hc⟩ := hstep
    rw [get_beside_shift, Option.map_eq_some_iff] at hr
    obtain ⟨record, hr, rfl⟩ := hr
    obtain ⟨⟨name, value⟩, hv, rfl⟩ := List.mem_map.mp hf
    rw [Value.mentions_mapRefs] at hc
    obtain ⟨below, hb, rfl⟩ := List.mem_map.mp hc
    exact ⟨below, hold.tail ⟨record, hr, (name, value), hv, hb⟩, rfl⟩

theorem isomorphism_beside (base graph : Graph) (root : RecordId) :
    Isomorphism graph root (beside base graph) (base.shift root) base.shift :=
  ⟨rfl, fun _ _ h => shift_injective h, fun _ => get_beside_shift base graph _, contains_beside⟩

/-- A normalization of a copy leaves every record as it was, stops where a
normalization in place would, and returns a root that contains new records only:
those that the normalization in place would have left, under other numbers. -/
theorem normalize_copy_isolates (policy : MissingChild) (graph : Graph) (root : RecordId) :
    ∃ newRoot outcome, normalize policy true graph (.ref root) = (.ref newRoot, outcome) ∧
      (∀ after, outcome.graph? = some after →
        ∀ id < graph.size, after.records[id]? = graph.records[id]?) ∧
      outcome.missing? = (normalize policy false graph (.ref root)).2.missing? ∧
      (outcome = .endless ↔ (normalize policy false graph (.ref root)).2 = .endless) ∧
      ∀ copied, outcome = .done copied →
        (∀ id, copied.Contains newRoot id → graph.size ≤ id) ∧
        ∃ after rename, (normalize policy false graph (.ref root)).2 = .done after ∧
          Isomorphism after root copied newRoot rename := by
  refine ⟨graph.shift root, _, normalize_copy_eq policy graph (.ref root), ?_⟩
  cases (normalize policy false graph (.ref root)).2 with
  | done after =>
    refine ⟨?_, rfl, by simp [Outcome.map], ?_⟩
    · rintro _ ⟨⟩ id hid
      exact get_beside_left hid
    · rintro _ ⟨⟩
      refine ⟨fun id hid => ?_, after, graph.shift, rfl, isomorphism_beside graph after root⟩
      obtain ⟨old, -, rfl⟩ := contains_beside hid
      exact Nat.le_add_left _ _
  | missing after kind field =>
    refine ⟨?_, rfl, by simp [Outcome.map], ?_⟩
    · rintro _ ⟨⟩ id hid
      exact get_beside_left hid
    · rintro _ ⟨⟩
  | endless =>
    refine ⟨?_, rfl, by simp [Outcome.map], ?_⟩
    · rintro _ ⟨⟩
    · rintro _ ⟨⟩

end Graph

end TemplateTree
