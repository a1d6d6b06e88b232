import TemplateTree.Graph.Walk

/-!
# Stamped records

Normalization changes a record in one way only: it stamps it with its class name
as kind, once. What holds of a graph and of the graphs it grows into is said
record by record.
-/

namespace TemplateTree

-- ---------------------------------------------------------------------------
-- Records
-- ---------------------------------------------------------------------------

theorem mem_of_lookup {α β : Type} [BEq α] [LawfulBEq α] {entries : List (α × β)} {key : α}
    {value : β} (h : entries.lookup key = some value) : (key, value) ∈ entries := by
  obtain ⟨_, _, rfl, -⟩ := List.lookup_eq_some_iff.mp h
  simp

theorem lookup_eq_some_iff {α β : Type} [BEq α] [LawfulBEq α] {entries : List (α × β)}
    (h : (entries.map Prod.fst).Nodup) {key : α} {value : β} :
    entries.lookup key = some value ↔ (key, value) ∈ entries := by
  refine ⟨mem_of_lookup, fun hm => ?_⟩
  obtain ⟨front, back, rfl⟩ := List.append_of_mem hm
  rw [List.map_append, List.nodup_append] at h
  refine List.lookup_eq_some_iff.mpr ⟨front, back, rfl, fun entry he => ?_⟩
  have hne := h.2.2 entry.1 (List.mem_map_of_mem he) key (by simp)
  simpa using Ne.symm hne

namespace Fields

theorem lookup_set_self (fields : Fields) (name : String) (value : Value) :
    (fields.set name value).lookup name = some value := by
  induction fields with
  | nil => simp [Fields.set]
  | cons field rest ih =>
    obtain ⟨key, old⟩ := field
    by_cases h : key = name
    · simp [Fields.set, h]
    · simp [Fields.set, h, List.lookup_cons, ih, beq_false_of_ne (Ne.symm h)]

theorem lookup_set_of_ne {fields : Fields} {name key : String} (h : key ≠ name)
    (value : Value) : (fields.set name value).lookup key = fields.lookup key := by
  induction fields with
  | nil => simp [Fields.set, List.lookup_cons, beq_false_of_ne h]
  | cons field rest ih =>
    obtain ⟨first, old⟩ := field
    by_cases hn : first = name
    · simp [Fields.set, hn, List.lookup_cons, beq_false_of_ne h]
    · simp [Fields.set, hn, List.lookup_cons, ih]

theorem map_fst_set (fields : Fields) (name : String) (value : Value) :
    (fields.set name value).map Prod.fst =
      if name ∈ fields.map Prod.fst then fields.map Prod.fst
      else fields.map Prod.fst ++ [name] := by
  induction fields with
  | nil => simp [Fields.set]
  | cons field rest ih =>
    obtain ⟨key, old⟩ := field
    by_cases h : key = name
    · simp [Fields.set, h]
    · have hne : ¬ name = key := fun hn => h hn.symm
      simp only [Fields.set, if_neg h, List.map_cons, ih, List.mem_cons, hne, false_or]
      split <;> simp

theorem nodup_set {fields : Fields} (h : (fields.map Prod.fst).Nodup) (name : String)
    (value : Value) : ((fields.set name value).map Prod.fst).Nodup := by
  rw [map_fst_set]
  split
  · exact h
  · rename_i hn
    rw [List.nodup_append]
    refine ⟨h, by simp, ?_⟩
    intro a ha b hb hab
    rw [List.mem_singleton] at hb
    exact hn (hb ▸ hab ▸ ha)

end Fields

namespace Record

def kind (record : Record) : Value := (record.fields.lookup "kind").getD .null

def isUsable (record : Record) : Bool := record.kind.str?.any (· ≠ "")

/-- The record with its class name as kind, unless its kind is usable. -/
def stamp (record : Record) : Record :=
  if record.isUsable then record
  else
    (if record.kind.isNull then record else record.set "original_kind" record.kind).set "kind"
      (.str record.type.name)

theorem stamp_of_usable {record : Record} (h : record.isUsable = true) :
    record.stamp = record := if_pos h

@[simp] theorem type_stamp (record : Record) : record.stamp.type = record.type := by
  unfold stamp
  split
  · rfl
  · split <;> rfl

theorem isUsable_stamp {record : Record} (h : record.type.name ≠ "") :
    record.stamp.isUsable = true := by
  unfold stamp
  split
  · rename_i hu
    exact hu
  · simp [isUsable, kind, Record.set, Fields.lookup_set_self, Value.str?, h]

theorem stamp_stamp {record : Record} (h : record.type.name ≠ "") :
    record.stamp.stamp = record.stamp := stamp_of_usable (isUsable_stamp h)

theorem nodup_stamp {record : Record} (h : (record.fields.map Prod.fst).Nodup) :
    (record.stamp.fields.map Prod.fst).Nodup := by
  unfold stamp
  split
  · exact h
  · split
    · exact Fields.nodup_set h _ _
    · exact Fields.nodup_set (Fields.nodup_set h _ _) _ _

theorem lookup_stamp_of_ne {record : Record} {key : String} (hk : key ≠ "kind")
    (ho : key ≠ "original_kind") :
    record.stamp.fields.lookup key = record.fields.lookup key := by
  unfold stamp
  split
  · rfl
  · split
    · exact Fields.lookup_set_of_ne hk _
    · exact (Fields.lookup_set_of_ne hk _).trans (Fields.lookup_set_of_ne ho _)

theorem str?_of_isUsable {record : Record} (h : record.isUsable = true) :
    ∃ text, text ≠ "" ∧ record.kind = .str text := by
  unfold isUsable at h
  cases hk : record.kind with
  | str text =>
    rw [hk] at h
    exact ⟨text, by simpa [Value.str?] using h, rfl⟩
  | _ =>
    rw [hk] at h
    cases h

end Record

namespace Graph

variable {graph mid after : Graph} {id i : RecordId} {record : Record}

-- ---------------------------------------------------------------------------
-- Reading records
-- ---------------------------------------------------------------------------

/-- Classes have names, and the fields of a record have different names. -/
structure WellFormed (graph : Graph) : Prop where
  named : ∀ record ∈ graph.records, record.type.name ≠ ""
  distinct : ∀ record ∈ graph.records, (record.fields.map Prod.fst).Nodup

theorem fields_of_get (h : graph.records[id]? = some record) : graph.fields id = record.fields := by
  simp [fields, h]

theorem get_of_get (h : graph.records[id]? = some record) (name : String) :
    graph.get (.ref id) name = (record.fields.lookup name).getD .null := by
  simp [get, fieldsOf, fields_of_get h]

theorem get_kind (h : graph.records[id]? = some record) :
    graph.get (.ref id) "kind" = record.kind := get_of_get h "kind"

theorem isNode_iff {value : Value} : graph.isNode value = true ↔
    ∃ id record, value = .ref id ∧ graph.records[id]? = some record ∧
      record.kind.str?.isSome = true := by
  constructor
  · intro h
    cases value with
    | ref id =>
      cases hr : graph.records[id]? with
      | none => simp [isNode, get, fieldsOf, fields, hr, Value.str?] at h
      | some record =>
        rw [isNode, get_kind hr] at h
        exact ⟨id, record, rfl, hr, h⟩
    | _ => simp [isNode, get, fieldsOf, Value.str?] at h
  · rintro ⟨id, record, rfl, hr, hk⟩
    rw [isNode, get_kind hr]
    exact hk

theorem isNode_ref (h : graph.records[id]? = some record) :
    graph.isNode (.ref id) = record.kind.str?.isSome := by
  rw [isNode, get_kind h]

theorem usable_of_get (h : ∃ kind, kind ≠ "" ∧ graph.get (.ref id) "kind" = .str kind) :
    ∃ record, graph.records[id]? = some record ∧ record.isUsable = true := by
  obtain ⟨kind, hne, hk⟩ := h
  have hn : graph.isNode (.ref id) = true := by simp [isNode, hk, Value.str?]
  obtain ⟨_, record, ⟨⟩, hr, -⟩ := isNode_iff.mp hn
  rw [get_kind hr] at hk
  exact ⟨record, hr, by simp [Record.isUsable, hk, Value.str?, hne]⟩

theorem isSome_of_isUsable (h : record.isUsable = true) : record.kind.str?.isSome = true := by
  obtain ⟨text, -, hk⟩ := Record.str?_of_isUsable h
  simp [hk, Value.str?]

-- ---------------------------------------------------------------------------
-- Growing graphs
-- ---------------------------------------------------------------------------

/-- Some records of the first graph are stamped in the second. -/
def Extends (graph after : Graph) : Prop :=
  ∀ i : RecordId, after.records[i]? = graph.records[i]? ∨
    after.records[i]? = graph.records[i]?.map Record.stamp

theorem assignKind_get (graph : Graph) (id i : RecordId) :
    (graph.assignKind (.ref id)).records[i]? =
      if id = i then graph.records[i]?.map Record.stamp else graph.records[i]? := by
  cases hr : graph.records[id]? with
  | none =>
    have hget : graph.get (.ref id) "kind" = .null := by simp [get, fieldsOf, fields, hr]
    by_cases hi : id = i
    · subst hi
      simp [assignKind, hget, Value.str?, Value.isNull, setField, Array.getElem?_modify, hr]
    · simp [assignKind, hget, Value.str?, Value.isNull, setField, Array.getElem?_modify, hi]
  | some record =>
    have hname : graph.className (.ref id) = record.type.name := by simp [className, hr]
    simp only [assignKind, get_kind hr, hname, ← Record.isUsable.eq_1]
    by_cases hi : id = i
    · subst hi
      by_cases hu : record.isUsable = true
      · rw [if_pos hu, if_pos rfl, hr, Option.map_some, Record.stamp_of_usable hu]
      · rw [if_neg hu, if_pos rfl, hr, Option.map_some, Record.stamp, if_neg hu]
        split <;> simp [setField, Array.getElem?_modify, hr]
    · rw [if_neg hi]
      split
      · rfl
      · split <;> simp [setField, Array.getElem?_modify, hi]

theorem assignKind_of_usable (hr : graph.records[id]? = some record)
    (hu : record.isUsable = true) : graph.assignKind (.ref id) = graph := by
  simp only [assignKind, get_kind hr]
  exact if_pos hu

theorem Extends.refl (graph : Graph) : Extends graph graph := fun _ => .inl rfl

theorem extends_assignKind (graph : Graph) (value : Value) :
    Extends graph (graph.assignKind value) := by
  intro i
  cases value with
  | ref id =>
    rw [assignKind_get]
    split
    · exact .inr rfl
    · exact .inl rfl
  | _ => exact .inl rfl

theorem WellFormed.named_of_get (hw : graph.WellFormed) (h : graph.records[i]? = some record) :
    record.type.name ≠ "" := hw.named record (Array.mem_of_getElem? h)

theorem Extends.trans (hw : graph.WellFormed) (h : Extends graph mid) (h' : Extends mid after) :
    Extends graph after := by
  intro i
  rcases h i with he | he
  · rw [← he]
    exact h' i
  · right
    rcases h' i with he' | he'
    · rw [he', he]
    · rw [he', he]
      cases hr : graph.records[i]? with
      | none => rfl
      | some record => simp [Record.stamp_stamp (hw.named_of_get hr)]

theorem Extends.get (h : Extends graph after) (hr : graph.records[i]? = some record) :
    after.records[i]? = some record ∨ after.records[i]? = some record.stamp := by
  simpa [hr] using h i

theorem lt_size_iff : i < graph.size ↔ graph.records[i]?.isSome = true := by
  simp [size]

theorem Extends.size_eq (h : Extends graph after) : after.size = graph.size := by
  have hiff : ∀ i, i < after.size ↔ i < graph.size := by
    intro i
    rw [lt_size_iff, lt_size_iff]
    rcases h i with he | he <;> simp [he]
  have h₁ := hiff after.size
  have h₂ := hiff graph.size
  omega

theorem Extends.wellFormed (h : Extends graph after) (hw : graph.WellFormed) :
    after.WellFormed := by
  have hall : ∀ record ∈ after.records, record.type.name ≠ "" ∧
      (record.fields.map Prod.fst).Nodup := by
    intro record hm
    obtain ⟨i, hi⟩ := Array.mem_iff_getElem?.mp hm
    cases hr : graph.records[i]? with
    | none =>
      have := h i
      simp [hr, hi] at this
    | some old =>
      have hold := Array.mem_of_getElem? hr
      rcases h.get hr with he | he
      · rw [hi] at he
        cases he
        exact ⟨hw.named _ hold, hw.distinct _ hold⟩
      · rw [hi] at he
        cases he
        exact ⟨by simpa using hw.named _ hold, Record.nodup_stamp (hw.distinct _ hold)⟩
  exact ⟨fun r hr => (hall r hr).1, fun r hr => (hall r hr).2⟩

theorem Extends.get_usable (h : Extends graph after) (hr : graph.records[i]? = some record)
    (hu : record.isUsable = true) : after.records[i]? = some record := by
  rcases h.get hr with he | he
  · exact he
  · rw [he, Record.stamp_of_usable hu]

theorem Extends.isNode (hw : graph.WellFormed) (h : Extends graph after) {value : Value}
    (hn : graph.isNode value = true) : after.isNode value = true := by
  obtain ⟨id, record, rfl, hr, hk⟩ := isNode_iff.mp hn
  rcases h.get hr with he | he
  · rw [isNode_ref he]
    exact hk
  · rw [isNode_ref he]
    exact isSome_of_isUsable (Record.isUsable_stamp (hw.named_of_get hr))

theorem changed_of_isNode (hn : after.isNode (.ref i) = true)
    (hb : graph.isNode (.ref i) = false) : after.records[i]? ≠ graph.records[i]? := by
  intro he
  obtain ⟨_, record, ⟨⟩, hr, hk⟩ := isNode_iff.mp hn
  rw [isNode_ref (he ▸ hr)] at hb
  rw [hb] at hk
  cases hk

theorem usable_of_assignKind (hw : graph.WellFormed)
    (hn : (graph.assignKind (.ref id)).isNode (.ref id) = true) :
    ∃ record, (graph.assignKind (.ref id)).records[id]? = some record ∧
      record.isUsable = true := by
  obtain ⟨_, record, ⟨⟩, hr, -⟩ := isNode_iff.mp hn
  rw [assignKind_get, if_pos rfl, Option.map_eq_some_iff] at hr
  obtain ⟨old, ho, rfl⟩ := hr
  refine ⟨old.stamp, ?_, Record.isUsable_stamp (hw.named_of_get ho)⟩
  rw [assignKind_get, if_pos rfl, ho, Option.map_some]

theorem assignKind_of_not_isNode (hw : graph.WellFormed) {value : Value}
    (hn : (graph.assignKind value).isNode value = false) :
    graph.assignKind value = graph ∧ ∀ id, value = .ref id → graph.records[id]? = none := by
  cases value with
  | ref id =>
    have hnone : graph.records[id]? = none := by
      cases ho : graph.records[id]? with
      | none => rfl
      | some old =>
        have hs : (graph.assignKind (.ref id)).records[id]? = some old.stamp := by
          rw [assignKind_get, if_pos rfl, ho, Option.map_some]
        rw [isNode_ref hs,
          isSome_of_isUsable (Record.isUsable_stamp (hw.named_of_get ho))] at hn
        cases hn
    refine ⟨?_, fun _ h => by cases h; exact hnone⟩
    have hrecords : (graph.assignKind (.ref id)).records = graph.records := by
      refine Array.ext_getElem? fun i => ?_
      rw [assignKind_get]
      split
      · rename_i hi
        rw [← hi, hnone, Option.map_none]
      · rfl
    cases h : graph.assignKind (.ref id)
    rw [h] at hrecords
    cases hrecords
    rfl
  | _ => exact ⟨rfl, by rintro _ ⟨⟩⟩

end Graph

end TemplateTree
