import Mathlib.Data.List.Forall2
import TemplateTree.Program.Analysis
import TemplateTree.Proofs.Visiting

/-!
# The schema of template records

Which fields the records of each class have, and what these hold. That the table
of child fields fits the classes is read off the schema.
-/

namespace TemplateTree

-- ---------------------------------------------------------------------------
-- Classes and their fields
-- ---------------------------------------------------------------------------

/-- What a field may hold: plain data, where something stands, or nodes. -/
inductive Slot where
  | plain
  | plains
  | constant (text : String)
  | enum (type : String)
  | place
  | one (classes : List String)
  | many (classes : List String)
  deriving DecidableEq, Repr

def Slot.classes : Slot → List String
  | one classes | many classes => classes
  | _ => []

def plainExpressions : List String :=
  [ "EmptyExpr", "ImplicitReceiver", "ThisReceiver", "LiteralPrimitive", "PropertyRead"
  , "KeyedRead", "Call", "Binary", "Conditional", "PrefixNot", "BindingPipe" ]

def expressionClasses : List String := plainExpressions ++ ["Interpolation", "ASTWithSource"]

def contentClasses : List String := ["Text", "BoundText", "Element", "Template"]

def templateClasses : List String :=
  contentClasses ++
    ["Comment", "TextAttribute", "BoundAttribute", "BoundEvent", "Reference", "Variable"]

def treeClasses : List String := templateClasses ++ expressionClasses

namespace Slot

def binding : Slot := .one ["ASTWithSource"]

def expression : Slot := .one plainExpressions

def sourceSpan : String × Slot := ("source_span", .place)

def tagPlaces : List (String × Slot) :=
  [sourceSpan, ("start_source_span", .place), ("end_source_span", .place)]

end Slot

open Slot in
def schema : List (RecordClass × List (String × Slot)) :=
  [ (.node "EmptyExpr", [sourceSpan])
  , (.node "ImplicitReceiver", [sourceSpan])
  , (.node "ThisReceiver", [sourceSpan])
  , (.node "LiteralPrimitive", [sourceSpan, ("value", .plain)])
  , (.node "PropertyRead", [sourceSpan, ("receiver", expression), ("name", .plain)])
  , (.node "KeyedRead", [sourceSpan, ("receiver", expression), ("key", expression)])
  , (.node "Call", [sourceSpan, ("receiver", expression), ("args", .many plainExpressions)])
  , (.node "Binary",
      [sourceSpan, ("operation", .plain), ("left", expression), ("right", expression)])
  , (.node "Conditional",
      [ sourceSpan, ("condition", expression), ("true_exp", expression)
      , ("false_exp", expression) ])
  , (.node "PrefixNot", [sourceSpan, ("expression", expression)])
  , (.node "BindingPipe",
      [ sourceSpan, ("exp", expression), ("name", .plain)
      , ("args", .many plainExpressions) ])
  , (.node "Interpolation",
      [sourceSpan, ("strings", .plains), ("expressions", .many plainExpressions)])
  , (.node "ASTWithSource",
      [ sourceSpan, ("ast", .one ("Interpolation" :: plainExpressions)), ("source", .plain)
      , ("location", .plain), ("absolute_offset", .plain) ])
  , (.node "TextAttribute",
      [("name", .plain), ("value", .plain), sourceSpan, ("value_span", .place)])
  , (.node "BoundAttribute",
      [ ("name", .plain), ("kind", .enum "BindingKind"), ("value", binding), sourceSpan
      , ("key_span", .place) ])
  , (.node "BoundEvent",
      [ ("name", .plain), ("kind", .enum "EventKind"), ("handler", binding), sourceSpan
      , ("key_span", .place) ])
  , (.node "Reference", [("name", .plain), ("value", .plain), sourceSpan])
  , (.node "Variable", [("name", .plain), ("value", .plain), sourceSpan])
  , (.node "Text", [("value", .plain), sourceSpan])
  , (.node "BoundText", [("value", binding), sourceSpan])
  , (.node "Element",
      [("name", .plain)] ++ tagPlaces ++
      [ ("attributes", .many ["TextAttribute"]), ("inputs", .many ["BoundAttribute"])
      , ("outputs", .many ["BoundEvent"]), ("children", .many contentClasses)
      , ("references", .many ["Reference"]) ])
  , (.node "Template",
      [("tag_name", .plain)] ++ tagPlaces ++
      [ ("attributes", .many ["TextAttribute"]), ("inputs", .many ["BoundAttribute"])
      , ("outputs", .many ["BoundEvent"]), ("template_attrs", .many ["BoundAttribute"])
      , ("children", .many contentClasses), ("references", .many ["Reference"])
      , ("variables", .many ["Variable"]) ])
  , (.node "Token",
      [ ("kind", .constant CommentToken.kind), ("text", .plain), ("loc", .place)
      , ("range", .plains) ])
  , (.node "Program",
      [ ("text", .plain), ("template_nodes", .many contentClasses), ("comments", .many ["Token"])
      , ("tokens", .plains), ("range", .plains), ("loc", .place)
      , ("kind", .constant "Program") ])
  , (.sourceFile, [("content", .plain), ("url", .plain), ("_line_starts", .plains)])
  , (.location, [("file", .place), ("offset", .plain), ("line", .plain), ("col", .plain)])
  , (.position, [("line", .plain), ("column", .plain)])
  , (.offsetSpan, [("start", .plain), ("end", .plain)])
  , (.span, [("start", .place), ("end", .place)])
  , (.loc, [("start", .place), ("end", .place)]) ]

def ListsField (name key : String) : Prop := key ∈ (Graph.childKeyTable.lookup name).getD []

instance (name key : String) : Decidable (ListsField name key) :=
  inferInstanceAs (Decidable (_ ∈ _))

/-- Fields with nodes that no walk visits: the arguments of pipes, references
and variables, and what is written on a template itself. -/
def SkipsField (name key : String) : Prop :=
  name = "BindingPipe" ∧ key = "args" ∨ key = "references" ∨ key = "variables" ∨
    name = "Template" ∧ (key = "attributes" ∨ key = "outputs")

instance (name key : String) : Decidable (SkipsField name key) :=
  inferInstanceAs (Decidable (_ ∨ _ ∨ _ ∨ _))

def walkedClasses : List String := "Program" :: treeClasses

-- ---------------------------------------------------------------------------
-- What the schema says
-- ---------------------------------------------------------------------------

/-- What a class holds in its kind from the start, if it has one. -/
def kindSlot? : RecordClass → Option Slot
  | .node "BoundAttribute" => some (.enum "BindingKind")
  | .node "BoundEvent" => some (.enum "EventKind")
  | .node "Token" => some (.constant CommentToken.kind)
  | .node "Program" => some (.constant "Program")
  | _ => none

section
variable {type : RecordClass} {name key : String} {slots : List (String × Slot)} {slot : Slot}

theorem name_ne_of_schema (h : schema.lookup type = some slots) : type.name ≠ "" := by
  have hall : ∀ entry ∈ schema, entry.1.name ≠ "" := by decide
  exact hall _ (mem_of_lookup h)

theorem nodup_of_schema (h : schema.lookup type = some slots) : (slots.map Prod.fst).Nodup := by
  have hall : ∀ entry ∈ schema, (entry.2.map Prod.fst).Nodup := by decide
  exact hall _ (mem_of_lookup h)

theorem lookup_kind_of_schema (h : schema.lookup type = some slots) :
    slots.lookup "kind" = kindSlot? type := by
  have hall : ∀ entry ∈ schema, entry.2.lookup "kind" = kindSlot? entry.1 := by decide
  exact hall _ (mem_of_lookup h)

theorem lookup_originalKind_of_schema (h : schema.lookup type = some slots) :
    slots.lookup "original_kind" = none := by
  have hall : ∀ entry ∈ schema, entry.2.lookup "original_kind" = none := by decide
  exact hall _ (mem_of_lookup h)

theorem classes_of_listsField (hl : ListsField name key)
    (h : schema.lookup (.node name) = some slots) :
    ∃ slot, slots.lookup key = some slot ∧ slot.classes ≠ [] ∧ slot.classes ⊆ treeClasses := by
  have hall : ∀ entry ∈ schema, ∀ key ∈ (Graph.childKeyTable.lookup entry.1.name).getD [],
      ((entry.2.lookup key).map Slot.classes).any (fun classes =>
        decide (classes ≠ [] ∧ ∀ c ∈ classes, c ∈ treeClasses)) = true := by decide +kernel
  have hkey := hall _ (mem_of_lookup h) key hl
  cases hs : slots.lookup key with
  | none =>
    rw [hs] at hkey
    cases hkey
  | some slot =>
    rw [hs] at hkey
    exact ⟨slot, rfl, of_decide_eq_true hkey⟩

/-- A class that is not in the table has no field with nodes, and no list. -/
theorem slot_of_not_listed (hn : name ∈ walkedClasses) (hl : Graph.childKeyTable.lookup name = none)
    (h : schema.lookup (.node name) = some slots) (hs : (key, slot) ∈ slots) :
    slot = .plain ∨ slot = .place := by
  have hall : ∀ name ∈ walkedClasses, Graph.childKeyTable.lookup name = none →
      ∀ field ∈ (schema.lookup (.node name)).getD [], field.2 = .plain ∨ field.2 = .place := by
    decide +kernel
  exact hall name hn hl _ (by rw [h]; exact hs)

theorem listed_or_skipped (h : schema.lookup type = some slots) (hs : (key, slot) ∈ slots)
    (hc : name ∈ slot.classes) (hw : name ∈ walkedClasses) :
    ∃ parent ∈ walkedClasses, type = .node parent ∧
      (ListsField parent key ∨ SkipsField parent key) := by
  have hall : ∀ entry ∈ schema, ∀ field ∈ entry.2, ∀ c ∈ field.2.classes, c ∈ walkedClasses →
      entry.1.name ∈ walkedClasses ∧ entry.1 = .node entry.1.name ∧
        (ListsField entry.1.name field.1 ∨ SkipsField entry.1.name field.1) := by decide +kernel
  obtain ⟨hname, htype, hfield⟩ := hall _ (mem_of_lookup h) _ hs name hc hw
  exact ⟨type.name, hname, htype, hfield⟩

theorem listsField_iff : ListsField name key ↔
    ∃ keys, Graph.childKeyTable.lookup name = some keys ∧ key ∈ keys := by
  unfold ListsField
  cases Graph.childKeyTable.lookup name <;> simp

theorem not_skipsField (h : ListsField name key) : ¬ SkipsField name key := by
  have hall : ∀ entry ∈ Graph.childKeyTable, ∀ key ∈ entry.2, ¬ SkipsField entry.1 key := by decide
  obtain ⟨keys, hl, hk⟩ := listsField_iff.mp h
  exact hall _ (mem_of_lookup hl) key hk

theorem ne_kind_of_listsField (h : ListsField name key) :
    key ≠ "kind" ∧ key ≠ "original_kind" := by
  have hall : ∀ entry ∈ Graph.childKeyTable, ∀ key ∈ entry.2,
      key ≠ "kind" ∧ key ≠ "original_kind" := by decide
  obtain ⟨keys, hl, hk⟩ := listsField_iff.mp h
  exact hall _ (mem_of_lookup hl) key hk

end

-- ---------------------------------------------------------------------------
-- Records that fit
-- ---------------------------------------------------------------------------

def Value.isPlain : Value → Bool
  | null | bool _ | int _ | float _ | str _ | bytes _ => true
  | _ => false

def Value.ref? : Value → Option RecordId
  | ref id => some id
  | _ => none

def Value.refs (value : Value) : List RecordId :=
  (value.items?.getD [value]).filterMap Value.ref?

theorem Value.ref?_eq_some {value : Value} {id : RecordId} :
    value.ref? = some id ↔ value = .ref id := by
  cases value <;> simp [Value.ref?]

theorem Value.mem_refs {value : Value} {id : RecordId} :
    id ∈ value.refs ↔ .ref id ∈ value.items?.getD [value] := by
  simp [Value.refs, List.mem_filterMap, Value.ref?_eq_some]

theorem Value.refs_of_isPlain {value : Value} (h : value.isPlain = true) : value.refs = [] := by
  cases value <;> first | rfl | cases h

namespace Graph

def IsA (graph : Graph) (id : RecordId) (classes : List String) : Prop :=
  ∃ record name, graph.records[id]? = some record ∧ record.type = .node name ∧ name ∈ classes

def IsPlace (graph : Graph) (id : RecordId) : Prop :=
  ∃ record, graph.records[id]? = some record ∧ ∀ name, record.type ≠ .node name

theorem IsA.not_isPlace {graph : Graph} {id : RecordId} {classes : List String}
    (h : graph.IsA id classes) : ¬ graph.IsPlace id := by
  obtain ⟨record, name, hr, ht, -⟩ := h
  rintro ⟨_, hr', hn⟩
  rw [hr] at hr'
  cases hr'
  exact hn name ht

theorem IsA.mono {graph : Graph} {id : RecordId} {classes more : List String}
    (h : graph.IsA id classes) (hc : classes ⊆ more) : graph.IsA id more := by
  obtain ⟨record, name, hr, ht, hn⟩ := h
  exact ⟨record, name, hr, ht, hc hn⟩

end Graph

def Slot.Fits (graph : Graph) (value : Value) : Slot → Prop
  | plain => value.isPlain = true
  | plains => ∃ items, value.items? = some items ∧ ∀ item ∈ items, item.isPlain = true
  | constant text => value = .str text
  | enum type => ∃ member number, value = .enum type member number
  | place => value = .null ∨ ∃ id, value = .ref id ∧ graph.IsPlace id
  | one classes => ∃ id, value = .ref id ∧ graph.IsA id classes
  | many classes => ∃ items, value = .list items ∧
      ∀ item ∈ items, ∃ id, item = .ref id ∧ graph.IsA id classes

def FieldsFit (graph : Graph) : List (String × Slot) → Fields → Prop :=
  List.Forall₂ fun slot field => slot.1 = field.1 ∧ slot.2.Fits graph field.2

def Record.Fits (graph : Graph) (record : Record) : Prop :=
  ∃ slots, schema.lookup record.type = some slots ∧ FieldsFit graph slots record.fields

section
variable {graph : Graph} {slots : List (String × Slot)} {fields : Fields} {slot : Slot}
variable {value : Value}

theorem FieldsFit.map_fst (h : FieldsFit graph slots fields) :
    fields.map Prod.fst = slots.map Prod.fst := by
  induction h with
  | nil => rfl
  | cons hfirst _ ih => rw [List.map_cons, List.map_cons, hfirst.1, ih]

theorem FieldsFit.lookup (h : FieldsFit graph slots fields) (key : String) :
    slots.lookup key = none ∧ fields.lookup key = none ∨
      ∃ slot value, slots.lookup key = some slot ∧ fields.lookup key = some value ∧
        slot.Fits graph value := by
  induction h with
  | nil => exact .inl ⟨rfl, rfl⟩
  | @cons first field slots fields hfirst _ ih =>
    obtain ⟨name, slot⟩ := first
    obtain ⟨_, value⟩ := field
    obtain ⟨rfl, hv⟩ := hfirst
    rw [List.lookup_cons, List.lookup_cons]
    cases key == name with
    | true => exact .inr ⟨slot, value, rfl, rfl, hv⟩
    | false => exact ih

theorem Slot.Fits.exists_ref (h : slot.Fits graph value) (hc : slot.classes ≠ []) {part : Value}
    (hp : part ∈ value.items?.getD [value]) : ∃ id, part = .ref id ∧ graph.IsA id slot.classes := by
  cases slot with
  | one classes =>
    obtain ⟨id, rfl, hid⟩ := h
    exact ⟨id, List.mem_singleton.mp hp, hid⟩
  | many classes =>
    obtain ⟨items, rfl, hitems⟩ := h
    exact hitems part hp
  | _ => exact absurd rfl hc

theorem Slot.Fits.isPlace_or_isA (h : slot.Fits graph value) {id : RecordId}
    (hid : id ∈ value.refs) : graph.IsPlace id ∨ graph.IsA id slot.classes := by
  cases slot with
  | plain =>
    rw [Value.refs_of_isPlain h] at hid
    cases hid
  | plains =>
    obtain ⟨items, hi, hitems⟩ := h
    rw [Value.mem_refs, hi] at hid
    cases hitems _ hid
  | constant text =>
    obtain rfl := h
    cases hid
  | enum type =>
    obtain ⟨_, _, rfl⟩ := h
    cases hid
  | place =>
    rcases h with rfl | ⟨other, rfl, ho⟩
    · cases hid
    · obtain rfl := List.mem_singleton.mp hid
      exact .inl ho
  | one classes =>
    obtain ⟨other, rfl, ho⟩ := h
    obtain rfl := List.mem_singleton.mp hid
    exact .inr ho
  | many classes =>
    obtain ⟨items, rfl, hitems⟩ := h
    obtain ⟨_, ⟨⟩, ho⟩ := hitems _ (Value.mem_refs.mp hid)
    exact .inr ho

theorem Slot.Fits.not_null (h : slot.Fits graph value) (hc : slot.classes ≠ []) :
    value.isNull = false := by
  cases slot with
  | one classes =>
    obtain ⟨id, rfl, -⟩ := h
    rfl
  | many classes =>
    obtain ⟨items, rfl, -⟩ := h
    rfl
  | _ => exact absurd rfl hc

end

end TemplateTree
