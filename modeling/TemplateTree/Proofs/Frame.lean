import TemplateTree.Config.Basic
import TemplateTree.Proofs.Stamping

/-!
# What normalization leaves alone

Whether a normalization returns or stops at an empty field, all it has done by
then is to stamp records, each at most once. A stamped record has its class name
as kind and the kind it had before as `original_kind`; all other fields are as
they were.
-/

namespace TemplateTree

-- ---------------------------------------------------------------------------
-- Stamped records
-- ---------------------------------------------------------------------------

def Record.otherFields (record : Record) : Fields :=
  record.fields.filter fun field => field.1 ≠ "kind" && field.1 ≠ "original_kind"

/-- A record whose kind was no text, or an empty one, has got its class name as
kind, and what it had there is kept. -/
structure Record.StampedAs (old new : Record) : Prop where
  unusable : ∀ text, old.fields.lookup "kind" = some (.str text) → text = ""
  type : new.type = old.type
  kind : new.fields.lookup "kind" = some (.str old.type.name)
  shadowed : ∀ value, old.fields.lookup "kind" = some value → value.isNull = false →
    new.fields.lookup "original_kind" = some value
  untouched : (∀ value, old.fields.lookup "kind" = some value → value.isNull = true) →
    new.fields.lookup "original_kind" = old.fields.lookup "original_kind"

theorem Fields.filter_set {fields : Fields} {name : String} {p : String × Value → Bool}
    (hp : ∀ value, p (name, value) = false) (value : Value) :
    (fields.set name value).filter p = fields.filter p := by
  induction fields with
  | nil => simp [Fields.set, hp]
  | cons field rest ih =>
    obtain ⟨key, old⟩ := field
    by_cases hk : key = name
    · subst hk
      simp [Fields.set, hp]
    · simp only [Fields.set, if_neg hk, List.filter_cons, ih]

namespace Record

variable {record : Record}

theorem otherFields_stamp (record : Record) : record.stamp.otherFields = record.otherFields := by
  have hkind : ∀ (fields : Fields) (value : Value), (fields.set "kind" value).filter
      (fun field => field.1 ≠ "kind" && field.1 ≠ "original_kind") =
      fields.filter fun field => field.1 ≠ "kind" && field.1 ≠ "original_kind" :=
    fun _ => Fields.filter_set (by simp)
  unfold stamp otherFields
  split
  · rfl
  · split
    · exact hkind _ _
    · exact (hkind _ _).trans (Fields.filter_set (by simp) _)

theorem isNull_kind : record.kind.isNull = true ↔
    ∀ value, record.fields.lookup "kind" = some value → value.isNull = true := by
  unfold kind
  cases record.fields.lookup "kind" <;> simp [Value.isNull]

theorem stamp_of_not_usable (h : record.isUsable = false) : record.stamp =
    (if record.kind.isNull then record else record.set "original_kind" record.kind).set "kind"
      (.str record.type.name) := if_neg (by simp [h])

theorem stampedAs_stamp (h : record.isUsable = false) : record.StampedAs record.stamp := by
  have hne : "original_kind" ≠ "kind" := by decide
  refine ⟨?_, type_stamp record, ?_, ?_, ?_⟩
  · intro text hk
    simpa [isUsable, kind, hk, Value.str?] using h
  · rw [stamp_of_not_usable h]
    exact Fields.lookup_set_self _ _ _
  · intro value hk hnull
    have hkind : record.kind = value := by simp [kind, hk]
    rw [stamp_of_not_usable h, hkind, hnull]
    exact (Fields.lookup_set_of_ne hne _).trans (Fields.lookup_set_self _ _ _)
  · intro hnull
    rw [stamp_of_not_usable h, isNull_kind.mpr hnull]
    exact Fields.lookup_set_of_ne hne _

end Record

namespace Graph

-- ---------------------------------------------------------------------------
-- Whatever the outcome
-- ---------------------------------------------------------------------------

def Outcome.graph? : Outcome → Option Graph
  | done graph => some graph
  | missing graph _ _ => some graph
  | endless => none

def Outcome.missing? : Outcome → Option (String × String)
  | missing _ kind field => some (kind, field)
  | done _ => none
  | endless => none

theorem Outcome.missing?_eq_some {outcome : Outcome} {kind field : String} :
    outcome.missing? = some (kind, field) ↔ ∃ after, outcome = .missing after kind field := by
  cases outcome <;> simp [missing?]

def Outcome.Keeps (R : Graph → Graph → Prop) (graph : Graph) (outcome : Outcome) : Prop :=
  ∀ after, outcome.graph? = some after → R graph after

section
variable {R : Graph → Graph → Prop} {graph : Graph} {policy : MissingChild}
variable (hrefl : ∀ graph, R graph graph) (htrans : ∀ a b c, R a b → R b c → R a c)

include hrefl htrans in
theorem visitAll_keeps {α : Type} {visit : Graph → α → Outcome} {xs : List α}
    (h : ∀ graph x, (visit graph x).Keeps R graph) : (visitAll visit graph xs).Keeps R graph := by
  induction xs generalizing graph with
  | nil =>
    rintro _ ⟨⟩
    exact hrefl graph
  | cons x rest ih =>
    have hx := h graph x
    unfold visitAll
    cases hv : visit graph x with
    | done mid =>
      rw [hv] at hx
      exact fun after ha => htrans _ _ _ (hx mid rfl) (ih after ha)
    | missing mid kind field =>
      rw [hv] at hx
      exact hx
    | endless => exact fun _ ha => nomatch ha

variable (hassign : ∀ graph value, R graph (assignKind graph value))

include htrans hassign in
theorem visitChild_keeps {descend : Graph → Value → Outcome} {child : Value}
    (h : ∀ graph node, (descend graph node).Keeps R graph) :
    (visitChild descend graph child).Keeps R graph := by
  unfold visitChild
  dsimp only
  split
  · exact fun after ha => htrans _ _ _ (hassign graph child) (h _ child after ha)
  · rintro _ ⟨⟩
    exact hassign graph child

include hrefl htrans hassign in
theorem visitKey_keeps {descend : Graph → Value → Outcome} {node : Value} {key : String}
    (h : ∀ graph node, (descend graph node).Keeps R graph) :
    (visitKey policy descend node graph key).Keeps R graph := by
  unfold visitKey
  dsimp only
  split
  · cases policy with
    | skip | error =>
      rintro _ ⟨⟩
      exact hrefl graph
  · split
    · exact visitAll_keeps hrefl htrans fun _ _ => visitChild_keeps htrans hassign h
    · exact visitChild_keeps htrans hassign h

include hrefl htrans hassign in
/-- What is true of giving one kind is true of a walk, wherever it ends. -/
theorem normalizeWithin_keeps (depth : Nat) (graph : Graph) (node : Value) :
    (normalizeWithin policy depth graph node).Keeps R graph := by
  induction depth generalizing graph node with
  | zero => exact fun _ ha => nomatch ha
  | succ depth ih =>
    exact visitAll_keeps hrefl htrans fun _ _ => visitKey_keeps hrefl htrans hassign ih

end

theorem extends_of_graph? {before after : Graph} {policy : MissingChild} {depth : Nat}
    {root : Value} (hw : before.WellFormed)
    (h : (normalizeWithin policy depth before root).graph? = some after) :
    Extends before after := by
  refine normalizeWithin_keeps (R := fun a b => a.WellFormed → Extends a b)
    (fun a _ => .refl a) ?_ (fun a value _ => extends_assignKind a value) depth before root after
    h hw
  intro a b c hab hbc hwa
  exact (hab hwa).trans hwa (hbc ((hab hwa).wellFormed hwa))

/-- A normalization in place that comes to an end, by returning or at an empty
field, has changed records only by stamping them. -/
theorem normalize_only_stamps (before after : Graph) (config : Config) (root : Value)
    (hw : before.WellFormed) (hcopy : config.copyTree = false)
    (h : (normalize config.missingChild config.copyTree before root).2.graph? = some after) :
    after.size = before.size ∧
    ∀ (id : RecordId) (old : Record), before.records[id]? = some old →
      ∃ new, after.records[id]? = some new ∧ new.otherFields = old.otherFields ∧
        (new = old ∨ old.StampedAs new) := by
  rw [hcopy] at h
  have hext := extends_of_graph? hw h
  refine ⟨hext.size_eq, fun id old hold => ?_⟩
  rcases hext.get hold with hnew | hnew
  · exact ⟨old, hnew, rfl, .inl rfl⟩
  · refine ⟨old.stamp, hnew, old.otherFields_stamp, ?_⟩
    cases hu : old.isUsable with
    | true => exact .inl (Record.stamp_of_usable hu)
    | false => exact .inr (Record.stampedAs_stamp hu)

/-- A record is met twice before the walk stops at the empty field of another; its
kind, a list, is kept. -/
theorem normalize_only_stamps_stopped :
    let graph : Graph := ⟨#[
      ⟨.node "Root", [("kind", .int 3), ("items", .list [.ref 1, .ref 1, .ref 2])]⟩,
      ⟨.node "Leaf", [("kind", .list [.null]), ("name", .str "a")]⟩,
      ⟨.node "PrefixNot", [("expression", .null)]⟩]⟩
    ∃ after, (normalize .error false graph (.ref 0)).2 = .missing after "PrefixNot" "expression" ∧
      after.size = 3 ∧
      ∃ new, after.records[1]? = some new ∧ new.otherFields = [("name", .str "a")] := by
  intro graph
  obtain ⟨after, h⟩ := Outcome.missing?_eq_some.mp (by decide +kernel :
    (normalize .error false graph (.ref 0)).2.missing? = some ("PrefixNot", "expression"))
  have hw : graph.WellFormed := by
    constructor <;> simp [graph, RecordClass.name]
  obtain ⟨hsize, hall⟩ := normalize_only_stamps graph after {} (.ref 0) hw rfl
    (congrArg Outcome.graph? h)
  obtain ⟨new, hn, ho, -⟩ := hall 1 _ rfl
  exact ⟨after, h, hsize, new, hn, ho⟩

end Graph

end TemplateTree
