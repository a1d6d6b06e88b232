import Mathlib.Logic.Function.Iterate
import TemplateTree.Proofs.Frame
import TemplateTree.Proofs.Reach

/-!
# Skipping empty fields and stopping at them

A normalization that skips empty child fields and one that stops at them go the
same way until the first of them. That way is written down as a list of the fields
that are come to; what both normalizations do is read off it.
-/

namespace TemplateTree

-- ---------------------------------------------------------------------------
-- Records stamped some number of times
-- ---------------------------------------------------------------------------

namespace Record

variable {record : Record}

theorem isNull_stamp {key : String} (h : ((record.fields.lookup key).getD .null).isNull = false) :
    ((record.stamp.fields.lookup key).getD .null).isNull = false := by
  cases hu : record.isUsable with
  | true => rwa [stamp_of_usable hu]
  | false =>
    have hs := stampedAs_stamp hu
    by_cases hk : key = "kind"
    · rw [hk, hs.kind]
      rfl
    · by_cases ho : key = "original_kind"
      · subst ho
        cases hnull : record.kind.isNull with
        | true => rwa [hs.untouched (isNull_kind.mp hnull)]
        | false =>
          unfold kind at hnull
          cases hl : record.fields.lookup "kind" with
          | none => simp [hl, Value.isNull] at hnull
          | some value =>
            rw [hl] at hnull
            rw [hs.shadowed value hl hnull]
            exact hnull
      · rwa [lookup_stamp_of_ne hk ho]

theorem type_iterate (record : Record) (n : Nat) : (stamp^[n] record).type = record.type :=
  Function.Iterate.rec (fun other : Record => other.type = record.type) rfl
    (fun other ho => (type_stamp other).trans ho) n

theorem stamp_iterate (h : record.type.name ≠ "") (n : Nat) :
    stamp^[n] record = record ∨ stamp^[n] record = record.stamp := by
  cases n with
  | zero => exact .inl rfl
  | succ n =>
    right
    rw [Function.iterate_succ_apply]
    exact Function.iterate_fixed (stamp_stamp h) n

end Record

namespace Graph

variable {graph mid after : Graph} {node value : Value} {key : String}

def Distinct (graph : Graph) : Prop :=
  ∀ record ∈ graph.records, (record.fields.map Prod.fst).Nodup

/-- Each record of the first graph is stamped in the second, never, once or more
than once. -/
def Stamps (graph after : Graph) : Prop :=
  ∀ i : RecordId, ∃ n, after.records[i]? = graph.records[i]?.map Record.stamp^[n]

theorem Stamps.refl (graph : Graph) : Stamps graph graph := fun _ => ⟨0, by simp⟩

theorem Stamps.trans (h : Stamps graph mid) (h' : Stamps mid after) : Stamps graph after := by
  intro i
  obtain ⟨n, hn⟩ := h i
  obtain ⟨m, hm⟩ := h' i
  refine ⟨m + n, ?_⟩
  rw [hm, hn, Option.map_map, Function.iterate_add]

theorem stamps_assignKind (graph : Graph) (value : Value) :
    Stamps graph (graph.assignKind value) := by
  intro i
  rcases extends_assignKind graph value i with h | h
  · exact ⟨0, by simpa using h⟩
  · exact ⟨1, h⟩

theorem Stamps.get {i : RecordId} {record : Record} (h : Stamps graph after)
    (hr : graph.records[i]? = some record) :
    ∃ n, after.records[i]? = some (Record.stamp^[n] record) := by
  obtain ⟨n, hn⟩ := h i
  exact ⟨n, by rw [hn, hr, Option.map_some]⟩

theorem Stamps.distinct (h : Stamps graph after) (hd : graph.Distinct) : after.Distinct := by
  intro record hm
  obtain ⟨i, hi⟩ := Array.mem_iff_getElem?.mp hm
  obtain ⟨n, hn⟩ := h i
  rw [hi, eq_comm, Option.map_eq_some_iff] at hn
  obtain ⟨old, hold, rfl⟩ := hn
  exact Function.Iterate.rec (fun record : Record => (record.fields.map Prod.fst).Nodup)
    (hd old (Array.mem_of_getElem? hold)) (fun _ => Record.nodup_stamp) n

theorem Stamps.isNull_get (h : Stamps graph after) (hn : (graph.get node key).isNull = false) :
    (after.get node key).isNull = false := by
  cases node with
  | ref id =>
    cases hr : graph.records[id]? with
    | none => simp [Graph.get, fieldsOf, fields, hr, Value.isNull] at hn
    | some record =>
      obtain ⟨n, ha⟩ := h.get hr
      rw [get_of_get hr] at hn
      rw [get_of_get ha]
      exact Function.Iterate.rec
        (fun record : Record => ((record.fields.lookup key).getD Value.null).isNull = false) hn
        (fun _ => Record.isNull_stamp) n
  | _ => simp [Graph.get, fieldsOf, Value.isNull] at hn

-- ---------------------------------------------------------------------------
-- The way of a walk
-- ---------------------------------------------------------------------------

def Lists (graph : Graph) (node : Value) (key : String) : Prop :=
  ∃ kind keys, graph.get node "kind" = .str kind ∧ childKeyTable.lookup kind = some keys ∧
    key ∈ keys

/-- What a walk has still to do: to see to a child field of a node, or to give a
child its kind and go below it. -/
inductive Task where
  | field (node : Value) (key : String)
  | child (value : Value)

structure Sight where
  graph : Graph
  node : Value
  key : String

namespace Sight

def isEmpty (sight : Sight) : Bool := (sight.graph.get sight.node sight.key).isNull

/-- The field of a known kind that holds no value, or is not there at all. -/
def IsGap (sight : Sight) : Prop :=
  sight.graph.Lists sight.node sight.key ∧ sight.isEmpty = true

end Sight

def fieldTasks (graph : Graph) (node : Value) : List Task :=
  (graph.childKeys node).map (.field node)

/-- `Meets graph tasks sights after`: doing the tasks one after another comes to the
fields `sights`, in that order, and ends with `after`. What is in a field, and all
that is below it, comes before the next task; an empty field has nothing in it. -/
inductive Meets : Graph → List Task → List Sight → Graph → Prop
  | nil {graph : Graph} : Meets graph [] [] graph
  | field {graph after : Graph} {node : Value} {key : String} {rest : List Task}
      {sights : List Sight} :
      Meets graph ((graph.targetsAt node key).map .child ++ rest) sights after →
      Meets graph (.field node key :: rest) (⟨graph, node, key⟩ :: sights) after
  | leaf {graph after : Graph} {value : Value} {rest : List Task} {sights : List Sight} :
      (graph.assignKind value).isNode value = false →
      Meets (graph.assignKind value) rest sights after →
      Meets graph (.child value :: rest) sights after
  | node {graph after : Graph} {value : Value} {rest : List Task} {sights : List Sight} :
      (graph.assignKind value).isNode value = true →
      Meets (graph.assignKind value) ((graph.assignKind value).fieldTasks value ++ rest) sights
        after →
      Meets graph (.child value :: rest) sights after

variable {tasks more : List Task} {sights others : List Sight}

theorem Meets.append (h : Meets graph tasks sights mid) (h' : Meets mid more others after) :
    Meets graph (tasks ++ more) (sights ++ others) after := by
  induction h with
  | nil => exact h'
  | field _ ih => exact .field (by simpa using ih h')
  | leaf hn _ ih => exact .leaf hn (ih h')
  | node hn _ ih => exact .node hn (by simpa using ih h')

theorem Meets.unique {last : Graph} (h : Meets graph tasks sights after)
    (h' : Meets graph tasks others last) : others = sights ∧ last = after := by
  induction h generalizing others with
  | nil =>
    cases h'
    exact ⟨rfl, rfl⟩
  | field _ ih =>
    cases h' with
    | field hrest => exact (ih hrest).imp_left (congrArg _)
  | leaf hn _ ih =>
    cases h' with
    | leaf _ hrest => exact ih hrest
    | node hn' _ => exact absurd hn' (by simp [hn])
  | node hn _ ih =>
    cases h' with
    | leaf hn' _ => exact absurd hn' (by simp [hn])
    | node _ hrest => exact ih hrest

-- ---------------------------------------------------------------------------
-- Where a walk stops
-- ---------------------------------------------------------------------------

def outcomeOf : List Sight → Graph → Outcome
  | [], after => .done after
  | sight :: rest, after =>
    if sight.isEmpty then
      .missing sight.graph ((sight.graph.get sight.node "kind").str?.getD "") sight.key
    else outcomeOf rest after

theorem outcomeOf_append {next : Graph → Outcome} (h : next mid = outcomeOf others after) :
    (outcomeOf sights mid).andThen next = outcomeOf (sights ++ others) after := by
  induction sights with
  | nil => exact h
  | cons sight rest ih =>
    rw [List.cons_append, outcomeOf, outcomeOf]
    split
    · rfl
    · exact ih

theorem outcomeOf_eq_done {last : Graph} : outcomeOf sights after = .done last ↔
    last = after ∧ ∀ sight ∈ sights, sight.isEmpty = false := by
  induction sights with
  | nil => simpa [outcomeOf] using eq_comm
  | cons sight rest ih =>
    rw [outcomeOf, List.forall_mem_cons]
    split
    · rename_i he
      simp [he]
    · rename_i he
      rw [ih]
      simp [he]

theorem exists_first_empty (after : Graph) (h : ∃ sight ∈ sights, sight.isEmpty = true) :
    ∃ passed first later, sights = passed ++ first :: later ∧
      (∀ sight ∈ passed, sight.isEmpty = false) ∧ first.isEmpty = true ∧
      outcomeOf sights after =
        .missing first.graph ((first.graph.get first.node "kind").str?.getD "") first.key := by
  induction sights with
  | nil => simp at h
  | cons sight rest ih =>
    cases he : sight.isEmpty with
    | true => exact ⟨[], sight, rest, rfl, by simp, he, by rw [outcomeOf, if_pos he]⟩
    | false =>
      obtain ⟨passed, first, later, rfl, hp, hf, ho⟩ := ih (by simpa [he] using h)
      refine ⟨sight :: passed, first, later, rfl, List.forall_mem_cons.mpr ⟨he, hp⟩, hf, ?_⟩
      rw [outcomeOf, if_neg (by simp [he])]
      exact ho

-- ---------------------------------------------------------------------------
-- Both policies go this way
-- ---------------------------------------------------------------------------

/-- If it comes to an end, a walk that skips empty fields does the tasks, and a walk
that stops at them stops at the first one it comes to. -/
def Follows (graph : Graph) (tasks : List Task) (skipping stopping : Outcome) : Prop :=
  skipping ≠ .endless → ∃ sights after, Meets graph tasks sights after ∧
    skipping = .done after ∧ stopping = outcomeOf sights after

theorem follows_done (graph : Graph) : Follows graph [] (.done graph) (.done graph) :=
  fun _ => ⟨[], graph, .nil, rfl, rfl⟩

theorem Follows.append {skipping stopping : Outcome} {skipNext stopNext : Graph → Outcome}
    (h : Follows graph tasks skipping stopping)
    (h' : ∀ mid, Follows mid more (skipNext mid) (stopNext mid)) :
    Follows graph (tasks ++ more) (skipping.andThen skipNext) (stopping.andThen stopNext) := by
  intro hends
  obtain ⟨sights, mid, hm, rfl, rfl⟩ := h fun he => hends (by rw [he]; rfl)
  obtain ⟨others, after, hm', hskip, hstop⟩ := h' mid hends
  exact ⟨sights ++ others, after, hm.append hm', hskip, outcomeOf_append hstop⟩

theorem visitAll_follows {α : Type} {tasks : α → List Task} {skip stop : Graph → α → Outcome}
    (h : ∀ graph x, Follows graph (tasks x) (skip graph x) (stop graph x)) (graph : Graph)
    (xs : List α) :
    Follows graph (xs.flatMap tasks) (visitAll skip graph xs) (visitAll stop graph xs) := by
  induction xs generalizing graph with
  | nil => exact follows_done graph
  | cons x rest ih => exact (h graph x).append ih

section
variable {skip stop : Graph → Value → Outcome}
variable (h : ∀ graph node,
  Follows graph (graph.fieldTasks node) (skip graph node) (stop graph node))
include h

theorem visitChild_follows (graph : Graph) (value : Value) :
    Follows graph [.child value] (visitChild skip graph value) (visitChild stop graph value) := by
  unfold visitChild
  dsimp only
  cases hn : (graph.assignKind value).isNode value with
  | true =>
    intro hends
    obtain ⟨sights, after, hm, hskip, hstop⟩ := h _ value hends
    exact ⟨sights, after, .node hn (by simpa using hm), hskip, hstop⟩
  | false => exact fun _ => ⟨[], _, .leaf hn .nil, rfl, rfl⟩

theorem visitKey_follows (node : Value) (graph : Graph) (key : String) :
    Follows graph [.field node key] (visitKey .skip skip node graph key)
      (visitKey .error stop node graph key) := by
  unfold visitKey
  dsimp only
  cases hnull : (graph.get node key).isNull with
  | true =>
    refine fun _ => ⟨[⟨graph, node, key⟩], graph, .field ?_, rfl, ?_⟩
    · simpa [targetsAt, hnull] using Meets.nil
    · exact (if_pos hnull).symm
  | false =>
    -- The field is passed, so the outcome is that of what is in it.
    have hpassed : ∀ {skipping stopping : Outcome},
        Follows graph ((graph.targetsAt node key).map .child) skipping stopping →
        Follows graph [.field node key] skipping stopping := by
      intro skipping stopping hbelow hends
      obtain ⟨sights, after, hm, hskip, hstop⟩ := hbelow hends
      refine ⟨_, after, .field (by simpa using hm), hskip, hstop.trans ?_⟩
      exact (if_neg (by simp [Sight.isEmpty, hnull])).symm
    refine hpassed ?_
    simp only [targetsAt, hnull, Bool.false_eq_true, ↓reduceIte]
    cases (graph.get node key).items? with
    | some items =>
      have hall := visitAll_follows (visitChild_follows h) graph items
      rwa [← List.map_eq_flatMap] at hall
    | none => exact visitChild_follows h graph _

end

theorem normalizeWithin_follows (depth : Nat) (graph : Graph) (node : Value) :
    Follows graph (graph.fieldTasks node) (normalizeWithin .skip depth graph node)
      (normalizeWithin .error depth graph node) := by
  induction depth generalizing graph node with
  | zero => exact fun hends => absurd rfl hends
  | succ depth ih =>
    have hall := visitAll_follows (visitKey_follows ih node) graph (graph.childKeys node)
    rwa [← List.map_eq_flatMap] at hall

-- ---------------------------------------------------------------------------
-- Empty fields are listed fields
-- ---------------------------------------------------------------------------

theorem Stamps.lists (h : Stamps graph after) (hl : graph.Lists node key) :
    after.Lists node key := by
  obtain ⟨kind, keys, hk, hkeys, hm⟩ := hl
  have hne : kind ≠ "" := by
    rintro rfl
    have hnone : childKeyTable.lookup "" = none := by decide
    rw [hnone] at hkeys
    cases hkeys
  refine ⟨kind, keys, ?_, hkeys, hm⟩
  cases node with
  | ref id =>
    obtain ⟨record, hr, hu⟩ := usable_of_get ⟨kind, hne, hk⟩
    obtain ⟨n, ha⟩ := h.get hr
    rw [Function.iterate_fixed (Record.stamp_of_usable hu) n] at ha
    rw [get_of_get ha, ← get_of_get hr]
    exact hk
  | _ => simp [Graph.get, fieldsOf] at hk

/-- A field to be seen to is listed, or there is something in it. -/
def Task.Justified (graph : Graph) : Task → Prop
  | .field node key => (graph.get node key).isNull = false ∨ graph.Lists node key
  | .child _ => True

theorem Task.Justified.mono {task : Task} (h : Stamps graph after) (hj : task.Justified graph) :
    task.Justified after := by
  cases task with
  | field node key => exact hj.imp h.isNull_get h.lists
  | child value => trivial

theorem justified_fieldTasks (hd : graph.Distinct) (node : Value) :
    ∀ task ∈ graph.fieldTasks node, task.Justified graph := by
  intro task ht
  obtain ⟨key, hkey, rfl⟩ := List.mem_map.mp ht
  unfold childKeys at hkey
  split at hkey
  · rename_i keys hkeys
    obtain ⟨kind, hk, hl⟩ := Option.bind_eq_some_iff.mp hkeys
    refine .inr ⟨kind, keys, ?_, hl, hkey⟩
    cases hv : graph.get node "kind" with
    | str text =>
      rw [hv] at hk
      exact congrArg Value.str (Option.some.inj hk)
    | _ =>
      rw [hv] at hk
      cases hk
  · left
    obtain ⟨⟨_, field⟩, hf, rfl⟩ := List.mem_map.mp hkey
    obtain ⟨hf, hlooks⟩ := List.mem_filter.mp hf
    have hnodup : ((graph.fieldsOf node).map Prod.fst).Nodup := by
      cases node with
      | ref id =>
        cases hr : graph.records[id]? with
        | none => simp [fieldsOf, fields, hr]
        | some record =>
          rw [fieldsOf, fields_of_get hr]
          exact hd record (Array.mem_of_getElem? hr)
      | _ => exact List.nodup_nil
    rw [Graph.get, (lookup_eq_some_iff hnodup).mpr hf]
    exact not_null_of_looksLikeChild hlooks

/-- Along the way records are stamped only, and each empty field is a listed one. -/
theorem Meets.stamps (h : Meets graph tasks sights after) (hd : graph.Distinct)
    (hj : ∀ task ∈ tasks, task.Justified graph) :
    Stamps graph after ∧ ∀ sight ∈ sights, Stamps graph sight.graph ∧ Stamps sight.graph after ∧
      (sight.isEmpty = true → sight.IsGap) := by
  induction h with
  | nil => exact ⟨.refl _, by simp⟩
  | @field graph after node key rest sights _ ih =>
    rw [List.forall_mem_cons] at hj
    obtain ⟨hs, hall⟩ := ih hd fun task ht => by
      rcases List.mem_append.mp ht with ht | ht
      · obtain ⟨_, -, rfl⟩ := List.mem_map.mp ht
        trivial
      · exact hj.2 task ht
    refine ⟨hs, List.forall_mem_cons.mpr ⟨⟨.refl _, hs, fun he => ⟨?_, he⟩⟩, hall⟩⟩
    refine hj.1.resolve_left fun hfull => ?_
    rw [Sight.isEmpty, hfull] at he
    cases he
  | @leaf graph after value rest sights hn _ ih =>
    have hstep := stamps_assignKind graph value
    rw [List.forall_mem_cons] at hj
    obtain ⟨hs, hall⟩ := ih (hstep.distinct hd) fun task ht => (hj.2 task ht).mono hstep
    exact ⟨hstep.trans hs, fun sight hm => (hall sight hm).imp_left hstep.trans⟩
  | @node graph after value rest sights hn _ ih =>
    have hstep := stamps_assignKind graph value
    rw [List.forall_mem_cons] at hj
    obtain ⟨hs, hall⟩ := ih (hstep.distinct hd) fun task ht => by
      rcases List.mem_append.mp ht with ht | ht
      · exact justified_fieldTasks (hstep.distinct hd) value task ht
      · exact (hj.2 task ht).mono hstep
    exact ⟨hstep.trans hs, fun sight hm => (hall sight hm).imp_left hstep.trans⟩

-- ---------------------------------------------------------------------------
-- Both policies
-- ---------------------------------------------------------------------------

/-- Where a record with a class name is met on the way, it is as it was at the start
or as it will be at the end. -/
theorem Stamps.between {i : RecordId} {record : Record} (h : Stamps graph mid)
    (h' : Stamps mid after) (hr : mid.records[i]? = some record) (hn : record.type.name ≠ "") :
    graph.records[i]? = some record ∨ after.records[i]? = some record := by
  obtain ⟨n, hs⟩ := h i
  rw [hr, eq_comm, Option.map_eq_some_iff] at hs
  obtain ⟨old, hold, rfl⟩ := hs
  rw [Record.type_iterate] at hn
  rcases Record.stamp_iterate hn n with he | he
  · exact .inl (he.symm ▸ hold)
  · obtain ⟨m, ha⟩ := h'.get hr
    rw [he, Function.iterate_fixed (Record.stamp_stamp hn) m] at ha
    exact .inr (he.symm ▸ ha)

theorem distinct_duplicate (hd : graph.Distinct) (value : Value) :
    (graph.duplicate value).2.Distinct := by
  intro record hm
  rcases Array.mem_append.mp hm with hm | hm
  · exact hd record hm
  · obtain ⟨old, hold, rfl⟩ := Array.mem_map.mp hm
    simpa [Record.mapRefs, Function.comp_def] using hd old hold

/-- A walk that skips empty fields, if it comes to an end, comes to certain fields in
a certain order and returns. A walk that stops at empty fields returns if there is
no gap among these fields, and leaves the same graph. Otherwise it stops at the
first gap; a record with a class name is then as it was, or as the other walk
leaves it. -/
theorem normalize_policies_agree (graph : Graph) (copy : Bool) (root : Value)
    (hd : graph.Distinct) (hends : (normalize .skip copy graph root).2 ≠ .endless) :
    let start := if copy then graph.duplicate root else (root, graph)
    ∃ sights after,
      (∀ others last, Meets start.2 (start.2.fieldTasks start.1) others last ↔
        others = sights ∧ last = after) ∧
      normalize .skip copy graph root = (start.1, .done after) ∧
      ((∃ last, (normalize .error copy graph root).2 = .done last) ↔
        ∀ sight ∈ sights, ¬ sight.IsGap) ∧
      (∀ last, (normalize .error copy graph root).2 = .done last → last = after) ∧
      ((∃ sight ∈ sights, sight.IsGap) →
        ∃ passed first later kind, sights = passed ++ first :: later ∧
          (∀ sight ∈ passed, ¬ sight.IsGap) ∧ first.IsGap ∧
          first.graph.get first.node "kind" = .str kind ∧
          (normalize .error copy graph root).2 = .missing first.graph kind first.key ∧
          ∀ (id : RecordId) record, first.graph.records[id]? = some record →
            record.type.name ≠ "" →
            start.2.records[id]? = some record ∨ after.records[id]? = some record) := by
  intro start
  have hnormalize : ∀ policy, normalize policy copy graph root =
      (start.1, normalizeWithin policy start.2.visitDepth start.2 start.1) := fun _ => rfl
  have hdistinct : start.2.Distinct := by
    cases copy with
    | true => exact distinct_duplicate hd root
    | false => exact hd
  simp only [hnormalize] at hends ⊢
  obtain ⟨sights, after, hm, hskip, hstop⟩ := normalizeWithin_follows _ _ _ hends
  obtain ⟨-, hall⟩ := hm.stamps hdistinct (justified_fieldTasks hdistinct _)
  have hgap : ∀ sight ∈ sights, sight.isEmpty = true ↔ sight.IsGap :=
    fun sight hs => ⟨(hall sight hs).2.2, And.right⟩
  have hfull : ∀ sight ∈ sights, sight.isEmpty = false ↔ ¬ sight.IsGap :=
    fun sight hs => by rw [← hgap sight hs, Bool.not_eq_true]
  refine ⟨sights, after, fun others last => ⟨hm.unique, ?_⟩, by rw [hskip], ?_, ?_, ?_⟩
  · rintro ⟨rfl, rfl⟩
    exact hm
  · rw [hstop]
    simp only [outcomeOf_eq_done, exists_eq_left]
    exact forall₂_congr hfull
  · intro last hlast
    rw [hstop] at hlast
    exact (outcomeOf_eq_done.mp hlast).1
  · rintro ⟨sight, hs, hg⟩
    obtain ⟨passed, first, later, rfl, hp, hf, ho⟩ :=
      exists_first_empty after ⟨sight, hs, (hgap sight hs).mpr hg⟩
    have hfirst : first ∈ passed ++ first :: later := by simp
    have hfirstGap := (hgap first hfirst).mp hf
    obtain ⟨kind, _, hkind, -⟩ := hfirstGap.1
    obtain ⟨hbefore, hafter, -⟩ := hall first hfirst
    refine ⟨passed, first, later, kind, rfl, fun sight hs => ?_, hfirstGap, hkind, ?_,
      fun id record => hbefore.between hafter⟩
    · exact (hfull sight (List.mem_append_left _ hs)).mp (hp sight hs)
    · rw [hstop, ho, hkind]
      rfl

/-- The gap further down is the first one: it comes before the empty field of the
node above it. -/
theorem normalize_policies_agree_stopped :
    let graph : Graph := ⟨#[
      ⟨.node "Root", [("kind", .str "Root"), ("items", .list [.ref 1, .ref 2, .ref 1])]⟩,
      ⟨.node "Leaf", [("kind", .int 1), ("parent", .ref 0)]⟩,
      ⟨.node "Binary", [("left", .ref 3), ("right", .null)]⟩,
      ⟨.node "PrefixNot", [("kind", .str "PrefixNot")]⟩]⟩
    graph.Distinct ∧ (normalize .skip true graph (.ref 0)).2 ≠ .endless ∧
    ∃ after, ∃ first : Sight, (normalize .skip true graph (.ref 0)).2 = .done after ∧
      first.IsGap ∧
      (normalize .error true graph (.ref 0)).2 = .missing first.graph "PrefixNot" "expression" ∧
      ∀ (id : RecordId) record, first.graph.records[id]? = some record →
        record.type.name ≠ "" → (graph.duplicate (.ref 0)).2.records[id]? = some record ∨
          after.records[id]? = some record := by
  intro graph
  have hd : graph.Distinct := by
    simp [Distinct, graph]
  obtain ⟨last, hlast⟩ := exists_done_of_isDone
    (by decide +kernel : (normalize .skip true graph (.ref 0)).2.isDone = true)
  obtain ⟨stopped, hstopped⟩ := Outcome.missing?_eq_some.mp (by decide +kernel :
    (normalize .error true graph (.ref 0)).2.missing? = some ("PrefixNot", "expression"))
  have hends : (normalize .skip true graph (.ref 0)).2 ≠ .endless := by
    rw [hlast]
    nofun
  obtain ⟨sights, after, -, hskip, hiff, -, hgap⟩ :=
    normalize_policies_agree graph true (.ref 0) hd hends
  have hany : ∃ sight ∈ sights, sight.IsGap := by
    by_contra hnone
    obtain ⟨_, hdone⟩ := hiff.mpr fun sight hs hg => hnone ⟨sight, hs, hg⟩
    rw [hstopped] at hdone
    cases hdone
  obtain ⟨_, first, _, kind, -, -, hg, -, hmissing, hrecords⟩ := hgap hany
  refine ⟨hd, hends, after, first, by rw [hskip], hg, ?_, hrecords⟩
  rw [hstopped, Outcome.missing.injEq] at hmissing
  rw [hstopped, hmissing.1]

/-- Without a class name, a record can be stamped twice, and a walk can stop between
the two times. -/
theorem normalize_stops_between_stamps :
    let graph : Graph := ⟨#[
      ⟨.node "Root", [("kind", .str "Root"), ("items", .list [.ref 1, .ref 2, .ref 1])]⟩,
      ⟨.node "", []⟩, ⟨.node "PrefixNot", [("expression", .null)]⟩]⟩
    graph.Distinct ∧ ∃ stopped after,
      (normalize .skip false graph (.ref 0)).2 = .done after ∧
      (normalize .error false graph (.ref 0)).2 = .missing stopped "PrefixNot" "expression" ∧
      stopped.records[1]? ≠ graph.records[1]? ∧ stopped.records[1]? ≠ after.records[1]? := by
  intro graph
  obtain ⟨after, hafter⟩ := exists_done_of_isDone
    (by decide +kernel : (normalize .skip false graph (.ref 0)).2.isDone = true)
  obtain ⟨stopped, hstopped⟩ := Outcome.missing?_eq_some.mp (by decide +kernel :
    (normalize .error false graph (.ref 0)).2.missing? = some ("PrefixNot", "expression"))
  have hkinds : ∀ policy, (normalize policy false graph (.ref 0)).2.graph?.map (fun last =>
      ((last.get (.ref 1) "kind").str?, (last.get (.ref 1) "original_kind").str?)) =
        some (some "", if policy = .skip then some "" else none) := by
    intro policy
    cases policy <;> decide +kernel
  have hread : ∀ {last other : Graph}, last.records[1]? = other.records[1]? →
      ∀ key, last.get (.ref 1) key = other.get (.ref 1) key := by
    intro last other he key
    simp only [Graph.get, fieldsOf, fields, he]
  have hskip := hkinds .skip
  have hstop := hkinds .error
  rw [hafter] at hskip
  rw [hstopped] at hstop
  simp only [Outcome.graph?, Option.map_some, Option.some.injEq, Prod.mk.injEq] at hskip hstop
  refine ⟨by simp [Distinct, graph], stopped, after, hafter, hstopped, fun he => ?_, fun he => ?_⟩
  · rw [hread he "kind"] at hstop
    exact absurd hstop.1 (by decide)
  · rw [hread he "original_kind", hskip.2] at hstop
    exact absurd hstop.2 (by decide)

end Graph

end TemplateTree
