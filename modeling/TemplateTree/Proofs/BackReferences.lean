import TemplateTree.Proofs.Copying
import TemplateTree.Proofs.Reach

/-!
# Back references

Records may refer back to those above them through fields for bookkeeping. As long
as no other fields lead in a circle, a normalization comes to an end, and so do the
walks before and after it. Stamping a record moves what it refers to from one field
to another, but makes it refer to nothing new; so no circle can come up on the way.
-/

namespace TemplateTree

theorem Fields.mem_of_mem_set {fields : Fields} {name key : String} {value field : Value}
    (h : (key, field) ∈ fields.set name value) :
    (key, field) ∈ fields ∨ key = name ∧ field = value := by
  induction fields with
  | nil => simpa [Fields.set] using h
  | cons first rest ih =>
    obtain ⟨other, old⟩ := first
    unfold Fields.set at h
    split at h
    · rename_i hn
      rcases List.mem_cons.mp h with h | h
      · obtain ⟨rfl, rfl⟩ := Prod.mk.inj h
        exact .inr ⟨hn, rfl⟩
      · exact .inl (.tail _ h)
    · rcases List.mem_cons.mp h with h | h
      · exact .inl (h ▸ .head _)
      · exact (ih h).imp_left (.tail _)

theorem Record.mem_of_mem_stamp {record : Record} {key : String} {field : Value}
    (h : (key, field) ∈ record.stamp.fields) :
    (key, field) ∈ record.fields ∨ field = .str record.type.name ∨
      ("kind", field) ∈ record.fields := by
  unfold stamp at h
  split at h
  · exact .inl h
  · rcases Fields.mem_of_mem_set h with h | ⟨-, rfl⟩
    · split at h
      · exact .inl h
      · rename_i hnull
        rcases Fields.mem_of_mem_set h with h | ⟨-, rfl⟩
        · exact .inl h
        · unfold kind at hnull ⊢
          cases hk : record.fields.lookup "kind" with
          | none => simp [hk, Value.isNull] at hnull
          | some value => exact .inr (.inr (mem_of_lookup hk))
    · exact .inr (.inl rfl)

namespace Graph

open Relation (ReflTransGen TransGen)

variable {graph mid after other : Graph} {parent child id i : RecordId} {policy : MissingChild}

-- ---------------------------------------------------------------------------
-- What records refer to
-- ---------------------------------------------------------------------------

/-- A record is the value of a field of another, or an element of the list or tuple
there. Fields that are never child fields do not count. -/
def Refers (graph : Graph) (parent child : RecordId) : Prop :=
  ∃ key field, (key, field) ∈ graph.fields parent ∧ key ∉ excludedKeys ∧
    .ref child ∈ field.items?.getD [field]

/-- Whatever a record leads to is a record of the graph, and does not lead back to
itself. -/
def AcyclicFrom (graph : Graph) (id : RecordId) : Prop :=
  ∀ i, ReflTransGen graph.Refers id i → i < graph.size ∧ ¬ TransGen graph.Refers i i

theorem not_mem_excludedKeys {value : Value} {key : String} (h : key ∈ graph.childKeys value) :
    key ∉ excludedKeys := by
  have htable : ∀ entry ∈ childKeyTable, ∀ key ∈ entry.2, key ∉ excludedKeys := by decide
  unfold childKeys at h
  split at h
  · rename_i keys hkeys
    obtain ⟨kind, -, hl⟩ := Option.bind_eq_some_iff.mp hkeys
    exact htable _ (mem_of_lookup hl) key h
  · obtain ⟨_, hf, rfl⟩ := List.mem_map.mp h
    exact (looksLikeChild_iff.mp (List.mem_filter.mp hf).2).1

theorem refers_of_get {key : String} (hk : key ∉ excludedKeys)
    (h : .ref child ∈ (graph.get (.ref parent) key).items?.getD [graph.get (.ref parent) key]) :
    graph.Refers parent child := by
  unfold get fieldsOf at h
  cases hl : (graph.fields parent).lookup key with
  | none => simp [hl, Value.items?] at h
  | some field => exact ⟨key, field, mem_of_lookup hl, hk, by simpa [hl] using h⟩

theorem refers_of_mem_children {value : Value} (h : value ∈ graph.children (.ref parent)) :
    ∃ child, value = .ref child ∧ graph.Refers parent child := by
  obtain ⟨key, hk, hv⟩ := List.mem_flatMap.mp h
  obtain ⟨hv, hn⟩ := List.mem_filter.mp hv
  obtain ⟨child, _, rfl, -, -⟩ := isNode_iff.mp hn
  exact ⟨child, rfl, refers_of_get (not_mem_excludedKeys hk) hv⟩

theorem AcyclicFrom.of_simulates {f : RecordId → RecordId} (h : graph.AcyclicFrom id)
    (hf : f.Injective) (hsize : ∀ a < graph.size, f a < other.size)
    (hstep : ∀ a b, a < graph.size → other.Refers (f a) b → ∃ c, b = f c ∧ graph.Refers a c) :
    other.AcyclicFrom (f id) := by
  have hreach : ∀ i, ReflTransGen other.Refers (f id) i →
      ∃ a, i = f a ∧ ReflTransGen graph.Refers id a := by
    intro i hi
    induction hi with
    | refl => exact ⟨id, rfl, .refl⟩
    | tail _ hb ih =>
      obtain ⟨a, rfl, ha⟩ := ih
      obtain ⟨c, rfl, hc⟩ := hstep a _ (h a ha).1 hb
      exact ⟨c, rfl, ha.tail hc⟩
  have htrans : ∀ a i, ReflTransGen graph.Refers id a → TransGen other.Refers (f a) i →
      ∃ c, i = f c ∧ TransGen graph.Refers a c := by
    intro a i ha hi
    induction hi with
    | single hb =>
      obtain ⟨c, rfl, hc⟩ := hstep a _ (h a ha).1 hb
      exact ⟨c, rfl, .single hc⟩
    | tail _ hb ih =>
      obtain ⟨b, rfl, hb'⟩ := ih
      obtain ⟨c, rfl, hc⟩ := hstep b _ (h b (ha.trans hb'.to_reflTransGen)).1 hb
      exact ⟨c, rfl, hb'.tail hc⟩
  intro i hi
  obtain ⟨a, rfl, ha⟩ := hreach i hi
  refine ⟨hsize a (h a ha).1, fun hcircle => ?_⟩
  obtain ⟨c, hc, hac⟩ := htrans a _ ha hcircle
  exact (h a ha).2 (hf hc ▸ hac)

theorem AcyclicFrom.below (h : graph.AcyclicFrom parent) (hr : graph.Refers parent child) :
    graph.AcyclicFrom child :=
  fun i hi => h i (.head hr hi)

-- ---------------------------------------------------------------------------
-- How far records lead
-- ---------------------------------------------------------------------------

section
open Classical

noncomputable def ledTo (graph : Graph) (id : RecordId) : Finset RecordId :=
  (Finset.range graph.size).filter fun i => TransGen graph.Refers id i

theorem card_ledTo_le (graph : Graph) (id : RecordId) : (graph.ledTo id).card ≤ graph.size := by
  have hle : (graph.ledTo id).card ≤ (Finset.range graph.size).card :=
    Finset.card_le_card (Finset.filter_subset _ _)
  rwa [Finset.card_range] at hle

/-- Without a circle, a record leads to fewer records than one that refers to it. -/
theorem card_ledTo_lt (h : graph.AcyclicFrom parent) (hr : graph.Refers parent child) :
    (graph.ledTo child).card < (graph.ledTo parent).card := by
  obtain ⟨hchild, hcircle⟩ := h child (.single hr)
  exact card_reached_lt hchild hr hcircle

end

-- ---------------------------------------------------------------------------
-- Walks
-- ---------------------------------------------------------------------------

theorem exists_walk_of_acyclicFrom {root : Value}
    (h : ∀ id, root = .ref id → graph.AcyclicFrom id) :
    ∃ nodes, graph.walk? root = some nodes := by
  cases root with
  | ref id =>
    refine exists_walkWithin_of_rank (fun id => (graph.ledTo id).card) ?_ (h id rfl) ?_
    · intro id h value hv
      obtain ⟨child, rfl, hr⟩ := refers_of_mem_children hv
      exact ⟨child, rfl, h.below hr, card_ledTo_lt h hr⟩
    · have hle := graph.card_ledTo_le id
      unfold walkDepth
      omega
  | _ => exact ⟨_, rfl⟩

-- ---------------------------------------------------------------------------
-- Normalizations
-- ---------------------------------------------------------------------------

/-- The second graph has the same records, and they refer to nothing new. -/
structure Narrows (graph after : Graph) : Prop where
  size : after.size = graph.size
  refers : ∀ parent child, after.Refers parent child → graph.Refers parent child

theorem Narrows.refl (graph : Graph) : Narrows graph graph := ⟨rfl, fun _ _ h => h⟩

theorem Narrows.trans (graph mid after : Graph) (h : Narrows graph mid)
    (h' : Narrows mid after) : Narrows graph after :=
  ⟨h'.size.trans h.size, fun _ _ hr => h.refers _ _ (h'.refers _ _ hr)⟩

theorem Narrows.acyclicFrom (h : Narrows graph after) (ha : graph.AcyclicFrom id) :
    after.AcyclicFrom id :=
  ha.of_simulates (f := fun i => i) Function.injective_id (fun _ hi => hi.trans_eq h.size.symm)
    fun _ b _ hr => ⟨b, rfl, h.refers _ _ hr⟩

theorem narrows_assignKind (graph : Graph) (value : Value) :
    Narrows graph (graph.assignKind value) := by
  refine ⟨(extends_assignKind graph value).size_eq, ?_⟩
  rintro parent child ⟨key, field, hf, hk, hc⟩
  cases value with
  | ref id =>
    by_cases hid : id = parent
    · subst hid
      have hget := assignKind_get graph id id
      rw [if_pos rfl] at hget
      cases hr : graph.records[id]? with
      | none => simp [fields, hget, hr] at hf
      | some record =>
        rw [fields_of_get (by rw [hget, hr]; rfl)] at hf
        rw [Refers, fields_of_get hr]
        rcases Record.mem_of_mem_stamp hf with hf | rfl | hf
        · exact ⟨key, field, hf, hk, hc⟩
        · simp [Value.items?] at hc
        · exact ⟨"kind", field, hf, by decide, hc⟩
    · rw [fields, assignKind_get, if_neg hid] at hf
      exact ⟨key, field, hf, hk, hc⟩
  | _ => exact ⟨key, field, hf, hk, hc⟩

/-- With more depth than there are records a record leads to, a walk that stamps
comes to an end below it. -/
theorem normalizeWithin_safe {depth : Nat} (hm : Narrows graph mid) (h : graph.AcyclicFrom id)
    (hd : (graph.ledTo id).card < depth) :
    (normalizeWithin policy depth mid (.ref id)).Safe (Narrows graph) := by
  induction depth generalizing mid id with
  | zero => exact absurd hd (Nat.not_lt_zero _)
  | succ depth ih =>
    have hchild : ∀ value, (∀ child, value = .ref child → graph.Refers id child) →
        ∀ mid, Narrows graph mid →
          (visitChild (normalizeWithin policy depth) mid value).Safe (Narrows graph) := by
      intro value hv mid hm
      have hstamped := hm.trans _ _ _ (narrows_assignKind mid value)
      unfold visitChild
      dsimp only
      split
      · rename_i hn
        obtain ⟨child, _, rfl, -, -⟩ := isNode_iff.mp hn
        have hr := hv child rfl
        have hlt := card_ledTo_lt h hr
        exact ih hstamped (h.below hr) (by omega)
      · exact hstamped
    refine visitAll_safe (fun key hk mid hm => ?_) hm
    have hx := not_mem_excludedKeys hk
    have hrefers : ∀ value ∈ (mid.get (.ref id) key).items?.getD [mid.get (.ref id) key],
        ∀ child, value = .ref child → graph.Refers id child := by
      rintro _ hv child rfl
      exact hm.refers _ _ (refers_of_get hx hv)
    unfold visitKey
    dsimp only
    split
    · cases policy with
      | skip => exact hm
      | error => trivial
    · split
      · rename_i items hi
        rw [hi] at hrefers
        exact visitAll_safe (fun value hv => hchild value (hrefers value hv)) hm
      · rename_i hi
        rw [hi] at hrefers
        exact hchild _ (hrefers _ (.head _)) mid hm

theorem exists_narrows (policy : MissingChild) {root : Value}
    (h : ∀ id, root = .ref id → graph.AcyclicFrom id) :
    ∃ after, (normalize policy false graph root).2.graph? = some after ∧ Narrows graph after := by
  have hends : ∃ depth, normalizeWithin policy depth graph root ≠ .endless := by
    cases root with
    | ref id =>
      refine ⟨graph.size + 1, fun he => ?_⟩
      have hle := graph.card_ledTo_le id
      have hsafe : (normalizeWithin policy (graph.size + 1) graph (.ref id)).Safe (Narrows graph) :=
        normalizeWithin_safe (.refl graph) (h id rfl) (Nat.lt_succ_of_le hle)
      rw [he] at hsafe
      exact hsafe
    | _ => exact ⟨1, show Outcome.done graph ≠ .endless from nofun⟩
  obtain ⟨depth, hne⟩ := hends
  have hkeeps : (normalizeWithin policy graph.visitDepth graph root).Keeps Narrows graph :=
    normalizeWithin_keeps Narrows.refl Narrows.trans narrows_assignKind _ graph root
  have hne' : normalizeWithin policy graph.visitDepth graph root ≠ .endless := by
    rwa [normalizeWithin_visitDepth hne]
  show ∃ after, (normalizeWithin policy graph.visitDepth graph root).graph? = some after ∧ _
  cases ho : normalizeWithin policy graph.visitDepth graph root with
  | done after => exact ⟨after, rfl, hkeeps after (congrArg Outcome.graph? ho)⟩
  | missing after kind field => exact ⟨after, rfl, hkeeps after (congrArg Outcome.graph? ho)⟩
  | endless => exact absurd ho hne'

-- ---------------------------------------------------------------------------
-- Copies
-- ---------------------------------------------------------------------------

theorem AcyclicFrom.beside_left (h : graph.AcyclicFrom id) :
    (beside graph other).AcyclicFrom id := by
  have hsize : (beside graph other).size = graph.size + other.size := by simp [beside, size]
  refine h.of_simulates (f := fun i => i) Function.injective_id
    (fun a ha => hsize ▸ Nat.lt_add_right _ ha) ?_
  intro a b ha hr
  refine ⟨b, rfl, ?_⟩
  rwa [Refers, fields, get_beside_left ha] at hr

theorem AcyclicFrom.beside_shift (h : graph.AcyclicFrom id) :
    (beside other graph).AcyclicFrom (other.shift id) := by
  have hsize : (beside other graph).size = graph.size + other.size := by
    simp [beside, size, Nat.add_comm]
  refine h.of_simulates (fun _ _ => shift_injective)
    (fun a ha => hsize ▸ Nat.add_lt_add_right ha _) ?_
  rintro a b - ⟨key, field, hf, hk, hb⟩
  have hfields : (beside other graph).fields (other.shift a) =
      (graph.fields a).map fun field => (field.1, field.2.mapRefs other.shift) :=
    fieldsOf_beside other graph (.ref a)
  rw [hfields] at hf
  obtain ⟨⟨name, old⟩, hold, hsame⟩ := List.mem_map.mp hf
  obtain ⟨rfl, rfl⟩ := Prod.mk.inj hsame
  have hitems : (old.mapRefs other.shift).items?.getD [old.mapRefs other.shift] =
      (old.items?.getD [old]).map (Value.mapRefs other.shift) := by
    rw [Value.items?_mapRefs]
    cases old.items? <;> rfl
  rw [hitems] at hb
  obtain ⟨value, hv, hvalue⟩ := List.mem_map.mp hb
  cases value with
  | ref c =>
    cases hvalue
    exact ⟨c, rfl, name, old, hold, hk, hv⟩
  | _ => cases hvalue

/-- If no fields but those for bookkeeping lead in a circle from the root, a
normalization returns or stops at an empty field. A walk from the root comes to an
end before it, and so do walks from the root and from what was returned after it. -/
theorem normalize_and_walks_end (graph : Graph) (config : Config) (root : Value)
    (h : ∀ id, root = .ref id → graph.AcyclicFrom id) :
    (∃ nodes, graph.walk? root = some nodes) ∧
    ∃ after,
      ((normalize config.missingChild config.copyTree graph root).2 = .done after ∨
        ∃ kind field, (normalize config.missingChild config.copyTree graph root).2 =
          .missing after kind field) ∧
      (∃ nodes, after.walk? root = some nodes) ∧
      ∃ nodes, after.walk? (normalize config.missingChild config.copyTree graph root).1 =
        some nodes := by
  refine ⟨exists_walk_of_acyclicFrom h, ?_⟩
  have hcases : ∀ {outcome : Outcome} {after : Graph}, outcome.graph? = some after →
      outcome = .done after ∨ ∃ kind field, outcome = .missing after kind field := by
    intro outcome after ho
    cases outcome with
    | done _ =>
      cases ho
      exact .inl rfl
    | missing _ kind field =>
      cases ho
      exact .inr ⟨kind, field, rfl⟩
    | endless => cases ho
  obtain ⟨after, hafter, hn⟩ := exists_narrows config.missingChild h
  cases config.copyTree with
  | false =>
    have hwalk : ∃ nodes, after.walk? root = some nodes :=
      exists_walk_of_acyclicFrom fun id hid => hn.acyclicFrom (h id hid)
    exact ⟨after, hcases hafter, hwalk, hwalk⟩
  | true =>
    rw [normalize_copy_eq]
    refine ⟨beside graph after, hcases ?_, ?_, ?_⟩
    · cases ho : (normalize config.missingChild false graph root).2 <;> rw [ho] at hafter <;>
        cases hafter <;> rfl
    · exact exists_walk_of_acyclicFrom fun id hid => (h id hid).beside_left
    · refine exists_walk_of_acyclicFrom fun id hid => ?_
      cases root with
      | ref old =>
        cases hid
        exact (hn.acyclicFrom (h old rfl)).beside_shift
      | _ => cases hid

theorem normalize_and_walks_end_shared :
    let graph : Graph := ⟨#[
      ⟨.node "Root", [("kind", .str "Root"), ("first", .ref 1), ("all", .list [.ref 1, .ref 2])]⟩,
      ⟨.node "Leaf", [("parent", .ref 0), ("kind", .list [.ref 2])]⟩,
      ⟨.node "Deep", [("tokens", .tuple [.ref 0]), ("loc", .ref 2)]⟩]⟩
    let config : Config := { missingChild := .skip, copyTree := true }
    graph.AcyclicFrom 0 ∧ (∃ nodes, graph.walk? (.ref 0) = some nodes) ∧
    ∃ after, (normalize config.missingChild config.copyTree graph (.ref 0)).2 = .done after ∧
      (∃ nodes, after.walk? (.ref 0) = some nodes) ∧
      ∃ nodes, after.walk? (.ref 3) = some nodes := by
  intro graph config
  -- Apart from the fields for bookkeeping, all references lead to higher numbers.
  have hup : ∀ parent < 3, ∀ field ∈ graph.fields parent, field.1 ∉ excludedKeys →
      ∀ value ∈ field.2.items?.getD [field.2], ∀ child ∈ value.mentions,
        parent < child ∧ child < 3 := by decide
  have hrefers : ∀ parent child, graph.Refers parent child → parent < child ∧ child < 3 := by
    rintro parent child ⟨key, field, hf, hk, hc⟩
    refine hup parent ?_ (key, field) hf hk _ hc child (.head _)
    by_contra hlt
    have hnone : graph.records[parent]? = none := Array.getElem?_eq_none (Nat.le_of_not_lt hlt)
    simp [fields, hnone] at hf
  have hacyclic : graph.AcyclicFrom 0 := by
    intro i hi
    refine ⟨?_, fun hcircle => ?_⟩
    · cases hi with
      | refl => decide
      | tail _ hlast => exact (hrefers _ _ hlast).2
    · have hlt : ∀ {j}, TransGen graph.Refers i j → i < j := by
        intro j hj
        induction hj with
        | single h => exact (hrefers _ _ h).1
        | tail _ h ih => exact ih.trans (hrefers _ _ h).1
      exact Nat.lt_irrefl _ (hlt hcircle)
  obtain ⟨hwalk, after, hends, hroot, hcopy⟩ := normalize_and_walks_end graph config (.ref 0)
    fun _ h => by
      cases h
      exact hacyclic
  have hdone : (normalize config.missingChild config.copyTree graph (.ref 0)).2.isDone = true := by
    decide +kernel
  refine ⟨hacyclic, hwalk, after, ?_, hroot, hcopy⟩
  rcases hends with hends | ⟨kind, field, hends⟩
  · exact hends
  · rw [hends] at hdone
    cases hdone

end Graph

end TemplateTree
