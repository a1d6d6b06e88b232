import TemplateTree.Proofs.Descent

/-!
# What normalization reaches

The records that a normalization reaches are the least set that holds the root
and is closed under child fields, where a field that holds a record counts if the
record was a node from the start. These are stamped and found by a walk
afterwards, in whatever order they are visited, and nothing else changes.
-/

namespace TemplateTree.Graph

variable {before graph mid after : Graph} {root id i : RecordId} {record : Record}

-- ---------------------------------------------------------------------------
-- The reached records
-- ---------------------------------------------------------------------------

/-- The least set of records that holds the root and is closed under the child
fields as they are in `after`. -/
inductive Reaches (before after : Graph) (root : RecordId) : RecordId → Prop
  | root : Reaches before after root root
  -- A kind of the table: what a listed field holds, or an element of it.
  | listed {parent id : RecordId} {record : Record} {keys : List String} {key : String}
      {field : Value} : Reaches before after root parent →
      after.records[parent]? = some record → record.listedKeys? = some keys → key ∈ keys →
      (key, field) ∈ record.fields →
      (field = .ref id ∨ ∃ items, field.items? = some items ∧ .ref id ∈ items) →
      id < after.size → Reaches before after root id
  -- Any other kind: the elements of lists and tuples.
  | element {parent id : RecordId} {record : Record} {key : String} {field : Value}
      {items : List Value} : Reaches before after root parent →
      after.records[parent]? = some record → record.listedKeys? = none → key ∉ excludedKeys →
      (key, field) ∈ record.fields → field.items? = some items → .ref id ∈ items →
      id < after.size → Reaches before after root id
  -- And single records that had a text as kind before.
  | single {parent id : RecordId} {record : Record} {key : String} :
      Reaches before after root parent → after.records[parent]? = some record →
      record.listedKeys? = none → key ∉ excludedKeys → (key, .ref id) ∈ record.fields →
      before.isNode (.ref id) = true → id < after.size → Reaches before after root id

theorem Reaches.step {parent : RecordId} (h : Reaches before after root parent)
    (hr : after.records[parent]? = some record) (hl : Leads before record (.ref id))
    (hid : id < after.size) : Reaches before after root id := by
  obtain ⟨key, field, hf, -, hv, hk⟩ := hl
  cases hi : field.items? with
  | some items =>
    simp only [hi, Option.getD_some] at hv
    cases hkeys : record.listedKeys? with
    | some keys =>
      rw [hkeys] at hk
      exact .listed h hr hkeys hk hf (.inr ⟨items, hi, hv⟩) hid
    | none =>
      rw [hkeys] at hk
      exact .element h hr hkeys (looksLikeChild_iff.mp hk).1 hf hi hv hid
  | none =>
    simp only [hi, Option.getD_none, List.mem_singleton] at hv
    subst hv
    cases hkeys : record.listedKeys? with
    | some keys =>
      rw [hkeys] at hk
      exact .listed h hr hkeys hk hf (.inl rfl) hid
    | none =>
      rw [hkeys] at hk
      obtain ⟨hx, hk⟩ := looksLikeChild_iff.mp hk
      exact .single h hr hkeys hx hf (hk.resolve_left (by simp [hi])) hid

theorem Reaches.mem_closed {P : RecordId → Prop} (h : Reaches before after root id) (hroot : P root)
    (hstep : ∀ {parent id : RecordId} {record : Record}, P parent →
      after.records[parent]? = some record → Leads before record (.ref id) → id < after.size →
      P id) : P id := by
  induction h with
  | root => exact hroot
  | @listed parent id record keys key field _ hr hkeys hk hf hv hid ih =>
    refine hstep ih hr ⟨key, field, hf, ?_, ?_, by rw [hkeys]; exact hk⟩ hid
    · rcases hv with rfl | ⟨items, hi, -⟩
      · rfl
      · cases field <;> first | rfl | cases hi
    · rcases hv with rfl | ⟨items, hi, hv⟩
      · exact .head _
      · simpa [hi] using hv
  | @element parent id record key field items _ hr hkeys hx hf hi hv hid ih =>
    have hlooks : before.looksLikeChild key field = true :=
      looksLikeChild_iff.mpr ⟨hx, .inl (by simp [hi])⟩
    refine hstep ih hr ⟨key, field, hf, not_null_of_looksLikeChild hlooks, ?_, ?_⟩ hid
    · simpa [hi] using hv
    · rw [hkeys]
      exact hlooks
  | @single parent id record key _ hr hkeys hx hf hb hid ih =>
    refine hstep ih hr ⟨key, .ref id, hf, rfl, .head _, ?_⟩ hid
    rw [hkeys]
    exact looksLikeChild_iff.mpr ⟨hx, .inr hb⟩

theorem Reaches.mem_closed_of_step {P : RecordId → Prop} (h : Reaches before after root id)
    (hroot : P root)
    (hstep : ∀ {parent id : RecordId} {record : Record}, Reaches before after root parent →
      P parent → after.records[parent]? = some record → Leads before record (.ref id) →
      id < after.size → P id) : P id := by
  have hboth : Reaches before after root id ∧ P id :=
    h.mem_closed (P := fun i => Reaches before after root i ∧ P i) ⟨.root, hroot⟩
      fun hp hr hl hid => ⟨hp.1.step hr hl hid, hstep hp.1 hp.2 hr hl hid⟩
  exact hboth.2

-- ---------------------------------------------------------------------------
-- Visits and closed sets
-- ---------------------------------------------------------------------------

/-- The records of a visit are closed: each was stamped, and all it led to from
then on were visited. -/
theorem Visits.closed {values : List Value} (hw : graph.WellFormed)
    (h : Visits graph values after) :
    ∃ T : RecordId → Prop, (∀ id, .ref id ∈ values → id < graph.size → T id) ∧
      ∀ n, T n → ∃ mid record, Extends graph mid ∧ record.isUsable = true ∧
        after.records[n]? = some record ∧
        ∀ id, Leads mid record (.ref id) → id < graph.size → T id := by
  induction h with
  | nil => exact ⟨fun _ => False, by simp, by simp⟩
  | @leaf graph after value rest hn hrest ih =>
    obtain ⟨heq, hnone⟩ := assignKind_of_not_isNode hw hn
    rw [heq] at hrest ih
    obtain ⟨T, hvalues, hT⟩ := ih hw
    refine ⟨T, fun id hid hlt => ?_, hT⟩
    rcases List.mem_cons.mp hid with rfl | hid
    · rw [lt_size_iff, hnone id rfl] at hlt
      cases hlt
    · exact hvalues id hid hlt
  | @node graph mid after value rest below hn hp hbelow hrest ihb ihr =>
    obtain ⟨n, _, rfl, -, -⟩ := isNode_iff.mp hn
    obtain ⟨record, hr, hu⟩ := usable_of_assignKind hw hn
    have he₁ := extends_assignKind graph (.ref n)
    have hw₁ := he₁.wellFormed hw
    have he₂ := hbelow.extends hw₁
    have hw₂ := he₂.wellFormed hw₁
    have he₃ := hrest.extends hw₂
    obtain ⟨T₁, hvalues₁, hT₁⟩ := ihb hw₁
    obtain ⟨T₂, hvalues₂, hT₂⟩ := ihr hw₂
    have hsize₁ := he₁.size_eq.symm
    have hsize₂ := (he₁.trans hw he₂).size_eq.symm
    refine ⟨fun i => i = n ∨ T₁ i ∨ T₂ i, fun id hid hlt => ?_, fun i hi => ?_⟩
    · rcases List.mem_cons.mp hid with hid | hid
      · cases hid
        exact .inl rfl
      · exact .inr (.inr (hvalues₂ id hid (hlt.trans_eq hsize₂)))
    · rcases hi with rfl | hi | hi
      · refine ⟨_, record, he₁, hu, he₃.get_usable (he₂.get_usable hr hu) hu, fun id hl hlt => ?_⟩
        have hmem := hp.mem_iff.mpr ((mem_targets hw₁ hr).mpr hl)
        exact .inr (.inl (hvalues₁ id hmem (hlt.trans_eq hsize₁)))
      · obtain ⟨seen, record, he, hu, hr, hleads⟩ := hT₁ i hi
        refine ⟨seen, record, he₁.trans hw he, hu, he₃.get_usable hr hu, fun id hl hlt => ?_⟩
        exact .inr (.inl (hleads id hl (hlt.trans_eq hsize₁)))
      · obtain ⟨seen, record, he, hu, hr, hleads⟩ := hT₂ i hi
        refine ⟨seen, record, (he₁.trans hw he₂).trans hw he, hu, hr, fun id hl hlt => ?_⟩
        exact .inr (.inr (hleads id hl (hlt.trans_eq hsize₂)))

/-- A visit that starts in a closed set changes nothing outside of it. -/
theorem Visits.within {values : List Value} {Q : RecordId → Prop} (hb : before.WellFormed)
    (hstep : ∀ {parent id : RecordId} {record : Record}, Q parent →
      after.records[parent]? = some record → Leads before record (.ref id) → id < after.size →
      Q id)
    (h : Visits graph values mid) (hg : Extends before graph) (hm : Extends mid after)
    (hchanged : ∀ i : RecordId, graph.records[i]? ≠ before.records[i]? → Q i)
    (hvalues : ∀ id, .ref id ∈ values → id < after.size → Q id) :
    ∀ i : RecordId, mid.records[i]? ≠ before.records[i]? → Q i := by
  induction h with
  | nil => exact hchanged
  | @leaf graph mid value rest hn hrest ih =>
    have hw := hg.wellFormed hb
    obtain ⟨heq, -⟩ := assignKind_of_not_isNode hw hn
    rw [heq] at ih
    exact ih hg hm hchanged fun id hid => hvalues id (.tail _ hid)
  | @node graph mid' mid value rest below hn hp hbelow hrest ihb ihr =>
    have hw := hg.wellFormed hb
    obtain ⟨n, _, rfl, -, -⟩ := isNode_iff.mp hn
    obtain ⟨record, hr, hu⟩ := usable_of_assignKind hw hn
    have he₁ := hg.trans hb (extends_assignKind graph (.ref n))
    have hw₁ := he₁.wellFormed hb
    have he₂ := hbelow.extends hw₁
    have hw₂ := he₂.wellFormed hw₁
    have he₃ := hrest.extends hw₂
    have hafter : Extends (graph.assignKind (.ref n)) after :=
      (he₂.trans hw₁ he₃).trans hw₁ hm
    have hrecord : after.records[n]? = some record := hafter.get_usable hr hu
    have hn : Q n := by
      refine hvalues n (.head _) ?_
      rw [lt_size_iff, hrecord]
      rfl
    have hchanged₁ : ∀ i : RecordId,
        (graph.assignKind (.ref n)).records[i]? ≠ before.records[i]? → Q i := by
      intro i hi
      by_cases hni : n = i
      · exact hni ▸ hn
      · rw [assignKind_get, if_neg hni] at hi
        exact hchanged i hi
    have hbelowQ : ∀ id, .ref id ∈ below → id < after.size → Q id := by
      intro id hid hlt
      have hl := (mem_targets hw₁ hr).mp (hp.mem_iff.mp hid)
      rcases hl.seen_before before with hl | ⟨hnode, hnot⟩
      · exact hstep hn hrecord hl hlt
      · exact hchanged₁ id (changed_of_isNode hnode hnot)
    have hchanged₂ := ihb he₁ (he₃.trans hw₂ hm) hchanged₁ hbelowQ
    exact ihr (he₁.trans hb he₂) hm hchanged₂ fun id hid => hvalues id (.tail _ hid)

-- ---------------------------------------------------------------------------
-- A visit to the root
-- ---------------------------------------------------------------------------

section
variable (hw : before.WellFormed) (hv : Visits before [.ref root] after)
include hw hv

theorem usable_of_reaches (hroot : root < before.size) (h : Reaches before after root id) :
    ∃ record, after.records[id]? = some record ∧ record.isUsable = true := by
  have hsize := (hv.extends hw).size_eq
  obtain ⟨T, hvalues, hT⟩ := hv.closed hw
  have hid : T id := by
    refine h.mem_closed (hvalues root (.head _) hroot) ?_
    intro parent id record hp hrec hl hlt
    obtain ⟨seen, _, he, -, hrec', hleads⟩ := hT parent hp
    rw [hrec] at hrec'
    cases hrec'
    exact hleads id (hl.mono hw he) (hlt.trans_eq hsize)
  obtain ⟨_, record, -, hu, hrec, -⟩ := hT id hid
  exact ⟨record, hrec, hu⟩

theorem reaches_of_changed (h : after.records[i]? ≠ before.records[i]?) :
    Reaches before after root i := by
  refine hv.within hw (fun hp hrec hl hlt => hp.step hrec hl hlt) (.refl _) (.refl _) ?_ ?_ i h
  · exact fun i hi => absurd rfl hi
  · intro id hid _
    rw [List.mem_singleton] at hid
    cases hid
    exact .root

theorem get_of_reaches (hroot : root < before.size) (h : Reaches before after root id) :
    after.records[id]? = before.records[id]?.map Record.stamp := by
  obtain ⟨record, hrec, hu⟩ := usable_of_reaches hw hv hroot h
  rcases hv.extends hw id with he | he
  · rw [he] at hrec
    rw [he, hrec, Option.map_some, Record.stamp_of_usable hu]
  · exact he

theorem reflTransGen_below_iff (hroot : root < before.size) :
    Relation.ReflTransGen (fun a b => after.Below b a) root i ↔ Reaches before after root i := by
  constructor
  · intro h
    induction h with
    | refl => exact .root
    | @tail parent child _ hb ih =>
      obtain ⟨record, hrec, hl, hn⟩ := hb
      rcases hl.seen_before before with hl | ⟨-, hnot⟩
      · obtain ⟨_, _, ⟨⟩, hchild, -⟩ := isNode_iff.mp hn
        exact ih.step hrec hl (by rw [lt_size_iff, hchild]; rfl)
      · exact reaches_of_changed hw hv (changed_of_isNode hn hnot)
  · intro h
    have hboth : Relation.ReflTransGen (fun a b => after.Below b a) root i ∧
        Reaches before after root i := by
      refine h.mem_closed (P := fun i => Relation.ReflTransGen (fun a b => after.Below b a) root i ∧
        Reaches before after root i) ⟨.refl, .root⟩ ?_
      rintro parent id record ⟨hreach, hp⟩ hrec hl hlt
      have hid := hp.step hrec hl hlt
      obtain ⟨child, hchild, hu⟩ := usable_of_reaches hw hv hroot hid
      refine ⟨hreach.tail ⟨record, hrec, hl.mono hw (hv.extends hw), ?_⟩, hid⟩
      rw [isNode_ref hchild]
      exact isSome_of_isUsable hu
    exact hboth.1

theorem Reaches.of_visits (hroot : root < before.size) {other : Graph}
    (hv' : Visits before [.ref root] other) (h : Reaches before after root i) :
    Reaches before other root i := by
  have hboth : Reaches before after root i ∧ Reaches before other root i := by
    refine h.mem_closed (P := fun i => Reaches before after root i ∧ Reaches before other root i)
      ⟨.root, .root⟩ ?_
    rintro parent id record ⟨hp, hp'⟩ hrec hl hlt
    have hrec' : other.records[parent]? = some record := by
      rw [get_of_reaches hw hv' hroot hp', ← get_of_reaches hw hv hroot hp, hrec]
    have hsize : after.size = other.size :=
      (hv.extends hw).size_eq.trans (hv'.extends hw).size_eq.symm
    exact ⟨hp.step hrec hl hlt, hp'.step hrec' hl (hlt.trans_eq hsize)⟩
  exact hboth.2

/-- All visits to the root end with the same graph, whatever their order. -/
theorem Visits.unique (hroot : root < before.size) {other : Graph}
    (hv' : Visits before [.ref root] other) : other = after := by
  have hrecords : other.records = after.records := by
    refine Array.ext_getElem? fun i => ?_
    by_cases hi : Reaches before after root i
    · rw [get_of_reaches hw hv hroot hi,
        get_of_reaches hw hv' hroot (hi.of_visits hw hv hroot hv')]
    · have hi' : ¬ Reaches before other root i := fun h => hi (h.of_visits hw hv' hroot hv)
      have hsame : after.records[i]? = before.records[i]? :=
        not_not.mp fun h => hi (reaches_of_changed hw hv h)
      have hsame' : other.records[i]? = before.records[i]? :=
        not_not.mp fun h => hi' (reaches_of_changed hw hv' h)
      rw [hsame, hsame']
  cases other
  cases after
  cases hrecords
  rfl

end

-- ---------------------------------------------------------------------------
-- Enough depth
-- ---------------------------------------------------------------------------

structure StampedIn (before : Graph) (S : RecordId → Prop) (graph : Graph) : Prop where
  grown : Extends before graph
  changed : ∀ i : RecordId, graph.records[i]? ≠ before.records[i]? → S i

def Outcome.Safe (I : Graph → Prop) : Outcome → Prop
  | done graph => I graph
  | missing _ _ _ => True
  | endless => False

theorem Outcome.Safe.imp {I J : Graph → Prop} {outcome : Outcome} (h : outcome.Safe I)
    (hj : ∀ graph, outcome = .done graph → I graph → J graph) : outcome.Safe J := by
  cases outcome with
  | done graph => exact hj graph rfl h
  | missing graph kind field => trivial
  | endless => exact h

theorem visitAll_safe {α : Type} {I : Graph → Prop} {visit : Graph → α → Outcome} {xs : List α}
    (h : ∀ x ∈ xs, ∀ graph, I graph → (visit graph x).Safe I) (hg : I graph) :
    (visitAll visit graph xs).Safe I := by
  induction xs generalizing graph with
  | nil => exact hg
  | cons x rest ih =>
    obtain ⟨hx, hrest⟩ := List.forall_mem_cons.mp h
    have hfirst := hx graph hg
    unfold visitAll
    cases ho : visit graph x with
    | done mid =>
      rw [ho] at hfirst
      exact ih hrest hfirst
    | missing mid kind field => trivial
    | endless =>
      rw [ho] at hfirst
      exact hfirst

section
variable (hw : before.WellFormed) (hv : Visits before [.ref root] after)
variable (hroot : root < before.size)
include hw hv hroot

theorem StampedIn.extends (h : StampedIn before (Reaches before after root) graph) :
    Extends graph after := by
  intro i
  by_cases hc : graph.records[i]? = before.records[i]?
  · rw [hc]
    exact hv.extends hw i
  · rcases h.grown i with he | he
    · exact absurd he hc
    · exact .inl (he ▸ get_of_reaches hw hv hroot (h.changed i hc))

theorem StampedIn.below_of_leads (h : StampedIn before (Reaches before after root) graph)
    (hp : Reaches before after root i) (hr : graph.records[i]? = some record)
    (hu : record.isUsable = true) (hl : Leads graph record (.ref id)) (hid : id < before.size) :
    Reaches before after root id ∧ after.Below id i := by
  have hext := h.extends hw hv hroot
  have hrec := hext.get_usable hr hu
  have hreach : Reaches before after root id := by
    rcases hl.seen_before before with hl | ⟨hn, hnot⟩
    · exact hp.step hrec hl (hid.trans_eq (hv.extends hw).size_eq.symm)
    · exact h.changed id (changed_of_isNode hn hnot)
  obtain ⟨child, hchild, huc⟩ := usable_of_reaches hw hv hroot hreach
  refine ⟨hreach, record, hrec, hl.mono (h.grown.wellFormed hw) hext, ?_⟩
  rw [isNode_ref hchild]
  exact isSome_of_isUsable huc

theorem acc_of_reaches (h : Reaches before after root i) : Acc after.Below i := by
  have hnode : after.isNode (.ref root) = true := by
    obtain ⟨record, hr, hu⟩ := usable_of_reaches hw hv hroot .root
    rw [isNode_ref hr]
    exact isSome_of_isUsable hu
  have hreach := (reflTransGen_below_iff hw hv hroot).mpr h
  induction hreach with
  | refl => exact (hv.acc hw).2 root (.head _) hnode
  | tail hreach hb ih => exact (ih ((reflTransGen_below_iff hw hv hroot).mp hreach)).inv hb

end

/-- With more depth than there are nodes below it, a reached record is walked to
the end. -/
def WalksToEnd (before after : Graph) (root : RecordId) (policy : MissingChild) (depth : Nat) :
    Prop :=
  ∀ {graph : Graph} {i : RecordId} {record : Record},
    StampedIn before (Reaches before after root) graph → Reaches before after root i →
    graph.records[i]? = some record → record.isUsable = true →
    (after.descendants i).card < depth →
    (normalizeWithin policy depth graph (.ref i)).Safe (StampedIn before (Reaches before after root))

section
variable {policy : MissingChild} {depth : Nat}
variable (hw : before.WellFormed) (hv : Visits before [.ref root] after)
variable (hroot : root < before.size) (ih : WalksToEnd before after root policy depth)
variable (h : StampedIn before (Reaches before after root) graph)
variable (hp : Reaches before after root i) (hr : graph.records[i]? = some record)
variable (hu : record.isUsable = true) (hd : (after.descendants i).card < depth + 1)
include hw hv hroot ih h hp hr hu hd

/-- A child is reached itself, so it may be stamped, and it needs less depth. -/
theorem visitChild_safe {value : Value} (hl : Leads graph record value)
    (hm : StampedIn before (Reaches before after root) mid) :
    (visitChild (normalizeWithin policy depth) mid value).Safe
      (StampedIn before (Reaches before after root)) := by
  unfold visitChild
  dsimp only
  split
  · rename_i hn
    obtain ⟨id, _, rfl, -, -⟩ := isNode_iff.mp hn
    obtain ⟨stamped, hs, hus⟩ := usable_of_assignKind (hm.grown.wellFormed hw) hn
    have hext := hm.grown.trans hw (extends_assignKind mid (.ref id))
    have hid : id < before.size := by
      rw [← hext.size_eq, lt_size_iff, hs]
      rfl
    obtain ⟨hreach, hb⟩ := h.below_of_leads hw hv hroot hp hr hu hl hid
    have hlt := card_descendants_lt (acc_of_reaches hw hv hroot hp) hb
    refine ih ⟨hext, fun j hj => ?_⟩ hreach hs hus (by omega)
    rw [assignKind_get] at hj
    split at hj
    · rename_i hjd
      exact hjd ▸ hreach
    · exact hm.changed j hj
  · rename_i hn
    rw [(assignKind_of_not_isNode (hm.grown.wellFormed hw) (by simpa using hn)).1]
    exact hm

/-- The record keeps its fields, so its children are those seen at the start. -/
theorem visitKey_safe {key : String} (hk : key ∈ graph.childKeys (.ref i))
    (hm : StampedIn before (Reaches before after root) mid) (hrm : mid.records[i]? = some record) :
    (visitKey policy (normalizeWithin policy depth) (.ref i) mid key).Safe
      (StampedIn before (Reaches before after root)) := by
  have hleads : ∀ value ∈ graph.targetsAt (.ref i) key, Leads graph record value :=
    fun value hvalue => (mem_targets (h.grown.wellFormed hw) hr).mp
      (List.mem_flatMap.mpr ⟨key, hk, hvalue⟩)
  have hget : mid.get (.ref i) key = graph.get (.ref i) key := by
    rw [get_of_get hrm, get_of_get hr]
  unfold visitKey
  dsimp only
  rw [hget]
  unfold targetsAt at hleads
  split
  · cases policy with
    | skip => exact hm
    | error => trivial
  · rename_i hnull
    rw [if_neg hnull] at hleads
    split
    · rename_i items hi
      rw [hi] at hleads
      refine visitAll_safe (fun value hvalue mid hm => ?_) hm
      exact visitChild_safe hw hv hroot ih h hp hr hu hd (hleads value hvalue) hm
    · rename_i hi
      rw [hi] at hleads
      exact visitChild_safe hw hv hroot ih h hp hr hu hd (hleads _ (.head _)) hm

end

theorem walksToEnd (hw : before.WellFormed) (hv : Visits before [.ref root] after)
    (hroot : root < before.size) (policy : MissingChild) (depth : Nat) :
    WalksToEnd before after root policy depth := by
  induction depth with
  | zero => exact fun _ _ _ _ hd => absurd hd (Nat.not_lt_zero _)
  | succ depth ih =>
    intro graph i record h hp hr hu hd
    refine (visitAll_safe (I := fun mid => StampedIn before (Reaches before after root) mid ∧
      mid.records[i]? = some record) ?_ ⟨h, hr⟩).imp fun _ _ hI => hI.1
    rintro key hk mid ⟨hm, hrm⟩
    have hwm := hm.grown.wellFormed hw
    refine (visitKey_safe hw hv hroot ih h hp hr hu hd hk hm hrm).imp fun last hdone hs => ⟨hs, ?_⟩
    have hvisits := visitKey_visits (descends_normalizeWithin policy depth) hwm hdone
    exact (hvisits.extends hwm).get_usable hrm hu

/-- The depth is enough: a normalization is cut off only if no order of visiting
comes to an end. -/
theorem normalize_ne_endless {policy : MissingChild} (hw : before.WellFormed)
    (hr : before.records[root]? = some record) (hu : record.isUsable = true)
    (hv : Visits before [.ref root] after) :
    (normalize policy false before (.ref root)).2 ≠ .endless := by
  have hlt : root < before.size := by
    rw [lt_size_iff, hr]
    rfl
  have hd : (after.descendants root).card < before.visitDepth := by
    have hle := after.card_descendants_le root
    rw [(hv.extends hw).size_eq] at hle
    exact hle.trans_lt before.size_lt_visitDepth
  have hsafe := walksToEnd hw hv hlt policy _ ⟨.refl _, fun i hi => absurd rfl hi⟩ .root hr hu hd
  intro he
  change normalizeWithin policy before.visitDepth before (.ref root) = .endless at he
  rw [he] at hsafe
  exact hsafe

-- ---------------------------------------------------------------------------
-- Normalization
-- ---------------------------------------------------------------------------

/-- A normalization in place that returns stamps exactly the records it reaches.
A walk from the root then finds these and no others, records that are not reached
are as before, and every order of visiting gives the same graph. -/
theorem normalize_reaches (before after : Graph) (policy : MissingChild) (root : RecordId)
    (hw : before.WellFormed)
    (hroot : ∃ kind, kind ≠ "" ∧ before.get (.ref root) "kind" = .str kind)
    (h : (normalize policy false before (.ref root)).2 = .done after) :
    (∃ nodes, after.walk? (.ref root) = some nodes ∧
      ∀ value, value ∈ nodes ↔ ∃ id, value = .ref id ∧ Reaches before after root id) ∧
    (∀ id, Reaches before after root id →
      ∃ kind, kind ≠ "" ∧ after.get (.ref id) "kind" = .str kind) ∧
    (∀ id, ¬ Reaches before after root id → after.records[id]? = before.records[id]?) ∧
    (∀ other, Visits before [.ref root] other ↔ other = after) := by
  obtain ⟨record, hr, hu⟩ := usable_of_get hroot
  have hlt : root < before.size := by
    rw [lt_size_iff, hr]
    rfl
  have hv := normalize_visits hw hr hu h
  have hext := hv.extends hw
  refine ⟨?_, ?_, ?_, ?_⟩
  · have hnode : after.isNode (.ref root) = true := by
      rw [isNode_ref (hext.get_usable hr hu)]
      exact isSome_of_isUsable hu
    obtain ⟨nodes, hn⟩ := exists_walk (hext.wellFormed hw) ((hv.acc hw).2 root (.head _) hnode)
    refine ⟨nodes, hn, fun value => ?_⟩
    rw [mem_walkWithin (hext.wellFormed hw) hn]
    simp only [reflTransGen_below_iff hw hv hlt]
  · intro id hid
    obtain ⟨stamped, hs, hus⟩ := usable_of_reaches hw hv hlt hid
    obtain ⟨kind, hk, he⟩ := Record.str?_of_isUsable hus
    exact ⟨kind, hk, (get_kind hs).trans he⟩
  · intro id hid
    exact not_not.mp fun hc => hid (reaches_of_changed hw hv hc)
  · exact fun other => ⟨hv.unique hw hlt, fun he => he ▸ hv⟩

def Outcome.isDone : Outcome → Bool
  | done _ => true
  | _ => false

theorem exists_done_of_isDone {outcome : Outcome} (h : outcome.isDone = true) :
    ∃ after, outcome = .done after := by
  cases outcome with
  | done after => exact ⟨after, rfl⟩
  | missing graph kind field => cases h
  | endless => cases h

theorem normalize_reaches_shared :
    let graph : Graph := ⟨#[
      ⟨.node "Root", [("kind", .str "Root"), ("first", .ref 1), ("all", .list [.ref 1, .null])]⟩,
      ⟨.node "Leaf", [("kind", .list [.ref 2])]⟩, ⟨.node "Deep", []⟩, ⟨.node "Other", []⟩]⟩
    ∃ after, (normalize .skip false graph (.ref 0)).2 = .done after ∧
      ∃ nodes, after.walk? (.ref 0) = some nodes ∧
        ∀ value, value ∈ nodes ↔ ∃ id, value = .ref id ∧ Reaches graph after 0 id := by
  intro graph
  obtain ⟨after, h⟩ : ∃ after, (normalize .skip false graph (.ref 0)).2 = .done after :=
    exists_done_of_isDone (by decide +kernel)
  have hw : graph.WellFormed := by
    constructor <;> simp [graph, RecordClass.name]
  have hroot : graph.get (.ref 0) "kind" = .str "Root" := rfl
  exact ⟨after, h, (normalize_reaches graph after .skip 0 hw ⟨"Root", by decide, hroot⟩ h).1⟩

end TemplateTree.Graph
