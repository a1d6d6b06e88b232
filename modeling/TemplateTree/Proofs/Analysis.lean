import TemplateTree.Proofs.Normalized

/-!
# Analyzed templates

Whatever can be parsed can be analyzed. In the tree that an analysis returns, all
nodes on a walk have the name of their class as kind, the table of child fields is
enough to find them, and it is known which nodes are left out.
-/

namespace TemplateTree

namespace Graph

-- ---------------------------------------------------------------------------
-- Walks by the table
-- ---------------------------------------------------------------------------

def tableKeys (graph : Graph) (node : Value) : List String :=
  ((graph.get node "kind").str?.bind (childKeyTable.lookup ·)).getD []

def tableChildren (graph : Graph) (node : Value) : List Value :=
  (graph.tableKeys node).flatMap (graph.childrenAt node)

/-- A walk that knows no child fields but those of the table. -/
def tableWalkWithin (graph : Graph) : Nat → Value → Option (List Value)
  | 0, _ => none
  | depth + 1, node => do
    return node :: (← joinAll (graph.tableWalkWithin depth) (graph.tableChildren node))

def tableWalk? (graph : Graph) (root : Value) : Option (List Value) :=
  graph.tableWalkWithin graph.walkDepth root

theorem joinAll_congr {α β : Type} {f g : α → Option (List β)} {xs : List α} {ys : List β}
    (h : joinAll f xs = some ys)
    (hg : ∀ x ∈ xs, ∀ l, f x = some l → (∀ y ∈ l, y ∈ ys) → g x = some l) :
    joinAll g xs = some ys := by
  induction xs generalizing ys with
  | nil => exact h
  | cons x xs ih =>
    obtain ⟨first, hf, rest, hr, rfl⟩ := joinAll_cons_eq_some.mp h
    obtain ⟨hx, hxs⟩ := List.forall_mem_cons.mp hg
    refine joinAll_cons_eq_some.mpr
      ⟨first, hx first hf fun y hy => List.mem_append_left _ hy, rest, ih hr ?_, rfl⟩
    exact fun x hm l hl hy => hxs x hm l hl fun y hm => List.mem_append_right _ (hy y hm)

theorem tableWalkWithin_eq {graph : Graph} {depth : Nat} {node : Value} {nodes : List Value}
    (h : graph.walkWithin depth node = some nodes)
    (ht : ∀ value ∈ nodes, graph.tableChildren value = graph.children value) :
    graph.tableWalkWithin depth node = some nodes := by
  induction depth generalizing node nodes with
  | zero => cases h
  | succ depth ih =>
    obtain ⟨below, hb, rfl⟩ := walkWithin_eq_some.mp h
    obtain ⟨hnode, hbelow⟩ := List.forall_mem_cons.mp ht
    have hjoin := joinAll_congr (g := graph.tableWalkWithin depth) hb fun child _ l hl hm =>
      ih hl fun value hv => hbelow value (hm value hv)
    simp [tableWalkWithin, hnode, hjoin]

-- ---------------------------------------------------------------------------
-- Nodes that are left out
-- ---------------------------------------------------------------------------

def Under (graph : Graph) : RecordId → RecordId → Prop :=
  Relation.ReflTransGen fun parent child => ∃ key, graph.Holds parent key child

/-- A record in a field that walks skip, or below one. -/
def Skipped (graph : Graph) (root id : RecordId) : Prop :=
  ∃ parent key first, graph.Under root parent ∧ graph.Holds parent key first ∧
    SkipsField (graph.className (.ref parent)) key ∧ graph.Under first id

variable {before after : Graph} {root parent child i : RecordId} {record : Record}
variable {name key : String}

section
variable (h : before.Shaped root) (hs : StampedIn before before.Walkable after)
variable (hv : Visits before [.ref root] after)
include h hs hv

theorem Reaches.walkable (hi : Reaches before after root i) : before.Walkable i := by
  obtain ⟨_, hroot, -, hwalk⟩ := h.exists_root
  have hlt : root < before.size := h.descending.bounded root hwalk
  refine hi.mem_closed_of_step hwalk fun hp hparent hr hl _ => ?_
  obtain ⟨_, hr', hu⟩ := usable_of_reaches h.wellFormed hv hlt hp
  rw [hr] at hr'
  cases hr'
  obtain ⟨_, ⟨⟩, hchild, -⟩ := h.descending.leads hs hparent hr hu (hl.mono h.wellFormed hs.grown)
  exact hchild

theorem Reaches.exists_stamped (hi : Reaches before after root i) :
    ∃ old name, before.records[i]? = some old ∧ old.type = .node name ∧ name ∈ walkedClasses ∧
      before.className (.ref i) = name ∧ after.records[i]? = some old.stamp := by
  obtain ⟨old, name, hold, ht, hn⟩ := hi.walkable h hs hv
  obtain ⟨_, -, -, hroot⟩ := h.exists_root
  refine ⟨old, name, hold, ht, hn, className_of_get hold ht, ?_⟩
  rw [get_of_reaches h.wellFormed hv (h.descending.bounded root hroot) hi, hold, Option.map_some]

theorem Reaches.of_holds (hp : Reaches before after root parent)
    (hl : ListsField (before.className (.ref parent)) key) (hh : before.Holds parent key child) :
    Reaches before after root child := by
  obtain ⟨old, name, hold, ht, hn, rfl, hr⟩ := hp.exists_stamped h hs hv
  have hleads := (h.leads_iff (.refl before _) hold ht hn).mpr ⟨key, child, rfl, hl, hh⟩
  refine hp.step hr hleads ?_
  rw [hs.grown.size_eq]
  exact h.descending.bounded child (h.isA_of_listed hold ht hl hh).walkable

theorem Reaches.eq_root_or_held (hi : Reaches before after root i) :
    i = root ∨ ∃ parent key, Reaches before after root parent ∧
      ListsField (before.className (.ref parent)) key ∧ before.Holds parent key i := by
  refine hi.mem_closed_of_step (P := fun i => i = root ∨ ∃ parent key,
    Reaches before after root parent ∧ ListsField (before.className (.ref parent)) key ∧
      before.Holds parent key i) (.inl rfl) fun hp _ hr hl _ => .inr ?_
  obtain ⟨old, name, hold, ht, hn, rfl, hr'⟩ := hp.exists_stamped h hs hv
  rw [hr] at hr'
  cases hr'
  obtain ⟨key, _, ⟨⟩, hlists, hh⟩ := (h.leads_iff (.refl before _) hold ht hn).mp hl
  exact ⟨_, key, hp, hlists, hh⟩

theorem Reaches.not_skipped (hi : Reaches before after root i) : ¬ before.Skipped root i := by
  rintro ⟨parent, key, first, -, hh, hskip, hunder⟩
  -- Upwards from the record, all holders are reached, up to the one that skips.
  induction hunder with
  | refl =>
    rcases hi.eq_root_or_held h hs hv with rfl | ⟨other, another, -, hlists, hh'⟩
    · exact h.top parent key hh
    · obtain ⟨rfl, rfl⟩ := h.single hh hh' (hi.walkable h hs hv).not_isPlace
      exact not_skipsField hlists hskip
  | tail _ hstep ih =>
    obtain ⟨key', hheld⟩ := hstep
    rcases hi.eq_root_or_held h hs hv with rfl | ⟨other, another, hother, -, hh'⟩
    · exact h.top _ key' hheld
    · obtain ⟨rfl, rfl⟩ := h.single hheld hh' (hi.walkable h hs hv).not_isPlace
      exact ih hother

/-- Whatever can be reached through fields is reached by the walk or skipped. -/
theorem reaches_or_skipped (hi : before.Walkable i) (hunder : before.Under root i) :
    Reaches before after root i ∨ before.Skipped root i := by
  induction hunder with
  | refl => exact .inl .root
  | @tail parent child hp hstep ih =>
    obtain ⟨key, hh⟩ := hstep
    obtain ⟨hparent, hfield⟩ := h.listed_or_skipped_of_holds hi hh
    rcases ih hparent with hreach | ⟨other, another, first, ho, hf, hskip, hbelow⟩
    · rcases hfield with hlists | hskip
      · exact .inl (hreach.of_holds h hs hv hlists hh)
      · exact .inr ⟨parent, key, child, hp, hh, hskip, .refl⟩
    · exact .inr ⟨other, another, first, ho, hf, hskip, hbelow.tail ⟨key, hh⟩⟩

end

-- ---------------------------------------------------------------------------
-- From the parsed tree to the analyzed one
-- ---------------------------------------------------------------------------

theorem Extends.type_eq (he : Extends before after) (i : RecordId) :
    after.records[i]?.map (·.type) = before.records[i]?.map (·.type) := by
  rcases he i with heq | heq <;> rw [heq]
  cases before.records[i]? <;> simp

theorem Extends.className_eq (he : Extends before after) (i : RecordId) :
    after.className (.ref i) = before.className (.ref i) := by
  have htype := congrArg (Option.map RecordClass.name) (he.type_eq i)
  simp only [Option.map_map, Function.comp_def] at htype
  simp only [className, htype]

theorem isA_iff {classes : List String} : before.IsA i classes ↔
    ∃ name ∈ classes, before.records[i]?.map (·.type) = some (.node name) := by
  simp only [IsA, Option.map_eq_some_iff]
  constructor
  · rintro ⟨record, name, hr, ht, hn⟩
    exact ⟨name, hn, record, hr, ht⟩
  · rintro ⟨name, hn, record, hr, ht⟩
    exact ⟨record, name, hr, ht, hn⟩

theorem Extends.isA_iff (he : Extends before after) {classes : List String} :
    after.IsA i classes ↔ before.IsA i classes := by
  rw [Graph.isA_iff, Graph.isA_iff, he.type_eq]

theorem Shaped.isA_of_enum (h : before.Shaped root) {values member : String} {number : Int}
    (hk : before.field? i "kind" = some (.enum values member number)) :
    before.IsA i ["BoundAttribute"] ∧ values = "BindingKind" ∨
      before.IsA i ["BoundEvent"] ∧ values = "EventKind" := by
  cases hr : before.records[i]? with
  | none => simp [field?, fields, hr] at hk
  | some record =>
    rw [field?, fields_of_get hr] at hk
    rcases (h.fits_of_get hr).type_of_enum hk with ⟨ht, hv⟩ | ⟨ht, hv⟩
    · exact .inl ⟨⟨record, _, hr, ht, .head _⟩, hv⟩
    · exact .inr ⟨⟨record, _, hr, ht, .head _⟩, hv⟩

theorem Shaped.exists_enum (h : before.Shaped root)
    (hi : before.IsA i ["BoundAttribute", "BoundEvent"]) :
    ∃ values member number, before.field? i "kind" = some (.enum values member number) := by
  obtain ⟨record, name, hr, ht, hn⟩ := hi
  rw [field?, fields_of_get hr]
  have hslot : ∃ values, kindSlot? record.type = some (.enum values) := by
    simp only [List.mem_cons, List.not_mem_nil, or_false] at hn
    rcases hn with rfl | rfl <;> exact ⟨_, by rw [ht]; rfl⟩
  obtain ⟨values, hslot⟩ := hslot
  exact ⟨values, (h.fits_of_get hr).exists_enum hslot⟩

theorem Shaped.under_eq (h : before.Shaped root) (he : Extends before after) :
    after.Under = before.Under := by
  unfold Under
  simp only [h.holds_congr he]

theorem Shaped.skipped_iff (h : before.Shaped root) (he : Extends before after) :
    after.Skipped root i ↔ before.Skipped root i := by
  simp only [Skipped, h.under_eq he, h.holds_congr he, he.className_eq]

section
variable (h : before.Shaped root) (hs : StampedIn before before.Walkable after)
variable (hv : Visits before [.ref root] after)
include h hs hv

theorem Reaches.get_kind (hi : Reaches before after root i) :
    after.get (.ref i) "kind" = .str (after.className (.ref i)) := by
  obtain ⟨old, name, hold, ht, hn, hname, hr⟩ := hi.exists_stamped h hs hv
  rw [hs.grown.className_eq, hname, Graph.get_kind hr, (h.fits_of_get hold).kind_stamp ht hn]

/-- Members of enumerations are moved away from the kinds that are reached. -/
theorem originalKind_iff {value : Value} : after.field? i "original_kind" = some value ↔
    Reaches before after root i ∧ before.field? i "kind" = some value ∧
      ∃ values member number, value = .enum values member number := by
  by_cases hi : Reaches before after root i
  · obtain ⟨old, _, hold, -, -, -, hr⟩ := hi.exists_stamped h hs hv
    simp only [field?, fields_of_get hr, fields_of_get hold,
      (h.fits_of_get hold).lookup_originalKind_stamp, hi, true_and]
  · have hsame : after.records[i]? = before.records[i]? :=
      not_not.mp fun hc => hi (reaches_of_changed h.wellFormed hv hc)
    simp only [hi, false_and, iff_false]
    cases hold : before.records[i]? with
    | none => simp [field?, fields, hsame, hold]
    | some old => simp [field?, fields, hsame, hold, (h.fits_of_get hold).lookup_originalKind]

theorem Reaches.children_eq_nil (hi : Reaches before after root i)
    (hl : childKeyTable.lookup (after.className (.ref i)) = none) :
    after.children (.ref i) = [] := by
  obtain ⟨old, name, hold, ht, hn, hname, hr⟩ := hi.exists_stamped h hs hv
  rw [hs.grown.className_eq, hname] at hl
  refine List.eq_nil_iff_forall_not_mem.mpr fun value hm => ?_
  have hleads := ((mem_children (hs.grown.wellFormed h.wellFormed) hr).mp hm).1
  obtain ⟨key, _, -, hlists, -⟩ := (h.leads_iff hs hold ht hn).mp hleads
  obtain ⟨keys, hk, -⟩ := listsField_iff.mp hlists
  rw [hl] at hk
  cases hk

theorem Reaches.tableChildren_eq (hi : Reaches before after root i) :
    after.tableChildren (.ref i) = after.children (.ref i) := by
  have hkind := hi.get_kind h hs hv
  cases hl : childKeyTable.lookup (after.className (.ref i)) with
  | none =>
    rw [hi.children_eq_nil h hs hv hl]
    simp [tableChildren, tableKeys, hkind, Value.str?, hl]
  | some keys =>
    simp [tableChildren, tableKeys, children, childKeys, hkind, Value.str?, hl]

end

end Graph

-- ---------------------------------------------------------------------------
-- Analyses
-- ---------------------------------------------------------------------------

def ParsedTemplate.graph (code : Text.Chars) (parsed : ParsedTemplate) : Graph :=
  ((Site.ofSource parsed.source).build (Program.ofTemplate code parsed).blueprint).2.graph

/-- What holds of the nodes on a walk through a normalized tree. `before` is the
graph that was normalized. -/
structure Graph.WalkedTree (before after : Graph) (root : RecordId) (nodes : List Value) :
    Prop where
  kind : ∀ value ∈ nodes, after.get value "kind" = .str (after.className value)
  shadowed : ∀ id, (∃ value, after.field? id "original_kind" = some value) ↔
    .ref id ∈ nodes ∧ after.IsA id ["BoundAttribute", "BoundEvent"]
  original : ∀ id value, after.field? id "original_kind" = some value →
    before.field? id "kind" = some value ∧ ∃ values member number,
      value = .enum values member number ∧
      (after.IsA id ["BoundAttribute"] ∧ values = "BindingKind" ∨
        after.IsA id ["BoundEvent"] ∧ values = "EventKind")
  leaf : ∀ value ∈ nodes, ∀ kind, after.get value "kind" = .str kind →
    Graph.childKeyTable.lookup kind = none → after.children value = []
  table : after.tableWalk? (.ref root) = some nodes
  skipped : ∀ id, after.IsA id treeClasses → after.Under root id →
    (.ref id ∉ nodes ↔ after.Skipped root id)

theorem Graph.Shaped.mem_walk {before after : Graph} {root : RecordId} (h : before.Shaped root)
    {policy : Graph.MissingChild} {nodes : List Value}
    (hdone : (before.normalize policy false (.ref root)).2 = .done after)
    (hwalk : after.walk? (.ref root) = some nodes) (value : Value) :
    value ∈ nodes ↔ ∃ id, value = .ref id ∧ Graph.Reaches before after root id := by
  obtain ⟨record, hr, hu, hroot⟩ := h.exists_root
  have hw := h.wellFormed
  have hv := Graph.normalize_visits hw hr hu hdone
  rw [Graph.mem_walkWithin ((hv.extends hw).wellFormed hw) hwalk]
  simp only [Graph.reflTransGen_below_iff hw hv (h.descending.bounded root hroot)]

theorem Graph.Shaped.exists_walk {before : Graph} {root : RecordId} (h : before.Shaped root)
    (policy : Graph.MissingChild) :
    ∃ after nodes, (before.normalize policy false (.ref root)).2 = .done after ∧
      after.walk? (.ref root) = some nodes ∧ Graph.WalkedTree before after root nodes := by
  obtain ⟨after, hdone, hs⟩ := h.exists_done policy
  obtain ⟨record, hr, hu, hroot⟩ := h.exists_root
  have hw := h.wellFormed
  have hv := Graph.normalize_visits hw hr hu hdone
  have hlt := h.descending.bounded root hroot
  have hwa := hs.grown.wellFormed hw
  obtain ⟨nodes, hwalk⟩ := Graph.exists_walk hwa (Graph.acc_of_reaches hw hv hlt .root)
  have hmem := h.mem_walk hdone hwalk
  have hyield : ∀ id, .ref id ∈ nodes ↔ Graph.Reaches before after root id := by
    simp [hmem]
  refine ⟨after, nodes, hdone, hwalk, ?_, ?_, ?_, ?_, ?_, ?_⟩
  · intro value hvalue
    obtain ⟨id, rfl, hi⟩ := (hmem value).mp hvalue
    exact hi.get_kind h hs hv
  · intro id
    simp only [Graph.originalKind_iff h hs hv, hyield, hs.grown.isA_iff]
    constructor
    · rintro ⟨_, hi, hk, values, member, number, rfl⟩
      refine ⟨hi, ?_⟩
      rcases h.isA_of_enum hk with ⟨hid, -⟩ | ⟨hid, -⟩
      · exact hid.mono (by simp)
      · exact hid.mono (by simp)
    · rintro ⟨hi, hid⟩
      obtain ⟨values, member, number, hk⟩ := h.exists_enum hid
      exact ⟨_, hi, hk, values, member, number, rfl⟩
  · intro id value hvalue
    obtain ⟨-, hk, values, member, number, rfl⟩ := (Graph.originalKind_iff h hs hv).mp hvalue
    refine ⟨hk, values, member, number, rfl, ?_⟩
    rw [hs.grown.isA_iff, hs.grown.isA_iff]
    exact h.isA_of_enum hk
  · intro value hvalue kind hkind hl
    obtain ⟨id, rfl, hi⟩ := (hmem value).mp hvalue
    rw [hi.get_kind h hs hv] at hkind
    cases hkind
    exact hi.children_eq_nil h hs hv hl
  · refine Graph.tableWalkWithin_eq hwalk fun value hvalue => ?_
    obtain ⟨id, rfl, hi⟩ := (hmem value).mp hvalue
    exact hi.tableChildren_eq h hs hv
  · intro id hid hunder
    rw [hs.grown.isA_iff] at hid
    rw [h.under_eq hs.grown] at hunder
    rw [hyield, h.skipped_iff hs.grown]
    constructor
    · exact (Graph.reaches_or_skipped h hs hv hid.walkable hunder).resolve_left
    · exact fun hskip hi => hi.not_skipped h hs hv hskip

theorem Analysis.ofTemplate_of_done {code : Text.Chars} {parsed : ParsedTemplate} {config : Config}
    {root : RecordId} {site : Site} {after : Graph}
    (hbuild : (Site.ofSource parsed.source).build (Program.ofTemplate code parsed).blueprint =
      (.ref root, site))
    (hdone : (site.graph.normalize config.missingChild false (.ref root)).2 = .done after) :
    Analysis.ofTemplate code parsed config =
      .ok ⟨Program.ofTemplate code parsed, after, .ref root, moduleScope root⟩ := by
  unfold Analysis.ofTemplate
  dsimp only
  rw [hbuild]
  dsimp only
  rw [hdone]

/-- A template that is parsed is also analyzed, whatever is done about missing
children, and one that is not fails with the same error. -/
theorem analyze_parsed (code : Text.Chars) (path : String) (config : Config) :
    match parseTemplate code path config.parseOptions with
    | .error error => analyze code path config = .error (.template error)
    | .ok parsed => ∃ analysis root nodes, analyze code path config = .ok analysis ∧
      analysis.root = .ref root ∧ analysis.graph.walk? analysis.root = some nodes ∧
      Graph.WalkedTree (parsed.graph code) analysis.graph root nodes := by
  cases hparse : parseTemplate code path config.parseOptions with
  | error error => simp only [analyze, hparse]
  | ok parsed =>
    obtain ⟨site, hbuild, hshaped⟩ := Program.shaped parsed.source (Program.ofTemplate code parsed)
    obtain ⟨after, nodes, hdone, hwalk, hby⟩ := hshaped.exists_walk config.missingChild
    refine ⟨⟨Program.ofTemplate code parsed, after, .ref 1, moduleScope 1⟩, 1, nodes, ?_, rfl,
      hwalk, ?_⟩
    · rw [analyze, hparse]
      exact Analysis.ofTemplate_of_done hbuild hdone
    · simpa only [ParsedTemplate.graph, hbuild] using hby

-- The event, the reference and the argument of the pipe are left out.
example :
    ((analyze "<ng-template #r (x)=\"y\" *q=\"z\">\x7b\x7b a | p: b \x7d\x7d</ng-template>".toList
      "u" {}).toOption.bind fun analysis =>
        (analysis.graph.walk? analysis.root).map (·.map analysis.graph.className)) =
      some [ "Program", "Template", "BoundAttribute", "ASTWithSource", "PropertyRead"
           , "ImplicitReceiver", "BoundText", "ASTWithSource", "Interpolation", "BindingPipe"
           , "PropertyRead", "ImplicitReceiver" ] := by decide +kernel

end TemplateTree
