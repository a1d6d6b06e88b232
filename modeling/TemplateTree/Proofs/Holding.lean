import TemplateTree.Proofs.Records

/-!
# Who holds a record

In the graph of a parsed template every node has one place: a field of one
record, which comes before it. The document itself is held by none.
-/

namespace TemplateTree

namespace Graph

/-- The field of a record holds another one, or a list or tuple with it. -/
def Holds (graph : Graph) (parent : RecordId) (key : String) (child : RecordId) : Prop :=
  ∃ field, graph.field? parent key = some field ∧ .ref child ∈ field.items?.getD [field]

structure Shaped (graph : Graph) (root : RecordId) : Prop where
  fits : ∀ record ∈ graph.records, record.Fits graph
  program : graph.IsA root ["Program"]
  later : ∀ {parent key child}, graph.Holds parent key child → graph.IsA parent walkedClasses →
    parent < child
  single : ∀ {parent other key another child}, graph.Holds parent key child →
    graph.Holds other another child → ¬ graph.IsPlace child → parent = other ∧ key = another
  top : ∀ parent key, ¬ graph.Holds parent key root

variable {graph : Graph} {parent child : RecordId} {key : String} {record : Record}

theorem holds_iff : graph.Holds parent key child ↔
    ∃ record, graph.records[parent]? = some record ∧
      ∃ field, record.fields.lookup key = some field ∧ child ∈ field.refs := by
  simp only [Holds, field?, fields, Value.mem_refs]
  cases graph.records[parent]? <;> simp

end Graph

theorem eq_of_nodup_flatMap {α β : Type} {f : α → List β} {xs : List α} {i j : Nat} {x y : α}
    {b : β} (h : (xs.flatMap f).Nodup) (hi : xs[i]? = some x) (hj : xs[j]? = some y)
    (hx : b ∈ f x) (hy : b ∈ f y) : i = j := by
  have hpairs := List.pairwise_iff_getElem.mp (List.nodup_flatMap.mp h).2
  obtain ⟨hilt, rfl⟩ := List.getElem?_eq_some_iff.mp hi
  obtain ⟨hjlt, rfl⟩ := List.getElem?_eq_some_iff.mp hj
  rcases Nat.lt_trichotomy i j with hlt | heq | hgt
  · exact absurd hy (hpairs i j hilt hjlt hlt hx)
  · exact heq
  · exact absurd hx (hpairs j i hjlt hilt hgt hy)

theorem Site.ofSource_eq (source : Source) :
    ∃ record, record.type = .sourceFile ∧ record.refs = [] ∧
      (∀ graph, record.Fits graph) ∧
      Site.ofSource source = { graph := ⟨#[record]⟩, file := 0 } := by
  have hplain : ∀ item ∈ source.lineStarts.map fun n : Nat => Value.int n, item.isPlain = true := by
    simp [Value.isPlain]
  have hnone : (source.lineStarts.map fun n : Nat => Value.int n).filterMap Value.ref? = [] := by
    simp [List.filterMap_eq_nil_iff, Value.ref?]
  refine ⟨_, rfl, ?_, fun graph => ?_, rfl⟩
  · simp [Record.refs, Value.refs, Value.items?, Value.ref?, hnone]
  · exact ⟨_, rfl, .cons ⟨rfl, rfl⟩ <| .cons ⟨rfl, rfl⟩ <| .cons ⟨rfl, _, rfl, hplain⟩ .nil⟩

theorem eq_of_nodup_owned {record : Record} {file child : RecordId} {key another : String}
    {field other : Value} (h : (record.owned file).Nodup) (hne : child ≠ file)
    (hf : (key, field) ∈ record.fields) (ho : (another, other) ∈ record.fields)
    (hc : child ∈ field.refs) (hc' : child ∈ other.refs) : key = another := by
  rw [Record.owned, Record.refs, List.filter_flatMap] at h
  obtain ⟨i, hi⟩ := List.mem_iff_getElem?.mp hf
  obtain ⟨j, hj⟩ := List.mem_iff_getElem?.mp ho
  have hij := eq_of_nodup_flatMap h hi hj (List.mem_filter.mpr ⟨hc, by simpa using hne⟩)
    (List.mem_filter.mpr ⟨hc', by simpa using hne⟩)
  rw [hij, hj] at hi
  cases hi
  rfl

section
variable {first : Record} {records : List Record} {parent child : RecordId} {key : String}

theorem Graph.Holds.exists_index (hfirst : first.refs = [])
    (h : Graph.Holds ⟨#[first] ++ records.toArray⟩ parent key child) :
    ∃ i record field, parent = i + 1 ∧ records[i]? = some record ∧ (key, field) ∈ record.fields ∧
      child ∈ field.refs ∧ child ∈ record.refs := by
  obtain ⟨record, hr, field, hf, hc⟩ := Graph.holds_iff.mp h
  have hmem := mem_of_lookup hf
  have hrefs : child ∈ record.refs := List.mem_flatMap.mpr ⟨_, hmem, hc⟩
  cases parent with
  | zero =>
    have : first = record := by simpa using hr
    rw [← this, hfirst] at hrefs
    cases hrefs
  | succ i =>
    refine ⟨i, record, field, rfl, ?_, hmem, hc, hrefs⟩
    simpa [Array.getElem?_append] using hr

/-- The records of a document, laid out behind its source, have their shape. -/
theorem shaped_of_lays (hplace : ∀ name, first.type ≠ .node name) (hfirst : first.refs = [])
    (hfits : ∀ graph, first.Fits graph)
    (h : Lays 0 1 (.value (.one ["Program"]) (.ref 1)) records) :
    Graph.Shaped ⟨#[first] ++ records.toArray⟩ 1 := by
  have hfile : Graph.IsPlace ⟨#[first] ++ records.toArray⟩ 0 := ⟨first, by simp, hplace⟩
  have hat : Graph.HasAt ⟨#[first] ++ records.toArray⟩ 1 records := by
    intro i record hi
    rw [Nat.add_comm]
    simpa [Array.getElem?_append] using hi
  obtain ⟨⟨_, ⟨⟩, hprogram⟩, hrecords⟩ := h.fits hfile hat
  have hnodup : (1 :: records.flatMap (Record.owned 0)).Nodup :=
    (h.perm_refs Nat.one_pos).nodup_iff.mpr List.nodup_range'
  obtain ⟨htop, hnodup⟩ := List.nodup_cons.mp hnodup
  refine ⟨fun record hm => ?_, hprogram, ?_, ?_, ?_⟩
  · rcases Array.mem_append.mp hm with hm | hm
    · rw [List.mem_toArray.mp hm |> List.mem_singleton.mp]
      exact hfits _
    · exact hrecords record (List.mem_toArray.mp hm)
  · intro parent key child hh hparent
    obtain ⟨i, record, _, rfl, hr, -, -, hc⟩ := hh.exists_index hfirst
    obtain ⟨_, name, hr', ht, -⟩ := hparent
    rw [Nat.add_comm, hat i record hr] at hr'
    cases hr'
    rw [Nat.add_comm]
    exact h.lt_of_mem_refs Nat.one_pos hr ht hc
  · intro parent other key another child hh hh' hchild
    have hne : child ≠ 0 := fun heq => hchild (heq ▸ hfile)
    obtain ⟨i, record, field, rfl, hr, hf, hc, hm⟩ := hh.exists_index hfirst
    obtain ⟨j, record', field', rfl, hr', hf', hc', hm'⟩ := hh'.exists_index hfirst
    have howned : ∀ {record : Record}, child ∈ record.refs → child ∈ record.owned 0 :=
      fun hm => List.mem_filter.mpr ⟨hm, by simpa using hne⟩
    have hij := eq_of_nodup_flatMap hnodup hr hr' (howned hm) (howned hm')
    rw [← hij, hr] at hr'
    cases hr'
    have hrecord := (List.nodup_flatMap.mp hnodup).1 record (List.mem_of_getElem? hr)
    exact ⟨by rw [hij], eq_of_nodup_owned hrecord hne hf hf' hc hc'⟩
  · intro parent key hh
    obtain ⟨i, record, _, -, hr, -, -, hm⟩ := hh.exists_index hfirst
    exact htop (List.mem_flatMap.mpr ⟨record, List.mem_of_getElem? hr,
      List.mem_filter.mpr ⟨hm, by simp⟩⟩)

end

theorem Program.shaped (source : Source) (program : Program) :
    ∃ site, (Site.ofSource source).build program.blueprint = (.ref 1, site) ∧
      site.graph.Shaped 1 := by
  obtain ⟨first, htype, hfirst, hfits, hsource⟩ := Site.ofSource_eq source
  obtain ⟨value, records, hb, hl⟩ := program.builds (Site.ofSource source)
  rw [hsource] at hb hl
  cases hl with
  | one hn hs hl =>
    refine ⟨_, by rw [hsource]; exact hb, shaped_of_lays (by simp [htype]) hfirst hfits ?_⟩
    exact .one hn hs hl

end TemplateTree
