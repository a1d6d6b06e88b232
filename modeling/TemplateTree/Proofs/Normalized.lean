import TemplateTree.Proofs.Finishing
import TemplateTree.Proofs.Holding

/-!
# Parsed trees normalize

Normalization finds in every node of a parsed template what the schema promises:
a kind that gives way to the class name, and children in the listed fields only.
So it goes down through listed fields, never misses a child, and returns.
-/

namespace TemplateTree

-- ---------------------------------------------------------------------------
-- Fields of stamped records
-- ---------------------------------------------------------------------------

section
variable {graph : Graph} {record : Record} {name key : String} {child : RecordId}

theorem kindSlot?_cases (type : RecordClass) :
    kindSlot? type = none ∨ (∃ text, kindSlot? type = some (.constant text)) ∨
      ∃ values, kindSlot? type = some (.enum values) := by
  unfold kindSlot?
  split <;> simp

theorem kindSlot?_eq_enum {type : RecordClass} {values : String} :
    kindSlot? type = some (.enum values) ↔
      type = .node "BoundAttribute" ∧ values = "BindingKind" ∨
        type = .node "BoundEvent" ∧ values = "EventKind" := by
  unfold kindSlot?
  split <;> simp_all [eq_comm]

theorem constant_of_walked {text : String} (hn : name ∈ walkedClasses)
    (h : kindSlot? (.node name) = some (.constant text)) : text = name := by
  unfold kindSlot? at h
  split at h
  · cases h
  · cases h
  · rename_i htoken
    cases htoken
    exact absurd hn (by decide)
  · rename_i hprogram
    cases hprogram
    cases h
    rfl
  · cases h

theorem Record.Fits.kind_cases (h : record.Fits graph) :
    kindSlot? record.type = none ∧ record.fields.lookup "kind" = none ∨
    (∃ text, kindSlot? record.type = some (.constant text) ∧
      record.fields.lookup "kind" = some (.str text)) ∨
    ∃ values member number, kindSlot? record.type = some (.enum values) ∧
      record.fields.lookup "kind" = some (.enum values member number) := by
  obtain ⟨slots, hs, hf⟩ := h
  have hkind := lookup_kind_of_schema hs
  rcases hf.lookup "kind" with ⟨hnone, hv⟩ | ⟨slot, value, hsome, hv, hfits⟩
  · exact .inl ⟨hkind.symm.trans hnone, hv⟩
  · rw [hsome] at hkind
    rcases kindSlot?_cases record.type with hnone | ⟨text, htext⟩ | ⟨values, henum⟩
    · rw [hnone] at hkind
      cases hkind
    · rw [htext] at hkind
      cases hkind
      exact .inr (.inl ⟨text, htext, hv.trans (congrArg some hfits)⟩)
    · rw [henum] at hkind
      cases hkind
      obtain ⟨member, number, rfl⟩ := hfits
      exact .inr (.inr ⟨values, member, number, henum, hv⟩)

theorem Record.Fits.type_of_enum (h : record.Fits graph) {values member : String} {number : Int}
    (hk : record.fields.lookup "kind" = some (.enum values member number)) :
    record.type = .node "BoundAttribute" ∧ values = "BindingKind" ∨
      record.type = .node "BoundEvent" ∧ values = "EventKind" := by
  rcases h.kind_cases with ⟨-, hv⟩ | ⟨_, -, hv⟩ | ⟨_, _, _, hslot, hv⟩ <;> rw [hk] at hv <;>
    cases hv
  exact kindSlot?_eq_enum.mp hslot

theorem Record.Fits.exists_enum (h : record.Fits graph) {values : String}
    (hslot : kindSlot? record.type = some (.enum values)) :
    ∃ member number, record.fields.lookup "kind" = some (.enum values member number) := by
  rcases h.kind_cases with ⟨hv, -⟩ | ⟨_, hv, -⟩ | ⟨_, member, number, hv, hk⟩ <;>
    rw [hslot] at hv <;> cases hv
  exact ⟨member, number, hk⟩

theorem Record.Fits.kind_stamp (h : record.Fits graph) (ht : record.type = .node name)
    (hn : name ∈ walkedClasses) : record.stamp.kind = .str name := by
  by_cases hu : record.isUsable = true
  · rw [Record.stamp_of_usable hu]
    unfold Record.isUsable Record.kind at hu
    rcases h.kind_cases with ⟨-, hk⟩ | ⟨text, htext, hk⟩ | ⟨_, _, _, -, hk⟩
    · simp [hk, Value.str?] at hu
    · rw [ht] at htext
      rw [Record.kind, hk, constant_of_walked hn htext]
      rfl
    · simp [hk, Value.str?] at hu
  · rw [Record.stamp, if_neg hu, Record.kind, Record.set, Fields.lookup_set_self, ht]
    simp [RecordClass.name]

theorem Record.Fits.listedKeys?_stamp (h : record.Fits graph) (ht : record.type = .node name)
    (hn : name ∈ walkedClasses) :
    record.stamp.listedKeys? = Graph.childKeyTable.lookup name := by
  rw [Record.listedKeys?, h.kind_stamp ht hn]
  rfl

theorem Record.Fits.lookup_originalKind (h : record.Fits graph) :
    record.fields.lookup "original_kind" = none := by
  obtain ⟨slots, hs, hf⟩ := h
  rcases hf.lookup "original_kind" with ⟨-, hv⟩ | ⟨_, _, hsome, -, -⟩
  · exact hv
  · rw [lookup_originalKind_of_schema hs] at hsome
    cases hsome

theorem Record.Fits.isUsable_iff (h : record.Fits graph) :
    record.isUsable = true ↔ ∃ text, record.fields.lookup "kind" = some (.str text) := by
  unfold Record.isUsable Record.kind
  rcases h.kind_cases with ⟨-, hk⟩ | ⟨text, htext, hk⟩ | ⟨_, _, _, -, hk⟩
  · simp [hk, Value.str?]
  · have hne : text ≠ "" := by
      unfold kindSlot? at htext
      split at htext <;> cases htext <;> decide
    simp [hk, Value.str?, hne]
  · simp [hk, Value.str?]

theorem Record.Fits.lookup_originalKind_stamp (h : record.Fits graph) {value : Value} :
    record.stamp.fields.lookup "original_kind" = some value ↔
      record.fields.lookup "kind" = some value ∧
        ∃ values member number, value = .enum values member number := by
  have hkind : record.kind = (record.fields.lookup "kind").getD .null := rfl
  rcases h.kind_cases with ⟨-, hk⟩ | ⟨text, -, hk⟩ | ⟨values, member, number, -, hk⟩
  · have hu : record.isUsable = false := by simp [Record.isUsable, hkind, hk, Value.str?]
    simp [Record.stamp, hu, hkind, hk, Value.isNull, Record.set,
      Fields.lookup_set_of_ne (show "original_kind" ≠ "kind" by decide), h.lookup_originalKind]
  · rw [Record.stamp_of_usable (h.isUsable_iff.mpr ⟨text, hk⟩), h.lookup_originalKind, hk]
    constructor
    · rintro ⟨⟩
    · rintro ⟨⟨⟩, _, _, _, ⟨⟩⟩
  · have hu : record.isUsable = false := by simp [Record.isUsable, hkind, hk, Value.str?]
    simp only [Record.stamp, hu, hkind, hk, Value.isNull, Record.set, Option.getD_some,
      Bool.false_eq_true, ↓reduceIte, Fields.lookup_set_self,
      Fields.lookup_set_of_ne (show "original_kind" ≠ "kind" by decide)]
    constructor
    · rintro ⟨⟩
      exact ⟨rfl, values, member, number, rfl⟩
    · exact fun hv => hv.1

theorem Record.Fits.holds_stamp (h : record.Fits graph) :
    (∃ field, record.stamp.fields.lookup key = some field ∧ child ∈ field.refs) ↔
      ∃ field, record.fields.lookup key = some field ∧ child ∈ field.refs := by
  by_cases hk : key = "kind"
  · subst hk
    by_cases hu : record.isUsable = true
    · rw [Record.stamp_of_usable hu]
    · constructor
      · rintro ⟨field, hf, hc⟩
        rw [Record.stamp, if_neg hu, Record.set, Fields.lookup_set_self] at hf
        cases hf
        cases hc
      · rintro ⟨field, hf, hc⟩
        rcases h.kind_cases with ⟨-, hk⟩ | ⟨_, -, hk⟩ | ⟨_, _, _, -, hk⟩ <;> rw [hk] at hf <;>
          cases hf <;> cases hc
  · by_cases ho : key = "original_kind"
    · subst ho
      constructor
      · rintro ⟨field, hf, hc⟩
        obtain ⟨-, _, _, _, rfl⟩ := h.lookup_originalKind_stamp.mp hf
        cases hc
      · rintro ⟨field, hf, -⟩
        rw [h.lookup_originalKind] at hf
        cases hf
    · rw [Record.lookup_stamp_of_ne hk ho]

end

namespace Graph

variable {before graph : Graph} {root parent child i : RecordId} {record : Record}
variable {name key : String} {value : Value}

-- ---------------------------------------------------------------------------
-- Stamping a parsed tree
-- ---------------------------------------------------------------------------

theorem Shaped.wellFormed (h : before.Shaped root) : before.WellFormed where
  named record hm := by
    obtain ⟨_, hs, -⟩ := h.fits record hm
    exact name_ne_of_schema hs
  distinct record hm := by
    obtain ⟨_, hs, hf⟩ := h.fits record hm
    rw [hf.map_fst]
    exact nodup_of_schema hs

theorem Shaped.fits_of_get (h : before.Shaped root) (hr : before.records[i]? = some record) :
    record.Fits before := h.fits record (Array.mem_of_getElem? hr)

theorem Shaped.holds_congr (h : before.Shaped root) (he : Extends before graph) :
    graph.Holds parent key child ↔ before.Holds parent key child := by
  rw [holds_iff, holds_iff]
  cases hold : before.records[parent]? with
  | none =>
    have hnone : graph.records[parent]? = none := by
      rcases he parent with heq | heq <;> simp [heq, hold]
    simp [hnone]
  | some old =>
    rcases he.get hold with heq | heq
    · simp [heq]
    · simpa [heq] using (h.fits_of_get hold).holds_stamp

def Walkable (graph : Graph) (id : RecordId) : Prop := graph.IsA id walkedClasses

theorem Walkable.exists_stamped (hi : before.Walkable i) (he : Extends before graph)
    (hr : graph.records[i]? = some record) (hu : record.isUsable = true) :
    ∃ old name, before.records[i]? = some old ∧ old.type = .node name ∧ name ∈ walkedClasses ∧
      record = old.stamp := by
  obtain ⟨old, name, hold, ht, hn⟩ := hi
  have hrecord : record = old.stamp := by
    rcases he.get hold with heq | heq <;> rw [hr] at heq <;> cases heq
    · exact (Record.stamp_of_usable hu).symm
    · rfl
  exact ⟨old, name, hold, ht, hn, hrecord⟩

-- ---------------------------------------------------------------------------
-- What a parsed node leads to
-- ---------------------------------------------------------------------------

theorem Shaped.not_isNode_of_isPlace (h : before.Shaped root)
    (hs : StampedIn before before.Walkable graph) (hi : before.IsPlace i) :
    graph.isNode (.ref i) = false := by
  have hsame : graph.records[i]? = before.records[i]? :=
    not_not.mp fun hc => (hs.changed i hc).not_isPlace hi
  obtain ⟨record, hr, ht⟩ := hi
  rw [isNode_ref (hsame.trans hr), Record.kind]
  have hslot : kindSlot? record.type = none := by
    unfold kindSlot?
    split <;> simp_all
  rcases (h.fits_of_get hr).kind_cases with ⟨-, hk⟩ | ⟨_, hk, -⟩ | ⟨_, _, _, hk, -⟩
  · simp [hk, Value.str?]
  · rw [hslot] at hk
    cases hk
  · rw [hslot] at hk
    cases hk

theorem Shaped.not_looksLikeChild (h : before.Shaped root)
    (hs : StampedIn before before.Walkable graph) (hr : before.records[i]? = some record)
    (ht : record.type = .node name) (hn : name ∈ walkedClasses)
    (hl : childKeyTable.lookup name = none)
    (hf : record.stamp.fields.lookup key = some value) :
    graph.looksLikeChild key value = false := by
  have hfits := h.fits_of_get hr
  -- Neither a kind nor what is plain or stands for a place is a child.
  have hplain : value.items? = none ∧ graph.isNode value = false := by
    by_cases hk : key = "kind"
    · subst hk
      have hkind := hfits.kind_stamp ht hn
      rw [Record.kind, hf] at hkind
      cases hkind
      exact ⟨rfl, rfl⟩
    · by_cases ho : key = "original_kind"
      · subst ho
        obtain ⟨-, _, _, _, rfl⟩ := hfits.lookup_originalKind_stamp.mp hf
        exact ⟨rfl, rfl⟩
      · rw [Record.lookup_stamp_of_ne hk ho] at hf
        obtain ⟨slots, hslots, hfields⟩ := hfits
        rcases hfields.lookup key with ⟨-, hnone⟩ | ⟨slot, field, hslot, hsome, hfit⟩
        · rw [hnone] at hf
          cases hf
        · rw [hf] at hsome
          cases hsome
          rcases slot_of_not_listed hn hl (ht ▸ hslots) (mem_of_lookup hslot) with rfl | rfl
          · cases value <;> first | exact ⟨rfl, rfl⟩ | cases hfit
          · rcases hfit with rfl | ⟨id, rfl, hid⟩
            · exact ⟨rfl, rfl⟩
            · exact ⟨rfl, h.not_isNode_of_isPlace hs hid⟩
  simp [looksLikeChild, hplain]

theorem Shaped.exists_slot (h : before.Shaped root) (hr : before.records[i]? = some record)
    (ht : record.type = .node name) (hl : ListsField name key) :
    ∃ (slot : Slot) (field : Value), record.fields.lookup key = some field ∧
      slot.Fits before field ∧ slot.classes ≠ [] ∧ slot.classes ⊆ treeClasses := by
  obtain ⟨slots, hslots, hfields⟩ := h.fits_of_get hr
  obtain ⟨slot, hslot, hne, hc⟩ := classes_of_listsField hl (ht ▸ hslots)
  rcases hfields.lookup key with ⟨hnone, -⟩ | ⟨_, field, hslot', hf, hfit⟩
  · rw [hslot] at hnone
    cases hnone
  · rw [hslot] at hslot'
    cases hslot'
    exact ⟨slot, field, hf, hfit, hne, hc⟩

theorem Shaped.exists_listed (h : before.Shaped root) (hr : before.records[i]? = some record)
    (ht : record.type = .node name) (hl : ListsField name key) :
    ∃ field, record.stamp.fields.lookup key = some field ∧ field.isNull = false ∧
      ∀ part, part ∈ field.items?.getD [field] ↔
        ∃ child, part = .ref child ∧ before.Holds i key child := by
  obtain ⟨slot, field, hf, hfit, hne, -⟩ := h.exists_slot hr ht hl
  obtain ⟨hkind, horiginal⟩ := ne_kind_of_listsField hl
  have hheld : ∀ child, before.Holds i key child ↔ .ref child ∈ field.items?.getD [field] := by
    simp [holds_iff, hr, hf, Value.mem_refs]
  refine ⟨field, (Record.lookup_stamp_of_ne hkind horiginal).trans hf, hfit.not_null hne,
    fun part => ⟨fun hp => ?_, ?_⟩⟩
  · obtain ⟨child, rfl, -⟩ := hfit.exists_ref hne hp
    exact ⟨child, rfl, (hheld child).mpr hp⟩
  · rintro ⟨child, rfl, hh⟩
    exact (hheld child).mp hh

theorem Shaped.isA_of_listed (h : before.Shaped root) (hr : before.records[i]? = some record)
    (ht : record.type = .node name) (hl : ListsField name key) (hh : before.Holds i key child) :
    before.IsA child treeClasses := by
  obtain ⟨slot, field, hf, hfit, hne, hc⟩ := h.exists_slot hr ht hl
  have hm : .ref child ∈ field.items?.getD [field] := by
    simpa [holds_iff, hr, hf, Value.mem_refs] using hh
  obtain ⟨_, ⟨⟩, hchild⟩ := hfit.exists_ref hne hm
  exact hchild.mono hc

theorem Shaped.leads_iff (h : before.Shaped root) (hs : StampedIn before before.Walkable graph)
    (hr : before.records[i]? = some record) (ht : record.type = .node name)
    (hn : name ∈ walkedClasses) :
    Leads graph record.stamp value ↔
      ∃ key child, value = .ref child ∧ ListsField name key ∧ before.Holds i key child := by
  have hd : (record.stamp.fields.map Prod.fst).Nodup :=
    Record.nodup_stamp (h.wellFormed.distinct record (Array.mem_of_getElem? hr))
  unfold Leads
  rw [(h.fits_of_get hr).listedKeys?_stamp ht hn]
  constructor
  · rintro ⟨key, field, hm, -, hv, hk⟩
    have hf := (lookup_eq_some_iff hd).mpr hm
    cases hl : childKeyTable.lookup name with
    | none =>
      rw [hl] at hk
      rw [h.not_looksLikeChild hs hr ht hn hl hf] at hk
      cases hk
    | some keys =>
      rw [hl] at hk
      have hlists := listsField_iff.mpr ⟨keys, hl, hk⟩
      obtain ⟨_, hf', -, hparts⟩ := h.exists_listed hr ht hlists
      rw [hf] at hf'
      cases hf'
      obtain ⟨child, rfl, hh⟩ := (hparts value).mp hv
      exact ⟨key, child, rfl, hlists, hh⟩
  · rintro ⟨key, child, rfl, hlists, hh⟩
    obtain ⟨field, hf, hnull, hparts⟩ := h.exists_listed hr ht hlists
    obtain ⟨keys, hl, hk⟩ := listsField_iff.mp hlists
    refine ⟨key, field, mem_of_lookup hf, hnull, (hparts _).mpr ⟨child, rfl, hh⟩, ?_⟩
    rw [hl]
    exact hk

theorem IsA.walkable (h : before.IsA i treeClasses) : before.Walkable i :=
  h.mono (List.subset_cons_self _ _)

theorem className_of_get (h : graph.records[i]? = some record) (ht : record.type = .node name) :
    graph.className (.ref i) = name := by
  simp [className, h, ht, RecordClass.name]

theorem Shaped.listed_or_skipped_of_holds (h : before.Shaped root) (hc : before.Walkable child)
    (hh : before.Holds parent key child) :
    before.Walkable parent ∧ (ListsField (before.className (.ref parent)) key ∨
      SkipsField (before.className (.ref parent)) key) := by
  obtain ⟨record, hr, field, hf, hm⟩ := holds_iff.mp hh
  obtain ⟨slots, hslots, hfields⟩ := h.fits_of_get hr
  rcases hfields.lookup key with ⟨-, hnone⟩ | ⟨slot, _, hslot, hf', hfit⟩
  · rw [hf] at hnone
    cases hnone
  · rw [hf] at hf'
    cases hf'
    rcases hfit.isPlace_or_isA hm with hplace | ⟨_, name, hr', ht, hn⟩
    · exact absurd hplace hc.not_isPlace
    · obtain ⟨_, _, hr'', ht', hw⟩ := hc
      rw [hr'] at hr''
      cases hr''
      rw [ht] at ht'
      cases ht'
      obtain ⟨name, hname, hrecord, hfield⟩ :=
        listed_or_skipped hslots (mem_of_lookup hslot) hn hw
      rw [className_of_get hr hrecord]
      exact ⟨⟨record, name, hr, hrecord, hname⟩, hfield⟩

/-- A parsed tree is descended through listed fields, from a node to later ones. -/
theorem Shaped.descending (h : before.Shaped root) : Descending before before.Walkable where
  bounded i hi := by
    obtain ⟨_, _, hr, -⟩ := hi
    rw [lt_size_iff, hr]
    rfl
  complete hs hi hr hu := by
    obtain ⟨old, name, hold, ht, hn, rfl⟩ := hi.exists_stamped hs.grown hr hu
    intro keys hk key hm
    rw [(h.fits_of_get hold).listedKeys?_stamp ht hn] at hk
    obtain ⟨field, hf, hnull, -⟩ := h.exists_listed hold ht (listsField_iff.mpr ⟨keys, hk, hm⟩)
    rw [hf]
    exact hnull
  leads hs hi hr hu hl := by
    obtain ⟨old, name, hold, ht, hn, rfl⟩ := hi.exists_stamped hs.grown hr hu
    obtain ⟨key, child, rfl, hlists, hh⟩ := (h.leads_iff hs hold ht hn).mp hl
    exact ⟨child, rfl, (h.isA_of_listed hold ht hlists hh).walkable, h.later hh hi⟩

theorem Shaped.exists_root (h : before.Shaped root) :
    ∃ record, before.records[root]? = some record ∧ record.isUsable = true ∧
      before.Walkable root := by
  obtain ⟨record, name, hr, ht, hn⟩ := h.program
  obtain rfl := List.mem_singleton.mp hn
  have hfits := h.fits_of_get hr
  refine ⟨record, hr, hfits.isUsable_iff.mpr ?_, record, _, hr, ht, .head _⟩
  rcases hfits.kind_cases with ⟨hk, -⟩ | ⟨text, -, hv⟩ | ⟨_, _, _, hk, -⟩
  · rw [ht] at hk
    cases hk
  · exact ⟨text, hv⟩
  · rw [ht] at hk
    cases hk

theorem Shaped.exists_done (h : before.Shaped root) (policy : MissingChild) :
    ∃ after, (normalize policy false before (.ref root)).2 = .done after ∧
      StampedIn before before.Walkable after := by
  obtain ⟨record, hr, hu, hroot⟩ := h.exists_root
  exact normalize_finishes h.wellFormed h.descending hroot hr hu

end Graph

end TemplateTree
