import Mathlib.Data.List.Nodup
import Mathlib.Data.List.Perm.Basic
import TemplateTree.Proofs.Schema

/-!
# How records are laid out

Building a blueprint appends records to a graph, a node before what its fields
hold. Every record that was appended is held once, by the value that was built or
by another one of the records.
-/

namespace TemplateTree

-- ---------------------------------------------------------------------------
-- Layouts
-- ---------------------------------------------------------------------------

/-- A value, or the values of a list or of fields, with what may stand there. -/
inductive Part where
  | value (slot : Slot) (value : Value)
  | items (classes : List String) (items : List Value)
  | fields (slots : List (String × Slot)) (fields : Fields)

def Part.refs : Part → List RecordId
  | .value _ v => v.refs
  | .items _ vs => vs.filterMap Value.ref?
  | .fields _ fs => fs.flatMap (·.2.refs)

def Part.Fits (graph : Graph) : Part → Prop
  | .value slot v => slot.Fits graph v
  | .items classes vs => ∀ item ∈ vs, ∃ id, item = .ref id ∧ graph.IsA id classes
  | .fields slots fs => FieldsFit graph slots fs

def locationRecord (file : RecordId) (place : Location) : Record :=
  ⟨.location,
    [ ("file", .ref file), ("offset", .int place.offset), ("line", .int place.line)
    , ("col", .int place.column) ]⟩

def positionRecord (position : Position) : Record :=
  ⟨.position, [("line", .int position.line), ("column", .int position.column)]⟩

/-- `Lays file start part records`: the records that were appended for a part of
the graph, beginning with number `start`. -/
inductive Lays (file : Nat) : Nat → Part → List Record → Prop
  | plain {start : Nat} {value : Value} : value.isPlain = true →
      Lays file start (.value .plain value) []
  | plains {start : Nat} {value : Value} {items : List Value} : value.items? = some items →
      (∀ item ∈ items, item.isPlain = true) → Lays file start (.value .plains value) []
  | constant {start : Nat} {text : String} :
      Lays file start (.value (.constant text) (.str text)) []
  | enum {start : Nat} {type member : String} {number : Int} :
      Lays file start (.value (.enum type) (.enum type member number)) []
  | nowhere {start : Nat} : Lays file start (.value .place .null) []
  | offsetSpan {start : Nat} {first last : Int} :
      Lays file start (.value .place (.ref start))
        [⟨.offsetSpan, [("start", .int first), ("end", .int last)]⟩]
  | span {start : Nat} {span : Span} :
      Lays file start (.value .place (.ref (start + 2)))
        [ locationRecord file span.start, locationRecord file span.stop
        , ⟨.span, [("start", .ref start), ("end", .ref (start + 1))]⟩ ]
  | loc {start : Nat} {loc : Loc} :
      Lays file start (.value .place (.ref (start + 2)))
        [ positionRecord loc.start, positionRecord loc.stop
        , ⟨.loc, [("start", .ref start), ("end", .ref (start + 1))]⟩ ]
  -- A node comes before everything that its fields hold.
  | one {start : Nat} {name : String} {classes : List String} {slots : List (String × Slot)}
      {fields : Fields} {records : List Record} : name ∈ classes →
      schema.lookup (.node name) = some slots →
      Lays file (start + 1) (.fields slots fields) records →
      Lays file start (.value (.one classes) (.ref start)) (⟨.node name, fields⟩ :: records)
  | many {start : Nat} {classes : List String} {items : List Value} {records : List Record} :
      Lays file start (.items classes items) records →
      Lays file start (.value (.many classes) (.list items)) records
  | noItem {start : Nat} {classes : List String} : Lays file start (.items classes []) []
  | item {start : Nat} {classes : List String} {value : Value} {items : List Value}
      {records more : List Record} : Lays file start (.value (.one classes) value) records →
      Lays file (start + records.length) (.items classes items) more →
      Lays file start (.items classes (value :: items)) (records ++ more)
  | noField {start : Nat} : Lays file start (.fields [] []) []
  | field {start : Nat} {key : String} {slot : Slot} {value : Value}
      {slots : List (String × Slot)} {fields : Fields} {records more : List Record} :
      Lays file start (.value slot value) records →
      Lays file (start + records.length) (.fields slots fields) more →
      Lays file start (.fields ((key, slot) :: slots) ((key, value) :: fields)) (records ++ more)

-- ---------------------------------------------------------------------------
-- Every record is held once
-- ---------------------------------------------------------------------------

def Record.refs (record : Record) : List RecordId := record.fields.flatMap (·.2.refs)

/-- What a record holds besides the source file, which all locations share. -/
def Record.owned (file : RecordId) (record : Record) : List RecordId :=
  record.refs.filter (· ≠ file)

section
variable {file start : Nat} {part : Part} {records : List Record}

theorem perm_append_append {α : Type} {a b c d x y : List α} (h : (a ++ c).Perm x)
    (h' : (b ++ d).Perm y) : (a ++ b ++ (c ++ d)).Perm (x ++ y) := by
  have hswap : (a ++ b ++ (c ++ d)).Perm (a ++ c ++ (b ++ d)) := by
    simp only [List.append_assoc]
    refine .append_left a ?_
    rw [← List.append_assoc, ← List.append_assoc]
    exact .append_right d List.perm_append_comm
  exact hswap.trans (h.append h')

theorem perm_last (start : Nat) : [start + 2, start, start + 1].Perm (List.range' start 3) :=
  @List.perm_append_comm _ [start + 2] [start, start + 1]

theorem owned_pair (hfile : file < start) {type : RecordClass} :
    Record.owned file ⟨type, [("start", .ref start), ("end", .ref (start + 1))]⟩ =
      [start, start + 1] := by
  have hne : start ≠ file ∧ start + 1 ≠ file :=
    ⟨Nat.ne_of_gt hfile, Nat.ne_of_gt (Nat.lt_succ_of_lt hfile)⟩
  simp [Record.owned, Record.refs, Value.refs, Value.items?, Value.ref?, hne]

theorem Lays.perm_refs (h : Lays file start part records) (hfile : file < start) :
    (part.refs ++ records.flatMap (Record.owned file)).Perm
      (List.range' start records.length) := by
  induction h with
  | plain hv => simp [Part.refs, Value.refs_of_isPlain hv]
  | @plains start value items hi hv =>
    have hnone : items.filterMap Value.ref? = [] := by
      rw [List.filterMap_eq_nil_iff]
      intro item hm
      have := hv item hm
      cases item <;> first | rfl | cases this
    simp [Part.refs, Value.refs, hi, hnone]
  | constant | enum | nowhere | noItem | noField => exact .nil
  | offsetSpan => exact .refl _
  | @span start span =>
    have hlocation (place : Location) : Record.owned file (locationRecord file place) = [] := by
      simp [Record.owned, Record.refs, locationRecord, Value.refs, Value.items?, Value.ref?]
    simp only [List.flatMap_cons, hlocation, owned_pair hfile]
    exact perm_last start
  | @loc start loc =>
    simp only [List.flatMap_cons, owned_pair hfile]
    exact perm_last start
  | @one start name classes slots fields records _ _ _ ih =>
    have hbelow := ih (Nat.lt_succ_of_lt hfile)
    have howned : Record.owned file ⟨.node name, fields⟩ = (Part.fields slots fields).refs := by
      refine List.filter_eq_self.mpr fun id hid => ?_
      have hm := hbelow.subset (List.mem_append_left _ hid)
      have hlt := Nat.lt_trans hfile (List.mem_range'_1.mp hm).1
      exact decide_eq_true (Nat.ne_of_gt hlt)
    rw [List.flatMap_cons, howned, List.length_cons, List.range'_succ]
    exact .cons start hbelow
  | many _ ih => exact ih hfile
  | @item start classes value items records more hvalue _ ih ihm =>
    rw [List.flatMap_append, List.length_append, ← List.range'_append_1]
    cases hvalue
    exact perm_append_append (ih hfile) (ihm (Nat.lt_add_right _ hfile))
  | @field start key slot value slots fields records more _ _ ih ihm =>
    rw [List.flatMap_append, List.length_append, ← List.range'_append_1]
    exact perm_append_append (ih hfile) (ihm (Nat.lt_add_right _ hfile))

/-- Nodes hold records with greater numbers only. -/
theorem Lays.lt_of_mem_refs (h : Lays file start part records) (hfile : file < start) {i : Nat}
    {record : Record} {name : String} {id : Nat} (hr : records[i]? = some record)
    (ht : record.type = .node name) (hid : id ∈ record.refs) : start + i < id := by
  induction h generalizing i with
  | plain | plains | constant | enum | nowhere | noItem | noField => cases hr
  | offsetSpan | span | loc =>
    have hm := List.mem_of_getElem? hr
    simp only [List.mem_cons, List.not_mem_nil, or_false] at hm
    rcases hm with rfl | rfl | rfl <;> cases ht
  | @one start other classes slots fields records _ _ hbelow ih =>
    cases i with
    | zero =>
      cases hr
      have hm := (hbelow.perm_refs (Nat.lt_succ_of_lt hfile)).subset (List.mem_append_left _ hid)
      exact (List.mem_range'_1.mp hm).1
    | succ i =>
      have := ih (Nat.lt_succ_of_lt hfile) hr
      omega
  | many _ ih => exact ih hfile hr
  | @item start _ _ _ records more _ _ ih ihm | @field start _ _ _ _ _ records more _ _ ih ihm =>
    rw [List.getElem?_append] at hr
    split at hr
    · exact ih hfile hr
    · have := ihm (Nat.lt_add_right _ hfile) hr
      omega

end

-- ---------------------------------------------------------------------------
-- Laid out records fit
-- ---------------------------------------------------------------------------

def Graph.HasAt (graph : Graph) (start : Nat) (records : List Record) : Prop :=
  ∀ i record, records[i]? = some record → graph.records[start + i]? = some record

section
variable {graph : Graph} {file start : Nat} {part : Part} {record : Record}
variable {records more : List Record}

theorem Graph.HasAt.head (h : graph.HasAt start (record :: records)) :
    graph.records[start]? = some record := h 0 record rfl

theorem Graph.HasAt.tail (h : graph.HasAt start (record :: records)) :
    graph.HasAt (start + 1) records := by
  intro i other hi
  rw [Nat.add_right_comm]
  exact h (i + 1) other hi

theorem Graph.HasAt.left (h : graph.HasAt start (records ++ more)) :
    graph.HasAt start records := by
  intro i record hi
  refine h i record ?_
  rw [List.getElem?_append_left (List.getElem?_eq_some_iff.mp hi).1]
  exact hi

theorem Graph.HasAt.right (h : graph.HasAt start (records ++ more)) :
    graph.HasAt (start + records.length) more := by
  intro i record hi
  rw [Nat.add_assoc]
  refine h _ record ?_
  rw [List.getElem?_append_right (Nat.le_add_right _ _), Nat.add_sub_cancel_left]
  exact hi

theorem fits_location (hfile : graph.IsPlace file) (place : Location) :
    (locationRecord file place).Fits graph :=
  ⟨_, rfl, .cons ⟨rfl, .inr ⟨file, rfl, hfile⟩⟩
    (.cons ⟨rfl, rfl⟩ (.cons ⟨rfl, rfl⟩ (.cons ⟨rfl, rfl⟩ .nil)))⟩

theorem fits_position (position : Position) : (positionRecord position).Fits graph :=
  ⟨_, rfl, .cons ⟨rfl, rfl⟩ (.cons ⟨rfl, rfl⟩ .nil)⟩

theorem fieldsFit_pair (hs : graph.IsPlace start) (he : graph.IsPlace (start + 1)) :
    FieldsFit graph [("start", .place), ("end", .place)]
      [("start", .ref start), ("end", .ref (start + 1))] :=
  .cons ⟨rfl, .inr ⟨_, rfl, hs⟩⟩ (.cons ⟨rfl, .inr ⟨_, rfl, he⟩⟩ .nil)

theorem Lays.fits (h : Lays file start part records) (hfile : graph.IsPlace file)
    (hg : graph.HasAt start records) :
    part.Fits graph ∧ ∀ record ∈ records, record.Fits graph := by
  induction h with
  | plain hv => exact ⟨hv, by simp⟩
  | plains hi hv => exact ⟨⟨_, hi, hv⟩, by simp⟩
  | constant => exact ⟨rfl, by simp⟩
  | enum => exact ⟨⟨_, _, rfl⟩, by simp⟩
  | nowhere => exact ⟨.inl rfl, by simp⟩
  | offsetSpan =>
    refine ⟨.inr ⟨_, rfl, _, hg.head, by simp⟩, ?_⟩
    simp only [List.mem_singleton, forall_eq]
    exact ⟨_, rfl, .cons ⟨rfl, rfl⟩ (.cons ⟨rfl, rfl⟩ .nil)⟩
  | @span start span =>
    refine ⟨.inr ⟨_, rfl, _, hg.tail.tail.head, by simp⟩, ?_⟩
    simp only [List.mem_cons, List.not_mem_nil, or_false, forall_eq_or_imp, forall_eq]
    exact ⟨fits_location hfile _, fits_location hfile _, _, rfl,
      fieldsFit_pair ⟨_, hg.head, by simp [locationRecord]⟩
        ⟨_, hg.tail.head, by simp [locationRecord]⟩⟩
  | @loc start loc =>
    refine ⟨.inr ⟨_, rfl, _, hg.tail.tail.head, by simp⟩, ?_⟩
    simp only [List.mem_cons, List.not_mem_nil, or_false, forall_eq_or_imp, forall_eq]
    exact ⟨fits_position _, fits_position _, _, rfl,
      fieldsFit_pair ⟨_, hg.head, by simp [positionRecord]⟩
        ⟨_, hg.tail.head, by simp [positionRecord]⟩⟩
  | one hn hs _ ih =>
    obtain ⟨hfields, hrecords⟩ := ih hg.tail
    exact ⟨⟨_, rfl, _, _, hg.head, rfl, hn⟩, List.forall_mem_cons.mpr ⟨⟨_, hs, hfields⟩, hrecords⟩⟩
  | many _ ih =>
    obtain ⟨hitems, hrecords⟩ := ih hg
    exact ⟨⟨_, rfl, hitems⟩, hrecords⟩
  | noItem => simp [Part.Fits]
  | noField => exact ⟨.nil, by simp⟩
  | item _ _ ih ihm =>
    obtain ⟨hv, hrecords⟩ := ih hg.left
    obtain ⟨hitems, hmore⟩ := ihm hg.right
    exact ⟨List.forall_mem_cons.mpr ⟨hv, hitems⟩, List.forall_mem_append.mpr ⟨hrecords, hmore⟩⟩
  | field _ _ ih ihm =>
    obtain ⟨hv, hrecords⟩ := ih hg.left
    obtain ⟨hfields, hmore⟩ := ihm hg.right
    exact ⟨.cons ⟨rfl, hv⟩ hfields, List.forall_mem_append.mpr ⟨hrecords, hmore⟩⟩

end

-- ---------------------------------------------------------------------------
-- Building lays records out
-- ---------------------------------------------------------------------------

def Site.extend (site : Site) (records : List Record) : Site :=
  { site with graph := ⟨site.graph.records ++ records.toArray⟩ }

@[simp] theorem Site.extend_nil (site : Site) : site.extend [] = site := by
  simp [Site.extend]

@[simp] theorem Site.extend_extend (site : Site) (records more : List Record) :
    (site.extend records).extend more = site.extend (records ++ more) := by
  simp [Site.extend]

@[simp] theorem Site.file_extend (site : Site) (records : List Record) :
    (site.extend records).file = site.file := rfl

@[simp] theorem Site.size_extend (site : Site) (records : List Record) :
    (site.extend records).graph.size = site.graph.size + records.length := by
  simp [Site.extend, Graph.size]

theorem Site.add_eq (site : Site) (type : RecordClass) (fields : Fields) :
    site.add type fields = (.ref site.graph.size, site.extend [⟨type, fields⟩]) := by
  simp [Site.add, Graph.alloc, Site.extend]

theorem Site.setField_extend (site : Site) (record : Record) (records : List Record)
    (name : String) (value : Value) :
    { site.extend (record :: records) with
      graph := (site.extend (record :: records)).graph.setField site.graph.size name value } =
      site.extend (record.set name value :: records) := by
  have hrecords : (site.graph.records ++ (record :: records).toArray).modify site.graph.size
      (·.set name value) = site.graph.records ++ (record.set name value :: records).toArray := by
    refine Array.ext_getElem? fun i => ?_
    rw [Array.getElem?_modify]
    split
    · rename_i hi
      rw [← hi, Graph.size, Array.getElem?_append_right (Nat.le_refl _),
        Array.getElem?_append_right (Nat.le_refl _)]
      simp
    · rename_i hi
      rw [Array.getElem?_append, Array.getElem?_append]
      split
      · rfl
      · obtain ⟨j, hj⟩ : ∃ j, i - site.graph.records.size = j + 1 :=
          ⟨i - site.graph.records.size - 1, by unfold Graph.size at hi; omega⟩
        simp [hj]
  simp only [Site.extend, Graph.setField, hrecords]

/-- `Builds slot blueprint`: wherever the blueprint is built, its value fits the
slot, and records are laid out for it at the end of the graph. -/
def Builds (slot : Slot) (blueprint : Blueprint) : Prop :=
  ∀ site : Site, ∃ value records, site.build blueprint = (value, site.extend records) ∧
    Lays site.file site.graph.size (.value slot value) records

def BuildsFields : List (String × Slot) → List (String × Blueprint) → Prop :=
  List.Forall₂ fun slot field => slot.1 = field.1 ∧ Builds slot.2 field.2

theorem BuildsFields.nil : BuildsFields [] [] := List.Forall₂.nil

theorem BuildsFields.cons {slots : List (String × Slot)} {fields : List (String × Blueprint)}
    {key : String} {slot : Slot} {blueprint : Blueprint} (h : Builds slot blueprint)
    (hs : BuildsFields slots fields) :
    BuildsFields ((key, slot) :: slots) ((key, blueprint) :: fields) :=
  List.Forall₂.cons ⟨rfl, h⟩ hs

section
variable {classes : List String} {items : List Blueprint} {slots : List (String × Slot)}
variable {fields : List (String × Blueprint)}

theorem buildList_lays (h : ∀ item ∈ items, Builds (.one classes) item) (site : Site) :
    ∃ values records, site.buildList items = (values, site.extend records) ∧
      Lays site.file site.graph.size (.items classes values) records := by
  induction items generalizing site with
  | nil => exact ⟨[], [], by simp [Site.buildList], .noItem⟩
  | cons item rest ih =>
    obtain ⟨hitem, hrest⟩ := List.forall_mem_cons.mp h
    obtain ⟨value, records, hb, hl⟩ := hitem site
    obtain ⟨values, more, hbs, hls⟩ := ih hrest (site.extend records)
    rw [Site.size_extend, Site.file_extend] at hls
    refine ⟨value :: values, records ++ more, ?_, .item hl hls⟩
    simp [Site.buildList, hb, hbs]

theorem builds_list (h : ∀ item ∈ items, Builds (.one classes) item) :
    Builds (.many classes) (.list items) := by
  intro site
  obtain ⟨values, records, hb, hl⟩ := buildList_lays h site
  exact ⟨.list values, records, by simp [Site.build, hb], .many hl⟩

theorem Fields.set_of_not_mem {fields : Fields} {name : String} (h : name ∉ fields.map Prod.fst)
    (value : Value) : fields.set name value = fields ++ [(name, value)] := by
  induction fields with
  | nil => rfl
  | cons field rest ih =>
    rw [List.map_cons, List.mem_cons, not_or] at h
    rw [Fields.set, if_neg (Ne.symm h.1), ih h.2]
    rfl

theorem Site.buildField_extend {site : Site} {type : RecordClass} {done : Fields}
    {records more : List Record} {name : String} {blueprint : Blueprint} {value : Value}
    (hb : (site.extend (⟨type, done⟩ :: records)).build blueprint =
      (value, (site.extend (⟨type, done⟩ :: records)).extend more))
    (hnew : name ∉ done.map Prod.fst) :
    (site.extend (⟨type, done⟩ :: records)).buildField site.graph.size (name, blueprint) =
      site.extend (⟨type, done ++ [(name, value)]⟩ :: (records ++ more)) := by
  have hset : Record.set ⟨type, done⟩ name value = ⟨type, done ++ [(name, value)]⟩ := by
    rw [Record.set, Fields.set_of_not_mem hnew]
  rw [Site.buildField, hb, Site.extend_extend, List.cons_append]
  simp only [Site.setField_extend, hset]

def Graph.Shows (graph : Graph) (blueprint : Blueprint) (value : Value) : Prop :=
  ∃ site records, Site.build site blueprint = (value, site.extend records) ∧
    graph.HasAt site.graph.size records

theorem buildFields_lays (h : BuildsFields slots fields) (site : Site)
    (type : RecordClass) (done : Fields) (records : List Record)
    (hd : (done.map Prod.fst ++ slots.map Prod.fst).Nodup) :
    ∃ values more, (site.extend (⟨type, done⟩ :: records)).buildFields site.graph.size fields =
        site.extend (⟨type, done ++ values⟩ :: (records ++ more)) ∧
      Lays site.file (site.graph.size + 1 + records.length) (.fields slots values) more ∧
      ∀ graph : Graph, graph.HasAt (site.graph.size + 1 + records.length) more →
        List.Forall₂ (fun field value => field.1 = value.1 ∧ graph.Shows field.2 value.2)
          fields values := by
  induction h generalizing done records with
  | nil => exact ⟨[], [], by simp [Site.buildFields], .noField, fun _ _ => .nil⟩
  | @cons slot field slots fields hfirst _ ih =>
    obtain ⟨name, slot⟩ := slot
    obtain ⟨_, blueprint⟩ := field
    obtain ⟨rfl, hbuilds⟩ := hfirst
    obtain ⟨value, more, hb, hl⟩ := hbuilds (site.extend (⟨type, done⟩ :: records))
    have hnew : name ∉ done.map Prod.fst := fun hm =>
      (List.nodup_append.mp hd).2.2 _ hm _ (.head _) rfl
    obtain ⟨values, others, hbs, hls, hshows⟩ := ih (done ++ [(name, value)]) (records ++ more)
      (by simpa using hd)
    have hsize : (site.extend (⟨type, done⟩ :: records)).graph.size =
        site.graph.size + 1 + records.length := by
      rw [Site.size_extend, List.length_cons]
      omega
    rw [hsize, Site.file_extend] at hl
    rw [List.length_append, ← Nat.add_assoc] at hls hshows
    refine ⟨(name, value) :: values, more ++ others, ?_, .field hl hls, fun graph hg => ?_⟩
    · rw [Site.buildFields, Site.buildField_extend hb hnew, hbs]
      simp only [List.append_assoc, List.singleton_append]
    · refine .cons ⟨rfl, _, more, hb, ?_⟩ (hshows graph hg.right)
      rw [hsize]
      exact hg.left

theorem build_node {name : String} (hs : schema.lookup (.node name) = some slots)
    (hf : BuildsFields slots fields) (site : Site) :
    ∃ values records, site.build (.node name fields) =
        (.ref site.graph.size, site.extend (⟨.node name, values⟩ :: records)) ∧
      Lays site.file (site.graph.size + 1) (.fields slots values) records ∧
      ∀ graph : Graph, graph.HasAt (site.graph.size + 1) records →
        List.Forall₂ (fun field value => field.1 = value.1 ∧ graph.Shows field.2 value.2)
          fields values := by
  obtain ⟨values, records, hb, hl, hshows⟩ := buildFields_lays hf site (.node name) [] []
    (nodup_of_schema hs)
  refine ⟨values, records, ?_, hl, hshows⟩
  have hreserve : site.reserve none name = (site.graph.size, site.extend [⟨.node name, []⟩]) := by
    simp [Site.reserve, Graph.alloc, Site.extend]
  simpa [Blueprint.node, Site.build, hreserve] using hb

theorem builds_node {name : String} (hn : name ∈ classes)
    (hs : schema.lookup (.node name) = some slots)
    (hf : BuildsFields slots fields) : Builds (.one classes) (.node name fields) := by
  intro site
  obtain ⟨values, records, hb, hl, -⟩ := build_node hs hf site
  exact ⟨.ref site.graph.size, ⟨.node name, values⟩ :: records, hb, .one hn hs hl⟩

theorem builds_here {slot : Slot} {blueprint : Blueprint} {value : Value}
    (hb : ∀ site : Site, site.build blueprint = (value, site))
    (hl : ∀ file start, Lays file start (.value slot value) []) : Builds slot blueprint :=
  fun site => ⟨value, [], by rw [hb, Site.extend_nil], hl _ _⟩

theorem builds_str (s : String) : Builds .plain (.str s) :=
  builds_here (fun _ => rfl) fun _ _ => .plain rfl

theorem builds_int (n : Int) : Builds .plain (.int n) :=
  builds_here (fun _ => rfl) fun _ _ => .plain rfl

theorem builds_constant (text : String) : Builds (.constant text) (.str text) :=
  builds_here (fun _ => rfl) fun _ _ => .constant

theorem builds_enum (type member : String) (number : Int) :
    Builds (.enum type) (.enum type member number) :=
  builds_here (fun _ => rfl) fun _ _ => .enum

theorem buildList_plain (h : ∀ item ∈ items, Builds .plain item) (site : Site) :
    ∃ values, site.buildList items = (values, site) ∧ ∀ value ∈ values, value.isPlain = true := by
  induction items with
  | nil => exact ⟨[], rfl, by simp⟩
  | cons item rest ih =>
    obtain ⟨hitem, hrest⟩ := List.forall_mem_cons.mp h
    obtain ⟨value, _, hb, hl⟩ := hitem site
    cases hl with
    | plain hv =>
      obtain ⟨values, hbs, hvs⟩ := ih hrest
      refine ⟨value :: values, ?_, List.forall_mem_cons.mpr ⟨hv, hvs⟩⟩
      simp [Site.buildList, hb, hbs]

theorem builds_plainList (h : ∀ item ∈ items, Builds .plain item) :
    Builds .plains (.list items) := by
  intro site
  obtain ⟨values, hb, hv⟩ := buildList_plain h site
  exact ⟨.list values, [], by simp [Site.build, hb], .plains rfl hv⟩

theorem builds_plainTuple (h : ∀ item ∈ items, Builds .plain item) :
    Builds .plains (.tuple items) := by
  intro site
  obtain ⟨values, hb, hv⟩ := buildList_plain h site
  exact ⟨.tuple values, [], by simp [Site.build, hb], .plains rfl hv⟩

theorem Site.build_span (site : Site) (span : Span) :
    site.build (.span span) = (.ref (site.graph.size + 2), site.extend
      [ locationRecord site.file span.start, locationRecord site.file span.stop
      , ⟨.span, [("start", .ref site.graph.size), ("end", .ref (site.graph.size + 1))]⟩ ]) := by
  simp [Site.build, Site.addSpan, Site.addLocation, Site.add_eq, locationRecord]

theorem builds_span (span : Span) : Builds .place (.span span) :=
  fun site => ⟨_, _, site.build_span span, .span⟩

theorem builds_offsetSpan (start stop : Int) : Builds .place (.offsetSpan start stop) := by
  intro site
  refine ⟨_, _, ?_, @Lays.offsetSpan _ _ start stop⟩
  simp [Site.build, Site.add_eq]

theorem Site.build_loc (site : Site) (loc : Loc) :
    site.build (.loc loc) = (.ref (site.graph.size + 2), site.extend
      [ positionRecord loc.start, positionRecord loc.stop
      , ⟨.loc, [("start", .ref site.graph.size), ("end", .ref (site.graph.size + 1))]⟩ ]) := by
  simp [Site.build, Site.addLoc, Site.addPosition, Site.add_eq, positionRecord]

theorem builds_loc (loc : Loc) : Builds .place (.loc loc) :=
  fun site => ⟨_, _, site.build_loc loc, .loc⟩

end

end TemplateTree
