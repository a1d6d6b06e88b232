import TemplateTree.Config.File
import TemplateTree.Proofs.Stamping

/-!
# What configurations are read from

A dictionary makes a configuration exactly if its keys are names of options and each
value is one that its option can have. From this follows which files are read
(`Config.ofFile_reads`), and which of the others end the program without a report.
-/

namespace TemplateTree

open Text (Chars)

namespace Config

-- ---------------------------------------------------------------------------
-- Dictionaries
-- ---------------------------------------------------------------------------

def IsValueOf (name : String) (value : Data) : Prop :=
  if name = policyKey then value = .str "error" ∨ value = .str "skip"
  else ∃ flag, value = .bool flag

def Fits (entries : List (Data × Data)) : Prop :=
  ∀ entry ∈ entries, ∃ name ∈ knownKeys, entry.1 = .str name ∧ IsValueOf name entry.2

def Distinct {α : Type} (entries : List (Data × α)) : Prop :=
  entries.Pairwise fun first second => first.1.sameKey second.1 = false

def textEntries (named : List (String × Data)) : List (Data × Data) :=
  named.map fun (name, value) => (.str name, value)

def isFlag : Data → Bool
  | .bool _ => true
  | _ => false

def firstBadFlag? (named : List (String × Data)) : Option (String × Data) :=
  named.find? fun (name, value) => name != policyKey && !isFlag value

/-- The value that is refused first: that of a policy, else that of a flag. -/
def firstRefused? (named : List (String × Data)) : Option Data :=
  match named.lookup policyKey with
  | some value => if (policy? value).isNone then some value else (firstBadFlag? named).map (·.2)
  | none => (firstBadFlag? named).map (·.2)

end Config

/-- A fault with a message of its own; the others end the program on the way to one. -/
def ConfigError.IsReported : ConfigError → Prop
  | .keyNotText | .oversized => False
  | _ => True

namespace Config

/-- What becomes of entries with known keys: a value that is refused is reported if it
can be shown. -/
def Refuses (refused : Option Data) (outcome : Except ConfigError Config) : Prop :=
  match refused with
  | some value => ∃ e, outcome = .error e ∧ (e.IsReported ↔ value.isShowable = true)
  | none => ∃ config, outcome = .ok config

def HasKnownKeys (entries : List (Data × Data)) : Prop :=
  ∀ entry ∈ entries, ∃ name ∈ knownKeys, entry.1 = .str name

/-- A key is no text, or all keys are known and the value refused first is too long to
be shown. -/
def Breaks (entries : List (Data × Data)) : Prop :=
  (∃ entry ∈ entries, entry.1.codes? = none) ∨
    ∃ named, entries = textEntries named ∧ (∀ entry ∈ named, entry.1 ∈ knownKeys) ∧
      ∃ value, firstRefused? named = some value ∧ value.isShowable = false

-- ---------------------------------------------------------------------------
-- Keys
-- ---------------------------------------------------------------------------

theorem mapM_eq_none {α β : Type} {f : α → Option β} {xs : List α} :
    xs.mapM f = none ↔ ∃ x ∈ xs, f x = none := by
  induction xs with
  | nil => simp
  | cons x rest ih =>
    cases hx : f x with
    | none => simp [hx]
    | some y => cases hr : rest.mapM f <;> simp_all

theorem mapM_eq_some {α β : Type} {f : α → Option β} {xs : List α} {ys : List β} :
    xs.mapM f = some ys ↔ xs.map f = ys.map some := by
  induction xs generalizing ys with
  | nil => cases ys <;> simp
  | cons x rest ih =>
    rw [List.mapM_cons, List.map_cons]
    cases hx : f x with
    | none => cases ys <;> simp
    | some y =>
      cases hr : rest.mapM f with
      | none =>
        have hne (ys : List β) : rest.map f ≠ ys.map some := fun h => by simp [ih.mpr h] at hr
        cases ys <;> simp [hne]
      | some more =>
        have hmore := ih.mp hr
        cases ys <;> simp [hmore, List.map_inj_right]

theorem sameKey_str (name other : String) :
    (Data.str name).sameKey (.str other) = (name == other) := rfl

theorem isKnown_iff {key : Data} : isKnown key = true ↔ ∃ name ∈ knownKeys, key = .str name := by
  cases key <;> simp [isKnown]

theorem isKnown_of_codes?_eq_none {key : Data} (h : key.codes? = none) : isKnown key = false := by
  cases key <;> first | rfl | cases h

theorem mem_unknownKeys {entries : List (Data × Data)} {key : Data} :
    key ∈ unknownKeys entries ↔ (∃ entry ∈ entries, entry.1 = key) ∧ isKnown key = false := by
  simp [unknownKeys]

theorem unknownKeys_eq_nil {entries : List (Data × Data)} :
    unknownKeys entries = [] ↔ HasKnownKeys entries := by
  simp only [unknownKeys, List.filter_eq_nil_iff, List.forall_mem_map, HasKnownKeys, ← isKnown_iff]
  simp

theorem badKeys_isReported (unknown : List Data) :
    (badKeys unknown).IsReported ↔ ∀ key ∈ unknown, key.codes? ≠ none := by
  unfold badKeys
  cases hkeys : unknown.mapM Data.codes? with
  | none =>
    obtain ⟨key, hm, hnone⟩ := mapM_eq_none.mp hkeys
    exact iff_of_false not_false fun h => h key hm hnone
  | some keys =>
    refine iff_of_true trivial fun key hm hnone => ?_
    cases hkeys.symm.trans (mapM_eq_none.mpr ⟨key, hm, hnone⟩)

theorem hasKnownKeys_textEntries {named : List (String × Data)} :
    HasKnownKeys (textEntries named) ↔ ∀ entry ∈ named, entry.1 ∈ knownKeys := by
  simp only [HasKnownKeys, textEntries, List.forall_mem_map, Data.str.injEq]
  exact forall₂_congr fun entry _ => by simp

theorem HasKnownKeys.exists_textEntries {entries : List (Data × Data)} (h : HasKnownKeys entries) :
    ∃ named, entries = textEntries named := by
  induction entries with
  | nil => exact ⟨[], rfl⟩
  | cons entry rest ih =>
    obtain ⟨⟨name, -, hname⟩, hrest⟩ := List.forall_mem_cons.mp h
    obtain ⟨named, rfl⟩ := ih hrest
    exact ⟨(name, entry.2) :: named, by simp [textEntries, ← hname]⟩

-- ---------------------------------------------------------------------------
-- Values
-- ---------------------------------------------------------------------------

theorem Refuses.exists_eq_ok {refused : Option Data} {outcome : Except ConfigError Config}
    (h : Refuses refused outcome) : (∃ config, outcome = .ok config) ↔ refused = none := by
  cases refused with
  | none => exact iff_of_true h rfl
  | some value =>
    obtain ⟨e, rfl, -⟩ := h
    simp

theorem Refuses.exists_unreported {refused : Option Data} {outcome : Except ConfigError Config}
    (h : Refuses refused outcome) : (∃ e, outcome = .error e ∧ ¬ e.IsReported) ↔
      ∃ value, refused = some value ∧ value.isShowable = false := by
  cases refused with
  | none =>
    obtain ⟨config, rfl⟩ := h
    simp
  | some value =>
    obtain ⟨e, rfl, hshown⟩ := h
    simp [hshown]

theorem policy?_isSome {value : Data} :
    (policy? value).isSome = true ↔ IsValueOf policyKey value := by
  unfold policy? IsValueOf
  split <;> simp_all

theorem isFlag_iff {name : String} (hn : name ≠ policyKey) {value : Data} :
    isFlag value = true ↔ IsValueOf name value := by
  cases value <;> simp [IsValueOf, hn, isFlag]

theorem find?_textEntries (named : List (String × Data)) (key : String) :
    (textEntries named).find? (fun entry => entry.1.sameKey (.str key)) =
      (named.lookup key).map fun value => (.str key, value) := by
  induction named with
  | nil => rfl
  | cons entry rest ih =>
    obtain ⟨name, value⟩ := entry
    by_cases hn : name = key
    · subst hn
      simp [textEntries, sameKey_str]
    · have hn' : (key == name) = false := beq_eq_false_iff_ne.mpr (Ne.symm hn)
      rw [List.lookup_cons, hn', textEntries, List.map_cons,
        List.find?_cons_of_neg (by simpa [sameKey_str] using hn)]
      exact ih

theorem readPolicy_textEntries (named : List (String × Data)) :
    readPolicy (textEntries named) =
      match named.lookup policyKey with
      | none => .ok .error
      | some value =>
        match policy? value with
        | some policy => .ok policy
        | none => .error (badPolicy value) := by
  unfold readPolicy
  rw [find?_textEntries]
  cases named.lookup policyKey <;> rfl

theorem badPolicy_isReported (value : Data) :
    (badPolicy value).IsReported ↔ value.isShowable = true := by
  unfold badPolicy
  cases value.isShowable <;> simp [ConfigError.IsReported]

theorem badFlag_isReported (name : String) (value : Data) :
    (badFlag name value).IsReported ↔ value.isShowable = true := by
  unfold badFlag
  cases value.isShowable <;> simp [ConfigError.IsReported]

def takeFlag (config : Config) (entry : String × Data) : Config :=
  match entry.2 with
  | .bool flag => config.setFlag entry.1 flag
  | _ => config

theorem takeFlag_policyKey (config : Config) (value : Data) :
    config.takeFlag (policyKey, value) = config := by
  cases value <;> rfl

theorem readFlags_textEntries (named : List (String × Data)) (config : Config) :
    readFlags config (textEntries named) =
      match firstBadFlag? named with
      | some (key, value) => .error (badFlag key value)
      | none => .ok (named.foldl takeFlag config) := by
  induction named generalizing config with
  | nil => rfl
  | cons entry rest ih =>
    obtain ⟨name, value⟩ := entry
    by_cases hn : name = policyKey
    · have hskip : firstBadFlag? ((name, value) :: rest) = firstBadFlag? rest :=
        List.find?_cons_of_neg (by simp [hn])
      have hread : readFlags config (textEntries ((name, value) :: rest)) =
          readFlags config (textEntries rest) := if_pos hn
      rw [hskip, hread, List.foldl_cons, hn, takeFlag_policyKey]
      exact ih config
    · cases hv : isFlag value with
      | true =>
        obtain ⟨flag, rfl⟩ : ∃ flag, value = .bool flag := by
          cases value <;> simp_all [isFlag]
        have hskip : firstBadFlag? ((name, .bool flag) :: rest) = firstBadFlag? rest :=
          List.find?_cons_of_neg (by simp [isFlag])
        have hread : readFlags config (textEntries ((name, .bool flag) :: rest)) =
            readFlags (config.setFlag name flag) (textEntries rest) := if_neg hn
        rw [hskip, hread]
        exact ih _
      | false =>
        have hbad : firstBadFlag? ((name, value) :: rest) = some (name, value) :=
          List.find?_cons_of_pos (by simp [hn, hv])
        rw [hbad]
        cases value with
        | bool flag => cases hv
        | _ => exact if_neg hn

theorem readFlags_refuses (named : List (String × Data)) (config : Config) :
    Refuses ((firstBadFlag? named).map (·.2)) (readFlags config (textEntries named)) := by
  rw [readFlags_textEntries]
  cases firstBadFlag? named with
  | none => exact ⟨_, rfl⟩
  | some bad => exact ⟨_, rfl, badFlag_isReported bad.1 bad.2⟩

-- ---------------------------------------------------------------------------
-- Dictionaries with known keys
-- ---------------------------------------------------------------------------

section
variable {entries : List (Data × Data)} {named : List (String × Data)}

theorem ofEntries_of_unknown (h : ¬ HasKnownKeys entries) :
    ofEntries entries = .error (badKeys (unknownKeys entries)) := by
  rw [← unknownKeys_eq_nil] at h
  obtain ⟨key, rest, hunknown⟩ := List.exists_cons_of_ne_nil h
  rw [ofEntries, hunknown]

theorem ofEntries_of_known (h : HasKnownKeys entries) :
    ofEntries entries =
      (readPolicy entries).bind fun missingChild => readFlags { missingChild } entries := by
  rw [ofEntries, unknownKeys_eq_nil.mpr h]
  rfl

/-- With known keys, the outcome depends on the value that is refused first. -/
theorem ofEntries_refuses (h : HasKnownKeys (textEntries named)) :
    Refuses (firstRefused? named) (ofEntries (textEntries named)) := by
  rw [ofEntries_of_known h, readPolicy_textEntries, firstRefused?]
  cases named.lookup policyKey with
  | none => exact readFlags_refuses named {}
  | some value =>
    cases hp : policy? value with
    | some policy =>
      simp only [hp]
      exact readFlags_refuses named { missingChild := policy }
    | none =>
      simp only [hp]
      exact ⟨_, rfl, badPolicy_isReported value⟩

theorem nodup_of_distinct (hd : Distinct (textEntries named)) : (named.map (·.1)).Nodup := by
  unfold Distinct textEntries at hd
  rw [List.pairwise_map] at hd
  rw [List.Nodup, List.pairwise_map]
  exact hd.imp fun h => by simpa [sameKey_str] using h

theorem firstBadFlag?_eq_none :
    firstBadFlag? named = none ↔
      ∀ entry ∈ named, entry.1 ≠ policyKey → IsValueOf entry.1 entry.2 := by
  unfold firstBadFlag?
  rw [List.find?_eq_none]
  refine forall₂_congr fun entry _ => ?_
  by_cases hn : entry.1 = policyKey
  · simp [hn]
  · simp [hn, isFlag_iff hn]

/-- Of a key there is one value, so all values are looked at. -/
theorem firstRefused?_eq_none (hd : Distinct (textEntries named)) :
    firstRefused? named = none ↔ ∀ entry ∈ named, IsValueOf entry.1 entry.2 := by
  have hpolicy : firstRefused? named = none ↔
      (∀ value, named.lookup policyKey = some value → IsValueOf policyKey value) ∧
        firstBadFlag? named = none := by
    unfold firstRefused?
    cases named.lookup policyKey with
    | none => simp
    | some value => cases hp : policy? value <;> simp [← policy?_isSome, hp]
  rw [hpolicy, firstBadFlag?_eq_none]
  constructor
  · rintro ⟨hvalue, hflags⟩ entry he
    by_cases hn : entry.1 = policyKey
    · exact hn ▸ hvalue _ ((lookup_eq_some_iff (nodup_of_distinct hd)).mpr (hn ▸ he))
    · exact hflags entry he hn
  · intro h
    refine ⟨fun value hl => ?_, fun entry he _ => h entry he⟩
    exact h (policyKey, value) (mem_of_lookup hl)

end

section
variable {entries : List (Data × Data)}

theorem Fits.hasKnownKeys (h : Fits entries) : HasKnownKeys entries := fun entry he =>
  (h entry he).imp fun _ ⟨hk, hname, _⟩ => ⟨hk, hname⟩

theorem fits_textEntries {named : List (String × Data)} :
    Fits (textEntries named) ↔
      (∀ entry ∈ named, entry.1 ∈ knownKeys) ∧ ∀ entry ∈ named, IsValueOf entry.1 entry.2 := by
  simp only [Fits, textEntries, List.forall_mem_map, Data.str.injEq, ← forall_and]
  exact forall₂_congr fun entry _ =>
    ⟨fun ⟨_, hk, hn, hv⟩ => hn ▸ ⟨hk, hv⟩, fun ⟨hk, hv⟩ => ⟨_, hk, rfl, hv⟩⟩

theorem exists_ofEntries_eq_ok (hd : Distinct entries) :
    (∃ config, ofEntries entries = .ok config) ↔ Fits entries := by
  by_cases hknown : HasKnownKeys entries
  · obtain ⟨named, rfl⟩ := hknown.exists_textEntries
    rw [(ofEntries_refuses hknown).exists_eq_ok, firstRefused?_eq_none hd, fits_textEntries,
      ← hasKnownKeys_textEntries]
    exact (and_iff_right hknown).symm
  · exact iff_of_false (by simp [ofEntries_of_unknown hknown]) fun h => hknown h.hasKnownKeys

theorem textEntries_inj {named others : List (String × Data)} :
    textEntries named = textEntries others ↔ named = others :=
  List.map_inj_right fun entry other h => by simpa [Prod.ext_iff] using h

theorem breaks_of_unknown (h : ¬ HasKnownKeys entries) :
    Breaks entries ↔ ∃ entry ∈ entries, entry.1.codes? = none := by
  refine or_iff_left ?_
  rintro ⟨named, rfl, hknown, -⟩
  exact h (hasKnownKeys_textEntries.mpr hknown)

theorem breaks_of_known {named : List (String × Data)} (h : HasKnownKeys (textEntries named)) :
    Breaks (textEntries named) ↔
      ∃ value, firstRefused? named = some value ∧ value.isShowable = false := by
  have htext : ¬ ∃ entry ∈ textEntries named, entry.1.codes? = none := by
    rintro ⟨entry, hm, hnone⟩
    obtain ⟨name, -, hname⟩ := h entry hm
    simp [hname, Data.codes?] at hnone
  simp only [Breaks, htext, false_or, textEntries_inj, exists_eq_left']
  exact and_iff_right (hasKnownKeys_textEntries.mp h)

theorem exists_ofEntries_breaks :
    (∃ e, ofEntries entries = .error e ∧ ¬ e.IsReported) ↔ Breaks entries := by
  by_cases hknown : HasKnownKeys entries
  · obtain ⟨named, rfl⟩ := hknown.exists_textEntries
    rw [breaks_of_known hknown, (ofEntries_refuses hknown).exists_unreported]
  · rw [breaks_of_unknown hknown, ofEntries_of_unknown hknown]
    have hreported := badKeys_isReported (unknownKeys entries)
    constructor
    · rintro ⟨_, ⟨⟩, hnot⟩
      obtain ⟨key, hkey, hnone⟩ : ∃ key ∈ unknownKeys entries, key.codes? = none := by
        simpa [hreported] using hnot
      obtain ⟨⟨entry, he, rfl⟩, -⟩ := mem_unknownKeys.mp hkey
      exact ⟨entry, he, hnone⟩
    · rintro ⟨entry, he, hnone⟩
      have hkey : entry.1 ∈ unknownKeys entries :=
        mem_unknownKeys.mpr ⟨⟨entry, he, rfl⟩, isKnown_of_codes?_eq_none hnone⟩
      exact ⟨_, rfl, fun h => hreported.mp h entry.1 hkey hnone⟩

end

-- ---------------------------------------------------------------------------
-- Documents
-- ---------------------------------------------------------------------------

theorem fst_of_mem_insertEntry {α : Type} {entries : List (Data × α)} {key : Data} {value : α}
    {entry : Data × α} (h : entry ∈ Data.insertEntry entries key value) :
    entry.1 ∈ entries.map (·.1) ∨ entry.1 = key := by
  induction entries with
  | nil => exact .inr (congrArg Prod.fst (List.mem_singleton.mp h))
  | cons first rest ih =>
    unfold Data.insertEntry at h
    split at h
    · rcases List.mem_cons.mp h with rfl | h
      · exact .inl (.head _)
      · exact .inl (.tail _ (List.mem_map_of_mem h))
    · rcases List.mem_cons.mp h with rfl | h
      · exact .inl (.head _)
      · exact (ih h).imp_left (.tail _)

theorem Distinct.insertEntry {α : Type} {entries : List (Data × α)} (h : Distinct entries)
    (key : Data) (value : α) : Distinct (Data.insertEntry entries key value) := by
  induction entries with
  | nil => exact List.pairwise_singleton _ _
  | cons first rest ih =>
    obtain ⟨hfirst, hrest⟩ := List.pairwise_cons.mp h
    unfold Data.insertEntry
    split
    · exact List.pairwise_cons.mpr ⟨hfirst, hrest⟩
    · rename_i hne
      refine List.pairwise_cons.mpr ⟨fun entry he => ?_, ih hrest⟩
      rcases fst_of_mem_insertEntry he with hm | hk
      · obtain ⟨other, ho, hk⟩ := List.mem_map.mp hm
        exact hk ▸ hfirst other ho
      · rw [hk]
        exact Bool.eq_false_iff.mpr hne

theorem distinct_entries? {document : Yaml.Document} {node : Yaml.Node}
    {entries : List (Data × Yaml.Node)} (h : document.entries? node = some entries) :
    Distinct entries := by
  have hfold (pairs : List (Yaml.Node × Yaml.Node)) (acc : List (Data × Yaml.Node))
      (ha : Distinct acc) : Distinct (pairs.foldl (fun acc pair =>
        Data.insertEntry acc (document.data pair.1) pair.2) acc) := by
    induction pairs generalizing acc with
    | nil => exact ha
    | cons pair rest ih => exact ih _ (ha.insertEntry _ _)
  unfold Yaml.Document.entries? at h
  split at h
  · split at h
    · cases h
      exact hfold _ [] .nil
    · cases h
  · cases h

theorem isNull_of_entries? {document : Yaml.Document} {node : Yaml.Node}
    {entries : List (Data × Yaml.Node)} (h : document.entries? node = some entries) :
    (document.data node).isNull = false := by
  unfold Yaml.Document.entries? at h
  split at h
  · rename_i number pairs hr
    simp [Yaml.Document.data, Yaml.Document.dataIn, hr, Yaml.Tag.isCollection, Data.isNull]
  · cases h

def section? (document : Yaml.Document) : Option (Option Yaml.Node) :=
  (document.entries? document.root).map fun entries =>
    (entries.find? fun (key, _) => key.sameKey (.str sectionName)).map (·.2)

def options? (document : Yaml.Document) (node : Yaml.Node) : Option (List (Data × Data)) :=
  (document.entries? node).map (List.map fun (key, value) => (key, document.data value))

def SectionFits (document : Yaml.Document) (node : Yaml.Node) : Prop :=
  (document.data node).isNull = true ∨
    ∃ entries, options? document node = some entries ∧ Fits entries

/-- A section that is neither null nor a mapping and counts as absent all the same:
false, zero, an empty text or an empty list. -/
def IsHollow (document : Yaml.Document) (node : Yaml.Node) : Prop :=
  options? document node = none ∧ (document.data node).isNull = false ∧
    (document.data node).isAbsent = true

def SectionBreaks (document : Yaml.Document) (node : Yaml.Node) : Prop :=
  ∃ entries, options? document node = some entries ∧ Breaks entries

/-- Nothing, null, or a mapping whose section fits if it is there. -/
def Readable : Option Yaml.Document → Prop
  | none => True
  | some document =>
    match section? document with
    | none => (document.data document.root).isNull = true
    | some entry => ∀ node ∈ entry, SectionFits document node

def HasSection (value : Option Yaml.Document) (P : Yaml.Document → Yaml.Node → Prop) : Prop :=
  ∃ document node, value = some document ∧ section? document = some (some node) ∧ P document node

section
variable {document : Yaml.Document} {node : Yaml.Node}

theorem distinct_options? {entries : List (Data × Data)}
    (h : options? document node = some entries) : Distinct entries := by
  obtain ⟨pairs, hp, rfl⟩ := Option.map_eq_some_iff.mp h
  exact List.pairwise_map.mpr (distinct_entries? hp)

theorem ofSection_eq (path : String) : ofSection path document node =
    match options? document node with
    | some entries => ofEntries entries
    | none => if (document.data node).isAbsent then .ok {} else .error (.notMapping path) := by
  unfold ofSection options?
  cases document.entries? node <;> rfl

theorem ofDocument_eq (path : String) : ofDocument path document =
    match section? document with
    | some (some node) => ofSection path document node
    | some none => .ok {}
    | none =>
      if (document.data document.root).isNull then .ok {} else .error (.notMapping path) := by
  unfold ofDocument section?
  cases document.entries? document.root with
  | none => rfl
  | some entries =>
    cases hf : entries.find? fun (key, _) => key.sameKey (.str sectionName) <;> simp [hf]

theorem ofSection_of_none (path : String) (ho : options? document node = none) :
    ofSection path document node =
      if (document.data node).isAbsent then .ok {} else .error (.notMapping path) := by
  rw [ofSection_eq, ho]

theorem isNull_of_options? {entries : List (Data × Data)}
    (h : options? document node = some entries) : (document.data node).isNull = false := by
  obtain ⟨pairs, hp, -⟩ := Option.map_eq_some_iff.mp h
  exact isNull_of_entries? hp

theorem isAbsent_of_isNull {value : Data} (h : value.isNull = true) : value.isAbsent = true := by
  cases value <;> first | rfl | cases h

theorem exists_ofSection_eq_ok (path : String) :
    (∃ config, ofSection path document node = .ok config) ↔
      SectionFits document node ∨ IsHollow document node := by
  unfold SectionFits IsHollow
  cases ho : options? document node with
  | some entries =>
    rw [ofSection_eq, ho]
    simpa [isNull_of_options? ho] using exists_ofEntries_eq_ok (distinct_options? ho)
  | none =>
    rw [ofSection_of_none path ho]
    cases hn : (document.data node).isNull with
    | true => simp [isAbsent_of_isNull hn]
    | false => cases (document.data node).isAbsent <;> simp

theorem exists_ofSection_breaks (path : String) :
    (∃ e, ofSection path document node = .error e ∧ ¬ e.IsReported) ↔
      SectionBreaks document node := by
  unfold SectionBreaks
  cases ho : options? document node with
  | some entries =>
    rw [ofSection_eq, ho]
    simpa using exists_ofEntries_breaks
  | none =>
    rw [ofSection_of_none path ho]
    cases (document.data node).isAbsent <;> simp [ConfigError.IsReported]

theorem exists_ofDocument_eq_ok (path : String) :
    (∃ config, ofDocument path document = .ok config) ↔
      Readable (some document) ∨ HasSection (some document) IsHollow := by
  rw [ofDocument_eq]
  unfold Readable HasSection
  rcases hs : section? document with _ | _ | node
  · cases hn : (document.data document.root).isNull <;> simp [hs, hn]
  · simp [hs]
  · simp [hs, exists_ofSection_eq_ok]

theorem exists_ofDocument_breaks (path : String) :
    (∃ e, ofDocument path document = .error e ∧ ¬ e.IsReported) ↔
      HasSection (some document) SectionBreaks := by
  rw [ofDocument_eq]
  unfold HasSection
  rcases hs : section? document with _ | _ | node
  · cases (document.data document.root).isNull <;> simp [hs, ConfigError.IsReported]
  · simp [hs]
  · simp [hs, exists_ofSection_breaks]

theorem ofDocument_hollow (path : String) (h : HasSection (some document) IsHollow) :
    ofDocument path document = .ok {} := by
  obtain ⟨_, node, ⟨⟩, hs, ho, -, ha⟩ := h
  rw [ofDocument_eq, hs]
  exact (ofSection_of_none path ho).trans (if_pos ha)

end

end Config

-- ---------------------------------------------------------------------------
-- Files
-- ---------------------------------------------------------------------------

open Config

/-- A file is read if it is empty or null, or a mapping whose section fits if it is
there, or has a hollow section, which leaves the defaults. All faults of its text and its
options are reported but those of a section that breaks. -/
theorem Config.ofFile_reads (path : String) (text : Chars) :
    let loaded := Yaml.load (Text.universalLines text)
    ((∃ config, ofFile path text = .ok config) ↔
      ∃ value, loaded = .ok value ∧ (Readable value ∨ HasSection value IsHollow)) ∧
    (∀ value, loaded = .ok value → HasSection value IsHollow → ofFile path text = .ok {}) ∧
    ((∃ e, ofFile path text = .error (.config e) ∧ ¬ e.IsReported) ↔
      ∃ value, loaded = .ok value ∧ HasSection value SectionBreaks) ∧
    ∀ e, ofFile path text = .error (.scalar e) ↔ loaded = .error e ∧ e ≠ .invalid := by
  simp only [ofFile]
  generalize Yaml.load (Text.universalLines text) = loaded
  rcases loaded with error | _ | document
  · cases error <;> simp [ConfigError.IsReported]
  · simp [Readable, HasSection]
  · simp only [Except.ok.injEq, exists_eq_left', forall_eq', ← exists_ofDocument_eq_ok path,
      ← exists_ofDocument_breaks path]
    refine ⟨?_, fun h => by rw [ofDocument_hollow path h], ?_, ?_⟩ <;>
      cases ofDocument path document <;> simp

/-- A section that is false leaves the defaults, but a list of options is refused. -/
example : (Config.ofFile "config.yaml" "tplast: false".toList).toOption = some {} ∧
    (Config.ofFile "config.yaml" "tplast: [copy_tree]".toList).toOption = none := by
  decide +kernel

end TemplateTree
