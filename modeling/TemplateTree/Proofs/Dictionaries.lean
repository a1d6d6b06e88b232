import Mathlib.Data.List.Nodup
import Mathlib.Data.List.Perm.Basic
import TemplateTree.Proofs.Configuration
import TemplateTree.Proofs.Grammar

/-!
# Dictionaries of options

What a dictionary with texts as keys makes does not depend on the order of its entries:
each option has the value that is given for it, or its default. Of several faults one is
reported, and which one is said by `FirstFault`. Every configuration can be written as a
dictionary and read back.
-/

namespace TemplateTree.Config

open TemplateTree.Expression (bind_eq_ok)
open TemplateTree.Graph (MissingChild)
open TemplateTree.Text (Chars Codes)

-- ---------------------------------------------------------------------------
-- Options and their values
-- ---------------------------------------------------------------------------

def policyName : MissingChild → String
  | .error => "error"
  | .skip => "skip"

def options (config : Config) : List (String × Data) :=
  [ ("preserve_whitespaces", .bool config.preserveWhitespaces)
  , ("preserve_line_endings", .bool config.preserveLineEndings)
  , ("collect_comment_nodes", .bool config.collectComments)
  , (policyKey, .str (policyName config.missingChild))
  , ("copy_tree", .bool config.copyTree) ]

structure IsDictionary (entries : List (Data × Data)) : Prop where
  distinct : Distinct entries
  text : ∀ entry ∈ entries, entry.1.codes? ≠ none

def valueOf? (entries : List (Data × Data)) (key : String) : Option Data :=
  (entries.find? fun entry => entry.1.sameKey (.str key)).map (·.2)

/-- The fault that is reported of those that a dictionary has: keys that are not known, then
a bad policy, then the first flag that is no truth value. -/
inductive FirstFault (entries : List (Data × Data)) : ConfigError → Prop
  /-- All keys that are not known are listed by their codes, in increasing order. -/
  | unknownKeys {keys : List Codes} (nonempty : keys ≠ [])
      (increasing : keys.Pairwise fun a b => a < b)
      (listed : ∀ codes, codes ∈ keys ↔ ∃ entry ∈ entries,
        (∀ name ∈ knownKeys, entry.1 ≠ .str name) ∧ entry.1.codes? = some codes)
      (whole : ∀ entry ∈ entries, entry.1.codes? ≠ none) :
      FirstFault entries (.unknownKeys keys)
  /-- The policy is none of the two. -/
  | policy {value : Data} (known : HasKnownKeys entries)
      (given : (.str policyKey, value) ∈ entries) (refused : ¬ IsValueOf policyKey value) :
      FirstFault entries (badPolicy value)
  /-- All values before this one fit. -/
  | flag {front back : List (Data × Data)} {key : String} {value : Data}
      (known : HasKnownKeys entries)
      (policy : ∀ value, (.str policyKey, value) ∈ entries → IsValueOf policyKey value)
      (split : entries = front ++ (.str key, value) :: back)
      (before : ∀ entry ∈ front, ∃ name, entry.1 = .str name ∧ IsValueOf name entry.2)
      (refused : ¬ IsValueOf key value) : FirstFault entries (badFlag key value)

-- ---------------------------------------------------------------------------
-- Codes of keys
-- ---------------------------------------------------------------------------

theorem ofString_injective : Function.Injective Codes.ofString := by
  intro a b h
  apply String.toList_injective
  exact List.map_injective_iff.mpr (fun _ _ => Char.toNat_inj.mp) h

theorem isHalf_toNat (c : Char) : Text.isHalf c.toNat = false := by
  have hvalid : c.toNat < 0xd800 ∨ 0xdfff < c.toNat ∧ c.toNat < 0x110000 := c.valid
  simp only [Text.isHalf, Bool.and_eq_false_iff, decide_eq_false_iff_not]
  omega

theorem quotedCodes_ofChars (text : Chars) :
    Text.quotedCodes (.ofChars text) = Text.quoted text := by
  simp [Text.quotedCodes, Text.quoted, Codes.ofChars, List.filter_map, List.flatMap_map,
    Function.comp_def, isHalf_toNat]

theorem display_of_codes? {key : Data} {codes : Codes} (h : key.codes? = some codes) :
    key.display = String.ofList (Text.quotedCodes codes) := by
  cases key with
  | str text =>
    cases h
    rw [Codes.ofString, quotedCodes_ofChars]
    rfl
  | halves other =>
    cases h
    rfl
  | _ => cases h

theorem sameKey_of_codes? {key other : Data} {codes : Codes} (h : key.codes? = some codes)
    (ho : other.codes? = some codes) : key.sameKey other = true := by
  have hdisplay : (key.display == other.display) = true := by
    simp [display_of_codes? h, display_of_codes? ho]
  cases key with
  | str text =>
    cases other with
    | str text' =>
      have hsame : Codes.ofString text = Codes.ofString text' := by
        simpa [Data.codes?] using h.trans ho.symm
      simp [sameKey_str, ofString_injective hsame]
    | halves other => exact hdisplay
    | _ => cases ho
  | halves codes' =>
    cases other with
    | str _ | halves _ => exact hdisplay
    | _ => cases ho
  | _ => cases h

theorem keyLe_iff {a b : Codes} : keyLe a b = true ↔ ¬ b < a := decide_eq_true_iff

theorem keyLe_trans (a b c : Codes) (hab : keyLe a b = true) (hbc : keyLe b c = true) :
    keyLe a c = true := by
  rw [keyLe_iff] at hab hbc ⊢
  exact @List.le_trans _ _ _ _ _ a b c hab hbc

theorem keyLe_total (a b : Codes) : (keyLe a b || keyLe b a) = true := by
  rw [Bool.or_eq_true, keyLe_iff, keyLe_iff]
  exact List.le_total a b

theorem mergeSort_increasing {keys : List Codes} (hd : keys.Nodup) :
    (keys.mergeSort keyLe).Pairwise fun a b => a < b := by
  have hsorted := List.pairwise_mergeSort keyLe_trans keyLe_total keys
  have hnodup : (keys.mergeSort keyLe).Nodup := (List.mergeSort_perm keys keyLe).nodup_iff.mpr hd
  refine (hsorted.and hnodup).imp ?_
  rintro a b ⟨hle, hne⟩
  by_contra hlt
  exact hne (@List.le_antisymm _ _ _ a b (keyLe_iff.mp hle) hlt)

-- ---------------------------------------------------------------------------
-- Keys
-- ---------------------------------------------------------------------------

section
variable {named others : List (String × Data)} {config : Config} {key : String}

theorem lookup_perm (hd : (named.map (·.1)).Nodup) (h : others.Perm named) :
    others.lookup key = named.lookup key := by
  have hd' : (others.map (·.1)).Nodup := (h.map _).nodup_iff.mpr hd
  apply Option.ext
  intro value
  rw [lookup_eq_some_iff hd, lookup_eq_some_iff hd', h.mem_iff]

theorem valueOf?_textEntries : valueOf? (textEntries named) key = named.lookup key := by
  simp [valueOf?, find?_textEntries, Function.comp_def]

theorem mem_textEntries {value : Data} :
    (.str key, value) ∈ textEntries named ↔ (key, value) ∈ named := by
  simp [textEntries]

theorem IsDictionary.exists_codes {entries : List (Data × Data)} (h : IsDictionary entries) :
    ∃ keys, (unknownKeys entries).mapM Data.codes? = some keys ∧ keys.Nodup := by
  have htext : ∀ key ∈ unknownKeys entries, key.codes? ≠ none := by
    intro key hkey
    obtain ⟨⟨entry, he, rfl⟩, -⟩ := mem_unknownKeys.mp hkey
    exact h.text entry he
  have hdistinct : (unknownKeys entries).Pairwise fun key other => key.sameKey other = false :=
    List.Pairwise.filter _ (List.pairwise_map.mpr h.distinct)
  have hnodup : ((unknownKeys entries).map Data.codes?).Nodup := by
    refine List.pairwise_map.mpr (hdistinct.imp_of_mem fun {key other} hk _ hne hsame => ?_)
    obtain ⟨codes, hcodes⟩ := Option.ne_none_iff_exists'.mp (htext key hk)
    rw [sameKey_of_codes? hcodes (hsame ▸ hcodes)] at hne
    cases hne
  cases hkeys : (unknownKeys entries).mapM Data.codes? with
  | none =>
    obtain ⟨key, hk, hnone⟩ := mapM_eq_none.mp hkeys
    exact absurd hnone (htext key hk)
  | some keys =>
    rw [mapM_eq_some.mp hkeys] at hnodup
    exact ⟨keys, rfl, hnodup.of_map⟩

theorem IsDictionary.exists_textEntries {entries : List (Data × Data)} (h : IsDictionary entries)
    (hk : HasKnownKeys entries) :
    ∃ named, entries = textEntries named ∧ (named.map (·.1)).Nodup := by
  obtain ⟨named, rfl⟩ := hk.exists_textEntries
  exact ⟨named, rfl, nodup_of_distinct h.distinct⟩

-- ---------------------------------------------------------------------------
-- Options that are given
-- ---------------------------------------------------------------------------

theorem options_injective : Function.Injective options := by
  rintro ⟨_, _, _, policy, _⟩ ⟨_, _, _, policy', _⟩ h
  cases policy <;> cases policy' <;> simp_all [options, policyName]

theorem options_setFlag (hk : key ∈ flagKeys) (flag : Bool) :
    (config.setFlag key flag).options =
      config.options.map fun (name, value) => (name, if name = key then .bool flag else value) := by
  simp only [flagKeys, List.mem_cons, List.not_mem_nil, or_false] at hk
  rcases hk with rfl | rfl | rfl | rfl <;> simp [options, setFlag, policyKey]

theorem isFlag_of_firstBadFlag? (h : firstBadFlag? named = none) :
    ∀ entry ∈ named, entry.1 ≠ policyKey → ∃ flag, entry.2 = .bool flag := by
  intro entry he hn
  have hvalue := firstBadFlag?_eq_none.mp h entry he hn
  simpa [IsValueOf, hn] using hvalue

theorem options_takeFlags (hd : (named.map (·.1)).Nodup)
    (hk : ∀ entry ∈ named, entry.1 ∈ knownKeys)
    (hf : ∀ entry ∈ named, entry.1 ≠ policyKey → ∃ flag, entry.2 = .bool flag) :
    (named.foldl takeFlag config).options = config.options.map fun (name, value) =>
      (name, if name = policyKey then value else (named.lookup name).getD value) := by
  induction named generalizing config with
  | nil => simp
  | cons entry rest ih =>
    obtain ⟨key, value⟩ := entry
    obtain ⟨hkey, hrest⟩ := List.forall_mem_cons.mp hk
    obtain ⟨hflag, hflags⟩ := List.forall_mem_cons.mp hf
    obtain ⟨hnew, hd⟩ := List.nodup_cons.mp hd
    rw [List.foldl_cons, ih hd hrest hflags]
    by_cases hn : key = policyKey
    · subst hn
      rw [takeFlag_policyKey]
      refine List.map_congr_left fun entry _ => ?_
      by_cases hname : entry.1 = policyKey
      · simp [hname]
      · simp [hname, List.lookup_cons, beq_eq_false_iff_ne.mpr hname]
    · obtain ⟨flag, rfl⟩ := hflag hn
      -- The key is not there again.
      have hnone : rest.lookup key = none := by
        rw [List.lookup_eq_none_iff]
        intro entry he
        have hne : key ≠ entry.1 := fun h => hnew (List.mem_map.mpr ⟨entry, he, h.symm⟩)
        simpa using hne
      have hset : takeFlag config (key, .bool flag) = config.setFlag key flag := rfl
      have hkey : key ∈ flagKeys := by simpa [knownKeys, hn] using hkey
      rw [hset, options_setFlag hkey, List.map_map]
      refine List.map_congr_left fun entry _ => ?_
      by_cases hname : entry.1 = key
      · simp [hname, hn, hnone]
      · simp [hname, List.lookup_cons, beq_eq_false_iff_ne.mpr hname]

theorem readPolicy_cases (named : List (String × Data)) :
    (∃ policy, readPolicy (textEntries named) = .ok policy ∧
      (∀ value, named.lookup policyKey = some value → IsValueOf policyKey value) ∧
      (named.lookup policyKey).getD (.str (policyName .error)) = .str (policyName policy)) ∨
    (∃ value, readPolicy (textEntries named) = .error (badPolicy value) ∧
      named.lookup policyKey = some value ∧ ¬ IsValueOf policyKey value) := by
  rw [readPolicy_textEntries]
  cases named.lookup policyKey with
  | none => exact .inl ⟨.error, rfl, by simp, rfl⟩
  | some value =>
    rw [Option.getD_some]
    by_cases hv : IsValueOf policyKey value
    · left
      obtain rfl | rfl : value = .str "error" ∨ value = .str "skip" := by
        simpa [IsValueOf] using hv
      · exact ⟨.error, rfl, by simp [IsValueOf], rfl⟩
      · exact ⟨.skip, rfl, by simp [IsValueOf], rfl⟩
    · right
      have hnone : policy? value = none := by
        simpa [← policy?_isSome] using hv
      exact ⟨value, by simp only [hnone], rfl, hv⟩

theorem options_of_ofEntries (hd : (named.map (·.1)).Nodup)
    (h : ofEntries (textEntries named) = .ok config) :
    config.options = ({} : Config).options.map fun (name, value) =>
      (name, (named.lookup name).getD value) := by
  by_cases hk : HasKnownKeys (textEntries named)
  · rw [ofEntries_of_known hk] at h
    rw [hasKnownKeys_textEntries] at hk
    rcases readPolicy_cases named with ⟨policy, hpolicy, -, hgiven⟩ | ⟨value, hpolicy, -, -⟩
    · rw [hpolicy, Except.bind, readFlags_textEntries] at h
      split at h
      · cases h
      · rename_i hbad
        cases h
        rw [options_takeFlags hd hk (isFlag_of_firstBadFlag? hbad)]
        simp only [options, List.map_cons, List.map_nil, hgiven, if_true]
        simp [policyKey]
    · rw [hpolicy] at h
      cases h
  · simp [ofEntries_of_unknown hk] at h

-- ---------------------------------------------------------------------------
-- The fault that is reported
-- ---------------------------------------------------------------------------

theorem firstFault_of_unknown {entries : List (Data × Data)} (hd : IsDictionary entries)
    (h : ¬ HasKnownKeys entries) : FirstFault entries (badKeys (unknownKeys entries)) := by
  obtain ⟨keys, hkeys, hnodup⟩ := hd.exists_codes
  have hcodes := mapM_eq_some.mp hkeys
  simp only [badKeys, hkeys]
  refine .unknownKeys ?_ (mergeSort_increasing hnodup) ?_ hd.text
  · intro hnone
    have hlength := congrArg List.length hnone
    rw [List.length_mergeSort, List.length_nil, List.length_eq_zero_iff] at hlength
    rw [hlength, List.map_nil, List.map_eq_nil_iff] at hcodes
    exact h (unknownKeys_eq_nil.mp hcodes)
  · intro codes
    have hmem : codes ∈ keys ↔ some codes ∈ (unknownKeys entries).map Data.codes? := by
      simp [hcodes]
    simp [hmem, unknownKeys, ← Bool.not_eq_true, isKnown_iff, and_assoc]

theorem firstFault_of_badFlag {value : Data} (hk : HasKnownKeys (textEntries named))
    (hp : ∀ value, (policyKey, value) ∈ named → IsValueOf policyKey value)
    (h : firstBadFlag? named = some (key, value)) :
    FirstFault (textEntries named) (badFlag key value) := by
  obtain ⟨hbad, front, back, rfl, hfront⟩ := List.find?_eq_some_iff_append.mp h
  simp only [Bool.and_eq_true, bne_iff_ne, Bool.not_eq_true'] at hbad
  refine .flag hk (fun value hv => hp value (mem_textEntries.mp hv)) List.map_append ?_ ?_
  · rw [List.forall_mem_map]
    rintro ⟨name, value⟩ he
    refine ⟨name, rfl, ?_⟩
    by_cases hn : name = policyKey
    · subst hn
      exact hp value (List.mem_append_left _ he)
    · have hflag : isFlag value = true := by
        simpa [hn] using hfront _ he
      exact (isFlag_iff hn).mp hflag
  · rw [← isFlag_iff hbad.1, hbad.2]
    exact Bool.false_ne_true

theorem firstFault_of_ofEntries {entries : List (Data × Data)} {error : ConfigError}
    (hd : IsDictionary entries) (h : ofEntries entries = .error error) :
    FirstFault entries error := by
  by_cases hk : HasKnownKeys entries
  · obtain ⟨named, rfl, hnodup⟩ := hd.exists_textEntries hk
    rw [ofEntries_of_known hk] at h
    rcases readPolicy_cases named with ⟨policy, hpolicy, haccepted, -⟩ |
      ⟨value, hpolicy, hl, hrefused⟩
    · rw [hpolicy, Except.bind, readFlags_textEntries] at h
      split at h
      · rename_i hbad
        cases h
        exact firstFault_of_badFlag hk
          (fun value hv => haccepted value ((lookup_eq_some_iff hnodup).mpr hv)) hbad
      · cases h
    · rw [hpolicy] at h
      cases h
      exact .policy hk (mem_textEntries.mpr (mem_of_lookup hl)) hrefused
  · rw [ofEntries_of_unknown hk] at h
    cases h
    exact firstFault_of_unknown hd hk

-- ---------------------------------------------------------------------------
-- Entries in another order
-- ---------------------------------------------------------------------------

theorem distinct_textEntries :
    Distinct (textEntries named) ↔ (named.map (·.1)).Nodup := by
  refine ⟨nodup_of_distinct, fun hd => ?_⟩
  rw [List.Nodup, List.pairwise_map] at hd
  rw [Distinct, textEntries, List.pairwise_map]
  exact hd.imp fun hne => by simpa [sameKey_str] using hne

theorem fits_perm {entries other : List (Data × Data)} (h : other.Perm entries) :
    Fits other ↔ Fits entries := by
  simp only [Fits, h.mem_iff]

theorem toOption_ofEntries_perm (hd : (named.map (·.1)).Nodup) (h : others.Perm named) :
    (ofEntries (textEntries others)).toOption = (ofEntries (textEntries named)).toOption := by
  have hd' : (others.map (·.1)).Nodup := (h.map _).nodup_iff.mpr hd
  have hfits := fits_perm (h.map fun (name, value) => (Data.str name, value))
  have hnamed := exists_ofEntries_eq_ok (distinct_textEntries.mpr hd)
  have hothers := exists_ofEntries_eq_ok (distinct_textEntries.mpr hd')
  have hboth := hothers.trans (hfits.trans hnamed.symm)
  cases hn : ofEntries (textEntries named) with
  | ok config =>
    obtain ⟨config', ho⟩ := hboth.mpr ⟨config, hn⟩
    have hsame : config'.options = config.options := by
      rw [options_of_ofEntries hd hn, options_of_ofEntries hd' ho]
      simp only [lookup_perm hd h]
    rw [ho, options_injective hsame]
  | error e =>
    cases ho : ofEntries (textEntries others) with
    | ok config =>
      obtain ⟨config', hok⟩ := hboth.mp ⟨config, ho⟩
      cases hn.symm.trans hok
    | error e => rfl

end

theorem ofEntries_perm {entries other : List (Data × Data)} (hd : IsDictionary entries)
    (h : other.Perm entries) : (ofEntries other).toOption = (ofEntries entries).toOption := by
  by_cases hk : HasKnownKeys entries
  · obtain ⟨named, rfl, hnodup⟩ := hd.exists_textEntries hk
    obtain ⟨others, rfl, hperm⟩ : ∃ others, other = textEntries others ∧ others.Perm named :=
      (congrFun₂ (List.eq_map_comp_perm _) other named).mpr h
    exact toOption_ofEntries_perm hnodup hperm
  · have hother : ¬ HasKnownKeys other := by
      simpa only [HasKnownKeys, h.mem_iff] using hk
    rw [ofEntries_of_unknown hk, ofEntries_of_unknown hother]
    rfl

theorem ofEntries_options (config : Config) :
    ofEntries (textEntries config.options) = .ok config := by
  have hd : (config.options.map (·.1)).Nodup := by
    show ["preserve_whitespaces", "preserve_line_endings", "collect_comment_nodes", "missing_child",
      "copy_tree"].Nodup
    decide
  have hfits : Fits (textEntries config.options) := by
    rw [fits_textEntries]
    obtain ⟨_, _, _, policy, _⟩ := config
    cases policy <;> simp [options, policyName, IsValueOf, policyKey, knownKeys, flagKeys]
  obtain ⟨config', h⟩ := (exists_ofEntries_eq_ok (distinct_textEntries.mpr hd)).mpr hfits
  have hsame : config'.options = config.options := by
    rw [options_of_ofEntries hd h]
    simp [options, List.lookup_cons, policyKey]
  rw [h, options_injective hsame]

/-- A dictionary makes a configuration exactly if its keys are known and its values fit, and
then each option has the value that is given for it or its default; the order of the entries
does not matter for this. Of other dictionaries the first fault is reported, if the value that
is refused can be shown. A configuration is read back from its options. -/
theorem ofEntries_reads {entries : List (Data × Data)} (hd : IsDictionary entries) :
    ((∃ config, ofEntries entries = .ok config) ↔ Fits entries) ∧
    (∀ config, ofEntries entries = .ok config →
      config.options = ({} : Config).options.map fun (name, default) =>
        (name, (valueOf? entries name).getD default)) ∧
    (∀ other, other.Perm entries →
      (ofEntries other).toOption = (ofEntries entries).toOption) ∧
    (∀ error, ofEntries entries = .error error →
      FirstFault entries error ∧ (error.IsReported ↔ ¬ Breaks entries)) ∧
    ∀ config : Config, ofEntries (textEntries config.options) = .ok config := by
  refine ⟨exists_ofEntries_eq_ok hd.distinct, ?_, ?_, ?_, ofEntries_options⟩
  · intro config h
    have hfits := (exists_ofEntries_eq_ok hd.distinct).mp ⟨config, h⟩
    obtain ⟨named, rfl, hnodup⟩ := hd.exists_textEntries hfits.hasKnownKeys
    simpa [valueOf?_textEntries] using options_of_ofEntries hnodup h
  · intro other h
    exact ofEntries_perm hd h
  · intro error h
    refine ⟨firstFault_of_ofEntries hd h, ?_⟩
    rw [← exists_ofEntries_breaks, h]
    simp

/-- A dictionary with five faults, one of them half of a character, and one without. -/
theorem ofEntries_reads_faulty :
    let faulty := (.halves [0xd800], .null) :: textEntries [("zeta", .null),
      ("copy_tree", .str "yes"), ("missing_child", .str "ignore"), ("Alpha", .int 1)]
    let fitting := textEntries [("missing_child", .str "skip"), ("copy_tree", .bool true)]
    FirstFault faulty (.unknownKeys [.ofString "Alpha", .ofString "zeta", [0xd800]]) ∧
      (ofEntries fitting.reverse).toOption = some { missingChild := .skip, copyTree := true } := by
  intro faulty fitting
  have hfaulty : IsDictionary faulty := by
    refine ⟨?_, by decide⟩
    unfold Distinct
    decide +kernel
  have hfitting : IsDictionary fitting := by
    refine ⟨?_, by decide⟩
    unfold Distinct
    decide +kernel
  obtain ⟨-, -, -, hfault, -⟩ := ofEntries_reads hfaulty
  obtain ⟨-, -, hperm, -⟩ := ofEntries_reads hfitting
  let listed : List Codes := [.ofString "Alpha", .ofString "zeta", [0xd800]]
  have hsorted : listed.reverse.mergeSort keyLe = listed :=
    ((List.mergeSort_perm _ _).trans listed.reverse_perm).eq_of_pairwise
      (fun _ _ _ _ hab hba => absurd hba (List.lt_asymm hab)) (mergeSort_increasing (by decide))
      (by decide)
  have hunknown : ofEntries faulty = .error (.unknownKeys listed) := by
    rw [← hsorted]
    rfl
  have hok : ofEntries fitting = .ok { missingChild := .skip, copyTree := true } := by
    decide +kernel
  refine ⟨(hfault _ hunknown).1, ?_⟩
  rw [hperm _ (List.reverse_perm _), hok]
  rfl

-- A policy that is too long to be shown is refused without a report.
example : ofEntries (textEntries [("missing_child", .int (Nat.pow 10 4300))]) =
    .error .oversized := by
  decide +kernel

end TemplateTree.Config
