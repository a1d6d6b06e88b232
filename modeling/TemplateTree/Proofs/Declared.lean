import Mathlib.Data.List.Forall2
import TemplateTree.Proofs.Bindings
import TemplateTree.Proofs.Placement

/-!
# What the attributes of a tag declare

Every attribute adds entries to those of its tag, and they carry its span. Only a
directive whose value has semicolons and blanks and nothing else adds none. The
lists of a tag keep the order of its attributes.
-/

namespace TemplateTree.Markup

open Text (Chars isBlank)
open Expression (bind_eq_ok)

-- ---------------------------------------------------------------------------
-- The lists of entries
-- ---------------------------------------------------------------------------

inductive EntryList where
  | attributes
  | inputs
  | outputs
  | references
  | vars
  | templateAttrs
  | templateVariables
  deriving DecidableEq, Repr

def EntryList.isTemplate (list : EntryList) : Bool :=
  list = templateAttrs || list = templateVariables

def Entries.spansIn (entries : Entries) : EntryList → List Span
  | .attributes => entries.attributes.map (·.span)
  | .inputs => entries.inputs.map (·.span)
  | .outputs => entries.outputs.map (·.span)
  | .references => entries.references.map (·.span)
  | .vars => entries.vars.map (·.span)
  | .templateAttrs => entries.templateAttrs.map (·.span)
  | .templateVariables => entries.templateVariables.map (·.span)

@[simp] theorem Entries.spansIn_empty (list : EntryList) : ({} : Entries).spansIn list = [] := by
  cases list <;> rfl

@[simp] theorem Entries.spansIn_append (a b : Entries) (list : EntryList) :
    (a.append b).spansIn list = a.spansIn list ++ b.spansIn list := by
  cases list <;> exact List.map_append

/-- The entries are those of one attribute: they carry its span and stand in lists
that are allowed, and there are some exactly under the condition. -/
structure Entries.From (span : Span) (allowed : EntryList → Prop) (some : Prop)
    (entries : Entries) : Prop where
  spans : ∀ list, ∀ other ∈ entries.spansIn list, other = span ∧ allowed list
  nonempty : (∃ list, entries.spansIn list ≠ []) ↔ some

theorem Entries.From.of_lists {span : Span} {allowed : EntryList → Prop} {p : Prop}
    {entries : Entries} (used : List EntryList) (hne : used ≠ [])
    (h : ∀ list, entries.spansIn list = if list ∈ used then [span] else [])
    (ha : ∀ list ∈ used, allowed list) (hp : p) : entries.From span allowed p := by
  constructor
  · intro list other ho
    rw [h] at ho
    split at ho
    · rename_i hu
      exact ⟨List.mem_singleton.mp ho, ha list hu⟩
    · cases ho
  · obtain ⟨list, hu⟩ := List.exists_mem_of_ne_nil used hne
    exact iff_of_true ⟨list, by simp [h, hu]⟩ hp

theorem Entries.From.congr {span : Span} {allowed : EntryList → Prop} {p q : Prop}
    {entries : Entries} (h : entries.From span allowed p) (hpq : p ↔ q) :
    entries.From span allowed q := ⟨h.spans, h.nonempty.trans hpq⟩

theorem Entries.From.append {span : Span} {allowed : EntryList → Prop} {p q : Prop}
    {a b : Entries} (ha : a.From span allowed p) (hb : b.From span allowed q) :
    (a.append b).From span allowed (p ∨ q) := by
  constructor
  · intro list other ho
    rw [spansIn_append] at ho
    rcases List.mem_append.mp ho with ho | ho
    · exact ha.spans list other ho
    · exact hb.spans list other ho
  · rw [← ha.nonempty, ← hb.nonempty, ← exists_or]
    refine exists_congr fun list => ?_
    rw [spansIn_append, ne_eq, List.append_eq_nil_iff, not_and_or]

theorem collect_from {α : Type} {f : α → Check (Entries × List Problem)} {xs : List α}
    {span : Span} {allowed : EntryList → Prop} {p : α → Prop} {entries : Entries}
    {problems : List Problem}
    (hf : ∀ x ∈ xs, ∀ {e ps}, f x = .ok (e, ps) → e.From span allowed (p x))
    (h : collect f xs = .ok (entries, problems)) :
    entries.From span allowed (∃ x ∈ xs, p x) := by
  induction xs generalizing entries problems with
  | nil =>
    cases h
    exact ⟨by simp, by simp⟩
  | cons x xs ih =>
    simp only [collect, bind_eq_ok] at h
    obtain ⟨⟨e, ps⟩, hx, ⟨more, others⟩, hxs, h⟩ := h
    cases h
    refine ((hf x (.head _) hx).append (ih (fun y hy => hf y (.tail _ hy)) hxs)).congr ?_
    simp

-- ---------------------------------------------------------------------------
-- Directives
-- ---------------------------------------------------------------------------

theorem trim_eq_nil_iff {text : Chars} :
    Text.trim text = [] ↔ ∀ c ∈ text, isBlank c = true := by
  constructor
  · intro h
    have hleft : Text.trimLeft text = [] := by
      have hblank : ∀ c ∈ (Text.trimLeft text).reverse, isBlank c = true := by
        have := List.reverse_eq_nil_iff.mp h
        simpa [List.dropWhile_eq_nil_iff] using this
      cases hl : Text.trimLeft text with
      | nil => rfl
      | cons c rest =>
        have hc : isBlank c = false := by
          have := List.head?_dropWhile_not isBlank text
          rw [show text.dropWhile isBlank = c :: rest from hl] at this
          simpa using this
        have := hblank c (by simp [hl])
        rw [hc] at this
        cases this
    simpa [Text.trimLeft, List.dropWhile_eq_nil_iff] using hleft
  · intro h
    exact trim_of_allBlank (by simpa [Text.allBlank] using h)

theorem flatMap_clauseRuns (pos : Nat) (value : Chars) :
    (clauseRuns pos value).flatMap Prod.snd = value.filter (· ≠ ';') := by
  induction value generalizing pos with
  | nil => rfl
  | cons c rest ih =>
    by_cases hc : c = ';'
    · subst hc
      simpa [clauseRuns] using ih (pos + 1)
    · have hrest := ih (pos + 1)
      unfold clauseRuns
      rw [if_neg (by simpa using hc), List.filter_cons_of_pos (by simpa using hc), ← hrest]
      split
      · rename_i start run more heq
        rw [heq]
        split <;> rfl
      · rename_i heq
        rw [heq]
        rfl

variable {source : Source} {attr : PlacedAttribute}

theorem clauseEntries_from {directive : Chars} {clause : Nat × Nat × Chars} {entries : Entries}
    {problems : List Problem}
    (h : clauseEntries source directive attr clause = .ok (entries, problems)) :
    entries.From attr.span (·.isTemplate = true) (Text.trim clause.2.2 ≠ []) := by
  obtain ⟨index, start, run⟩ := clause
  unfold clauseEntries at h
  dsimp only at h
  split at h
  · rename_i hb
    cases h
    exact ⟨by simp, by simpa using hb⟩
  · rename_i hb
    have hrun : Text.trim run ≠ [] := by simpa using hb
    cases hc : Clause.ofText (index == 0) (Text.trim run) with
    | assign name value | renamed key name =>
      rw [hc] at h
      cases h
      refine .of_lists [.templateVariables] (by simp) (fun list => ?_) (by decide) hrun
      cases list <;> rfl
    | forEach name key expression shift =>
      rw [hc] at h
      obtain ⟨⟨input, others⟩, hbound, h⟩ := bind_eq_ok.mp h
      obtain ⟨⟨binding, _⟩, -, hbound⟩ := bind_eq_ok.mp hbound
      cases hbound
      cases h
      refine .of_lists [.templateAttrs, .templateVariables] (by simp) (fun list => ?_)
        (by decide) hrun
      cases list <;> rfl
    | keyed key expression shift | plain =>
      rw [hc] at h
      obtain ⟨⟨input, others⟩, hbound, h⟩ := bind_eq_ok.mp h
      obtain ⟨⟨binding, _⟩, -, hbound⟩ := bind_eq_ok.mp hbound
      cases hbound
      cases h
      refine .of_lists [.templateAttrs] (by simp) (fun list => ?_) (by decide) hrun
      cases list <;> rfl

theorem map_snd_numbered {α : Type} (n : Nat) (xs : List α) :
    (numbered n xs).map Prod.snd = xs := by
  induction xs generalizing n with
  | nil => rfl
  | cons x xs ih => simp [numbered, ih]

theorem exists_clause_iff {value : Chars} :
    (∃ clause ∈ numbered 0 (clauseRuns 0 value), Text.trim clause.2.2 ≠ []) ↔
      ∃ c ∈ value, c ≠ ';' ∧ isBlank c = false := by
  have hrun : (∃ clause ∈ numbered 0 (clauseRuns 0 value), Text.trim clause.2.2 ≠ []) ↔
      ∃ run ∈ clauseRuns 0 value, Text.trim run.2 ≠ [] := by
    conv => rhs; rw [← map_snd_numbered 0 (clauseRuns 0 value)]
    simp only [List.mem_map, exists_exists_and_eq_and]
  have hchar : (∃ c ∈ value, c ≠ ';' ∧ isBlank c = false) ↔
      ∃ c ∈ (clauseRuns 0 value).flatMap Prod.snd, isBlank c = false := by
    rw [flatMap_clauseRuns]
    simp [and_assoc]
  rw [hrun, hchar]
  simp only [ne_eq, trim_eq_nil_iff, not_forall, List.mem_flatMap, Bool.not_eq_true]
  constructor
  · rintro ⟨run, hr, c, hc, hb⟩
    exact ⟨c, ⟨run, hr, hc⟩, hb⟩
  · rintro ⟨c, ⟨run, hr, hc⟩, hb⟩
    exact ⟨run, hr, c, hc, hb⟩

def isHollowValue (value : Chars) : Bool :=
  value.contains ';' && value.all fun c => c == ';' || isBlank c

theorem isHollowValue_of_allBlank {value : Chars} (h : Text.allBlank value = true) :
    isHollowValue value = false := by
  rw [Text.allBlank, List.all_eq_true] at h
  have hmark : ';' ∉ value := fun hm => by
    have := h _ hm
    revert this
    decide
  simp [isHollowValue, hmark]

theorem isHollowValue_of_not_allBlank {value : Chars} (h : ¬ Text.allBlank value = true) :
    isHollowValue value = false ↔ ∃ c ∈ value, c ≠ ';' ∧ isBlank c = false := by
  constructor
  · intro hv
    by_contra hnone
    have hall : ∀ c ∈ value, c = ';' ∨ isBlank c = true := by
      intro c hc
      by_contra hn
      rw [not_or, Bool.not_eq_true] at hn
      exact hnone ⟨c, hc, hn⟩
    -- What is not blank is a semicolon then, so there is one.
    have hmark : ';' ∈ value := by
      by_contra hn
      refine h (List.all_eq_true.mpr fun c hc => (hall c hc).resolve_left ?_)
      rintro rfl
      exact hn hc
    have htrue : isHollowValue value = true := by
      simp only [isHollowValue, Bool.and_eq_true, List.contains_iff_mem, List.all_eq_true,
        Bool.or_eq_true, beq_iff_eq]
      exact ⟨hmark, hall⟩
    rw [hv] at htrue
    cases htrue
  · rintro ⟨c, hc, hne, hb⟩
    rw [isHollowValue, Bool.and_eq_false_iff]
    refine .inr (List.all_eq_false.mpr ⟨c, hc, ?_⟩)
    simp [hne, hb]

/-- A directive adds to its lists unless its value is hollow. -/
theorem directiveEntries_from {directive : Chars} {entries : Entries} {problems : List Problem}
    (h : directiveEntries source directive attr = .ok (entries, problems)) :
    entries.From attr.span (·.isTemplate = true) (isHollowValue attr.value = false) := by
  unfold directiveEntries at h
  split at h
  · rename_i hb
    obtain ⟨⟨binding, others⟩, -, h⟩ := bind_eq_ok.mp h
    cases h
    refine .of_lists [.templateAttrs] (by simp) (fun list => ?_) (by decide)
      (isHollowValue_of_allBlank hb)
    cases list <;> rfl
  · rename_i hb
    rw [isHollowValue_of_not_allBlank hb, ← exists_clause_iff]
    exact collect_from (fun clause _ => clauseEntries_from) h

-- ---------------------------------------------------------------------------
-- Attributes
-- ---------------------------------------------------------------------------

def isDirective (name : Chars) : Bool := ['*'].isPrefixOf name

def isLet (name : Chars) : Bool := "let-".toList.isPrefixOf name

/-- A directive without a clause, which adds nothing. -/
def PlacedAttribute.isHollow (attr : PlacedAttribute) : Bool :=
  isDirective attr.name && isHollowValue attr.value

theorem behind?_of_ofName (name : Chars) :
    (∀ directive, Form.ofName name = .directive directive →
      behind? ['*'] name = some directive) ∧
    ∀ declared, Form.ofName name = .letVariable declared →
      behind? "let-".toList name = some declared := by
  have hfind : ∀ form, Form.ofName name = form → form ≠ .plain →
      ∃ candidate ∈ Form.candidates name, candidate = some form := by
    rintro form rfl hp
    cases hf : (Form.candidates name).findSome? id with
    | none => exact absurd (by simp [Form.ofName, hf]) hp
    | some found =>
      rw [Form.ofName, hf]
      exact List.exists_of_findSome?_eq_some hf
  refine ⟨fun directive h => ?_, fun declared h => ?_⟩
  all_goals
    obtain ⟨_, hm, hc⟩ := hfind _ h (by simp)
    simp only [Form.candidates, List.mem_cons, List.not_mem_nil, or_false] at hm
    rcases hm with rfl | rfl | rfl | rfl | rfl | rfl | rfl | rfl | rfl
    all_goals
      obtain ⟨_, hb, heq⟩ := Option.map_eq_some_iff.mp hc
      cases heq
    exact hb

theorem isPrefixOf_of_behind? {mark name rest : Chars} (h : behind? mark name = some rest) :
    mark.isPrefixOf name = true := by
  unfold behind? at h
  split at h
  · assumption
  · cases h

theorem exists_ofName_eq_directive_iff {name : Chars} :
    (∃ directive, Form.ofName name = .directive directive) ↔ isDirective name = true := by
  constructor
  · rintro ⟨directive, h⟩
    exact isPrefixOf_of_behind? ((behind?_of_ofName name).1 directive h)
  · intro h
    obtain ⟨rest, rfl⟩ := List.isPrefixOf_iff_prefix.mp h
    exact ⟨rest, rfl⟩

def Allows (name : Chars) (list : EntryList) : Prop :=
  (list.isTemplate = true ↔ isDirective name = true) ∧ (list = .vars → isLet name = true)

theorem Entries.From.of_other {entries : Entries}
    (hn : ∀ directive, Form.ofName attr.name ≠ .directive directive) (used : List EntryList)
    (hne : used ≠ [])
    (hused : ∀ list, entries.spansIn list = if list ∈ used then [attr.span] else [])
    (hlists : ∀ list ∈ used, list.isTemplate = false ∧ (list = .vars → isLet attr.name = true)) :
    entries.From attr.span (Allows attr.name) (attr.isHollow = false) := by
  have hd : isDirective attr.name = false := by
    rw [← Bool.not_eq_true, ← exists_ofName_eq_directive_iff]
    rintro ⟨directive, hf⟩
    exact hn directive hf
  refine .of_lists used hne hused (fun list hl => ?_) (by simp [PlacedAttribute.isHollow, hd])
  obtain ⟨ht, hv⟩ := hlists list hl
  exact ⟨by simp [ht, hd], hv⟩

/-- An attribute adds entries with its span, unless it is hollow. -/
theorem attributeEntries_from {entries : Entries} {problems : List Problem}
    (h : attributeEntries source attr = .ok (entries, problems)) :
    entries.From attr.span (Allows attr.name) (attr.isHollow = false) := by
  unfold attributeEntries at h
  cases hf : Form.ofName attr.name with
  | directive name =>
    rw [hf] at h
    have hd := exists_ofName_eq_directive_iff.mp ⟨name, hf⟩
    obtain ⟨hspans, hsome⟩ := directiveEntries_from h
    refine ⟨fun list other ho => ?_, by simpa [PlacedAttribute.isHollow, hd] using hsome⟩
    obtain ⟨hs, hl⟩ := hspans list other ho
    refine ⟨hs, iff_of_true hl hd, ?_⟩
    rintro rfl
    cases hl
  | twoWay name =>
    rw [hf] at h
    obtain ⟨⟨_, _⟩, -, h⟩ := bind_eq_ok.mp h
    obtain ⟨⟨_, _⟩, -, h⟩ := bind_eq_ok.mp h
    cases h
    refine .of_other (by simp [hf]) [.inputs, .outputs] (by simp) (fun list => ?_)
      (by simp [EntryList.isTemplate])
    cases list <;> rfl
  | property name =>
    rw [hf] at h
    obtain ⟨⟨_, _⟩, -, h⟩ := bind_eq_ok.mp h
    cases h
    refine .of_other (by simp [hf]) [.inputs] (by simp) (fun list => ?_)
      (by simp [EntryList.isTemplate])
    cases list <;> rfl
  | event name =>
    rw [hf] at h
    obtain ⟨⟨_, _⟩, -, h⟩ := bind_eq_ok.mp h
    cases h
    refine .of_other (by simp [hf]) [.outputs] (by simp) (fun list => ?_)
      (by simp [EntryList.isTemplate])
    cases list <;> rfl
  | reference name =>
    rw [hf] at h
    cases h
    refine .of_other (by simp [hf]) [.references] (by simp) (fun list => ?_)
      (by simp [EntryList.isTemplate])
    cases list <;> rfl
  | letVariable name =>
    have hl : isLet attr.name = true :=
      isPrefixOf_of_behind? ((behind?_of_ofName attr.name).2 name hf)
    rw [hf] at h
    obtain ⟨rfl, -⟩ := Prod.mk.inj (Except.ok.inj h)
    refine .of_other (by simp [hf]) [.vars] (by simp) (fun list => ?_)
      (by simp [hl, EntryList.isTemplate])
    cases list <;> rfl
  | plain =>
    rw [hf] at h
    obtain ⟨⟨binding, _⟩, -, h⟩ := bind_eq_ok.mp h
    cases binding with
    | none =>
      cases h
      refine .of_other (by simp [hf]) [.attributes] (by simp) (fun list => ?_)
        (by simp [EntryList.isTemplate])
      cases list <;> rfl
    | some binding =>
      cases h
      refine .of_other (by simp [hf]) [.inputs] (by simp) (fun list => ?_)
        (by simp [EntryList.isTemplate])
      cases list <;> rfl

-- ---------------------------------------------------------------------------
-- Tags
-- ---------------------------------------------------------------------------

def InOrder (a b : Span) : Prop := a.start.offset ≤ b.start.offset

/-- The entries are those of the attributes: every attribute that is not hollow has
one, every entry has an attribute, and the lists keep the order of the text. -/
structure Entries.Declare (placed : List PlacedAttribute) (entries : Entries) : Prop where
  kept : ∀ attr ∈ placed, attr.isHollow = false →
    ∃ list, attr.span ∈ entries.spansIn list ∧ Allows attr.name list
  only : ∀ list, ∀ span ∈ entries.spansIn list,
    ∃ attr ∈ placed, span = attr.span ∧ Allows attr.name list ∧ attr.isHollow = false
  ordered : ∀ list, (entries.spansIn list).Pairwise InOrder

theorem Entries.Declare.cons {placed : List PlacedAttribute} {part more : Entries}
    (hp : part.From attr.span (Allows attr.name) (attr.isHollow = false))
    (hm : more.Declare placed)
    (hlt : ∀ other ∈ placed, attr.span.start.offset < other.span.start.offset) :
    (part.append more).Declare (attr :: placed) := by
  constructor
  · refine List.forall_mem_cons.mpr ⟨fun hh => ?_, fun other ho hh => ?_⟩
    · obtain ⟨list, hne⟩ := hp.nonempty.mpr hh
      obtain ⟨span, hs⟩ := List.exists_mem_of_ne_nil _ hne
      obtain ⟨rfl, ha⟩ := hp.spans list span hs
      exact ⟨list, by simp [hs], ha⟩
    · obtain ⟨list, hs, ha⟩ := hm.kept other ho hh
      exact ⟨list, by simp [hs], ha⟩
  · intro list span hs
    rw [spansIn_append] at hs
    rcases List.mem_append.mp hs with hs | hs
    · obtain ⟨rfl, ha⟩ := hp.spans list span hs
      exact ⟨attr, .head _, rfl, ha, hp.nonempty.mp ⟨list, List.ne_nil_of_mem hs⟩⟩
    · obtain ⟨other, ho, rest⟩ := hm.only list span hs
      exact ⟨other, .tail _ ho, rest⟩
  · intro list
    rw [spansIn_append, List.pairwise_append]
    refine ⟨?_, hm.ordered list, ?_⟩
    · refine List.pairwise_of_forall_mem_list fun a ha b hb => ?_
      rw [(hp.spans list a ha).1, (hp.spans list b hb).1]
      exact Nat.le_refl _
    · intro a ha b hb
      obtain ⟨other, ho, rfl, -⟩ := hm.only list b hb
      rw [(hp.spans list a ha).1]
      exact Nat.le_of_lt (hlt other ho)

section
variable {pos : Nat} {attributes : List Attribute}

theorem Attribute.place_covers {attr : Attribute} (h : source.HasAt pos attr.written) :
    (attr.place source pos).span.start.offset = pos + attr.gap.length ∧
      source.textOf (attr.place source pos).span =
        attr.name ++ (attr.value.map Assignment.written).getD [] := by
  have hbody := h.of_append.2
  refine ⟨hbody.span_start _, ?_⟩
  have hstop : ((pos + attr.written.length : Nat) : Int) = (pos + attr.gap.length : Nat) +
      (attr.name ++ (attr.value.map Assignment.written).getD []).length := by
    rw [Attribute.written, List.length_append]
    omega
  have htext := hbody.textOf_span
  rw [← hstop] at htext
  exact htext

theorem placeAttributes_cover (h : source.HasAt pos (writtenAttributes attributes)) :
    List.Forall₂ (fun attr placed => placed.name = attr.name ∧ placed.value = attr.valueText.1 ∧
        source.textOf placed.span = attr.name ++ (attr.value.map Assignment.written).getD [])
      attributes (placeAttributes source pos attributes) := by
  induction attributes generalizing pos with
  | nil => exact .nil
  | cons first rest ih =>
    obtain ⟨hfirst, hrest⟩ := h.of_append
    exact .cons ⟨rfl, rfl, (Attribute.place_covers hfirst).2⟩ (ih hrest)

theorem placeAttributes_start (h : source.HasAt pos (writtenAttributes attributes)) :
    ∀ attr ∈ placeAttributes source pos attributes, pos ≤ attr.span.start.offset := by
  induction attributes generalizing pos with
  | nil => simp [placeAttributes]
  | cons first rest ih =>
    obtain ⟨hfirst, hrest⟩ := h.of_append
    refine List.forall_mem_cons.mpr ⟨?_, fun attr ha => ?_⟩
    · rw [(Attribute.place_covers hfirst).1]
      exact Nat.le_add_right _ _
    · have := ih hrest attr ha
      omega

theorem placeAttributes_increasing (hn : ∀ attr ∈ attributes, attr.name ≠ [])
    (h : source.HasAt pos (writtenAttributes attributes)) :
    (placeAttributes source pos attributes).Pairwise
      fun a b => a.span.start.offset < b.span.start.offset := by
  induction attributes generalizing pos with
  | nil => exact .nil
  | cons first rest ih =>
    obtain ⟨hname, hnames⟩ := List.forall_mem_cons.mp hn
    obtain ⟨hfirst, hrest⟩ := h.of_append
    refine .cons (fun other ho => ?_) (ih hnames hrest)
    have hstart := (Attribute.place_covers hfirst).1
    have hlater := placeAttributes_start hrest other ho
    have hlen := List.length_pos_iff.mpr hname
    rw [Attribute.written, List.length_append, List.length_append] at hlater
    omega

end

theorem collect_declare {placed : List PlacedAttribute} {entries : Entries}
    {problems : List Problem}
    (hlt : placed.Pairwise fun a b => a.span.start.offset < b.span.start.offset)
    (h : collect (attributeEntries source) placed = .ok (entries, problems)) :
    entries.Declare placed := by
  induction placed generalizing entries problems with
  | nil =>
    cases h
    exact ⟨by simp, by simp, by simp⟩
  | cons first rest ih =>
    simp only [collect, bind_eq_ok] at h
    obtain ⟨⟨part, ps⟩, hpart, ⟨more, others⟩, hmore, h⟩ := h
    cases h
    obtain ⟨hfirst, hrest⟩ := List.pairwise_cons.mp hlt
    exact .cons (attributeEntries_from hpart) (ih hrest hmore) hfirst

end TemplateTree.Markup
