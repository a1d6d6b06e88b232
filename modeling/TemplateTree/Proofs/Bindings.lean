import TemplateTree.Markup.Entries
import TemplateTree.Proofs.Accepted

/-!
# What attributes and texts bind

Which sources a text or an attribute hands to the expression parser, and that
reading it goes without a problem exactly if these are accepted. Reading stops
only at a source that is too long.
-/

namespace TemplateTree

open Text (Chars)
open Expression (bind_eq_ok bind_eq_error)

-- ---------------------------------------------------------------------------
-- Markers
-- ---------------------------------------------------------------------------

def markers (text : Chars) : List Chars := ((Segments.ofText text).sources 0).map Prod.fst

def MarkerAccepted (source : Chars) : Prop := Text.allBlank source = false ∧ Accepted source

theorem exists_parseMarkers_eq_ok (offset : Int) (sources : List (Chars × Nat)) :
    (∃ es, Binding.parseMarkers offset sources = .ok es) ↔
      ∀ s ∈ sources.map Prod.fst, MarkerAccepted s := by
  induction sources with
  | nil => simp [Binding.parseMarkers]
  | cons marker rest ih =>
    obtain ⟨source, start⟩ := marker
    rw [List.map_cons, List.forall_mem_cons, ← ih]
    unfold MarkerAccepted
    rw [← exists_parse_eq_ok source (offset + start)]
    cases hb : Text.allBlank source with
    | true => simp [Binding.parseMarkers, hb, bind, Except.bind, throw, throwThe,
        MonadExceptOf.throw]
    | false =>
      simp only [Binding.parseMarkers, hb, Bool.false_eq_true, ↓reduceIte, bind_eq_ok, true_and]
      constructor
      · rintro ⟨_, e, he, es, hes, -⟩
        exact ⟨⟨e, he⟩, es, hes⟩
      · rintro ⟨⟨e, he⟩, es, hes⟩
        exact ⟨_, e, he, es, hes, rfl⟩

theorem tooLong_of_parseMarkers {offset : Int} {sources : List (Chars × Nat)}
    (h : Binding.parseMarkers offset sources = .error .oversizedInteger) :
    ∃ s ∈ sources.map Prod.fst, TooLong s := by
  induction sources with
  | nil => cases h
  | cons marker rest ih =>
    obtain ⟨source, start⟩ := marker
    unfold Binding.parseMarkers at h
    split at h
    · cases h
    · rcases bind_eq_error.mp h with he | ⟨e, -, h⟩
      · exact ⟨source, .head _, tooLong_of_parse he⟩
      · rcases bind_eq_error.mp h with hr | ⟨es, -, h⟩
        · obtain ⟨s, hs, hl⟩ := ih hr
          exact ⟨s, .tail _ hs, hl⟩
        · cases h

theorem parseInterpolation_eq (text : Chars) (location : String) (offset : Int) :
    ∃ f : List Expr → Option Binding, Binding.parseInterpolation text location offset =
      (do let es ← Binding.parseMarkers offset ((Segments.ofText text).sources 0); .ok (f es)) := by
  simp only [Binding.parseInterpolation]
  split
  · rename_i hs
    refine ⟨fun _ => none, ?_⟩
    rw [hs]
    rfl
  · exact ⟨_, rfl⟩

theorem exists_parseInterpolation_eq_ok (text : Chars) (location : String) (offset : Int) :
    (∃ b, Binding.parseInterpolation text location offset = .ok b) ↔
      ∀ s ∈ markers text, MarkerAccepted s := by
  obtain ⟨f, hf⟩ := parseInterpolation_eq text location offset
  unfold markers
  rw [← exists_parseMarkers_eq_ok offset, hf]
  simp only [bind_eq_ok]
  constructor
  · rintro ⟨_, es, hes, -⟩
    exact ⟨es, hes⟩
  · rintro ⟨es, hes⟩
    exact ⟨_, es, hes, rfl⟩

theorem tooLong_of_parseInterpolation {text : Chars} {location : String} {offset : Int}
    (h : Binding.parseInterpolation text location offset = .error .oversizedInteger) :
    ∃ s ∈ markers text, TooLong s := by
  obtain ⟨f, hf⟩ := parseInterpolation_eq text location offset
  rw [hf] at h
  rcases bind_eq_error.mp h with he | ⟨es, -, h⟩
  · exact tooLong_of_parseMarkers he
  · cases h

theorem cutAt?_opening_of_allBlank {text : Chars} (h : Text.allBlank text = true) :
    Text.cutAt? Segments.opening text = none := by
  by_contra hn
  obtain ⟨⟨before, behind⟩, hc⟩ := Option.ne_none_iff_exists'.mp hn
  rw [Text.cutAt?_eq_some hc, Text.allBlank, List.all_eq_true] at h
  have hb := h '\x7b' (by simp [Segments.opening])
  revert hb
  decide

theorem markers_of_allBlank {text : Chars} (h : Text.allBlank text = true) :
    markers text = [] := by
  unfold markers Segments.ofText
  split
  · rfl
  · rename_i hc
    rw [cutAt?_opening_of_allBlank h] at hc
    cases hc

theorem sources_of_allBlank {text : Chars} (h : Text.allBlank text = true) :
    (Segments.ofText text).sources 0 = [] :=
  List.map_eq_nil_iff.mp (markers_of_allBlank h)

end TemplateTree

namespace TemplateTree.Markup

open Text (Chars)
open Expression (bind_eq_ok bind_eq_error)

variable {source : Source}

-- ---------------------------------------------------------------------------
-- Reading without problems
-- ---------------------------------------------------------------------------

def Passes {α : Type} (check : Check (α × List Problem)) : Prop := ∃ a, check = .ok (a, [])

theorem passes_bindAt (source : Source) (text : Chars) (offset : Nat) :
    Passes (bindAt source text offset) ↔ Accepted text := by
  rw [← exists_parse_eq_ok text offset]
  unfold Passes bindAt Binding.parse
  cases Expr.parse text offset with
  | ok e => simp [bind, Except.bind, pure, Except.pure]
  | error failure => cases failure <;> simp [bind, Except.bind]

theorem tooLong_of_bindAt {text : Chars} {offset : Nat} {o : Oversized}
    (h : bindAt source text offset = .error o) : TooLong text := by
  unfold bindAt Binding.parse at h
  cases he : Expr.parse text offset with
  | ok e =>
    rw [he] at h
    cases h
  | error failure =>
    rw [he] at h
    cases failure with
    | binding error => cases h
    | oversizedInteger => exact tooLong_of_parse he

theorem passes_interpolateAt (source : Source) (text : Chars) (offset : Nat) :
    Passes (interpolateAt source text offset) ↔ ∀ s ∈ markers text, MarkerAccepted s := by
  rw [← exists_parseInterpolation_eq_ok text (source.locationName offset) offset]
  unfold Passes interpolateAt
  cases Binding.parseInterpolation text (source.locationName offset) offset with
  | ok b => simp
  | error failure => cases failure <;> simp

theorem tooLong_of_interpolateAt {text : Chars} {offset : Nat} {o : Oversized}
    (h : interpolateAt source text offset = .error o) : ∃ s ∈ markers text, TooLong s := by
  unfold interpolateAt at h
  split at h
  · cases h
  · cases h
  · rename_i he
    exact tooLong_of_parseInterpolation he

theorem passes_collect {α : Type} {f : α → Check (Entries × List Problem)} {xs : List α} :
    Passes (collect f xs) ↔ ∀ x ∈ xs, Passes (f x) := by
  induction xs with
  | nil => simp [Passes, collect]
  | cons x xs ih =>
    rw [List.forall_mem_cons, ← ih]
    simp only [Passes, collect, bind_eq_ok]
    constructor
    · rintro ⟨_, ⟨entries, problems⟩, hx, ⟨more, others⟩, hxs, h⟩
      obtain ⟨-, hp⟩ := Prod.mk.inj (Except.ok.inj h)
      obtain ⟨rfl, rfl⟩ := List.append_eq_nil_iff.mp hp
      exact ⟨⟨entries, hx⟩, more, hxs⟩
    · rintro ⟨⟨entries, hx⟩, more, hxs⟩
      exact ⟨_, _, hx, _, hxs, rfl⟩

theorem collect_eq_error {α : Type} {f : α → Check (Entries × List Problem)} {xs : List α}
    {o : Oversized} (h : collect f xs = .error o) : ∃ x ∈ xs, f x = .error o := by
  induction xs with
  | nil => cases h
  | cons x xs ih =>
    rcases bind_eq_error.mp h with hx | ⟨_, -, h⟩
    · exact ⟨x, .head _, hx⟩
    · rcases bind_eq_error.mp h with hxs | ⟨_, -, h⟩
      · obtain ⟨y, hy, he⟩ := ih hxs
        exact ⟨y, .tail _ hy, he⟩
      · cases h

theorem collect_vars {α : Type} {f : α → Check (Entries × List Problem)} {xs : List α}
    {P : α → Prop} {entries : Entries} {problems : List Problem}
    (hf : ∀ x ∈ xs, ∀ {e ps}, f x = .ok (e, ps) → (e.vars = [] ↔ P x))
    (h : collect f xs = .ok (entries, problems)) : entries.vars = [] ↔ ∀ x ∈ xs, P x := by
  induction xs generalizing entries problems with
  | nil =>
    cases h
    simp
  | cons x xs ih =>
    simp only [collect, bind_eq_ok] at h
    obtain ⟨⟨e, ps⟩, hx, ⟨more, others⟩, hxs, h⟩ := h
    cases h
    rw [List.forall_mem_cons, ← ih (fun y hy => hf y (.tail _ hy)) hxs, ← hf x (.head _) hx]
    exact List.append_eq_nil_iff

section
variable {α β : Type} {check : Check (α × List Problem)} {g : α → β}
variable {wrap : α × List Problem → Check (β × List Problem)}

theorem passes_bind (hw : ∀ a problems, wrap (a, problems) = .ok (g a, problems)) :
    Passes (check >>= wrap) ↔ Passes check := by
  simp only [Passes, bind_eq_ok]
  constructor
  · rintro ⟨_, ⟨a, problems⟩, hc, h⟩
    rw [hw] at h
    cases h
    exact ⟨a, hc⟩
  · rintro ⟨a, hc⟩
    exact ⟨g a, _, hc, hw a []⟩

theorem error_of_bind {o : Oversized}
    (hw : ∀ a problems, wrap (a, problems) = .ok (g a, problems))
    (h : check >>= wrap = .error o) : check = .error o := by
  rcases bind_eq_error.mp h with hc | ⟨⟨a, problems⟩, -, h⟩
  · exact hc
  · rw [hw] at h
    cases h

end

-- ---------------------------------------------------------------------------
-- Clauses
-- ---------------------------------------------------------------------------

def Clause.sources (text : Chars) : Clause → List Chars
  | .forEach _ _ expression _ | .keyed _ expression _ => [expression]
  | .plain => [text]
  | .assign _ _ | .renamed _ _ => []

/-- The expression between two semicolons; blank stretches have none. -/
def runSources (first : Bool) (run : Chars) : List Chars :=
  if (Text.trim run).isEmpty then []
  else (Clause.ofText first (Text.trim run)).sources (Text.trim run)

def directiveSources (value : Chars) : List Chars :=
  (numbered 0 (clauseRuns 0 value)).flatMap fun (index, _, run) => runSources (index == 0) run

theorem clauseEntries_eq (source : Source) (directive : Chars) (attr : PlacedAttribute)
    (index start : Nat) (run : Chars) :
    (runSources (index == 0) run = [] ∧ ∃ entries : Entries, entries.vars = [] ∧
      clauseEntries source directive attr (index, start, run) = .ok (entries, [])) ∨
    ∃ s, runSources (index == 0) run = [s] ∧
      ∃ (offset : Nat) (g : Binding → Entries), (∀ b, (g b).vars = []) ∧
        clauseEntries source directive attr (index, start, run) =
          (do let (b, problems) ← bindAt source s offset; .ok (g b, problems)) := by
  unfold clauseEntries runSources
  dsimp only
  generalize attr.valueStart + start + (run.length - (Text.trimLeft run).length) = offset
  split
  · exact .inl ⟨rfl, {}, rfl, rfl⟩
  · cases Clause.ofText (index == 0) (Text.trim run) with
    | assign name value => exact .inl ⟨rfl, _, rfl, rfl⟩
    | renamed key name => exact .inl ⟨rfl, _, rfl, rfl⟩
    | forEach name key expression shift =>
      refine .inr ⟨expression, rfl, offset + shift, fun b =>
        { templateVariables := [⟨name, "$implicit".toList, attr.span⟩]
          templateAttrs := [⟨directiveInput directive key, .property, b, attr.span, none⟩] },
        fun _ => rfl, ?_⟩
      dsimp only
      cases bindAt source expression (offset + shift) <;> rfl
    | keyed key expression shift =>
      refine .inr ⟨expression, rfl, offset + shift, fun b =>
        { templateAttrs := [⟨directiveInput directive key, .property, b, attr.span, none⟩] },
        fun _ => rfl, ?_⟩
      dsimp only
      cases bindAt source expression (offset + shift) <;> rfl
    | plain =>
      refine .inr ⟨Text.trim run, rfl, offset, fun b =>
        { templateAttrs := [⟨directive, .property, b, attr.span, none⟩] }, fun _ => rfl, ?_⟩
      dsimp only [Nat.add_zero]
      cases bindAt source (Text.trim run) offset <;> rfl

section
variable {directive : Chars} {attr : PlacedAttribute} {index start : Nat} {run : Chars}

theorem passes_clauseEntries :
    Passes (clauseEntries source directive attr (index, start, run)) ↔
      ∀ s ∈ runSources (index == 0) run, Accepted s := by
  rcases clauseEntries_eq source directive attr index start run with
    ⟨hs, entries, -, he⟩ | ⟨s, hs, offset, g, -, he⟩
  · simp [hs, he, Passes]
  · rw [hs, he, List.forall_mem_singleton]
    exact (passes_bind (by intros; rfl)).trans (passes_bindAt _ _ _)

theorem tooLong_of_clauseEntries {o : Oversized}
    (h : clauseEntries source directive attr (index, start, run) = .error o) :
    ∃ s ∈ runSources (index == 0) run, TooLong s := by
  rcases clauseEntries_eq source directive attr index start run with
    ⟨hs, entries, -, he⟩ | ⟨s, hs, offset, g, -, he⟩
  · rw [he] at h
    cases h
  · rw [he] at h
    exact ⟨s, by simp [hs], tooLong_of_bindAt (error_of_bind (by intros; rfl) h)⟩

theorem clauseEntries_vars {entries : Entries} {problems : List Problem}
    (h : clauseEntries source directive attr (index, start, run) = .ok (entries, problems)) :
    entries.vars = [] := by
  rcases clauseEntries_eq source directive attr index start run with
    ⟨-, _, hv, he⟩ | ⟨s, -, offset, g, hv, he⟩
  · rw [he] at h
    cases h
    exact hv
  · rw [he] at h
    obtain ⟨⟨b, problems⟩, -, h⟩ := bind_eq_ok.mp h
    cases h
    exact hv b

theorem mem_of_mem_numbered {α : Type} {xs : List α} {n i : Nat} {x : α}
    (h : (i, x) ∈ numbered n xs) : x ∈ xs := by
  induction xs generalizing n with
  | nil => cases h
  | cons y ys ih =>
    rcases List.mem_cons.mp h with h | h
    · cases h
      exact .head _
    · exact .tail _ (ih h)

theorem mem_of_mem_clauseRuns {text : Chars} {pos : Nat} (h : (start, run) ∈ clauseRuns pos text) :
    ∀ c ∈ run, c ∈ text := by
  induction text generalizing pos start run with
  | nil => cases h
  | cons d rest ih =>
    unfold clauseRuns at h
    split at h
    · exact fun c hc => .tail _ (ih h c hc)
    · split at h
      · rename_i heq
        split at h
        · rcases List.mem_cons.mp h with h | h
          · cases h
            intro c hc
            rcases List.mem_cons.mp hc with rfl | hc
            · exact .head _
            · exact .tail _ (ih (by rw [heq]; exact .head _) c hc)
          · exact fun c hc => .tail _ (ih (by rw [heq]; exact .tail _ h) c hc)
        · rcases List.mem_cons.mp h with h | h
          · cases h
            simp
          · exact fun c hc => .tail _ (ih (heq ▸ h) c hc)
      · rw [List.mem_singleton] at h
        cases h
        simp

theorem trim_of_allBlank {text : Chars} (h : Text.allBlank text = true) : Text.trim text = [] := by
  have hleft : Text.trimLeft text = [] := by
    simpa [Text.trimLeft, Text.allBlank, List.dropWhile_eq_nil_iff] using h
  simp [Text.trim, hleft, Text.trimRight]

theorem directiveSources_of_allBlank {value : Chars} (h : Text.allBlank value = true) :
    directiveSources value = [] := by
  simp only [directiveSources, List.flatMap_eq_nil_iff]
  rintro ⟨index, start, run⟩ hr
  have hrun : Text.allBlank run = true := by
    rw [Text.allBlank, List.all_eq_true] at h ⊢
    exact fun c hc => h c (mem_of_mem_clauseRuns (mem_of_mem_numbered hr) c hc)
  simp [runSources, trim_of_allBlank hrun]

theorem passes_directiveEntries : Passes (directiveEntries source directive attr) ↔
    ∀ s ∈ directiveSources attr.value, Accepted s := by
  unfold directiveEntries
  split
  · rename_i hb
    rw [directiveSources_of_allBlank hb]
    refine iff_of_true ?_ (by simp)
    exact (passes_bind (by intros; rfl)).mpr ((passes_bindAt _ _ _).mpr (accepted_of_allBlank (by rfl)))
  · rw [passes_collect]
    simp only [directiveSources, List.forall_mem_flatMap]
    exact forall₂_congr fun ⟨index, start, run⟩ _ => passes_clauseEntries

theorem tooLong_of_directiveEntries {o : Oversized}
    (h : directiveEntries source directive attr = .error o) :
    ∃ s ∈ directiveSources attr.value, TooLong s := by
  unfold directiveEntries at h
  split at h
  · have hb := error_of_bind (by intros; rfl) h
    cases hb
  · obtain ⟨⟨index, start, run⟩, hr, he⟩ := collect_eq_error h
    obtain ⟨s, hs, hl⟩ := tooLong_of_clauseEntries he
    exact ⟨s, List.mem_flatMap.mpr ⟨_, hr, hs⟩, hl⟩

theorem directiveEntries_vars {entries : Entries} {problems : List Problem}
    (h : directiveEntries source directive attr = .ok (entries, problems)) :
    entries.vars = [] := by
  unfold directiveEntries at h
  split at h
  · obtain ⟨⟨b, _⟩, -, h⟩ := bind_eq_ok.mp h
    cases h
    rfl
  · refine (collect_vars (P := fun _ => True) ?_ h).mpr fun _ _ => trivial
    rintro ⟨index, start, run⟩ - e ps he
    exact iff_of_true (clauseEntries_vars he) trivial

end

-- ---------------------------------------------------------------------------
-- Attributes
-- ---------------------------------------------------------------------------

def bindingSources (name value : Chars) : List Chars :=
  match Form.ofName name with
  | .twoWay _ | .property _ | .event _ => [value]
  | .directive _ => directiveSources value
  | .reference _ | .letVariable _ | .plain => []

/-- The markers of an attribute: only a plain value has any. -/
def markerSources (name value : Chars) : List Chars :=
  match Form.ofName name with
  | .plain => markers value
  | _ => []

def DeclaresVariable (name : Chars) : Prop := ∃ v, Form.ofName name = .letVariable v

section
variable {attr : PlacedAttribute}

theorem passes_attributeEntries : Passes (attributeEntries source attr) ↔
    (∀ s ∈ bindingSources attr.name attr.value, Accepted s) ∧
      ∀ s ∈ markerSources attr.name attr.value, MarkerAccepted s := by
  unfold attributeEntries bindingSources markerSources
  cases Form.ofName attr.name with
  | twoWay name =>
    refine Iff.trans ?_ (by simp : Accepted attr.value ↔ _)
    rw [← passes_bindAt source attr.value attr.valueStart]
    constructor
    · rintro ⟨_, h⟩
      obtain ⟨⟨value, problems⟩, hv, h⟩ := bind_eq_ok.mp h
      obtain ⟨⟨handler, others⟩, -, h⟩ := bind_eq_ok.mp h
      obtain ⟨-, hp⟩ := Prod.mk.inj (Except.ok.inj h)
      obtain ⟨rfl, -⟩ := List.append_eq_nil_iff.mp hp
      exact ⟨value, hv⟩
    · rintro ⟨value, hv⟩
      exact ⟨_, bind_eq_ok.mpr ⟨_, hv, bind_eq_ok.mpr ⟨_, hv, rfl⟩⟩⟩
  | property name | event name =>
    refine Iff.trans ?_ (by simp : Accepted attr.value ↔ _)
    exact (passes_bind (by intros; rfl)).trans (passes_bindAt _ _ _)
  | directive name =>
    exact passes_directiveEntries.trans (by simp)
  | reference name | letVariable name => exact iff_of_true ⟨_, rfl⟩ (by simp)
  | plain =>
    refine Iff.trans ?_ (by simp : (∀ s ∈ markers attr.value, MarkerAccepted s) ↔ _)
    rw [← passes_interpolateAt source attr.value attr.valueStart]
    constructor
    · rintro ⟨_, h⟩
      obtain ⟨⟨binding, problems⟩, hi, h⟩ := bind_eq_ok.mp h
      cases binding <;> cases h <;> exact ⟨_, hi⟩
    · rintro ⟨binding, hi⟩
      cases binding with
      | none => exact ⟨_, bind_eq_ok.mpr ⟨_, hi, rfl⟩⟩
      | some binding => exact ⟨_, bind_eq_ok.mpr ⟨_, hi, rfl⟩⟩

theorem tooLong_of_attributeEntries {o : Oversized} (h : attributeEntries source attr = .error o) :
    (∃ s ∈ bindingSources attr.name attr.value, TooLong s) ∨
      ∃ s ∈ markerSources attr.name attr.value, TooLong s := by
  unfold attributeEntries at h
  unfold bindingSources markerSources
  cases hf : Form.ofName attr.name with
  | twoWay name =>
    rw [hf] at h
    rcases bind_eq_error.mp h with he | ⟨_, -, h⟩
    · exact .inl ⟨_, .head _, tooLong_of_bindAt he⟩
    · rcases bind_eq_error.mp h with he | ⟨_, -, h⟩
      · exact .inl ⟨_, .head _, tooLong_of_bindAt he⟩
      · cases h
  | property name | event name =>
    rw [hf] at h
    exact .inl ⟨_, .head _, tooLong_of_bindAt (error_of_bind (by intros; rfl) h)⟩
  | directive name =>
    rw [hf] at h
    exact .inl (tooLong_of_directiveEntries h)
  | reference name | letVariable name =>
    rw [hf] at h
    cases h
  | plain =>
    rw [hf] at h
    rcases bind_eq_error.mp h with he | ⟨⟨binding, problems⟩, -, h⟩
    · exact .inr (tooLong_of_interpolateAt he)
    · cases binding <;> cases h

theorem attributeEntries_vars {entries : Entries} {problems : List Problem}
    (h : attributeEntries source attr = .ok (entries, problems)) :
    entries.vars = [] ↔ ¬ DeclaresVariable attr.name := by
  unfold attributeEntries at h
  unfold DeclaresVariable
  cases hf : Form.ofName attr.name with
  | twoWay name =>
    rw [hf] at h
    obtain ⟨_, -, h⟩ := bind_eq_ok.mp h
    obtain ⟨_, -, h⟩ := bind_eq_ok.mp h
    cases h
    simp
  | property name | event name =>
    rw [hf] at h
    obtain ⟨_, -, h⟩ := bind_eq_ok.mp h
    cases h
    simp
  | directive name =>
    rw [hf] at h
    simp [directiveEntries_vars h]
  | reference name =>
    rw [hf] at h
    cases h
    simp
  | letVariable name =>
    rw [hf] at h
    obtain ⟨rfl, -⟩ := Prod.mk.inj (Except.ok.inj h)
    exact iff_of_false (List.cons_ne_nil _ _) fun hn => hn ⟨name, rfl⟩
  | plain =>
    rw [hf] at h
    obtain ⟨⟨binding, problems⟩, -, h⟩ := bind_eq_ok.mp h
    cases binding <;> cases h <;> simp

end

-- ---------------------------------------------------------------------------
-- Tags and pieces
-- ---------------------------------------------------------------------------

def StartTag.bindings (tag : StartTag) : List Chars :=
  tag.attributes.flatMap fun attr => bindingSources attr.name attr.valueText.1

def StartTag.markers (tag : StartTag) : List Chars :=
  tag.attributes.flatMap fun attr => markerSources attr.name attr.valueText.1

def StartTag.DeclaresVariables (tag : StartTag) : Prop :=
  ∃ attr ∈ tag.attributes, DeclaresVariable attr.name

def Piece.bindings : Piece → List Chars
  | .construct (.startTag tag) => tag.bindings
  | _ => []

def Piece.markers : Piece → List Chars
  | .text value => TemplateTree.markers value
  | .construct (.startTag tag) => tag.markers
  | _ => []

theorem forall_mem_placeAttributes {P : Chars → Chars → Prop} {pos : Nat}
    {attributes : List Attribute} :
    (∀ attr ∈ placeAttributes source pos attributes, P attr.name attr.value) ↔
      ∀ attr ∈ attributes, P attr.name attr.valueText.1 := by
  induction attributes generalizing pos with
  | nil => simp [placeAttributes]
  | cons attr rest ih => simp [placeAttributes, Attribute.place, ih]

section
variable {tag : StartTag} {pos : Nat}

theorem passes_tagEntries : Passes (tagEntries source pos tag.attributes) ↔
    (∀ s ∈ tag.bindings, Accepted s) ∧ ∀ s ∈ tag.markers, MarkerAccepted s := by
  simp only [tagEntries, passes_collect, passes_attributeEntries, StartTag.bindings,
    StartTag.markers, List.forall_mem_flatMap]
  rw [forall_mem_placeAttributes (P := fun name value =>
    (∀ s ∈ bindingSources name value, Accepted s) ∧ ∀ s ∈ markerSources name value,
      MarkerAccepted s)]
  exact forall₂_and

theorem tooLong_of_tagEntries {o : Oversized} (h : tagEntries source pos tag.attributes = .error o) :
    ∃ s ∈ tag.bindings ++ tag.markers, TooLong s := by
  obtain ⟨attr, ha, he⟩ := collect_eq_error h
  by_contra hn
  -- Every attribute of the tag is read, wherever it is placed.
  refine forall_mem_placeAttributes (P := fun name value =>
    ¬ ((∃ s ∈ bindingSources name value, TooLong s) ∨ ∃ s ∈ markerSources name value, TooLong s))
    |>.mpr ?_ attr ha (tooLong_of_attributeEntries he)
  rintro attr ha (⟨s, hs, hl⟩ | ⟨s, hs, hl⟩)
  · exact hn ⟨s, List.mem_append_left _ (List.mem_flatMap.mpr ⟨attr, ha, hs⟩), hl⟩
  · exact hn ⟨s, List.mem_append_right _ (List.mem_flatMap.mpr ⟨attr, ha, hs⟩), hl⟩

theorem tagEntries_vars {entries : Entries} {problems : List Problem}
    (h : tagEntries source pos tag.attributes = .ok (entries, problems)) :
    entries.vars = [] ↔ ¬ tag.DeclaresVariables := by
  rw [collect_vars (P := fun attr => ¬ DeclaresVariable attr.name)
    (fun _ _ _ _ => attributeEntries_vars) h,
    forall_mem_placeAttributes (P := fun name _ => ¬ DeclaresVariable name)]
  simp [StartTag.DeclaresVariables]

end

end TemplateTree.Markup
