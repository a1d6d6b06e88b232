import TemplateTree.Proofs.Bindings
import TemplateTree.Proofs.Nesting
import TemplateTree.Proofs.Steps

/-!
# Which templates are accepted

A template is accepted exactly if its tags are nested, no comment is left open,
variables stand on templates only, and everything it binds is accepted. What the
scan has found so far is carried by `State.Ready`.
-/

namespace TemplateTree.Markup

open Text (Chars)
open Expression (bind_eq_ok bind_eq_error)

variable {source : Source} {options : ParseOptions} {pos : Nat} {state : State}
variable {brackets : List Bracket}

-- ---------------------------------------------------------------------------
-- The criterion
-- ---------------------------------------------------------------------------

/-- What a piece opens or closes. Leaf elements do neither. -/
def Piece.bracket? : Piece → Option Bracket
  | .construct (.startTag tag) => if tag.isLeaf then none else some (.opening tag.name)
  | .construct (.endTag name _) => some (.closing name)
  | _ => none

structure Acceptable (pieces : List Piece) : Prop where
  nested : Nested (pieces.filterMap Piece.bracket?)
  comments : ∀ text, .text text ∈ pieces → ¬ commentOpening <:+: text
  declarations : ∀ tag, .construct (.startTag tag) ∈ pieces → tag.DeclaresVariables →
    tag.name = templateTag
  bindings : ∀ s ∈ pieces.flatMap Piece.bindings, Text.allBlank s = true ∨ Accepted s
  markers : ∀ s ∈ pieces.flatMap Piece.markers, Text.allBlank s = false ∧ Accepted s

structure Piece.Valid (piece : Piece) : Prop where
  comments : ∀ text, piece = .text text → ¬ commentOpening <:+: text
  declarations : ∀ tag, piece = .construct (.startTag tag) → tag.DeclaresVariables →
    tag.name = templateTag
  bindings : ∀ s ∈ piece.bindings, Accepted s
  markers : ∀ s ∈ piece.markers, MarkerAccepted s

theorem contains_iff_infix {pattern text : Chars} :
    Text.contains pattern text = true ↔ pattern <:+: text := by
  unfold Text.contains
  induction text with
  | nil => cases pattern <;> simp [Text.cutAt?]
  | cons c rest ih =>
    rw [List.infix_cons_iff, ← ih, ← List.isPrefixOf_iff_prefix]
    cases hp : pattern.isPrefixOf (c :: rest) <;> simp [Text.cutAt?, hp]

theorem acceptable_iff {pieces : List Piece} :
    Acceptable pieces ↔ Nested (pieces.filterMap Piece.bracket?) ∧ ∀ p ∈ pieces, p.Valid := by
  constructor
  · intro h
    refine ⟨h.nested, fun p hp => ⟨?_, ?_, ?_, ?_⟩⟩
    · rintro text rfl
      exact h.comments text hp
    · rintro tag rfl
      exact h.declarations tag hp
    · intro s hs
      rcases h.bindings s (List.mem_flatMap.mpr ⟨p, hp, hs⟩) with hb | ha
      · exact accepted_of_allBlank hb
      · exact ha
    · exact fun s hs => h.markers s (List.mem_flatMap.mpr ⟨p, hp, hs⟩)
  · rintro ⟨hn, hv⟩
    refine ⟨hn, fun text hp => (hv _ hp).comments text rfl,
      fun tag hp => (hv _ hp).declarations tag rfl, fun s hs => ?_, fun s hs => ?_⟩
    · obtain ⟨p, hp, hs⟩ := List.mem_flatMap.mp hs
      exact .inr ((hv p hp).bindings s hs)
    · obtain ⟨p, hp, hs⟩ := List.mem_flatMap.mp hs
      exact (hv p hp).markers s hs

-- ---------------------------------------------------------------------------
-- Ready states
-- ---------------------------------------------------------------------------

def OpenElement.WellPlaced (element : OpenElement) : Prop :=
  element.entries.vars = [] ∨ element.name = templateTag

/-- Nothing is wrong so far, and the tags to come close everything. -/
structure State.Ready (state : State) (brackets : List Bracket) : Prop where
  problems : state.problems = []
  placed : ∀ element ∈ state.stack, element.WellPlaced
  closes : Closes (state.stack.map OpenElement.name) brackets

theorem finish_problems {element : OpenElement} {closing : Option Span} :
    (element.finish source closing).2 = [] ↔ element.WellPlaced := by
  unfold OpenElement.finish OpenElement.WellPlaced
  by_cases hn : element.name = templateTag
  · simp [hn]
  · cases hv : element.entries.vars <;> simp [hn, hv] <;> split <;> simp

theorem ready_append {node : Node} : (state.append node).Ready brackets ↔ state.Ready brackets := by
  unfold State.append
  split
  · exact ⟨fun h => ⟨h.problems, h.placed, h.closes⟩, fun h => ⟨h.problems, h.placed, h.closes⟩⟩
  · rename_i top rest hs
    have hplaced : (∀ e ∈ { top with children := top.children ++ [node] } :: rest, e.WellPlaced) ↔
        ∀ e ∈ state.stack, e.WellPlaced := by
      rw [hs, List.forall_mem_cons, List.forall_mem_cons]
      rfl
    have hnames : ({ top with children := top.children ++ [node] } :: rest).map OpenElement.name =
        state.stack.map OpenElement.name := by
      rw [hs]
      rfl
    exact ⟨fun h => ⟨h.problems, hplaced.mp h.placed, hnames ▸ h.closes⟩,
      fun h => ⟨h.problems, hplaced.mpr h.placed, hnames ▸ h.closes⟩⟩

theorem ready_report {problems : List Problem} :
    (state.report problems).Ready brackets ↔ state.Ready brackets ∧ problems = [] := by
  constructor
  · intro h
    obtain ⟨hs, hp⟩ := List.append_eq_nil_iff.mp h.problems
    exact ⟨⟨hs, h.placed, h.closes⟩, hp⟩
  · rintro ⟨h, rfl⟩
    exact ⟨List.append_eq_nil_iff.mpr ⟨h.problems, rfl⟩, h.placed, h.closes⟩

-- ---------------------------------------------------------------------------
-- Steps
-- ---------------------------------------------------------------------------

theorem valid_text {text : Chars} : (Piece.text text).Valid ↔
    Text.contains commentOpening text = false ∧ ∀ s ∈ markers text, MarkerAccepted s := by
  rw [← Bool.not_eq_true, contains_iff_infix]
  constructor
  · exact fun h => ⟨h.comments text rfl, h.markers⟩
  · rintro ⟨hc, hm⟩
    refine ⟨?_, ?_, by simp [Piece.bindings], hm⟩
    · rintro _ ⟨⟩
      exact hc
    · rintro _ ⟨⟩

theorem valid_startTag (source : Source) (pos : Nat) {tag : StartTag} : (Piece.construct (.startTag tag)).Valid ↔
    (tag.DeclaresVariables → tag.name = templateTag) ∧
      Passes (tagEntries source pos tag.attributes) := by
  rw [passes_tagEntries]
  constructor
  · exact fun h => ⟨h.declarations tag rfl, h.bindings, h.markers⟩
  · rintro ⟨hv, hb, hm⟩
    refine ⟨?_, ?_, hb, hm⟩
    · rintro _ ⟨⟩
    · rintro _ ⟨⟩
      exact hv

theorem addText_ready {text : Chars} :
    (∃ mid, state.addText source options pos text = .ok mid ∧ mid.Ready brackets) ↔
      state.Ready brackets ∧ (Piece.text text).Valid := by
  rw [valid_text]
  constructor
  · rintro ⟨mid, h, hr⟩
    rcases addText_cases h with ⟨-, rfl⟩ | ⟨hc, -, hb, rfl⟩ | ⟨hc, binding, problems, hi, rfl⟩
    · exact absurd (ready_report.mp hr).2 (List.cons_ne_nil _ _)
    · exact ⟨hr, hc, by simp [markers_of_allBlank hb]⟩
    · obtain ⟨hs, rfl⟩ := ready_report.mp (ready_append.mp hr)
      exact ⟨hs, hc, (passes_interpolateAt source text pos).mp ⟨binding, hi⟩⟩
  · rintro ⟨hr, hc, hm⟩
    obtain ⟨binding, hi⟩ := (passes_interpolateAt source text pos).mpr hm
    unfold State.addText
    rw [if_neg (by simp [hc])]
    split
    · exact ⟨state, rfl, hr⟩
    · simp only [hi, bind_eq_ok]
      cases binding with
      | none => exact ⟨_, ⟨_, rfl, rfl⟩, ready_append.mpr (ready_report.mpr ⟨hr, rfl⟩)⟩
      | some binding => exact ⟨_, ⟨_, rfl, rfl⟩, ready_append.mpr (ready_report.mpr ⟨hr, rfl⟩)⟩

theorem openElement_of_passes {tag : StartTag} {entries : Entries}
    (he : tagEntries source (pos + 1 + tag.name.length) tag.attributes = .ok (entries, [])) :
    state.openElement source pos tag = .ok (if tag.isLeaf then
        ((state.report []).report ((tag.element source pos entries).finish source none).2).append
          ((tag.element source pos entries).finish source none).1
      else
        { state.report [] with stack := tag.element source pos entries :: state.stack }) := by
  unfold State.openElement
  rw [he]
  by_cases hl : tag.isLeaf = true
  · rw [if_pos hl]
    exact if_pos hl
  · rw [if_neg hl]
    exact if_neg hl

theorem wellPlaced_element {tag : StartTag} {entries : Entries} {problems : List Problem}
    (he : tagEntries source (pos + 1 + tag.name.length) tag.attributes = .ok (entries, problems)) :
    (tag.element source pos entries).WellPlaced ↔
      (tag.DeclaresVariables → tag.name = templateTag) := by
  exact (or_congr_left (tagEntries_vars he)).trans imp_iff_not_or.symm

theorem openElement_ready {tag : StartTag} :
    (∃ mid, state.openElement source pos tag = .ok mid ∧ mid.Ready brackets) ↔
      state.Ready ((Piece.construct (.startTag tag)).bracket?.toList ++ brackets) ∧
        (Piece.construct (.startTag tag)).Valid := by
  rw [valid_startTag source (pos + 1 + tag.name.length)]
  simp only [Piece.bracket?]
  constructor
  · rintro ⟨mid, h, hr⟩
    obtain ⟨entries, problems, he, ⟨hl, rfl⟩ | ⟨hl, rfl⟩⟩ := openElement_cases h
    · obtain ⟨hr, hf⟩ := ready_report.mp (ready_append.mp hr)
      obtain ⟨hs, rfl⟩ := ready_report.mp hr
      rw [if_pos hl]
      exact ⟨hs, (wellPlaced_element he).mp (finish_problems.mp hf), entries, he⟩
    · obtain ⟨hs, rfl⟩ := List.append_eq_nil_iff.mp hr.problems
      obtain ⟨hp, hps⟩ := List.forall_mem_cons.mp hr.placed
      rw [if_neg (by simp [hl])]
      exact ⟨⟨hs, hps, hr.closes⟩, (wellPlaced_element he).mp hp, entries, he⟩
  · rintro ⟨hs, hv, entries, he⟩
    refine ⟨_, openElement_of_passes he, ?_⟩
    split
    · rename_i hl
      rw [if_pos hl] at hs
      refine ready_append.mpr (ready_report.mpr ⟨ready_report.mpr ⟨hs, rfl⟩, ?_⟩)
      exact finish_problems.mpr ((wellPlaced_element he).mpr hv)
    · rename_i hl
      rw [if_neg hl] at hs
      refine ⟨(ready_report.mpr ⟨hs, rfl⟩).problems, ?_, hs.closes⟩
      exact List.forall_mem_cons.mpr ⟨(wellPlaced_element he).mpr hv, hs.placed⟩

theorem closeElement_ready {name tail : Chars} {closing : Span} :
    (state.closeElement source name closing).Ready brackets ↔
      state.Ready ((Piece.construct (.endTag name tail)).bracket?.toList ++ brackets) := by
  show _ ↔ state.Ready (.closing name :: brackets)
  rcases closeElement_cases state source name closing with
    ⟨top, rest, hs, hn, he⟩ | ⟨hn, he⟩
  · rw [he, ready_append, ready_report, finish_problems]
    constructor
    · rintro ⟨hr, ht⟩
      refine ⟨hr.problems, ?_, ?_⟩
      · rw [hs]
        exact List.forall_mem_cons.mpr ⟨ht, hr.placed⟩
      · rw [hs]
        exact ⟨hn, hr.closes⟩
    · rintro ⟨hp, hw, hc⟩
      rw [hs] at hw hc
      obtain ⟨ht, hw⟩ := List.forall_mem_cons.mp hw
      exact ⟨⟨hp, hw, hc.2⟩, ht⟩
  · rw [he, ready_report]
    refine iff_of_false (by simp) ?_
    rintro ⟨-, -, hc⟩
    cases hs : state.stack with
    | nil =>
      rw [hs] at hc
      exact hc
    | cons top rest =>
      rw [hs] at hc
      exact hn top (by simp [hs]) hc.1

/-- A step that leaves a ready state starts at one, at a valid piece, and the
other way round. -/
theorem step_ready (source : Source) (options : ParseOptions) (pos : Nat) {piece : Piece} :
    (∃ mid, state.step source options pos piece = .ok mid ∧ mid.Ready brackets) ↔
      state.Ready (piece.bracket?.toList ++ brackets) ∧ piece.Valid := by
  cases piece with
  | text value => exact addText_ready
  | construct c =>
    cases c with
    | startTag tag => exact openElement_ready
    | endTag name tail =>
      have hv : (Piece.construct (.endTag name tail)).Valid := by
        constructor <;> simp [Piece.bindings, Piece.markers]
      simp only [step_endTag, Except.ok.injEq, exists_eq_left', hv, and_true]
      exact closeElement_ready
    | comment value =>
      have hv : (Piece.construct (.comment value)).Valid := by
        constructor <;> simp [Piece.bindings, Piece.markers]
      simp only [step_comment, Except.ok.injEq, exists_eq_left', hv, and_true]
      exact ⟨fun h => ⟨h.problems, h.placed, h.closes⟩, fun h => ⟨h.problems, h.placed, h.closes⟩⟩

theorem run_ready (source : Source) (options : ParseOptions) (pos : Nat) {pieces : List Piece} :
    (∃ last, state.run source options pos pieces = .ok last ∧ last.Ready []) ↔
      state.Ready (pieces.filterMap Piece.bracket?) ∧ ∀ p ∈ pieces, p.Valid := by
  induction pieces generalizing pos state with
  | nil => simp [State.run]
  | cons piece rest ih =>
    have hbrackets : (piece :: rest).filterMap Piece.bracket? =
        piece.bracket?.toList ++ rest.filterMap Piece.bracket? := by
      cases hb : piece.bracket? <;> simp [hb]
    rw [hbrackets, List.forall_mem_cons, ← and_assoc, ← step_ready source options pos]
    constructor
    · rintro ⟨last, h, hl⟩
      obtain ⟨mid, hs, hr⟩ := bind_eq_ok.mp h
      obtain ⟨hm, hv⟩ := (ih _).mp ⟨last, hr, hl⟩
      exact ⟨⟨mid, hs, hm⟩, hv⟩
    · rintro ⟨⟨mid, hs, hm⟩, hv⟩
      obtain ⟨last, hr, hl⟩ := (ih _).mpr ⟨hm, hv⟩
      exact ⟨last, bind_eq_ok.mpr ⟨mid, hs, hr⟩, hl⟩

-- ---------------------------------------------------------------------------
-- Steps that stop the scan
-- ---------------------------------------------------------------------------

theorem tooLong_of_step {piece : Piece} {o : Oversized}
    (h : state.step source options pos piece = .error o) :
    ∃ s ∈ piece.bindings ++ piece.markers, TooLong s := by
  cases piece with
  | text value =>
    simp only [State.step, State.addText] at h
    split at h
    · cases h
    · split at h
      · cases h
      · rcases bind_eq_error.mp h with hi | ⟨⟨binding, problems⟩, -, h⟩
        · exact tooLong_of_interpolateAt hi
        · cases binding <;> cases h
  | construct c =>
    cases c with
    | startTag tag =>
      simp only [State.step, State.openElement] at h
      rcases bind_eq_error.mp h with he | ⟨⟨entries, problems⟩, -, h⟩
      · exact tooLong_of_tagEntries he
      · split at h <;> cases h
    | endTag name tail => cases h
    | comment value => cases h

theorem tooLong_of_run {pieces : List Piece} {o : Oversized}
    (h : state.run source options pos pieces = .error o) :
    ∃ s ∈ pieces.flatMap Piece.bindings ++ pieces.flatMap Piece.markers, TooLong s := by
  induction pieces generalizing pos state with
  | nil => cases h
  | cons piece rest ih =>
    rw [List.flatMap_cons, List.flatMap_cons]
    rcases bind_eq_error.mp h with hs | ⟨mid, -, hr⟩
    · obtain ⟨s, hs, hl⟩ := tooLong_of_step hs
      exact ⟨s, by rcases List.mem_append.mp hs with h | h <;> simp [h], hl⟩
    · obtain ⟨s, hs, hl⟩ := ih hr
      refine ⟨s, ?_, hl⟩
      rcases List.mem_append.mp hs with h | h
      · exact List.mem_append_left _ (List.mem_append_right _ h)
      · exact List.mem_append_right _ (List.mem_append_right _ h)

end TemplateTree.Markup

namespace TemplateTree

open Text (Chars)
open Markup

def NoneTooLong (code : Chars) : Prop :=
  ∀ s ∈ (pieces code).flatMap Piece.bindings ++ (pieces code).flatMap Piece.markers, ¬ TooLong s

theorem exists_parseTemplate_eq_ok (code : Chars) (url : String) (options : ParseOptions) :
    (∃ parsed, parseTemplate code url options = .ok parsed) ↔ Acceptable (pieces code) := by
  have hready : ({} : State).Ready ((pieces code).filterMap Piece.bracket?) ↔
      Nested ((pieces code).filterMap Piece.bracket?) := by
    rw [← closes_nil_iff]
    exact ⟨fun h => h.closes, fun h => ⟨rfl, by simp, h⟩⟩
  rw [acceptable_iff, ← hready, ← run_ready (Source.ofText code url) options 0]
  simp only [parseTemplate_ok_iff]
  constructor
  · rintro ⟨parsed, state, hrun, hp, hs, -⟩
    exact ⟨state, hrun, hp, by simp [hs], by simp [hs, Closes]⟩
  · rintro ⟨state, hrun, hr⟩
    have hs : state.stack = [] := List.map_eq_nil_iff.mp hr.closes
    exact ⟨_, state, hrun, hr.problems, hs, rfl⟩

theorem parseTemplate_error {code : Chars} {url : String} {options : ParseOptions}
    {error : TemplateError} (hlong : NoneTooLong code)
    (h : parseTemplate code url options = .error error) :
    ∃ issues, issues ≠ [] ∧ error = .issues issues := by
  unfold parseTemplate at h
  dsimp only at h
  split at h
  · rename_i hrun
    obtain ⟨s, hs, hl⟩ := tooLong_of_run hrun
    exact absurd hl (hlong s hs)
  · rename_i state hrun
    split at h
    · cases h
    · rename_i hp
      cases h
      refine ⟨_, ?_, rfl⟩
      simpa using hp

/-- A template is accepted if it meets the criterion, and refused with a list of
issues if it does not; a failed binding is one of them. -/
theorem parseTemplate_accepts_iff (code : Chars) (url : String) (options : ParseOptions)
    (hlong : NoneTooLong code) :
    ((∃ parsed, parseTemplate code url options = .ok parsed) ↔ Acceptable (pieces code)) ∧
    ((∃ issues, issues ≠ [] ∧ parseTemplate code url options = .error (.issues issues)) ↔
      ¬ Acceptable (pieces code)) := by
  refine ⟨exists_parseTemplate_eq_ok code url options, ?_⟩
  rw [← exists_parseTemplate_eq_ok code url options]
  cases h : parseTemplate code url options with
  | ok parsed => simp
  | error error =>
    obtain ⟨issues, hi, rfl⟩ := parseTemplate_error hlong h
    simpa using hi

theorem noneTooLong_of_all {code : Chars}
    (h : ((pieces code).flatMap Piece.bindings ++ (pieces code).flatMap Piece.markers).all
      (fun s => (Expr.parse s 0).isOk) = true) : NoneTooLong code := by
  intro s hs hl
  have hok := List.all_eq_true.mp h s hs
  rw [hl] at hok
  cases hok

theorem parseTemplate_accepts_iff_directive :
    let code := "<P *ngIf=\"a; else b\">\x7b\x7b c \x7d\x7d<br></p>".toList
    NoneTooLong code ∧ Acceptable (pieces code) := by
  have hlong : NoneTooLong "<P *ngIf=\"a; else b\">\x7b\x7b c \x7d\x7d<br></p>".toList :=
    noneTooLong_of_all (by decide +kernel)
  refine ⟨hlong, (parseTemplate_accepts_iff _ "" {} hlong).1.mp ?_⟩
  exact Expression.exists_ok_of_isOk (by decide +kernel)

end TemplateTree
