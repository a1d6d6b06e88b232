import TemplateTree.Proofs.Accounting
import TemplateTree.Proofs.BindingSites
import TemplateTree.Proofs.Declared

/-!
# How often a problem is reported

The texts that a scan reads lie apart, so what it reports about one of them differs from
what it reports about the others. Only a value that is bound both ways is read twice, and
a bad one is reported twice; every other issue is reported once.
-/

namespace TemplateTree

open Text (Chars)
open Expression (bind_eq_ok)

namespace Markup

-- ---------------------------------------------------------------------------
-- Counting issues
-- ---------------------------------------------------------------------------

/-- Each issue is reported once, or twice if that is allowed. -/
def ReportedOnce (twice : Issue → Prop) (problems : List Problem) : Prop :=
  ∀ issue ∈ problems.map Problem.toIssue,
    (problems.map Problem.toIssue).count issue = 1 ∨
      (problems.map Problem.toIssue).count issue = 2 ∧ twice issue

section
variable {twice : Issue → Prop} {problems others : List Problem} {problem other : Problem}

theorem reportedOnce_of_nodup (h : (problems.map Problem.toIssue).Nodup) :
    ReportedOnce twice problems :=
  fun _ hi => .inl (List.count_eq_one_of_mem h hi)

theorem reportedOnce_of_length_le_one (h : problems.length ≤ 1) : ReportedOnce twice problems := by
  refine reportedOnce_of_nodup ?_
  match problems, h with
  | [], _ => exact .nil
  | [problem], _ => exact List.nodup_singleton _

theorem reportedOnce_pair (h : twice problem.toIssue) :
    ReportedOnce twice [problem, problem] := by
  intro issue hi
  obtain rfl : issue = problem.toIssue := by simpa using hi
  exact .inr ⟨by simp, h⟩

theorem ReportedOnce.append (h : ReportedOnce twice problems) (h' : ReportedOnce twice others)
    (hapart : ∀ problem ∈ problems, ∀ other ∈ others, problem.toIssue ≠ other.toIssue) :
    ReportedOnce twice (problems ++ others) := by
  intro issue hi
  rw [List.map_append] at hi ⊢
  rw [List.count_append]
  have hdisjoint : ∀ issue ∈ problems.map Problem.toIssue,
      issue ∉ others.map Problem.toIssue := by
    rw [List.forall_mem_map]
    intro problem hp ho
    obtain ⟨other, ho, he⟩ := List.mem_map.mp ho
    exact hapart problem hp other ho he.symm
  rcases List.mem_append.mp hi with hi | hi
  · rw [List.count_eq_zero_of_not_mem (hdisjoint issue hi), Nat.add_zero]
    exact h issue hi
  · rw [List.count_eq_zero_of_not_mem fun hp => hdisjoint issue hp hi, Nat.zero_add]
    exact h' issue hi

theorem Problem.toIssue_ne_of_lt (h : problem.span.start.offset < other.span.start.offset) :
    problem.toIssue ≠ other.toIssue := by
  intro he
  have hspan : problem.span = other.span := Option.some.inj (congrArg Issue.span he)
  exact absurd (hspan ▸ h) (lt_irrefl _)

end

variable {source : Source} {options : ParseOptions} {pos : Nat} {text : Chars}
variable {entries : Entries} {problems : List Problem} {twice : Issue → Prop}

-- ---------------------------------------------------------------------------
-- Texts that are read
-- ---------------------------------------------------------------------------

theorem length_boundProblems_le (source : Source) (pos : Nat) (text : Chars) :
    (boundProblems source pos text).length ≤ 1 := by
  simp [boundProblems]

theorem length_markerProblems_le (source : Source) (pos : Nat) (text : Chars) :
    (markerProblems source pos text).length ≤ 1 := by
  simp [markerProblems]

theorem length_textProblems_le (source : Source) (pos : Nat) (text : Chars) :
    (textProblems source pos text).length ≤ 1 := by
  unfold textProblems
  split
  · exact le_rfl
  · exact length_markerProblems_le source pos text

-- ---------------------------------------------------------------------------
-- Attributes and clauses lie apart
-- ---------------------------------------------------------------------------

/-- What is collected from stretches that lie apart is reported as for each of them. -/
theorem collect_reportedOnce {α : Type} {f : α → Check (Entries × List Problem)} {xs : List α}
    {start length : α → Nat}
    (hf : ∀ x ∈ xs, ∀ {e ps}, f x = .ok (e, ps) → ReportedOnce twice ps ∧
      ∀ problem ∈ ps, problem.span.startsIn (start x) (length x) = true)
    (hapart : xs.Pairwise fun x y => start x + length x ≤ start y)
    (h : collect f xs = .ok (entries, problems)) : ReportedOnce twice problems := by
  induction xs generalizing entries problems with
  | nil =>
    cases h
    exact reportedOnce_of_nodup .nil
  | cons x xs ih =>
    obtain ⟨hx, hxs⟩ := List.forall_mem_cons.mp hf
    obtain ⟨hbehind, hapart⟩ := List.pairwise_cons.mp hapart
    obtain ⟨⟨e, ps⟩, he, h⟩ := bind_eq_ok.mp h
    obtain ⟨⟨more, others⟩, hm, h⟩ := bind_eq_ok.mp h
    cases h
    obtain ⟨hfirst, hwithin⟩ := hx he
    have hothers : ∀ other ∈ others, start x + length x ≤ other.span.start.offset := by
      refine collect_problems (fun y hy e' ps' hy' other ho => ?_) hm
      have hstarts := Span.startsIn_iff.mp ((hxs y hy hy').2 other ho)
      exact (hbehind y hy).trans hstarts.1
    refine hfirst.append (ih hxs hapart hm) fun problem hp other ho => ?_
    have hstarts := Span.startsIn_iff.mp (hwithin problem hp)
    exact Problem.toIssue_ne_of_lt (hstarts.2.trans_le (hothers other ho))

theorem clauseRuns_apart (pos : Nat) (value : Chars) :
    (clauseRuns pos value).Pairwise fun a b => a.1 + a.2.length ≤ b.1 := by
  fun_induction clauseRuns pos value with
  | case1 => exact .nil
  | case2 pos c rest _ ih => exact ih
  | case3 pos c rest _ start run more heq hs ih =>
    obtain rfl : start = pos + 1 := by simpa using hs
    rw [heq, List.pairwise_cons] at ih
    refine List.pairwise_cons.mpr ⟨fun other ho => ?_, ih.2⟩
    have hbehind := ih.1 other ho
    simp only [List.length_cons] at hbehind ⊢
    omega
  | case4 pos c rest _ start run more heq hs ih =>
    have hle := le_of_mem_clauseRuns (pos + 1) rest
    rw [heq] at ih hle
    exact List.pairwise_cons.mpr ⟨hle, ih⟩
  | case5 => exact List.pairwise_singleton _ _

theorem placeAttributes_apart (source : Source) (pos : Nat) (attributes : List Attribute) :
    (placeAttributes source pos attributes).Pairwise fun a b =>
      a.valueStart + a.value.length ≤ b.valueStart := by
  induction attributes generalizing pos with
  | nil => exact .nil
  | cons first rest ih =>
    refine List.pairwise_cons.mpr ⟨fun other ho => ?_, ih _⟩
    exact (first.place_inside source pos).2.trans (placeAttributes_inside ho).1

theorem clauseEntries_length_le {directive : Chars} {attr : PlacedAttribute}
    {clause : Nat × Nat × Chars}
    (h : clauseEntries source directive attr clause = .ok (entries, problems)) :
    problems.length ≤ 1 := by
  obtain ⟨index, start, run⟩ := clause
  rcases clauseEntries_eq source directive attr index start run with
    ⟨-, _, -, he⟩ | ⟨text, -, offset, _, -, he⟩
  · rw [he] at h
    cases h
    exact Nat.zero_le 1
  · rw [he] at h
    obtain ⟨⟨binding, problems⟩, hb, h⟩ := bind_eq_ok.mp h
    cases h
    rw [bindAt_problems hb]
    exact length_boundProblems_le ..

theorem directiveEntries_reportedOnce {directive : Chars} {attr : PlacedAttribute}
    (hat : attr.Stands source)
    (h : directiveEntries source directive attr = .ok (entries, problems)) :
    ReportedOnce twice problems := by
  unfold directiveEntries at h
  split at h
  · obtain ⟨⟨binding, problems⟩, hb, h⟩ := bind_eq_ok.mp h
    cases h
    rw [bindAt_problems hb]
    exact reportedOnce_of_length_le_one (length_boundProblems_le ..)
  · have hvalue : source.HasAt (attr.valueStart + 0) attr.value := hat.value
    have hruns := clauseRuns_apart 0 attr.value
    rw [← map_snd_numbered 0 (clauseRuns 0 attr.value), List.pairwise_map] at hruns
    refine @collect_reportedOnce _ _ _ _ _ _
      (fun clause => attr.valueStart + clause.2.1) (fun clause => clause.2.2.length) ?_
      (hruns.imp fun hab => by omega) h
    rintro ⟨index, start, run⟩ hr e ps he
    have hrun := hasAt_clauseRuns hvalue (mem_of_mem_numbered hr)
    exact ⟨reportedOnce_of_length_le_one (clauseEntries_length_le he),
      fun problem hp => (clauseEntries_within hrun he problem hp).starts⟩

theorem attributeEntries_twoWay {attr : PlacedAttribute} {property : Chars}
    (hf : Form.ofName attr.name = .twoWay property)
    (h : attributeEntries source attr = .ok (entries, problems)) :
    problems = boundProblems source attr.valueStart attr.value ++
      boundProblems source attr.valueStart attr.value := by
  unfold attributeEntries at h
  rw [hf] at h
  obtain ⟨⟨value, problems⟩, hv, h⟩ := bind_eq_ok.mp h
  obtain ⟨⟨handler, others⟩, hh, h⟩ := bind_eq_ok.mp h
  cases h
  rw [bindAt_problems hv, bindAt_problems hh]

def PlacedAttribute.IsTwoWayFault (attr : PlacedAttribute) (error : Expression.BindingError) :
    Prop :=
  (∃ property, Form.ofName attr.name = .twoWay property) ∧
    Expr.parse attr.value attr.valueStart = .error (.binding error)

theorem attributeEntries_reportedOnce {attr : PlacedAttribute} (hat : attr.Stands source)
    (htwice : ∀ error, attr.IsTwoWayFault error → twice (bindingProblem source error).toIssue)
    (h : attributeEntries source attr = .ok (entries, problems)) :
    ReportedOnce twice problems := by
  have htwoWay := @attributeEntries_twoWay source entries problems attr
  have hplain := @attributeEntries_plain source attr entries problems
  cases hf : Form.ofName attr.name with
  | twoWay property =>
    rw [htwoWay hf h, boundProblems]
    cases he : bindingError? (Expr.parse attr.value attr.valueStart) with
    | none => exact reportedOnce_of_nodup .nil
    | some error =>
      exact reportedOnce_pair (htwice error ⟨⟨property, hf⟩, bindingError?_eq_some.mp he⟩)
  | property name | event name =>
    unfold attributeEntries at h
    rw [hf] at h
    obtain ⟨⟨value, problems⟩, hv, h⟩ := bind_eq_ok.mp h
    cases h
    rw [bindAt_problems hv]
    exact reportedOnce_of_length_le_one (length_boundProblems_le ..)
  | directive name =>
    unfold attributeEntries at h
    rw [hf] at h
    exact directiveEntries_reportedOnce hat h
  | reference name | letVariable name =>
    unfold attributeEntries at h
    rw [hf] at h
    cases h
    exact reportedOnce_of_nodup .nil
  | plain =>
    rw [hplain hf h]
    exact reportedOnce_of_length_le_one (length_markerProblems_le ..)

theorem tagEntries_reportedOnce {attributes : List Attribute}
    (hat : source.HasAt pos (writtenAttributes attributes))
    (htwice : ∀ attr ∈ placeAttributes source pos attributes, ∀ error,
      attr.IsTwoWayFault error → twice (bindingProblem source error).toIssue)
    (h : tagEntries source pos attributes = .ok (entries, problems)) :
    ReportedOnce twice problems := by
  refine collect_reportedOnce (fun attr ha e ps he => ?_)
    (placeAttributes_apart source pos attributes) h
  have hstands := placeAttributes_stand hat attr ha
  exact ⟨attributeEntries_reportedOnce hstands (htwice attr ha) he,
    fun problem hp => (attributeEntries_within hstands he problem hp).starts⟩

-- ---------------------------------------------------------------------------
-- One step
-- ---------------------------------------------------------------------------

def IsTwoWayFault (source : Source) (issue : Issue) : Prop :=
  ∃ pos tag, Occurs source.text pos (.construct (.startTag tag)) ∧
    ∃ attr ∈ placeAttributes source (pos + 1 + tag.name.length) tag.attributes,
      ∃ error, attr.IsTwoWayFault error ∧ issue = (bindingProblem source error).toIssue

section
variable {state state' : State} {piece : Piece} {new : List Problem} {length : Nat}

/-- What a scan up to `pos` has reported. Nothing was said yet about the start tags of the
elements that are still open. -/
structure State.Reported (source : Source) (pos : Nat) (state : State) : Prop where
  once : ReportedOnce (IsTwoWayFault source) state.problems
  before : ∀ problem ∈ state.problems, problem.span.start.offset < pos
  unblamed : ∀ element ∈ state.heads, ∀ problem ∈ state.problems,
    problem.toIssue ≠ (Problem.mk .misplacedVariable element.opening).toIssue

theorem State.Reported.add (h : State.Reported source pos state) (hs : state.tally.Stacked pos)
    (hproblems : state'.problems = state.problems ++ new) (hheads : state'.heads = state.heads)
    (honce : ReportedOnce (IsTwoWayFault source) new)
    (hnew : ∀ problem ∈ new, problem.span.startsIn pos length = true) :
    State.Reported source (pos + length) state' := by
  simp only [Span.startsIn_iff] at hnew
  constructor
  · rw [hproblems]
    exact h.once.append honce fun problem hp other ho =>
      Problem.toIssue_ne_of_lt ((h.before problem hp).trans_le (hnew other ho).1)
  · rw [hproblems, List.forall_mem_append]
    exact ⟨fun problem hp => (h.before problem hp).trans_le (Nat.le_add_right _ _),
      fun problem hp => (hnew problem hp).2⟩
  · rw [hproblems, hheads]
    intro element he
    rw [List.forall_mem_append]
    refine ⟨h.unblamed element he, fun problem hp => Ne.symm (Problem.toIssue_ne_of_lt ?_)⟩
    exact (hs.before element he).trans_le (hnew problem hp).1

theorem State.Reported.push {element : OpenElement} (h : State.Reported source pos state)
    (hbeside : ∀ problem ∈ state.problems,
      problem.span.start.offset ≠ element.opening.start.offset) :
    State.Reported source pos { state with stack := element :: state.stack } := by
  refine ⟨h.once, h.before, List.forall_mem_cons.mpr ⟨fun problem hp he => ?_, h.unblamed⟩⟩
  have hspan : problem.span = element.opening := Option.some.inj (congrArg Issue.span he)
  exact hbeside problem hp (by rw [hspan])

theorem State.Reported.close {top : OpenElement} {rest : List OpenElement}
    (h : State.Reported source pos state) (hs : state.tally.Stacked pos)
    (hheads : state.heads = top :: rest) (hheads' : state'.heads = rest)
    (hproblems : state'.problems = state.problems ++ new)
    (honce : ReportedOnce (IsTwoWayFault source) new)
    (hnew : ∀ problem ∈ new, problem = ⟨.misplacedVariable, top.opening⟩) :
    State.Reported source (pos + length) state' := by
  have hbefore := hs.before
  have hinward := hs.inward
  have hunblamed := h.unblamed
  simp only [State.tally, hheads, List.forall_mem_cons, List.pairwise_cons]
    at hbefore hinward hunblamed
  constructor
  · rw [hproblems]
    refine h.once.append honce fun problem hp other ho => ?_
    rw [hnew other ho]
    exact hunblamed.1 problem hp
  · rw [hproblems, List.forall_mem_append]
    refine ⟨fun problem hp => (h.before problem hp).trans_le (Nat.le_add_right _ _), ?_⟩
    intro other ho
    rw [hnew other ho]
    exact hbefore.1.trans_le (Nat.le_add_right _ _)
  · rw [hproblems, hheads']
    intro element he
    rw [List.forall_mem_append]
    refine ⟨hunblamed.2 element he, fun other ho => ?_⟩
    rw [hnew other ho]
    exact Ne.symm (Problem.toIssue_ne_of_lt (hinward.1 element he))

theorem finish_reportedOnce (element : OpenElement) (closing : Option Span) :
    ReportedOnce twice (element.finish source closing).2 := by
  refine reportedOnce_of_length_le_one ?_
  rw [finish_problems_eq]
  split
  · exact Nat.zero_le 1
  · split
    · exact Nat.zero_le 1
    · exact le_rfl

theorem eq_of_mem_finish {element : OpenElement} {closing : Option Span} :
    ∀ problem ∈ (element.finish source closing).2,
      problem = ⟨.misplacedVariable, element.opening⟩ := by
  intro problem hp
  rw [finish_problems_eq] at hp
  split at hp
  · cases hp
  · split at hp
    · cases hp
    · exact List.mem_singleton.mp hp

theorem openElement_reported {tag : StartTag}
    (hocc : Occurs source.text pos (.construct (.startTag tag)))
    (hs : state.tally.Stacked pos) (h : State.Reported source pos state)
    (hopen : state.openElement source pos tag = .ok state') :
    State.Reported source (pos + tag.written.length) state' := by
  obtain ⟨entries, problems, he, hcases⟩ := openElement_cases hopen
  have hat := StartTag.hasAt_attributes hocc.hasAt
  have honce : ReportedOnce (IsTwoWayFault source) problems :=
    tagEntries_reportedOnce hat
      (fun attr ha error hfault => ⟨pos, tag, hocc, attr, ha, error, hfault, rfl⟩) he
  have hinside := tag.attributes_inside pos
  have hstarts : ∀ problem ∈ problems, problem.span.startsIn pos tag.written.length = true :=
    fun problem hp => Span.startsIn_mono (tagEntries_within hat he problem hp).starts
      (by omega) (by omega)
  -- The attributes stand behind the start of the tag.
  have hbehind : ∀ problem ∈ problems, pos < problem.span.start.offset := by
    intro problem hp
    have hstart := Span.startsIn_iff.mp (tagEntries_within hat he problem hp).starts
    omega
  have hopening : (tag.element source pos entries).opening.start.offset = pos :=
    hocc.hasAt.span_start _
  rcases hcases with ⟨-, rfl⟩ | ⟨-, rfl⟩
  · have hfinish := @eq_of_mem_finish source (tag.element source pos entries) none
    refine h.add hs ((State.problems_append ..).trans (List.append_assoc ..)) (by simp) ?_ ?_
    · refine honce.append (finish_reportedOnce _ _) fun problem hp other ho =>
        Ne.symm (Problem.toIssue_ne_of_lt ?_)
      rw [hfinish other ho]
      exact hopening.trans_lt (hbehind problem hp)
    · refine List.forall_mem_append.mpr ⟨hstarts, fun other ho => ?_⟩
      rw [hfinish other ho]
      exact hocc.startsIn _
  · have hreported : State.Reported source (pos + tag.written.length) (state.report problems) :=
      h.add hs rfl rfl honce hstarts
    refine hreported.push (List.forall_mem_append.mpr ⟨fun problem hp => ?_, fun problem hp => ?_⟩)
    · exact hopening.symm ▸ (h.before problem hp).ne
    · exact hopening.symm ▸ (hbehind problem hp).ne'

theorem closeElement_reported {name tail : Chars}
    (hocc : Occurs source.text pos (.construct (.endTag name tail)))
    (hs : state.tally.Stacked pos) (h : State.Reported source pos state) :
    State.Reported source (pos + (Construct.endTag name tail).written.length)
      (state.closeElement source name
        (source.span pos (pos + (Construct.endTag name tail).written.length))) := by
  have hstarts := hocc.startsIn (pos + (Construct.endTag name tail).written.length)
  simp only [Piece.written] at hstarts
  rcases closeElement_cases state source name
    (source.span pos (pos + (Construct.endTag name tail).written.length)) with
    ⟨top, rest, hstack, -, he⟩ | ⟨-, he⟩
  · have hheads : state.heads = top.head :: rest.map OpenElement.head := by
      rw [State.heads, hstack, List.map_cons]
    rw [he]
    refine h.close hs hheads ?_ (State.problems_append ..) (finish_reportedOnce _ _)
      eq_of_mem_finish
    rw [State.heads_append, State.heads_report]
    rfl
  · rw [he]
    exact h.add hs rfl rfl (reportedOnce_of_length_le_one le_rfl)
      (List.forall_mem_singleton.mpr hstarts)

theorem step_reported (hocc : Occurs source.text pos piece) (hs : state.tally.Stacked pos)
    (h : State.Reported source pos state)
    (hstep : state.step source options pos piece = .ok state') :
    State.Reported source (pos + piece.written.length) state' := by
  cases piece with
  | text value =>
    obtain ⟨hproblems, hheads⟩ := addText_problems hstep
    exact h.add hs hproblems hheads (reportedOnce_of_length_le_one (length_textProblems_le ..))
      (List.filter_eq_self.mp (textProblems_startingIn hocc))
  | construct c =>
    cases c with
    | startTag tag => exact openElement_reported hocc hs h hstep
    | endTag name tail =>
      rw [step_endTag] at hstep
      cases hstep
      exact closeElement_reported hocc hs h
    | comment value =>
      rw [step_comment] at hstep
      cases hstep
      exact h.add hs (List.append_nil _).symm rfl (reportedOnce_of_nodup .nil) (by simp)

-- ---------------------------------------------------------------------------
-- A whole scan
-- ---------------------------------------------------------------------------

theorem run_reported {before after : List Piece} (hp : pieces source.text = before ++ after)
    (hpos : (before.flatMap Piece.written).length = pos) (hs : state.tally.Stacked pos)
    (h : State.Reported source pos state)
    (hrun : state.run source options pos after = .ok state') :
    State.Reported source (pos + (after.flatMap Piece.written).length) state' := by
  induction after generalizing before pos state with
  | nil =>
    cases hrun
    exact h
  | cons piece rest ih =>
    obtain ⟨mid, hstep, hr⟩ := bind_eq_ok.mp hrun
    have hocc : Occurs source.text pos piece := ⟨before, rest, hp, hpos⟩
    have hp : pieces source.text = (before ++ [piece]) ++ rest := by simpa using hp
    rw [List.flatMap_cons, List.length_append, ← Nat.add_assoc]
    exact ih hp (by simp [hpos]) (step_stacked hocc.formed hocc.hasAt hstep hs)
      (step_reported hocc hs h hstep) hr

theorem finish_reported {last : State}
    (h : ({} : State).run source options 0 (pieces source.text) = .ok last) :
    ReportedOnce (IsTwoWayFault source) last.finish.problems := by
  have hempty : State.Reported source 0 {} :=
    ⟨reportedOnce_of_nodup .nil, by simp, by simp [State.heads]⟩
  have hnone : ({} : State).tally.Stacked 0 := ⟨by simp [State.tally, State.heads], .nil⟩
  have hreported := run_reported (show pieces source.text = [] ++ _ from rfl) rfl hnone hempty h
  have hstart : ({} : State).tally.Balanced [] := ⟨rfl, rfl, by simp [State.tally, unpaired]⟩
  have hbalanced := run_balanced h hstart
  have hinward := (wellStacked_of_run (List.append_nil (pieces source.text)).symm h).inward
  refine hreported.once.append (reportedOnce_of_nodup ?_) fun problem hp other ho he => ?_
  · rw [List.map_map, List.nodup_iff_pairwise_ne, List.pairwise_map]
    exact hinward.imp fun hlt => Ne.symm (Problem.toIssue_ne_of_lt hlt)
  · -- No element was reported to be open before.
    obtain ⟨element, -, rfl⟩ := List.mem_map.mp ho
    have hopen := congrArg (Issue.startsWith "Unclosed element <") he
    rw [Problem.startsWith_unclosed, Problem.startsWith_unclosed] at hopen
    cases hb : problem.cause.bracket? with
    | none =>
      rw [hb] at hopen
      cases hopen
    | some tag =>
      rw [hb] at hopen
      have hclosing := hbalanced.unexpected tag (List.mem_filterMap.mpr ⟨problem, hp, hb⟩)
      cases hclosing.symm.trans hopen

theorem collect_sublist {α : Type} {f : α → Check (Entries × List Problem)} {xs : List α} {x : α}
    (hx : x ∈ xs) (h : collect f xs = .ok (entries, problems)) :
    ∃ e ps, f x = .ok (e, ps) ∧ List.Sublist ps problems := by
  induction xs generalizing entries problems with
  | nil => cases hx
  | cons y ys ih =>
    obtain ⟨⟨e, ps⟩, he, h⟩ := bind_eq_ok.mp h
    obtain ⟨⟨more, others⟩, hm, h⟩ := bind_eq_ok.mp h
    cases h
    rcases List.mem_cons.mp hx with rfl | hx
    · exact ⟨e, ps, he, List.sublist_append_left _ _⟩
    · obtain ⟨e', ps', he', hsub⟩ := ih hx hm
      exact ⟨e', ps', he', hsub.trans (List.sublist_append_right _ _)⟩

theorem two_le_count_of_isTwoWayFault {last : State} {issue : Issue}
    (h : ({} : State).run source options 0 (pieces source.text) = .ok last)
    (hfault : IsTwoWayFault source issue) :
    2 ≤ (last.finish.problems.map Problem.toIssue).count issue := by
  obtain ⟨pos, tag, ⟨before, after, hp, rfl⟩, attr, ha, error, ⟨⟨property, hf⟩, he⟩, rfl⟩ := hfault
  rw [hp, run_append, bind_eq_ok] at h
  obtain ⟨first, -, hrest⟩ := h
  obtain ⟨second, hsecond, hrest⟩ := bind_eq_ok.mp hrest
  rw [Nat.zero_add] at hsecond
  obtain ⟨entries, problems, htag, hcases⟩ := openElement_cases hsecond
  obtain ⟨e, ps, hattr, hsub⟩ := collect_sublist ha htag
  have hps : ps = [bindingProblem source error, bindingProblem source error] := by
    rw [attributeEntries_twoWay hf hattr, boundProblems, bindingError?_eq_some.mpr he]
    rfl
  have hsecond : first.problems ++ problems <+: second.problems := by
    rcases hcases with ⟨-, rfl⟩ | ⟨-, rfl⟩
    · simp
    · exact List.prefix_rfl
  have hlast : List.Sublist ps last.finish.problems :=
    hsub.trans <| (List.sublist_append_right _ _).trans <|
      (hsecond.trans (run_problems hrest)).sublist.trans (List.sublist_append_left _ _)
  have hcount := (hlast.map Problem.toIssue).count_le (bindingProblem source error).toIssue
  simpa [hps] using hcount

end

end Markup

open Markup

/-- Issues of a refused template are reported once, but for those about values that are bound
both ways: such a value is read as a property and as an event, and reported both times. -/
theorem parseTemplate_reports_once {code : Chars} {url : String} {options : ParseOptions}
    {issues : List Issue} (h : parseTemplate code url options = .error (.issues issues)) :
    (∀ issue ∈ issues, ¬ IsTwoWayFault (Source.ofText code url) issue → issues.count issue = 1) ∧
    (∀ issue, IsTwoWayFault (Source.ofText code url) issue → issues.count issue = 2) ∧
    (issues.Nodup ↔ ∀ issue, ¬ IsTwoWayFault (Source.ofText code url) issue) := by
  obtain ⟨last, hrun, rfl⟩ := parseTemplate_issues h
  have honce := finish_reported hrun
  have htwice {issue : Issue} := @two_le_count_of_isTwoWayFault _ _ last issue hrun
  have hone : ∀ issue ∈ last.finish.problems.map Problem.toIssue,
      ¬ IsTwoWayFault (Source.ofText code url) issue →
      (last.finish.problems.map Problem.toIssue).count issue = 1 := by
    intro issue hi hfault
    rcases honce issue hi with hcount | ⟨-, h⟩
    · exact hcount
    · exact absurd h hfault
  refine ⟨hone, fun issue hfault => ?_, fun hnodup issue hfault => ?_, fun hnone => ?_⟩
  · have hle := htwice hfault
    rcases honce issue (List.count_pos_iff.mp (by omega)) with hcount | ⟨hcount, -⟩
    · omega
    · exact hcount
  · have hle := List.nodup_iff_count_le_one.mp hnodup issue
    have := htwice hfault
    omega
  · refine List.nodup_iff_count_le_one.mpr fun issue => ?_
    by_cases hi : issue ∈ last.finish.problems.map Problem.toIssue
    · exact (hone issue hi (hnone issue)).le
    · exact (List.count_eq_zero_of_not_mem hi).trans_le (Nat.zero_le 1)

/-- A value that is bound both ways, and other bad ones that read alike. -/
theorem parseTemplate_reports_once_twoWay :
    let code := "<ul><p [(x)]=\"a b\" (x)=\"a b\" *i=\"a b; k: c d\"/><br let-q></u>".toList
    let source := Source.ofText code ""
    ∃ issues, parseTemplate code "" {} = .error (.issues issues) ∧ issues.length = 8 ∧
      (∃ issue, IsTwoWayFault source issue ∧ issues.count issue = 2) ∧
      ∀ issue ∈ issues, ¬ IsTwoWayFault source issue → issues.count issue = 1 := by
  intro code source
  have height : (issues? (parseTemplate code "" {})).map (fun issues =>
      (issues.length, decide issues.Nodup)) = some (8, false) := by
    decide +kernel
  obtain ⟨issues, hissues, hcounts⟩ := Option.map_eq_some_iff.mp height
  obtain ⟨hlength, hrepeats⟩ := Prod.mk.inj hcounts
  have hrefused := issues?_eq_some hissues
  obtain ⟨hone, htwo, hnodup⟩ := parseTemplate_reports_once hrefused
  obtain ⟨issue, hfault⟩ : ∃ issue, IsTwoWayFault source issue := by
    by_contra hnone
    exact of_decide_eq_false hrepeats (hnodup.mpr (not_exists.mp hnone))
  exact ⟨issues, hrefused, hlength, ⟨issue, hfault, htwo issue hfault⟩, hone⟩

end TemplateTree
