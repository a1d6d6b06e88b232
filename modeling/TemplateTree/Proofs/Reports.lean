import TemplateTree.Proofs.Faults

/-!
# Issues point at what they are about

Every issue of a refused template covers the text that its message speaks of,
and a text or a plain value with several bad markers is reported once, for the
leftmost one. The scan adds problems where it stands, or at the start tags of
the elements that are open; `step_reports` says so for one piece.
-/

namespace TemplateTree

open Text (Chars)
open Expression (bind_eq_ok)

namespace Markup

-- ---------------------------------------------------------------------------
-- Messages
-- ---------------------------------------------------------------------------

/-- The letters that a message starts with tell the causes apart. -/
def Cause.initials : Cause → Chars
  | unclosedElement _ => ['U', 'n', 'c']
  | unexpectedClosingTag _ => ['U', 'n', 'e']
  | unterminatedComment => ['U', 'n', 't']
  | misplacedVariable => ['\x22', 'l', 'e']
  | binding ⟨.invalid _, _, _⟩ => ['I', 'n', 'v']
  | binding ⟨.blankMarker, _, _⟩ => ['B', 'l', 'a']

theorem Cause.take_message (cause : Cause) : cause.message.toList.take 3 = cause.initials := by
  cases cause with
  | unclosedElement name =>
    show ("Unclosed element <" ++ String.ofList name ++ ">").toList.take 3 = _
    simp only [String.toList_append, List.append_assoc]
    rfl
  | unexpectedClosingTag name =>
    show ("Unexpected closing tag </" ++ String.ofList name ++ ">").toList.take 3 = _
    simp only [String.toList_append, List.append_assoc]
    rfl
  | unterminatedComment => rfl
  | misplacedVariable => rfl
  | binding error =>
    obtain ⟨fault, text, _⟩ := error
    cases fault with
    | invalid cause =>
      show ("Invalid expression '" ++ String.ofList (Text.trim text) ++ "': " ++
        cause.name).toList.take 3 = _
      simp only [String.toList_append, List.append_assoc]
      rfl
    | blankMarker =>
      show ("Blank expressions are not allowed in interpolated strings").toList.take 3 = _
      rfl

theorem rejection_of_message_eq {text text' : Chars} {cause cause' : Expression.Rejection}
    (h : "Invalid expression '" ++ String.ofList text ++ "': " ++ cause.name =
      "Invalid expression '" ++ String.ofList text' ++ "': " ++ cause'.name) :
    text = text' ∧ cause = cause' := by
  have hlast (s : String) (reason : Expression.Rejection) :
      (s ++ reason.name).toList.getLast? = reason.name.toList.getLast? := by
    cases reason <;> simp [Expression.Rejection.name]
  have hcause : cause = cause' := by
    have hsame := congrArg (fun s => s.toList.getLast?) h
    simp only [hlast] at hsame
    cases cause <;> cases cause' <;> simp [Expression.Rejection.name] at hsame ⊢
  subst hcause
  have h' := congrArg String.toList h
  simp only [String.toList_append, String.toList_ofList, List.append_cancel_right_eq,
    List.append_cancel_left_eq] at h'
  exact ⟨h', rfl⟩

/-- A message tells what its cause is about. -/
theorem Cause.isAbout_of_message_eq {source : Source} {span : Span} {cause other : Cause}
    (hmessage : other.message = cause.message) (h : cause.IsAbout source span) :
    other.IsAbout source span := by
  have hinitials : other.initials = cause.initials := by
    rw [← take_message, ← take_message, hmessage]
  -- Only two causes of the same sort start alike.
  rcases cause with name | name | _ | _ | ⟨reason | _, text, _⟩ <;>
    rcases other with name' | name' | _ | _ | ⟨reason' | _, text', _⟩ <;>
    simp [initials] at hinitials
  · have hname : "Unclosed element <" ++ String.ofList name' ++ ">" =
        "Unclosed element <" ++ String.ofList name ++ ">" := hmessage
    have hname : name' = name := by simpa using congrArg String.toList hname
    exact hname ▸ h
  · have hname : "Unexpected closing tag </" ++ String.ofList name' ++ ">" =
        "Unexpected closing tag </" ++ String.ofList name ++ ">" := hmessage
    have hname : name' = name := by simpa using congrArg String.toList hname
    exact hname ▸ h
  · exact h
  · exact h
  · obtain ⟨htrim, rfl⟩ := rejection_of_message_eq hmessage
    exact ⟨h.1.trans htrim.symm, h.2⟩
  · exact h

-- ---------------------------------------------------------------------------
-- Problems at whole pieces
-- ---------------------------------------------------------------------------

variable {source : Source} {options : ParseOptions} {pos : Nat} {piece : Piece}

theorem Piece.IsAt.sound {span : Span} {cause : Cause} (h : piece.IsAt source span)
    (ha : cause.IsAbout source span) : Problem.Sound source ⟨cause, span⟩ where
  ordered := h.stop ▸ Nat.le_add_right _ _
  inside := h.stop ▸ h.occurs.hasAt.le_length
  about := ha

theorem Occurs.isAt (h : Occurs source.text pos piece) :
    piece.IsAt source (source.span pos (pos + piece.written.length)) where
  occurs := by rwa [h.hasAt.span_start]
  stop := by rw [h.hasAt.span_start, h.hasAt.span_stop]
  text := h.hasAt.textOf_span

theorem Occurs.startsIn (h : Occurs source.text pos piece) (stop : Int) :
    (source.span pos stop).startsIn pos piece.written.length = true := by
  rw [Span.startsIn_iff, h.hasAt.span_start]
  exact ⟨le_rfl, Nat.lt_add_of_pos_right (List.length_pos_iff.mpr h.formed.written_ne_nil)⟩

theorem Occurs.isAbout_unterminatedComment {text : Chars}
    (h : Occurs source.text pos (.text text)) (hc : Text.contains commentOpening text = true) :
    Cause.IsAbout source (source.span pos (pos + text.length)) .unterminatedComment := by
  have hat : source.HasAt pos text := h.hasAt
  refine ⟨?_, ?_⟩
  · rw [hat.textOf_span]
    exact contains_iff_infix.mp hc
  · intro before rest htext hlow hhigh
    rw [hat.span_start] at hlow
    rw [hat.span_stop] at hhigh
    exact not_closed_of_read?_eq_none (h.read?_eq_none htext hlow hhigh)

-- ---------------------------------------------------------------------------
-- Open elements
-- ---------------------------------------------------------------------------

def OpenElement.head (element : OpenElement) : OpenElement := { element with children := [] }

def State.heads (state : State) : List OpenElement := state.stack.map OpenElement.head

@[simp] theorem State.heads_report (state : State) (problems : List Problem) :
    (state.report problems).heads = state.heads := rfl

@[simp] theorem State.heads_append (state : State) (node : Node) :
    (state.append node).heads = state.heads := by
  obtain ⟨stack, roots, comments, problems⟩ := state
  cases stack <;> rfl

structure OpenElement.OpenedBy (source : Source) (tag : StartTag) (element : OpenElement) :
    Prop where
  opening : (Piece.construct (.startTag tag)).IsAt source element.opening
  name : element.name = tag.name
  vars : element.entries.vars = [] ↔ ¬ tag.DeclaresVariables

def OpenElement.Grounded (source : Source) (element : OpenElement) : Prop :=
  ∃ tag, element.OpenedBy source tag ∧ tag.isLeaf = false

theorem StartTag.element_openedBy {tag : StartTag} {entries : Entries} {problems : List Problem}
    (h : Occurs source.text pos (.construct (.startTag tag)))
    (he : tagEntries source (pos + 1 + tag.name.length) tag.attributes = .ok (entries, problems)) :
    (tag.element source pos entries).OpenedBy source tag :=
  ⟨h.isAt, rfl, tagEntries_vars he⟩

theorem finish_problems_eq (element : OpenElement) (closing : Option Span) :
    (element.finish source closing).2 =
      if element.name = templateTag then []
      else if element.entries.vars.isEmpty then []
      else [⟨.misplacedVariable, element.opening⟩] := by
  unfold OpenElement.finish
  dsimp only
  split
  · rfl
  · split <;> rfl

theorem OpenElement.OpenedBy.finish_sound {tag : StartTag} {element : OpenElement}
    {closing : Option Span} (h : element.OpenedBy source tag) :
    ∀ problem ∈ (element.finish source closing).2,
      problem.Sound source ∧ problem.span = element.opening := by
  intro problem hp
  rw [finish_problems_eq] at hp
  split at hp
  · cases hp
  · rename_i hname
    split at hp
    · cases hp
    · rename_i hvars
      rw [List.isEmpty_iff, h.vars, not_not] at hvars
      rw [List.mem_singleton.mp hp]
      exact ⟨h.opening.sound ⟨tag, h.opening, hvars, h.name ▸ hname⟩, rfl⟩

-- ---------------------------------------------------------------------------
-- One step
-- ---------------------------------------------------------------------------

section
variable {state state' : State}

/-- The span is the start tag of an open element, or starts in the stretch that is read. -/
def State.Reaches (state : State) (pos length : Nat) (span : Span) : Prop :=
  span.startsIn pos length = true ∨ ∃ element ∈ state.heads, span = element.opening

/-- What a step over the stretch from `pos` on reports is sound and in reach, and so
is what it opens. -/
structure Reports (source : Source) (pos length : Nat) (state state' : State) : Prop where
  problems : ∃ new, state'.problems = state.problems ++ new ∧
    ∀ problem ∈ new, problem.Sound source ∧ state.Reaches pos length problem.span
  stack : ∀ element ∈ state'.heads, element.Grounded source ∧
    state.Reaches pos length element.opening

theorem State.heads_reached (pos length : Nat)
    (hstack : ∀ element ∈ state.heads, element.Grounded source) :
    ∀ element ∈ state.heads, element.Grounded source ∧
      state.Reaches pos length element.opening :=
  fun element he => ⟨hstack element he, .inr ⟨element, he, rfl⟩⟩

theorem addText_reports {text : Chars} (hocc : Occurs source.text pos (.text text))
    (hstack : ∀ element ∈ state.heads, element.Grounded source)
    (h : state.addText source options pos text = .ok state') :
    Reports source pos text.length state state' := by
  have hkept := State.heads_reached pos text.length hstack
  rcases addText_cases h with ⟨hc, rfl⟩ | ⟨-, -, -, rfl⟩ | ⟨-, binding, problems, hi, rfl⟩
  · refine ⟨⟨_, rfl, ?_⟩, hkept⟩
    rw [List.forall_mem_singleton]
    exact ⟨hocc.isAt.sound (hocc.isAbout_unterminatedComment hc), .inl (hocc.startsIn _)⟩
  · exact ⟨⟨[], (List.append_nil _).symm, by simp⟩, hkept⟩
  · refine ⟨⟨problems, by simp, fun problem hp => ?_⟩, by simpa using hkept⟩
    have hwithin := interpolateAt_within hocc.hasAt hi problem hp
    exact ⟨hwithin.sound, .inl hwithin.starts⟩

theorem StartTag.attributes_inside (pos : Nat) (tag : StartTag) :
    pos + 1 + tag.name.length + (writtenAttributes tag.attributes).length ≤
      pos + tag.written.length := by
  simp only [StartTag.written, List.length_cons, List.length_append]
  omega

theorem openElement_reports {tag : StartTag}
    (hocc : Occurs source.text pos (.construct (.startTag tag)))
    (hstack : ∀ element ∈ state.heads, element.Grounded source)
    (h : state.openElement source pos tag = .ok state') :
    Reports source pos tag.written.length state state' := by
  have hkept := State.heads_reached pos tag.written.length hstack
  obtain ⟨entries, problems, he, hcases⟩ := openElement_cases h
  have hopened := StartTag.element_openedBy hocc he
  have hown : ∀ problem ∈ problems, problem.Sound source ∧
      state.Reaches pos tag.written.length problem.span := by
    intro problem hp
    have hinside := tagEntries_within (StartTag.hasAt_attributes hocc.hasAt) he problem hp
    have hwithin : problem.Within source pos tag.written.length :=
      hinside.mono (by omega) (tag.attributes_inside pos)
    exact ⟨hwithin.sound, .inl hwithin.starts⟩
  rcases hcases with ⟨-, rfl⟩ | ⟨hleaf, rfl⟩
  · refine ⟨⟨problems ++ ((tag.element source pos entries).finish source none).2,
      by simp [List.append_assoc], ?_⟩, by simpa using hkept⟩
    refine List.forall_mem_append.mpr ⟨hown, fun problem hp => ?_⟩
    obtain ⟨hsound, hspan⟩ := hopened.finish_sound problem hp
    exact ⟨hsound, .inl (hspan ▸ hocc.startsIn _)⟩
  · refine ⟨⟨problems, rfl, hown⟩, ?_⟩
    exact List.forall_mem_cons.mpr ⟨⟨⟨tag, hopened, hleaf⟩, .inl (hocc.startsIn _)⟩, hkept⟩

theorem closeElement_reports {name tail : Chars}
    (hocc : Occurs source.text pos (.construct (.endTag name tail)))
    (hstack : ∀ element ∈ state.heads, element.Grounded source) :
    Reports source pos (Construct.endTag name tail).written.length state
      (state.closeElement source name
        (source.span pos (pos + (Construct.endTag name tail).written.length))) := by
  have hkept := State.heads_reached pos (Construct.endTag name tail).written.length hstack
  have hclosing := hocc.isAt
  have hstarts := hocc.startsIn (pos + (Construct.endTag name tail).written.length)
  simp only [Piece.written] at hclosing hstarts
  generalize source.span pos (pos + (Construct.endTag name tail).written.length) = closing
    at hclosing hstarts ⊢
  rcases closeElement_cases state source name closing with ⟨top, rest, hs, -, he⟩ | ⟨-, he⟩
  · have hheads : state.heads = top.head :: rest.map OpenElement.head := by
      rw [State.heads, hs, List.map_cons]
    rw [hheads, List.forall_mem_cons] at hkept
    obtain ⟨⟨⟨tag, hopened, -⟩, -⟩, hrest⟩ := hkept
    have htop : top.OpenedBy source tag := ⟨hopened.opening, hopened.name, hopened.vars⟩
    rw [he]
    refine ⟨⟨(top.finish source (some closing)).2, by simp, fun problem hp => ?_⟩, ?_⟩
    · obtain ⟨hsound, hspan⟩ := htop.finish_sound problem hp
      exact ⟨hsound, .inr ⟨top.head, hheads ▸ .head _, hspan⟩⟩
    · rw [State.heads_append, State.heads_report]
      exact hrest
  · rw [he]
    refine ⟨⟨_, rfl, ?_⟩, hkept⟩
    rw [List.forall_mem_singleton]
    exact ⟨hclosing.sound ⟨tail, hclosing, hocc.formed⟩, .inl hstarts⟩

theorem step_reports (hocc : Occurs source.text pos piece)
    (hstack : ∀ element ∈ state.heads, element.Grounded source)
    (h : state.step source options pos piece = .ok state') :
    Reports source pos piece.written.length state state' := by
  cases piece with
  | text value => exact addText_reports hocc hstack h
  | construct c =>
    cases c with
    | startTag tag => exact openElement_reports hocc hstack h
    | endTag name tail =>
      rw [step_endTag] at h
      cases h
      exact closeElement_reports hocc hstack
    | comment value =>
      rw [step_comment] at h
      cases h
      exact ⟨⟨[], (List.append_nil _).symm, by simp⟩, State.heads_reached _ _ hstack⟩

-- ---------------------------------------------------------------------------
-- A whole run
-- ---------------------------------------------------------------------------

theorem Reports.trans {mid : State} {length length' : Nat}
    (h : Reports source pos length state mid)
    (h' : Reports source (pos + length) length' mid state') :
    Reports source pos (length + length') state state' := by
  have hreach {span : Span} (hs : state.Reaches pos length span) :
      state.Reaches pos (length + length') span := by
    exact hs.imp_left fun hstarts => Span.startsIn_mono hstarts le_rfl (by omega)
  have hreach' {span : Span} (hs : mid.Reaches (pos + length) length' span) :
      state.Reaches pos (length + length') span := by
    rcases hs with hstarts | ⟨element, he, rfl⟩
    · exact .inl (Span.startsIn_mono hstarts (by omega) (by omega))
    · exact hreach (h.stack element he).2
  obtain ⟨new, hnew, hsound⟩ := h.problems
  obtain ⟨new', hnew', hsound'⟩ := h'.problems
  refine ⟨⟨new ++ new', by rw [hnew', hnew, List.append_assoc], ?_⟩, fun element he => ?_⟩
  · exact List.forall_mem_append.mpr
      ⟨fun problem hp => (hsound problem hp).imp_right hreach,
        fun problem hp => (hsound' problem hp).imp_right hreach'⟩
  · exact (h'.stack element he).imp_right hreach'

theorem run_reports {before middle after : List Piece}
    (hp : pieces source.text = before ++ (middle ++ after))
    (hpos : (before.flatMap Piece.written).length = pos)
    (hstack : ∀ element ∈ state.heads, element.Grounded source)
    (h : state.run source options pos middle = .ok state') :
    Reports source pos (middle.flatMap Piece.written).length state state' := by
  induction middle generalizing before pos state with
  | nil =>
    cases h
    exact ⟨⟨[], (List.append_nil _).symm, by simp⟩, State.heads_reached _ _ hstack⟩
  | cons piece rest ih =>
    obtain ⟨mid, hs, hr⟩ := bind_eq_ok.mp h
    have hstep := step_reports ⟨before, rest ++ after, hp, hpos⟩ hstack hs
    have hp : pieces source.text = (before ++ [piece]) ++ (rest ++ after) := by simpa using hp
    rw [List.flatMap_cons, List.length_append]
    refine hstep.trans (ih hp ?_ ?_ hr)
    · simp [hpos]
    · exact fun element he => (hstep.stack element he).1

theorem run_append (xs ys : List Piece) :
    state.run source options pos (xs ++ ys) = (do
      let mid ← state.run source options pos xs
      mid.run source options (pos + (xs.flatMap Piece.written).length) ys) := by
  induction xs generalizing pos state with
  | nil => rfl
  | cons piece rest ih =>
    simp only [List.cons_append, State.run, List.flatMap_cons, List.length_append]
    cases state.step source options pos piece with
    | error e => rfl
    | ok mid =>
      simp only [bind, Except.bind] at ih ⊢
      rw [ih, Nat.add_assoc]

def State.Apart (state : State) (pos length : Nat) : Prop :=
  ∀ element ∈ state.heads, element.opening.startsIn pos length = false

theorem State.Reaches.apart {length pos' length' : Nat} {span : Span}
    (h : state.Reaches pos length span) (hapart : state.Apart pos' length')
    (hbeside : pos + length ≤ pos' ∨ pos' + length' ≤ pos) :
    span.startsIn pos' length' = false := by
  rcases h with hstarts | ⟨element, he, rfl⟩
  · exact Span.startsIn_apart hstarts hbeside
  · exact hapart element he

/-- Reading beside a stretch reports nothing in it. -/
theorem Reports.apart {length pos' length' : Nat} (h : Reports source pos length state state')
    (hapart : state.Apart pos' length')
    (hbeside : pos + length ≤ pos' ∨ pos' + length' ≤ pos) :
    state'.Apart pos' length' ∧
      startingIn pos' length' state'.problems = startingIn pos' length' state.problems := by
  obtain ⟨new, hnew, hsound⟩ := h.problems
  refine ⟨fun element he => (h.stack element he).2.apart hapart hbeside, ?_⟩
  have hnone : startingIn pos' length' new = [] :=
    startingIn_eq_nil fun problem hp => (hsound problem hp).2.apart hapart hbeside
  rw [hnew, startingIn_append, hnone, List.append_nil]

theorem finish_apart {length : Nat} (hapart : state.Apart pos length) :
    startingIn pos length state.finish.problems = startingIn pos length state.problems := by
  have hnone : startingIn pos length (state.stack.map fun element =>
      ⟨.unclosedElement element.name, element.opening⟩) = [] := by
    refine startingIn_eq_nil fun problem hp => ?_
    obtain ⟨element, he, rfl⟩ := List.mem_map.mp hp
    exact hapart element.head (List.mem_map_of_mem he)
  rw [State.finish, State.problems_report, startingIn_append, hnone, List.append_nil]

theorem run_startingIn {start length : Nat} {expected : List Problem} {last : State}
    (hocc : Occurs source.text pos piece)
    (hinside : pos ≤ start ∧ start + length ≤ pos + piece.written.length)
    (hstep : ∀ {s s' : State}, s.step source options pos piece = .ok s' →
      startingIn start length s'.problems = startingIn start length s.problems ++ expected ∧
      (s.Apart start length → s'.Apart start length))
    (h : ({} : State).run source options 0 (pieces source.text) = .ok last) :
    startingIn start length last.finish.problems = expected := by
  obtain ⟨before, after, hp, rfl⟩ := hocc
  have hrun := h
  rw [hp, run_append, bind_eq_ok] at hrun
  obtain ⟨first, hfirst, hrest⟩ := hrun
  obtain ⟨second, hsecond, hrest⟩ := bind_eq_ok.mp hrest
  rw [Nat.zero_add] at hsecond hrest
  have hnone : ({} : State).Apart start length := by simp [State.Apart, State.heads]
  have hempty : ∀ element ∈ ({} : State).heads, element.Grounded source := by
    simp [State.heads]
  have hbefore : Reports source 0 (before.flatMap Piece.written).length {} first :=
    run_reports (show pieces source.text = [] ++ _ from hp) rfl hempty hfirst
  have hmiddle := step_reports ⟨before, after, hp, rfl⟩
    (fun element he => (hbefore.stack element he).1) hsecond
  obtain ⟨hapart, hfirst⟩ := hbefore.apart hnone (.inl (by omega))
  obtain ⟨hsame, hapart⟩ := (hstep hsecond).imp_right (· hapart)
  have hp : pieces source.text = (before ++ [piece]) ++ (after ++ []) := by simpa using hp
  have hafter := run_reports hp (by simp)
    (fun element he => (hmiddle.stack element he).1) hrest
  obtain ⟨hapart, hlast⟩ := hafter.apart hapart (.inr hinside.2)
  rw [finish_apart hapart, hlast, hsame, hfirst]
  rfl

-- ---------------------------------------------------------------------------
-- Texts and plain values
-- ---------------------------------------------------------------------------

def textProblems (source : Source) (pos : Nat) (text : Chars) : List Problem :=
  if Text.contains commentOpening text then
    [⟨.unterminatedComment, source.span pos (pos + text.length)⟩]
  else markerProblems source pos text

theorem firstError?_of_allBlank {offset : Int} {text : Chars} (h : Text.allBlank text = true) :
    firstError? offset text = none := by
  rw [firstError?, sources_of_allBlank h]
  rfl

theorem addText_problems {text : Chars} (h : state.addText source options pos text = .ok state') :
    state'.problems = state.problems ++ textProblems source pos text ∧
      state'.heads = state.heads := by
  unfold textProblems
  rcases addText_cases h with ⟨hc, rfl⟩ | ⟨hc, -, hb, rfl⟩ | ⟨hc, binding, problems, hi, rfl⟩
  · simp [hc]
  · simp [hc, markerProblems, firstError?_of_allBlank hb]
  · simp [hc, interpolateAt_problems hi]

theorem textProblems_startingIn {text : Chars} (hocc : Occurs source.text pos (.text text)) :
    startingIn pos text.length (textProblems source pos text) = textProblems source pos text := by
  refine List.filter_eq_self.mpr fun problem hp => ?_
  unfold textProblems at hp
  split at hp
  · rw [List.mem_singleton.mp hp]
    exact hocc.startsIn _
  · exact (markerProblems_within hocc.hasAt problem hp).starts

theorem startingIn_text {text : Chars} {last : State}
    (hocc : Occurs source.text pos (.text text))
    (h : ({} : State).run source options 0 (pieces source.text) = .ok last) :
    startingIn pos text.length last.finish.problems = textProblems source pos text := by
  refine run_startingIn hocc ⟨le_rfl, le_rfl⟩ ?_ h
  intro s s' hs
  obtain ⟨hproblems, hheads⟩ := addText_problems hs
  refine ⟨?_, fun hapart => ?_⟩
  · rw [hproblems, startingIn_append, textProblems_startingIn hocc]
  · rwa [State.Apart, hheads]

theorem startingIn_plain {tag : StartTag} {attr : PlacedAttribute} {last : State}
    (hocc : Occurs source.text pos (.construct (.startTag tag)))
    (ha : attr ∈ placeAttributes source (pos + 1 + tag.name.length) tag.attributes)
    (hf : Form.ofName attr.name = .plain)
    (h : ({} : State).run source options 0 (pieces source.text) = .ok last) :
    startingIn attr.valueStart attr.value.length last.finish.problems =
      markerProblems source attr.valueStart attr.value := by
  have hvalue := placeAttributes_inside ha
  have htag := tag.attributes_inside pos
  -- The tag itself starts before the value.
  have hbefore (stop : Int) :
      (source.span pos stop).startsIn attr.valueStart attr.value.length = false := by
    rw [← Bool.not_eq_true, Span.startsIn_iff, hocc.hasAt.span_start]
    omega
  refine run_startingIn hocc ⟨by omega, htag.trans' hvalue.2⟩ ?_ h
  intro s s' hs
  obtain ⟨entries, problems, he, hcases⟩ := openElement_cases hs
  have hplain := tagEntries_plain (StartTag.hasAt_attributes hocc.hasAt) ha hf he
  rcases hcases with ⟨-, rfl⟩ | ⟨-, rfl⟩
  · have hopened := StartTag.element_openedBy hocc he
    have hfinish : startingIn attr.valueStart attr.value.length
        ((tag.element source pos entries).finish source none).2 = [] :=
      startingIn_eq_nil fun problem hp => (hopened.finish_sound problem hp).2 ▸ hbefore _
    refine ⟨?_, fun hapart => by simpa [State.Apart] using hapart⟩
    simp only [State.problems_append, State.problems_report, startingIn_append, hplain, hfinish,
      List.append_nil]
  · refine ⟨?_, fun hapart => List.forall_mem_cons.mpr ⟨hbefore _, hapart⟩⟩
    show startingIn _ _ (s.problems ++ problems) = _
    rw [startingIn_append, hplain]

theorem sound_of_run {last : State}
    (h : ({} : State).run source options 0 (pieces source.text) = .ok last) :
    ∀ problem ∈ last.finish.problems, problem.Sound source := by
  have hall : pieces source.text = [] ++ (pieces source.text ++ []) := by simp
  have hempty : ∀ element ∈ ({} : State).heads, element.Grounded source := by
    simp [State.heads]
  have hreports := run_reports hall rfl hempty h
  obtain ⟨new, hnew, hsound⟩ := hreports.problems
  rw [State.finish, State.problems_report, hnew, List.nil_append, List.forall_mem_append]
  refine ⟨fun problem hp => (hsound problem hp).1, fun problem hp => ?_⟩
  obtain ⟨element, he, rfl⟩ := List.mem_map.mp hp
  obtain ⟨⟨tag, hopened, hleaf⟩, -⟩ := hreports.stack element.head (List.mem_map_of_mem he)
  exact hopened.opening.sound ⟨tag, hopened.opening, hopened.name.symm, hleaf⟩

end

end Markup

-- ---------------------------------------------------------------------------
-- Issues
-- ---------------------------------------------------------------------------

open Markup

/-- The issue has a span inside the source, and whatever its message speaks of is
what the span covers. -/
structure Issue.PointsAt (source : Source) (issue : Issue) (span : Span) : Prop where
  located : issue.span = some span
  ordered : span.start.offset ≤ span.stop.offset
  inside : span.stop.offset ≤ source.text.length
  known : ∃ cause : Cause, issue.message = cause.message
  about : ∀ cause : Cause, issue.message = cause.message → cause.IsAbout source span

theorem Markup.Problem.Sound.pointsAt {source : Source} {problem : Problem}
    (h : problem.Sound source) : problem.toIssue.PointsAt source problem.span where
  located := rfl
  ordered := h.ordered
  inside := h.inside
  known := ⟨problem.cause, rfl⟩
  about := fun _ hmessage => Cause.isAbout_of_message_eq hmessage.symm h.about

def issuesIn (pos length : Nat) (issues : List Issue) : List Issue :=
  issues.filter fun issue => issue.span.any (Span.startsIn pos length)

theorem issuesIn_map (pos length : Nat) (problems : List Problem) :
    issuesIn pos length (problems.map Problem.toIssue) =
      (startingIn pos length problems).map Problem.toIssue := by
  rw [issuesIn, List.filter_map]
  rfl

theorem parseTemplate_issues {code : Chars} {url : String} {options : ParseOptions}
    {issues : List Issue} (h : parseTemplate code url options = .error (.issues issues)) :
    ∃ last, State.run (Source.ofText code url) options 0 {} (pieces code) = .ok last ∧
      issues = last.finish.problems.map Problem.toIssue := by
  unfold parseTemplate at h
  dsimp only at h
  split at h
  · cases h
  · rename_i last hrun
    split at h
    · cases h
    · cases h
      exact ⟨last, hrun, rfl⟩

/-- The issues of a refused template point at what they are about. Those that
start in a text are an opened comment or the leftmost bad marker of the text,
and those in a plain value are its leftmost bad marker. -/
theorem parseTemplate_issues_point {code : Chars} {url : String} {options : ParseOptions}
    {issues : List Issue} (h : parseTemplate code url options = .error (.issues issues)) :
    (∀ issue ∈ issues, ∃ span, issue.PointsAt (Source.ofText code url) span) ∧
    (∀ pos text, Occurs code pos (.text text) →
      issuesIn pos text.length issues =
        (textProblems (Source.ofText code url) pos text).map Problem.toIssue) ∧
    (∀ pos tag, Occurs code pos (.construct (.startTag tag)) →
      ∀ attr ∈ placeAttributes (Source.ofText code url) (pos + 1 + tag.name.length)
        tag.attributes, Form.ofName attr.name = .plain →
      issuesIn attr.valueStart attr.value.length issues =
        (markerProblems (Source.ofText code url) attr.valueStart attr.value).map
          Problem.toIssue) := by
  obtain ⟨last, hrun, rfl⟩ := parseTemplate_issues h
  refine ⟨fun issue hi => ?_, fun pos text hocc => ?_, fun pos tag hocc attr ha hf => ?_⟩
  · obtain ⟨problem, hp, rfl⟩ := List.mem_map.mp hi
    exact ⟨problem.span, (sound_of_run hrun problem hp).pointsAt⟩
  · rw [issuesIn_map, startingIn_text hocc hrun]
  · rw [issuesIn_map, startingIn_plain hocc ha hf hrun]

def issues? : Except TemplateError ParsedTemplate → Option (List Issue)
  | .error (.issues issues) => some issues
  | _ => none

theorem issues?_eq_some {result : Except TemplateError ParsedTemplate} {issues : List Issue}
    (h : issues? result = some issues) : result = .error (.issues issues) := by
  unfold issues? at h
  split at h
  · cases h
    rfl
  · cases h

/-- A template with an issue of each sort. Both its plain value and its first text have two bad
markers; the text is reported for the first one. -/
theorem parseTemplate_issues_point_each :
    let code := ("<b let-x/><i t=\"\x7b\x7b \x7d\x7d\x7b\x7b ( \x7d\x7d\">" ++
      "\x7b\x7b a + \x7d\x7d\x7b\x7b \x7d\x7d</u><!-- x").toList
    ∃ issues, parseTemplate code "" {} = .error (.issues issues) ∧ issues.length = 6 ∧
      (∀ issue ∈ issues, ∃ span, issue.PointsAt (Source.ofText code "") span) ∧
      (issuesIn 30 14 issues).map (·.span.map (·.start.offset)) = [some 32] := by
  intro code
  have hsix : (issues? (parseTemplate code "" {})).map List.length = some 6 := by
    decide +kernel
  obtain ⟨issues, hissues, hlength⟩ := Option.map_eq_some_iff.mp hsix
  have hrefused := issues?_eq_some hissues
  obtain ⟨hpoint, htexts, -⟩ := parseTemplate_issues_point hrefused
  have htext : Occurs code 30
      (.text "\x7b\x7b a + \x7d\x7d\x7b\x7b \x7d\x7d".toList) :=
    ⟨(pieces code).take 2, (pieces code).drop 3, by decide +kernel, by decide +kernel⟩
  refine ⟨issues, hrefused, hlength, hpoint, ?_⟩
  exact (congrArg (List.map _) (htexts 30 _ htext)).trans (by decide +kernel)

end TemplateTree
