import TemplateTree.Proofs.Occurrence

/-!
# What problems are about

The text that a problem has to point at, by its cause. A fault of a binding or
of a marker is reported where its text stands, and inside the value or the text
that it was found in; of several bad markers the leftmost one is reported.
-/

namespace TemplateTree

open Text (Chars isBlank)
open Expression (BindingError bind_eq_ok bind_eq_error)

-- ---------------------------------------------------------------------------
-- Bad markers
-- ---------------------------------------------------------------------------

/-- What a reading has found wrong, unless an oversized literal stopped it. -/
def bindingError? {α : Type} : Except Expression.Failure α → Option BindingError
  | .error (.binding error) => some error
  | _ => none

theorem bindingError?_eq_some {α : Type} {result : Except Expression.Failure α}
    {error : BindingError} :
    bindingError? result = some error ↔ result = .error (.binding error) := by
  unfold bindingError?
  split <;> simp_all

def markerError? (offset : Int) (marker : Chars × Nat) : Option BindingError :=
  if Text.allBlank marker.1 then some ⟨.blankMarker, marker.1, offset + marker.2⟩
  else bindingError? (Expr.parse marker.1 (offset + marker.2))

def firstError? (offset : Int) (text : Chars) : Option BindingError :=
  ((Segments.ofText text).sources 0).findSome? (markerError? offset)

section
variable {offset : Int} {text : Chars}

theorem parseMarkers_findSome? {sources : List (Chars × Nat)}
    (h : Binding.parseMarkers offset sources ≠ .error .oversizedInteger) :
    bindingError? (Binding.parseMarkers offset sources) =
      sources.findSome? (markerError? offset) := by
  induction sources with
  | nil => rfl
  | cons marker rest ih =>
    obtain ⟨source, start⟩ := marker
    unfold Binding.parseMarkers at h ⊢
    rw [List.findSome?_cons]
    cases hb : Text.allBlank source with
    | true => simp [markerError?, hb, bindingError?, bind, Except.bind, throw, throwThe,
        MonadExceptOf.throw]
    | false =>
      simp only [markerError?, hb] at h ⊢
      cases hp : Expr.parse source (offset + start) with
      | error failure =>
        rw [hp] at h
        cases failure with
        | binding error => rfl
        | oversizedInteger => exact absurd rfl h
      | ok expr =>
        rw [hp] at h
        cases hr : Binding.parseMarkers offset rest with
        | error failure =>
          rw [hr] at ih h
          exact ih h
        | ok more =>
          rw [hr] at ih
          exact ih (by rintro ⟨⟩)

theorem parseInterpolation_firstError? {location : String}
    (h : Binding.parseInterpolation text location offset ≠ .error .oversizedInteger) :
    bindingError? (Binding.parseInterpolation text location offset) = firstError? offset text := by
  obtain ⟨f, hf⟩ := parseInterpolation_eq text location offset
  rw [hf] at h ⊢
  rw [firstError?, ← parseMarkers_findSome?]
  · cases Binding.parseMarkers offset ((Segments.ofText text).sources 0) with
    | error failure => cases failure <;> rfl
    | ok es => rfl
  · intro hm
    rw [hm] at h
    exact h rfl

end

theorem parse_binding_error {text : Chars} {offset : Int} {error : BindingError}
    (h : Expr.parse text offset = .error (.binding error)) :
    Text.allBlank text = false ∧ ∃ cause, error = ⟨.invalid cause, text, offset⟩ := by
  unfold Expr.parse at h
  split at h
  · cases h
  · rename_i hb
    dsimp only at h
    split at h
    · cases h
      exact ⟨by simpa using hb, _, rfl⟩
    · split at h <;> cases h

theorem Source.hasAt_ofText (text : Chars) (url : String) :
    (Source.ofText text url).HasAt 0 text :=
  ⟨[], [], by simp [Source.ofText], rfl⟩

theorem Segments.hasAt_marker {source : Source} {pos start : Nat} {segments : Segments}
    (h : source.HasAt (pos + start) segments.written) :
    ∀ marker ∈ segments.sources start, ∃ mark, mark + 2 = marker.2 ∧
      source.HasAt (pos + mark) (opening ++ (marker.1 ++ closing)) := by
  induction segments generalizing start with
  | last text => simp [sources]
  | marker before body rest ih =>
    have hopened : opening.length = 2 := rfl
    have hclosed : closing.length = 2 := rfl
    have hwritten : (marker before body rest).written =
        before ++ ((opening ++ (body ++ closing)) ++ rest.written) := by
      simp [written]
    rw [hwritten] at h
    obtain ⟨hmarker, hrest⟩ := h.of_append.2.of_append
    simp only [List.length_append, hopened, hclosed] at hrest
    rw [sources, List.forall_mem_cons]
    refine ⟨⟨start + before.length, rfl, by rwa [← Nat.add_assoc]⟩, ih ?_⟩
    convert hrest using 1
    omega

namespace Markup

-- ---------------------------------------------------------------------------
-- Causes and their texts
-- ---------------------------------------------------------------------------

structure Piece.IsAt (source : Source) (span : Span) (piece : Piece) : Prop where
  occurs : Occurs source.text span.start.offset piece
  stop : span.stop.offset = span.start.offset + piece.written.length
  text : source.textOf span = piece.written

/-- The span covers the text that the cause speaks of. -/
def Cause.IsAbout (source : Source) (span : Span) : Cause → Prop
  | .unexpectedClosingTag name =>
    ∃ tail, (Piece.construct (.endTag name tail)).IsAt source span ∧ IsTagName name ∧
      ∀ c ∈ tail, isBlank c = true
  | .unclosedElement name =>
    ∃ tag : StartTag, (Piece.construct (.startTag tag)).IsAt source span ∧ tag.name = name ∧
      tag.isLeaf = false
  | .misplacedVariable =>
    ∃ tag : StartTag, (Piece.construct (.startTag tag)).IsAt source span ∧
      tag.DeclaresVariables ∧ tag.name ≠ templateTag
  | .unterminatedComment =>
    commentOpening <:+: source.textOf span ∧
    ∀ before rest, source.text = before ++ (commentOpening ++ rest) →
      span.start.offset ≤ before.length → before.length < span.stop.offset →
      ¬ commentClosing <:+: rest
  | .binding ⟨.invalid cause, text, _⟩ =>
    Text.trim (source.textOf span) = Text.trim text ∧
    Text.allBlank (source.textOf span) = false ∧
    Expr.parse (source.textOf span) span.start.offset =
      .error (.binding ⟨.invalid cause, source.textOf span, span.start.offset⟩)
  | .binding ⟨.blankMarker, _, _⟩ =>
    Text.allBlank (source.textOf span) = true ∧
    ∃ before after, source.text =
        before ++ (Segments.opening ++ (source.textOf span ++ (Segments.closing ++ after))) ∧
      before.length + 2 = span.start.offset

structure Problem.Sound (source : Source) (problem : Problem) : Prop where
  ordered : problem.span.start.offset ≤ problem.span.stop.offset
  inside : problem.span.stop.offset ≤ source.text.length
  about : problem.cause.IsAbout source problem.span

end Markup

def Span.startsIn (pos length : Nat) (span : Span) : Bool :=
  pos ≤ span.start.offset && span.start.offset < pos + length

theorem Span.startsIn_iff {span : Span} {pos length : Nat} : span.startsIn pos length = true ↔
    pos ≤ span.start.offset ∧ span.start.offset < pos + length := by
  simp [startsIn]

section
variable {span : Span} {pos length pos' length' : Nat}

theorem Span.startsIn_mono (h : span.startsIn pos length = true) (hstart : pos' ≤ pos)
    (hstop : pos + length ≤ pos' + length') : span.startsIn pos' length' = true := by
  rw [startsIn_iff] at h ⊢
  omega

theorem Span.startsIn_apart (h : span.startsIn pos length = true)
    (hapart : pos + length ≤ pos' ∨ pos' + length' ≤ pos) :
    span.startsIn pos' length' = false := by
  rw [startsIn_iff] at h
  rw [← Bool.not_eq_true, startsIn_iff]
  omega

end

namespace Markup

variable {source : Source} {pos length : Nat} {body text : Chars}

theorem sound_of_hasAt {cause : Cause} (h : source.HasAt pos body)
    (ha : cause.IsAbout source (source.span pos (pos + body.length))) :
    Problem.Sound source ⟨cause, source.span pos (pos + body.length)⟩ := by
  have hle := h.le_length
  refine ⟨?_, ?_, ha⟩
  · rw [h.span_start, h.span_stop]
    exact Nat.le_add_right _ _
  · rwa [h.span_stop]

structure Problem.Within (source : Source) (pos length : Nat) (problem : Problem) : Prop where
  sound : problem.Sound source
  starts : problem.span.startsIn pos length = true

theorem Problem.Within.mono {problem : Problem} {pos' length' : Nat}
    (h : problem.Within source pos length) (hstart : pos' ≤ pos)
    (hstop : pos + length ≤ pos' + length') : problem.Within source pos' length' :=
  ⟨h.sound, Span.startsIn_mono h.starts hstart hstop⟩

def startingIn (pos length : Nat) (problems : List Problem) : List Problem :=
  problems.filter fun problem => problem.span.startsIn pos length

section
variable {problems : List Problem}

theorem startingIn_append (pos length : Nat) (problems others : List Problem) :
    startingIn pos length (problems ++ others) =
      startingIn pos length problems ++ startingIn pos length others :=
  List.filter_append ..

theorem startingIn_eq_self (h : ∀ problem ∈ problems, problem.Within source pos length) :
    startingIn pos length problems = problems :=
  List.filter_eq_self.mpr fun problem hp => (h problem hp).starts

theorem startingIn_eq_nil
    (h : ∀ problem ∈ problems, problem.span.startsIn pos length = false) :
    startingIn pos length problems = [] :=
  List.filter_eq_nil_iff.mpr fun problem hp => by simp [h problem hp]

end

-- ---------------------------------------------------------------------------
-- Faults of bindings and markers
-- ---------------------------------------------------------------------------

def bindingProblem (source : Source) (error : BindingError) : Problem :=
  ⟨.binding error, source.span error.offset (error.offset + error.source.length)⟩

theorem within_of_rejected {error : BindingError} (hat : source.HasAt pos text)
    (h : Expr.parse text pos = .error (.binding error)) :
    (bindingProblem source error).Within source pos text.length := by
  obtain ⟨hb, cause, rfl⟩ := parse_binding_error h
  have hne : text ≠ [] := by
    rintro rfl
    cases hb
  refine ⟨sound_of_hasAt hat ?_, ?_⟩
  · show Cause.IsAbout _ _ (.binding ⟨.invalid cause, text, pos⟩)
    simp only [Cause.IsAbout, hat.textOf_span, hat.span_start]
    exact ⟨trivial, hb, h⟩
  · rw [Span.startsIn_iff]
    simp only [bindingProblem, hat.span_start]
    exact ⟨le_rfl, Nat.lt_add_of_pos_right (List.length_pos_iff.mpr hne)⟩

theorem within_of_blankMarker {mark : Nat} (hb : Text.allBlank body = true)
    (hat : source.HasAt mark (Segments.opening ++ (body ++ Segments.closing))) :
    (bindingProblem source ⟨.blankMarker, body, (mark + 2 : Nat)⟩).Within source (mark + 2)
      (body.length + 1) := by
  have hbody : source.HasAt (mark + 2) body := hat.of_append.2.of_append.1
  refine ⟨sound_of_hasAt hbody ?_, ?_⟩
  · show Cause.IsAbout _ _ (.binding ⟨.blankMarker, body, (mark + 2 : Nat)⟩)
    simp only [Cause.IsAbout, hbody.textOf_span, hbody.span_start]
    obtain ⟨before, after, htext, rfl⟩ := hat
    exact ⟨hb, before, after, by simpa using htext, rfl⟩
  · rw [Span.startsIn_iff]
    simp only [bindingProblem, hbody.span_start]
    omega

theorem within_of_markerError? {marker : Chars × Nat} {error : BindingError}
    (hat : source.HasAt pos text) (hm : marker ∈ (Segments.ofText text).sources 0)
    (h : markerError? pos marker = some error) :
    (bindingProblem source error).Within source pos text.length := by
  -- The text is a source of its own, in which the marker ends before the text does.
  have hown : (Source.ofText text "").HasAt (0 + 0) (Segments.ofText text).written := by
    rw [Segments.written_ofText]
    exact Source.hasAt_ofText text ""
  have hopened : Segments.opening.length = 2 := rfl
  have hclosed : Segments.closing.length = 2 := rfl
  have hat : source.HasAt (pos + 0) (Segments.ofText text).written := by
    rwa [Segments.written_ofText]
  obtain ⟨body, start⟩ := marker
  obtain ⟨mark, hmark, hstands⟩ := Segments.hasAt_marker hat _ hm
  obtain ⟨mark', hmark', hfits⟩ := Segments.hasAt_marker hown _ hm
  have hle : 0 + mark' + _ ≤ text.length := hfits.le_length
  simp only [List.length_append, hopened, hclosed] at hle hmark hmark'
  subst hmark
  unfold markerError? at h
  dsimp only at h
  split at h
  · rename_i hb
    cases h
    exact (within_of_blankMarker hb hstands).mono (by omega) (by omega)
  · have hbody : source.HasAt (pos + mark + 2) body := hstands.of_append.2.of_append.1
    have hrejected := within_of_rejected hbody (bindingError?_eq_some.mp h)
    exact hrejected.mono (by omega) (by omega)

def markerProblems (source : Source) (pos : Nat) (text : Chars) : List Problem :=
  (firstError? pos text).toList.map (bindingProblem source)

theorem markerProblems_within (hat : source.HasAt pos text) :
    ∀ problem ∈ markerProblems source pos text, problem.Within source pos text.length := by
  intro problem hp
  obtain ⟨error, he, rfl⟩ := List.mem_map.mp hp
  obtain ⟨marker, hm, hmarker⟩ := List.exists_of_findSome?_eq_some (Option.mem_toList.mp he)
  exact within_of_markerError? hat hm hmarker

theorem interpolateAt_problems {binding : Option Binding} {problems : List Problem}
    (h : interpolateAt source text pos = .ok (binding, problems)) :
    problems = markerProblems source pos text := by
  have hfirst := @parseInterpolation_firstError? pos text (source.locationName pos)
  unfold interpolateAt at h
  split at h
  · rename_i hp
    cases h
    rw [hp] at hfirst
    simp [markerProblems, ← hfirst, bindingError?]
  · rename_i error hp
    cases h
    rw [hp] at hfirst
    simp [markerProblems, ← hfirst, bindingError?, bindingProblem]
  · cases h

theorem interpolateAt_within {binding : Option Binding} {problems : List Problem}
    (hat : source.HasAt pos text) (h : interpolateAt source text pos = .ok (binding, problems)) :
    ∀ problem ∈ problems, problem.Within source pos text.length := by
  rw [interpolateAt_problems h]
  exact markerProblems_within hat

def boundProblems (source : Source) (pos : Nat) (text : Chars) : List Problem :=
  (bindingError? (Expr.parse text pos)).toList.map (bindingProblem source)

theorem boundProblems_within (hat : source.HasAt pos text) :
    ∀ problem ∈ boundProblems source pos text, problem.Within source pos text.length := by
  intro problem hp
  obtain ⟨error, he, rfl⟩ := List.mem_map.mp hp
  exact within_of_rejected hat (bindingError?_eq_some.mp (Option.mem_toList.mp he))

theorem bindAt_problems {binding : Binding} {problems : List Problem}
    (h : bindAt source text pos = .ok (binding, problems)) :
    problems = boundProblems source pos text := by
  unfold bindAt at h
  dsimp only at h
  split at h
  · rename_i hp
    cases h
    obtain ⟨_, hp, -⟩ := bind_eq_ok.mp hp
    simp [boundProblems, hp, bindingError?]
  · rename_i error hp
    cases h
    have hrejected : Expr.parse text pos = .error (.binding error) := by
      rcases bind_eq_error.mp hp with he | ⟨_, -, h⟩
      · exact he
      · cases h
    obtain ⟨-, cause, rfl⟩ := parse_binding_error hrejected
    simp [boundProblems, hrejected, bindingError?, bindingProblem]
  · cases h

theorem bindAt_within {binding : Binding} {problems : List Problem}
    (hat : source.HasAt pos text) (h : bindAt source text pos = .ok (binding, problems)) :
    ∀ problem ∈ problems, problem.Within source pos text.length := by
  rw [bindAt_problems h]
  exact boundProblems_within hat

-- ---------------------------------------------------------------------------
-- Attributes
-- ---------------------------------------------------------------------------

theorem collect_problems {α : Type} {f : α → Check (Entries × List Problem)} {xs : List α}
    {P : Problem → Prop} {entries : Entries} {problems : List Problem}
    (hf : ∀ x ∈ xs, ∀ {e ps}, f x = .ok (e, ps) → ∀ problem ∈ ps, P problem)
    (h : collect f xs = .ok (entries, problems)) : ∀ problem ∈ problems, P problem := by
  induction xs generalizing entries problems with
  | nil =>
    cases h
    simp
  | cons x xs ih =>
    obtain ⟨hx, hxs⟩ := List.forall_mem_cons.mp hf
    simp only [collect, bind_eq_ok] at h
    obtain ⟨⟨e, ps⟩, he, ⟨more, others⟩, hm, h⟩ := h
    cases h
    exact List.forall_mem_append.mpr ⟨hx he, ih hxs hm⟩

theorem clauseEntries_within {directive run : Chars} {attr : PlacedAttribute} {index start : Nat}
    {entries : Entries} {problems : List Problem}
    (hat : source.HasAt (attr.valueStart + start) run)
    (h : clauseEntries source directive attr (index, start, run) = .ok (entries, problems)) :
    ∀ problem ∈ problems, problem.Within source (attr.valueStart + start) run.length := by
  have htext := hat.trim
  have hfits : 0 + (run.length - (Text.trimLeft run).length) + (Text.trim run).length ≤
    run.length := (Source.hasAt_ofText run "").trim.le_length
  have hends := Clause.ofText_endsIn (index == 0) (Text.trim run)
  unfold clauseEntries at h
  dsimp only at h
  generalize run.length - (Text.trimLeft run).length = blanks at h htext hfits
  split at h
  · cases h
    simp
  · cases hc : Clause.ofText (index == 0) (Text.trim run) with
    | assign name value | renamed key name =>
      rw [hc] at h
      cases h
      simp
    | forEach name key expression shift | keyed key expression shift =>
      rw [hc] at h hends
      obtain ⟨hsuffix, hshift⟩ := hends expression shift rfl
      have hexpr := htext.of_suffix hsuffix
      have hle := hsuffix.length_le
      rw [← hshift] at hexpr
      obtain ⟨⟨input, problems⟩, hi, h⟩ := bind_eq_ok.mp h
      obtain ⟨⟨binding, _⟩, hb, hi⟩ := bind_eq_ok.mp hi
      cases hi
      cases h
      exact fun problem hp => (bindAt_within hexpr hb problem hp).mono (by omega) (by omega)
    | plain =>
      rw [hc] at h
      obtain ⟨⟨input, problems⟩, hi, h⟩ := bind_eq_ok.mp h
      obtain ⟨⟨binding, _⟩, hb, hi⟩ := bind_eq_ok.mp hi
      cases hi
      cases h
      exact fun problem hp => (bindAt_within htext hb problem hp).mono (by omega) (by omega)

theorem directiveEntries_within {directive : Chars} {attr : PlacedAttribute} {entries : Entries}
    {problems : List Problem} (hat : attr.Stands source)
    (h : directiveEntries source directive attr = .ok (entries, problems)) :
    ∀ problem ∈ problems, problem.Within source attr.valueStart attr.value.length := by
  unfold directiveEntries at h
  split at h
  · obtain ⟨⟨binding, problems⟩, hb, h⟩ := bind_eq_ok.mp h
    cases h
    have hvalue : source.HasAt attr.valueStart ([] ++ attr.value) := hat.value
    intro problem hp
    exact (bindAt_within hvalue.of_append.1 hb problem hp).mono le_rfl (Nat.le_add_right _ _)
  · refine collect_problems ?_ h
    rintro ⟨index, start, run⟩ hr e ps he problem hp
    have hrun := mem_of_mem_numbered hr
    have hvalue : source.HasAt (attr.valueStart + 0) attr.value := hat.value
    have hown : (Source.ofText attr.value "").HasAt (0 + 0) attr.value :=
      Source.hasAt_ofText attr.value ""
    have hfits : 0 + start + run.length ≤ attr.value.length :=
      (hasAt_clauseRuns hown hrun).le_length
    exact (clauseEntries_within (hasAt_clauseRuns hvalue hrun) he problem hp).mono
      (by omega) (by omega)

theorem attributeEntries_within {attr : PlacedAttribute} {entries : Entries}
    {problems : List Problem} (hat : attr.Stands source)
    (h : attributeEntries source attr = .ok (entries, problems)) :
    ∀ problem ∈ problems, problem.Within source attr.valueStart attr.value.length := by
  unfold attributeEntries at h
  cases hf : Form.ofName attr.name with
  | twoWay name =>
    rw [hf] at h
    obtain ⟨⟨value, problems⟩, hv, h⟩ := bind_eq_ok.mp h
    obtain ⟨⟨handler, others⟩, hh, h⟩ := bind_eq_ok.mp h
    cases h
    exact List.forall_mem_append.mpr ⟨bindAt_within hat.value hv, bindAt_within hat.value hh⟩
  | property name | event name =>
    rw [hf] at h
    obtain ⟨⟨value, problems⟩, hv, h⟩ := bind_eq_ok.mp h
    cases h
    exact bindAt_within hat.value hv
  | directive name =>
    rw [hf] at h
    exact directiveEntries_within hat h
  | reference name | letVariable name =>
    rw [hf] at h
    cases h
    simp
  | plain =>
    rw [hf] at h
    obtain ⟨⟨binding, problems⟩, hi, h⟩ := bind_eq_ok.mp h
    cases binding <;> cases h <;> exact interpolateAt_within hat.value hi

theorem attributeEntries_plain {attr : PlacedAttribute} {entries : Entries}
    {problems : List Problem} (hf : Form.ofName attr.name = .plain)
    (h : attributeEntries source attr = .ok (entries, problems)) :
    problems = markerProblems source attr.valueStart attr.value := by
  unfold attributeEntries at h
  rw [hf] at h
  obtain ⟨⟨binding, problems⟩, hi, h⟩ := bind_eq_ok.mp h
  cases binding <;> cases h <;> exact interpolateAt_problems hi

-- ---------------------------------------------------------------------------
-- Tags
-- ---------------------------------------------------------------------------

theorem Attribute.place_inside (source : Source) (pos : Nat) (attr : Attribute) :
    pos ≤ (attr.place source pos).valueStart ∧
      (attr.place source pos).valueStart + (attr.place source pos).value.length ≤
        pos + attr.written.length := by
  cases hv : attr.value with
  | none =>
    simp only [place, valueText, written, hv, List.length_append, List.length_nil]
    omega
  | some a =>
    simp only [place, valueText, written, hv, Option.map_some, Option.getD_some,
      Assignment.written, List.length_append, List.length_cons]
    omega

theorem placeAttributes_inside {attributes : List Attribute} {attr : PlacedAttribute}
    (h : attr ∈ placeAttributes source pos attributes) : pos ≤ attr.valueStart ∧
      attr.valueStart + attr.value.length ≤ pos + (writtenAttributes attributes).length := by
  induction attributes generalizing pos with
  | nil => cases h
  | cons first rest ih =>
    rw [writtenAttributes, List.length_append]
    rcases List.mem_cons.mp h with rfl | h
    · have := first.place_inside source pos
      omega
    · have := ih h
      omega

theorem tagEntries_within {attributes : List Attribute} {entries : Entries}
    {problems : List Problem} (hat : source.HasAt pos (writtenAttributes attributes))
    (h : tagEntries source pos attributes = .ok (entries, problems)) :
    ∀ problem ∈ problems,
      problem.Within source pos (writtenAttributes attributes).length := by
  refine collect_problems ?_ h
  intro attr ha e ps he problem hp
  obtain ⟨hlow, hhigh⟩ := placeAttributes_inside ha
  exact (attributeEntries_within (placeAttributes_stand hat attr ha) he problem hp).mono hlow hhigh

theorem tagEntries_plain {attributes : List Attribute} {attr : PlacedAttribute}
    {entries : Entries} {problems : List Problem}
    (hat : source.HasAt pos (writtenAttributes attributes))
    (ha : attr ∈ placeAttributes source pos attributes) (hf : Form.ofName attr.name = .plain)
    (h : tagEntries source pos attributes = .ok (entries, problems)) :
    startingIn attr.valueStart attr.value.length problems =
      markerProblems source attr.valueStart attr.value := by
  induction attributes generalizing pos entries problems with
  | nil => cases ha
  | cons first rest ih =>
    obtain ⟨hfirst, hrest⟩ := hat.of_append
    obtain ⟨⟨e, ps⟩, he, h⟩ := bind_eq_ok.mp h
    obtain ⟨⟨more, others⟩, hm, h⟩ := bind_eq_ok.mp h
    cases h
    have hwithin := attributeEntries_within (first.place_stands hfirst) he
    have hplace := first.place_inside source pos
    rw [startingIn_append]
    rcases List.mem_cons.mp ha with rfl | ha
    · have hothers := startingIn_eq_nil fun problem hp =>
        Span.startsIn_apart (tagEntries_within hrest hm problem hp).starts (.inr hplace.2)
      rw [startingIn_eq_self hwithin, hothers, List.append_nil]
      exact attributeEntries_plain hf he
    · have hbehind := placeAttributes_inside ha
      have hps : startingIn attr.valueStart attr.value.length ps = [] :=
        startingIn_eq_nil fun problem hp =>
          Span.startsIn_apart (hwithin problem hp).starts (.inl (hplace.2.trans hbehind.1))
      rw [hps, List.nil_append]
      exact ih hrest ha hm

end Markup

end TemplateTree
